import DwSuperApps.Source.ChildContract

/-!
# Source references in the mailbox and in child contracts

The mailbox schema and the normalizer of the child contracts each have a grammar of
source references. The schema anchors its patterns with `$`, which lets one line feed
follow, and says little of paths; the normalizer leaves the letter s out of repositories
instead of white space.

* `normalizes_iff`, `conforms_iff`: either grammar, field by field;
* `agrees_iff`: the references the two disagree on, exactly.
-/
namespace DwSuperApps.Guarantees.SourceGrammar

open DwSuperApps.Lib DwSuperApps.Lib.Checked
open DwSuperApps.Source.Envelope DwSuperApps.Source.Children

/-! ## Pairs around a slash -/

/-- A slash between two non-empty texts without one. -/
def Pair (l : List Char) : Prop :=
  ∃ owner name, l = owner ++ '/' :: name ∧ owner ≠ [] ∧ name ≠ [] ∧ '/' ∉ owner ∧ '/' ∉ name

theorem slashPair_iff {inClass : Char → Bool} (slash : inClass '/' = true) {l : List Char} :
    slashPair inClass l = true ↔ Pair l ∧ ∀ c ∈ l, inClass c = true := by
  unfold slashPair
  dsimp only
  constructor
  · intro matched
    simp only [Bool.and_eq_true, decide_eq_true_eq, List.all_eq_true] at matched
    obtain ⟨⟨⟨inside, owned⟩, named⟩, all⟩ := matched
    have split : l = l.takeWhile (· ≠ '/') ++ '/' :: (l.dropWhile (· ≠ '/')).drop 1 := by
      cases rest : l.dropWhile (· ≠ '/') with
      | nil =>
        have none := List.dropWhile_eq_nil_iff.mp rest '/' inside
        simp at none
      | cons c tail =>
        have first := List.head?_dropWhile_not (· ≠ '/') l
        rw [rest] at first
        have slashed : c = '/' := by simpa using first
        conv_lhs => rw [← List.takeWhile_append_dropWhile (p := (· ≠ '/')) (l := l), rest]
        rw [slashed]
        rfl
    refine ⟨⟨_, _, split, owned, named, ?_, ?_⟩, ?_⟩
    · intro here
      exact (all '/' (List.mem_append_left _ here)).1 rfl
    · intro here
      exact (all '/' (List.mem_append_right _ here)).1 rfl
    · intro c member
      rw [split] at member
      rcases List.mem_append.mp member with front | back
      · exact (all c (List.mem_append_left _ front)).2
      · rcases List.mem_cons.mp back with rfl | back
        · exact slash
        · exact (all c (List.mem_append_right _ back)).2
  · rintro ⟨⟨owner, name, rfl, owned, named, ownerClear, nameClear⟩, all⟩
    have front : (owner ++ '/' :: name).takeWhile (· ≠ '/') = owner := by
      rw [List.takeWhile_append_of_pos]
      · simp
      · intro c member
        have apart : c ≠ '/' := fun same => ownerClear (same ▸ member)
        simpa using apart
    have back : (owner ++ '/' :: name).dropWhile (· ≠ '/') = '/' :: name := by
      rw [List.dropWhile_append_of_pos]
      · simp
      · intro c member
        have apart : c ≠ '/' := fun same => ownerClear (same ▸ member)
        simpa using apart
    rw [front, back]
    simp only [Bool.and_eq_true, decide_eq_true_eq, List.all_eq_true, List.drop_succ_cons, List.drop_zero]
    refine ⟨⟨⟨List.mem_append_right _ List.mem_cons_self, owned⟩, named⟩, ?_⟩
    intro c member
    rcases List.mem_append.mp member with front | back
    · exact ⟨fun same => ownerClear (same ▸ front), all c (List.mem_append_left _ front)⟩
    · exact ⟨fun same => nameClear (same ▸ back),
        all c (List.mem_append_right _ (List.mem_cons_of_mem _ back))⟩

/-! ## A line feed at the end -/

theorem anchored_iff {full : List Char → Bool} {s : String} :
    anchored full s = true ↔ full s.toList = true ∨ ∃ l, s.toList = l ++ ['\n'] ∧ full l = true := by
  unfold anchored
  simp only [Bool.or_eq_true, Bool.and_eq_true, beq_iff_eq]
  constructor
  · rintro (whole | ⟨last, front⟩)
    · exact .inl whole
    · refine .inr ⟨s.toList.dropLast, ?_, front⟩
      exact (List.dropLast_append_getLast? _ last).symm
  · rintro (whole | ⟨l, split, front⟩)
    · exact .inl whole
    · refine .inr ⟨?_, ?_⟩
      · rw [split, List.getLast?_concat]
      · rw [split, List.dropLast_concat]
        exact front

/-- The text ends in a line feed. -/
def EndsInLineFeed (s : String) : Prop := ∃ l, s.toList = l ++ ['\n']

/-- A pattern that no line feed matches sees a final one only through `$`. -/
theorem anchored_solid {full : List Char → Bool} {s : String}
    (solid : ∀ l, full (l ++ ['\n']) = false) (matched : anchored full s = true) :
    full s.toList = true ↔ ¬ EndsInLineFeed s := by
  constructor
  · rintro whole ⟨l, split⟩
    rw [split, solid] at whole
    cases whole
  · intro unfed
    rcases anchored_iff.mp matched with whole | ⟨l, split, -⟩
    · exact whole
    · exact absurd ⟨l, split⟩ unfed

/-! ## Fields -/

/-- A repository of two parts with white space in it, other than one line feed behind the
second part. -/
def Spaced (l : List Char) : Prop :=
  (∃ c ∈ l, isSpace c = true) ∧
    ∀ t, l = t ++ ['\n'] → (∃ c ∈ t, isSpace c = true) ∨ t.getLast? = some '/'

/-- The letter or the sign the class of the normalizer leaves out. -/
def Escaped (l : List Char) : Prop := 's' ∈ l ∨ '\\' ∈ l

theorem isRepository_iff {l : List Char} : isRepository l = true ↔ Pair l ∧ ¬ Escaped l := by
  unfold isRepository
  rw [slashPair_iff (by decide)]
  refine and_congr_right fun _ => ?_
  constructor
  · rintro all (letter | sign)
    · exact absurd (all 's' letter) (by decide)
    · exact absurd (all '\\' sign) (by decide)
  · intro plain c member
    rw [Bool.and_eq_true, decide_eq_true_eq, decide_eq_true_eq]
    exact ⟨fun same => plain (.inr (same ▸ member)), fun same => plain (.inl (same ▸ member))⟩

theorem isRepositoryChars_iff {l : List Char} :
    isRepositoryChars l = true ↔ Pair l ∧ ∀ c ∈ l, isSpace c = false := by
  have same : isRepositoryChars l = slashPair (fun c => !isSpace c) l := rfl
  rw [same, slashPair_iff (by decide)]
  simp

/-- A text without its final line feed is a pair as far as something is left of the name. -/
theorem pair_line {l t : List Char} (split : l = t ++ ['\n']) : Pair t ↔ Pair l ∧ t.getLast? ≠ some '/' := by
  subst split
  constructor
  · rintro ⟨owner, name, rfl, owned, named, ownerClear, nameClear⟩
    refine ⟨⟨owner, name ++ ['\n'], by simp, owned, by simp, ownerClear, by simpa using nameClear⟩, ?_⟩
    intro last
    rw [List.getLast?_append_cons, List.getLast?_cons_of_ne_nil named] at last
    exact nameClear (List.mem_of_getLast? last)
  · rintro ⟨⟨owner, name, split, owned, named, ownerClear, nameClear⟩, last⟩
    obtain ⟨front, c, rfl⟩ := (List.eq_nil_or_concat name).resolve_left named
    rw [List.concat_eq_append] at split nameClear
    have parts : t ++ ['\n'] = (owner ++ '/' :: front) ++ [c] := by
      rw [split]
      simp
    obtain ⟨rfl, -⟩ := List.append_inj' parts rfl
    refine ⟨owner, front, rfl, owned, ?_, ownerClear, ?_⟩
    · rintro rfl
      exact last (by simp)
    · exact fun member => nameClear (List.mem_append_left _ member)

/-- Among pairs the schema refuses the spaced ones. -/
theorem repository_conforms {s : String} (pair : Pair s.toList) :
    anchored isRepositoryChars s = true ↔ ¬ Spaced s.toList := by
  rw [anchored_iff]
  simp only [isRepositoryChars_iff]
  constructor
  · rintro (⟨-, plain⟩ | ⟨l, split, whole, plain⟩) ⟨⟨c, member, space⟩, fed⟩
    · rw [plain c member] at space
      cases space
    · rcases fed l split with ⟨d, inside, spaced⟩ | last
      · rw [plain d inside] at spaced
        cases spaced
      · exact ((pair_line split).mp whole).2 last
  · intro unspaced
    by_cases plain : ∀ c ∈ s.toList, isSpace c = false
    · exact .inl ⟨pair, plain⟩
    · refine .inr ?_
      push Not at plain
      obtain ⟨c, member, space⟩ := plain
      have fed : ¬ ∀ t, s.toList = t ++ ['\n'] → (∃ c ∈ t, isSpace c = true) ∨ t.getLast? = some '/' :=
        fun all => unspaced ⟨⟨c, member, by simpa using space⟩, all⟩
      push Not at fed
      obtain ⟨t, split, clear, last⟩ := fed
      refine ⟨t, split, (pair_line split).mpr ⟨pair, last⟩, ?_⟩
      intro d inside
      simpa using clear d inside

/-- What the schema takes for a repository is a pair. -/
theorem conforming_pair {s : String} (conforms : anchored isRepositoryChars s = true) :
    Pair s.toList := by
  rcases anchored_iff.mp conforms with whole | ⟨l, split, front⟩
  · exact (isRepositoryChars_iff.mp whole).1
  · exact ((pair_line split).mp (isRepositoryChars_iff.mp front).1).1

theorem commit_solid (l : List Char) : isCommit (l ++ ['\n']) = false := by
  unfold isCommit
  have feed : isCommitDigit '\n' = false := by decide
  rw [List.all_append]
  simp [feed]

theorem isCommitChars_iff {l : List Char} :
    isCommitChars l = true ↔ isCommit l = true ∧ l.length = 40 := by
  unfold isCommitChars isCommit
  simp only [Bool.and_eq_true, Bool.or_eq_true, beq_iff_eq]
  constructor
  · rintro ⟨long, all⟩
    exact ⟨⟨.inl long, all⟩, long⟩
  · rintro ⟨⟨-, all⟩, long⟩
    exact ⟨long, all⟩

theorem commitChars_solid (l : List Char) : isCommitChars (l ++ ['\n']) = false := by
  by_contra matched
  have whole := (isCommitChars_iff.mp (by simpa using matched)).1
  rw [commit_solid] at whole
  cases whole

theorem digest_solid (l : List Char) : isDigestChars (l ++ ['\n']) = false := by
  unfold isDigestChars
  by_contra matched
  simp only [Bool.not_eq_false, Bool.and_eq_true, beq_iff_eq, List.all_eq_true] at matched
  obtain ⟨⟨-, long⟩, all⟩ := matched
  have inside : '\n' ∈ (l ++ ['\n']).drop 7 := by
    rw [List.length_drop, List.length_append, List.length_singleton] at long
    rw [List.drop_append_of_le_length (by omega)]
    exact List.mem_append_right _ (List.mem_singleton_self _)
  exact absurd (all '\n' inside) (by decide)

/-- A path that is absolute, leaves its directory or has the four characters of the
escape in it. -/
def Unsafe (l : List Char) : Prop :=
  l.head? = some '/' ∨ ['\\', 'x', '0', '0'] <:+: l ∨ ['.', '.'] ∈ l.splitOn '/'

theorem isRelativePath_iff {l : List Char} : isRelativePath l = true ↔ l ≠ [] ∧ ¬ Unsafe l := by
  unfold isRelativePath Unsafe
  simp only [Bool.and_eq_true, decide_eq_true_eq, Bool.not_eq_true', decide_eq_false_iff_not]
  tauto

/-! ## References -/

/-- The normalizer of the child contracts accepts the mapping of a reference. -/
def Normalizes (name : String) (s : SourceRef) : Prop :=
  ∃ out, normalizeSource name s.toDict = .ok out

theorem sourceText_ok {valid : List Char → Bool} {message text : String} :
    (∃ out, sourceText valid message (.str text) = .ok out) ↔ valid text.toList = true := by
  dsimp only [sourceText]
  constructor
  · rintro ⟨out, passed⟩
    by_contra refused
    rw [if_neg refused] at passed
    cases passed
  · intro accepted
    exact ⟨text, if_pos accepted⟩

theorem normalizes_iff {name : String} {s : SourceRef} : Normalizes name s ↔
    isRepository s.repository.toList = true ∧ isCommit s.commitSha.toList = true ∧
      isRelativePath s.path.toList = true ∧ isDigestChars s.blobDigest.toList = true := by
  have fields : checkMembers name sourceFields [("repository", .str s.repository),
      ("commit_sha", .str s.commitSha), ("path", .str s.path), ("blob_digest", .str s.blobDigest)] =
      .ok () := by
    simp [checkMembers, sourceFields]
  constructor
  · rintro ⟨out, passed⟩
    obtain ⟨_, ⟨⟩, passed⟩ := bind_ok.mp passed
    obtain ⟨-, -, passed⟩ := bind_ok.mp passed
    obtain ⟨repository, first, passed⟩ := bind_ok.mp passed
    obtain ⟨commitSha, second, passed⟩ := bind_ok.mp passed
    obtain ⟨path, third, passed⟩ := bind_ok.mp passed
    obtain ⟨blobDigest, fourth, -⟩ := bind_ok.mp passed
    exact ⟨sourceText_ok.mp ⟨_, first⟩, sourceText_ok.mp ⟨_, second⟩, sourceText_ok.mp ⟨_, third⟩,
      sourceText_ok.mp ⟨_, fourth⟩⟩
  · rintro ⟨repository, commitSha, path, blobDigest⟩
    refine ⟨s, ?_⟩
    refine bind_ok.mpr ⟨_, rfl, bind_ok.mpr ⟨(), fields, ?_⟩⟩
    refine bind_ok.mpr ⟨s.repository, if_pos repository, ?_⟩
    refine bind_ok.mpr ⟨s.commitSha, if_pos commitSha, ?_⟩
    refine bind_ok.mpr ⟨s.path, if_pos path, ?_⟩
    exact bind_ok.mpr ⟨s.blobDigest, if_pos blobDigest, rfl⟩

theorem conforms_iff {s : SourceRef} : s.conforms = true ↔
    anchored isRepositoryChars s.repository = true ∧ anchored isCommitChars s.commitSha = true ∧
      isNonEmpty s.path = true ∧ isDigestText s.blobDigest = true := by
  unfold SourceRef.conforms
  simp only [Bool.and_eq_true]
  tauto

theorem isNonEmpty_iff {s : String} : isNonEmpty s = true ↔ s.toList ≠ [] ∧ s.length ≤ 4096 := by
  unfold isNonEmpty
  rw [Bool.and_eq_true, decide_eq_true_eq, decide_eq_true_eq, ne_eq, ne_eq, ← String.toList_inj]
  rfl

/-- What only the normalizer accepts: white space in a repository, a commit of 64 digits
or a path over the length bound, in a reference that is right otherwise. -/
structure OnlyNormalized (s : SourceRef) : Prop where
  repository : Pair s.repository.toList ∧ ¬ Escaped s.repository.toList
  commitSha : isCommit s.commitSha.toList = true
  path : s.path.toList ≠ [] ∧ ¬ Unsafe s.path.toList
  blobDigest : isDigestChars s.blobDigest.toList = true
  loose : Spaced s.repository.toList ∨ s.commitSha.toList.length ≠ 40 ∨ 4096 < s.path.length

/-- What only the schema accepts: the letter s or a backslash in a repository, a line feed
behind a commit or a digest, or an unsafe path, in a reference that is right otherwise. -/
structure OnlyConforming (s : SourceRef) : Prop where
  repository : Pair s.repository.toList ∧ ¬ Spaced s.repository.toList
  commitSha : anchored isCommitChars s.commitSha = true
  path : s.path.toList ≠ [] ∧ s.path.length ≤ 4096
  blobDigest : isDigestText s.blobDigest = true
  loose : Escaped s.repository.toList ∨ EndsInLineFeed s.commitSha ∨ Unsafe s.path.toList ∨
    EndsInLineFeed s.blobDigest

theorem only_normalized {name : String} {s : SourceRef} :
    Normalizes name s ∧ s.conforms = false ↔ OnlyNormalized s := by
  have digest : isDigestChars s.blobDigest.toList = true → isDigestText s.blobDigest = true :=
    fun whole => anchored_iff.mpr (.inl whole)
  have commit : isCommit s.commitSha.toList = true →
      (anchored isCommitChars s.commitSha = true ↔ s.commitSha.toList.length = 40) := by
    intro valid
    constructor
    · intro conforms
      rcases anchored_iff.mp conforms with whole | ⟨l, split, -⟩
      · exact (isCommitChars_iff.mp whole).2
      · rw [split, commit_solid] at valid
        cases valid
    · exact fun long => anchored_iff.mpr (.inl (isCommitChars_iff.mpr ⟨valid, long⟩))
  rw [normalizes_iff, isRepository_iff, isRelativePath_iff, ← Bool.not_eq_true, conforms_iff,
    isNonEmpty_iff]
  constructor
  · rintro ⟨⟨repository, commitSha, path, blobDigest⟩, refused⟩
    refine ⟨repository, commitSha, path, blobDigest, ?_⟩
    by_contra strict
    push Not at strict
    obtain ⟨unspaced, long, short⟩ := strict
    exact refused ⟨(repository_conforms repository.1).mpr unspaced, (commit commitSha).mpr long,
      ⟨path.1, short⟩, digest blobDigest⟩
  · rintro ⟨repository, commitSha, path, blobDigest, loose⟩
    refine ⟨⟨repository, commitSha, path, blobDigest⟩, ?_⟩
    rintro ⟨conforms, forty, ⟨-, short⟩, -⟩
    rcases loose with spaced | long | beyond
    · exact (repository_conforms repository.1).mp conforms spaced
    · exact long ((commit commitSha).mp forty)
    · exact absurd short (Nat.not_le.mpr beyond)

theorem only_conforming {name : String} {s : SourceRef} :
    s.conforms = true ∧ ¬ Normalizes name s ↔ OnlyConforming s := by
  have commit (conforms : anchored isCommitChars s.commitSha = true) :
      isCommit s.commitSha.toList = true ↔ ¬ EndsInLineFeed s.commitSha := by
    constructor
    · rintro valid ⟨l, split⟩
      rw [split, commit_solid] at valid
      cases valid
    · exact fun unfed =>
        (isCommitChars_iff.mp ((anchored_solid commitChars_solid conforms).mpr unfed)).1
  rw [normalizes_iff, isRepository_iff, isRelativePath_iff, conforms_iff, isNonEmpty_iff]
  constructor
  · rintro ⟨⟨repository, commitSha, path, blobDigest⟩, refused⟩
    have pair := conforming_pair repository
    refine ⟨⟨pair, (repository_conforms pair).mp repository⟩, commitSha, path, blobDigest, ?_⟩
    by_contra strict
    push Not at strict
    obtain ⟨plain, unfed, inside, solid⟩ := strict
    exact refused ⟨⟨pair, plain⟩, (commit commitSha).mpr unfed, ⟨path.1, inside⟩,
      (anchored_solid digest_solid blobDigest).mpr solid⟩
  · rintro ⟨repository, commitSha, path, blobDigest, loose⟩
    refine ⟨⟨(repository_conforms repository.1).mpr repository.2, commitSha, path, blobDigest⟩, ?_⟩
    rintro ⟨⟨-, plain⟩, valid, ⟨-, inside⟩, whole⟩
    rcases loose with escaped | fed | outside | fed
    · exact plain escaped
    · exact (commit commitSha).mp valid fed
    · exact inside outside
    · exact (anchored_solid digest_solid blobDigest).mp whole fed

/-- The two grammars agree on a reference unless it is of one of the two kinds. -/
theorem agrees_iff (name : String) (s : SourceRef) :
    (Normalizes name s ↔ s.conforms = true) ↔ ¬ OnlyNormalized s ∧ ¬ OnlyConforming s := by
  rw [← @only_normalized name, ← @only_conforming name]
  by_cases conforms : s.conforms = true
  · simp [conforms]
  · simp [conforms]

/-! ## A repository with the letter s -/

def vscode : SourceRef where
  repository := "microsoft/vscode"
  commitSha := "0123456789abcdef0123456789abcdef01234567"
  path := "README.md"
  blobDigest := "sha256:0123456789abcdef0123456789abcdef0123456789abcdef0123456789abcdef"

/-- The schema accepts it and the normalizer does not. -/
theorem vscode_refused :
    ¬ ∀ (name : String) (s : SourceRef), Normalizes name s ↔ s.conforms = true := by
  intro agrees
  have conforms : vscode.conforms = true := by decide
  have accepted := normalizes_iff.mp ((agrees "source" vscode).mpr conforms)
  exact absurd accepted.1 (by decide)

end DwSuperApps.Guarantees.SourceGrammar
