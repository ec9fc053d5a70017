import DwSuperApps.Lib.Keyed
import DwSuperApps.Source.Chunking

/-!
# Joining the chunks of a partition

The decision about a set of chunk results (`join`). The partition knows its source by
repository, commit, path and blob digest, so a current source is the same when these
are, and a current content is the same when its digest is.

* results that can be read are ready iff they are a permutation of the planned chunks
  (`joinReceived_ready`);
* a content is compared only where a source is given with it, so the join is ready for
  another content given alone (`join_ready_exact`).
-/
namespace DwSuperApps.Guarantees.ChunkJoin

open DwSuperApps.Lib DwSuperApps.Lib.Checked
open DwSuperApps.Source.Chunking

section Join
variable [Sha256] [ByteHash] (p : ChunkPartition)

/-- The join returns a ready decision. -/
def Ready (chunks : Option (List (Reading ChunkRef)))
    (currentSource : Option (Reading StandardsSourceRef)) (currentContent : Option Content) : Prop :=
  ∃ decision, join p chunks currentSource currentContent = .ok decision ∧ decision.status = .ready

/-- The results are one for each planned chunk, in any order. -/
def Complete (chunks : Option (List (Reading ChunkRef))) : Prop :=
  ∃ received, chunks.bind readChunks = some received ∧ received.Perm p.chunks

/-- A given source is the planned one. -/
def SameSource (currentSource : Option (Reading StandardsSourceRef)) : Prop :=
  ∀ given ∈ currentSource, ∃ candidate, sourceOf given = .ok candidate ∧
    candidate.identity = p.sourceRef.identity

/-- A given content has the digest of the planned source. -/
def SameContent (currentContent : Option Content) : Prop :=
  ∀ given ∈ currentContent, ∃ raw, rawBytes given = .ok raw ∧ rawDigest raw = p.sourceDigest

omit [ByteHash] in
/-- Results that can be read are ready iff they are the planned chunks in some order. -/
theorem joinReceived_ready {received : List ChunkRef} :
    (joinReceived p received).status = .ready ↔ received.Perm p.chunks := by
  unfold joinReceived
  dsimp only
  constructor
  · intro ready
    split at ready
    · cases ready
    next distinct =>
    split at ready
    · cases ready
    split at ready
    · cases ready
    next ids =>
    split at ready
    · cases ready
    next each =>
    rw [not_not] at distinct ids
    have known : ∀ chunk ∈ received, chunk ∈ p.chunks := by
      intro chunk member
      have found : expected p chunk.chunkId = some chunk :=
        not_not.mp fun other => each ⟨chunk, member, other⟩
      exact List.mem_of_find?_eq_some found
    refine (List.perm_ext_iff_of_nodup distinct.of_map p.distinct.of_map).mpr fun chunk =>
      ⟨known chunk, fun planned => ?_⟩
    -- the result under the id of a planned chunk is that chunk
    obtain ⟨other, member, same⟩ := List.mem_map.mp (ids.2 (List.mem_map_of_mem planned))
    rwa [← List.inj_on_of_nodup_map p.distinct (known other member) planned same]
  · intro perm
    have ids : (received.map (·.chunkId)).Perm p.childIds := perm.map _
    have distinct : (received.map (·.chunkId)).Nodup := ids.nodup_iff.mpr p.distinct
    have versions : ¬ ∃ chunk ∈ received, chunk.sourceRef.identity ≠ p.sourceRef.identity := by
      rintro ⟨chunk, member, other⟩
      exact other (p.bound chunk (perm.mem_iff.mp member))
    have each : ¬ ∃ chunk ∈ received, expected p chunk.chunkId ≠ some chunk := by
      rintro ⟨chunk, member, other⟩
      exact other (Keyed.find_of_mem p.distinct (perm.mem_iff.mp member))
    rw [if_neg (not_not_intro distinct), if_neg versions,
      if_neg (not_not_intro ⟨ids.subset, ids.symm.subset⟩), if_neg each]

/-- Where no change of the source is seen, the chunks decide. -/
theorem ready_iff {chunks : Option (List (Reading ChunkRef))}
    {currentSource : Option (Reading StandardsSourceRef)} {currentContent : Option Content} :
    Ready p chunks currentSource currentContent ↔
      sourceChanged p currentSource currentContent = .ok false ∧ Complete p chunks := by
  unfold Ready join
  cases seen : sourceChanged p currentSource currentContent with
  | error e => simp
  | ok changed =>
    cases changed with
    | true => simp [joinBlocked, pure, Except.pure]
    | false =>
      cases readings : chunks.bind readChunks with
      | none => simp [joinBlocked, Complete, readings, pure, Except.pure]
      | some received => simp [Complete, readings, pure, Except.pure, joinReceived_ready]

omit [Sha256] in
theorem sourceChanged_none (currentContent : Option Content) :
    sourceChanged p none currentContent = .ok false := rfl

omit [Sha256] in
/-- With a source, the source and the content are compared. -/
theorem sourceChanged_some {given : Reading StandardsSourceRef} {currentContent : Option Content} :
    sourceChanged p (some given) currentContent = .ok false ↔
      SameSource p (some given) ∧ SameContent p currentContent := by
  unfold sourceChanged SameSource SameContent
  cases source : sourceOf given with
  | error e => simp [source]
  | ok candidate =>
    by_cases same : candidate.identity = p.sourceRef.identity
    · cases currentContent with
      | none => simp [source, same, pure, Except.pure]
      | some content =>
        cases bytes : rawBytes content with
        | error e => simp [source, same, bytes]
        | ok raw => simp [source, same, bytes, pure, Except.pure]
    · simp [source, same, pure, Except.pure]

/-- The join is ready exactly for the planned chunks over the planned source, unless the
chunks are complete and another content is given without a source. -/
theorem join_ready_exact (chunks : Option (List (Reading ChunkRef)))
    (currentSource : Option (Reading StandardsSourceRef)) (currentContent : Option Content) :
    (Ready p chunks currentSource currentContent ↔
      Complete p chunks ∧ SameSource p currentSource ∧ SameContent p currentContent) ↔
    ¬ (currentSource = none ∧ ¬ SameContent p currentContent ∧ Complete p chunks) := by
  rw [ready_iff]
  cases currentSource with
  | none =>
    have sourceless : SameSource p none := fun given member => by cases member
    simp only [sourceChanged_none, sourceless, true_and]
    tauto
  | some given =>
    rw [sourceChanged_some]
    simp only [reduceCtorEq, false_and, not_false_eq_true, iff_true]
    tauto

/-- `require_joinable` returns the ready decisions and raises the reason of any other. -/
theorem requireJoinable_returns_iff {chunks : Option (List (Reading ChunkRef))}
    {currentSource : Option (Reading StandardsSourceRef)} {currentContent : Option Content} :
    (∃ decision, requireJoinable p chunks currentSource currentContent = .ok decision) ↔
      Ready p chunks currentSource currentContent := by
  unfold Ready requireJoinable
  cases join p chunks currentSource currentContent with
  | error e => simp
  | ok decision =>
    rw [ok_bind]
    by_cases ready : decision.status = .ready <;> simp [ready, pure, Except.pure]

end Join

/-! ## A content given alone -/

@[reducible] def flatHash : Sha256 := ⟨fun _ => 0⟩
@[reducible] def lengthHash : ByteHash := ⟨List.length⟩

theorem repo_identified : isIdentifier "repo" := by decide
theorem sample_commit : isCommit "0123456789012345678901234567890123456789" := by decide
theorem sample_safe : SafePath "a" := by decide

def lineSource : StandardsSourceRef where
  repository := "repo"
  commitSha := "0123456789012345678901234567890123456789"
  path := "a"
  blobDigest := @rawDigest lengthHash [10]
  identified := repo_identified
  commit := sample_commit
  safe := sample_safe

/-- The plan of a source of one empty line. -/
def linePlan : ChunkPartition where
  sourceRef := lineSource
  maxLines := some ⟨1, by decide, by decide⟩
  maxBytes := none
  chunks := [@ChunkPartitioner.chunkOf flatHash lengthHash lineSource
    ⟨1, 1, 0, 1, by decide, by decide⟩ [10]]
  policy := .inl (Option.some_ne_none _)
  nonempty := List.cons_ne_nil _ _
  sorted := List.pairwise_singleton _ _
  distinct := List.nodup_singleton _
  bound := List.forall_mem_singleton.mpr rfl

/-- The chunks of the line are ready over an empty content given without a source. -/
theorem other_content_ready : ¬ ∀ p chunks currentSource currentContent,
    @Ready flatHash lengthHash p chunks currentSource currentContent ↔
      Complete p chunks ∧ SameSource p currentSource ∧
        @SameContent lengthHash p currentContent := by
  intro readyExactly
  have complete : Complete linePlan (some (linePlan.chunks.map .read)) :=
    ⟨linePlan.chunks, rfl, List.Perm.refl _⟩
  have ready := (@ready_iff flatHash lengthHash linePlan _ none (some (.bytes []))).mpr
    ⟨@sourceChanged_none lengthHash _ _, complete⟩
  obtain ⟨-, -, same⟩ := (readyExactly _ _ _ _).mp ready
  obtain ⟨raw, bytes, digest⟩ := same _ rfl
  cases bytes
  exact absurd digest (by decide)

end DwSuperApps.Guarantees.ChunkJoin
