import Mathlib.Data.List.Induction
import DwSuperApps.Source.CertificationStability

/-!
# Stability over run histories

* `w8_streak`: what counts of a history is its longest clean end, and stability is decided
  by that end, as long as no two receipts of the history collide in their digest;
* `no_replay_iff`: the repetitions of a deep case hold no replay of any earlier run exactly
  where every qualifying replay also repeats a qualifying run that itself repeats none.
-/
namespace DwSuperApps.Guarantees.StabilityStreaks

open DwSuperApps.Lib
open DwSuperApps.Source.Certification

section
variable [Sha256]

/-! ## Replays -/

/-- Two runs of one execution: the same id, or the same receipt. -/
def Shares (a b : TestRun) : Prop :=
  ∃ r ∈ a.executionReceipt, ∃ s ∈ b.executionReceipt,
    r.executionId = s.executionId ∨ r.executionReceiptDigest = s.executionReceiptDigest

/-- Receipts of the history that have one digest have one content. -/
def NoCollision (runs : List TestRun) : Prop :=
  ∀ a ∈ runs, ∀ b ∈ runs, ∀ r ∈ a.executionReceipt, ∀ s ∈ b.executionReceipt,
    r.executionReceiptDigest = s.executionReceiptDigest → r.contentDict = s.contentDict

omit [Sha256] in
theorem executionId_of_content {r s : ExecutionReceipt} (same : r.contentDict = s.contentDict) :
    r.executionId = s.executionId := by
  have first := (List.cons.inj same).1
  exact Json.str.inj (Prod.mk.inj first).2

/-! ## The longest clean end -/

/-- A run that counts after the ones before it. -/
structure Fit (target : Option String) (before : List TestRun) (run : TestRun) : Prop where
  qualifies : baseQualifies run = none
  onTarget : ∀ sha ∈ target, run.runtime.endSha = sha
  fresh : ∀ other ∈ before, ¬ Shares run other

/-- From place `k` on every run counts, and all have one identity. -/
structure Clean (target : Option String) (history : List TestRun) (k : Nat) : Prop where
  fit : ∀ i run, k ≤ i → history[i]? = some run → Fit target (history.take i) run
  alike : ∀ a ∈ history.drop k, ∀ b ∈ history.drop k, runtimeIdentity a = runtimeIdentity b

/-- The longest clean end. -/
structure CleanEnd (target : Option String) (history : List TestRun) (k : Nat) : Prop where
  within : k ≤ history.length
  clean : Clean target history k
  longest : ∀ j < k, ¬ Clean target history j

variable {target : Option String} {history : List TestRun} {run : TestRun} {k : Nat}

theorem clean_snoc (within : k ≤ history.length) :
    Clean target (history ++ [run]) k ↔
      Clean target history k ∧ Fit target history run ∧
        ∀ a ∈ history.drop k, runtimeIdentity a = runtimeIdentity run := by
  have rest : (history ++ [run]).drop k = history.drop k ++ [run] := List.drop_append_of_le_length within
  have front {i : Nat} (inside : i < history.length) : (history ++ [run])[i]? = history[i]? :=
    List.getElem?_append_left inside
  have before {i : Nat} (inside : i ≤ history.length) : (history ++ [run]).take i = history.take i :=
    List.take_append_of_le_length inside
  constructor
  · intro clean
    have last := clean.fit history.length run within (by simp)
    rw [before (Nat.le_refl _), List.take_length] at last
    refine ⟨⟨?_, ?_⟩, last, ?_⟩
    · intro i other later found
      have inside := (List.getElem?_eq_some_iff.mp found).1
      have fit := clean.fit i other later (by rw [front inside]; exact found)
      rwa [before (Nat.le_of_lt inside)] at fit
    · intro a left b right
      exact clean.alike a (rest ▸ List.mem_append_left _ left) b (rest ▸ List.mem_append_left _ right)
    · intro a left
      exact clean.alike a (rest ▸ List.mem_append_left _ left) run (rest ▸ by simp)
  · rintro ⟨clean, fit, same⟩
    refine ⟨?_, ?_⟩
    · intro i other later found
      have inside := (List.getElem?_eq_some_iff.mp found).1
      rw [List.length_append, List.length_singleton] at inside
      by_cases last : i = history.length
      · subst last
        rw [List.getElem?_concat_length, Option.some_inj] at found
        rw [before (Nat.le_refl _), List.take_length]
        exact found ▸ fit
      · have earlier : i < history.length := by omega
        rw [front earlier] at found
        rw [before (Nat.le_of_lt earlier)]
        exact clean.fit i other later found
    · rw [rest]
      intro a left b right
      rcases List.mem_append.mp left with inA | lastA <;> rcases List.mem_append.mp right with inB | lastB
      · exact clean.alike a inA b inB
      · rw [List.mem_singleton.mp lastB]
        exact same a inA
      · rw [List.mem_singleton.mp lastA]
        exact (same b inB).symm
      · rw [List.mem_singleton.mp lastA, List.mem_singleton.mp lastB]

theorem clean_length (target : Option String) (history : List TestRun) :
    Clean target history history.length := by
  refine ⟨?_, ?_⟩
  · intro i run later found
    exact absurd (List.getElem?_eq_some_iff.mp found).1 (Nat.not_lt.mpr later)
  · rw [List.drop_length]
    exact fun _ impossible => (nomatch impossible)

/-- Only one place starts the longest clean end. -/
theorem CleanEnd.unique {j : Nat} (first : CleanEnd target history k) (second : CleanEnd target history j) :
    k = j := by
  rcases Nat.lt_trichotomy k j with less | same | more
  · exact absurd first.clean (second.longest k less)
  · exact same
  · exact absurd second.clean (first.longest j more)

/-- Nothing is clean up to a run that does not count. -/
theorem CleanEnd.broken (unfit : ¬ Fit target history run) :
    CleanEnd target (history ++ [run]) (history ++ [run]).length := by
  refine ⟨Nat.le_refl _, clean_length _ _, ?_⟩
  intro j earlier clean
  rw [List.length_append, List.length_singleton] at earlier
  exact unfit ((clean_snoc (Nat.le_of_lt_succ earlier)).mp clean).2.1

/-- A run that counts and is of the same identity continues the clean end. -/
theorem CleanEnd.continued (ending : CleanEnd target history k) (fit : Fit target history run)
    (same : ∀ a ∈ history.drop k, runtimeIdentity a = runtimeIdentity run) :
    CleanEnd target (history ++ [run]) k := by
  refine ⟨?_, (clean_snoc ending.within).mpr ⟨ending.clean, fit, same⟩, ?_⟩
  · rw [List.length_append]
    exact Nat.le_add_right_of_le ending.within
  · intro j earlier clean
    exact ending.longest j earlier ((clean_snoc (Nat.le_trans (Nat.le_of_lt earlier) ending.within)).mp clean).1

/-- A run that counts but is of another identity starts the clean end anew. -/
theorem CleanEnd.restarted (ending : CleanEnd target history k) (fit : Fit target history run)
    {a : TestRun} (member : a ∈ history.drop k) (other : runtimeIdentity a ≠ runtimeIdentity run) :
    CleanEnd target (history ++ [run]) history.length := by
  refine ⟨by simp, (clean_snoc (Nat.le_refl _)).mpr ⟨clean_length _ _, fit, ?_⟩, ?_⟩
  · rw [List.drop_length]
    exact fun _ impossible => (nomatch impossible)
  · intro j earlier clean
    obtain ⟨clean, -, same⟩ := (clean_snoc (Nat.le_of_lt earlier)).mp clean
    by_cases before : j < k
    · exact ending.longest j before clean
    · -- the end from j on is a part of the one from k on: here it would be the whole of it
      have last : a ∈ history.drop k := member
      by_cases inside : a ∈ history.drop j
      · exact other (same a inside)
      · have tail : history.drop j ≠ [] := by simpa using earlier
        obtain ⟨b, later⟩ := List.exists_mem_of_ne_nil _ tail
        have part : b ∈ history.drop k := by
          rw [show history.drop j = (history.drop k).drop (j - k) by
            rw [List.drop_drop, Nat.add_sub_cancel' (Nat.not_lt.mp before)]] at later
          exact List.mem_of_mem_drop later
        exact other ((ending.clean.alike a last b part).trans (same b later))
/-! ## The loop -/

/-- The streak is the longest clean end of the runs so far. -/
structure Ending (target : Option String) (history : List TestRun) (s : Streak) : Prop where
  streak : ∃ k, CleanEnd target history k ∧ s.streak = history.drop k
  previous : s.previousIdentity = s.streak.getLast?.map runtimeIdentity

theorem reset_ending (s : Streak) (reason : String) (unfit : ¬ Fit target history run) :
    Ending target (history ++ [run]) (s.reset reason) where
  streak := ⟨_, CleanEnd.broken unfit, List.drop_length.symm⟩
  previous := rfl

theorem judge_ending {s : Streak} (ending : Ending target history s)
    (fresh : ∀ other ∈ history, ¬ Shares run other) :
    Ending target (history ++ [run]) (s.judge target run) := by
  obtain ⟨k, last, streak⟩ := ending.streak
  have rest : (history ++ [run]).drop k = history.drop k ++ [run] :=
    List.drop_append_of_le_length last.within
  unfold Streak.judge
  split
  · next stale =>
    refine reset_ending s _ fun fit => ?_
    obtain ⟨sha, aimed, other⟩ := stale
    exact other (fit.onTarget sha aimed)
  · next current =>
    split
    · next reason unqualified =>
      refine reset_ending s _ fun fit => ?_
      rw [fit.qualifies] at unqualified
      cases unqualified
    · next qualifies =>
      have fit : Fit target history run :=
        ⟨qualifies, fun sha aimed => not_not.mp fun other => current ⟨sha, aimed, other⟩, fresh⟩
      rw [ending.previous, streak]
      split
      · next changed =>
        obtain ⟨previous, found, other⟩ := changed
        obtain ⟨a, final, rfl⟩ := Option.map_eq_some_iff.mp found
        refine ⟨⟨history.length, last.restarted fit (List.mem_of_getLast? final) (Ne.symm other), ?_⟩, rfl⟩
        rw [List.drop_left]
      · next same =>
        refine ⟨⟨k, last.continued fit ?_, by rw [rest]⟩, by simp⟩
        intro a member
        obtain ⟨b, final⟩ : ∃ b, (history.drop k).getLast? = some b :=
          ⟨_, List.getLast?_eq_some_getLast (List.ne_nil_of_mem member)⟩
        have alike := last.clean.alike a member b (List.mem_of_getLast? final)
        rw [alike]
        by_contra other
        refine same ⟨_, ?_, Ne.symm other⟩
        rw [final]
        rfl

omit [Sha256] in
theorem judge_observed (s : Streak) (run : TestRun) : (s.judge target run).observed = s.observed := by
  unfold Streak.judge
  split
  · rfl
  · split
    · rfl
    · split <;> rfl

/-- What the loop holds after the runs so far. -/
structure Tracks (target : Option String) (history : List TestRun) (s : Streak) : Prop where
  ids : ∀ run ∈ history, ∀ r ∈ run.executionReceipt, r.executionId ∈ s.observed.executionIds
  idsOf : ∀ id ∈ s.observed.executionIds,
    ∃ run ∈ history, ∃ r ∈ run.executionReceipt, r.executionId = id
  digestsOf : ∀ digest ∈ s.observed.receiptDigests,
    ∃ run ∈ history, ∃ r ∈ run.executionReceipt, r.executionReceiptDigest = digest
  ending : Ending target history s

theorem tracks_start (target : Option String) : Tracks target [] {} where
  ids _ impossible := nomatch impossible
  idsOf _ impossible := nomatch impossible
  digestsOf _ impossible := nomatch impossible
  ending := ⟨⟨0, ⟨Nat.le_refl 0, clean_length target [], fun _ impossible => nomatch impossible⟩, rfl⟩, rfl⟩

/-- The seen-sets tell a replay, although a replayed receipt is not added to them. -/
theorem replays_iff {s : Streak} (tracks : Tracks target history s)
    (distinct : NoCollision (history ++ [run])) {receipt : ExecutionReceipt}
    (own : run.executionReceipt = some receipt) :
    s.observed.replays receipt ↔ ∃ other ∈ history, Shares run other := by
  constructor
  · rintro (id | digest)
    · obtain ⟨other, member, r, theirs, same⟩ := tracks.idsOf _ id
      exact ⟨other, member, receipt, own, r, theirs, .inl same.symm⟩
    · obtain ⟨other, member, r, theirs, same⟩ := tracks.digestsOf _ digest
      exact ⟨other, member, receipt, own, r, theirs, .inr same.symm⟩
  · rintro ⟨other, member, r, mine, s', theirs, same⟩
    rw [own, Option.mem_some] at mine
    subst mine
    rcases same with id | digest
    · exact .inl (id ▸ tracks.ids other member s' theirs)
    · have content := distinct run (by simp) other (List.mem_append_left _ member) _ own s' theirs digest
      exact .inl (executionId_of_content content ▸ tracks.ids other member s' theirs)

theorem tracks_step {s : Streak} (tracks : Tracks target history s)
    (distinct : NoCollision (history ++ [run])) :
    Tracks target (history ++ [run]) (s.step target run) := by
  unfold Streak.step
  cases own : run.executionReceipt with
  | none =>
    have fresh : ∀ other ∈ history, ¬ Shares run other := by
      rintro other - ⟨r, mine, -⟩
      rw [own] at mine
      cases mine
    refine ⟨?_, ?_, ?_, judge_ending tracks.ending fresh⟩
    · rw [judge_observed]
      intro other member r theirs
      rcases List.mem_append.mp member with earlier | last
      · exact tracks.ids other earlier r theirs
      · rw [List.mem_singleton.mp last, own] at theirs
        cases theirs
    · rw [judge_observed]
      intro id inside
      obtain ⟨other, member, found⟩ := tracks.idsOf id inside
      exact ⟨other, List.mem_append_left _ member, found⟩
    · rw [judge_observed]
      intro digest inside
      obtain ⟨other, member, found⟩ := tracks.digestsOf digest inside
      exact ⟨other, List.mem_append_left _ member, found⟩
  | some receipt =>
    have known := replays_iff tracks distinct own
    dsimp only
    split
    · next replayed =>
      obtain ⟨twin, member, shares⟩ := known.mp replayed
      refine ⟨?_, ?_, ?_, reset_ending s _ fun fit => fit.fresh twin member shares⟩
      · intro other inside r theirs
        rcases List.mem_append.mp inside with earlier | last
        · exact tracks.ids other earlier r theirs
        · rw [List.mem_singleton.mp last, own, Option.mem_some] at theirs
          subst theirs
          rcases replayed with id | digest
          · exact id
          · obtain ⟨other', member', r', theirs', same⟩ := tracks.digestsOf _ digest
            have content := distinct other' (List.mem_append_left _ member') run (by simp) r' theirs' _ own same
            exact executionId_of_content content ▸ tracks.ids other' member' r' theirs'
      · intro id inside
        obtain ⟨other, earlier, found⟩ := tracks.idsOf id inside
        exact ⟨other, List.mem_append_left _ earlier, found⟩
      · intro digest inside
        obtain ⟨other, earlier, found⟩ := tracks.digestsOf digest inside
        exact ⟨other, List.mem_append_left _ earlier, found⟩
    · next unseen =>
      have fresh : ∀ other ∈ history, ¬ Shares run other := fun other member shares =>
        unseen (known.mpr ⟨other, member, shares⟩)
      refine ⟨?_, ?_, ?_, judge_ending ⟨tracks.ending.streak, tracks.ending.previous⟩ fresh⟩
      · rw [judge_observed]
        intro other member r theirs
        rcases List.mem_append.mp member with earlier | last
        · exact List.mem_cons_of_mem _ (tracks.ids other earlier r theirs)
        · rw [List.mem_singleton.mp last, own, Option.mem_some] at theirs
          subst theirs
          exact List.mem_cons_self
      · rw [judge_observed]
        intro id inside
        rcases List.mem_cons.mp inside with rfl | before
        · exact ⟨run, by simp, receipt, own, rfl⟩
        · obtain ⟨other, member, found⟩ := tracks.idsOf id before
          exact ⟨other, List.mem_append_left _ member, found⟩
      · rw [judge_observed]
        intro digest inside
        rcases List.mem_cons.mp inside with rfl | before
        · exact ⟨run, by simp, receipt, own, rfl⟩
        · obtain ⟨other, member, found⟩ := tracks.digestsOf digest before
          exact ⟨other, List.mem_append_left _ member, found⟩

theorem NoCollision.front {runs more : List TestRun} (distinct : NoCollision (runs ++ more)) :
    NoCollision runs := fun a inA b inB =>
  distinct a (List.mem_append_left _ inA) b (List.mem_append_left _ inB)

/-- Over any history, by induction on its runs from the front. -/
theorem tracks_run (target : Option String) {runs : List TestRun} (distinct : NoCollision runs) :
    Tracks target runs (runs.foldl (Streak.step target) {}) := by
  induction runs using List.reverseRecOn with
  | nil => exact tracks_start target
  | append_singleton runs run ih =>
    rw [List.foldl_append]
    exact tracks_step (ih distinct.front) distinct

variable (caseId : String) (rows : List String)

/-- What the loop holds as qualifying after the runs so far. -/
def qualifying (runs : List TestRun) : List TestRun := (repeated caseId rows runs).qualifying

/-- The run counts after the ones before it. -/
def Counts (before : List TestRun) (run : TestRun) : Prop :=
  qualifying caseId rows (before ++ [run]) = qualifying caseId rows before ++ [run]

instance (before : List TestRun) (run : TestRun) : Decidable (Counts caseId rows before run) := by
  unfold Counts; infer_instance

omit [Sha256] in
/-- Every run of a history with the runs before it. -/
def places (runs : List TestRun) : List (List TestRun × TestRun) :=
  runs.zipIdx.map fun entry => (runs.take entry.2, entry.1)

/-- The runs that count, each with the ones before it. -/
def counted (runs : List TestRun) : List (List TestRun × TestRun) :=
  (places runs).filter fun place => Counts caseId rows place.1 place.2

/-- What makes a run count, its execution apart. -/
def Candidate (run : TestRun) : Prop :=
  run.caseId = caseId ∧ baseQualifies run = none ∧ matrixIsGreen run rows = true

/-- No run that counts repeats the execution of a run before it. -/
def NoReplay (runs : List TestRun) : Prop :=
  ∀ place ∈ counted caseId rows runs, ∀ earlier ∈ place.1, ¬ Shares place.2 earlier

/-- Every candidate that repeats an earlier run also repeats an earlier candidate which
itself repeats none. -/
def ReplaysOfClean (runs : List TestRun) : Prop :=
  ∀ before run after, runs = before ++ run :: after → Candidate caseId rows run →
    (∃ earlier ∈ before, Shares run earlier) →
    ∃ front clean back, before = front ++ clean :: back ∧ Candidate caseId rows clean ∧
      (∀ earlier ∈ front, ¬ Shares clean earlier) ∧ Shares run clean

omit [Sha256] in
theorem places_snoc (runs : List TestRun) (run : TestRun) :
    places (runs ++ [run]) = places runs ++ [(runs, run)] := by
  unfold places
  rw [List.zipIdx_append, List.map_append]
  congr 1
  · refine List.map_congr_left ?_
    rintro ⟨other, i⟩ member
    have inside := (List.mem_zipIdx member).2.1
    rw [List.take_append_of_le_length (by omega)]
  · simp

omit [Sha256] in
theorem mem_places {runs : List TestRun} {place : List TestRun × TestRun} :
    place ∈ places runs ↔ ∃ back, runs = place.1 ++ place.2 :: back := by
  obtain ⟨before, run⟩ := place
  induction runs using List.reverseRecOn with
  | nil => simp [places]
  | append_singleton runs last ih =>
    rw [places_snoc, List.mem_append, ih, List.mem_singleton, Prod.mk.injEq]
    constructor
    · rintro (⟨back, rfl⟩ | ⟨rfl, rfl⟩)
      · exact ⟨back ++ [last], by simp⟩
      · exact ⟨[], rfl⟩
    · rintro ⟨back, whole⟩
      rcases List.eq_nil_or_concat back with rfl | ⟨back, final, rfl⟩
      · obtain ⟨rfl, same⟩ := List.append_inj' whole rfl
        exact .inr ⟨rfl, (List.singleton_inj.mp same).symm⟩
      · rw [List.concat_eq_append, ← List.cons_append, ← List.append_assoc] at whole
        obtain ⟨rfl, -⟩ := List.append_inj' whole rfl
        exact .inl ⟨back, rfl⟩

variable {caseId rows}

/-- The seen-sets are those of the runs that count. -/
structure Seen (s : Repetition) : Prop where
  replays : ∀ receipt, s.seen.replays receipt ↔ ∃ other ∈ s.qualifying, ∃ r ∈ other.executionReceipt,
    receipt.executionId = r.executionId ∨ receipt.executionReceiptDigest = r.executionReceiptDigest

theorem replays_add (seen : Observed) (receipt other : ExecutionReceipt) :
    (seen.add other).replays receipt ↔ (receipt.executionId = other.executionId ∨
      receipt.executionReceiptDigest = other.executionReceiptDigest) ∨ seen.replays receipt := by
  unfold Observed.replays Observed.add
  rw [List.mem_cons, List.mem_cons]
  exact or_or_or_comm

/-- One round keeps what is known of the seen-sets, and adds the run exactly if it is a
candidate and repeats no run that counts. -/
theorem repetition_step {s : Repetition} (known : Seen s) (run : TestRun) :
    Seen (s.step rows run) ∧
      ((baseQualifies run = none ∧ matrixIsGreen run rows = true ∧ ∀ c ∈ s.qualifying, ¬ Shares run c) ∧
          (s.step rows run).qualifying = s.qualifying ++ [run] ∨
        ¬ (baseQualifies run = none ∧ matrixIsGreen run rows = true ∧ ∀ c ∈ s.qualifying, ¬ Shares run c) ∧
          (s.step rows run).qualifying = s.qualifying) := by
  unfold Repetition.step
  split
  · next reason unqualified =>
    refine ⟨⟨known.replays⟩, .inr ⟨?_, rfl⟩⟩
    rintro ⟨qualifies, -⟩
    rw [qualifies] at unqualified
    cases unqualified
  · next qualifies missing =>
    refine absurd qualifies ?_
    unfold baseQualifies
    rw [missing]
    split <;> exact Option.some_ne_none _
  · next receipt qualifies own =>
    have shares : s.seen.replays receipt ↔ ∃ c ∈ s.qualifying, Shares run c := by
      rw [known.replays]
      unfold Shares
      rw [own]
      simp
    split
    · next replayed =>
      refine ⟨⟨known.replays⟩, .inr ⟨?_, rfl⟩⟩
      rintro ⟨-, -, apart⟩
      obtain ⟨c, member, same⟩ := shares.mp replayed
      exact apart c member same
    · next unseen =>
      split
      · next incomplete =>
        refine ⟨⟨known.replays⟩, .inr ⟨?_, rfl⟩⟩
        rintro ⟨-, green, -⟩
        rw [green] at incomplete
        cases incomplete
      · next complete =>
        refine ⟨⟨?_⟩, .inl ⟨⟨qualifies, by simpa using complete, ?_⟩, rfl⟩⟩
        · intro other
          dsimp only
          rw [replays_add, known.replays]
          simp only [List.mem_append, List.mem_singleton, or_and_right, exists_or, exists_eq_left, own,
            Option.mem_some]
          rw [or_comm]
          simp
        · exact fun c member same => unseen (shares.mpr ⟨c, member, same⟩)

theorem seen_run (runs : List TestRun) : Seen (runs.foldl (Repetition.step rows) {}) := by
  induction runs using List.reverseRecOn with
  | nil => exact ⟨fun receipt => by simp [Observed.replays]⟩
  | append_singleton runs run ih =>
    rw [List.foldl_append]
    exact (repetition_step ih run).1

/-- A run is added exactly if it counts, and it counts exactly if it is a candidate and
repeats no run that counts. -/
theorem qualifying_snoc (before : List TestRun) (run : TestRun) :
    (Candidate caseId rows run ∧ ∀ c ∈ qualifying caseId rows before, ¬ Shares run c) ∧
        qualifying caseId rows (before ++ [run]) = qualifying caseId rows before ++ [run] ∨
      ¬ (Candidate caseId rows run ∧ ∀ c ∈ qualifying caseId rows before, ¬ Shares run c) ∧
        qualifying caseId rows (before ++ [run]) = qualifying caseId rows before := by
  unfold qualifying repeated Candidate
  rw [List.filter_append]
  by_cases own : run.caseId = caseId
  · have single : [run].filter (fun run => decide (run.caseId = caseId)) = [run] := by simp [own]
    rw [single, List.foldl_append]
    have known : Seen ((before.filter fun run => run.caseId = caseId).foldl (Repetition.step rows) {}) :=
      seen_run _
    have step := (@repetition_step _ rows _ known run).2
    simpa [own, and_assoc] using step
  · have single : [run].filter (fun run => decide (run.caseId = caseId)) = [] := by simp [own]
    rw [single, List.append_nil]
    exact .inr ⟨fun h => own h.1.1, rfl⟩

theorem counts_iff {before : List TestRun} {run : TestRun} : Counts caseId rows before run ↔
    Candidate caseId rows run ∧ ∀ c ∈ qualifying caseId rows before, ¬ Shares run c := by
  unfold Counts
  rcases @qualifying_snoc _ caseId rows before run with ⟨fits, added⟩ | ⟨unfit, kept⟩
  · exact iff_of_true added fits
  · refine iff_of_false ?_ unfit
    rw [kept]
    intro same
    have longer := congrArg List.length same
    rw [List.length_append, List.length_singleton] at longer
    omega

/-- The qualifying runs are the ones that count. -/
theorem qualifying_counted (runs : List TestRun) :
    qualifying caseId rows runs = (counted caseId rows runs).map Prod.snd := by
  induction runs using List.reverseRecOn with
  | nil => rfl
  | append_singleton runs run ih =>
    unfold counted at ih ⊢
    rw [places_snoc, List.filter_append, List.map_append, ← ih]
    rcases @qualifying_snoc _ caseId rows runs run with ⟨fits, added⟩ | ⟨unfit, kept⟩
    · have counts : Counts caseId rows runs run := counts_iff.mpr fits
      rw [added]
      simp [counts]
    · have other : ¬ Counts caseId rows runs run := fun counts => unfit (counts_iff.mp counts)
      rw [kept]
      simp [other]

theorem mem_counted {runs : List TestRun} {place : List TestRun × TestRun} :
    place ∈ counted caseId rows runs ↔
      (∃ back, runs = place.1 ++ place.2 :: back) ∧ Counts caseId rows place.1 place.2 := by
  unfold counted
  rw [List.mem_filter, mem_places, decide_eq_true_iff]

theorem mem_qualifying {runs : List TestRun} {run : TestRun} : run ∈ qualifying caseId rows runs ↔
    ∃ before back, runs = before ++ run :: back ∧ Counts caseId rows before run := by
  rw [qualifying_counted, List.mem_map]
  constructor
  · rintro ⟨⟨before, same⟩, member, rfl⟩
    obtain ⟨⟨back, whole⟩, counts⟩ := mem_counted.mp member
    exact ⟨before, back, whole, counts⟩
  · rintro ⟨before, back, whole, counts⟩
    exact ⟨(before, run), mem_counted.mpr ⟨⟨back, whole⟩, counts⟩, rfl⟩

/-- What the evaluation returns are the ids of the runs that count. -/
theorem deep_ids {caseId : String} {rows : List String} {runs : List TestRun}
    {threshold minimumIdentities : Int} {result : DeepCaseStabilityResult}
    (evaluated : evaluateDeepCaseStability caseId runs threshold minimumIdentities rows = .ok result) :
    result.qualifyingRunIds = (counted caseId rows runs).map fun place => place.2.runId := by
  unfold evaluateDeepCaseStability at evaluated
  split at evaluated
  · cases evaluated
  · cases evaluated
    dsimp only
    have same : (repeated caseId rows runs).qualifying = _ := qualifying_counted runs
    rw [same, List.map_map]
    rfl

/-- The evaluation counts no replay of any earlier run of the history exactly where each
candidate that is such a replay repeats an earlier candidate which repeats none. -/
theorem no_replay_iff (caseId : String) (rows : List String) (runs : List TestRun) :
    NoReplay caseId rows runs ↔ ReplaysOfClean caseId rows runs := by
  constructor
  · intro safe before run after whole candidate repeats
    -- the run does not count, so it repeats one that does; that one repeats none
    have passed : ¬ Counts caseId rows before run := by
      intro counts
      obtain ⟨earlier, member, same⟩ := repeats
      exact safe (before, run) (mem_counted.mpr ⟨⟨after, whole⟩, counts⟩) earlier member same
    rw [counts_iff, not_and] at passed
    have repeated := passed candidate
    push Not at repeated
    obtain ⟨clean, member, same⟩ := repeated
    obtain ⟨front, back, split, counts⟩ := mem_qualifying.mp member
    refine ⟨front, clean, back, split, (counts_iff.mp counts).1, ?_, same⟩
    refine safe (front, clean) (mem_counted.mpr ⟨⟨back ++ run :: after, ?_⟩, counts⟩)
    rw [whole, split, List.append_assoc, List.cons_append]
  · rintro condition ⟨before, run⟩ member earlier inside same
    obtain ⟨⟨after, whole⟩, counts⟩ := mem_counted.mp member
    obtain ⟨candidate, apart⟩ := counts_iff.mp counts
    obtain ⟨front, clean, back, split, fits, alone, shares⟩ :=
      condition before run after whole candidate ⟨earlier, inside, same⟩
    refine apart clean (mem_qualifying.mpr ⟨front, back, split, counts_iff.mpr ⟨fits, ?_⟩⟩) shares
    intro c found
    obtain ⟨f, b, within, -⟩ := mem_qualifying.mp found
    exact alone c (within ▸ List.mem_append_right _ List.mem_cons_self)

end

/-! ## Runs -/

@[reducible] def zeroHash : Sha256 := ⟨fun _ => 0⟩

def revision : SourceRevision where
  repository := "org/repo"
  branch := "main"
  startSha := "0000000000000000000000000000000000000000"
  endSha := "1111111111111111111111111111111111111111"

def receipt : ExecutionReceipt where
  executionId := "exec-1"
  startedAt := "t0"
  endedAt := "t1"
  controllerSeqStart := 1
  controllerSeqEnd := 2
  executorSeqStart := 1
  executorSeqEnd := 2
  cursorBefore := "c0"
  cursorAfter := "c1"
  semanticStepReceiptDigests := ["sha256:0000000000000000000000000000000000000000000000000000000000000000"]

def passedRun : TestRun where
  runId := "run-2"
  caseId := "W9"
  caseRevision := "1"
  runtime := revision
  subject := revision
  gwcSha := "2222222222222222222222222222222222222222"
  runtimePlanDigest := "sha256:1111111111111111111111111111111111111111111111111111111111111111"
  executor := "executor"
  model := "model"
  verdict := "PASS"
  evidence := [("ci", .obj [("status", .str "PASS")]), ("fresh_controller_recovery", .bool true)]
  executionReceipt := some receipt

def failedRun : TestRun := { passedRun with runId := "run-1", verdict := "FAIL" }

/-- A run that repeats the execution of a failed one counts. -/
theorem replay_of_failed :
    @evaluateDeepCaseStability zeroHash "W9" [failedRun, passedRun] 1 1 [] =
        .ok ⟨"W9", true, 1, ["run-2"], ""⟩ ∧
      ¬ @NoReplay zeroHash "W9" [] [failedRun, passedRun] := by
  refine ⟨by decide, fun safe => ?_⟩
  have counts : @Counts zeroHash "W9" [] [failedRun] passedRun := by decide
  refine safe ([failedRun], passedRun) ((@mem_counted zeroHash _ _ _ _).mpr ⟨⟨[], rfl⟩, counts⟩) failedRun
    List.mem_cons_self ⟨receipt, rfl, receipt, rfl, .inl rfl⟩

end DwSuperApps.Guarantees.StabilityStreaks
