import Mathlib.Data.List.Count
import DwSuperApps.Guarantees.LeaseHolding

/-!
# A grant among other clients

`LeaseManager.grant` detaches the lease it replaces in one compare-and-swap and
registers the new one in another. Other clients commit between any two of its store
operations.

* every operation passes exactly where the version it expects is still stored
  (`put_returns`, `sync_returns`);
* `registration_returns`, `detach_returns`: which operations have to be undisturbed for
  the two halves to return, and what they commit then;
* `grant_atomic_iff`: a grant is all or nothing exactly where it replaces no lease, the
  detach itself is refused, or nobody commits the run after the detach where the rest
  of the call compares versions.
-/
namespace DwSuperApps.Guarantees.GrantInterleaving

open DwSuperApps.Lib DwSuperApps.Lib.Checked
open DwSuperApps.Lib.Programs (Prog)
open DwSuperApps.Lib.Programs.Prog
open DwSuperApps.Source.Runtime

/-! ## Other clients -/

/-- A run another client commits. -/
structure OtherCommit where
  state : TeamRunState
  metadata : RuntimeSnapshotMeta

/-- The compare-and-swap of a client that read the version it replaces. -/
def OtherCommit.apply (s : Store) (c : OtherCommit) : Store :=
  (s.putRun { state := c.state, version := s.versionOf c.state.runId + 1, metadata := c.metadata }
    (s.versionOf c.state.runId)).2

/-- The commits of the others before each operation of the call. -/
abbrev Schedule := Nat → List OtherCommit

namespace Schedule

def others (schedule : Schedule) (n : Nat) (s : Store) : Store :=
  (schedule n).foldl OtherCommit.apply s

/-- How often the others commit the run before operation `n`. -/
def hits (schedule : Schedule) (r : String) (n : Nat) : Nat :=
  (schedule n).countP fun c => c.state.runId.text = r

end Schedule

/-- The run is stored under its id. -/
def Stored (s : Store) (r : String) (v : VersionedRunState) : Prop :=
  s.runs.get? r = some v ∧ v.state.runId.text = r

section Others
variable {s : Store} {r : String} {v : VersionedRunState} {schedule : Schedule} {n : Nat}

theorem Stored.versionOf (stored : Stored s r v) {w : VersionedRunState}
    (own : w.state.runId.text = r) : s.versionOf w.state.runId = v.version := by
  unfold Store.versionOf
  rw [own, stored.1]
  rfl

theorem apply_runs (c : OtherCommit) (k : String) :
    (c.apply s).runs.get? k = if k = c.state.runId.text then
      some { state := c.state, version := s.versionOf c.state.runId + 1, metadata := c.metadata }
    else s.runs.get? k := by
  unfold OtherCommit.apply Store.putRun
  rw [if_neg (by simp)]
  exact Dict.get?_set ..

/-- One commit of another client: the run moves to its next version, or stays. -/
theorem stored_apply (stored : Stored s r v) (c : OtherCommit) :
    ∃ w, Stored (c.apply s) r w ∧
      (c.state.runId.text = r ∧ w.version = v.version + 1 ∨ c.state.runId.text ≠ r ∧ w = v) := by
  by_cases own : c.state.runId.text = r
  · have version : s.versionOf c.state.runId = v.version := by
      unfold Store.versionOf
      rw [own, stored.1]
      rfl
    refine ⟨_, ⟨(apply_runs c r).trans (if_pos own.symm), own⟩, .inl ⟨own, ?_⟩⟩
    rw [version]
  · exact ⟨v, ⟨((apply_runs c r).trans (if_neg (Ne.symm own))).trans stored.1, stored.2⟩,
      .inr ⟨own, rfl⟩⟩

/-- The others move the version of a run once for each of their commits of it. -/
theorem stored_others (stored : Stored s r v) :
    ∃ w, Stored (schedule.others n s) r w ∧ w.version = v.version + schedule.hits r n ∧
      (schedule.hits r n = 0 → w = v) := by
  unfold Schedule.others Schedule.hits
  induction schedule n generalizing s v with
  | nil => exact ⟨v, stored, by simp, fun _ => rfl⟩
  | cons c rest ih =>
    obtain ⟨w, moved, effect⟩ := stored_apply stored c
    obtain ⟨u, later, version, same⟩ := ih moved
    refine ⟨u, later, ?_, ?_⟩
    · rw [version, List.countP_cons]
      rcases effect with ⟨own, risen⟩ | ⟨other, rfl⟩
      · rw [risen, if_pos (decide_eq_true own)]
        omega
      · rw [if_neg (by simpa using other)]
        omega
    · intro none
      rw [List.countP_cons] at none
      rcases effect with ⟨own, -⟩ | ⟨other, rfl⟩
      · rw [if_pos (decide_eq_true own)] at none
        omega
      · exact same (by omega)

end Others

/-! ## The operations of the call -/

section Operations
variable {s : Store} {r : String} {v : VersionedRunState} {schedule : Schedule} {n : Nat}

/-- The program, among the others from operation `n` on, returns `b` after `steps`. -/
def Returns {β : Type} (schedule : Schedule) (n : Nat) (s : Store) (p : StoreProg β) (b : β)
    (steps : List (Store × Store)) : Prop :=
  p.runAmong schedule.others n s = (.ok b, steps)

theorem get_returns (stored : Stored s r v) :
    ∃ w t, Stored t r w ∧ w.version = v.version + schedule.hits r n ∧
      (schedule.hits r n = 0 → w = v) ∧
      ∀ {β : Type} (f : Option VersionedRunState → StoreProg β) b steps,
        Returns schedule n s (getRun r >>= f) b steps ↔
          ∃ tail, steps = (t, t) :: tail ∧ Returns schedule (n + 1) t (f (some w)) b tail := by
  obtain ⟨w, seen, version, same⟩ := @stored_others _ _ _ schedule n stored
  refine ⟨w, _, seen, version, same, fun f b steps => ?_⟩
  refine runAmong_observe.trans ?_
  rw [seen.1]
  constructor
  · rintro ⟨a, read, rest⟩
    cases read
    exact rest
  · intro rest
    exact ⟨some w, rfl, rest⟩

/-- A put passes where the version it expects is stored. -/
theorem put_returns (stored : Stored s r v) {w : VersionedRunState} (own : w.state.runId.text = r)
    (expected : Int) :
    ∃ u t t', Stored t r u ∧ u.version = v.version + schedule.hits r n ∧
      (schedule.hits r n = 0 → u = v) ∧ Stored t' r w ∧
      ∀ {β : Type} (f : VersionedRunState → StoreProg β) b steps,
        Returns schedule n s (putRun w expected >>= f) b steps ↔
          u.version = expected ∧ ∃ tail, steps = (t, t') :: tail ∧
            Returns schedule (n + 1) t' (f w) b tail := by
  obtain ⟨u, seen, version, same⟩ := @stored_others _ _ _ schedule n stored
  have current := seen.versionOf own
  refine ⟨u, schedule.others n s, { schedule.others n s with
    runs := (schedule.others n s).runs.set w.state.runId w }, seen, version, same, ?_, ?_⟩
  · exact ⟨by rw [own]; exact Dict.get?_set_self .., own⟩
  intro β f b steps
  refine runAmong_operation.trans ?_
  by_cases matching : u.version = expected
  · have passed : (schedule.others n s).putRun w expected = (.ok w, { schedule.others n s with
        runs := (schedule.others n s).runs.set w.state.runId w }) := by
      unfold Store.putRun
      rw [current, if_neg (not_not.mpr matching)]
    rw [passed]
    constructor
    · rintro ⟨a, ok, rest⟩
      cases ok
      exact ⟨matching, rest⟩
    · rintro ⟨-, rest⟩
      exact ⟨w, rfl, rest⟩
  · have refused : ((schedule.others n s).putRun w expected).1.toOption = none := by
      unfold Store.putRun
      rw [current, if_pos matching]
      rfl
    constructor
    · rintro ⟨a, ok, -⟩
      rw [ok] at refused
      cases refused
    · rintro ⟨matched, -⟩
      exact absurd matched matching

/-- A put that expects the version of before the others committed is refused. -/
theorem put_refused (stored : Stored s r v) {w : VersionedRunState} (own : w.state.runId.text = r)
    (disturbed : schedule.hits r n ≠ 0) {β : Type} (f : VersionedRunState → StoreProg β) :
    ∃ e, (putRun w v.version >>= f).runAmong schedule.others n s =
      (.error e, [(schedule.others n s, schedule.others n s)]) := by
  obtain ⟨u, seen, version, -⟩ := @stored_others _ _ _ schedule n stored
  have stale : (schedule.others n s).versionOf w.state.runId ≠ v.version := by
    rw [seen.versionOf own]
    omega
  have refused : (schedule.others n s).putRun w v.version = (.error _, schedule.others n s) :=
    if_pos stale
  exact ⟨_, runAmong_refused refused⟩

/-- The step of a put nobody disturbs. -/
theorem put_step (stored : Stored s r v) {w : VersionedRunState} (own : w.state.runId.text = r)
    (quiet : schedule.hits r n = 0) {β : Type} (f : VersionedRunState → StoreProg β) :
    ∃ t t', Stored t r v ∧ Stored t' r w ∧
      (t, t') ∈ ((putRun w v.version >>= f).runAmong schedule.others n s).2 := by
  obtain ⟨u, seen, -, same⟩ := @stored_others _ _ _ schedule n stored
  rw [same quiet] at seen
  have passed : (schedule.others n s).putRun w v.version = (.ok w, { schedule.others n s with
      runs := (schedule.others n s).runs.set w.state.runId w }) :=
    if_neg (not_not.mpr (seen.versionOf own))
  have step := @step_mem_runAmong _ _ _ _ schedule.others n s f fun s => s.putRun w v.version
  rw [passed] at step
  exact ⟨_, _, seen, ⟨by rw [own]; exact Dict.get?_set_self .., own⟩, step⟩

/-- A sync passes where the version it expects is stored, and moves the position only. -/
theorem sync_returns (stored : Stored s r v) (expected : Int) :
    ∃ w t t', Stored t' r w ∧ w.version = v.version + schedule.hits r n ∧
      (schedule.hits r n = 0 → ∃ position, w = v.atPosition position) ∧
      ∀ {β : Type} (f : Unit → StoreProg β) b steps,
        Returns schedule n s (syncJournalPosition r expected >>= f) b steps ↔
          w.version = expected ∧ ∃ tail, steps = (t, t') :: tail ∧
            Returns schedule (n + 1) t' (f ()) b tail := by
  obtain ⟨u, seen, version, same⟩ := @stored_others _ _ _ schedule n stored
  by_cases matching : u.version = expected
  · subst matching
    have synced := RuntimeCommits.sync_held seen.1
    let position := ((schedule.others n s).journal r).lastRecordIndex
    refine ⟨u.atPosition position, schedule.others n s, { schedule.others n s with
      runs := (schedule.others n s).runs.set r (u.atPosition position) },
      ⟨Dict.get?_set_self .., seen.2⟩, version, fun quiet => ⟨position, by rw [same quiet]⟩,
      fun f b steps => ?_⟩
    refine runAmong_operation.trans ?_
    rw [synced]
    constructor
    · rintro ⟨a, -, rest⟩
      exact ⟨rfl, rest⟩
    · rintro ⟨-, rest⟩
      exact ⟨(), rfl, rest⟩
  · refine ⟨u, schedule.others n s, schedule.others n s, seen, version,
      fun quiet => ⟨u.metadata.journalPosition, (same quiet).symm ▸ rfl⟩, fun f b steps => ?_⟩
    have refused : ((schedule.others n s).syncJournalPosition r expected).1.toOption = none := by
      unfold Store.syncJournalPosition
      rw [seen.1]
      simp only [ne_eq, matching, not_false_eq_true, if_true]
      rfl
    refine runAmong_operation.trans ?_
    constructor
    · rintro ⟨a, ok, -⟩
      rw [ok] at refused
      cases refused
    · rintro ⟨matched, -⟩
      exact absurd matched matching

theorem append_returns (stored : Stored s r v) (runId : String) (body : RecordBody) :
    ∃ w t t', Stored t' r w ∧ w.version = v.version + schedule.hits r n ∧
      (schedule.hits r n = 0 → w = v) ∧
      ∀ {β : Type} (f : Unit → StoreProg β) b steps,
        Returns schedule n s (journalAppend runId body >>= f) b steps ↔
          ∃ tail, steps = (t, t') :: tail ∧ Returns schedule (n + 1) t' (f ()) b tail := by
  obtain ⟨w, seen, version, same⟩ := @stored_others _ _ _ schedule n stored
  refine ⟨w, schedule.others n s, (schedule.others n s).journalAppend runId body, seen, version, same,
    fun f b steps => ?_⟩
  refine runAmong_operation.trans ?_
  constructor
  · rintro ⟨a, -, rest⟩
    exact rest
  · intro rest
    exact ⟨(), rfl, rest⟩

/-- No commit of the run by the others before the operations at `offsets` from `n`. -/
def Calm (schedule : Schedule) (r : String) (n : Nat) (offsets : List Nat) : Prop :=
  ∀ i ∈ offsets, schedule.hits r (n + i) = 0

end Operations

/-! ## The two halves -/

section Halves
variable {s : Store} {r : String} {v : VersionedRunState} {schedule : Schedule} {n : Nat}

/-- The step stores the run with the lease registered, from the version before. -/
def Registers (r : String) (lease : WorkLease) (step : Store × Store) : Prop :=
  ∃ before generation, step.1.runs.get? r = some before ∧
    step.2.runs.get? r = some (registeredVersion before
      { lease with leaseGeneration := some generation } generation (before.version + 1))

/-- The step stores the run with the lease detached, from the version before. -/
def Detaches (r : String) (old : WorkLease) (step : Store × Store) : Prop :=
  ∃ before, step.1.runs.get? r = some before ∧
    step.2.runs.get? r = some (before.withLease old.leaseId { old with status := .released }
      (before.version + 1))

/-- The part of a grant after the detach. -/
def registration (granted : WorkLease) (version : Int) (runId : String)
    (record : VersionedRunState → LeaseRecord) : StoreProg (Option VersionedRunState) := do
  let read ← registerLeaseFull granted version
  let newRs ← runOrRaise "version" read
  journalLease runId newRs (record newRs)
  return some newRs

/-- The registration, one operation after another. -/
theorem registration_eq {granted : WorkLease} {generation : Nat}
    (concrete : granted.leaseGeneration = some generation) (version : Int) (runId : String)
    (record : VersionedRunState → LeaseRecord) :
    registration granted version runId record =
      getRun granted.runId >>= fun read => match read with
        | none => fail (leaseConflict "run not found")
        | some rs =>
          putRun (registeredVersion rs granted generation (version + 1)) version >>= fun _ =>
          syncJournalPosition granted.runId (version + 1) >>= fun _ =>
          getRun granted.runId >>= fun read => runOrRaise "version" read >>= fun newRs =>
          journalAppend runId (.lease ((record newRs).identified newRs)) >>= fun _ =>
          syncJournalPosition runId newRs.version >>= fun _ => pure (some newRs) := by
  unfold registration registerLeaseFull journalLease
  rw [concrete]
  simp only [bind_assoc]
  congr 1
  funext read
  cases read with
  | none => rfl
  | some rs => simp only [bind_assoc]; rfl

theorem returns_pure {β : Type} {a b : β} {steps : List (Store × Store)} :
    Returns schedule n s (pure a) b steps ↔ b = a ∧ steps = [] := by
  change (Except.ok a, []) = (Except.ok b, steps) ↔ _
  rw [Prod.mk.injEq, Except.ok.injEq, eq_comm, @eq_comm _ []]

/-- The registration returns where nobody commits the run before its comparisons, and
has then registered the lease. -/
theorem registration_returns (stored : Stored s r v) {lease granted : WorkLease} {generation : Nat}
    (mine : granted.runId.text = r)
    (made : granted = { lease with leaseGeneration := some generation })
    (record : VersionedRunState → LeaseRecord) :
    (∀ b steps, Returns schedule n s (registration granted v.version r record) b steps →
      Calm schedule r n [0, 1, 2, 4, 5] ∧ (∃ rs, b = some rs) ∧ ∃ step ∈ steps, Registers r lease step) ∧
    (Calm schedule r n [0, 1, 2, 4, 5] →
      ∃ b steps, Returns schedule n s (registration granted v.version r record) b steps) := by
  have concrete : granted.leaseGeneration = some generation := by rw [made]
  rw [registration_eq concrete, mine]
  obtain ⟨w₀, t₀, stored₀, version₀, same₀, get₀⟩ := @get_returns _ _ _ schedule n stored
  have own : (registeredVersion w₀ granted generation (v.version + 1)).state.runId.text = r := by
    rw [RuntimeCommits.registeredVersion_run, stored₀.2]
  obtain ⟨w₁, t₁, t₁', seen₁, version₁, same₁, stored₁, put₁⟩ :=
    @put_returns _ _ _ schedule (n + 1) stored₀ _ own v.version
  obtain ⟨w₂, t₂, t₂', stored₂, version₂, -, sync₂⟩ :=
    @sync_returns _ _ _ schedule (n + 2) stored₁ (v.version + 1)
  obtain ⟨w₃, t₃, stored₃, version₃, -, get₃⟩ := @get_returns _ _ _ schedule (n + 3) stored₂
  obtain ⟨w₄, t₄, t₄', stored₄, version₄, -, append₄⟩ := @append_returns _ _ _ schedule (n + 4)
    stored₃ r (.lease ((record w₃).identified w₃))
  obtain ⟨w₅, t₅, t₅', stored₅, version₅, -, sync₅⟩ :=
    @sync_returns _ _ _ schedule (n + 5) stored₄ w₃.version
  have registered : (registeredVersion w₀ granted generation (v.version + 1)).version =
      v.version + 1 := rfl
  constructor
  · intro b steps returned
    obtain ⟨_, rfl, after₀⟩ := (get₀ _ b steps).mp returned
    obtain ⟨matched₁, _, rfl, after₁⟩ := (put₁ _ b _).mp after₀
    obtain ⟨matched₂, _, rfl, after₂⟩ := (sync₂ _ b _).mp after₁
    obtain ⟨_, rfl, after₃⟩ := (get₃ _ b _).mp after₂
    obtain ⟨_, rfl, after₄⟩ := (append₄ _ b _).mp after₃
    obtain ⟨matched₅, _, rfl, after₅⟩ := (sync₅ _ b _).mp after₄
    obtain ⟨rfl, rfl⟩ := returns_pure.mp after₅
    have quiet₀ : schedule.hits r n = 0 := by omega
    have quiet₁ : schedule.hits r (n + 1) = 0 := by omega
    refine ⟨?_, ⟨w₃, rfl⟩, (t₁, t₁'), by simp, w₁, generation, seen₁.1, ?_⟩
    · intro i listed
      simp only [List.mem_cons, List.not_mem_nil, or_false] at listed
      rcases listed with rfl | rfl | rfl | rfl | rfl
      · exact quiet₀
      · exact quiet₁
      · omega
      · omega
      · omega
    · rw [← made, same₁ quiet₁, same₀ quiet₀]
      rw [same₀ quiet₀] at stored₁
      exact stored₁.1
  · intro calm
    have quiet : ∀ i, i ∈ [0, 1, 2, 4, 5] → schedule.hits r (n + i) = 0 := calm
    have quiet₀ : schedule.hits r n = 0 := quiet 0 (by decide)
    have quiet₁ := quiet 1 (by decide)
    have quiet₂ := quiet 2 (by decide)
    have quiet₄ := quiet 4 (by decide)
    have quiet₅ := quiet 5 (by decide)
    refine ⟨_, _, (get₀ _ _ _).mpr ⟨_, rfl, (put₁ _ _ _).mpr ⟨by omega, _, rfl,
      (sync₂ _ _ _).mpr ⟨by omega, _, rfl, (get₃ _ _ _).mpr ⟨_, rfl, (append₄ _ _ _).mpr ⟨_, rfl,
        (sync₅ _ _ _).mpr ⟨by omega, _, rfl, returns_pure.mpr ⟨rfl, rfl⟩⟩⟩⟩⟩⟩⟩⟩

/-- The detach, one operation after another. -/
theorem replaceExisting_eq {β : Type} (old : WorkLease) (expected : Int)
    (f : VersionedRunState × Int → StoreProg β) :
    replaceExisting (some old) expected v >>= f =
      putRun (v.withLease old.leaseId { old with status := .released } (expected + 1)) expected >>= fun _ =>
      syncJournalPosition v.state.runId (expected + 1) >>= fun _ =>
      getRun v.state.runId >>= fun read => runOrRaise "version" read >>= fun rs =>
      journalAppend rs.state.runId (.lease (LeaseRecord.identified
        { op := .detach, leaseId := old.leaseId, version := rs.version } rs)) >>= fun _ =>
      syncJournalPosition rs.state.runId rs.version >>= fun _ => f (rs, rs.version) := by
  unfold replaceExisting detachLease journalLease
  simp only [bind_assoc]
  rfl

/-- The detach returns where nobody commits the run before its comparisons, and has then
detached the lease; the rest goes on with the version it read back. -/
theorem detach_returns (stored : Stored s r v) (old : WorkLease) :
    ∃ rs t w, rs.state.runId.text = r ∧ Stored t r w ∧
      (Calm schedule r n [0, 1, 3, 4] → w.version = rs.version) ∧
      ∀ {β : Type} (f : VersionedRunState × Int → StoreProg β) b,
        (∀ steps, Returns schedule n s (replaceExisting (some old) v.version v >>= f) b steps →
          Calm schedule r n [0, 1, 3, 4] ∧ ∃ front tail, steps = front ++ tail ∧
            (∃ step ∈ front, Detaches r old step) ∧
            Returns schedule (n + 5) t (f (rs, rs.version)) b tail) ∧
        (Calm schedule r n [0, 1, 3, 4] → ∀ tail,
          Returns schedule (n + 5) t (f (rs, rs.version)) b tail →
            ∃ steps, Returns schedule n s (replaceExisting (some old) v.version v >>= f) b steps) := by
  let detached := v.withLease old.leaseId { old with status := .released } (v.version + 1)
  have version : detached.version = v.version + 1 := rfl
  obtain ⟨w₀, t₀, t₀', seen₀, version₀, same₀, stored₀, put₀⟩ :=
    @put_returns _ _ _ schedule n stored detached stored.2 v.version
  obtain ⟨w₁, t₁, t₁', stored₁, version₁, -, sync₁⟩ :=
    @sync_returns _ _ _ schedule (n + 1) stored₀ (v.version + 1)
  obtain ⟨rs, t₂, stored₂, version₂, -, get₂⟩ := @get_returns _ _ _ schedule (n + 2) stored₁
  obtain ⟨w₃, t₃, t₃', stored₃, version₃, -, append₃⟩ := @append_returns _ _ _ schedule (n + 3)
    stored₂ r (.lease (LeaseRecord.identified
      { op := .detach, leaseId := old.leaseId, version := rs.version } rs))
  obtain ⟨w₄, t₄, t₄', stored₄, version₄, -, sync₄⟩ :=
    @sync_returns _ _ _ schedule (n + 4) stored₃ rs.version
  refine ⟨rs, t₄', w₄, stored₂.2, stored₄, ?_, fun f b => ?_⟩
  · intro calm
    have quiet₃ := calm 3 (by decide)
    have quiet₄ := calm 4 (by decide)
    omega
  rw [replaceExisting_eq, stored.2]
  constructor
  · intro steps returned
    obtain ⟨matched₀, _, rfl, after₀⟩ := (put₀ _ b _).mp returned
    obtain ⟨matched₁, _, rfl, after₁⟩ := (sync₁ _ b _).mp after₀
    obtain ⟨_, rfl, after₂⟩ := (get₂ _ b _).mp after₁
    change Returns schedule (n + 3) t₂ (journalAppend rs.state.runId _ >>= fun _ =>
      syncJournalPosition rs.state.runId rs.version >>= fun _ => f (rs, rs.version)) b _ at after₂
    rw [stored₂.2] at after₂
    obtain ⟨_, rfl, after₃⟩ := (append₃ _ b _).mp after₂
    obtain ⟨matched₄, tail, rfl, after₄⟩ := (sync₄ _ b _).mp after₃
    have quiet₀ : schedule.hits r n = 0 := by omega
    refine ⟨?_, [_, _, _, _, _], tail, rfl, ⟨(t₀, t₀'), by simp, w₀, seen₀.1, ?_⟩, after₄⟩
    · intro i listed
      simp only [List.mem_cons, List.not_mem_nil, or_false] at listed
      rcases listed with rfl | rfl | rfl | rfl
      · exact quiet₀
      · omega
      · omega
      · omega
    · rw [same₀ quiet₀]
      exact stored₀.1
  · intro calm tail returned
    have quiet₀ : schedule.hits r n = 0 := calm 0 (by decide)
    have quiet₁ := calm 1 (by decide)
    have quiet₃ := calm 3 (by decide)
    have quiet₄ := calm 4 (by decide)
    have last : Returns schedule (n + 3) t₂ (journalAppend rs.state.runId (.lease
        (LeaseRecord.identified { op := .detach, leaseId := old.leaseId, version := rs.version } rs)) >>=
          fun _ => syncJournalPosition rs.state.runId rs.version >>= fun _ => f (rs, rs.version)) b
        ((t₃, t₃') :: (t₄, t₄') :: tail) := by
      rw [stored₂.2]
      exact (append₃ _ _ _).mpr ⟨_, rfl, (sync₄ _ _ _).mpr ⟨by omega, _, rfl, returned⟩⟩
    exact ⟨_, (put₀ _ _ _).mpr ⟨by omega, _, rfl, (sync₁ _ _ _).mpr ⟨by omega, _, rfl,
      (get₂ _ _ _).mpr ⟨_, rfl, last⟩⟩⟩⟩

end Halves

/-! ## The call -/

section Call
variable [Timestamps]

/-- A client reads the run of the lease and grants it, among the others: what the call
returns and its own operations. -/
def call (schedule : Schedule) (s : Store) (lease : WorkLease) :
    Except Raised (Option VersionedRunState) × List (Store × Store) :=
  (Request.body (.grant lease)).runAmong schedule.others 0 s

/-- The run the call reads. -/
def readBy (schedule : Schedule) (s : Store) (lease : WorkLease) : Option VersionedRunState :=
  (schedule.others 0 s).runs.get? lease.runId

/-- The lease of the same quad that is ACTIVE in the run the call reads. -/
def replacedBy (schedule : Schedule) (s : Store) (lease : WorkLease) : Option WorkLease :=
  (readBy schedule s lease).bind fun current => findActiveLease current.metadata.leases lease.quad

/-- The step changes no run but for its journal position. -/
def Untouched (step : Store × Store) : Prop :=
  ∀ r, (step.2.runs.get? r).map (·.atPosition (-1)) = (step.1.runs.get? r).map (·.atPosition (-1))

/-- The call returns with the new lease registered and the old one detached, or raises
with no run changed by it where there was an old lease. -/
def Atomic (schedule : Schedule) (s : Store) (lease : WorkLease) : Prop :=
  (∃ rs, (call schedule s lease).1 = .ok (some rs) ∧
    (∃ step ∈ (call schedule s lease).2, Registers lease.runId lease step) ∧
    ∀ old, replacedBy schedule s lease = some old →
      ∃ step ∈ (call schedule s lease).2, Detaches lease.runId old step) ∨
  ((∃ e, (call schedule s lease).1 = .error e) ∧
    ∀ old, replacedBy schedule s lease = some old →
      ∀ step ∈ (call schedule s lease).2, Untouched step)

/-- The others leave the run alone after the detach: operation 1 is its put, 2 and 5 its
syncs, 7 the put of the registration, 8 and 11 its syncs; before the reads 3 and 9 they
may commit. -/
def Undisturbed (schedule : Schedule) (s : Store) (lease : WorkLease) : Prop :=
  ∀ current old, readBy schedule s lease = some current →
    findActiveLease current.metadata.leases lease.quad = some old →
    (∃ granted, checkGrant lease current = .ok granted) →
    schedule.hits lease.runId 1 ≠ 0 ∨
      ∀ i ∈ [2, 4, 5, 6, 7, 8, 10, 11], schedule.hits lease.runId i = 0

section Outcomes
variable {schedule : Schedule} {s : Store} {lease : WorkLease} {run : VersionedRunState}

theorem call_eq {current : VersionedRunState} (read : readBy schedule s lease = some current) :
    call schedule s lease =
      (((grant lease current.version current).runAmong schedule.others 1 (schedule.others 0 s)).1,
        (schedule.others 0 s, schedule.others 0 s) ::
          ((grant lease current.version current).runAmong schedule.others 1
            (schedule.others 0 s)).2) := by
  have body : call schedule s lease = (((fun read : Option VersionedRunState => match read with
      | none => (pure none : StoreProg (Option VersionedRunState))
      | some current => grant lease current.version current) (readBy schedule s lease)).runAmong
        schedule.others 1 (schedule.others 0 s)).map id
          ((schedule.others 0 s, schedule.others 0 s) :: ·) := rfl
  rw [body, read]
  rfl

/-- A call whose lease is refused reads the run and raises. -/
theorem call_refused {current : VersionedRunState} {e : Raised}
    (read : readBy schedule s lease = some current) (refused : checkGrant lease current = .error e) :
    call schedule s lease = (.error e, [(schedule.others 0 s, schedule.others 0 s)]) := by
  rw [call_eq read]
  unfold grant
  change (((Prog.done (checkGrant lease current) >>= _).runAmong _ _ _).1, _ ::
    ((Prog.done (checkGrant lease current) >>= _).runAmong _ _ _).2) = _
  rw [refused]
  rfl

/-- The record `grant` journals for a registered version. -/
def grantRecord (lease : WorkLease) (newRs : VersionedRunState) : LeaseRecord :=
  { op := .grant, leaseId := lease.leaseId, version := newRs.version
    fencingToken := some lease.fencingToken, currentLeaseId := some lease.leaseId.text
    attemptId := some lease.attemptId }

/-- A grant whose lease passes its checks is its two halves. -/
theorem grant_eq {granted : WorkLease} {current : VersionedRunState} {expected : Int}
    (checked : checkGrant lease current = .ok granted) :
    grant lease expected current =
      replaceExisting (findActiveLease current.metadata.leases lease.quad) expected current >>=
        fun pair => registration granted pair.2 pair.1.state.runId (grantRecord lease) := by
  unfold grant
  change (Prog.done (checkGrant lease current) >>= _) = _
  rw [checked]
  rfl

omit [Timestamps] in
theorem untouched_refl (t : Store) : Untouched (t, t) := fun _ => rfl

omit [Timestamps] in
/-- A put of another version touches the run. -/
theorem touched {t t' : Store} {r : String} {v w : VersionedRunState} (before : Stored t r v)
    (after : Stored t' r w) (moved : w.version ≠ v.version) : ¬ Untouched (t, t') := by
  intro untouched
  have same := untouched r
  rw [show t'.runs.get? r = some w from after.1, show t.runs.get? r = some v from before.1] at same
  have versions : some w.version = some v.version := congrArg (Option.map VersionedRunState.version) same
  exact moved (Option.some.inj versions)

/-- A grant that replaces no lease is all or nothing. -/
theorem atomic_fresh {current : VersionedRunState} {granted : WorkLease}
    (stored : Stored (schedule.others 0 s) lease.runId current)
    (checked : checkGrant lease current = .ok granted)
    (absent : findActiveLease current.metadata.leases lease.quad = none) :
    Atomic schedule s lease := by
  have read : readBy schedule s lease = some current := stored.1
  have replaced : replacedBy schedule s lease = none := by
    unfold replacedBy
    rw [read]
    exact absent
  have alone : grant lease current.version current =
      registration granted current.version current.state.runId (grantRecord lease) := by
    rw [grant_eq checked, absent]
    rfl
  have outcome := call_eq read
  rw [alone, stored.2] at outcome
  obtain ⟨-, generation, -, made⟩ := RuntimeCommits.checkGrant_ok checked
  have mine : granted.runId.text = lease.runId.text := by rw [made]
  have halves := @registration_returns _ _ _ schedule 1 stored lease granted generation mine made
    (grantRecord lease)
  cases ended : (call schedule s lease).1 with
  | error e =>
    refine .inr ⟨⟨e, ended⟩, fun old found => ?_⟩
    rw [replaced] at found
    cases found
  | ok b =>
    rw [outcome] at ended
    obtain ⟨-, ⟨rs, rfl⟩, step, member, registers⟩ := halves.1 b _ (Prod.ext ended rfl)
    refine .inl ⟨rs, by rw [outcome]; exact ended, ⟨step, ?_, registers⟩, fun old found => ?_⟩
    · rw [outcome]
      exact List.mem_cons_of_mem _ member
    · rw [replaced] at found
      cases found

/-- A grant that replaces a lease, in which the others leave the detach alone, is all or
nothing exactly where they leave every later comparison alone. -/
theorem atomic_replacing_iff {current : VersionedRunState} {granted old : WorkLease}
    (stored : Stored (schedule.others 0 s) lease.runId current)
    (checked : checkGrant lease current = .ok granted)
    (existing : findActiveLease current.metadata.leases lease.quad = some old)
    (quiet : schedule.hits lease.runId 1 = 0) :
    Atomic schedule s lease ↔
      ∀ i ∈ [2, 4, 5, 6, 7, 8, 10, 11], schedule.hits lease.runId i = 0 := by
  have read : readBy schedule s lease = some current := stored.1
  have replaced : replacedBy schedule s lease = some old := by
    unfold replacedBy
    rw [read]
    exact existing
  have outcome := call_eq read
  rw [grant_eq checked, existing] at outcome
  obtain ⟨-, generation, -, made⟩ := RuntimeCommits.checkGrant_ok checked
  have mine : granted.runId.text = lease.runId.text := by rw [made]
  obtain ⟨rs, t, w, own, later, level, detach⟩ := @detach_returns _ _ _ schedule 1 stored old
  have register := @registration_returns _ _ _ schedule 6 later lease granted generation mine made
    (grantRecord lease)
  have whole := detach (fun pair => registration granted pair.2 pair.1.state.runId
    (grantRecord lease))
  simp only [own] at whole
  -- the call returned: both halves did, and nobody disturbed either of them
  have returned : ∀ b steps, Returns schedule 1 (schedule.others 0 s)
      (replaceExisting (some old) current.version current >>= fun pair =>
        registration granted pair.2 pair.1.state.runId (grantRecord lease)) b steps →
      (∀ i ∈ [2, 4, 5, 6, 7, 8, 10, 11], schedule.hits lease.runId i = 0) ∧ (∃ rs, b = some rs) ∧
        (∃ step ∈ steps, Registers lease.runId lease step) ∧
        ∃ step ∈ steps, Detaches lease.runId old step := by
    intro b steps ended
    obtain ⟨calm, front, tail, rfl, ⟨step, member, detaches⟩, rest⟩ := (whole b).1 steps ended
    rw [← level calm] at rest
    obtain ⟨calm', some_run, step', member', registers⟩ := register.1 b tail rest
    refine ⟨?_, some_run, ⟨step', List.mem_append_right _ member', registers⟩,
      ⟨step, List.mem_append_left _ member, detaches⟩⟩
    intro i listed
    simp only [List.mem_cons, List.not_mem_nil, or_false] at listed
    rcases listed with rfl | rfl | rfl | rfl | rfl | rfl | rfl | rfl
    · exact calm 1 (by decide)
    · exact calm 3 (by decide)
    · exact calm 4 (by decide)
    · exact calm' 0 (by decide)
    · exact calm' 1 (by decide)
    · exact calm' 2 (by decide)
    · exact calm' 4 (by decide)
    · exact calm' 5 (by decide)
  constructor
  · rintro (⟨b, ended, -⟩ | ⟨-, untouched⟩)
    · rw [outcome] at ended
      exact (returned _ _ (Prod.ext ended rfl)).1
    · -- the call raised: the detach is one of its steps
      obtain ⟨u, u', before, after, member⟩ := @put_step _ _ _ schedule 1 stored
        (current.withLease old.leaseId { old with status := .released } (current.version + 1))
        stored.2 quiet _ fun _ =>
          syncJournalPosition current.state.runId (current.version + 1) >>= fun _ =>
          getRun current.state.runId >>= fun read => runOrRaise "version" read >>= fun rs =>
          journalAppend rs.state.runId (.lease (LeaseRecord.identified
            { op := .detach, leaseId := old.leaseId, version := rs.version } rs)) >>= fun _ =>
          syncJournalPosition rs.state.runId rs.version >>= fun _ =>
            registration granted rs.version rs.state.runId (grantRecord lease)
      refine absurd (untouched old replaced (u, u') ?_) (touched before after ?_)
      · rw [outcome, replaceExisting_eq]
        exact List.mem_cons_of_mem _ member
      · change current.version + 1 ≠ current.version
        omega
  · intro calm
    have first : Calm schedule lease.runId 1 [0, 1, 3, 4] := by
      intro i listed
      simp only [List.mem_cons, List.not_mem_nil, or_false] at listed
      rcases listed with rfl | rfl | rfl | rfl
      · exact quiet
      · exact calm 2 (by decide)
      · exact calm 4 (by decide)
      · exact calm 5 (by decide)
    have second : Calm schedule lease.runId 6 [0, 1, 2, 4, 5] := by
      intro i listed
      simp only [List.mem_cons, List.not_mem_nil, or_false] at listed
      rcases listed with rfl | rfl | rfl | rfl | rfl
      · exact calm 6 (by decide)
      · exact calm 7 (by decide)
      · exact calm 8 (by decide)
      · exact calm 10 (by decide)
      · exact calm 11 (by decide)
    obtain ⟨b, tail, rest⟩ := register.2 second
    rw [level first] at rest
    obtain ⟨steps, ended⟩ := (whole b).2 first tail rest
    obtain ⟨-, ⟨after, rfl⟩, ⟨step, member, registers⟩, ⟨step', member', detaches⟩⟩ :=
      returned b steps ended
    have result : call schedule s lease = (.ok (some after),
        (schedule.others 0 s, schedule.others 0 s) :: steps) := by
      rw [outcome, show Prog.runAmong _ _ _ _ = _ from ended]
    refine .inl ⟨after, by rw [result], ⟨step, ?_, registers⟩, fun other found => ⟨step', ?_, ?_⟩⟩
    · rw [result]
      exact List.mem_cons_of_mem _ member
    · rw [result]
      exact List.mem_cons_of_mem _ member'
    · rw [replaced] at found
      cases found
      exact detaches

end Outcomes

/-- A grant among other clients is all or nothing exactly where it replaces no lease, its
detach is refused, or the others leave the run alone at every later comparison. -/
theorem grant_atomic_iff (schedule : Schedule) (s : Store) (lease : WorkLease)
    {run : VersionedRunState} (held : s.runs.get? lease.runId = some run)
    (own : run.state.runId = lease.runId) :
    Atomic schedule s lease ↔ Undisturbed schedule s lease := by
  obtain ⟨current, stored, -, -⟩ :=
    @stored_others s lease.runId run schedule 0 ⟨held, congrArg Identifier.text own⟩
  have read : readBy schedule s lease = some current := stored.1
  cases checked : checkGrant lease current with
  | error e =>
    have outcome := call_refused read checked
    refine iff_of_true (.inr ⟨⟨e, by rw [outcome]⟩, fun old _ step member => ?_⟩) ?_
    · rw [outcome] at member
      rw [List.mem_singleton.mp member]
      exact untouched_refl _
    · rintro seen old seenBy - ⟨granted, passed⟩
      rw [read] at seenBy
      cases seenBy
      rw [checked] at passed
      cases passed
  | ok granted =>
    cases existing : findActiveLease current.metadata.leases lease.quad with
    | none =>
      refine iff_of_true (atomic_fresh stored checked existing) ?_
      rintro seen old seenBy found -
      rw [read] at seenBy
      cases seenBy
      rw [existing] at found
      cases found
    | some old =>
      by_cases quiet : schedule.hits lease.runId 1 = 0
      · rw [atomic_replacing_iff stored checked existing quiet]
        constructor
        · intro calm _ _ _ _ _
          exact .inr calm
        · intro undisturbed
          exact (undisturbed current old read existing ⟨granted, checked⟩).resolve_left
            (not_not.mpr quiet)
      · refine iff_of_true (.inr ?_) fun _ _ _ _ _ => .inl quiet
        have outcome := call_eq read
        rw [grant_eq checked, existing, replaceExisting_eq] at outcome
        obtain ⟨e, refused⟩ := @put_refused _ _ _ schedule 1 stored
          (current.withLease old.leaseId { old with status := .released } (current.version + 1))
          stored.2 quiet _ fun _ =>
            syncJournalPosition current.state.runId (current.version + 1) >>= fun _ =>
            getRun current.state.runId >>= fun read => runOrRaise "version" read >>= fun rs =>
            journalAppend rs.state.runId (.lease (LeaseRecord.identified
              { op := .detach, leaseId := old.leaseId, version := rs.version } rs)) >>= fun _ =>
            syncJournalPosition rs.state.runId rs.version >>= fun _ =>
              registration granted rs.version rs.state.runId (grantRecord lease)
        rw [refused] at outcome
        refine ⟨⟨e, by rw [outcome]⟩, fun _ _ step member => ?_⟩
        rw [outcome] at member
        simp only [List.mem_cons, List.not_mem_nil, or_false] at member
        rcases member with rfl | rfl
        · exact untouched_refl _
        · exact untouched_refl _

end Call

open DwSuperApps.Guarantees.LeaseHolding (fixtureTimes seededStore seededRun lease2)

/-- lease.2 replaces lease.1 while another client commits the run before the version is
read back. -/
theorem grant_atomic_iff_seeded :
    let schedule : Schedule := fun n =>
      if n = 3 then [⟨seededRun.state, seededRun.metadata⟩] else []
    @Atomic fixtureTimes schedule seededStore lease2 := by
  intro schedule
  refine (@grant_atomic_iff fixtureTimes schedule seededStore lease2 seededRun rfl rfl).mpr ?_
  intro current old _ _ _
  exact .inr (by decide)

/-! ## A commit between the two halves -/

/-- Another client commits the run after the detach: lease.1 stays detached and lease.2
is not registered. -/
theorem grant_torn :
    ¬ ∀ (times : Timestamps) (schedule : Schedule) (s : Store) (lease : WorkLease)
      (run : VersionedRunState), s.runs.get? lease.runId = some run →
      run.state.runId = lease.runId → @Atomic times schedule s lease := by
  intro claim
  let schedule : Schedule := fun n => if n = 6 then [⟨seededRun.state, seededRun.metadata⟩] else []
  have raised : (@call fixtureTimes schedule seededStore lease2).1.toOption = none := by
    decide
  have moved : ((@call fixtureTimes schedule seededStore lease2).2.map fun step =>
      ((step.1.runs.get? "run.1").map (·.version), (step.2.runs.get? "run.1").map (·.version)))[1]? =
        some (some 1, some 2) := by
    decide
  have replaced : (@replacedBy schedule seededStore lease2).isSome = true := by decide
  rcases claim fixtureTimes schedule seededStore lease2 seededRun rfl rfl with
    ⟨b, returned, -⟩ | ⟨-, untouched⟩
  · rw [returned] at raised
    cases raised
  · obtain ⟨old, found⟩ := Option.isSome_iff_exists.mp replaced
    rw [List.getElem?_map] at moved
    obtain ⟨step, member, versions⟩ := Option.map_eq_some_iff.mp moved
    obtain ⟨before, after⟩ := Prod.mk.inj versions
    have same := congrArg (Option.map VersionedRunState.version)
      (untouched old found step (List.mem_of_getElem? member) "run.1")
    rw [Option.map_map, Option.map_map] at same
    have levels : (step.2.runs.get? "run.1").map (·.version) =
        (step.1.runs.get? "run.1").map (·.version) := same
    rw [before, after] at levels
    cases levels

end DwSuperApps.Guarantees.GrantInterleaving
