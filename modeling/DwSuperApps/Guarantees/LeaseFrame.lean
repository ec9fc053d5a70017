import DwSuperApps.Guarantees.LeaseHolding

/-!
# What a grant and an expiry leave alone

Both rebuild the run from its fields. The frame of a call is everything but the
table entries of its quad, the lease reference and status of its node, the list of
active leases and the record of its attempt.

* `Framed` is an equivalence of versions of a run, so the detach of a replaced lease
  and the registration are framed one after the other (`detached_framed`);
* `registered_framed_iff`, `expired_framed_iff`: exactly when each keeps the frame;
* `frame_kept_iff`: a call that succeeds keeps the frame of the store exactly where it
  rebuilds no run with fields to lose and takes no lease id of another quad.
-/
namespace DwSuperApps.Guarantees.LeaseFrame

open DwSuperApps.Lib DwSuperApps.Lib.Checked
open DwSuperApps.Source.Runtime
open DwSuperApps.Guarantees.RuntimeCommits DwSuperApps.Guarantees.LeaseHolding

/-! ## Frames -/

/-- The run without what a lease call may change. -/
def restOfRun (state : TeamRunState) : TeamRunState := { state with nodes := {}, activeLeases := [] }

/-- The node without what a lease call may change. -/
def restOfNode (node : NodeState) : NodeState := { node with status := .pending, leaseRef := none }

/-- The metadata without what a lease call may change. -/
def restOfMeta (metadata : RuntimeSnapshotMeta) : RuntimeSnapshotMeta :=
  { metadata with leases := {}, attemptRegistry := {}, journalPosition := -1 }

/-- The leases of every other quad are the same. -/
def TableFramed (quad : Quad) (before after : Dict String WorkLease) : Prop :=
  ∀ k lease, lease.quad ≠ quad → (after.get? k = some lease ↔ before.get? k = some lease)

/-- Two versions of a run that differ in what a lease call for `quad` may change. -/
structure Framed (quad : Quad) (before after : VersionedRunState) : Prop where
  run : restOfRun after.state = restOfRun before.state
  metadata : restOfMeta after.metadata = restOfMeta before.metadata
  nodes : ∀ k, k ≠ quad.nodeId.text → after.state.nodes.get? k = before.state.nodes.get? k
  node : (after.state.nodes.get? quad.nodeId).map restOfNode =
    (before.state.nodes.get? quad.nodeId).map restOfNode
  leases : TableFramed quad before.metadata.leases after.metadata.leases
  attempts : ∀ k, k ≠ quad.attemptId.text →
    after.metadata.attemptRegistry.get? k = before.metadata.attemptRegistry.get? k

/-- The stores differ in one run, and that run in what a lease call may change. -/
structure StoreFramed (quad : Quad) (runId : String) (s t : Store) : Prop where
  others : ∀ r, r ≠ runId → t.runs.get? r = s.runs.get? r
  run : ∀ before, s.runs.get? runId = some before →
    ∃ after, t.runs.get? runId = some after ∧ Framed quad before after

section Framed
variable {quad : Quad} {a b c : VersionedRunState}

theorem Framed.symm (framed : Framed quad a b) : Framed quad b a where
  run := framed.run.symm
  metadata := framed.metadata.symm
  nodes k other := (framed.nodes k other).symm
  node := framed.node.symm
  leases k lease other := (framed.leases k lease other).symm
  attempts k other := (framed.attempts k other).symm

theorem Framed.trans (first : Framed quad a b) (second : Framed quad b c) : Framed quad a c where
  run := second.run.trans first.run
  metadata := second.metadata.trans first.metadata
  nodes k other := (second.nodes k other).trans (first.nodes k other)
  node := second.node.trans first.node
  leases k lease other := (second.leases k lease other).trans (first.leases k lease other)
  attempts k other := (second.attempts k other).trans (first.attempts k other)

/-- A framed change before a call does not matter to its frame. -/
theorem Framed.iff_after (first : Framed quad a b) : Framed quad a c ↔ Framed quad b c :=
  ⟨first.symm.trans, first.trans⟩

theorem framed_atPosition {position : Int} :
    Framed quad a (b.atPosition position) ↔ Framed quad a b := by
  constructor <;>
  · intro framed
    exact ⟨framed.run, framed.metadata, framed.nodes, framed.node, framed.leases, framed.attempts⟩

end Framed

/-! ## The parts a call rebuilds -/

/-- The fields a rebuilt run loses have nothing to lose. -/
def Bare (state : TeamRunState) : Prop :=
  state.artifactRefs = [] ∧ state.lastEventCursor = none ∧ state.checkpoint = none ∧
    state.planVersion = "" ∧ state.runVersion = "" ∧ state.updatedAt = none

/-- The lease under the id, if there is one, is of the quad. -/
def OwnEntry (leases : Dict String WorkLease) (leaseId : String) (quad : Quad) : Prop :=
  ∀ taken, leases.get? leaseId = some taken → taken.quad = quad

theorem rebuilt_iff {state : TeamRunState} (nodes : Dict String NodeState)
    (activeLeases : List String) :
    restOfRun {
      runId := state.runId
      status := state.status
      nodes := nodes
      activeAttempts := state.activeAttempts
      activeLeases := activeLeases } = restOfRun state ↔ Bare state := by
  unfold restOfRun Bare
  rw [TeamRunState.mk.injEq]
  simp only [true_and]
  constructor
  · rintro ⟨artifacts, cursor, checkpoint, plan, run, updated⟩
    exact ⟨artifacts.symm, cursor.symm, checkpoint.symm, plan.symm, run.symm, updated.symm⟩
  · rintro ⟨artifacts, cursor, checkpoint, plan, run, updated⟩
    exact ⟨artifacts.symm, cursor.symm, checkpoint.symm, plan.symm, run.symm, updated.symm⟩

section Tables
variable {leases : Dict String WorkLease} {leaseId : String} {lease : WorkLease}

/-- Setting a lease keeps the leases of the other quads unless it takes the id of one. -/
theorem tableFramed_set_iff :
    TableFramed lease.quad leases (leases.set leaseId lease) ↔ OwnEntry leases leaseId lease.quad := by
  constructor
  · intro framed taken held
    by_contra other
    have kept := (framed leaseId taken other).mpr held
    rw [Dict.get?_set_self] at kept
    cases kept
    exact other rfl
  · intro own k held other
    rw [Dict.get?_set]
    by_cases same : k = leaseId
    · subst same
      rw [if_pos rfl]
      constructor
      · intro set
        cases set
        exact absurd rfl other
      · intro taken
        exact absurd (own held taken) other
    · rw [if_neg same]

theorem tableFramed_set {quad : Quad} (of : lease.quad = quad) (own : OwnEntry leases leaseId quad) :
    TableFramed quad leases (leases.set leaseId lease) := by
  subst of
  exact tableFramed_set_iff.mpr own

end Tables

theorem node_set {nodes : Dict String NodeState} {nodeId : String} {node updated : NodeState}
    (held : nodes.get? nodeId = some node) (same : restOfNode updated = restOfNode node) :
    ((nodes.set nodeId updated).get? nodeId).map restOfNode =
      (nodes.get? nodeId).map restOfNode := by
  rw [Dict.get?_set_self, held, Option.map_some, Option.map_some, same]

/-! ## Grant -/

section Grant
variable {current : VersionedRunState}

/-- The detach of the lease of the quad touches its table entry only. -/
theorem detached_framed (keyed : LeasesKeyed current) (quad : Quad) :
    Framed quad current (detached current (findActiveLease current.metadata.leases quad)) := by
  cases found : findActiveLease current.metadata.leases quad with
  | none => exact ⟨rfl, rfl, fun _ _ => rfl, rfl, fun _ _ _ => Iff.rfl, fun _ _ => rfl⟩
  | some old =>
    obtain ⟨⟨k, held⟩, ofQuad, -⟩ := findActiveLease_some found
    have name := (keyed k old held).1
    subst name
    refine ⟨rfl, rfl, fun _ _ => rfl, rfl, tableFramed_set ofQuad fun taken found => ?_, fun _ _ => rfl⟩
    rw [held] at found
    cases found
    exact ofQuad

theorem registeredAttempts_other {attempts : Dict String AttemptRecord} {lease : WorkLease}
    {generation : Nat} {k : String} (other : k ≠ lease.attemptId.text) :
    (registeredAttempts attempts lease generation).get? k = attempts.get? k := by
  unfold registeredAttempts
  split
  · rfl
  · exact Dict.get?_set_of_ne _ other _

/-- A registration keeps the frame exactly where the run is not rebuilt or has nothing
to lose, and the lease id is not taken by another quad. -/
theorem registered_framed_iff (granted : WorkLease) (generation : Nat) (version : Int) :
    Framed granted.quad current (registeredVersion current granted generation version) ↔
      (current.state.nodes.get? granted.nodeId = none ∨ Bare current.state) ∧
        OwnEntry current.metadata.leases granted.leaseId granted.quad := by
  have table : TableFramed granted.quad current.metadata.leases
      (registeredVersion current granted generation version).metadata.leases ↔
        OwnEntry current.metadata.leases granted.leaseId granted.quad := tableFramed_set_iff
  cases found : current.state.nodes.get? granted.nodeId with
  | none =>
    have run : (registeredVersion current granted generation version).state =
        { current.state with
          activeLeases := appendUnseen granted.leaseId current.state.activeLeases } := by
      unfold registeredVersion registeredRun
      simp only [found]
    constructor
    · intro framed
      exact ⟨.inl rfl, table.mp framed.leases⟩
    · rintro ⟨-, own⟩
      refine ⟨?_, rfl, fun k _ => ?_, ?_, table.mpr own, fun k other => ?_⟩
      · rw [run]
        rfl
      · rw [run]
      · rw [run]
      · exact registeredAttempts_other other
  | some node =>
    have run : (registeredVersion current granted generation version).state = {
        runId := current.state.runId
        status := current.state.status
        nodes := current.state.nodes.set granted.nodeId
          { node with leaseRef := some granted.leaseId.text }
        activeAttempts := current.state.activeAttempts
        activeLeases := appendUnseen granted.leaseId
          (activeIds (current.metadata.leases.set granted.leaseId granted)) } := by
      unfold registeredVersion registeredRun
      simp only [found]
    constructor
    · intro framed
      have rebuilt := framed.run
      rw [run, rebuilt_iff] at rebuilt
      exact ⟨.inr rebuilt, table.mp framed.leases⟩
    · rintro ⟨absent | bare, own⟩
      · cases absent
      refine ⟨?_, rfl, fun k other => ?_, ?_, table.mpr own, fun k other => ?_⟩
      · rw [run, rebuilt_iff]
        exact bare
      · rw [run]
        exact Dict.get?_set_of_ne _ other _
      · rw [run]
        exact node_set found rfl
      · exact registeredAttempts_other other

end Grant

/-! ## Expiry -/

section Expiry
variable {current value : VersionedRunState} {leaseId : String} {lease : WorkLease} {version : Int}

theorem expiredAttempts_other {attempts : Dict String AttemptRecord} {attemptId k : String}
    (other : k ≠ attemptId) : (expiredAttempts attempts attemptId).get? k = attempts.get? k := by
  unfold expiredAttempts
  split
  · rfl
  · exact Dict.get?_set_of_ne _ other _

/-- An expiry keeps the frame exactly where the run is not rebuilt or has nothing to
lose. -/
theorem expired_framed_iff (held : current.metadata.leases.get? leaseId = some lease)
    (computed : expiredVersion current current.metadata.leases leaseId lease version = .ok value) :
    Framed lease.quad current value ↔ ¬ boundLease current leaseId lease ∨ Bare current.state := by
  have own : OwnEntry current.metadata.leases leaseId lease.quad := by
    intro taken found
    rw [held] at found
    cases found
    rfl
  have table := expiredVersion_table computed
  have leases : TableFramed lease.quad current.metadata.leases value.metadata.leases := by
    rw [table]
    exact tableFramed_set rfl own
  unfold expiredVersion at computed
  simp only at computed
  split at computed
  · next bound =>
    split at computed
    · cases computed
    · next node found =>
      obtain ⟨_, -, same⟩ := bind_ok.mp computed
      cases same
      constructor
      · intro framed
        have rebuilt := framed.run
        exact .inr ((rebuilt_iff _ _).mp rebuilt)
      · rintro (loose | bare)
        · exact absurd bound loose
        refine ⟨(rebuilt_iff _ _).mpr bare, rfl, fun k other => ?_, ?_, leases, fun k other => ?_⟩
        · exact Dict.get?_set_of_ne _ other _
        · exact node_set found rfl
        · exact expiredAttempts_other other
  · next loose =>
    cases computed
    refine iff_of_true ⟨rfl, rfl, fun _ _ => rfl, rfl, leases, fun _ _ => rfl⟩ (.inl loose)

end Expiry

/-! ## The calls -/

/-- The quad a call is for: that of the lease granted, or of the stored lease that
expires. -/
def quadOf (run : VersionedRunState) : Request → Option Quad
  | .grant lease => some lease.quad
  | .expire _ leaseId _ => (run.metadata.leases.get? leaseId).map WorkLease.quad
  | .renew .. | .release .. | .revoke .. | .route _ => none

/-- The call rebuilds no run with fields to lose and takes no lease id of another quad. -/
def Spares (run : VersionedRunState) : Request → Prop
  | .grant lease =>
    (run.state.nodes.get? lease.nodeId = none ∨ Bare run.state) ∧
      OwnEntry run.metadata.leases lease.leaseId lease.quad
  | .expire _ leaseId _ =>
    (∀ lease, run.metadata.leases.get? leaseId = some lease → ¬ boundLease run leaseId lease) ∨
      Bare run.state
  | .renew .. | .release .. | .revoke .. | .route _ => True

section Calls
variable [Timestamps] {s t : Store} {run : VersionedRunState} {request : Request} {quad : Quad}

/-- What the commits of a grant or an expiry keep. -/
theorem planned_framed_iff (keyed : LeasesKeyed run) (about : quadOf run request = some quad)
    {commits : List Commit} (accepted : planned run request = .ok commits) :
    Framed quad run (lastValue run commits) ↔ Spares run request := by
  cases request with
  | grant lease =>
    cases about
    obtain ⟨generation, -, -, rfl⟩ := plannedGrant_ok accepted
    rw [lastValue_grant]
    have first := detached_framed keyed lease.quad
    refine first.iff_after.trans ?_
    refine (registered_framed_iff { lease with leaseGeneration := some generation } generation _).trans ?_
    have state : (detached run (findActiveLease run.metadata.leases lease.quad)).state = run.state := by
      cases findActiveLease run.metadata.leases lease.quad <;> rfl
    rw [state]
    refine and_congr Iff.rfl ?_
    -- the detach takes and frees no id for the other quads
    constructor
    · intro own taken held
      by_contra other
      exact other (own taken ((first.leases _ taken other).mpr held))
    · intro own taken held
      by_contra other
      exact other (own taken ((first.leases _ taken other).mp held))
  | expire runId leaseId now =>
    obtain ⟨lease, value, held, -, computed, rfl⟩ := plannedExpire_ok accepted
    obtain rfl : lease.quad = quad := by
      change (run.metadata.leases.get? leaseId).map WorkLease.quad = some quad at about
      rw [held] at about
      exact Option.some.inj about
    refine (expired_framed_iff held computed).trans (or_congr ?_ Iff.rfl)
    constructor
    · intro loose other found
      rw [held] at found
      cases found
      exact loose
    · intro loose
      exact loose lease held
  | renew _ _ _ _ _ | release _ _ _ | revoke _ _ | route _ => cases about

/-- A grant or an expiry that succeeds keeps the frame of the store exactly where it
rebuilds no run with fields to lose and takes no lease id of another quad. -/
theorem frame_kept_iff (keyed : StoreKeyed s) (held : s.runs.get? request.runId = some run)
    (about : quadOf run request = some quad) {result : Option VersionedRunState}
    (done : (request.perform run).run s = (.ok result, t)) :
    StoreFramed quad request.runId s t ↔ Spares run request := by
  have isLease : request.isRoute = false := by
    cases request <;> first | rfl | cases about
  have meets := perform_run held (keyed.run _ run held) (keyed.leases _ run held) isLease rfl
  cases accepted : planned run request with
  | error e =>
    rw [accepted, done] at meets
    cases meets
  | ok commits =>
    rw [accepted] at meets
    obtain ⟨answer, ended⟩ := meets
    obtain rfl : t = commitAll s request.runId commits := congrArg Prod.snd (done.symm.trans ended)
    obtain ⟨position, stored⟩ := commitAll_run held commits
    rw [← planned_framed_iff (keyed.leases _ run held) about accepted,
      ← @framed_atPosition _ _ _ position]
    constructor
    · intro framed
      obtain ⟨after, found, kept⟩ := framed.run run held
      rw [stored] at found
      cases found
      exact kept
    · intro kept
      refine ⟨fun r other => commitAll_other s other commits, fun before found => ?_⟩
      rw [held] at found
      cases found
      exact ⟨_, stored, kept⟩

end Calls

/-- lease.2 replaces lease.1 of the seeded run, which has no field to lose. -/
theorem frame_kept_seeded :
    ∃ t, StoreFramed lease2.quad "run.1" seededStore t ∧
      (t.runs.get? "run.1").map (·.version) = some 3 := by
  have done : (@Request.perform fixtureTimes seededRun (.grant lease2)).run seededStore =
      (.ok ((@Request.perform fixtureTimes seededRun (.grant lease2)).run seededStore).1.toOption.join,
        ((@Request.perform fixtureTimes seededRun (.grant lease2)).run seededStore).2) := by
    decide
  have spares : Spares seededRun (.grant lease2) := by
    refine ⟨.inr ⟨rfl, rfl, rfl, rfl, rfl, rfl⟩, fun taken found => ?_⟩
    have free : seededRun.metadata.leases.get? lease2.leaseId = none := by decide
    cases free.symm.trans found
  exact ⟨_, (@frame_kept_iff fixtureTimes seededStore _ seededRun (.grant lease2) lease2.quad
    seeded_keyed rfl rfl _ done).mpr spares, by decide⟩

/-! ## A run with fields to lose -/

/-- The seeded run with a plan version and an artifact. -/
def plannedRun : VersionedRunState :=
  { seededRun with
    state := { seededRun.state with planVersion := "plan.2", artifactRefs := ["artifact.1"] } }

def plannedStore : Store where
  runs := ⟨[("run.1", plannedRun)], by simp⟩

/-- The grant of lease.2 empties the plan version and the artifacts of the run. -/
theorem grant_empties_plan :
    ¬ ∀ (times : Timestamps) (s t : Store) (request : Request) (run : VersionedRunState)
      (quad : Quad) (result : Option VersionedRunState),
      s.runs.get? request.runId = some run → quadOf run request = some quad →
      (@Request.perform times run request).run s = (.ok result, t) →
      StoreFramed quad request.runId s t := by
  intro claim
  have done : (@Request.perform fixtureTimes plannedRun (.grant lease2)).run plannedStore =
      (.ok ((@Request.perform fixtureTimes plannedRun (.grant lease2)).run plannedStore).1.toOption.join,
        ((@Request.perform fixtureTimes plannedRun (.grant lease2)).run plannedStore).2) := by
    decide
  obtain ⟨after, found, kept⟩ :=
    (claim fixtureTimes plannedStore _ (.grant lease2) plannedRun lease2.quad _ rfl rfl done).run
      plannedRun rfl
  have lost : ((@Request.perform fixtureTimes plannedRun (.grant lease2)).run
      plannedStore).2.runs.get? "run.1" = some after → after.state.planVersion = "" := by
    intro stored
    have plan := congrArg (Option.map (·.state.planVersion)) stored
    have empty : (((@Request.perform fixtureTimes plannedRun (.grant lease2)).run
      plannedStore).2.runs.get? "run.1").map (·.state.planVersion) = some "" := by decide
    exact Option.some.inj (plan.symm.trans empty)
  have plans := congrArg TeamRunState.planVersion kept.run
  change after.state.planVersion = "plan.2" at plans
  rw [lost found] at plans
  exact absurd plans (by decide)

end DwSuperApps.Guarantees.LeaseFrame
