import DwSuperApps.Guarantees.JournalReplay
import DwSuperApps.Guarantees.LeaseReferences

/-!
# Replaying lease records

Five live operations write lease records; `apply_lease_record` reads them back. The
two part on the generation of a grant, the new expiry of a renewal and the names a
retired lease leaves behind. `Diverges` says exactly on which calls.
-/
namespace DwSuperApps.Guarantees.LeaseReplay

open DwSuperApps.Lib DwSuperApps.Lib.Checked
open DwSuperApps.Source.Runtime
open DwSuperApps.Guarantees.JournalReplay DwSuperApps.Guarantees.RuntimeCommits
open DwSuperApps.Guarantees.LeaseHolding DwSuperApps.Guarantees.LeaseReferences

/-! ## Agreement -/

def leaseView (lease : WorkLease) : LeaseStatus × String × String :=
  (lease.status, lease.expiresAt, lease.fencingToken)

def attemptView (attempt : AttemptRecord) : Option String × Nat × String :=
  (attempt.currentLeaseId, attempt.leaseGeneration, attempt.status)

/-- A replayed run agrees with the live one. -/
structure Agrees (live replayed : VersionedRunState) : Prop where
  nodes : ∀ n, replayed.state.nodes.get? n = live.state.nodes.get? n
  activeLeases : replayed.state.activeLeases = live.state.activeLeases
  leases : ∀ k, (replayed.metadata.leases.get? k).map leaseView =
    (live.metadata.leases.get? k).map leaseView
  attempts : ∀ k, (replayed.metadata.attemptRegistry.get? k).map attemptView =
    (live.metadata.attemptRegistry.get? k).map attemptView
  version : replayed.version = live.version
  position : replayed.metadata.journalPosition = live.metadata.journalPosition

theorem Agrees.refl (v : VersionedRunState) : Agrees v v :=
  ⟨fun _ => rfl, rfl, fun _ => rfl, fun _ => rfl, rfl, rfl⟩

theorem map_set {κ α β : Type} [DecidableEq κ] {d : Dict κ α} {k : κ} {a : α} (view : α → β) (l : κ) :
    ((d.set k a).get? l).map view = if l = k then some (view a) else (d.get? l).map view := by
  rw [Dict.get?_set]
  split <;> rfl

/-! ## One record -/

section Record
variable {live value : VersionedRunState} {st : Replay} {leaseId : String} {lease : WorkLease}

/-- A lease that was held is in the replayed table, under the same view. -/
theorem replayed_lease (agrees : Agrees live st.state)
    (held : live.metadata.leases.get? leaseId = some lease) :
    ∃ lease', st.state.metadata.leases.get? leaseId = some lease' ∧
      leaseView lease' = leaseView lease := by
  have same := agrees.leases leaseId
  rw [held] at same
  exact Option.map_eq_some_iff.mp same

/-- Replay sets the status the operation set. -/
theorem withStatus_agrees (agrees : Agrees live st.state)
    (held : live.metadata.leases.get? leaseId = some lease) (status : LeaseStatus) (k : String) :
    ((withStatus st.state.metadata.leases leaseId status).get? k).map leaseView =
      ((live.metadata.leases.set leaseId { lease with status := status }).get? k).map leaseView := by
  obtain ⟨lease', found, view⟩ := replayed_lease agrees held
  unfold withStatus
  rw [found]
  simp only [map_set]
  split
  · obtain ⟨-, rest⟩ := Prod.mk.inj view
    exact congrArg (fun rest => some (status, rest)) rest
  · exact agrees.leases k

/-- A record that retires a lease. -/
theorem retire_agrees_iff (agrees : Agrees live st.state) (mirrored : st.sidecars = st.state.metadata)
    (held : live.metadata.leases.get? leaseId = some lease) {p : LeaseRecord} {index : Nat}
    (names : p.leaseId = leaseId) (next : p.version = live.version + 1)
    (version : value.version = live.version + 1)
    (table : value.metadata.leases =
      live.metadata.leases.set leaseId { lease with status := retiredStatus p.op })
    (nodes : ∀ n, (replayedNodes st.state.state.nodes p).get? n = value.state.nodes.get? n)
    (list : value.state.activeLeases = live.state.activeLeases) :
    Agrees (value.atPosition index) (applyRetireRecord st p index).state ↔
      leaseId ∉ live.state.activeLeases ∧
        ∀ k, ((unboundAttempts st.state.metadata.attemptRegistry p).get? k).map attemptView =
          (value.metadata.attemptRegistry.get? k).map attemptView := by
  subst names
  have filtered : st.state.state.activeLeases.filter (· ≠ p.leaseId) = value.state.activeLeases ↔
      p.leaseId ∉ live.state.activeLeases := by
    rw [list, agrees.activeLeases, List.filter_eq_self]
    constructor
    · intro all member
      exact absurd rfl (of_decide_eq_true (all _ member))
    · intro absent id member
      exact decide_eq_true fun same => absent (same ▸ member)
  constructor
  · intro agrees'
    refine ⟨filtered.mp agrees'.activeLeases, fun k => ?_⟩
    rw [← mirrored]
    exact agrees'.attempts k
  · rintro ⟨unlisted, attempts⟩
    refine ⟨nodes, filtered.mpr unlisted, ?_, ?_, ?_, rfl⟩
    · intro k
      change ((withStatus st.sidecars.leases p.leaseId (retiredStatus p.op)).get? k).map leaseView =
        (value.metadata.leases.get? k).map leaseView
      rw [mirrored, table]
      exact withStatus_agrees agrees held _ k
    · intro k
      change ((unboundAttempts st.sidecars.attemptRegistry p).get? k).map attemptView = _
      rw [mirrored]
      exact attempts k
    · change replayedVersion p.version st.state = value.version
      rw [next, version, replayedVersion_next agrees.version]

/-- The attempt of the lease is bound to it. -/
def Bound (v : VersionedRunState) (leaseId : String) (lease : WorkLease) (attempt : AttemptRecord) :
    Prop :=
  v.metadata.attemptRegistry.get? lease.attemptId = some attempt ∧
    attempt.currentLeaseId = some leaseId

/-- What a retired lease does to the view of an attempt bound to it. -/
def unbindView (leaseId : String) (view : Option String × Nat × String) :
    Option String × Nat × String :=
  if view.1 = some leaseId then (none, view.2) else view

theorem unbound_view {attempts : Dict String AttemptRecord} {p : LeaseRecord} {a : Identifier}
    (attempt : p.attemptId = some a) (k : String) :
    ((unboundAttempts attempts p).get? k).map attemptView =
      if k = a.text then ((attempts.get? k).map attemptView).map (unbindView p.leaseId)
      else (attempts.get? k).map attemptView := by
  unfold unboundAttempts
  rw [attempt]
  simp only
  by_cases own : k = a.text
  · subst own
    rw [if_pos rfl]
    cases held : attempts.get? a.text with
    | none => simp [held]
    | some attempt =>
      by_cases bound : attempt.currentLeaseId = some p.leaseId
      · simp [bound, attemptView, unbindView]
      · simp [bound, held, attemptView, unbindView]
  · rw [if_neg own]
    split
    · rfl
    · split
      · rw [Dict.get?_set_of_ne _ own]
      · rfl

/-- Replay unbinds the attempt; an operation that leaves the registry does not. -/
theorem unbound_unchanged_iff (agrees : Agrees live st.state) {p : LeaseRecord}
    (names : p.leaseId = leaseId) (attempt : p.attemptId = some lease.attemptId) :
    (∀ k, ((unboundAttempts st.state.metadata.attemptRegistry p).get? k).map attemptView =
        (live.metadata.attemptRegistry.get? k).map attemptView) ↔
      ∀ attempt, ¬ Bound live leaseId lease attempt := by
  constructor
  · rintro same attempt ⟨held, current⟩
    have here := same lease.attemptId.text
    rw [unbound_view ‹_›, if_pos rfl, agrees.attempts, held, names] at here
    simp [attemptView, unbindView, current] at here
  · intro unbound k
    rw [unbound_view attempt, agrees.attempts, names]
    split
    · next own =>
      subst own
      cases held : live.metadata.attemptRegistry.get? lease.attemptId with
      | none => rfl
      | some attempt =>
        have free : attempt.currentLeaseId ≠ some leaseId := fun current =>
          unbound attempt ⟨held, current⟩
        simp [attemptView, unbindView, free]
    · rfl

/-- An expiry of a bound lease also sets the status of the attempt. -/
theorem unbound_expired_iff (agrees : Agrees live st.state) {p : LeaseRecord}
    (names : p.leaseId = leaseId) (attempt : p.attemptId = some lease.attemptId)
    {bound : AttemptRecord} (binds : Bound live leaseId lease bound) :
    (∀ k, ((unboundAttempts st.state.metadata.attemptRegistry p).get? k).map attemptView =
        ((expiredAttempts live.metadata.attemptRegistry lease.attemptId).get? k).map attemptView) ↔
      bound.status = NodeStatus.leaseExpired.value := by
  have expired (k : String) :
      ((expiredAttempts live.metadata.attemptRegistry lease.attemptId).get? k).map attemptView =
        if k = lease.attemptId.text then
          some (none, bound.leaseGeneration, NodeStatus.leaseExpired.value)
        else (live.metadata.attemptRegistry.get? k).map attemptView := by
    unfold expiredAttempts
    rw [binds.1]
    exact map_set attemptView k
  have replayed (k : String) :
      ((unboundAttempts st.state.metadata.attemptRegistry p).get? k).map attemptView =
        if k = lease.attemptId.text then some (none, bound.leaseGeneration, bound.status)
        else (live.metadata.attemptRegistry.get? k).map attemptView := by
    rw [unbound_view attempt, agrees.attempts, names]
    split
    · next own =>
      rw [own, binds.1]
      simp [attemptView, unbindView, binds.2]
    · rfl
  simp only [expired, replayed]
  constructor
  · intro same
    have here := same lease.attemptId.text
    simpa using here
  · intro status k
    rw [status]

end Record

/-! ## One call -/

section Calls
variable [Timestamps]

/-- What `renew` checks of an ACTIVE lease. -/
def Renewable (lease : WorkLease) (newExpiresAt fencingToken now : String) : Prop :=
  lease.fencingToken = fencingToken ∧ isExpired lease now = .ok false ∧
    ∃ proposed held, parseIsoInstant newExpiresAt = .ok proposed ∧
      parseIsoInstant lease.expiresAt = .ok held ∧ held ≤ proposed

/-- The call goes through and its record does not say what it did. -/
def Diverges (current : VersionedRunState) : Request → Prop
  | .grant lease => Grantable current lease
  | .renew _ leaseId newExpiresAt fencingToken now =>
    ∃ lease, current.metadata.leases.get? leaseId = some lease ∧ lease.status = .active ∧
      Renewable lease newExpiresAt fencingToken now ∧ lease.expiresAt ≠ newExpiresAt
  | .release _ leaseId now =>
    ∃ lease, current.metadata.leases.get? leaseId = some lease ∧ lease.status = .active ∧
      isExpired lease now = .ok false ∧
      (leaseId ∈ current.state.activeLeases ∨ ∃ attempt, Bound current leaseId lease attempt)
  | .revoke _ leaseId =>
    ∃ lease, current.metadata.leases.get? leaseId = some lease ∧ lease.status = .active ∧
      (leaseId ∈ current.state.activeLeases ∨ ∃ attempt, Bound current leaseId lease attempt)
  | .expire _ leaseId _ =>
    ∃ lease, current.metadata.leases.get? leaseId = some lease ∧ lease.status = .active ∧
      (boundLease current leaseId lease → ∀ node, current.state.nodes.get? lease.nodeId = some node →
        .leaseExpired ∈ nodeTransitions node.status) ∧
      (leaseId ∈ current.state.activeLeases ∨ ∃ attempt, Bound current leaseId lease attempt ∧
        (boundLease current leaseId lease → attempt.status ≠ NodeStatus.leaseExpired.value))
  | .route _ => False

variable {live : VersionedRunState} {st : Replay} {leaseId : String} {lease : WorkLease}

theorem renewable_iff {newExpiresAt fencingToken now : String}
    (held : live.metadata.leases.get? leaseId = some lease) (active : lease.status = .active) :
    Renewable lease newExpiresAt fencingToken now ↔
      ∃ commits, plannedRenew live leaseId newExpiresAt fencingToken now = .ok commits := by
  have named : leaseNamed live leaseId = .ok lease := by
    unfold leaseNamed
    rw [held]
  unfold Renewable plannedRenew
  rw [named, ok_bind]
  constructor
  · rintro ⟨token, unexpired, proposed, expires, parsed, parsed', later⟩
    have checked : checkRenew lease leaseId newExpiresAt fencingToken now = .ok () := by
      unfold checkRenew
      rw [ensure_of token, ok_bind, unexpired, ok_bind, ensure_of rfl, ok_bind, parsed, ok_bind,
        parsed', ok_bind, ensure_of later]
    rw [parsed, ok_bind, if_neg (not_not.mpr active), checked]
    exact ⟨_, rfl⟩
  · rintro ⟨commits, accepted⟩
    obtain ⟨proposed, parsed, accepted⟩ := bind_ok.mp accepted
    rw [if_neg (not_not.mpr active)] at accepted
    obtain ⟨_, checked, -⟩ := bind_ok.mp accepted
    obtain ⟨_, token, checked⟩ := bind_ok.mp checked
    obtain ⟨expired, read, checked⟩ := bind_ok.mp checked
    obtain ⟨_, unexpired, checked⟩ := bind_ok.mp checked
    obtain ⟨proposed', parsed', checked⟩ := bind_ok.mp checked
    obtain ⟨expires, read', later⟩ := bind_ok.mp checked
    exact ⟨ensure_ok.mp token, read.trans (congrArg Except.ok (ensure_ok.mp unexpired)),
      proposed', expires, parsed', read', ensure_ok.mp later⟩

/-- A diverging call goes through. -/
theorem diverges_planned {request : Request} (diverges : Diverges live request) :
    ∃ commits, planned live request = .ok commits := by
  cases request with
  | grant lease => exact grantable_iff.mp diverges
  | renew _ leaseId newExpiresAt fencingToken now =>
    obtain ⟨lease, held, active, renewable, -⟩ := diverges
    exact (renewable_iff held active).mp renewable
  | release runId leaseId now =>
    obtain ⟨lease, held, active, unexpired, -⟩ := diverges
    have breaks : Breaks live (.release runId leaseId now) := ⟨lease, held, active, unexpired⟩
    exact release_breaks.mp breaks
  | revoke _ leaseId =>
    obtain ⟨lease, held, active, -⟩ := diverges
    exact revoke_breaks.mp ⟨lease, held, active⟩
  | expire runId leaseId now =>
    obtain ⟨lease, held, active, allowed, -⟩ := diverges
    have breaks : Breaks live (.expire runId leaseId now) := ⟨lease, held, active, allowed⟩
    exact expire_breaks.mp breaks
  | route event => exact absurd diverges id

/-- The record of a call that is not a grant, against the call. -/
def Recorded (live : VersionedRunState) (st : Replay) (request : Request) (c : Commit) : Prop :=
  ∃ p, c.body = .lease p ∧ ∀ index : Nat, ∃ st', applyLeaseRecord st p index = .ok st' ∧
    (Agrees (c.value.atPosition index) st'.state ↔ ¬ Diverges live request)

omit [Timestamps] in
/-- A renew record changes no lease. -/
theorem renew_agrees_iff (agrees : Agrees live st.state) (mirrored : st.sidecars = st.state.metadata)
    (held : live.metadata.leases.get? leaseId = some lease) (newExpiresAt : String) (index : Int) :
    Agrees ((live.withLease leaseId { lease with expiresAt := newExpiresAt }
        (live.version + 1)).atPosition index)
      (Replay.rebuilt st.state.state (replayedVersion (live.version + 1) st.state)
        { st.sidecars with journalPosition := index }).state ↔
      lease.expiresAt = newExpiresAt := by
  constructor
  · intro agrees'
    have here := agrees'.leases leaseId
    change (st.sidecars.leases.get? leaseId).map leaseView =
      ((live.metadata.leases.set leaseId _).get? leaseId).map leaseView at here
    rw [mirrored, agrees.leases, held, Dict.get?_set_self] at here
    exact (Prod.mk.inj (Prod.mk.inj (Option.some.inj here)).2).1
  · intro same
    subst same
    refine ⟨agrees.nodes, agrees.activeLeases, ?_, ?_, replayedVersion_next agrees.version, rfl⟩
    · intro k
      change (st.sidecars.leases.get? k).map leaseView =
        ((live.metadata.leases.set leaseId lease).get? k).map leaseView
      rw [mirrored, Dict.set_self held]
      exact agrees.leases k
    · intro k
      change (st.sidecars.attemptRegistry.get? k).map attemptView = _
      rw [mirrored]
      exact agrees.attempts k

omit [Timestamps] in
/-- Two ways to say that a retired lease leaves no name. -/
theorem unnamed_iff : (leaseId ∉ live.state.activeLeases ∧ ∀ attempt, ¬ Bound live leaseId lease attempt) ↔
    ¬ (leaseId ∈ live.state.activeLeases ∨ ∃ attempt, Bound live leaseId lease attempt) := by
  rw [not_or, not_exists]

theorem release_recorded (agrees : Agrees live st.state) (mirrored : st.sidecars = st.state.metadata)
    {runId : Identifier} {now : String} (held : live.metadata.leases.get? leaseId = some lease)
    (active : lease.status = .active) (unexpired : isExpired lease now = .ok false) :
    Recorded live st (.release runId leaseId now)
      (replaceLease live { lease with status := .released }
        { op := .release, leaseId, version := live.version + 1
          attemptId := some lease.attemptId }) := by
  refine ⟨_, rfl, fun index => ⟨_, rfl, ?_⟩⟩
  refine Iff.trans (retire_agrees_iff agrees mirrored held rfl rfl rfl rfl agrees.nodes rfl) ?_
  refine Iff.trans (and_congr_right fun _ => unbound_unchanged_iff agrees rfl rfl) ?_
  refine unnamed_iff.trans (not_congr ?_)
  constructor
  · intro named
    exact ⟨lease, held, active, unexpired, named⟩
  · rintro ⟨other, held', -, -, named⟩
    cases held.symm.trans held'
    exact named

theorem revoke_recorded (agrees : Agrees live st.state)
    (mirrored : st.sidecars = st.state.metadata) {runId : Identifier}
    (held : live.metadata.leases.get? leaseId = some lease) (active : lease.status = .active) :
    Recorded live st (.revoke runId leaseId)
      (replaceLease live { lease with status := .revoked }
        { op := .revoke, leaseId, version := live.version + 1
          fencingToken := some lease.fencingToken, attemptId := some lease.attemptId }) := by
  refine ⟨_, rfl, fun index => ⟨_, rfl, ?_⟩⟩
  refine Iff.trans (retire_agrees_iff agrees mirrored held rfl rfl rfl rfl agrees.nodes rfl) ?_
  refine Iff.trans (and_congr_right fun _ => unbound_unchanged_iff agrees rfl rfl) ?_
  refine unnamed_iff.trans (not_congr ?_)
  constructor
  · intro named
    exact ⟨lease, held, active, named⟩
  · rintro ⟨other, held', -, named⟩
    cases held.symm.trans held'
    exact named

omit [Timestamps] in
/-- The run an expiry leaves, for a bound lease and for another. -/
theorem expiredVersion_cases {value : VersionedRunState} {version : Int}
    (computed : expiredVersion live live.metadata.leases leaseId lease version = .ok value) :
    (boundLease live leaseId lease ∧ ∃ node, live.state.nodes.get? lease.nodeId = some node ∧
        value.state = expiredRun live.state lease node ∧
        value.metadata.attemptRegistry =
          expiredAttempts live.metadata.attemptRegistry lease.attemptId) ∨
      (¬ boundLease live leaseId lease ∧ value.state = live.state ∧
        value.metadata.attemptRegistry = live.metadata.attemptRegistry) := by
  unfold expiredVersion at computed
  simp only at computed
  split at computed
  · next bound =>
    split at computed
    · cases computed
    · next node found =>
      obtain ⟨_, _, same⟩ := bind_ok.mp computed
      cases same
      exact .inl ⟨bound, node, found, rfl, rfl⟩
  · next unbound =>
    cases computed
    exact .inr ⟨unbound, rfl, rfl⟩

omit [Timestamps] in
/-- Replay gives the node of a bound lease the status live expiry gave it. -/
theorem expired_nodes (agrees : Agrees live st.state) {node : NodeState}
    (found : live.state.nodes.get? lease.nodeId = some node)
    (bound : node.leaseRef = some lease.leaseId.text) {p : LeaseRecord} (op : p.op = .expire)
    (status : p.nodeStatus = some .leaseExpired) (names : p.nodeId = some lease.nodeId) (n : String) :
    (replayedNodes st.state.state.nodes p).get? n = (expiredRun live.state lease node).nodes.get? n := by
  have held : st.state.state.nodes.get? lease.nodeId = some node := (agrees.nodes _).trans found
  unfold replayedNodes expiredRun
  rw [op, status, names]
  simp only [held, Option.getD_some, Dict.get?_set]
  split
  · rw [← bound]
  · exact agrees.nodes n

omit [Timestamps] in
theorem unexpired_nodes {nodes : Dict String NodeState} {p : LeaseRecord}
    (status : p.nodeStatus = none) : replayedNodes nodes p = nodes := by
  unfold replayedNodes
  rw [status]
  cases p.op <;> rfl

/-- The record of an expiry. -/
def expireRecord (live : VersionedRunState) (leaseId : String) (lease : WorkLease) : LeaseRecord where
  op := .expire
  leaseId := leaseId
  version := live.version + 1
  nodeStatus := if boundLease live leaseId lease then some .leaseExpired else none
  attemptId := some lease.attemptId
  nodeId := some lease.nodeId

theorem expire_recorded (keyed : LeasesKeyed live) (agrees : Agrees live st.state)
    (mirrored : st.sidecars = st.state.metadata) {runId : Identifier} {now : String}
    {value : VersionedRunState} (held : live.metadata.leases.get? leaseId = some lease)
    (active : lease.status = .active)
    (computed : expiredVersion live live.metadata.leases leaseId lease (live.version + 1) =
      .ok value) :
    Recorded live st (.expire runId leaseId now)
      ⟨value, .lease (LeaseRecord.identified
        { op := .expire, leaseId, version := live.version + 1
          nodeStatus := if boundLease live leaseId lease then some .leaseExpired else none
          attemptId := some lease.attemptId } value)⟩ := by
  have table := expiredVersion_table computed
  have identified : LeaseRecord.identified
      { op := .expire, leaseId, version := live.version + 1
        nodeStatus := if boundLease live leaseId lease then some .leaseExpired else none
        attemptId := some lease.attemptId } value = expireRecord live leaseId lease := by
    unfold LeaseRecord.identified
    simp only [table, Dict.get?_set_self]
    rfl
  rw [identified]
  refine ⟨_, rfl, fun index => ⟨_, rfl, ?_⟩⟩
  have version := expiredVersion_version computed
  have list := expiredVersion_list computed
  have allowed := expiredVersion_iff.mp ⟨value, computed⟩
  have diverges : Diverges live (.expire runId leaseId now) ↔
      (leaseId ∈ live.state.activeLeases ∨ ∃ attempt, Bound live leaseId lease attempt ∧
        (boundLease live leaseId lease → attempt.status ≠ NodeStatus.leaseExpired.value)) := by
    constructor
    · rintro ⟨other, held', -, -, named⟩
      cases held.symm.trans held'
      exact named
    · intro named
      exact ⟨lease, held, active, allowed, named⟩
  rw [diverges, not_or, not_exists]
  rcases expiredVersion_cases computed with
    ⟨bound, node, found, state, attempts⟩ | ⟨unbound, state, attempts⟩
  · have bindings := bound
    obtain ⟨⟨node', found', ref⟩, attempt, stored, current, -⟩ := bindings
    cases found.symm.trans found'
    rw [(keyed leaseId lease held).1.symm] at ref
    have status : (expireRecord live leaseId lease).nodeStatus = some .leaseExpired := if_pos bound
    have nodes (n : String) : (replayedNodes st.state.state.nodes
        (expireRecord live leaseId lease)).get? n = value.state.nodes.get? n := by
      rw [state]
      exact expired_nodes agrees found ref rfl status rfl n
    refine Iff.trans (retire_agrees_iff agrees mirrored held rfl rfl version table nodes list) ?_
    refine and_congr_right fun _ => ?_
    rw [attempts]
    have binds : Bound live leaseId lease attempt := ⟨stored, current⟩
    rw [unbound_expired_iff agrees rfl rfl binds]
    constructor
    · rintro status other ⟨same, differs⟩
      cases stored.symm.trans same.1
      exact differs bound status
    · intro all
      by_contra differs
      exact all attempt ⟨binds, fun _ => differs⟩
  · have status : (expireRecord live leaseId lease).nodeStatus = none := if_neg unbound
    have nodes (n : String) : (replayedNodes st.state.state.nodes
        (expireRecord live leaseId lease)).get? n = value.state.nodes.get? n := by
      rw [state, unexpired_nodes status]
      exact agrees.nodes n
    refine Iff.trans (retire_agrees_iff agrees mirrored held rfl rfl version table nodes list) ?_
    refine and_congr_right fun _ => ?_
    rw [attempts, unbound_unchanged_iff agrees rfl rfl]
    constructor
    · rintro free attempt ⟨binds, -⟩
      exact free attempt binds
    · intro all attempt binds
      exact all attempt ⟨binds, fun bound => absurd bound unbound⟩

/-- Every call but a grant makes no commit, or one with its record. -/
theorem planned_recorded (keyed : LeasesKeyed live) (agrees : Agrees live st.state)
    (mirrored : st.sidecars = st.state.metadata) {request : Request} {commits : List Commit}
    (accepted : planned live request = .ok commits) (other : ∀ lease, request ≠ .grant lease) :
    (commits = [] ∧ ¬ Diverges live request) ∨
      ∃ c, commits = [c] ∧ Recorded live st request c := by
  cases request with
  | grant lease => exact absurd rfl (other lease)
  | renew runId leaseId newExpiresAt fencingToken now =>
    obtain ⟨lease, held, ⟨inactive, rfl⟩ | ⟨active, rfl⟩⟩ := plannedRenew_ok accepted
    · refine .inl ⟨rfl, ?_⟩
      rintro ⟨other, held', active, -⟩
      cases held.symm.trans held'
      exact inactive active
    · refine .inr ⟨_, rfl, _, rfl, fun index => ⟨_, rfl, ?_⟩⟩
      refine Iff.trans (renew_agrees_iff agrees mirrored held newExpiresAt index) ?_
      have renewable := (renewable_iff held active).mpr ⟨_, accepted⟩
      constructor
      · rintro same ⟨other, held', -, -, differs⟩
        cases held.symm.trans held'
        exact differs same
      · intro faithful
        by_contra differs
        exact faithful ⟨lease, held, active, renewable, differs⟩
  | release runId leaseId now =>
    have breaks : Breaks live (.release runId leaseId now) :=
      release_breaks.mpr ⟨commits, accepted⟩
    obtain ⟨lease', held', -, unexpired⟩ := breaks
    obtain ⟨lease, held, active, rfl⟩ := plannedRelease_ok accepted
    cases held.symm.trans held'
    exact .inr ⟨_, rfl, release_recorded agrees mirrored held active unexpired⟩
  | revoke runId leaseId =>
    obtain ⟨lease, held, active, rfl⟩ := plannedRevoke_ok accepted
    exact .inr ⟨_, rfl, revoke_recorded agrees mirrored held active⟩
  | expire runId leaseId now =>
    obtain ⟨lease, value, held, active, computed, rfl⟩ := plannedExpire_ok accepted
    exact .inr ⟨_, rfl, expire_recorded keyed agrees mirrored held active computed⟩
  | route event =>
    cases accepted
    exact .inl ⟨rfl, id⟩

end Calls

/-! ## Generations in replay -/

/-- Replay mirrors its sidecars and leaves the generations of the base. -/
structure Kept (base : VersionedRunState) (st : Replay) : Prop where
  mirrored : st.sidecars = st.state.metadata
  generations : ∀ k, (st.sidecars.attemptRegistry.get? k).map (·.leaseGeneration) =
    (base.metadata.attemptRegistry.get? k).map (·.leaseGeneration)

theorem unboundAttempts_generation (attempts : Dict String AttemptRecord) (p : LeaseRecord)
    (k : String) : ((unboundAttempts attempts p).get? k).map (·.leaseGeneration) =
      (attempts.get? k).map (·.leaseGeneration) := by
  unfold unboundAttempts
  split
  · rfl
  · split
    · rfl
    · next attempt held =>
      split
      · rw [map_set]
        split
        · next same => rw [same, held]; rfl
        · rfl
      · rfl

theorem replayedAttempts_generation (attempts : Dict String AttemptRecord) (lease : WorkLease)
    (k : String) : ((replayedAttempts attempts lease).get? k).map (·.leaseGeneration) =
      (attempts.get? k).map (·.leaseGeneration) := by
  unfold replayedAttempts
  split
  · rfl
  · next attempt held =>
    rw [map_set]
    split
    · next same => rw [same, held]; rfl
    · rfl

theorem grantRecord_registry {st st' : Replay} {p : LeaseRecord} {index : Int}
    (done : applyGrantRecord st p index = .ok st') :
    st'.sidecars = st'.state.metadata ∧ ∃ lease,
      st'.sidecars.attemptRegistry = replayedAttempts st.sidecars.attemptRegistry lease := by
  unfold applyGrantRecord at done
  obtain ⟨lease, -, done⟩ := bind_ok.mp done
  simp only at done
  split at done
  · cases done
  · cases done
    exact ⟨rfl, lease, rfl⟩

theorem kept_record {base : VersionedRunState} {st st' : Replay} {p : LeaseRecord} {index : Int}
    (kept : Kept base st) (done : applyLeaseRecord st p index = .ok st') : Kept base st' := by
  have granted (done : applyGrantRecord st p index = .ok st') : Kept base st' := by
    obtain ⟨mirrored, lease, registry⟩ := grantRecord_registry done
    refine ⟨mirrored, fun k => ?_⟩
    rw [registry, replayedAttempts_generation]
    exact kept.generations k
  have retired (done : .ok (applyRetireRecord st p index) = (.ok st' : Except Raised Replay)) :
      Kept base st' := by
    cases done
    refine ⟨rfl, fun k => ?_⟩
    exact (unboundAttempts_generation _ p k).trans (kept.generations k)
  unfold applyLeaseRecord at done
  split at done
  · exact granted done
  · exact granted done
  · exact retired done
  · exact retired done
  · exact retired done
  · cases done
    exact ⟨rfl, kept.generations⟩
  · cases done
    exact ⟨rfl, kept.generations⟩

theorem replayed_kept {base : VersionedRunState} {n : Nat} {j : Journal} {st : Replay}
    (records : ∀ r ∈ j.records.drop n, ∃ p, r.body = .lease p) (done : replayed base n j = .ok st) :
    Kept base st := by
  have start : Kept base (Replay.start base) := ⟨rfl, fun _ => rfl⟩
  unfold replayed at done
  revert start
  generalize Replay.start base = first at done ⊢
  generalize j.records.drop n = tail at records done
  induction tail generalizing first with
  | nil =>
    cases done
    exact id
  | cons r rest ih =>
    intro kept
    rw [List.foldlM_cons] at done
    obtain ⟨next, applied, done⟩ := bind_ok.mp done
    obtain ⟨p, body⟩ := records r (List.mem_cons_self ..)
    unfold applyRuntimeRecord at applied
    rw [body] at applied
    exact ih next (fun r member => records r (List.mem_cons_of_mem _ member)) done
      (kept_record kept applied)

/-! ## Runs of calls -/

/-- Replaying what was journaled after the first `n` records gives the live run. -/
def Reproduced (base : VersionedRunState) (r : String) (n : Nat) (s : Store) : Prop :=
  ∃ live final, s.runs.get? r = some live ∧
    replayRecords base ((s.journal r).records.drop n) = .ok final ∧ Agrees live final

/-- A lease call on the run, a grant for an attempt registered at the start. -/
def OnRun (base : VersionedRunState) (r : String) (c : Call) : Prop :=
  c.request.isRoute = false ∧ c.request.runId.text = r ∧
    ∀ lease, c.request = .grant lease →
      ∃ attempt, base.metadata.attemptRegistry.get? lease.attemptId = some attempt

/-- What holds between calls on the run. -/
structure Journaled (base : VersionedRunState) (r : String) (n : Nat) (S : System) : Prop where
  coherent : Coherent S
  past : n ≤ (S.store.journal r).records.length
  records : ∀ record ∈ (S.store.journal r).records.drop n, ∃ p, record.body = .lease p
  registered : ∀ live, S.store.runs.get? r = some live →
    GenerationsRise base.metadata.attemptRegistry live.metadata.attemptRegistry

/-- Commits of lease records only add lease records. -/
theorem commitAll_journal {s : Store} {r : String} {n : Nat} {commits : List Commit}
    (bodies : ∀ c ∈ commits, ∃ p, c.body = .lease p) (past : n ≤ (s.journal r).records.length)
    (records : ∀ record ∈ (s.journal r).records.drop n, ∃ p, record.body = .lease p) :
    n ≤ ((commitAll s r commits).journal r).records.length ∧
      ∀ record ∈ ((commitAll s r commits).journal r).records.drop n, ∃ p, record.body = .lease p := by
  induction commits generalizing s with
  | nil => exact ⟨past, records⟩
  | cons c rest ih =>
    have journal : (commit s r c).journal r = (s.journal r).append c.body := by
      rw [commit_journal, if_pos rfl]
    apply ih (fun c member => bodies c (List.mem_cons_of_mem _ member))
    · rw [journal, Journal.append_records, List.length_append]
      omega
    · rw [journal, Journal.append_records, List.drop_append_of_le_length past]
      intro record member
      rcases List.mem_append.mp member with old | new
      · exact records record old
      · rw [List.mem_singleton.mp new]
        exact bodies c (List.mem_cons_self ..)

section Runs
variable [Timestamps]

theorem planned_bodies {current : VersionedRunState} {request : Request} {commits : List Commit}
    (accepted : planned current request = .ok commits) : ∀ c ∈ commits, ∃ p, c.body = .lease p := by
  cases request with
  | grant lease =>
    obtain ⟨generation, -, -, rfl⟩ := plannedGrant_ok accepted
    intro c member
    rcases List.mem_append.mp member with detach | grant
    · obtain ⟨old, -, rfl⟩ := Option.mem_map.mp (Option.mem_toList.mp detach)
      exact ⟨_, rfl⟩
    · rw [List.mem_singleton.mp grant]
      exact ⟨_, rfl⟩
  | renew _ leaseId newExpiresAt fencingToken now =>
    obtain ⟨lease, -, ⟨-, rfl⟩ | ⟨-, rfl⟩⟩ := plannedRenew_ok accepted
    · exact fun c member => absurd member List.not_mem_nil
    · exact fun c member => ⟨_, congrArg Commit.body (List.mem_singleton.mp member)⟩
  | release _ leaseId now =>
    obtain ⟨lease, -, -, rfl⟩ := plannedRelease_ok accepted
    exact fun c member => ⟨_, congrArg Commit.body (List.mem_singleton.mp member)⟩
  | revoke _ leaseId =>
    obtain ⟨lease, -, -, rfl⟩ := plannedRevoke_ok accepted
    exact fun c member => ⟨_, congrArg Commit.body (List.mem_singleton.mp member)⟩
  | expire _ leaseId now =>
    obtain ⟨lease, value, -, -, -, rfl⟩ := plannedExpire_ok accepted
    exact fun c member => ⟨_, congrArg Commit.body (List.mem_singleton.mp member)⟩
  | route event =>
    cases accepted
    exact fun c member => absurd member List.not_mem_nil

variable {base : VersionedRunState} {r : String} {n : Nat} {S : System} {c : Call}

theorem journaled_step (onRun : OnRun base r c) (journaled : Journaled base r n S) :
    Journaled base r n (S.step c) := by
  obtain ⟨isLease, mine, -⟩ := onRun
  have coherent := coherent_step journaled.coherent isLease
  rcases result_cases journaled.coherent isLease with
    stays | ⟨current, commits, ⟨-, held⟩, accepted, left⟩
  · have stays : (S.step c).store = S.store := stays
    refine ⟨coherent, ?_, ?_, ?_⟩
    · rw [stays]; exact journaled.past
    · rw [stays]; exact journaled.records
    · rw [stays]; exact journaled.registered
  have store : (S.step c).store = commitAll S.store r commits := mine ▸ left
  have journal := commitAll_journal (planned_bodies accepted) journaled.past journaled.records
  refine ⟨coherent, ?_, ?_, ?_⟩
  · rw [store]; exact journal.1
  · rw [store]; exact journal.2
  · intro live found
    rw [mine] at held
    obtain ⟨position, own⟩ := commitAll_run held commits
    rw [store, own] at found
    cases found
    have named := journaled.coherent.keyed.run _ current held
    have follows := follows_planned (journaled.coherent.keyed.leases _ current held)
      (Identifier.ext (mine.trans named.symm)) accepted
    exact (journaled.registered current held).trans follows.generations

/-- The call is made on an old snapshot, is refused, or its record says what it did. -/
def Faithful (S : System) (c : Call) : Prop := ∀ v, Fresh S c v → ¬ Diverges v c.request

/-- Replay never reaches the generation a grant records. -/
theorem grant_not_reproduced (onRun : OnRun base r c) (journaled : Journaled base r n S)
    {current : VersionedRunState} {lease : WorkLease} {commits : List Commit}
    (grant : c.request = .grant lease) (held : S.store.runs.get? r = some current)
    (accepted : plannedGrant current lease = .ok commits)
    (store : (S.step c).store = commitAll S.store r commits) :
    ¬ Reproduced base r n (S.step c).store := by
  have journaled' := journaled_step onRun journaled
  rintro ⟨live, final, stored, done, agrees⟩
  obtain ⟨st, replay, rfl⟩ := replayRecords_ok.mp done
  have kept := replayed_kept journaled'.records replay
  obtain ⟨attempt, registered⟩ := onRun.2.2 lease grant
  obtain ⟨before, recorded, risen⟩ := journaled.registered current held _ attempt registered
  obtain ⟨generation, version, last, -, above⟩ := lastValue_granted accepted
  obtain ⟨position, own⟩ := commitAll_run held commits
  rw [store, own, last] at stored
  cases stored
  have raised : ∃ attempt', (registeredAttempts current.metadata.attemptRegistry
      { lease with leaseGeneration := some generation } generation).get? lease.attemptId =
        some attempt' ∧ attempt'.leaseGeneration = generation :=
    registeredAttempts_raised recorded generation
  have table : (grantedVersion current lease generation version).metadata.attemptRegistry = _ :=
    granted_attempts
  rw [← table] at raised
  obtain ⟨after, found, exact_generation⟩ := raised
  have replayed := kept.generations lease.attemptId.text
  rw [registered, kept.mirrored] at replayed
  obtain ⟨attempt', found', same⟩ := Option.map_eq_some_iff.mp replayed
  have view := agrees.attempts lease.attemptId.text
  change _ = ((grantedVersion current lease generation version).metadata.attemptRegistry.get?
    lease.attemptId.text).map attemptView at view
  rw [found', found] at view
  have generations : attempt'.leaseGeneration = after.leaseGeneration :=
    (Prod.mk.inj (Prod.mk.inj (Option.some.inj view)).2).1
  change attempt'.leaseGeneration = attempt.leaseGeneration at same
  have bound := recorded_le_currentGeneration recorded
  omega

/-- One commit and its record. -/
theorem recorded_reproduced_iff (journaled : Journaled base r n S) {current : VersionedRunState}
    {st : Replay} (replay : replayed base n (S.store.journal r) = .ok st) {commit1 : Commit}
    (recorded : Recorded current st c.request commit1) :
    Reproduced base r n (commit S.store r commit1) ↔ ¬ Diverges current c.request := by
  obtain ⟨p, body, each⟩ := recorded
  obtain ⟨st', applied, exact_agreement⟩ := each (S.store.journal r).records.length
  have journal : (commit S.store r commit1).journal r = (S.store.journal r).append commit1.body := by
    rw [commit_journal, if_pos rfl]
  have stored : (commit S.store r commit1).runs.get? r =
      some (commit1.value.atPosition (S.store.journal r).records.length) := by
    rw [commit_run, if_pos rfl]
  have replay' : replayed base n ((commit S.store r commit1).journal r) = .ok st' := by
    rw [journal, replayed_append journaled.past, replay, ok_bind]
    unfold applyRuntimeRecord
    rw [body]
    exact applied
  rw [← exact_agreement]
  constructor
  · rintro ⟨live, final, found, done, agrees⟩
    obtain ⟨other, again, rfl⟩ := replayRecords_ok.mp done
    cases stored.symm.trans found
    cases replay'.symm.trans again
    exact agrees
  · intro agrees
    exact ⟨_, _, stored, replayRecords_ok.mpr ⟨st', replay', rfl⟩, agrees⟩

theorem reproduced_step (onRun : OnRun base r c) (journaled : Journaled base r n S)
    (reproduced : Reproduced base r n S.store) :
    Reproduced base r n (S.step c).store ↔ Faithful S c := by
  have isLease := onRun.1
  have mine := onRun.2.1
  by_cases unfresh : ∀ v, ¬ Fresh S c v
  · have stays : (S.step c).store = S.store := unfresh_stays journaled.coherent isLease unfresh
    rw [stays]
    exact ⟨fun _ v fresh => absurd fresh (unfresh v), fun _ => reproduced⟩
  obtain ⟨v, fresh⟩ := not_forall_not.mp unfresh
  have only : Faithful S c ↔ ¬ Diverges v c.request := by
    constructor
    · exact fun faithful => faithful v fresh
    · intro faithful w fresh'
      cases fresh.2.symm.trans fresh'.2
      exact faithful
  rw [only]
  have meets := fresh_meets journaled.coherent isLease fresh
  have held : S.store.runs.get? r = some v := mine ▸ fresh.2
  cases accepted : planned v c.request with
  | error e =>
    rw [accepted] at meets
    have stays : (S.step c).store = S.store := congrArg Prod.snd meets
    rw [stays]
    refine ⟨fun _ diverges => ?_, fun _ => reproduced⟩
    obtain ⟨commits, accepted'⟩ := diverges_planned diverges
    cases accepted.symm.trans accepted'
  | ok commits =>
    rw [accepted] at meets
    obtain ⟨out, done⟩ := meets
    have store : (S.step c).store = commitAll S.store r commits := mine ▸ congrArg Prod.snd done
    by_cases grant : ∃ lease, c.request = .grant lease
    · obtain ⟨lease, grant⟩ := grant
      rw [grant] at accepted
      have lost := grant_not_reproduced onRun journaled grant held accepted store
      refine ⟨fun kept => absurd kept lost, fun faithful => absurd ?_ faithful⟩
      rw [grant]
      exact grantable_iff.mpr ⟨commits, accepted⟩
    · obtain ⟨live, final, stored, done, agrees⟩ := reproduced
      cases held.symm.trans stored
      obtain ⟨st, replay, rfl⟩ := replayRecords_ok.mp done
      have kept := replayed_kept journaled.records replay
      rcases planned_recorded (journaled.coherent.keyed.leases _ v held) agrees kept.mirrored accepted
        (fun lease same => grant ⟨lease, same⟩) with ⟨rfl, faithful⟩ | ⟨commit1, rfl, recorded⟩
      · rw [store]
        refine ⟨fun _ => faithful, fun _ => ?_⟩
        exact ⟨v, st.state, held, replayRecords_ok.mpr ⟨st, replay, rfl⟩, agrees⟩
      · rw [store]
        exact recorded_reproduced_iff journaled replay recorded

/-- Replay reproduces the run after every call exactly when each call that goes
through is one its record says everything about. -/
theorem lease_replay_agrees_iff (s : Store) (keyed : StoreKeyed s) (r : String)
    (base : VersionedRunState) (registered : s.runs.get? r = some base) (calls : List Call)
    (onRun : ∀ c ∈ calls, OnRun base r c) :
    Runs.Always System.step
        (fun S => Reproduced base r (s.journal r).records.length S.store) ⟨s, []⟩ calls ↔
      Runs.Along System.step Faithful ⟨s, []⟩ calls := by
  have kept : ∀ S c, OnRun base r c → Journaled base r (s.journal r).records.length S →
      Journaled base r (s.journal r).records.length (S.step c) :=
    fun _ _ onRun journaled => journaled_step onRun journaled
  have exact : ∀ S c, OnRun base r c → Journaled base r (s.journal r).records.length S →
      Reproduced base r (s.journal r).records.length S.store →
      (Reproduced base r (s.journal r).records.length (S.step c).store ↔ Faithful S c) :=
    fun _ _ onRun journaled reproduced => reproduced_step onRun journaled reproduced
  have start : Journaled base r (s.journal r).records.length ⟨s, []⟩ := by
    refine ⟨coherent_start keyed, le_refl _, ?_, ?_⟩
    · intro record member
      rw [List.drop_length] at member
      exact absurd member List.not_mem_nil
    · intro live held
      cases registered.symm.trans held
      exact GenerationsRise.refl _
  have holds : Reproduced base r (s.journal r).records.length s :=
    ⟨base, base, registered, replayRecords_ok.mpr ⟨_, replayed_start base _, rfl⟩, Agrees.refl base⟩
  exact Runs.always_iff_along kept exact onRun start holds

end Runs

/-- A renewal to the expiry the lease has. -/
theorem lease_replay_agrees_renewed :
    Runs.Always (@System.step fixtureTimes)
      (fun S => Reproduced seededRun "run.1" (seededStore.journal "run.1").records.length S.store)
      ⟨seededStore, []⟩ [⟨.renew lease1.runId "lease.1" "2026-08-20T01:00:00Z" "ft-1"
        "2026-08-13T00:00:00Z", 0⟩] := by
  refine (@lease_replay_agrees_iff fixtureTimes seededStore seeded_keyed "run.1" seededRun rfl _
    ?_).mpr ⟨?_, trivial⟩
  · intro c member
    obtain rfl := List.mem_singleton.mp member
    exact ⟨rfl, rfl, fun lease same => Request.noConfusion same⟩
  · rintro v ⟨-, stored⟩ ⟨lease, held, -, -, differs⟩
    obtain rfl : seededRun = v := Option.some.inj stored
    obtain rfl : lease1 = lease := Option.some.inj held
    exact differs rfl

/-- The store after lease.2 was granted. -/
def grantedStore : Store :=
  (Runs.run (@System.step fixtureTimes) ⟨seededStore, []⟩ [⟨.grant lease2, 0⟩]).store

/-- Replay leaves the attempt at generation 0, the grant recorded 1. -/
theorem granted_generation_lost :
    OnRun seededRun "run.1" ⟨.grant lease2, 0⟩ ∧ ¬ Reproduced seededRun "run.1" 0 grantedStore := by
  constructor
  · refine ⟨rfl, rfl, fun lease same => ?_⟩
    cases same
    exact ⟨_, rfl⟩
  · rintro ⟨live, final, held, replay, agrees⟩
    have recorded : (grantedStore.runs.get? "run.1").bind (fun v =>
        (v.metadata.attemptRegistry.get? "att.1").map (·.leaseGeneration)) = some 1 := by
      decide
    have replayed : (replayRecords seededRun ((grantedStore.journal "run.1").records.drop 0)).toOption.bind
        (fun v => (v.metadata.attemptRegistry.get? "att.1").map (·.leaseGeneration)) = some 0 := by
      decide
    rw [held] at recorded
    rw [replay] at replayed
    obtain ⟨attempt, found, first⟩ := Option.map_eq_some_iff.mp recorded
    obtain ⟨attempt', found', second⟩ := Option.map_eq_some_iff.mp replayed
    have view := agrees.attempts "att.1"
    rw [found, found'] at view
    have same : attempt'.leaseGeneration = attempt.leaseGeneration :=
      (Prod.mk.inj (Prod.mk.inj (Option.some.inj view)).2).1
    omega

end DwSuperApps.Guarantees.LeaseReplay
