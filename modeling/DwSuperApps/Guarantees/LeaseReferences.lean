import DwSuperApps.Guarantees.LeaseHolding

/-!
# References to leases

A run names its live leases three times: in `active_leases`, in the `lease_ref` of
a node and in the `current_lease_id` of an attempt. Only a registration updates
them; `release`, `revoke` and `expire` edit the lease table and leave the names.
`Breaks` says exactly which calls part the names from the table.
-/
namespace DwSuperApps.Guarantees.LeaseReferences

open DwSuperApps.Lib DwSuperApps.Lib.Checked
open DwSuperApps.Source.Runtime
open DwSuperApps.Guarantees.RuntimeCommits DwSuperApps.Guarantees.LeaseHolding

/-! ## Names and table -/

/-- The lease is in the table and ACTIVE. -/
def Held (leases : Dict String WorkLease) (id : String) : Prop :=
  ∃ lease, leases.get? id = some lease ∧ lease.status = .active

/-- Every name of a lease is the name of an ACTIVE one. -/
structure Consistent (v : VersionedRunState) : Prop where
  listed : ∀ id, id ∈ v.state.activeLeases ↔ Held v.metadata.leases id
  nodes : ∀ n node id, v.state.nodes.get? n = some node → node.leaseRef = some id →
    Held v.metadata.leases id
  attempts : ∀ a attempt id, v.metadata.attemptRegistry.get? a = some attempt →
    attempt.currentLeaseId = some id → Held v.metadata.leases id

theorem consistent_atPosition {v : VersionedRunState} {position : Int} :
    Consistent (v.atPosition position) ↔ Consistent v :=
  ⟨fun h => ⟨h.listed, h.nodes, h.attempts⟩, fun h => ⟨h.listed, h.nodes, h.attempts⟩⟩

theorem held_set {leases : Dict String WorkLease} {k id : String} {updated : WorkLease} :
    Held (leases.set k updated) id ↔ (id = k ∧ updated.status = .active) ∨ (id ≠ k ∧ Held leases id) := by
  unfold Held
  rw [Dict.get?_set]
  by_cases same : id = k
  · simp [same]
  · simp [same]

theorem mem_activeIds {leases : Dict String WorkLease} {id : String} :
    id ∈ activeIds leases ↔ Held leases id := by
  unfold activeIds Held
  simp only [List.mem_map, List.mem_filter, decide_eq_true_eq, Dict.get?_eq_some]
  constructor
  · rintro ⟨⟨k, lease⟩, ⟨member, active⟩, rfl⟩
    exact ⟨lease, member, active⟩
  · rintro ⟨lease, member, active⟩
    exact ⟨(id, lease), ⟨member, active⟩, rfl⟩

theorem mem_appendUnseen {id other : String} {ids : List String} :
    other ∈ appendUnseen id ids ↔ other = id ∨ other ∈ ids := by
  unfold appendUnseen
  split
  · next seen =>
    constructor
    · exact .inr
    · rintro (rfl | member)
      · exact seen
      · exact member
  · rw [List.mem_append, List.mem_singleton, or_comm]

section Version
variable {current value : VersionedRunState} {leaseId : String} {lease updated : WorkLease}

/-- A lease that is retired stays in the list. -/
theorem retired_inconsistent (consistent : Consistent current)
    (held : current.metadata.leases.get? leaseId = some lease) (active : lease.status = .active)
    (list : value.state.activeLeases = current.state.activeLeases)
    (table : value.metadata.leases = current.metadata.leases.set leaseId updated)
    (retired : updated.status ≠ .active) : ¬ Consistent value := by
  intro broken
  have listed : leaseId ∈ value.state.activeLeases :=
    list ▸ (consistent.listed leaseId).mpr ⟨lease, held, active⟩
  have still := (broken.listed leaseId).mp listed
  rw [table, held_set] at still
  rcases still with ⟨-, active'⟩ | ⟨other, -⟩
  · exact retired active'
  · exact other rfl

theorem renewed_consistent (consistent : Consistent current)
    (held : current.metadata.leases.get? leaseId = some lease) (version : Int)
    (status : updated.status = lease.status) :
    Consistent (current.withLease leaseId updated version) := by
  have same : ∀ id, Held (current.metadata.leases.set leaseId updated) id ↔
      Held current.metadata.leases id := by
    intro id
    rw [held_set, status]
    by_cases own : id = leaseId
    · subst own
      simp [Held, held]
    · simp [own]
  refine ⟨?_, ?_, ?_⟩
  · intro id
    exact (consistent.listed id).trans (same id).symm
  · intro n node id found named
    exact (same id).mpr (consistent.nodes n node id found named)
  · intro a attempt id found named
    exact (same id).mpr (consistent.attempts a attempt id found named)

end Version

/-! ## Grants -/

section Grant
variable {current : VersionedRunState} {lease granted : WorkLease} {generation : Nat} {version : Int}

/-- What a registration leaves of the old lease. -/
def LeftBehind (current : VersionedRunState) (lease old : WorkLease) : Prop :=
  current.state.nodes.get? lease.nodeId = none ∨
    (∃ n node, n ≠ lease.nodeId.text ∧ current.state.nodes.get? n = some node ∧
      node.leaseRef = some old.leaseId.text) ∨
    ∃ a attempt, a ≠ lease.attemptId.text ∧ current.metadata.attemptRegistry.get? a = some attempt ∧
      attempt.currentLeaseId = some old.leaseId.text

theorem held_detached {quad : Quad} {id : String} :
    Held (detached current (findActiveLease current.metadata.leases quad)).metadata.leases id ↔
      Held current.metadata.leases id ∧
        ∀ old, findActiveLease current.metadata.leases quad = some old → id ≠ old.leaseId.text := by
  cases found : findActiveLease current.metadata.leases quad with
  | none => simp [detached]
  | some old =>
    change Held (current.metadata.leases.set old.leaseId.text _) id ↔ _
    rw [held_set]
    simp [and_comm]

/-- The table after a grant. -/
theorem held_registered (active : granted.status = .active)
    {quad : Quad} {id : String} :
    Held (registeredVersion (detached current (findActiveLease current.metadata.leases quad)) granted
        generation version).metadata.leases id ↔
      id = granted.leaseId.text ∨ (Held current.metadata.leases id ∧
        ∀ old, findActiveLease current.metadata.leases quad = some old → id ≠ old.leaseId.text) := by
  change Held ((detached current (findActiveLease current.metadata.leases quad)).metadata.leases.set
    granted.leaseId.text granted) id ↔ _
  rw [held_set, held_detached]
  by_cases own : id = granted.leaseId.text
  · simp [own, active]
  · simp [own]

theorem detached_state (existing : Option WorkLease) :
    (detached current existing).state = current.state := by
  cases existing <;> rfl

/-- A node of a registered run is the node of the lease or one that was there. -/
theorem registered_node {state : TeamRunState} {leases : Dict String WorkLease} {n : String}
    {node : NodeState} (found : (registeredRun state leases lease).nodes.get? n = some node) :
    node.leaseRef = some lease.leaseId.text ∨
      state.nodes.get? n = some node ∧ (state.nodes.get? lease.nodeId ≠ none → n ≠ lease.nodeId.text) := by
  unfold registeredRun at found
  split at found
  · next held =>
    simp only at found
    rw [Dict.get?_set] at found
    split at found
    · cases found
      exact .inl rfl
    · next other => exact .inr ⟨found, fun _ => other⟩
  · next absent => exact .inr ⟨found, fun held => absurd absent held⟩

theorem registered_other_node {state : TeamRunState} {leases : Dict String WorkLease} {n : String}
    {node : NodeState} (other : n ≠ lease.nodeId.text) (found : state.nodes.get? n = some node) :
    (registeredRun state leases lease).nodes.get? n = some node := by
  unfold registeredRun
  split
  · exact (Dict.get?_set_of_ne _ other _).trans found
  · exact found

theorem registered_attempt {attempts : Dict String AttemptRecord} {a : String}
    {attempt : AttemptRecord}
    (found : (registeredAttempts attempts lease generation).get? a = some attempt) :
    attempt.currentLeaseId = some lease.leaseId.text ∨
      attempts.get? a = some attempt ∧ a ≠ lease.attemptId.text := by
  unfold registeredAttempts at found
  split at found
  · next absent =>
    refine .inr ⟨found, ?_⟩
    rintro rfl
    rw [absent] at found
    cases found
  · rw [Dict.get?_set] at found
    split at found
    · cases found
      exact .inl rfl
    · next other => exact .inr ⟨found, other⟩

theorem registered_other_attempt {attempts : Dict String AttemptRecord} {a : String}
    {attempt : AttemptRecord} (other : a ≠ lease.attemptId.text)
    (found : attempts.get? a = some attempt) :
    (registeredAttempts attempts lease generation).get? a = some attempt := by
  unfold registeredAttempts
  split
  · exact found
  · exact (Dict.get?_set_of_ne _ other _).trans found

/-- The version a grant ends with. -/
def grantedVersion (current : VersionedRunState) (lease : WorkLease) (generation : Nat)
    (version : Int) : VersionedRunState :=
  registeredVersion (detached current (findActiveLease current.metadata.leases lease.quad))
    { lease with leaseGeneration := some generation } generation version

/-- A lease that was held is held still, unless it is the one replaced. -/
theorem held_granted (active : lease.status = .active) {id : String}
    (held : Held current.metadata.leases id)
    (kept : ∀ old, findActiveLease current.metadata.leases lease.quad = some old →
      old.leaseId ≠ lease.leaseId → id ≠ old.leaseId.text) :
    Held (grantedVersion current lease generation version).metadata.leases id := by
  unfold grantedVersion
  rw [held_registered (by exact active)]
  by_cases own : id = lease.leaseId.text
  · exact .inl own
  · refine .inr ⟨held, fun old found => ?_⟩
    by_cases same : old.leaseId = lease.leaseId
    · rw [same]
      exact own
    · exact kept old found same

theorem not_held_granted (active : lease.status = .active) {old : WorkLease}
    (found : findActiveLease current.metadata.leases lease.quad = some old)
    (other : old.leaseId ≠ lease.leaseId) :
    ¬ Held (grantedVersion current lease generation version).metadata.leases old.leaseId.text := by
  unfold grantedVersion
  rw [held_registered (by exact active)]
  rintro (same | ⟨-, differs⟩)
  · exact other (Identifier.ext same)
  · exact differs old found rfl

theorem held_own (active : lease.status = .active) :
    Held (grantedVersion current lease generation version).metadata.leases lease.leaseId.text := by
  unfold grantedVersion
  rw [held_registered (by exact active)]
  exact .inl rfl

theorem granted_state : (grantedVersion current lease generation version).state =
    registeredRun current.state (grantedVersion current lease generation version).metadata.leases
      { lease with leaseGeneration := some generation } := by
  unfold grantedVersion registeredVersion
  rw [detached_state]

theorem granted_attempts : (grantedVersion current lease generation version).metadata.attemptRegistry =
    registeredAttempts current.metadata.attemptRegistry
      { lease with leaseGeneration := some generation } generation := by
  unfold grantedVersion registeredVersion
  rw [detached_attempts]

/-- A registration keeps the names where it replaces no lease of another id or
leaves no name of the one it replaces. -/
theorem granted_consistent (consistent : Consistent current) (active : lease.status = .active)
    (clean : ∀ old, findActiveLease current.metadata.leases lease.quad = some old →
      old.leaseId ≠ lease.leaseId → ¬ LeftBehind current lease old) :
    Consistent (grantedVersion current lease generation version) := by
  have own : Held (grantedVersion current lease generation version).metadata.leases
      lease.leaseId.text := held_own active
  refine ⟨?_, ?_, ?_⟩
  · intro id
    rw [granted_state]
    unfold registeredRun
    split
    · rw [mem_appendUnseen, mem_activeIds]
      constructor
      · rintro (rfl | held)
        · exact own
        · exact held
      · exact .inr
    · next absent =>
      rw [mem_appendUnseen, consistent.listed]
      constructor
      · rintro (rfl | held)
        · exact own
        · exact held_granted active held fun old found other _ => clean old found other (.inl absent)
      · intro held
        unfold grantedVersion at held
        rw [held_registered (by exact active)] at held
        rcases held with same | ⟨held, -⟩
        · exact .inl same
        · exact .inr held
  · intro n node id found named
    rw [granted_state] at found
    rcases registered_node found with new | ⟨stored, apart⟩
    · cases new.symm.trans named
      exact own
    · refine held_granted active (consistent.nodes n node id stored named) fun old found other same => ?_
      subst same
      by_cases absent : current.state.nodes.get? lease.nodeId = none
      · exact clean old found other (.inl absent)
      · exact clean old found other (.inr (.inl ⟨n, node, apart absent, stored, named⟩))
  · intro a attempt id found named
    rw [granted_attempts] at found
    rcases registered_attempt found with new | ⟨stored, apart⟩
    · cases new.symm.trans named
      exact own
    · refine held_granted active (consistent.attempts a attempt id stored named)
        fun old found other same => ?_
      subst same
      exact clean old found other (.inr (.inr ⟨a, attempt, apart, stored, named⟩))

/-- A name left behind is the name of a RELEASED lease. -/
theorem granted_inconsistent (keyed : LeasesKeyed current) (consistent : Consistent current)
    (active : lease.status = .active) {old : WorkLease}
    (found : findActiveLease current.metadata.leases lease.quad = some old)
    (other : old.leaseId ≠ lease.leaseId) (left : LeftBehind current lease old) :
    ¬ Consistent (grantedVersion current lease generation version) := by
  intro broken
  have gone : ¬ Held (grantedVersion current lease generation version).metadata.leases
      old.leaseId.text := not_held_granted active found other
  apply gone
  rcases left with absent | ⟨n, node, apart, stored, named⟩ | ⟨a, attempt, apart, stored, named⟩
  · obtain ⟨⟨k, held⟩, -, replaced⟩ := findActiveLease_some found
    have name := (keyed k old held).1
    subst name
    apply (broken.listed _).mp
    rw [granted_state]
    unfold registeredRun
    rw [show current.state.nodes.get? _ = none from absent]
    exact mem_appendUnseen.mpr (.inr ((consistent.listed _).mpr ⟨old, held, replaced⟩))
  · refine broken.nodes n node _ ?_ named
    rw [granted_state]
    exact registered_other_node apart stored
  · refine broken.attempts a attempt _ ?_ named
    rw [granted_attempts]
    exact registered_other_attempt apart stored

end Grant

/-! ## Which calls break the names -/

section Calls
variable [Timestamps]

/-- What `grant` checks of a lease. -/
def Grantable (current : VersionedRunState) (lease : WorkLease) : Prop :=
  lease.status = .active ∧
    (∃ grantedAt expiresAt, parseIsoInstant lease.grantedAt = .ok grantedAt ∧
      parseIsoInstant lease.expiresAt = .ok expiresAt ∧ grantedAt ≤ expiresAt) ∧
    ∀ generation, lease.leaseGeneration = some generation →
      currentGeneration current lease < generation

theorem grantable_iff {current : VersionedRunState} {lease : WorkLease} :
    Grantable current lease ↔ ∃ commits, plannedGrant current lease = .ok commits := by
  unfold Grantable plannedGrant checkGrant
  constructor
  · rintro ⟨active, ⟨grantedAt, expiresAt, parsed, parsed', ordered⟩, risen⟩
    rw [parsed, parsed', ensure_of active, ok_bind, ok_bind, ok_bind, ensure_of ordered, ok_bind]
    have above : currentGeneration current lease <
        lease.leaseGeneration.getD (currentGeneration current lease + 1) := by
      cases requested : lease.leaseGeneration with
      | none => exact Nat.lt_succ_self _
      | some generation => exact risen generation requested
    simp only [ensure_of above]
    exact ⟨_, rfl⟩
  · rintro ⟨commits, accepted⟩
    obtain ⟨granted, checked, -⟩ := bind_ok.mp accepted
    obtain ⟨_, active, checked⟩ := bind_ok.mp checked
    obtain ⟨grantedAt, parsed, checked⟩ := bind_ok.mp checked
    obtain ⟨expiresAt, parsed', checked⟩ := bind_ok.mp checked
    obtain ⟨_, ordered, checked⟩ := bind_ok.mp checked
    obtain ⟨_, risen, -⟩ := bind_ok.mp checked
    refine ⟨ensure_ok.mp active, ⟨grantedAt, expiresAt, parsed, parsed', ensure_ok.mp ordered⟩, ?_⟩
    intro generation requested
    have above := ensure_ok.mp risen
    rw [requested] at above
    exact above

/-- The call retires a lease, or replaces one whose name stays behind. -/
def Breaks (current : VersionedRunState) : Request → Prop
  | .grant lease => Grantable current lease ∧
      ∃ old, findActiveLease current.metadata.leases lease.quad = some old ∧
        old.leaseId ≠ lease.leaseId ∧ LeftBehind current lease old
  | .release _ leaseId now => ∃ lease, current.metadata.leases.get? leaseId = some lease ∧
      lease.status = .active ∧ isExpired lease now = .ok false
  | .revoke _ leaseId => Held current.metadata.leases leaseId
  | .expire _ leaseId _ => ∃ lease, current.metadata.leases.get? leaseId = some lease ∧
      lease.status = .active ∧ (boundLease current leaseId lease →
        ∀ node, current.state.nodes.get? lease.nodeId = some node →
          .leaseExpired ∈ nodeTransitions node.status)
  | .renew .. | .route _ => False

variable {current : VersionedRunState}

omit [Timestamps] in
theorem activeLeaseNamed_iff {verb leaseId : String} {lease : WorkLease} :
    activeLeaseNamed verb current leaseId = .ok lease ↔
      current.metadata.leases.get? leaseId = some lease ∧ lease.status = .active := by
  constructor
  · exact activeLeaseNamed_ok
  · rintro ⟨held, active⟩
    have named : leaseNamed current leaseId = .ok lease := by
      unfold leaseNamed
      rw [held]
    unfold activeLeaseNamed
    rw [named, ok_bind, ensure_of active]
    rfl

theorem release_breaks {runId : Identifier} {leaseId now : String} :
    Breaks current (.release runId leaseId now) ↔
      ∃ commits, plannedRelease current leaseId now = .ok commits := by
  constructor
  · rintro ⟨lease, held, active, unexpired⟩
    unfold plannedRelease
    rw [activeLeaseNamed_iff.mpr ⟨held, active⟩, ok_bind, unexpired, ok_bind]
    exact ⟨_, rfl⟩
  · rintro ⟨commits, accepted⟩
    obtain ⟨lease, found, accepted⟩ := bind_ok.mp accepted
    obtain ⟨expired, parsed, accepted⟩ := bind_ok.mp accepted
    obtain ⟨_, unexpired, -⟩ := bind_ok.mp accepted
    obtain ⟨held, active⟩ := activeLeaseNamed_iff.mp found
    exact ⟨lease, held, active, parsed.trans (congrArg Except.ok (ensure_ok.mp unexpired))⟩

omit [Timestamps] in
theorem revoke_breaks {leaseId : String} :
    Held current.metadata.leases leaseId ↔ ∃ commits, plannedRevoke current leaseId = .ok commits := by
  constructor
  · rintro ⟨lease, held⟩
    unfold plannedRevoke
    rw [activeLeaseNamed_iff.mpr held]
    exact ⟨_, rfl⟩
  · rintro ⟨commits, accepted⟩
    obtain ⟨lease, held, active, -⟩ := plannedRevoke_ok accepted
    exact ⟨lease, held, active⟩

omit [Timestamps] in
/-- An expiry fails where the node of a bound lease cannot become LEASE_EXPIRED. -/
theorem expiredVersion_iff {leaseId : String} {lease : WorkLease} {version : Int} :
    (∃ value, expiredVersion current current.metadata.leases leaseId lease version = .ok value) ↔
      (boundLease current leaseId lease → ∀ node, current.state.nodes.get? lease.nodeId = some node →
        .leaseExpired ∈ nodeTransitions node.status) := by
  unfold expiredVersion
  simp only
  by_cases bound : boundLease current leaseId lease
  · obtain ⟨node, found, -⟩ := bound.1
    have held : current.state.nodes.get? lease.nodeId = some node := found
    simp only [if_pos bound, held, bind_ok]
    constructor
    · rintro ⟨value, _, moved, -⟩ - other same
      cases same
      exact ensure_ok.mp moved
    · intro allowed
      exact ⟨_, (), ensure_of (allowed bound node rfl) _, rfl⟩
  · simp only [if_neg bound]
    exact ⟨fun _ bound' => absurd bound' bound, fun _ => ⟨_, rfl⟩⟩

theorem expire_breaks {runId : Identifier} {leaseId now : String} :
    Breaks current (.expire runId leaseId now) ↔
      ∃ commits, plannedExpire current leaseId = .ok commits := by
  constructor
  · rintro ⟨lease, held, active, allowed⟩
    obtain ⟨value, computed⟩ := expiredVersion_iff.mpr allowed
    unfold plannedExpire
    rw [activeLeaseNamed_iff.mpr ⟨held, active⟩, ok_bind, computed]
    exact ⟨_, rfl⟩
  · rintro ⟨commits, accepted⟩
    obtain ⟨lease, value, held, active, computed, -⟩ := plannedExpire_ok accepted
    exact ⟨lease, held, active, expiredVersion_iff.mp ⟨value, computed⟩⟩

omit [Timestamps] in
theorem expiredVersion_list {leaseId : String} {lease : WorkLease} {version : Int}
    {value : VersionedRunState}
    (computed : expiredVersion current current.metadata.leases leaseId lease version = .ok value) :
    value.state.activeLeases = current.state.activeLeases := by
  unfold expiredVersion at computed
  simp only at computed
  split at computed
  · split at computed
    · cases computed
    · obtain ⟨_, _, same⟩ := bind_ok.mp computed
      cases same
      rfl
  · cases computed
    rfl

/-- A call that breaks the names goes through. -/
theorem breaks_planned {request : Request} (breaks : Breaks current request) :
    ∃ commits, planned current request = .ok commits := by
  cases request with
  | grant lease => exact grantable_iff.mp breaks.1
  | release _ leaseId now => exact release_breaks.mp breaks
  | revoke _ leaseId => exact revoke_breaks.mp breaks
  | expire _ leaseId now => exact expire_breaks.mp breaks
  | renew _ leaseId newExpiresAt fencingToken now => exact absurd breaks id
  | route event => exact absurd breaks id

theorem lastValue_granted {lease : WorkLease} {commits : List Commit}
    (accepted : plannedGrant current lease = .ok commits) :
    ∃ generation version, lastValue current commits = grantedVersion current lease generation version ∧
      lease.status = .active ∧ currentGeneration current lease < generation := by
  obtain ⟨generation, risen, active, rfl⟩ := plannedGrant_ok accepted
  exact ⟨generation, _, lastValue_grant lease _ generation, active, risen⟩

/-- A call that goes through keeps the names unless it breaks them. -/
theorem planned_consistent_iff (keyed : LeasesKeyed current) (consistent : Consistent current)
    {request : Request} {commits : List Commit} (accepted : planned current request = .ok commits) :
    Consistent (lastValue current commits) ↔ ¬ Breaks current request := by
  cases request with
  | grant lease =>
    obtain ⟨generation, version, same, active, -⟩ := lastValue_granted accepted
    rw [same]
    constructor
    · rintro kept ⟨-, old, found, other, left⟩
      exact granted_inconsistent keyed consistent active found other left kept
    · intro admitted
      apply granted_consistent consistent active
      intro old found other left
      exact admitted ⟨grantable_iff.mpr ⟨commits, accepted⟩, old, found, other, left⟩
  | release runId leaseId now =>
    have breaks : Breaks current (.release runId leaseId now) :=
      release_breaks.mpr ⟨commits, accepted⟩
    obtain ⟨lease, held, active, rfl⟩ := plannedRelease_ok accepted
    refine ⟨fun kept => absurd kept ?_, fun admitted => absurd breaks admitted⟩
    exact retired_inconsistent consistent held active rfl rfl LeaseStatus.noConfusion
  | revoke runId leaseId =>
    obtain ⟨lease, held, active, rfl⟩ := plannedRevoke_ok accepted
    have breaks : Breaks current (.revoke runId leaseId) := ⟨lease, held, active⟩
    refine ⟨fun kept => absurd kept ?_, fun admitted => absurd breaks admitted⟩
    exact retired_inconsistent consistent held active rfl rfl LeaseStatus.noConfusion
  | expire runId leaseId now =>
    have breaks : Breaks current (.expire runId leaseId now) :=
      expire_breaks.mpr ⟨commits, accepted⟩
    obtain ⟨lease, value, held, active, computed, rfl⟩ := plannedExpire_ok accepted
    refine ⟨fun kept => absurd kept ?_, fun admitted => absurd breaks admitted⟩
    exact retired_inconsistent consistent held active (expiredVersion_list computed)
      (expiredVersion_table computed) LeaseStatus.noConfusion
  | renew _ leaseId newExpiresAt fencingToken now =>
    refine ⟨fun _ breaks => breaks, fun _ => ?_⟩
    obtain ⟨lease, held, ⟨-, rfl⟩ | ⟨-, rfl⟩⟩ := plannedRenew_ok accepted
    · exact consistent
    · exact renewed_consistent consistent held _ rfl
  | route event =>
    cases accepted
    exact ⟨fun _ breaks => breaks, fun _ => consistent⟩

end Calls

/-! ## Guarantee -/

/-- Every run of the store names its ACTIVE leases and no others. -/
def StoreConsistent (s : Store) : Prop := ∀ r v, s.runs.get? r = some v → Consistent v

section Guarantee
variable [Timestamps]

/-- The call is made on an old snapshot, is refused, or keeps the names. -/
def Admitted (S : System) (c : Call) : Prop := ∀ v, Fresh S c v → ¬ Breaks v c.request

theorem consistent_step {S : System} {c : Call} (isLease : c.request.isRoute = false)
    (coherent : Coherent S) (consistent : StoreConsistent S.store) :
    StoreConsistent (S.step c).store ↔ Admitted S c := by
  by_cases unfresh : ∀ v, ¬ Fresh S c v
  · have stays : (S.step c).store = S.store := unfresh_stays coherent isLease unfresh
    rw [stays]
    exact ⟨fun _ v fresh => absurd fresh (unfresh v), fun _ => consistent⟩
  obtain ⟨v, fresh⟩ := not_forall_not.mp unfresh
  have only : Admitted S c ↔ ¬ Breaks v c.request := by
    constructor
    · exact fun admitted => admitted v fresh
    · intro admitted w fresh'
      cases fresh.2.symm.trans fresh'.2
      exact admitted
  rw [only]
  have meets := fresh_meets coherent isLease fresh
  cases accepted : planned v c.request with
  | error e =>
    rw [accepted] at meets
    have stays : (S.step c).store = S.store := congrArg Prod.snd meets
    rw [stays]
    refine ⟨fun _ breaks => ?_, fun _ => consistent⟩
    obtain ⟨commits, accepted'⟩ := breaks_planned breaks
    cases accepted.symm.trans accepted'
  | ok commits =>
    rw [accepted] at meets
    obtain ⟨out, done⟩ := meets
    have left : (S.step c).store = commitAll S.store c.request.runId commits := congrArg Prod.snd done
    obtain ⟨position, own⟩ := commitAll_run fresh.2 commits
    rw [← planned_consistent_iff (coherent.keyed.leases _ v fresh.2) (consistent _ v fresh.2) accepted,
      left]
    constructor
    · intro kept
      exact consistent_atPosition.mp (kept _ _ own)
    · intro kept r w found
      by_cases same : r = c.request.runId.text
      · subst same
        cases own.symm.trans found
        exact consistent_atPosition.mpr kept
      · rw [commitAll_other _ same] at found
        exact consistent r w found

/-- The names and the table agree in every store reached exactly when no call
breaks them. -/
theorem references_consistent_iff (s : Store) (keyed : StoreKeyed s)
    (consistent : StoreConsistent s) (calls : List Call)
    (leaseCalls : ∀ c ∈ calls, c.request.isRoute = false) :
    Runs.Always System.step (fun S => StoreConsistent S.store) ⟨s, []⟩ calls ↔
      Runs.Along System.step Admitted ⟨s, []⟩ calls := by
  have kept : ∀ S (c : Call), c.request.isRoute = false → Coherent S → Coherent (S.step c) :=
    fun S c isLease coherent => coherent_step coherent isLease
  have exact : ∀ S (c : Call), c.request.isRoute = false → Coherent S → StoreConsistent S.store →
      (StoreConsistent (S.step c).store ↔ Admitted S c) :=
    fun S c isLease coherent consistent => consistent_step isLease coherent consistent
  exact Runs.always_iff_along kept exact leaseCalls (coherent_start keyed) consistent

end Guarantee

theorem seeded_consistent : StoreConsistent seededStore := by
  refine Dict.forall_get?.mpr fun entry member => ?_
  obtain rfl := List.mem_singleton.mp member
  have held : Held seededRun.metadata.leases "lease.1" := ⟨lease1, rfl, rfl⟩
  refine ⟨?_, ?_, ?_⟩
  · intro id
    constructor
    · intro listed
      obtain rfl := List.mem_singleton.mp listed
      exact held
    · rintro ⟨lease, found, -⟩
      obtain ⟨rfl, -⟩ := Prod.mk.inj (List.mem_singleton.mp (Dict.get?_eq_some.mp found))
      exact List.mem_singleton.mpr rfl
  · intro n node id found named
    obtain ⟨-, rfl⟩ := Prod.mk.inj (List.mem_singleton.mp (Dict.get?_eq_some.mp found))
    cases named
    exact held
  · intro a attempt id found named
    obtain ⟨-, rfl⟩ := Prod.mk.inj (List.mem_singleton.mp (Dict.get?_eq_some.mp found))
    cases named
    exact held

/-- lease.2 replaces lease.1 under all its names and is then renewed. -/
theorem references_consistent_iff_replaced :
    Runs.Always (@System.step fixtureTimes) (fun S => StoreConsistent S.store) ⟨seededStore, []⟩
      [⟨.grant lease2, 0⟩, ⟨.renew lease2.runId "lease.2" "2026-08-20T03:00:00Z" "ft-2"
        "2026-08-20T01:00:00Z", 0⟩] := by
  refine (@references_consistent_iff fixtureTimes seededStore seeded_keyed seeded_consistent _
    (by decide)).mpr ⟨?_, fun _ _ breaks => breaks, trivial⟩
  rintro v ⟨-, stored⟩ ⟨-, old, found, -, left⟩
  obtain rfl : seededRun = v := Option.some.inj stored
  obtain rfl : lease1 = old := Option.some.inj found
  rcases left with absent | ⟨n, node, apart, held, -⟩ | ⟨a, attempt, apart, held, -⟩
  · exact absurd absent (by decide)
  · exact apart (Prod.mk.inj (List.mem_singleton.mp (Dict.get?_eq_some.mp held))).1
  · exact apart (Prod.mk.inj (List.mem_singleton.mp (Dict.get?_eq_some.mp held))).1

/-- A revoked lease stays in `active_leases`, in `lease_ref` and in
`current_lease_id`. -/
theorem revoked_lease_still_named :
    StoreKeyed seededStore ∧ StoreConsistent seededStore ∧
      ¬ StoreConsistent (Runs.run (@System.step fixtureTimes) ⟨seededStore, []⟩
        [⟨.revoke lease1.runId "lease.1", 0⟩]).store := by
  refine ⟨seeded_keyed, seeded_consistent, fun consistent => ?_⟩
  obtain ⟨v, held, listed, revoked⟩ : ∃ v, (Runs.run (@System.step fixtureTimes) ⟨seededStore, []⟩
      [⟨.revoke lease1.runId "lease.1", 0⟩]).store.runs.get? "run.1" = some v ∧
      "lease.1" ∈ v.state.activeLeases ∧
      (v.metadata.leases.get? "lease.1").map (·.status) = some .revoked :=
    ⟨_, rfl, by decide, rfl⟩
  obtain ⟨lease, found, active⟩ := ((consistent _ v held).listed "lease.1").mp listed
  rw [found, Option.map_some, active] at revoked
  cases revoked

end DwSuperApps.Guarantees.LeaseReferences
