import DwSuperApps.Source.RuntimeStore

/-!
# Lease lifecycle

`taskcontroller/runtime/lease.py`: the operations of `LeaseManager` over the
store. Each takes the snapshot its caller read and the version to compare.
`datetime.fromisoformat` and the conversion to UTC are a parameter.
-/
namespace DwSuperApps.Source.Runtime

open DwSuperApps.Lib DwSuperApps.Lib.Checked
open DwSuperApps.Lib.Programs (Prog)

/-! ## Timestamps -/

/-- What `datetime.fromisoformat` and `astimezone(timezone.utc)` make of a text. -/
inductive IsoTime where
  | unparseable | naive | outOfRange
  | aware (instant : Int)
  deriving DecidableEq

class Timestamps where
  fromisoformat : String → IsoTime

section Operations
variable [Timestamps]

def parseIsoInstant (value : String) : Except Raised Int :=
  if value = "" then .error (leaseConflict s!"invalid lease timestamp: {Json.reprString value}")
  else
    match Timestamps.fromisoformat value with
    | .unparseable =>
      .error (leaseConflict s!"unparseable lease timestamp: {Json.reprString value}")
    | .naive =>
      .error (leaseConflict s!"naive (timezone-less) lease timestamp rejected: {Json.reprString value}")
    | .outOfRange => .error ⟨.overflowError, "date value out of range"⟩
    | .aware instant => .ok instant

/-- Past `expires_at`; the boundary itself is not. -/
def isExpired (lease : WorkLease) (now : String) : Except Raised Bool := do
  let expires ← parseIsoInstant lease.expiresAt
  let current ← parseIsoInstant now
  return decide (expires < current)

/-! ## Reading the lease table -/

/-- `_find_active_lease_in_dict`. -/
def findActiveLease (leases : Dict String WorkLease) (quad : Quad) : Option WorkLease :=
  leases.values.find? fun lease => lease.quad = quad ∧ lease.status = .active

/-- `current` over a given lease table. -/
def currentLease (leases : Dict String WorkLease) (quad : Quad) (now : String) :
    Except Raised (Option WorkLease) :=
  match findActiveLease leases quad with
  | none => .ok none
  | some lease => do
    let expired ← isExpired lease now
    return if expired then none else some lease

def leaseNamed (current : VersionedRunState) (leaseId : String) : Except Raised WorkLease :=
  match current.metadata.leases.get? leaseId with
  | none => .error (leaseConflict s!"unknown lease_id {leaseId}")
  | some lease => .ok lease

/-- The named lease, where it is ACTIVE; `verb` is what the caller wants to do. -/
def activeLeaseNamed (verb : String) (current : VersionedRunState) (leaseId : String) :
    Except Raised WorkLease := do
  let lease ← leaseNamed current leaseId
  ensure (lease.status = .active)
    (leaseConflict s!"cannot {verb} non-ACTIVE lease: {lease.status.value}")
  return lease

/-! ## Committing -/

/-- The snapshot with one lease replaced, at a new version. -/
def VersionedRunState.withLease (v : VersionedRunState) (leaseId : String) (lease : WorkLease)
    (version : Int) : VersionedRunState where
  state := v.state
  version := version
  metadata := { v.metadata with leases := v.metadata.leases.set leaseId lease }

/-- Identity fields of grant and expire records, read from the committed lease. -/
def LeaseRecord.identified (r : LeaseRecord) (newRs : VersionedRunState) : LeaseRecord :=
  match r.op, newRs.metadata.leases.get? r.leaseId with
  | .grant, some lease =>
    { r with
      nodeId := some lease.nodeId
      executionId := some lease.executionId
      holder := some lease.holder
      grantedAt := some lease.grantedAt
      expiresAt := some lease.expiresAt
      resourceRef := lease.resourceRef }
  | .expire, some lease => { r with nodeId := some lease.nodeId }
  | _, _ => r

/-- `_journal_lease`. -/
def journalLease (runId : String) (newRs : VersionedRunState) (r : LeaseRecord) :
    StoreProg Unit := do
  journalAppend runId (.lease (r.identified newRs))
  syncJournalPosition runId newRs.version

/-- The tail `release`, `renew` and `revoke` share. -/
def commitLease (lease updated : WorkLease) (expected : Int) (current : VersionedRunState)
    (r : LeaseRecord) : StoreProg (Option VersionedRunState) := do
  let newRs := current.withLease r.leaseId updated (expected + 1)
  let _ ← putRun newRs expected
  journalLease lease.runId newRs r
  getRun lease.runId

/-! ## Release, renew, revoke -/

def release (leaseId : String) (expected : Int) (current : VersionedRunState) (now : String) :
    StoreProg (Option VersionedRunState) := do
  let lease ← activeLeaseNamed "release" current leaseId
  let expired ← isExpired lease now
  ensure (expired = false) (leaseConflict s!"cannot release expired lease {leaseId}")
  commitLease lease { lease with status := .released } expected current
    { op := .release, leaseId, version := expected + 1, attemptId := some lease.attemptId }

/-- What `renew` checks of an ACTIVE lease. -/
def checkRenew (lease : WorkLease) (leaseId newExpiresAt fencingToken now : String) :
    Except Raised Unit := do
  ensure (lease.fencingToken = fencingToken)
    (leaseConflict s!"fencing_token mismatch for lease {leaseId}")
  let expired ← isExpired lease now
  ensure (expired = false) (leaseConflict s!"cannot renew expired lease {leaseId}")
  let proposed ← parseIsoInstant newExpiresAt
  let held ← parseIsoInstant lease.expiresAt
  ensure (held ≤ proposed) (leaseConflict s!"cannot shorten active lease {leaseId}")

def renew (leaseId newExpiresAt fencingToken : String) (expected : Int)
    (current : VersionedRunState) (now : String) : StoreProg (Option VersionedRunState) := do
  let lease ← leaseNamed current leaseId
  let _ ← parseIsoInstant newExpiresAt
  if lease.status ≠ .active then
    let other ← currentLease current.metadata.leases lease.quad now
    match other with
    | some successor =>
      if successor.leaseId.text ≠ leaseId then return some current
      else fail (leaseConflict s!"cannot renew non-ACTIVE lease: {lease.status.value}")
    | none => fail (leaseConflict s!"cannot renew non-ACTIVE lease: {lease.status.value}")
  else
    checkRenew lease leaseId newExpiresAt fencingToken now
    commitLease lease { lease with expiresAt := newExpiresAt } expected current
      { op := .renew, leaseId, version := expected + 1
        fencingToken := some lease.fencingToken, currentLeaseId := some leaseId
        expiresAt := some newExpiresAt, attemptId := some lease.attemptId }

def revoke (leaseId : String) (expected : Int) (current : VersionedRunState) :
    StoreProg (Option VersionedRunState) := do
  let lease ← activeLeaseNamed "revoke" current leaseId
  commitLease lease { lease with status := .revoked } expected current
    { op := .revoke, leaseId, version := expected + 1
      fencingToken := some lease.fencingToken, attemptId := some lease.attemptId }

/-! ## Expire -/

/-- The lease is the one its node and its attempt are bound to. -/
def boundLease (rs : VersionedRunState) (leaseId : String) (lease : WorkLease) : Prop :=
  (∃ node ∈ rs.state.nodes.get? lease.nodeId, node.leaseRef = some leaseId) ∧
    ∃ attempt ∈ rs.metadata.attemptRegistry.get? lease.attemptId,
      attempt.currentLeaseId = some leaseId ∧ lease.fencingToken = attempt.fencingToken

instance (rs : VersionedRunState) (leaseId : String) (lease : WorkLease) :
    Decidable (boundLease rs leaseId lease) := by
  unfold boundLease; infer_instance

/-- The node of an expired current lease; the run keeps its status, attempts and
lease list, the other fields go back to their defaults. -/
def expiredRun (state : TeamRunState) (lease : WorkLease) (node : NodeState) : TeamRunState where
  runId := state.runId
  status := state.status
  nodes := state.nodes.set lease.nodeId
    { node with status := .leaseExpired, leaseRef := some lease.leaseId.text }
  activeAttempts := state.activeAttempts
  activeLeases := state.activeLeases

/-- The attempt of an expired current lease. -/
def expiredAttempts (attempts : Dict String AttemptRecord) (attemptId : String) :
    Dict String AttemptRecord :=
  match attempts.get? attemptId with
  | none => attempts
  | some attempt => attempts.set attemptId
      { attempt with status := NodeStatus.leaseExpired.value, currentLeaseId := none }

/-- The run `expire` commits, from the state read now and the snapshot's leases. -/
def expiredVersion (rs : VersionedRunState) (leases : Dict String WorkLease) (leaseId : String)
    (lease : WorkLease) (version : Int) : Except Raised VersionedRunState :=
  let updated : WorkLease := { lease with status := .expired }
  if boundLease rs leaseId lease then
    match rs.state.nodes.get? lease.nodeId with
    | none => .error (leaseConflict s!"node {lease.nodeId.text} not found")
    | some node => do
      validateNodeTransition node.status .leaseExpired
      return {
        state := expiredRun rs.state lease node
        version := version
        metadata := { rs.metadata with
          leases := leases.set leaseId updated
          attemptRegistry := expiredAttempts rs.metadata.attemptRegistry lease.attemptId } }
  else .ok {
    state := rs.state
    version := version
    metadata := { rs.metadata with leases := leases.set leaseId updated } }

/-- `now` is not read: a lease can be expired before its time. -/
def expire (leaseId : String) (expected : Int) (current : VersionedRunState) (_now : String) :
    StoreProg (Option VersionedRunState) := do
  let lease ← activeLeaseNamed "expire" current leaseId
  let read ← getRun lease.runId
  match read with
  | none => fail (leaseConflict "run not found")
  | some rs =>
    let newRs ← expiredVersion rs current.metadata.leases leaseId lease (expected + 1)
    let _ ← putRun newRs expected
    journalLease lease.runId newRs
      { op := .expire, leaseId, version := expected + 1
        nodeStatus := if boundLease rs leaseId lease then some .leaseExpired else none
        attemptId := some lease.attemptId }
    syncJournalPosition lease.runId newRs.version
    getRun lease.runId

/-! ## Grant -/

/-- The generation recorded for the attempt and for the lease to replace. -/
def currentGeneration (current : VersionedRunState) (lease : WorkLease) : Nat :=
  let recorded := ((current.metadata.attemptRegistry.get? lease.attemptId).elim 0
    (·.leaseGeneration))
  match findActiveLease current.metadata.leases lease.quad with
  | none => recorded
  | some existing => max recorded (existing.leaseGeneration.getD 0)

/-- The lease with its generation made concrete. -/
def checkGrant (lease : WorkLease) (current : VersionedRunState) : Except Raised WorkLease := do
  ensure (lease.status = .active)
    (leaseConflict s!"cannot grant non-ACTIVE lease: {lease.status.value}")
  let grantedAt ← parseIsoInstant lease.grantedAt
  let expiresAt ← parseIsoInstant lease.expiresAt
  ensure (grantedAt ≤ expiresAt)
    (leaseConflict
      s!"lease expires_at {Json.reprString lease.expiresAt} precedes granted_at {Json.reprString lease.grantedAt}")
  let generation := currentGeneration current lease
  let requested := lease.leaseGeneration.getD (generation + 1)
  ensure (generation < requested)
    (leaseConflict
      s!"lease_generation must increase: current={generation}, requested={requested}")
  return { lease with leaseGeneration := some requested }

/-- `detached.version` and `new_rs.version` where the store returned `None`. -/
def runOrRaise (field : String) : Option VersionedRunState → StoreProg VersionedRunState
  | some rs => pure rs
  | none => fail ⟨.attributeError, s!"'NoneType' object has no attribute '{field}'"⟩

/-- `_detach_lease`. -/
def detachLease (existing : WorkLease) (current : VersionedRunState) (expected : Int) :
    StoreProg (Option VersionedRunState) := do
  let newRs := current.withLease existing.leaseId { existing with status := .released } (expected + 1)
  let _ ← putRun newRs expected
  syncJournalPosition current.state.runId newRs.version
  getRun current.state.runId

/-- ids of the ACTIVE leases in table order. -/
def activeIds (leases : Dict String WorkLease) : List String :=
  (leases.entries.filter fun entry => entry.2.status = .active).map Prod.fst

/-- Where the node exists the lease list is computed from the table and the
fields after `active_leases` go back to their defaults. -/
def registeredRun (state : TeamRunState) (leases : Dict String WorkLease) (lease : WorkLease) :
    TeamRunState :=
  match state.nodes.get? lease.nodeId with
  | some node => {
      runId := state.runId
      status := state.status
      nodes := state.nodes.set lease.nodeId { node with leaseRef := some lease.leaseId.text }
      activeAttempts := state.activeAttempts
      activeLeases := appendUnseen lease.leaseId (activeIds leases) }
  | none => { state with activeLeases := appendUnseen lease.leaseId state.activeLeases }

def registeredAttempts (attempts : Dict String AttemptRecord) (lease : WorkLease)
    (generation : Nat) : Dict String AttemptRecord :=
  match attempts.get? lease.attemptId with
  | none => attempts
  | some attempt => attempts.set lease.attemptId
      { attempt with
        currentLeaseId := some lease.leaseId.text
        fencingToken := lease.fencingToken
        leaseGeneration := generation }

def registeredVersion (rs : VersionedRunState) (lease : WorkLease) (generation : Nat)
    (version : Int) : VersionedRunState :=
  let leases := rs.metadata.leases.set lease.leaseId lease
  { state := registeredRun rs.state leases lease
    version := version
    metadata := { rs.metadata with
      leases := leases
      attemptRegistry := registeredAttempts rs.metadata.attemptRegistry lease generation } }

/-- `_register_lease_full`, from the state read now. -/
def registerLeaseFull (lease : WorkLease) (expected : Int) : StoreProg (Option VersionedRunState) := do
  let read ← getRun lease.runId
  match read, lease.leaseGeneration with
  | none, _ => fail (leaseConflict "run not found")
  | some _, none => fail (leaseConflict "registered lease missing normalized lease_generation")
  | some rs, some generation =>
    let newRs := registeredVersion rs lease generation (expected + 1)
    let _ ← putRun newRs expected
    syncJournalPosition lease.runId newRs.version
    getRun lease.runId

/-- Detach the ACTIVE lease of the quad, if there is one; the state and the
version the registration goes on from. -/
def replaceExisting (existing : Option WorkLease) (expected : Int) (current : VersionedRunState) :
    StoreProg (VersionedRunState × Int) :=
  match existing with
  | none => pure (current, expected)
  | some old => do
    let read ← detachLease old current expected
    let rs ← runOrRaise "version" read
    journalLease rs.state.runId rs { op := .detach, leaseId := old.leaseId, version := rs.version }
    return (rs, rs.version)

def grant (lease : WorkLease) (expected : Int) (current : VersionedRunState) :
    StoreProg (Option VersionedRunState) := do
  let granted ← checkGrant lease current
  let existing := findActiveLease current.metadata.leases lease.quad
  let (rs, version) ← replaceExisting existing expected current
  let read ← registerLeaseFull granted version
  let newRs ← runOrRaise "version" read
  journalLease rs.state.runId newRs
    { op := .grant, leaseId := lease.leaseId, version := newRs.version
      fencingToken := some lease.fencingToken, currentLeaseId := some lease.leaseId.text
      attemptId := some lease.attemptId }
  return some newRs

end Operations
end DwSuperApps.Source.Runtime
