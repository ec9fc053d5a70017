import Mathlib.Data.List.Sort
import DwSuperApps.Source.EventRouter

/-!
# Journal replay

`taskcontroller/runtime/journal.py`: pure reducers that rebuild a run and its
sidecars from trusted records. The sidecar accumulators have the fields of
`RuntimeSnapshotMeta`; a record of another kind only moves their position, not
the metadata of the state.
-/
namespace DwSuperApps.Source.Runtime

open DwSuperApps.Lib DwSuperApps.Lib.Checked

/-- State and sidecars between two records. -/
structure Replay where
  state : VersionedRunState
  sidecars : RuntimeSnapshotMeta

/-- `p.get("version") or state.version + 1`. -/
def replayedVersion (recorded : Int) (state : VersionedRunState) : Int :=
  if recorded ≠ 0 then recorded else state.version + 1

/-- `TeamRunState` and sidecars put together after a record. -/
def Replay.rebuilt (state : TeamRunState) (version : Int) (sidecars : RuntimeSnapshotMeta) : Replay :=
  ⟨⟨state, version, sidecars⟩, sidecars⟩

/-! ## Event records -/

/-- The reducer of an accepted event; live acceptance checked the transition. -/
def replayToRun (state : TeamRunState) (event : AgentEvent) : TeamRunState :=
  let recorded := recordEvent state event
  match event.eventType, state.nodes.get? event.nodeId with
  | .completed, some node =>
    if ¬ state.status.terminal ∧ node.status = .running then
      recorded.setStatus event.nodeId node .reviewing
    else recorded
  | .statusChange, some node =>
    if proposedStatus event ≠ .null ∧ proposedStatus event ≠ .str NodeStatus.done.value then
      match NodeStatus.ofJson (proposedStatus event) with
      | .error _ => recorded
      | .ok proposed =>
        if proposed ∈ nodeTransitions node.status then recorded.setStatus event.nodeId node proposed
        else recorded
    else recorded
  | _, _ => recorded

/-- The keys a record restores: an empty idempotency key is falsy and is not one. -/
def replayedKeys (event : AgentEvent) : List String :=
  event.eventId.text ::
    ((event.idempotencyKey.filter (· ≠ "")).map idempotencyKey).toList

/-- `_apply_event_record`. -/
def applyEventRecord (st : Replay) (p : EventRecord) (index : Int) : Replay :=
  Replay.rebuilt (replayToRun st.state.state p.event) (replayedVersion p.version st.state)
    { st.sidecars with
      eventCursor := some (eventCursor p.event)
      dedupeFingerprints := st.sidecars.dedupeFingerprints.update
        ((replayedKeys p.event).map fun key => (key, .event p.fingerprint))
      streamWatermarks := st.sidecars.streamWatermarks.set
        (p.event.executionId, p.event.attemptId) (nextWatermark p.event)
      journalPosition := index }

/-! ## Lease records -/

/-- The lease a grant record carries; it has no generation. -/
def grantedLease (st : Replay) (p : LeaseRecord) : Except Raised WorkLease :=
  match p.nodeId, p.executionId, p.attemptId, p.fencingToken, p.holder, p.grantedAt, p.expiresAt with
  | some nodeId, some executionId, some attemptId, some fencingToken, some holder, some grantedAt,
    some expiresAt => do
    let leaseId ← validateId "lease_id" p.leaseId
    return {
      leaseId, nodeId, executionId, attemptId, holder, fencingToken, grantedAt, expiresAt
      runId := st.state.state.runId
      resourceRef := p.resourceRef }
  | _, _, _, _, _, _, _ => .error ⟨.runtime,
      "malformed/incomplete lease grant record: missing required trusted fields (node_id, execution_id, attempt_id, fencing_token, holder, granted_at, expires_at)"⟩

/-- `att["current_lease_id"] = lid` and the fencing token, where the attempt is
registered. -/
def replayedAttempts (attempts : Dict String AttemptRecord) (lease : WorkLease) :
    Dict String AttemptRecord :=
  match attempts.get? lease.attemptId with
  | none => attempts
  | some attempt => attempts.set lease.attemptId
      { attempt with
        currentLeaseId := some lease.leaseId.text
        fencingToken := lease.fencingToken }

def applyGrantRecord (st : Replay) (p : LeaseRecord) (index : Int) : Except Raised Replay := do
  let lease ← grantedLease st p
  let leases := st.sidecars.leases.set lease.leaseId lease
  match st.state.state.nodes.get? lease.nodeId with
  -- the node dictionary made up for it has no status
  | none => .error ⟨.keyError, "'status'"⟩
  | some node =>
    return Replay.rebuilt
      { st.state.state with
        nodes := st.state.state.nodes.set lease.nodeId
          { node with leaseRef := some lease.leaseId.text }
        activeLeases := appendUnseen lease.leaseId (activeIds leases) }
      (replayedVersion p.version st.state)
      { st.sidecars with
        leases := leases
        attemptRegistry := replayedAttempts st.sidecars.attemptRegistry lease
        journalPosition := index }

def retiredStatus : LeaseOp → LeaseStatus
  | .release => .released
  | .revoke => .revoked
  | _ => .expired

def withStatus (leases : Dict String WorkLease) (leaseId : String) (status : LeaseStatus) :
    Dict String WorkLease :=
  match leases.get? leaseId with
  | none => leases
  | some lease => leases.set leaseId { lease with status := status }

/-- The node status of an expire record that has one. -/
def replayedNodes (nodes : Dict String NodeState) (p : LeaseRecord) : Dict String NodeState :=
  match p.op, p.nodeStatus, p.nodeId with
  | .expire, some status, some nodeId =>
    let node := (nodes.get? nodeId).getD { status := status }
    nodes.set nodeId { node with status := status }
  | _, _, _ => nodes

/-- `current_lease_id` is cleared where it names the lease of the record. -/
def unboundAttempts (attempts : Dict String AttemptRecord) (p : LeaseRecord) :
    Dict String AttemptRecord :=
  match p.attemptId with
  | none => attempts
  | some attemptId =>
    match attempts.get? attemptId with
    | none => attempts
    | some attempt =>
      if attempt.currentLeaseId = some p.leaseId then
        attempts.set attemptId { attempt with currentLeaseId := none }
      else attempts

def applyRetireRecord (st : Replay) (p : LeaseRecord) (index : Int) : Replay :=
  Replay.rebuilt
    { st.state.state with
      nodes := replayedNodes st.state.state.nodes p
      activeLeases := st.state.state.activeLeases.filter (· ≠ p.leaseId) }
    (replayedVersion p.version st.state)
    { st.sidecars with
      leases := withStatus st.sidecars.leases p.leaseId (retiredStatus p.op)
      attemptRegistry := unboundAttempts st.sidecars.attemptRegistry p
      journalPosition := index }

/-- `_apply_lease_record`; a renew record has no branch. -/
def applyLeaseRecord (st : Replay) (p : LeaseRecord) (index : Int) : Except Raised Replay :=
  match p.op with
  | .grant | .replace => applyGrantRecord st p index
  | .release | .revoke | .expire => .ok (applyRetireRecord st p index)
  | .detach => .ok (Replay.rebuilt st.state.state (replayedVersion p.version st.state)
      { st.sidecars with
        leases := withStatus st.sidecars.leases p.leaseId .released, journalPosition := index })
  | .renew => .ok (Replay.rebuilt st.state.state (replayedVersion p.version st.state)
      { st.sidecars with journalPosition := index })

/-! ## Replay -/

/-- `apply_runtime_record`. -/
def applyRuntimeRecord (st : Replay) (r : RuntimeRecord) : Except Raised Replay :=
  match r.body with
  | .event p => .ok (applyEventRecord st p r.recordIndex)
  | .lease p => applyLeaseRecord st p r.recordIndex
  | .cancellation _ => .ok { st with
      sidecars := { st.sidecars with journalPosition := r.recordIndex } }

/-- `sorted(records, key=lambda r: r.record_index)`. -/
def sortRecords (records : List RuntimeRecord) : List RuntimeRecord :=
  records.insertionSort fun a b => a.recordIndex ≤ b.recordIndex

def Replay.start (base : VersionedRunState) : Replay := ⟨base, base.metadata⟩

/-- `replay_records`. -/
def replayRecords (base : VersionedRunState) (records : List RuntimeRecord) :
    Except Raised VersionedRunState := do
  let final ← (sortRecords records).foldlM applyRuntimeRecord (Replay.start base)
  return final.state

/-! ## Replaying a journal -/

/-- Records of a journal are in index order already. -/
theorem sortRecords_drop (j : Journal) (n : Nat) :
    sortRecords (j.records.drop n) = j.records.drop n := by
  apply List.Pairwise.insertionSort_eq
  apply List.Pairwise.drop
  rw [List.pairwise_iff_getElem]
  intro i k inside later order
  have first := j.indexed i _ (List.getElem?_eq_getElem inside)
  have second := j.indexed k _ (List.getElem?_eq_getElem later)
  omega

theorem replayRecords_drop (base : VersionedRunState) (j : Journal) (n : Nat) :
    replayRecords base (j.records.drop n) =
      ((j.records.drop n).foldlM applyRuntimeRecord (Replay.start base)).map (·.state) := by
  unfold replayRecords
  rw [sortRecords_drop]
  cases (j.records.drop n).foldlM applyRuntimeRecord (Replay.start base) <;> rfl

end DwSuperApps.Source.Runtime
