import DwSuperApps.Lib.Checked
import DwSuperApps.Lib.Dict
import DwSuperApps.Lib.Text

/-!
# Runtime state

`taskcontroller/domain/{enums,ids,values,models}.py`, `kernel/transitions.py` and
`runtime/runtime_state.py`: what a run, its leases, its attempts and its events
are. An identifier carries the check of its constructor. The metadata of a run is
modelled in its typed form (`RuntimeSnapshotMeta`); a plain dictionary in its
place and a lease without a holder are not.
-/
namespace DwSuperApps.Source.Runtime

open DwSuperApps.Lib DwSuperApps.Lib.Checked

/-! ## Exceptions -/

inductive ErrorClass where
  | leaseConflict | concurrentState | eventRejected | runtime
  | transitionRejected | replanPrecondition | kernel
  | controlPlane | staleVersion | terminalRun | commandConflict
  | validation | valueError | keyError | attributeError | overflowError
  deriving DecidableEq

structure Raised where
  kind : ErrorClass
  message : String
  deriving DecidableEq

def leaseConflict (message : String) : Raised := ⟨.leaseConflict, message⟩

def eventRejected (message : String) : Raised := ⟨.eventRejected, message⟩

/-- `TransitionRejected(reason, current, target)`. -/
def transitionRejected (reason current target : String) : Raised :=
  ⟨.transitionRejected, s!"transition rejected: {current} → {target}: {reason}"⟩

/-! ## Identifiers -/

def isIdChar (c : Char) : Bool := isAlnum c || c == '-' || c == '_' || c == '.'

/-- `[A-Za-z0-9][-A-Za-z0-9_.]\x7b0,127\x7d`. -/
def isIdChars : List Char → Bool
  | [] => false
  | c :: rest => isAlnum c && rest.all isIdChar && rest.length ≤ 127

/-- `_ID_PATTERN.match(value)`: `$` also matches before a final line break. -/
def matchesId (value : String) : Bool :=
  isIdChars value.toList ||
    (value.toList.getLast? == some '\n' && isIdChars value.toList.dropLast)

/-- A text `_validate_id` accepts. -/
structure Identifier where
  text : String
  valid : matchesId text = true := by decide
  deriving DecidableEq

instance : CoeOut Identifier String := ⟨Identifier.text⟩

@[ext] theorem Identifier.ext {i j : Identifier} (same : i.text = j.text) : i = j := by
  cases i
  cases j
  cases same
  rfl

/-- `_validate_id(name, value)`. -/
def validateId (name value : String) : Except Raised Identifier :=
  if h : matchesId value then .ok ⟨value, h⟩
  else .error ⟨.validation,
    s!"invalid {name}: {Json.reprString value} must match ^[A-Za-z0-9][-A-Za-z0-9_.]\x7b0,127\x7d$"⟩

theorem validateId_text (name : String) (i : Identifier) : validateId name i.text = .ok i := by
  unfold validateId
  rw [dif_pos i.valid]

theorem isIdChars_noColon {l : List Char} (h : isIdChars l = true) : ':' ∉ l := by
  cases l with
  | nil => simp
  | cons c rest =>
    simp only [isIdChars, Bool.and_eq_true, List.all_eq_true] at h
    obtain ⟨⟨first, later⟩, -⟩ := h
    intro member
    rcases List.mem_cons.mp member with rfl | inside
    · exact absurd first (by decide)
    · exact absurd (later _ inside) (by decide)

/-- No identifier has a colon, the separator of the dedupe keys. -/
theorem Identifier.noColon (i : Identifier) : ':' ∉ i.text.toList := by
  have valid := i.valid
  simp only [matchesId, Bool.or_eq_true, Bool.and_eq_true, beq_iff_eq] at valid
  rcases valid with whole | ⟨last, front⟩
  · exact isIdChars_noColon whole
  · obtain ⟨init, split⟩ := List.getLast?_eq_some_iff.mp last
    rw [split, List.dropLast_concat] at front
    rw [split, List.mem_append, List.mem_singleton]
    rintro (inside | same)
    · exact isIdChars_noColon front inside
    · exact absurd same (by decide)

/-! ## Vocabulary -/

inductive LeaseStatus where
  | active | expired | released | revoked
  deriving DecidableEq

def LeaseStatus.value : LeaseStatus → String
  | .active => "ACTIVE"
  | .expired => "EXPIRED"
  | .released => "RELEASED"
  | .revoked => "REVOKED"

inductive RunStatus where
  | created | planned | running | paused | blocked | completed | failed | cancelled
  deriving DecidableEq

def RunStatus.value : RunStatus → String
  | .created => "CREATED"
  | .planned => "PLANNED"
  | .running => "RUNNING"
  | .paused => "PAUSED"
  | .blocked => "BLOCKED"
  | .completed => "COMPLETED"
  | .failed => "FAILED"
  | .cancelled => "CANCELLED"

inductive NodeStatus where
  | pending | ready | claimed | running | reviewing | mixing | done | blocked | failed | retryReady
  | cancelled | leaseExpired
  deriving DecidableEq

namespace NodeStatus

def value : NodeStatus → String
  | .pending => "PENDING"
  | .ready => "READY"
  | .claimed => "CLAIMED"
  | .running => "RUNNING"
  | .reviewing => "REVIEWING"
  | .mixing => "MIXING"
  | .done => "DONE"
  | .blocked => "BLOCKED"
  | .failed => "FAILED"
  | .retryReady => "RETRY_READY"
  | .cancelled => "CANCELLED"
  | .leaseExpired => "LEASE_EXPIRED"

def members : List NodeStatus :=
  [.pending, .ready, .claimed, .running, .reviewing, .mixing, .done, .blocked, .failed, .retryReady,
    .cancelled, .leaseExpired]

/-- `NodeStatus(value)` for a value read from JSON. -/
def ofJson (value : Json) : Except Raised NodeStatus :=
  match members.find? fun status => Json.str status.value = value with
  | some status => .ok status
  | none => .error ⟨.valueError, s!"{value.rawRepr} is not a valid NodeStatus"⟩

end NodeStatus

inductive EventType where
  | taskStarted | progress | artifactProduced | statusChange | needsInput | needsReview
  | reviewSubmitted | completed | failed | heartbeat | cancelled | escalated | checkpoint
  deriving DecidableEq

def EventType.value : EventType → String
  | .taskStarted => "TASK_STARTED"
  | .progress => "PROGRESS"
  | .artifactProduced => "ARTIFACT_PRODUCED"
  | .statusChange => "STATUS_CHANGE"
  | .needsInput => "NEEDS_INPUT"
  | .needsReview => "NEEDS_REVIEW"
  | .reviewSubmitted => "REVIEW_SUBMITTED"
  | .completed => "COMPLETED"
  | .failed => "FAILED"
  | .heartbeat => "HEARTBEAT"
  | .cancelled => "CANCELLED"
  | .escalated => "ESCALATED"
  | .checkpoint => "CHECKPOINT"

/-! ## Transitions -/

/-- `_RUN_TRANSITIONS`. -/
def runTransitions : RunStatus → List RunStatus
  | .created => [.planned, .cancelled]
  | .planned => [.running, .cancelled]
  | .running => [.paused, .blocked, .completed, .failed, .cancelled]
  | .paused => [.running, .cancelled]
  | .blocked => [.running, .cancelled]
  | .completed | .failed | .cancelled => []

/-- `_NODE_TRANSITIONS`. -/
def nodeTransitions : NodeStatus → List NodeStatus
  | .pending => [.ready, .blocked, .cancelled]
  | .ready => [.claimed, .cancelled]
  | .claimed => [.running, .cancelled, .leaseExpired]
  | .running => [.reviewing, .failed, .cancelled, .leaseExpired]
  | .reviewing => [.mixing, .done, .failed, .retryReady, .cancelled, .leaseExpired]
  | .mixing => [.done, .failed, .retryReady, .cancelled, .leaseExpired]
  | .done => []
  | .blocked => [.ready, .cancelled]
  | .failed => [.retryReady, .cancelled]
  | .retryReady => [.pending, .ready, .cancelled]
  | .leaseExpired => [.retryReady, .cancelled]
  | .cancelled => []

def RunStatus.terminal (status : RunStatus) : Prop :=
  status = .completed ∨ status = .failed ∨ status = .cancelled

instance (status : RunStatus) : Decidable status.terminal := by
  unfold RunStatus.terminal; infer_instance

def validateRunTransition (current target : RunStatus) : Except Raised Unit :=
  ensure (target ∈ runTransitions current)
    (transitionRejected "no allowed transition" current.value target.value)

def validateNodeTransition (current target : NodeStatus) : Except Raised Unit :=
  ensure (target ∈ nodeTransitions current)
    (transitionRejected "no allowed transition" current.value target.value)

/-! ## Runs -/

structure EventCursor where
  lastEventId : Option String := none
  sequence : Nat := 0
  deriving DecidableEq

structure Checkpoint where
  stateVersion : Nat
  checkpointRef : Option String := none
  deriving DecidableEq

structure NodeState where
  status : NodeStatus
  contractRef : Option String := none
  currentAttempt : Option Int := none
  leaseRef : Option String := none
  artifactRefs : List String := []
  deriving DecidableEq

/-- `if id not in ids: ids.append(id)`. -/
def appendUnseen (id : String) (ids : List String) : List String :=
  if id ∈ ids then ids else ids ++ [id]

structure TeamRunState where
  runId : Identifier
  status : RunStatus
  nodes : Dict String NodeState := {}
  activeAttempts : List String := []
  activeLeases : List String := []
  artifactRefs : List String := []
  lastEventCursor : Option EventCursor := none
  checkpoint : Option Checkpoint := none
  planVersion : String := ""
  runVersion : String := ""
  updatedAt : Option String := none
  deriving DecidableEq

structure WorkLease where
  leaseId : Identifier
  runId : Identifier
  nodeId : Identifier
  executionId : Identifier
  attemptId : Identifier
  holder : Identifier
  fencingToken : String
  grantedAt : String
  expiresAt : String
  resourceRef : Option String := none
  status : LeaseStatus := .active
  leaseGeneration : Option Nat := none
  deriving DecidableEq

/-- The (run, node, execution, attempt) quad a lease is held for. -/
structure Quad where
  runId : Identifier
  nodeId : Identifier
  executionId : Identifier
  attemptId : Identifier
  deriving DecidableEq

def WorkLease.quad (lease : WorkLease) : Quad :=
  ⟨lease.runId, lease.nodeId, lease.executionId, lease.attemptId⟩

/-- The fields are not checked by the constructor, the generation apart. -/
structure AttemptRecord where
  attemptId : String
  runId : String
  nodeId : String
  executionId : String
  currentLeaseId : Option String
  fencingToken : String
  status : String
  currentAttemptNumber : Int
  leaseGeneration : Nat := 0
  deriving DecidableEq

/-! ## Events -/

structure AgentEvent where
  eventId : Identifier
  runId : Identifier
  nodeId : Identifier
  executionId : Identifier
  attemptId : Identifier
  fencingToken : String
  sequence : Nat
  eventType : EventType
  producer : Identifier
  timestamp : String
  idempotencyKey : Option String := none
  payload : Option (List (String × Json)) := none
  artifactRefs : List Identifier := []
  deriving DecidableEq

def AgentEvent.quad (event : AgentEvent) : Quad :=
  ⟨event.runId, event.nodeId, event.executionId, event.attemptId⟩

structure StreamWatermark where
  executionId : String
  attemptId : String
  producerSequence : Nat
  deriving DecidableEq

/-! ## Control results -/

inductive Intent where
  | pause | resume | cancel | replan
  deriving DecidableEq

def Intent.value : Intent → String
  | .pause => "PAUSE"
  | .resume => "RESUME"
  | .cancel => "CANCEL"
  | .replan => "REPLAN"

structure ControlResult where
  intent : Intent
  runId : String
  accepted : Bool
  newVersion : Int
  status : RunStatus
  detail : Option String := none
  commandId : Option String := none
  deriving DecidableEq

/-- Fingerprint of a cancellation command; `contracts` are the reprs. -/
structure CommandFingerprint where
  intent : Intent
  runId : String
  expectedVersion : Int
  commandId : Option String
  contracts : List String
  deriving DecidableEq

/-! ## Sidecars -/

/-- Value of the flat dedupe dictionary: the canonical fingerprint of an event,
the watermark of a stream or the stored result of a cancellation command. -/
inductive DedupeEntry where
  | event (fingerprint : List (String × Json))
  | stream (watermark : StreamWatermark)
  | command (fingerprint : CommandFingerprint) (result : ControlResult)
  deriving DecidableEq

theorem noWatermarks_nodup :
    (([] : List ((String × String) × StreamWatermark)).map Prod.fst).Nodup := List.nodup_nil

structure RuntimeSnapshotMeta where
  attemptRegistry : Dict String AttemptRecord := {}
  leases : Dict String WorkLease := {}
  streamWatermarks : Dict (String × String) StreamWatermark := { distinct := noWatermarks_nodup }
  eventCursor : Option EventCursor := none
  dedupeFingerprints : Dict String DedupeEntry := {}
  journalPosition : Int
  deriving DecidableEq

structure VersionedRunState where
  state : TeamRunState
  version : Int
  metadata : RuntimeSnapshotMeta
  deriving DecidableEq

end DwSuperApps.Source.Runtime
