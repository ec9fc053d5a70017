import DwSuperApps.Source.Lease

/-!
# Event routing

`taskcontroller/runtime/event_router.py`: `EventRouter.route` accepts one event
into a run. The dedupe dictionary holds, for all runs together, the fingerprint of
an event under its id and its idempotency key and the watermark of a stream under
a `stream:` key.
-/
namespace DwSuperApps.Source.Runtime

open DwSuperApps.Lib DwSuperApps.Lib.Checked
open DwSuperApps.Lib.Programs (Prog)

/-! ## Fingerprints and keys -/

/-- `_make_canonical_fingerprint`. -/
def canonicalFingerprint (event : AgentEvent) : List (String × Json) :=
  [("event_id", .str event.eventId),
    ("run_id", .str event.runId),
    ("node_id", .str event.nodeId),
    ("execution_id", .str event.executionId),
    ("attempt_id", .str event.attemptId),
    ("fencing_token", .str event.fencingToken),
    ("sequence", .int event.sequence),
    ("event_type", .str event.eventType.value),
    ("timestamp", .str event.timestamp),
    ("producer", .obj [("producer_id", .str event.producer)])] ++
  (event.idempotencyKey.map fun key => ("idempotency_key", Json.str key)).toList ++
  (event.payload.map fun payload => ("payload", Json.obj payload)).toList ++
  [("artifact_refs", .arr (event.artifactRefs.map fun ref => .obj [("artifact_id", .str ref)]))]

/-- `existing == fingerprint`; the other entries have other members. -/
def DedupeEntry.matchesEvent (existing : DedupeEntry) (fingerprint : List (String × Json)) : Prop :=
  match existing with
  | .event held => Json.pyEq (.obj held) (.obj fingerprint)
  | .stream _ | .command _ _ => False

instance (existing : DedupeEntry) (fingerprint : List (String × Json)) :
    Decidable (existing.matchesEvent fingerprint) := by
  unfold DedupeEntry.matchesEvent; split <;> infer_instance

def idempotencyKey (key : String) : String := "idem:" ++ key

/-- `_dedupe_keys`. -/
def dedupeKeys (event : AgentEvent) : List String :=
  event.eventId.text :: (event.idempotencyKey.map idempotencyKey).toList

def streamKey (executionId attemptId : String) : String :=
  "stream:" ++ (executionId ++ (":" ++ attemptId))

def splitAtColon : List Char → Option (List Char × List Char)
  | [] => none
  | c :: rest =>
    if c = ':' then some ([], rest)
    else (splitAtColon rest).map fun parts => (c :: parts.1, parts.2)

/-- `key.startswith("stream:")` and the two last of the three parts of
`key.split(":", 2)`. -/
def parseStreamKey (key : String) : Option (String × String) :=
  if "stream:".toList.isPrefixOf key.toList then
    (splitAtColon (key.toList.drop 7)).map fun parts =>
      (String.ofList parts.1, String.ofList parts.2)
  else none

/-- `StreamWatermark.from_dict` of a dedupe value. -/
def watermarkOf : DedupeEntry → Except Raised StreamWatermark
  | .stream watermark => .ok watermark
  | .event _ => .error ⟨.keyError, "'producer_sequence'"⟩
  | .command _ _ => .error ⟨.keyError, "'execution_id'"⟩

/-- The watermarks of the `stream:` entries, added to `start`. -/
def collectWatermarks (start : Dict (String × String) StreamWatermark)
    (dedupe : Dict String DedupeEntry) :
    Except Raised (Dict (String × String) StreamWatermark) :=
  dedupe.entries.foldlM (fun watermarks entry =>
    match parseStreamKey entry.1 with
    | none => .ok watermarks
    | some stream => do
      let watermark ← watermarkOf entry.2
      return watermarks.set stream watermark) start

/-! ## Acceptance -/

/-- Whether the event was accepted before; a key in use by another event is a
conflict. -/
def checkDuplicate (dedupe : Dict String DedupeEntry) (fingerprint : List (String × Json)) :
    List String → Except Raised Bool
  | [] => .ok false
  | key :: rest =>
    match dedupe.get? key with
    | none => checkDuplicate dedupe fingerprint rest
    | some existing =>
      if existing.matchesEvent fingerprint then .ok true
      else .error (eventRejected
        s!"conflicting reuse of {key}: existing fingerprint differs from current event")

/-- `_validate_correlation_and_fencing`. -/
def validateCorrelation (event : AgentEvent) (current : VersionedRunState) : Except Raised Unit :=
  match current.metadata.attemptRegistry.get? event.attemptId with
  | none => .error (eventRejected
      s!"unknown attempt_id {event.attemptId.text} for event {event.eventId.text}")
  | some attempt => do
    ensure (attempt.runId = event.runId.text ∧ attempt.nodeId = event.nodeId.text ∧
        attempt.executionId = event.executionId.text ∧ attempt.attemptId = event.attemptId.text)
      (eventRejected
        s!"event {event.eventId.text} correlation mismatch: event run/node/execution/attempt != current attempt record")
    match findActiveLease current.metadata.leases event.quad with
    | none => .error (eventRejected
        s!"no current ACTIVE lease for {event.runId.text}/{event.nodeId.text}/{event.executionId.text}/{event.attemptId.text}; event {event.eventId.text} rejected")
    | some lease =>
      ensure (lease.fencingToken = event.fencingToken)
        (eventRejected
          s!"fencing_token mismatch for event {event.eventId.text}: event token does not match current ACTIVE lease token")

/-- `_load_stream_watermark`, 0 for a stream without one. -/
def expectedSequence (event : AgentEvent) (dedupe : Dict String DedupeEntry) : Except Raised Nat :=
  match dedupe.get? (streamKey event.executionId event.attemptId) with
  | none => .ok 0
  | some raw => (watermarkOf raw).map (·.producerSequence)

/-- The strict next-sequence rule of the stream. -/
def checkSequence (event : AgentEvent) (dedupe : Dict String DedupeEntry) : Except Raised Unit := do
  let expected ← expectedSequence event dedupe
  ensure (event.sequence = expected)
    (eventRejected
      s!"out-of-order sequence for stream ({Json.reprString event.executionId.text}, {Json.reprString event.attemptId.text}): got {event.sequence}, expected {expected}")

/-! ## Application -/

def eventCursor (event : AgentEvent) : EventCursor :=
  { lastEventId := some event.eventId.text, sequence := event.sequence }

def recordArtifacts (ids : List String) (refs : List Identifier) : List String :=
  refs.foldl (fun ids ref => appendUnseen ref ids) ids

/-- The state with the cursor and the artifacts of the event. -/
def recordEvent (state : TeamRunState) (event : AgentEvent) : TeamRunState :=
  { state with
    lastEventCursor := some (eventCursor event)
    artifactRefs := recordArtifacts state.artifactRefs event.artifactRefs }

def TeamRunState.setStatus (state : TeamRunState) (nodeId : String) (node : NodeState)
    (status : NodeStatus) : TeamRunState :=
  { state with nodes := state.nodes.set nodeId { node with status := status } }

/-- `_apply_completed`. -/
def applyCompleted (state : TeamRunState) (event : AgentEvent) : Except Raised TeamRunState :=
  if state.status.terminal then .ok (recordEvent state event)
  else
    match state.nodes.get? event.nodeId with
    | none => .ok (recordEvent state event)
    | some node => do
      validateNodeTransition node.status .reviewing
      return (recordEvent state event).setStatus event.nodeId node .reviewing

/-- `(event.payload or \x7b\x7d).get("status")`. -/
def proposedStatus (event : AgentEvent) : Json := Json.get (event.payload.getD []) "status"

/-- `_apply_status_change`. -/
def applyStatusChange (state : TeamRunState) (event : AgentEvent) : Except Raised TeamRunState :=
  if proposedStatus event = .null then .ok (recordEvent state event)
  else if proposedStatus event = .str NodeStatus.done.value then
    .error (transitionRejected "STATUS_CHANGE cannot transition to DONE" state.status.value
      NodeStatus.done.value)
  else
    match state.nodes.get? event.nodeId with
    | none => .ok (recordEvent state event)
    | some node => do
      let proposed ← NodeStatus.ofJson (proposedStatus event)
      validateNodeTransition node.status proposed
      return (recordEvent state event).setStatus event.nodeId node proposed

/-- The new run state; an event type without a reducer is only recorded. -/
def applyToRun (state : TeamRunState) (event : AgentEvent) : Except Raised TeamRunState :=
  match event.eventType with
  | .completed => applyCompleted state event
  | .statusChange => applyStatusChange state event
  | _ => .ok (recordEvent state event)

def nextWatermark (event : AgentEvent) : StreamWatermark :=
  ⟨event.executionId, event.attemptId, event.sequence + 1⟩

/-- The metadata with the sidecars of the store mirrored into it. -/
def routedMetadata (metadata : RuntimeSnapshotMeta) (event : AgentEvent)
    (dedupe : Dict String DedupeEntry) (watermarks : Dict (String × String) StreamWatermark)
    (position : Int) : RuntimeSnapshotMeta :=
  { metadata with
    streamWatermarks := watermarks.set (event.executionId, event.attemptId) (nextWatermark event)
    eventCursor := some (eventCursor event)
    dedupeFingerprints := dedupe.update
      ((dedupeKeys event).map fun key => (key, .event (canonicalFingerprint event)))
    journalPosition := position }

/-- `_apply_event_to_state`. -/
def applyEventToState (current : VersionedRunState) (event : AgentEvent) :
    StoreProg VersionedRunState := do
  let state ← applyToRun current.state event
  let dedupe ← dedupeState
  let watermarks ← collectWatermarks {} dedupe
  let position ← lastRecordIndex event.runId
  return {
    state := state
    version := current.version + 1
    metadata := routedMetadata current.metadata event dedupe watermarks position }

/-- What is written after the compare-and-swap. -/
def recordAccepted (event : AgentEvent) (version : Int) : StoreProg Unit := do
  journalAppend event.runId (.event { event, version, fingerprint := canonicalFingerprint event })
  (dedupeKeys event).forM fun key => dedupePut key (.event (canonicalFingerprint event))
  dedupePut (streamKey event.executionId event.attemptId) (.stream (nextWatermark event))
  syncJournalPosition event.runId version

/-- `route`: the snapshot itself for an event accepted before. -/
def route (event : AgentEvent) (current : VersionedRunState) (expected : Int) :
    StoreProg VersionedRunState := do
  let seen ← dedupeState
  let duplicate ← checkDuplicate seen (canonicalFingerprint event) (dedupeKeys event)
  if duplicate then return current
  else
    validateCorrelation event current
    let dedupe ← dedupeState
    checkSequence event dedupe
    let newState ← applyEventToState current event
    let committed ← putRun newState expected
    recordAccepted event committed.version
    return committed

end DwSuperApps.Source.Runtime
