import DwSuperApps.Lib.Runs
import DwSuperApps.Lib.Sorted
import DwSuperApps.Source.RuntimeState
import DwSuperApps.Source.TerminalBuild

/-!
# Host pack and its root card

`taskcontroller/packs/host_pack.py` and `host_state.py` over the Slack projection of
`taskcontroller/projections`: the binding registry, the renderer, the adapter and the
operations of one host. A transport that fails, what the store holds when it is read and
what the control plane answers are part of the operation. A crash keeps what the transport
applied and the last state a checkpoint returned.
-/
namespace DwSuperApps.Source.HostPack

open DwSuperApps.Lib
open DwSuperApps.Source.Runtime (VersionedRunState RunStatus NodeStatus Intent ControlResult)

inductive Failure where
  | raised (e : Runtime.Raised)
  | duplicateRoot (message : String)
  | transport
  deriving DecidableEq

/-! ## Projection of a run -/

structure NodeSummary where
  nodeId : String
  status : NodeStatus
  contractRef : Option String
  currentAttempt : Int
  leaseRef : Option String
  deriving DecidableEq

structure RunProjection where
  runId : String
  status : RunStatus
  version : Int
  planVersion : String
  runVersion : String
  journalPosition : Int
  nodeCount : Nat
  nodeCountsByStatus : List (String × Nat)
  nodes : List NodeSummary
  activeAttempts : List String
  activeLeases : List String
  hasBlockers : Bool
  hasReviewing : Bool
  isTerminal : Bool
  legalAffordances : List String
  deriving DecidableEq

/-- The affordances of a run that is not terminal, in the order they are collected. -/
def collectAffordances (status : RunStatus) : List String :=
  (if .paused ∈ Runtime.runTransitions status then ["PAUSE"] else []) ++
  (if .cancelled ∈ Runtime.runTransitions status then ["CANCEL"] else []) ++
  (if status = .paused ∨ status = .blocked then ["RESUME"] else []) ++
  (if status ∈ [.created, .planned, .running, .paused, .blocked] then ["REPLAN"] else [])

def legalAffordances (status : RunStatus) : List String :=
  if status.terminal then [] else Sorted.sortedBy id (collectAffordances status)

/-- `counts[status] = counts.get(status, 0) + 1` for each node, sorted. -/
def countsByStatus (nodes : List NodeSummary) : List (String × Nat) :=
  Sorted.sortedBy Prod.fst
    ((nodes.map (·.status.value)).dedup.map fun value =>
      (value, nodes.countP fun node => node.status.value = value))

/-- `RunProjection.from_versioned`. -/
def fromVersioned (vr : VersionedRunState) : RunProjection :=
  let summaries := (Sorted.sortedBy Prod.fst vr.state.nodes.entries).map fun entry =>
    { nodeId := entry.1, status := entry.2.status, contractRef := entry.2.contractRef,
      currentAttempt := entry.2.currentAttempt.getD 0, leaseRef := entry.2.leaseRef }
  { runId := vr.state.runId
    status := vr.state.status
    version := vr.version
    planVersion := vr.state.planVersion
    runVersion := vr.state.runVersion
    journalPosition := vr.metadata.journalPosition
    nodeCount := vr.state.nodes.entries.length
    nodeCountsByStatus := countsByStatus summaries
    nodes := summaries
    activeAttempts := Sorted.sortedBy id vr.state.activeAttempts
    activeLeases := Sorted.sortedBy id vr.state.activeLeases
    hasBlockers := summaries.any (·.status = .blocked)
    hasReviewing := summaries.any (·.status = .reviewing)
    isTerminal := vr.state.status.terminal
    legalAffordances := legalAffordances vr.state.status }

/-! ## View -/

inductive TaskStatus where
  | pending | inProgress | complete | error
  deriving DecidableEq

def TaskStatus.value : TaskStatus → String
  | .pending => "pending"
  | .inProgress => "in_progress"
  | .complete => "complete"
  | .error => "error"

/-- `map_node_status`; MIXING is not in the table. -/
def mapNodeStatus : NodeStatus → TaskStatus
  | .pending | .ready | .blocked | .retryReady | .leaseExpired | .mixing => .pending
  | .claimed | .running | .reviewing => .inProgress
  | .done => .complete
  | .failed | .cancelled => .error

def mapRunStatus : RunStatus → TaskStatus
  | .created | .planned | .paused | .blocked => .pending
  | .running => .inProgress
  | .completed => .complete
  | .failed | .cancelled => .error

structure ProjectionNode where
  nodeId : String
  status : TaskStatus
  label : String
  detail : Option String
  deriving DecidableEq

/-- Session, model and executor of a host: content of a card, not its identity. -/
structure Metadata where
  sessionId : Option String := none
  model : Option String := none
  executor : Option String := none
  deriving DecidableEq

/-- The fields that are given replace the ones that are there. -/
def Metadata.refresh (old new : Metadata) : Metadata where
  sessionId := new.sessionId.or old.sessionId
  model := new.model.or old.model
  executor := new.executor.or old.executor

structure RunProjectionView where
  runId : String
  runStatus : RunStatus
  version : Int
  planVersion : String
  journalPosition : Int
  isTerminal : Bool
  legalAffordances : List String
  nodes : List ProjectionNode
  metadata : Metadata := {}
  tokenUsage : Option Int := none
  deriving DecidableEq

def buildView (projection : RunProjection) (metadata : Metadata) (tokenUsage : Option Int) :
    RunProjectionView where
  runId := projection.runId
  runStatus := projection.status
  version := projection.version
  planVersion := projection.planVersion
  journalPosition := projection.journalPosition
  isTerminal := projection.isTerminal
  legalAffordances := projection.legalAffordances
  nodes := projection.nodes.map fun n =>
    { nodeId := n.nodeId, status := mapNodeStatus n.status, label := n.nodeId,
      detail := some n.status.value }
  metadata := metadata
  tokenUsage := tokenUsage

/-! ## Binding registry -/

structure Binding where
  bindingKey : String
  channel : String
  root : String
  metadata : Metadata := {}
  deriving DecidableEq

structure BindingRegistry where
  bindings : Dict String Binding := {}
  deriving DecidableEq

namespace BindingRegistry

/-- `snapshot`: the bindings sorted by their key, each with the fields it has. -/
def snapshot (r : BindingRegistry) : Dict String Binding where
  entries := Sorted.sortedBy Prod.fst r.bindings.entries
  distinct := (Sorted.perm_sortedBy.map Prod.fst).nodup_iff.mpr r.bindings.distinct

/-- `from_snapshot`. -/
def fromSnapshot (snapshot : Dict String Binding) : BindingRegistry where
  bindings := ({} : Dict String Binding).update snapshot.entries

def lookup (r : BindingRegistry) (key : String) : Option Binding := r.bindings.get? key

def has (r : BindingRegistry) (key : String) : Bool := (r.bindings.get? key).isSome

def bind (r : BindingRegistry) (key channel root : String) (metadata : Metadata) :
    Except Failure (Binding × BindingRegistry) :=
  match r.bindings.get? key with
  | some existing =>
    if existing.channel = channel ∧ existing.root = root then .ok (existing, r)
    else .error (.duplicateRoot (s!"binding {Json.reprString key} already bound to root " ++
      s!"{Json.reprString existing.root}; refusing new root {Json.reprString root}"))
  | none =>
    let binding : Binding := ⟨key, channel, root, metadata⟩
    .ok (binding, ⟨r.bindings.set key binding⟩)

def updateMetadata (r : BindingRegistry) (key : String) (metadata : Metadata) :
    Except Failure BindingRegistry :=
  match r.bindings.get? key with
  | none => .error (.raised ⟨.keyError, Json.reprString s!"no binding for {Json.reprString key}"⟩)
  | some existing =>
    .ok ⟨r.bindings.set key { existing with metadata := existing.metadata.refresh metadata }⟩

end BindingRegistry

/-! ## Renderer -/

inductive OpKind where
  | createRoot | updateRoot | replyThread
  deriving DecidableEq

structure ProjectionOp where
  op : OpKind
  bindingKey : String
  channel : String
  root : Option String := none
  payload : Json
  authorityRequired : Bool := false
  deriving DecidableEq

def taskEmoji : TaskStatus → String
  | .pending => ":large_blue_circle:"
  | .inProgress => ":repeat:"
  | .complete => ":white_check_mark:"
  | .error => ":x:"

def markdown (text : String) : Json := .obj [("type", .str "mrkdwn"), ("text", .str text)]

def textSection (text : String) : Json := .obj [("type", .str "section"), ("text", markdown text)]

/-- A text that is there and not empty, as a line of its own. -/
def metaLine (label : String) (value : Option String) : List String :=
  match value with
  | some text => if text = "" then [] else [s!"*{label}*: {text}"]
  | none => []

def taskCard (node : ProjectionNode) : Json :=
  textSection (s!"{taskEmoji node.status} *{node.label}* — `{node.status.value}`" ++
    match node.detail with
    | some detail => if detail = "" then "" else s!"\n   _{detail}_"
    | none => "")

def metaLines (view : RunProjectionView) : List String :=
  [s!"*status*: `{view.runStatus.value}`", s!"*version*: {view.version}",
    s!"*plan*: {view.planVersion}", s!"*journal*: {view.journalPosition}"] ++
  metaLine "session" view.metadata.sessionId ++ metaLine "model" view.metadata.model ++
  metaLine "executor" view.metadata.executor ++
  (view.tokenUsage.elim [] fun tokens => [s!"*tokens*: {tokens}"])

def renderRootBlocks (view : RunProjectionView) : Json :=
  let header : Json := .obj [("type", .str "header"), ("text", .obj [("type", .str "plain_text"),
    ("text", .str s!"Run {view.runId} {taskEmoji (mapRunStatus view.runStatus)}")])]
  let actions := if view.legalAffordances = [] then "—" else ", ".intercalate view.legalAffordances
  let affordances : Json := .obj [("type", .str "context"),
    ("elements", .arr [markdown s!"actions: {actions}"])]
  .obj [("blocks", .arr ([header, textSection ("\n".intercalate (metaLines view)), textSection "*Plan*"] ++
    view.nodes.map taskCard ++ [affordances]))]

/-- `_validate_binding_route`. -/
def validateBindingRoute (bindingKey channel : String) (binding : Binding) : Except Failure Unit :=
  if binding.bindingKey ≠ bindingKey then
    .error (.raised ⟨.validation, "Slack human-plane binding key does not match persisted binding"⟩)
  else if binding.channel ≠ channel then
    .error (.raised ⟨.validation, "Slack human-plane channel does not match persisted binding"⟩)
  else if binding.root = "" then
    .error (.raised ⟨.validation, "Slack human-plane persisted binding has no root"⟩)
  else .ok ()

def renderRootOp (view : RunProjectionView) (bindingKey channel : String) :
    Option Binding → Except Failure ProjectionOp
  | none => .ok { op := .createRoot, bindingKey, channel, payload := renderRootBlocks view }
  | some binding => do
    validateBindingRoute bindingKey channel binding
    return { op := .updateRoot, bindingKey, channel, root := some binding.root
             payload := renderRootBlocks view }

/-- The members of `HumanEventKind` the adapter emits. -/
inductive HumanEventKind where
  | correctionRequired | authorityRequired
  deriving DecidableEq

def HumanEventKind.value : HumanEventKind → String
  | .correctionRequired => "CORRECTION_REQUIRED"
  | .authorityRequired => "AUTHORITY_REQUIRED"

def renderThreadOp (bindingKey channel : String) (binding : Binding) (kind : HumanEventKind)
    (text : String) (authorityRequired : Bool) : Except Failure ProjectionOp := do
  validateBindingRoute bindingKey channel binding
  return { op := .replyThread, bindingKey, channel, root := some binding.root
           payload := .obj [("event_kind", .str kind.value), ("text", .str text)]
           authorityRequired }

/-! ## Transport -/

structure SlackTransport where
  ops : List ProjectionOp := []
  rootsCreated : List (Option String) := []
  rootsUpdated : List (Option String) := []
  threadReplies : List (Option String) := []
  deriving DecidableEq

def SlackTransport.apply (t : SlackTransport) (op : ProjectionOp) : SlackTransport where
  ops := t.ops ++ [op]
  rootsCreated := if op.op = .createRoot then t.rootsCreated ++ [op.root] else t.rootsCreated
  rootsUpdated := if op.op = .updateRoot then t.rootsUpdated ++ [op.root] else t.rootsUpdated
  threadReplies := if op.op = .replyThread then t.threadReplies ++ [op.root] else t.threadReplies

/-- What becomes of one call of the transport: `lost` is applied and raises all the same. -/
inductive Delivery where
  | delivered | refused | lost
  deriving DecidableEq

/-- `transport.apply(op)` as the caller sees it. -/
def SlackTransport.deliver (t : SlackTransport) (op : ProjectionOp) :
    Delivery → Except Failure Unit × SlackTransport
  | .delivered => (.ok (), t.apply op)
  | .refused => (.error .transport, t)
  | .lost => (.error .transport, t.apply op)

/-! ## Actions -/

structure ControlIntent where
  intent : Intent
  runId : String
  expectedVersion : Int
  commandId : Option String
  newPlanVersion : Option String
  deriving DecidableEq

/-- An action maps to a control intent or to a result that only asks for authority. -/
inductive ActionMapping where
  | control (intent : ControlIntent)
  | authority (action runId : String)
  deriving DecidableEq

/-- `CONTROL_ACTIONS`. -/
def controlActions : List Intent := [.pause, .resume, .cancel, .replan]

/-- `AUTHORITY_ACTIONS`. -/
def authorityActions : List String := ["APPROVE", "MERGE"]

def mapAction (action runId : String) (expectedVersion : Int) (commandId newPlanVersion : Option String) :
    Except Failure ActionMapping :=
  let action := TerminalResult.upper action
  match controlActions.find? (·.value = action) with
  | some intent =>
    if intent = .replan ∧ newPlanVersion = none then
      .error (.raised ⟨.valueError, "REPLAN requires new_plan_version"⟩)
    else .ok (.control ⟨intent, runId, expectedVersion, commandId, newPlanVersion⟩)
  | none =>
    if action ∈ authorityActions then .ok (.authority action runId)
    else .error (.raised ⟨.valueError, s!"unknown action: {Json.reprString action}"⟩)

/-- What `ControlPlane.command` answers: the result and the run after it, or an exception. -/
abbrev Command := ControlIntent → Except Runtime.Raised (ControlResult × VersionedRunState)

/-- `except (StaleVersionError, TerminalRunError, ControlPlaneError)`. -/
def isControlPlaneError : Runtime.ErrorClass → Bool
  | .controlPlane | .staleVersion | .terminalRun | .commandConflict => true
  | _ => false

/-! ## Adapter -/

/-- `_CHANNEL`. -/
def channel : String := "slack"

/-- `_key`. -/
def keyOf (runId : String) : String := s!"{runId}#slack"

/-- The root a host allocates for its run. -/
def rootOf (runId : String) : String := s!"root.{runId}"

structure Adapter where
  transport : SlackTransport
  registry : BindingRegistry
  deriving DecidableEq

namespace Adapter

/-- Render an operation and apply it. -/
def send (a : Adapter) (rendered : Except Failure ProjectionOp) (delivery : Delivery) :
    Except Failure Unit × Adapter :=
  match rendered with
  | .error e => (.error e, a)
  | .ok op =>
    let sent := a.transport.deliver op delivery
    (sent.1, { a with transport := sent.2 })

/-- `materialize`; the root is bound before it is created. -/
def materialize (a : Adapter) (runId : String) (current : Option VersionedRunState)
    (metadata : Metadata) (tokenUsage : Option Int) (delivery : Delivery) :
    Except Failure RunProjection × Adapter :=
  match current with
  | none => (.error (.raised ⟨.controlPlane, s!"no such run: {Json.reprString runId}"⟩), a)
  | some run =>
    let proj := fromVersioned run
    let view := buildView proj metadata tokenUsage
    let key := keyOf runId
    match a.registry.lookup key with
    | none =>
      let allocatedRoot := rootOf runId
      match a.registry.bind key channel allocatedRoot metadata with
      | .error e => (.error e, a)
      | .ok (_, registry) =>
        let rendered := (renderRootOp view key channel none).map fun op =>
          { op with root := some allocatedRoot }
        let sent := { a with registry }.send rendered delivery
        (sent.1.map fun _ => proj, sent.2)
    | some binding =>
      match a.registry.updateMetadata key metadata with
      | .error e => (.error e, a)
      | .ok registry =>
        let sent := { a with registry }.send (renderRootOp view key channel (some binding)) delivery
        (sent.1.map fun _ => proj, sent.2)

inductive ActionResult where
  | authorityRequired (action runId : String)
  | rejected (error action : String)
  | accepted (action : String) (newStatus : RunStatus)
  deriving DecidableEq

/-- A reply in the thread of the root, where there is one. -/
def reply (a : Adapter) (key : String) (binding : Option Binding) (kind : HumanEventKind)
    (text : String) (authorityRequired : Bool) (delivery : Delivery) :
    Except Failure Unit × Adapter :=
  match binding with
  | none => (.ok (), a)
  | some bound => a.send (renderThreadOp key channel bound kind text authorityRequired) delivery

/-- `apply_action`. -/
def applyAction (a : Adapter) (runId action : String) (expectedVersion : Int)
    (commandId newPlanVersion : Option String) (command : Command) (delivery : Delivery) :
    Except Failure ActionResult × Adapter :=
  let key := keyOf runId
  let binding := a.registry.lookup key
  match mapAction action runId expectedVersion commandId newPlanVersion with
  | .error e => (.error e, a)
  | .ok (.authority _ _) =>
    let sent := a.reply key binding .authorityRequired s!"{action} requires external authority" true
      delivery
    (sent.1.map fun _ => .authorityRequired action runId, sent.2)
  | .ok (.control intent) =>
    match command intent with
    | .error e =>
      if isControlPlaneError e.kind then
        let sent := a.reply key binding .correctionRequired e.message false delivery
        (sent.1.map fun _ => .rejected e.message action, sent.2)
      else (.error (.raised e), a)
    | .ok (result, after) =>
      let view := buildView (fromVersioned after) {} none
      -- rendered with the binding looked up above, which may be missing
      let sent := a.send (renderRootOp view key channel binding) delivery
      (sent.1.map fun _ => .accepted action result.status, sent.2)

end Adapter

/-! ## Host -/

structure HostConfig where
  runId : String
  taskId : String
  controllerProfile : String := "WP5_CONTROL_PLANE"
  executorProfile : String := "HERMES_CLOUD"
  projectionTarget : String := "slack"
  hostId : String := "host.default"
  deriving DecidableEq

/-- `binding_key`. -/
def HostConfig.bindingKey (c : HostConfig) : String := s!"{c.runId}#{c.projectionTarget}"

structure HostState where
  config : HostConfig
  bindingSnapshot : Dict String Binding
  metadata : Metadata := {}
  checkpointVersion : Nat := 0
  deriving DecidableEq

/-- `with_metadata`. -/
def HostState.withMetadata (s : HostState) (metadata : Metadata) : HostState :=
  { s with metadata := s.metadata.refresh metadata }

/-- One host; its registry is the one its adapter uses. -/
structure Pack where
  config : HostConfig
  registry : BindingRegistry
  state : HostState
  deriving DecidableEq

namespace Pack

/-- `SlackTaskControllerPack(config, ..., host_state)`. -/
def new (config : HostConfig) : Option HostState → Pack
  | some state => ⟨config, .fromSnapshot state.bindingSnapshot, state⟩
  | none => ⟨config, {}, { config, bindingSnapshot := ({} : BindingRegistry).snapshot }⟩

/-- `restore`. -/
def restore (state : HostState) : Pack := new state.config (some state)

/-- `_capture_binding_snapshot`. -/
def capture (p : Pack) : Pack :=
  { p with state := { p.state with bindingSnapshot := p.registry.snapshot } }

def withRegistry (p : Pack) (registry : BindingRegistry) : Pack := { p with registry }

def withMetadata (p : Pack) (metadata : Metadata) : Pack :=
  { p with state := p.state.withMetadata metadata }

end Pack

/-! ## Operations of a host -/

/-- The host, what its transport applied and what its last checkpoint returned. -/
structure World where
  config : HostConfig
  transport : SlackTransport := {}
  host : Pack
  saved : Option HostState := none
  deriving DecidableEq

def start (config : HostConfig) : World where
  config := config
  host := .new config none

namespace World

def adapter (w : World) : Adapter := ⟨w.transport, w.host.registry⟩

/-- The adapter's `materialize` by this host, and the snapshot captured where it returned. -/
def project (w : World) (current : Option VersionedRunState) (delivery : Delivery) : World :=
  let sent := w.adapter.materialize w.host.config.runId current w.host.state.metadata none delivery
  let host := w.host.withRegistry sent.2.registry
  { w with
    transport := sent.2.transport
    host := match sent.1 with
      | .ok _ => host.capture
      | .error _ => host }

def materialize (w : World) (current : Option VersionedRunState) (metadata : Metadata)
    (delivery : Delivery) : World :=
  let host := if metadata.sessionId ≠ none then w.host.withMetadata metadata else w.host
  { w with host }.project current delivery

def rotate (w : World) (current : Option VersionedRunState) (metadata : Metadata)
    (delivery : Delivery) : World :=
  let host := w.host.withMetadata metadata
  if host.registry.has host.config.bindingKey then { w with host }.project current delivery
  else { w with host }

def controllerAction (w : World) (action : String) (expectedVersion : Int)
    (commandId newPlanVersion : Option String) (command : Command) (delivery : Delivery) : World :=
  let sent := w.adapter.applyAction w.host.config.runId action expectedVersion commandId
    newPlanVersion command delivery
  { w with
    transport := sent.2.transport
    host := w.host.withRegistry sent.2.registry }

/-- `checkpoint_host_state`; the caller keeps the state it returns. -/
def checkpoint (w : World) : World :=
  let state := { w.host.state with
    bindingSnapshot := w.host.registry.snapshot
    checkpointVersion := w.host.state.checkpointVersion + 1 }
  { w with host := { w.host with state }, saved := some state }

/-- A new process from the last checkpoint, or without any. -/
def crash (w : World) : World :=
  { w with host := match w.saved with
    | some state => .restore state
    | none => .new w.config none }

end World

inductive Operation where
  | materialize (current : Option VersionedRunState) (metadata : Metadata) (delivery : Delivery)
  | rotate (current : Option VersionedRunState) (metadata : Metadata) (delivery : Delivery)
  | controllerAction (action : String) (expectedVersion : Int)
      (commandId newPlanVersion : Option String) (command : Command) (delivery : Delivery)
  | checkpoint
  | crash

def step (w : World) : Operation → World
  | .materialize current metadata delivery => w.materialize current metadata delivery
  | .rotate current metadata delivery => w.rotate current metadata delivery
  | .controllerAction action expectedVersion commandId newPlanVersion command delivery =>
    w.controllerAction action expectedVersion commandId newPlanVersion command delivery
  | .checkpoint => w.checkpoint
  | .crash => w.crash

end DwSuperApps.Source.HostPack
