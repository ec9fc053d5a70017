import DwSuperApps.Lib.Stateful
import DwSuperApps.Source.Monitoring

/-!
# The MVP pilot

`taskcontroller/mvp/pilot.py` with the cards of `rootcard.py`: one root, the command of the
selected subtask, and the observations that update the root card in place. The transport and
the audit facade are the host's; what they answer may depend on all calls before, and the
calls are listed.

A call carries the card that is posted. Left out: its Block Kit form, which its own validation
never refuses, and the fields of the card that are only copied from the configuration; what
the checks of these fields answer is part of the configuration. A plan without contracts and
without an active subtask fails as invalid, not with an `IndexError`.
-/
namespace DwSuperApps.Source.MvpPilot

open DwSuperApps.Lib DwSuperApps.Lib.Checked DwSuperApps.Lib.Stateful
open DwSuperApps.Source.Monitoring (Raised invalid Literal ReportStatus ContractedSubtask ExecutorReport
  LoopObservation LoopOutcome Reader Segment Call ThreadReply tsKey boundedLoop unboundedLoop)

/-! ## Cards -/

inductive TaskCardStatus where
  | pending | inProgress | done | blocked | failed
  deriving DecidableEq

/-- `REPORT_TO_CARD_STATUS`. -/
def reportStatusToCardStatus : ReportStatus → TaskCardStatus
  | .running => .inProgress
  | .done => .done
  | .blocked => .blocked
  | .failed => .failed

structure TaskCard where
  subtaskId : String
  objective : String
  status : TaskCardStatus
  afterReport : Literal
  detail : Option String := none
  deriving DecidableEq

def TaskCard.fromContract (contracted : ContractedSubtask) : TaskCard where
  subtaskId := contracted.subtaskId
  objective := contracted.objective
  status := .pending
  afterReport := contracted.afterReport

def minTaskCards : Nat := 3
def maxTaskCards : Nat := 5

structure PlanBlock where
  cards : List TaskCard
  sized : minTaskCards ≤ cards.length ∧ cards.length ≤ maxTaskCards
  distinct : (cards.map (·.subtaskId)).Nodup
  deriving DecidableEq

/-- `PlanBlock.__post_init__`. -/
def PlanBlock.make (cards : List TaskCard) : Except Raised PlanBlock :=
  if sized : minTaskCards ≤ cards.length ∧ cards.length ≤ maxTaskCards then
    if distinct : (cards.map (·.subtaskId)).Nodup then .ok ⟨cards, sized, distinct⟩
    else .error (invalid "TaskCard subtask_ids must be unique")
  else .error (invalid
    s!"PlanBlock requires {minTaskCards}-{maxTaskCards} TaskCards, got {cards.length}")

def PlanBlock.fromContracts (contracted : List ContractedSubtask) : Except Raised PlanBlock :=
  PlanBlock.make (contracted.map TaskCard.fromContract)

structure RootCard where
  runId : String
  humanOwner : String
  controller : String
  executor : String
  plan : PlanBlock
  activeSubtaskId : String
  now : String
  next : String
  lastMaterialUpdate : String
  risk : Option String := none
  deriving DecidableEq

/-- `_require_text`. -/
def requireText (value fieldName : String) : Except Raised Unit :=
  ensure (strip value ≠ "") (invalid s!"{fieldName} must be a non-empty string")

/-- `RootCard.__post_init__`, with the checks of the fields that are left out. -/
def RootCard.checked (others : Except Raised Unit) (card : RootCard) : Except Raised RootCard := do
  checkAll (fun (entry : String × String) => requireText entry.2 entry.1) [
    ("run_id", card.runId), ("human_owner", card.humanOwner), ("controller", card.controller),
    ("executor", card.executor), ("active_subtask_id", card.activeSubtaskId), ("now", card.now),
    ("next", card.next), ("last_material_update", card.lastMaterialUpdate)]
  ensure (card.activeSubtaskId ∈ card.plan.cards.map (·.subtaskId)) (invalid
    s!"active_subtask_id {Json.reprString card.activeSubtaskId} is not in the PlanBlock {(Json.arr (card.plan.cards.map fun c => .str c.subtaskId)).pyRepr}")
  checkAll (fun risk => requireText risk "risk") card.risk.toList
  others
  .ok card

/-! ## The configuration -/

structure MvpPilotConfig where
  runId : String
  channel : String
  humanOwner : String
  controller : String
  executor : String
  contracts : List ContractedSubtask
  rootTs : Option String := none
  activeSubtaskId : Option String := none
  executorUserId : Option String := none
  risk : Option String := none
  audited : Bool := false
  otherFields : Except Raised Unit := .ok ()

/-- `_active_subtask_id`. -/
def activeSubtaskId (config : MvpPilotConfig) : Except Raised String :=
  match config.activeSubtaskId.filter (· ≠ "") with
  | some active => .ok active
  | none =>
    match config.contracts with
    | first :: _ => .ok first.subtaskId
    | [] => .error (invalid "tuple index out of range")

/-- `_selected_contract`. -/
def selectedContract (config : MvpPilotConfig) : Except Raised ContractedSubtask := do
  let wanted ← activeSubtaskId config
  match config.contracts.find? fun contract => contract.subtaskId = wanted with
  | some contract => .ok contract
  | none => .error (invalid s!"active subtask {Json.reprString wanted} is not in the contracted plan")

/-- `_build_initial_card`. -/
def buildInitialCard (config : MvpPilotConfig) : Except Raised RootCard := do
  let plan ← PlanBlock.fromContracts config.contracts
  let active ← activeSubtaskId config
  RootCard.checked config.otherFields {
    runId := config.runId
    humanOwner := config.humanOwner
    controller := config.controller
    executor := config.executor
    plan := plan
    activeSubtaskId := active
    now := "RUNNING"
    next := "await controller"
    lastMaterialUpdate := "root created"
    risk := config.risk }

/-! ## Calls -/

inductive HostCall where
  | createRoot (card : RootCard) (answer : Except Raised String)
  | updateRoot (rootTs : String) (card : RootCard)
  | dispatchCommand (rootTs text executorUserId : String)
  | record (decisionKind : String)

/-- The transport and the audit facade, by the calls before. -/
structure Host where
  createRoot : List HostCall → Except Raised String
  updateRoot : List HostCall → Except Raised Unit
  dispatchCommand : List HostCall → Except Raised String
  record : List HostCall → Except Raised Unit

/-- The pilot, with the calls it made and the observations it was given. -/
structure Pilot where
  rootTs : Option String := none
  card : Option RootCard := none
  calls : List HostCall := []
  observed : List LoopObservation := []

abbrev PilotM (α : Type) := EStateM Raised Pilot α

def listCall (call : HostCall) : PilotM Unit := modify fun s => { s with calls := s.calls ++ [call] }

/-- `slack.create_root`. -/
def createRoot (host : Host) (card : RootCard) : PilotM String := do
  let s ← get
  listCall (.createRoot card (host.createRoot s.calls))
  attempt (host.createRoot s.calls)

/-- `slack.update_root`. -/
def updateRoot (host : Host) (rootTs : String) (card : RootCard) : PilotM Unit := do
  let s ← get
  listCall (.updateRoot rootTs card)
  attempt (host.updateRoot s.calls)

/-- `slack.dispatch_command`. -/
def dispatchCommand (host : Host) (rootTs text executorUserId : String) : PilotM String := do
  let s ← get
  listCall (.dispatchCommand rootTs text executorUserId)
  attempt (host.dispatchCommand s.calls)

/-- `_record_audit_event`. -/
def recordAuditEvent (host : Host) (config : MvpPilotConfig) (decisionKind : String) : PilotM Unit :=
  if config.audited then do
    let s ← get
    listCall (.record decisionKind)
    attempt (host.record s.calls)
  else pure ()

/-! ## The pilot -/

/-- The card, built when there is none. -/
def currentCard (config : MvpPilotConfig) : PilotM RootCard := do
  let s ← get
  match s.card with
  | some card => return card
  | none => do
    let card ← attempt (buildInitialCard config)
    modify fun s => { s with card := some card }
    return card

def ensureRoot (host : Host) (config : MvpPilotConfig) : PilotM String := do
  let s ← get
  match s.rootTs with
  | some rootTs => do
    recordAuditEvent host config "ROOT_UPDATE"
    return rootTs
  | none =>
    match config.rootTs with
    | some rootTs => do
      modify fun s => { s with rootTs := some rootTs }
      return rootTs
    | none => do
      let card ← currentCard config
      let rootTs ← createRoot host card
      modify fun s => { s with rootTs := some rootTs }
      recordAuditEvent host config "ROOT_CREATE"
      return rootTs

def formatCommand (subtask : ContractedSubtask) : String :=
  "\n".intercalate [
    "EXECUTOR COMMAND", "Subtask: " ++ subtask.subtaskId, "Objective: " ++ subtask.objective,
    "Allowed work: " ++ "; ".intercalate subtask.allowedWork,
    "Expected output: " ++ "; ".intercalate subtask.expectedOutput,
    "Report requirement: " ++ "; ".intercalate subtask.reportRequirement,
    "After report: " ++ subtask.afterReport.value]

def dispatchCurrent (host : Host) (config : MvpPilotConfig) : PilotM String := do
  let subtask ← attempt (selectedContract config)
  let rootTs ← ensureRoot host config
  dispatchCommand host rootTs (formatCommand subtask) (config.executorUserId.getD "")

/-- A card of the plan behind a report: the active one takes over its status. -/
def remapped (active : String) (report : ExecutorReport) (card : TaskCard) : TaskCard :=
  if card.subtaskId = active then
    { card with
      status := reportStatusToCardStatus report.status
      detail := if report.completed = [] then none else some ("; ".intercalate report.completed) }
  else card

/-- The root card behind a report. -/
def observedCard (config : MvpPilotConfig) (card : RootCard) (report : ExecutorReport) :
    Except Raised RootCard := do
  let active ← activeSubtaskId config
  let cards := card.plan.cards.map (remapped active report)
  checkAll (fun detail => requireText detail "detail") (cards.filterMap (·.detail))
  let plan ← PlanBlock.make cards
  RootCard.checked (.ok ()) { card with
    plan := plan
    now := report.status.value
    next := report.nextAction
    risk := report.findingRisk.head?.or card.risk
    lastMaterialUpdate := report.evidence.getLast?.getD card.lastMaterialUpdate }

def applyObservation (host : Host) (config : MvpPilotConfig) (observation : LoopObservation) : PilotM Unit := do
  modify fun s => { s with observed := s.observed ++ [observation] }
  let card ← currentCard config
  let updated ← attempt (observedCard config card observation.report)
  modify fun s => { s with card := some updated }
  let rootTs ← ensureRoot host config
  updateRoot host rootTs updated

def pollIntervalSeconds : Nat := 60

/-- The observations a segment of the loop hands over. -/
def observations (calls : List Call) : List LoopObservation :=
  calls.filterMap fun call =>
    match call with
    | .updateRootcard observation => some observation
    | _ => none

/-- `run`: with a number of polls, or without one as far as `polls` polls take it. -/
def run (host : Host) (config : MvpPilotConfig) (readReplies : Reader) (maxPolls : Option Nat) (polls : Nat) :
    PilotM (Option LoopOutcome) := do
  attempt (ensure config.executorUserId.isSome
    (invalid "live MvpPilot.run() requires config.executor_user_id bound"))
  attempt (ensure (∀ n ∈ maxPolls, 1 ≤ n) (invalid "max_polls must be a positive int or None (unbounded)"))
  let rootTs ← ensureRoot host config
  let dispatchTs ← dispatchCurrent host config
  let dispatched ← attempt (tsKey dispatchTs)
  let rooted ← attempt (tsKey rootTs)
  let cursor := if rooted < dispatched then dispatchTs else rootTs
  let contract ← attempt (selectedContract config)
  let segment := match maxPolls with
    | some n => boundedLoop contract readReplies (some cursor) n pollIntervalSeconds
    | none => unboundedLoop contract readReplies (some cursor) pollIntervalSeconds polls
  runAll (applyObservation host config) (observations segment.calls)
  match segment.ended with
  | none => return none
  | some ended => do
    let outcome ← attempt ended
    return some outcome

/-! ## Runs -/

/-- The public methods of the pilot. -/
inductive Action where
  | ensureRoot
  | dispatchCurrent
  | applyObservation (observation : LoopObservation)
  | run (readReplies : Reader) (maxPolls : Option Nat) (polls : Nat)

/-- What a call of a method leaves of the pilot, whether it returns or raises. -/
def step (host : Host) (config : MvpPilotConfig) (s : Pilot) : Action → Pilot
  | .ensureRoot => left (ensureRoot host config) s
  | .dispatchCurrent => left (dispatchCurrent host config) s
  | .applyObservation observation => left (applyObservation host config observation) s
  | .run readReplies maxPolls polls => left (run host config readReplies maxPolls polls) s

end DwSuperApps.Source.MvpPilot
