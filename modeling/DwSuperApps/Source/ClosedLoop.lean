import DwSuperApps.Lib.Programs
import DwSuperApps.Source.RuntimePlan

/-!
# Closed-loop execution

`taskcontroller/runtime/closed_loop_runtime_executor.py`: an executor performs the
step its cursor is at, updates itself and puts its state. The effect, the update
and the put are separate operations of a program, so that a process can stop
between any two of them. The state store keeps the value of a state: the order of
the members of an object is not part of it. What a callable of the caller does is
part of the call.
-/
namespace DwSuperApps.Source.ClosedLoop

open DwSuperApps.Lib DwSuperApps.Lib.Checked
open DwSuperApps.Lib.Programs (Prog)
open DwSuperApps.Source.Plans

def closedLoopError (message : String) : Raised := ⟨.closedLoop, message⟩

/-- `str.lower`. -/
class TextCase where
  lower : String → String

/-! ## State -/

structure EvidenceEntry where
  status : String
  payload : List (String × Json)
  requestedAction : Option String
  evidenceRefs : List String
  deriving DecidableEq

/-- The plan ref, digest and revision of the source are those of the cursor. -/
structure RuntimeExecutionState where
  cursor : RunCursor
  completedSteps : List String := []
  evidence : Dict String EvidenceEntry := {}
  sequence : Int := 0
  deriving DecidableEq

structure ClosedLoopRuntimeExecutor where
  plan : PlanPayload
  planModel : RuntimePlan
  cursor : RunCursor
  completedSteps : List String := []
  evidence : Dict String EvidenceEntry := {}
  sequence : Int := 0
  hasStore : Bool := true
  authorityContext : List (String × Json) := []

namespace ClosedLoopRuntimeExecutor

/-- `state`. -/
def state (M : ClosedLoopRuntimeExecutor) : RuntimeExecutionState where
  cursor := M.cursor
  completedSteps := M.completedSteps
  evidence := M.evidence
  sequence := M.sequence

end ClosedLoopRuntimeExecutor

/-- The executor in memory, the file of its run, and the effects performed since the
run was last bound to a plan. -/
structure World where
  memory : ClosedLoopRuntimeExecutor
  durable : Option RuntimeExecutionState := none
  performed : List (String × Bool) := []

abbrev Program (α : Type) := Prog World Raised α

/-! ## Start -/

/-- `_path`: the run id names a file of the store. -/
def validRunId (runId : String) : Prop := '/' ∉ runId.toList ∧ runId ≠ "." ∧ runId ≠ ".."

instance (runId : String) : Decidable (validRunId runId) := by unfold validRunId; infer_instance

/-- `_validate_binding`. -/
def validateBinding (cursor : RunCursor) (plan : PlanPayload) : Except Raised Unit := do
  ensure (plan.runtimePlanRef.filter (· ≠ "") ≠ none) (closedLoopError "plan missing runtime_plan_ref")
  ensure (plan.runtimePlanDigest.filter (· ≠ "") ≠ none)
    (closedLoopError "plan missing runtime_plan_digest")
  ensure (plan.revision.filter (· ≠ "") ≠ none) (closedLoopError "plan missing revision")
  ensure (plan.runtimePlanRef = some cursor.runtimePlanRef.value)
    (closedLoopError "cursor runtime_plan_ref does not match plan")
  ensure (plan.runtimePlanDigest = some cursor.runtimePlanDigest.value)
    (closedLoopError "cursor runtime_plan_digest does not match plan")
  ensure (plan.revision = some cursor.planRevision.value)
    (closedLoopError "cursor plan_revision does not match plan")

section Executor
variable [Sha256]

/-- `_plan_object`. -/
def planObject (plan : PlanPayload) : Except Raised RuntimePlan :=
  match RuntimePlan.fromDict plan with
  | .ok model => .ok model
  | .error e => .error (closedLoopError s!"invalid RuntimePlan payload: {e.message}")

/-- The executor of a plan and a cursor, before the store is read. -/
def fresh (plan : PlanPayload) (cursor : RunCursor) (hasStore : Bool)
    (authorityContext : List (String × Json)) : Except Raised ClosedLoopRuntimeExecutor := do
  validateBinding cursor plan
  let planModel ← planObject plan
  ensure (plan.runtimePlanDigest = some planModel.runtimePlanDigest.value)
    (closedLoopError "runtime plan digest mismatch")
  return { plan, planModel, cursor, hasStore, authorityContext }

/-- What the constructor takes over from the durable state. -/
def restore (M : ClosedLoopRuntimeExecutor) (prior : RuntimeExecutionState) :
    Except Raised ClosedLoopRuntimeExecutor := do
  ensure (prior.cursor.runId = M.cursor.runId) (closedLoopError "durable state run_id mismatch")
  ensure (prior.cursor.runtimePlanRef = M.cursor.runtimePlanRef ∧
      prior.cursor.runtimePlanDigest = M.cursor.runtimePlanDigest ∧
      prior.cursor.planRevision = M.cursor.planRevision)
    (closedLoopError "durable state is bound to a different RuntimePlan")
  prior.cursor.validateAgainst M.planModel
  return { M with
    cursor := prior.cursor
    completedSteps := prior.completedSteps
    evidence := prior.evidence
    sequence := prior.sequence }

/-- The constructor. -/
def start (plan : PlanPayload) (cursor : RunCursor) (hasStore : Bool)
    (authorityContext : List (String × Json)) (durable : Option RuntimeExecutionState) :
    Except Raised ClosedLoopRuntimeExecutor := do
  let M ← fresh plan cursor hasStore authorityContext
  if hasStore then
    ensure (validRunId cursor.runId.value) (closedLoopError "invalid durable run_id")
    match durable with
    | none => return M
    | some prior => restore M prior
  else return M

end Executor

/-! ## Calls -/

/-- What a node instruction resolver returns; a key it lacks is `none`. -/
structure NodeInstruction where
  allowedActions : Option (List String) := none
  inputs : Option (List String) := none
  evidenceRequired : Option (List String) := none

/-- What an authority checker returns: a mapping with or without its two keys, or
any other value that is `True` or not. -/
inductive Decision where
  | mapping (decision approved : Option Json)
  | value (approved : Bool)

def Decision.approves : Decision → Bool
  | .mapping decision approved =>
    if decision = some (.str "DENIED") then false
    else if decision = some (.str "APPROVED") then approved ≠ some (.bool false)
    else approved = some (.bool true)
  | .value approved => approved

/-- What the callables of the executor and the state store do during a call. -/
structure Environment where
  authorityChecker : Option (List (String × Json) → Except Raised Decision) := none
  nodeInstructionResolver : Option (StepPayload → Except Raised (Option NodeInstruction)) := none
  put : Except Raised Unit := .ok ()

/-- Arguments of `execute_step`. -/
structure StepCall where
  stepId : String
  payload : List (String × Json) := []
  transcript : List String := []
  sequence : Option Int := none
  outcome : Option String := none
  requestedAction : Json := .null
  outcomeResolver : Option (StepPayload → List (String × Json) → Except Raised Json) := none
  effect : Option (List (String × Json) → Except Raised Unit) := none
  sideEffect : Option (Except Raised Unit) := none

/-! ## Capabilities and authority -/

/-- Python's truth value. -/
def truth : Json → Bool
  | .null => false
  | .bool b => b
  | .int n => n ≠ 0
  | .float text => text ≠ "0.0" && text ≠ "-0.0"
  | .str s => s ≠ ""
  | .arr items => items ≠ []
  | .obj members => members ≠ []

/-- `_READ_ONLY_ACTIONS`. -/
def readOnlyActions : List String :=
  ["read", "search", "inspect", "reconcile_pr_head_state", "capture_ci_evidence"]

/-- `_normalize_action`. -/
def normalizeAction [TextCase] (value : String) : String :=
  String.ofList ((TextCase.lower (strip value)).toList.map fun c => if c = '-' then '_' else c)

structure Capabilities where
  allowedActions : List String
  allowedInputs : List String
  evidenceRefs : List String

/-- `_step_capabilities`. -/
def stepCapabilities (env : Environment) (step : StepPayload) : Except Raised Capabilities :=
  match env.nodeInstructionResolver with
  | none => .ok ⟨step.allowedActions, step.allowedInputs, step.evidenceRefs⟩
  | some resolver => do
    match ← resolver step with
    | none => .error (closedLoopError "node instruction resolver returned invalid data")
    | some instruction => return {
        allowedActions := instruction.allowedActions.getD step.allowedActions
        allowedInputs := instruction.inputs.getD step.allowedInputs
        evidenceRefs := instruction.evidenceRequired.getD step.evidenceRefs }

def requiredContext : List String :=
  ["task_id", "repository", "base_sha", "head_sha", "scope_hash", "expires_at"]

def boundContext : List String := ["task_id", "repository", "base_sha", "head_sha", "scope_hash"]

/-- `self._plan.get(key) or source_bindings.get(key)`. -/
def expectedContext (plan : PlanPayload) (key : String) : Json :=
  let own := if key = "task_id" then .str plan.taskId else Json.get plan.extra key
  if truth own then own else Json.get (plan.sourceBindings.getD []) key

/-- `_revalidate_authority`. -/
def revalidateAuthority (M : ClosedLoopRuntimeExecutor) (env : Environment)
    (action semanticAction : String) : Except Raised Bool :=
  match env.authorityChecker with
  | none => .ok false
  | some checker =>
    if requiredContext.any fun key => (Json.member M.authorityContext key).isNone then .ok false
    else if boundContext.any fun key => truth (expectedContext M.plan key) &&
        ¬ Json.pyEq (Json.get M.authorityContext key) (expectedContext M.plan key) then .ok false
    else
      let required := ((M.planModel.authorityRequirements.getD []).filter (·.required)).map (·.action)
      if required ≠ [] ∧ semanticAction ∉ required then .ok false
      else (checker (Json.setMember "action" (.str action) M.authorityContext)).map (·.approves)

/-! ## Preparing a step -/

/-- The route of a step: the edge and the outcome it was resolved to, if it has any. -/
structure Route where
  edge : Option PlanEdge := none
  resolvedOutcome : Option String := none
  terminalStep : Bool := false
  legacyUnmarkedLeaf : Bool := false

/-- The outcome of a step with edges. -/
def resolveOutcome (call : StepCall) (step : StepPayload) : Except Raised Json :=
  match call.outcomeResolver, call.outcome, step.edges.entries with
  | some resolver, _, _ => resolver step call.payload
  | none, some _, [only] => .ok (.str only.1)
  | none, _, _ => .error (closedLoopError
      "ROUTE_OUTCOME_REQUIRED: routed non-terminal step requires an executor-derived outcome")

/-- The edge payload handed to `PlanEdge.from_dict`: what the raw edge has wins, and a
raw edge that does not say so is executable. -/
def edgePayload (stepId outcome : String) (raw : EdgePayload) : EdgePayload :=
  { raw with
    outcome := some (raw.outcome.getD outcome)
    sourceStepId := some (raw.sourceStepId.getD (some stepId))
    runtimeExecutable := some (raw.runtimeExecutable.getD true) }

/-- The edge of an outcome. -/
def selectEdge (stepId outcome : String) (raw : EdgePayload) :
    Except Raised PlanEdge := do
  let edge ← PlanEdge.fromDict (edgePayload stepId outcome raw)
  ensure (edge.runtimeExecutable ∨ edge.isTerminal) (closedLoopError
    "ROUTE_NOT_EXECUTABLE: declared non-executable route is provenance-only")
  return edge

def routedStep (call : StepCall) (step : StepPayload) : Except Raised Route := do
  let resolved ← resolveOutcome call step
  match resolved with
  | .str outcome =>
    match step.edges.get? outcome with
    | none => .error (closedLoopError
        s!"ROUTE_OUTCOME_UNRESOLVED: {Json.rawRepr resolved} is not declared for step {Json.reprString call.stepId}")
    | some raw => do
      ensure (∀ asserted ∈ call.outcome, asserted = outcome) (closedLoopError
        s!"ROUTE_OUTCOME_ASSERTION_MISMATCH: caller asserted {Json.rawRepr (Json.ofOption call.outcome)}, resolver produced {Json.rawRepr resolved}")
      let edge ← selectEdge call.stepId outcome raw
      return { edge := some edge, resolvedOutcome := some outcome }
  | _ => .error (closedLoopError
      s!"ROUTE_OUTCOME_UNRESOLVED: {Json.rawRepr resolved} is not declared for step {Json.reprString call.stepId}")

/-- Terminal step, unmarked leaf or routed step. -/
def routeOf (call : StepCall) (step : StepPayload) : Except Raised Route :=
  if step.terminal then
    if step.edges.entries ≠ [] then
      .error (closedLoopError "terminal step must preserve canonical edges: []")
    else if call.outcome ≠ none then
      .error (closedLoopError "terminal step does not accept a caller-selected outcome")
    else .ok { terminalStep := true }
  else if step.edges.entries = [] then .ok { legacyUnmarkedLeaf := true }
  else routedStep call step

structure Prepared extends Route where
  action : String
  effectful : Bool
  evidenceRefs : List String

/-- `lost evidence for steps ...`. -/
def missingEvidence (M : ClosedLoopRuntimeExecutor) : List String :=
  M.completedSteps.filter fun s => ¬ M.evidence.contains s

/-- The action the call asks for, or the only one there is. -/
def selectAction [TextCase] (call : StepCall) (allowed : List String) : Except Raised String :=
  let raw := if call.requestedAction ≠ .null then call.requestedAction
    else Json.get call.payload "requested_action"
  if raw ≠ .null then
    let action := normalizeAction raw.pyStr
    if action = "" ∨ action ∉ allowed.map normalizeAction then
      .error (closedLoopError s!"requested_action {Json.rawRepr raw} is not allowed for {call.stepId}")
    else .ok action
  else
    match allowed with
    | [only] => .ok (normalizeAction only)
    | _ => .ok ""

/-- What `execute_step` checks before it looks at the step. -/
def checkCall (M : ClosedLoopRuntimeExecutor) (call : StepCall) : Except Raised Unit := do
  ensure (call.transcript = [])
    (closedLoopError "restart must not require transcript replay; use durable cursor only")
  ensure (∀ n ∈ call.sequence, M.sequence < n)
    (closedLoopError s!"stale executor sequence {call.sequence.getD 0} <= cursor {M.sequence}")
  ensure (M.cursor.controlState = .running)
    (closedLoopError s!"cursor is {M.cursor.controlState.value}; resume or replan first")
  ensure (call.stepId = M.cursor.currentStepId.value)
    (closedLoopError
      s!"step_id {Json.reprString call.stepId} != cursor-bound step {Json.reprString M.cursor.currentStepId.value}")

/-- The step itself, not completed before. -/
def currentStep (M : ClosedLoopRuntimeExecutor) (call : StepCall) : Except Raised StepPayload := do
  match M.plan.steps.get? call.stepId with
  | none => .error (closedLoopError s!"step {Json.reprString call.stepId} not declared in plan")
  | some step => do
    ensure (call.stepId ∉ M.completedSteps)
      (closedLoopError s!"duplicate step {Json.reprString call.stepId}: already completed with evidence")
    ensure (missingEvidence M = []) (closedLoopError
      s!"lost evidence for steps {Json.rawRepr (RuntimePlanStep.texts (missingEvidence M))} on fresh activation")
    return step

/-- Inputs of the payload that the step does not allow. -/
def unknownInputs (call : StepCall) (allowedInputs : List String) : List String :=
  ((call.payload.map Prod.fst).filter fun key =>
    key ∉ allowedInputs ∧ key ≠ "requested_action").dedup.insertionSort (· ≤ ·)

/-- `effectful`. -/
def isEffectful (action : String) : Bool := action ≠ "" && action ∉ readOnlyActions

/-- Only an effectful action needs the authority. -/
def authorize (M : ClosedLoopRuntimeExecutor) (env : Environment) (action semanticAction : String) :
    Except Raised Bool :=
  if isEffectful action then revalidateAuthority M env action semanticAction else .ok true

/-- Everything before the effect. -/
def prepare [TextCase] (M : ClosedLoopRuntimeExecutor) (env : Environment) (call : StepCall) :
    Except Raised Prepared := do
  checkCall M call
  let step ← currentStep M call
  let capabilities ← stepCapabilities env step
  ensure (capabilities.allowedInputs = [] ∨ unknownInputs call capabilities.allowedInputs = [])
    (closedLoopError
      s!"payload inputs not allowed for {call.stepId}: {Json.rawRepr (RuntimePlanStep.texts (unknownInputs call capabilities.allowedInputs))}")
  let action ← selectAction call capabilities.allowedActions
  let selected ← routeOf call step
  let semanticAction := (step.semanticAction.filter (· ≠ "")).getD call.stepId
  ensure (strip semanticAction ≠ "")
    (closedLoopError "SEMANTIC_ACTION_REQUIRED: step binding is incomplete")
  ensure (action ≠ "" ∨ (call.effect.isNone ∧ call.sideEffect.isNone))
    (closedLoopError "ACTION_REQUIRED: effect requires an explicitly authorized action")
  let authorized ← authorize M env action semanticAction
  ensure authorized (closedLoopError
    "AUTHORITY_REQUIRED: exact authority revalidation failed; no effect or cursor advance")
  return { selected with
    action
    effectful := isEffectful action
    evidenceRefs := capabilities.evidenceRefs }

/-! ## Executing a step -/

namespace Prepared

/-- Where the cursor goes. -/
def target (p : Prepared) (current : RequiredText) : RequiredText :=
  if p.terminalStep then RunCursor.terminalTarget
  else
    match p.edge with
    | none => current
    | some edge => if edge.isControl then current else edge.target

def controlState (p : Prepared) (current : ControlState) : ControlState :=
  match p.edge with
  | none => current
  | some edge =>
    if edge.target.value = "wait" then .waiting
    else if edge.target.value = "replan" then .replanRequired
    else current

def isTerminal (p : Prepared) : Prop := p.terminalStep ∨ ∃ edge ∈ p.edge, edge.isTerminal

instance (p : Prepared) : Decidable p.isTerminal := by unfold isTerminal; infer_instance

def status (p : Prepared) : String :=
  p.resolvedOutcome.getD (if p.terminalStep then "TERMINAL"
    else if p.legacyUnmarkedLeaf then "LEGACY_UNMARKED_LEAF" else "EXECUTED")

end Prepared

/-- The executor after a prepared step. -/
def ClosedLoopRuntimeExecutor.advanced (M : ClosedLoopRuntimeExecutor) (call : StepCall)
    (p : Prepared) : ClosedLoopRuntimeExecutor :=
  { M with
    completedSteps := M.completedSteps ++ [call.stepId]
    evidence := M.evidence.set call.stepId {
      status := p.status
      payload := call.payload
      requestedAction := if p.action = "" then none else some p.action
      evidenceRefs := p.evidenceRefs }
    sequence := call.sequence.getD (M.sequence + 1)
    cursor := M.cursor.moved (p.target M.cursor.currentStepId) (M.cursor.attempt + 1)
      (Nat.le_add_left 1 M.cursor.attempt) (p.controlState M.cursor.controlState) }

/-- What `execute_step` returns. -/
structure StepResult where
  runtimePlanRef : String
  implementationPlanRef : String
  currentStep : String
  isTerminal : Bool
  legacyUnmarkedLeaf : Bool
  completedSteps : List String
  evidence : Dict String EvidenceEntry
  authorityRevalidated : Bool
  sequence : Int
  controlState : ControlState

def stepResult (M : ClosedLoopRuntimeExecutor) (p : Prepared) : StepResult where
  runtimePlanRef := M.plan.runtimePlanRef.getD ""
  implementationPlanRef := M.plan.implementationPlanRef
  currentStep := M.cursor.currentStepId.value
  isTerminal := p.isTerminal
  legacyUnmarkedLeaf := p.legacyUnmarkedLeaf
  completedSteps := M.completedSteps
  evidence := M.evidence
  authorityRevalidated := p.effectful
  sequence := M.sequence
  controlState := M.cursor.controlState

/-! ### Operations -/

def memory : Program ClosedLoopRuntimeExecutor := Prog.observe fun w => .ok w.memory

def setMemory (M : ClosedLoopRuntimeExecutor) : Program Unit :=
  Prog.operation fun w => (.ok (), { w with memory := M })

/-- The effect of a step, or its side effect, is performed and then returns or raises. -/
def perform (stepId : String) (side : Bool) (answer : Except Raised Unit) : Program Unit :=
  Prog.operation fun w => (answer, { w with performed := w.performed ++ [(stepId, side)] })

/-- The world once the state of the executor is stored; a new binding starts with
nothing performed. -/
def World.stored (w : World) (M : ClosedLoopRuntimeExecutor) (rebinds : Bool) : World :=
  { w with
    durable := if M.hasStore then some M.state else w.durable
    performed := if rebinds then [] else w.performed }

/-- `_persist`. -/
def persist (M : ClosedLoopRuntimeExecutor) (env : Environment) (rebinds : Bool) : Program Unit :=
  Prog.operation fun w =>
    match if M.hasStore then env.put else .ok () with
    | .ok () => (.ok (), w.stored M rebinds)
    | .error e => (.error e, w)

/-- A callable the caller may have left out. -/
def performGiven (stepId : String) (side : Bool) : Option (Except Raised Unit) → Program Unit
  | none => pure ()
  | some answer => perform stepId side answer

/-- The effect and the side effect of a call. -/
def performEffects (call : StepCall) : Program Unit := do
  performGiven call.stepId false (call.effect.map fun effect => effect call.payload)
  performGiven call.stepId true call.sideEffect

/-- `execute_step`. -/
def executeStep [TextCase] (call : StepCall) (env : Environment) : Program StepResult := do
  let M ← memory
  let p ← (prepare M env call : Except Raised Prepared)
  performEffects call
  let next := M.advanced call p
  setMemory next
  persist next env false
  return stepResult next p

/-- `resume_wait`. -/
def resumeWait (env : Environment) : Program RunCursor := do
  let M ← memory
  let cursor ← (M.cursor.resume : Except Raised RunCursor)
  let next := { M with cursor }
  setMemory next
  persist next env false
  return cursor

/-- What `switch_plan` is given. -/
inductive NewPlan where
  | model (plan : RuntimePlan)
  | payload (plan : PlanPayload)

section Switch
variable [Sha256]

def NewPlan.toModel : NewPlan → Except Raised RuntimePlan
  | .model plan => .ok plan
  | .payload plan => RuntimePlan.fromDict plan

/-- The executor bound to a new plan; the plan object of the constructor is not
replaced. -/
def ClosedLoopRuntimeExecutor.rebound (M : ClosedLoopRuntimeExecutor) (plan : RuntimePlan)
    (cursor : RunCursor) : ClosedLoopRuntimeExecutor :=
  { M with
    plan := plan.toPayload
    cursor := cursor
    completedSteps := []
    evidence := {}
    sequence := 0 }

/-- `switch_plan`. -/
def switchPlan (plan : NewPlan) (currentStepId : Option String) (env : Environment) :
    Program RunCursor := do
  let M ← memory
  let model ← (plan.toModel : Except Raised RuntimePlan)
  let cursor ← (M.cursor.switchTo model currentStepId : Except Raised RunCursor)
  let next := M.rebound model cursor
  setMemory next
  persist next env true
  return cursor

end Switch

/-! ## Processes -/

/-- The executor of the running process, if there is one, and what outlives it. -/
structure Machine where
  process : Option ClosedLoopRuntimeExecutor := none
  durable : Option RuntimeExecutionState := none
  performed : List (String × Bool) := []

/-- A call of the process, which may stop after some of its operations, or the start
of a process on the durable state. -/
inductive Action where
  | execute (call : StepCall) (env : Environment) (stopsAfter : Option Nat)
  | resumeWait (env : Environment) (stopsAfter : Option Nat)
  | switchPlan (plan : NewPlan) (currentStepId : Option String) (env : Environment)
      (stopsAfter : Option Nat)
  | restart (plan : PlanPayload) (cursor : RunCursor) (authorityContext : List (String × Json))

namespace Machine

def world (m : Machine) (M : ClosedLoopRuntimeExecutor) : World := ⟨M, m.durable, m.performed⟩

/-- The machine a call leaves. -/
def after {α : Type} (w : World) (program : Program α) : Option Nat → Machine
  | none =>
    let final := (program.run w).2
    ⟨some final.memory, final.durable, final.performed⟩
  | some n =>
    let final := (program.runFor n w).2
    ⟨none, final.durable, final.performed⟩

def step [TextCase] [Sha256] (m : Machine) : Action → Machine
  | .execute call env stopsAfter =>
    m.process.elim m fun M => after (m.world M) (executeStep call env) stopsAfter
  | .resumeWait env stopsAfter =>
    m.process.elim m fun M => after (m.world M) (ClosedLoop.resumeWait env) stopsAfter
  | .switchPlan plan currentStepId env stopsAfter =>
    m.process.elim m fun M =>
      after (m.world M) (ClosedLoop.switchPlan plan currentStepId env) stopsAfter
  | .restart plan cursor authorityContext =>
    { m with process := (start plan cursor true authorityContext m.durable).toOption }

end Machine

end DwSuperApps.Source.ClosedLoop
