import Mathlib.Data.List.Sort
import DwSuperApps.Lib.Checked
import DwSuperApps.Lib.Dict
import DwSuperApps.Lib.Text

/-!
# Runtime plans

`taskcontroller/domain/runtime_plan.py`: the plan graph of a run and the cursor
into it. A payload is what `from_dict` reads, a key it may lack is optional; the
plan, its steps and its edges are what the constructors leave.
-/
namespace DwSuperApps.Source.Plans

open DwSuperApps.Lib DwSuperApps.Lib.Checked

/-! ## Exceptions and texts -/

inductive ErrorClass where
  | validation | keyError | typeError | closedLoop | store | raisedByCallable
  deriving DecidableEq

structure Raised where
  kind : ErrorClass
  message : String
  deriving DecidableEq

def validationError (message : String) : Raised := ⟨.validation, message⟩

/-- `payload[key]` where the key is missing. -/
def keyError (key : String) : Raised := ⟨.keyError, Json.reprString key⟩

/-- A text `_require_text` accepts. -/
@[ext] structure RequiredText where
  value : String
  solid : strip value ≠ "" := by decide

instance : DecidableEq RequiredText := fun _ _ => decidable_of_iff _ RequiredText.ext_iff.symm

/-- `_require_text`. -/
def requireText (value field : String) : Except Raised RequiredText :=
  if solid : strip value ≠ "" then .ok ⟨value, solid⟩
  else .error (validationError s!"{field} must be a non-empty string")

theorem requireText_value {value field : String} {t : RequiredText}
    (passed : requireText value field = .ok t) : t.value = value := by
  unfold requireText at passed
  split at passed
  · cases passed
    rfl
  · cases passed

/-- `payload[key]`. -/
def memberText (payload : Option String) (key : String) : Except Raised String :=
  match payload with
  | none => .error (keyError key)
  | some value => .ok value

/-! ## Edges -/

inductive EdgeKind where
  | «continue» | conditional | retry | blocked | humanRequired | terminal
  deriving DecidableEq

namespace EdgeKind

def value : EdgeKind → String
  | .continue => "continue"
  | .conditional => "conditional"
  | .retry => "retry"
  | .blocked => "blocked"
  | .humanRequired => "human_required"
  | .terminal => "terminal"

/-- `_ALLOWED_EDGE_KINDS`. -/
def allowed : List EdgeKind :=
  [.continue, .conditional, .retry, .blocked, .humanRequired, .terminal]

def ofText (kind : String) : Except Raised EdgeKind :=
  match allowed.find? (·.value = kind) with
  | some k => .ok k
  | none => .error (validationError s!"unsupported plan edge kind: {Json.reprString kind}")

end EdgeKind

/-- `_FINAL_TERMINAL_TARGETS`. -/
def finalTerminalTargets : List String := ["terminal"]

/-- `_CONTROL_TARGETS`. -/
def controlTargets : List String := ["wait", "replan"]

/-- `_NON_STEP_TARGETS`. -/
def nonStepTargets : List String := finalTerminalTargets ++ controlTargets

/-- `source_step_id` is `some none` where the payload has it as null. -/
structure EdgePayload where
  outcome : Option String := none
  target : Option String := none
  kind : Option String := none
  sourceStepId : Option (Option String) := none
  conditionId : Option String := none
  runtimeExecutable : Option Bool := none
  sourceGate : Option String := none
  targetGate : Option String := none
  deriving DecidableEq

structure PlanEdge where
  outcome : RequiredText
  target : RequiredText
  kind : EdgeKind := .continue
  sourceStepId : Option RequiredText := none
  conditionId : Option String := none
  runtimeExecutable : Bool := false
  sourceGate : Option String := none
  targetGate : Option String := none
  deriving DecidableEq

namespace PlanEdge

/-- Only the final terminal target or kind. -/
def isTerminal (e : PlanEdge) : Prop :=
  e.target.value ∈ finalTerminalTargets ∨ e.kind = .terminal

instance (e : PlanEdge) : Decidable e.isTerminal := by unfold isTerminal; infer_instance

def isControl (e : PlanEdge) : Prop := e.target.value ∈ controlTargets

instance (e : PlanEdge) : Decidable e.isControl := by unfold isControl; infer_instance

def optionalText (value : Option String) (field : String) : Except Raised (Option RequiredText) :=
  match value with
  | none => .ok none
  | some text => (requireText text field).map some

/-- `PlanEdge.from_dict`. -/
def fromDict (payload : EdgePayload) : Except Raised PlanEdge := do
  let outcomeText ← memberText payload.outcome "outcome"
  let targetText ← memberText payload.target "target"
  let outcome ← requireText outcomeText "edge.outcome"
  let target ← requireText targetText "edge.target"
  let kind ← EdgeKind.ofText (payload.kind.getD "continue")
  let sourceStepId ← optionalText (payload.sourceStepId.getD none) "edge.source_step_id"
  return {
    outcome, target, kind, sourceStepId
    conditionId := payload.conditionId
    runtimeExecutable := payload.runtimeExecutable.getD false
    sourceGate := payload.sourceGate
    targetGate := payload.targetGate }

/-- A member of an optional text. -/
def textMember (name : String) (value : Option String) : List (String × Json) :=
  (value.map fun text => (name, Json.str text)).toList

def toDict (e : PlanEdge) : Json :=
  .obj ([("outcome", .str e.outcome.value), ("target", .str e.target.value),
      ("kind", .str e.kind.value)] ++
    textMember "source_step_id" (e.sourceStepId.map (·.value)) ++
    textMember "condition_id" e.conditionId ++
    [("runtime_executable", .bool e.runtimeExecutable)] ++
    textMember "source_gate" e.sourceGate ++
    textMember "target_gate" e.targetGate)

/-- `to_dict` as the payload it can be read from. -/
def toPayload (e : PlanEdge) : EdgePayload where
  outcome := some e.outcome.value
  target := some e.target.value
  kind := some e.kind.value
  sourceStepId := e.sourceStepId.map fun text => some text.value
  conditionId := e.conditionId
  runtimeExecutable := some e.runtimeExecutable
  sourceGate := e.sourceGate
  targetGate := e.targetGate

end PlanEdge

/-! ## Steps -/

structure StepPayload where
  stepId : Option String := none
  semanticAction : Option String := none
  edges : Dict String EdgePayload := {}
  terminal : Bool := false
  routeEvidence : List (List (String × Json)) := []
  nodeBinding : Option (List (String × Json)) := none
  allowedInputs : List String := []
  allowedActions : List String := []
  evidenceRefs : List String := []
  deriving DecidableEq

/-- A step whose edges are keyed by their outcome and bound to the step. -/
structure RuntimePlanStep where
  stepId : RequiredText
  semanticAction : RequiredText
  edges : Dict String PlanEdge := {}
  terminal : Bool := false
  routeEvidence : List (List (String × Json)) := []
  nodeBinding : Option (List (String × Json)) := none
  allowedInputs : List String := []
  allowedActions : List String := []
  evidenceRefs : List String := []
  bound : ∀ outcome e, edges.get? outcome = some e →
    e.outcome.value = outcome ∧ e.sourceStepId = some stepId
  leaf : terminal = true → edges.entries = []

namespace RuntimePlanStep

/-- One edge of `__post_init__`: an edge without a source gets the step. -/
def bindEdge (stepId : RequiredText) (outcome : String) (edge : PlanEdge) : Except Raised PlanEdge := do
  let _ ← requireText outcome "step.edge outcome"
  ensure (edge.outcome.value = outcome)
    (validationError "step edge mapping key must match edge.outcome")
  match edge.sourceStepId with
  | none => return { edge with sourceStepId := some stepId }
  | some source => do
    ensure (source = stepId) (validationError "plan edge source_step_id does not match its step")
    return edge

theorem bindEdge_bound {stepId : RequiredText} {outcome : String} {edge made : PlanEdge}
    (bound : bindEdge stepId outcome edge = .ok made) :
    made.outcome.value = outcome ∧ made.sourceStepId = some stepId ∧
      made.target = edge.target ∧ made.kind = edge.kind := by
  unfold bindEdge at bound
  obtain ⟨_, _, bound⟩ := bind_ok.mp bound
  obtain ⟨_, same, bound⟩ := bind_ok.mp bound
  have same := ensure_ok.mp same
  split at bound
  · cases bound
    exact ⟨same, rfl, rfl, rfl⟩
  · next source named =>
    obtain ⟨_, own, bound⟩ := bind_ok.mp bound
    cases bound
    exact ⟨same, by rw [named, ensure_ok.mp own], rfl, rfl⟩

/-- `RuntimePlanStep.from_dict`. -/
def fromDict (payload : StepPayload) : Except Raised RuntimePlanStep := do
  let stepIdText ← memberText payload.stepId "step_id"
  let semanticActionText ← memberText payload.semanticAction "semantic_action"
  let raw ← payload.edges.tryMap fun _ edge => PlanEdge.fromDict edge
  let stepId ← requireText stepIdText "step.step_id"
  let semanticAction ← requireText semanticActionText "step.semantic_action"
  match made : raw.tryMap (bindEdge stepId) with
  | .error e => .error e
  | .ok edges =>
    if leaf : payload.terminal = true → edges.entries = [] then
      return {
        stepId, semanticAction, edges, leaf
        terminal := payload.terminal
        routeEvidence := payload.routeEvidence
        nodeBinding := payload.nodeBinding
        allowedInputs := payload.allowedInputs
        allowedActions := payload.allowedActions
        evidenceRefs := payload.evidenceRefs
        bound := fun outcome e held => by
          obtain ⟨edge, _, bound⟩ := (Dict.get?_tryMap made).mp held
          exact ⟨(bindEdge_bound bound).1, (bindEdge_bound bound).2.1⟩ }
    else .error (validationError "terminal step must preserve canonical edges: []")

def texts (items : List String) : Json := .arr (items.map .str)

/-- A member of a list that is left out when empty. -/
def textsMember (name : String) (items : List String) : List (String × Json) :=
  if items = [] then [] else [(name, texts items)]

def toDict (s : RuntimePlanStep) : Json :=
  .obj ([("step_id", .str s.stepId.value), ("semantic_action", .str s.semanticAction.value),
      ("edges", .obj (s.edges.entries.map fun entry => (entry.1, entry.2.toDict)))] ++
    (if s.terminal then [("terminal", .bool true)] else []) ++
    (s.nodeBinding.map fun members => ("node_binding", Json.obj members)).toList ++
    (if s.routeEvidence = [] then [] else
      [("route_evidence", .arr (s.routeEvidence.map .obj))]) ++
    textsMember "allowed_inputs" s.allowedInputs ++
    textsMember "allowed_actions" s.allowedActions ++
    textsMember "evidence_refs" s.evidenceRefs)

/-- `to_dict` as the payload it can be read from. -/
def toPayload (s : RuntimePlanStep) : StepPayload where
  stepId := some s.stepId.value
  semanticAction := some s.semanticAction.value
  edges := s.edges.map fun _ e => e.toPayload
  terminal := s.terminal
  routeEvidence := s.routeEvidence
  nodeBinding := s.nodeBinding
  allowedInputs := s.allowedInputs
  allowedActions := s.allowedActions
  evidenceRefs := s.evidenceRefs

end RuntimePlanStep

/-! ## Plans -/

structure AuthorityRequirement where
  action : String := ""
  gate : String := ""
  required : Bool := false
  deriving DecidableEq

def AuthorityRequirement.toDict (r : AuthorityRequirement) : Json :=
  .obj [("action", .str r.action), ("gate", .str r.gate), ("required", .bool r.required)]

structure RunbookBinding where
  runbookId : String := ""
  revision : String := ""
  digest : String := ""
  deriving DecidableEq

def RunbookBinding.toDict (r : RunbookBinding) : Json :=
  .obj [("runbook_id", .str r.runbookId), ("revision", .str r.revision), ("digest", .str r.digest)]

/-- `extra` are the members under any other key. -/
structure PlanPayload where
  runtimePlanRef : Option String := none
  revision : Option String := none
  implementationPlanRef : String := ""
  runtimePlanDigest : Option String := none
  steps : Dict String StepPayload := {}
  sourceBindings : Option (List (String × Json)) := none
  runbooks : Option (List RunbookBinding) := none
  authorityRequirements : Option (List AuthorityRequirement) := none
  blueprintId : String := ""
  blueprintDigest : String := ""
  taskId : String := ""
  scenario : String := ""
  extra : List (String × Json) := []
  deriving DecidableEq

/-- A plan with at least one step, each under its own id. -/
structure RuntimePlan where
  runtimePlanRef : RequiredText
  revision : RequiredText
  steps : Dict String RuntimePlanStep
  implementationPlanRef : String := ""
  sourceBindings : Option (List (String × Json)) := none
  runbooks : Option (List RunbookBinding) := none
  authorityRequirements : Option (List AuthorityRequirement) := none
  blueprintId : String := ""
  blueprintDigest : String := ""
  taskId : String := ""
  scenario : String := ""
  nonempty : steps.entries ≠ []
  keyed : ∀ stepId s, steps.get? stepId = some s → s.stepId.value = stepId

namespace RuntimePlan

/-- One step of `__post_init__`. -/
def keyStep (stepId : String) (step : RuntimePlanStep) : Except Raised RuntimePlanStep := do
  let _ ← requireText stepId "plan step id"
  ensure (step.stepId.value = stepId) (validationError "plan step mapping key must match step.step_id")
  return step

theorem keyStep_keyed {stepId : String} {step made : RuntimePlanStep}
    (keyed : keyStep stepId step = .ok made) : made = step ∧ made.stepId.value = stepId := by
  unfold keyStep at keyed
  obtain ⟨_, _, keyed⟩ := bind_ok.mp keyed
  obtain ⟨_, same, keyed⟩ := bind_ok.mp keyed
  cases keyed
  exact ⟨rfl, ensure_ok.mp same⟩

/-- Every edge target is a declared step or reserved. -/
def checkTargets (steps : Dict String RuntimePlanStep) : Except Raised Unit :=
  checkAll (fun entry : String × RuntimePlanStep =>
    checkAll (fun edge : String × PlanEdge =>
      ensure (edge.2.target.value ∈ nonStepTargets ∨ steps.contains edge.2.target.value)
        (validationError
          s!"RUNTIME_PLAN_EDGE_NOT_ALLOWED: edge {entry.1}/{edge.1} targets undeclared step {Json.reprString edge.2.target.value}"))
      entry.2.edges.entries) steps.entries

def forbiddenFields : List String :=
  ["authority_granted", "write_authority_granted", "merge_authority_granted",
    "deployment_authority_granted", "production_authority_granted"]

/-- The value `runtime_plan_digest` covers. -/
def digestPayload (p : RuntimePlan) : Json :=
  .obj [("runtime_plan_ref", .str p.runtimePlanRef.value),
    ("revision", .str p.revision.value),
    ("implementation_plan_ref", .str p.implementationPlanRef),
    ("steps", .obj (p.steps.entries.map fun entry => (entry.1, entry.2.toDict))),
    ("source_bindings", (p.sourceBindings.map Json.obj).getD .null),
    ("runbooks", .arr ((p.runbooks.getD []).map (·.toDict))),
    ("authority_requirements", .arr ((p.authorityRequirements.getD []).map (·.toDict))),
    ("blueprint_id", .str p.blueprintId),
    ("blueprint_digest", .str p.blueprintDigest),
    ("task_id", .str p.taskId),
    ("scenario", .str p.scenario)]

section Digests
variable [Sha256]

def runtimePlanDigest (p : RuntimePlan) : Digest := canonicalDigest p.digestPayload

/-- `RuntimePlan.from_dict`. -/
def fromDict (payload : PlanPayload) : Except Raised RuntimePlan := do
  let granted := (payload.extra.map Prod.fst).filter (· ∈ forbiddenFields)
  ensure (granted = []) (validationError
    s!"RuntimePlan authority_granted fields are forbidden: {Json.rawRepr (RuntimePlanStep.texts (granted.insertionSort (· ≤ ·)))}")
  let refText ← memberText payload.runtimePlanRef "runtime_plan_ref"
  let revisionText ← memberText payload.revision "revision"
  let raw ← payload.steps.tryMap fun _ step => RuntimePlanStep.fromDict step
  let runtimePlanRef ← requireText refText "runtime_plan_ref"
  let revision ← requireText revisionText "revision"
  if nonempty : raw.entries ≠ [] then
    match made : raw.tryMap keyStep with
    | .error e => .error e
    | .ok steps => do
      checkTargets steps
      let plan : RuntimePlan := {
        runtimePlanRef, revision, steps
        implementationPlanRef := payload.implementationPlanRef
        sourceBindings := payload.sourceBindings
        runbooks := payload.runbooks
        authorityRequirements := payload.authorityRequirements
        blueprintId := payload.blueprintId
        blueprintDigest := payload.blueprintDigest
        taskId := payload.taskId
        scenario := payload.scenario
        nonempty := by
          intro empty
          have keys := Dict.keys_tryMap made
          rw [empty, List.map_nil] at keys
          exact nonempty (List.map_eq_nil_iff.mp keys.symm)
        keyed := fun stepId s held => by
          obtain ⟨step, _, keyed⟩ := (Dict.get?_tryMap made).mp held
          exact (keyStep_keyed keyed).2 }
      ensure (∀ supplied ∈ payload.runtimePlanDigest, supplied = plan.runtimePlanDigest.value)
        (validationError "RUNTIME_PLAN_DIGEST_MISMATCH: persisted digest differs")
      return plan
  else .error (validationError "runtime plan requires at least one step")

/-- `to_dict` as the payload it can be read from. -/
def toPayload (p : RuntimePlan) : PlanPayload where
  runtimePlanRef := some p.runtimePlanRef.value
  revision := some p.revision.value
  implementationPlanRef := p.implementationPlanRef
  runtimePlanDigest := some p.runtimePlanDigest.value
  steps := p.steps.map fun _ s => s.toPayload
  sourceBindings := p.sourceBindings
  runbooks := p.runbooks
  authorityRequirements := p.authorityRequirements
  blueprintId := p.blueprintId
  blueprintDigest := p.blueprintDigest
  taskId := p.taskId
  scenario := p.scenario

end Digests

/-- `step`. -/
def step (p : RuntimePlan) (stepId : String) : Except Raised RuntimePlanStep :=
  match p.steps.get? stepId with
  | some s => .ok s
  | none => .error (validationError s!"RUNTIME_PLAN_STEP_MISSING: {stepId}")

/-- `resolve_edge`. -/
def resolveEdge (p : RuntimePlan) (stepId outcome : String) : Except Raised PlanEdge := do
  let s ← p.step stepId
  match s.edges.get? outcome with
  | some e => return e
  | none => .error (validationError s!"RUNTIME_PLAN_EDGE_NOT_ALLOWED: {stepId}/{outcome}")

/-- `next(iter(sorted(plan.steps)))`. -/
def firstStep (p : RuntimePlan) : String :=
  ((p.steps.entries.map Prod.fst).insertionSort (· ≤ ·)).headD ""

end RuntimePlan

/-! ## Cursors -/

inductive ControlState where
  | running | waiting | replanRequired
  deriving DecidableEq

def ControlState.value : ControlState → String
  | .running => "RUNNING"
  | .waiting => "WAITING"
  | .replanRequired => "REPLAN_REQUIRED"

structure RunCursor where
  runId : RequiredText
  runtimePlanRef : RequiredText
  runtimePlanDigest : RequiredText
  planRevision : RequiredText
  currentStepId : RequiredText
  attempt : Nat := 1
  controlState : ControlState := .running
  positive : 1 ≤ attempt := by decide
  deriving DecidableEq

namespace RunCursor

/-- The cursor at another place of the same plan. -/
def moved (c : RunCursor) (stepId : RequiredText) (attempt : Nat) (positive : 1 ≤ attempt)
    (controlState : ControlState) : RunCursor :=
  { c with currentStepId := stepId, attempt, controlState, positive }

def terminalTarget : RequiredText := ⟨"terminal", by decide⟩

/-- `advance`. -/
def advance (c : RunCursor) (edge : PlanEdge) : Except Raised RunCursor :=
  if edge.sourceStepId ≠ some c.currentStepId then
    .error (validationError
      "RUNTIME_PLAN_EDGE_NOT_ALLOWED: edge is not declared for current step")
  else if edge.isTerminal then .ok (c.moved terminalTarget c.attempt c.positive .running)
  else if edge.isControl then
    .ok (c.moved c.currentStepId c.attempt c.positive
      (if edge.target.value = "wait" then .waiting else .replanRequired))
  else if edge.kind = .retry then
    .ok (c.moved edge.target (c.attempt + 1) (Nat.le_add_left 1 c.attempt) .running)
  else .ok (c.moved edge.target 1 (Nat.le_refl 1) .running)

/-- `resume`. -/
def resume (c : RunCursor) : Except Raised RunCursor :=
  if c.controlState ≠ .waiting then .error (validationError "cursor is not waiting")
  else .ok (c.moved c.currentStepId c.attempt c.positive .running)

section Digests
variable [Sha256]

/-- `validate_against`. -/
def validateAgainst (c : RunCursor) (plan : RuntimePlan) : Except Raised Unit := do
  ensure (c.runtimePlanRef = plan.runtimePlanRef)
    (validationError "RUNTIME_PLAN_REF_MISMATCH: cursor references another plan")
  ensure (c.runtimePlanDigest.value = plan.runtimePlanDigest.value)
    (validationError "RUNTIME_PLAN_DIGEST_MISMATCH: cursor digest is stale")
  ensure (c.planRevision = plan.revision)
    (validationError "RUNTIME_PLAN_STEP_STALE: cursor revision is stale")
  if c.currentStepId.value ∈ finalTerminalTargets then return ()
  else do
    let _ ← plan.step c.currentStepId.value
    return ()

/-- The digest of a plan as a required text. -/
def digestText (d : Digest) : RequiredText where
  value := d.value
  solid := by
    rw [d.strip_value]
    exact d.value_ne_empty

/-- `switch_to`; an empty step id counts as none. -/
def switchTo (c : RunCursor) (plan : RuntimePlan) (currentStepId : Option String) :
    Except Raised RunCursor := do
  ensure (plan.implementationPlanRef = "" ∨ c.runtimePlanRef.value ≠ plan.implementationPlanRef)
    (validationError "RUNTIME_PLAN_REF_MISMATCH: implementation ref used as runtime ref")
  let s ← plan.step ((currentStepId.filter (· ≠ "")).getD plan.firstStep)
  return {
    runId := c.runId
    runtimePlanRef := plan.runtimePlanRef
    runtimePlanDigest := digestText plan.runtimePlanDigest
    planRevision := plan.revision
    currentStepId := s.stepId }

end Digests

end RunCursor

end DwSuperApps.Source.Plans
