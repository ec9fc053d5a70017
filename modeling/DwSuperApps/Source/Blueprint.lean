import Mathlib.Data.Prod.Lex
import DwSuperApps.Lib.Sorted
import DwSuperApps.Source.RuntimePlan

/-!
# Compiling a blueprint

`taskcontroller/compiler.py`: a governed blueprint becomes a runtime plan, a node a
step and a topology row the edges of a step. The members of a blueprint are typed
as the compiler reads them; a member of the wrong type is one of its own where the
compiler checks for it. The files under the instruction root, `str.upper` and the
ASCII digest of the compiler are parameters.
-/
namespace DwSuperApps.Source.Plans

open DwSuperApps.Lib DwSuperApps.Lib.Checked

/-! ## Constructors -/

/-- `RuntimePlanStep(...)` of edges in their raw form. -/
def RuntimePlanStep.construct (stepId semanticAction : RequiredText) (raw : Dict String PlanEdge)
    (terminal : Bool) (routeEvidence : List (List (String × Json)))
    (nodeBinding : Option (List (String × Json)))
    (allowedInputs allowedActions evidenceRefs : List String) : Except Raised RuntimePlanStep :=
  match made : raw.tryMap (RuntimePlanStep.bindEdge stepId) with
  | .error e => .error e
  | .ok edges =>
    if leaf : terminal = true → edges.entries = [] then
      .ok {
        stepId, semanticAction, edges, leaf, terminal, routeEvidence, nodeBinding, allowedInputs
        allowedActions, evidenceRefs
        bound := fun outcome e held => by
          obtain ⟨edge, _, bound⟩ := (Dict.get?_tryMap made).mp held
          exact ⟨(RuntimePlanStep.bindEdge_bound bound).1,
            (RuntimePlanStep.bindEdge_bound bound).2.1⟩ }
    else .error (validationError "terminal step must preserve canonical edges: []")

/-- The fields of a plan beside its steps. -/
structure PlanFields where
  runtimePlanRef : String
  revision : String
  implementationPlanRef : String := ""
  sourceBindings : Option (List (String × Json)) := none
  runbooks : Option (List RunbookBinding) := none
  authorityRequirements : Option (List AuthorityRequirement) := none
  blueprintId : String := ""
  blueprintDigest : String := ""
  taskId : String := ""
  scenario : String := ""
  deriving DecidableEq

/-- `RuntimePlan(...)`. -/
theorem RuntimePlan.keySteps_nonempty {raw steps : Dict String RuntimePlanStep}
    (made : raw.tryMap RuntimePlan.keyStep = .ok steps) (nonempty : raw.entries ≠ []) :
    steps.entries ≠ [] := by
  intro empty
  have keys := Dict.keys_tryMap made
  rw [empty, List.map_nil] at keys
  exact nonempty (List.map_eq_nil_iff.mp keys.symm)

theorem RuntimePlan.keySteps_keyed {raw steps : Dict String RuntimePlanStep}
    (made : raw.tryMap RuntimePlan.keyStep = .ok steps) (stepId : String) (s : RuntimePlanStep)
    (held : steps.get? stepId = some s) : s.stepId.value = stepId := by
  obtain ⟨step, _, keyed⟩ := (Dict.get?_tryMap made).mp held
  exact (RuntimePlan.keyStep_keyed keyed).2

def RuntimePlan.construct (fields : PlanFields) (raw : Dict String RuntimePlanStep) :
    Except Raised RuntimePlan := do
  let runtimePlanRef ← requireText fields.runtimePlanRef "runtime_plan_ref"
  let revision ← requireText fields.revision "revision"
  if nonempty : raw.entries ≠ [] then
    match made : raw.tryMap RuntimePlan.keyStep with
    | .error e => .error e
    | .ok steps => do
      RuntimePlan.checkTargets steps
      return {
        runtimePlanRef, revision, steps
        implementationPlanRef := fields.implementationPlanRef
        sourceBindings := fields.sourceBindings
        runbooks := fields.runbooks
        authorityRequirements := fields.authorityRequirements
        blueprintId := fields.blueprintId
        blueprintDigest := fields.blueprintDigest
        taskId := fields.taskId
        scenario := fields.scenario
        nonempty := RuntimePlan.keySteps_nonempty made nonempty
        keyed := RuntimePlan.keySteps_keyed made }
  else .error (validationError "runtime plan requires at least one step")

theorem RuntimePlan.construct_ok {fields : PlanFields} {steps : Dict String RuntimePlanStep}
    {plan : RuntimePlan} (made : RuntimePlan.construct fields steps = .ok plan) :
    plan.steps = steps ∧ plan.runbooks = fields.runbooks ∧
      plan.authorityRequirements = fields.authorityRequirements ∧
      RuntimePlan.checkTargets steps = .ok () := by
  unfold RuntimePlan.construct at made
  obtain ⟨_, _, made⟩ := bind_ok.mp made
  obtain ⟨_, _, made⟩ := bind_ok.mp made
  split at made
  · split at made
    · cases made
    · next keyed =>
      obtain ⟨_, checked, made⟩ := bind_ok.mp made
      cases made
      obtain rfl := Dict.tryMap_eq_self (fun _ _ _ one => (RuntimePlan.keyStep_keyed one).1) keyed
      exact ⟨rfl, rfl, rfl, checked⟩
  · cases made

end DwSuperApps.Source.Plans

namespace DwSuperApps.Source.Blueprints

open DwSuperApps.Lib DwSuperApps.Lib.Checked
open DwSuperApps.Lib.Sorted (sortedBy)
open DwSuperApps.Source.Plans

/-! ## Parameters -/

/-- `str.upper`. -/
class UpperCase where
  upper : String → String

/-- `_digest` of the compiler, over the ASCII form of the canonical JSON. -/
class CompilerDigest where
  digest : Json → Digest

/-- What a node or its instruction lists; a key it lacks is `none`. -/
structure CapabilityLists where
  allowedActions : Option (List String) := none
  inputs : Option (List String) := none
  evidenceRequired : Option (List String) := none
  deriving DecidableEq

/-- What `yaml.safe_load` makes of an instruction. -/
inductive InstructionDocument where
  | unparseable | notAMapping
  | mapping (nodeId : Option String) (lists : CapabilityLists)
  deriving DecidableEq

/-- What a reference names under the instruction root. -/
inductive InstructionFile where
  | escapes | unreadable
  | file (digest : Digest) (document : InstructionDocument)
  deriving DecidableEq

/-! ## Blueprints -/

/-- A node; `binding` is the node itself. A text is `none` where it is missing or of
another type. -/
structure NodePayload where
  binding : List (String × Json)
  nodeId : Option String := none
  action : Option String := none
  capabilities : Option CapabilityLists := none
  allowedActions : List String := []
  allowedInputs : List String := []
  evidenceRefs : List String := []
  instructionRef : Option String := none
  instructionDigest : Option String := none
  deriving DecidableEq

/-- A route row; `runtimeExecutable` is `some none` where it is not a bool. -/
structure RouteRow where
  target : Option String := none
  kind : String := "continue"
  runtimeExecutable : Option (Option Bool) := none
  conditionId : Option String := none
  sourceGate : Option String := none
  targetGate : Option String := none
  deriving DecidableEq

structure LegacyEdge where
  target : Option String := none
  kind : String := "continue"
  deriving DecidableEq

/-- `topology.edges`: a list whose items are route rows or not mappings, a legacy
mapping, or anything else. -/
inductive RawEdges where
  | absent
  | rows (items : List (Option RouteRow))
  | mapping (entries : Dict String LegacyEdge)
  | other (truthy : Bool)
  deriving DecidableEq

def RawEdges.truthy : RawEdges → Bool
  | .absent => false
  | .rows items => !items.isEmpty
  | .mapping entries => !entries.entries.isEmpty
  | .other truthy => truthy

/-- A topology row; `terminal` is `some none` where it is not a bool. -/
structure TopologyRow where
  action : Option String := none
  terminal : Option (Option Bool) := none
  next : Option String := none
  edges : RawEdges := .absent
  deriving DecidableEq

namespace TopologyRow

/-- `next`, where it is not empty. -/
def nextTarget (row : TopologyRow) : Option String := row.next.filter (· ≠ "")

/-- The marker of a row that passed its check. -/
def isTerminal (row : TopologyRow) : Bool := (row.terminal.getD (some false)).getD false

end TopologyRow

/-- A blueprint; `value` is the blueprint itself. A member of another type than the
compiler asks for is `none`. -/
structure Blueprint where
  value : Json
  sourceBindings : Option (List (String × Json)) := none
  nodes : Option (List NodePayload) := none
  topology : Option (List TopologyRow) := none
  runbooks : Option (List RunbookBinding) := none
  authorityRequirements : Option (List AuthorityRequirement) := none
  runtimePlanRef : Option String := none
  implementationPlanRef : String := ""
  blueprintId : Option String := none
  taskId : Option String := none
  scenario : String := ""
  deriving DecidableEq

/-! ## Nodes -/

/-- `_require_text` of a member that may be missing. -/
def requireMember (value : Option String) (field : String) : Except Raised RequiredText :=
  match value with
  | none => .error (validationError s!"{field} must be a non-empty string")
  | some text => requireText text field

/-- `_load_node_instruction`; without a root there is none. -/
def loadNodeInstruction (root : Option (String → InstructionFile)) (node : NodePayload) :
    Except Raised (Option CapabilityLists) := do
  match root with
  | none => return none
  | some files =>
    let ref ← requireMember node.instructionRef "node.node_instruction_ref"
    match files ref.value with
    | .escapes =>
      .error (validationError s!"node instruction path escapes root: {ref.value}")
    | .unreadable => .error (validationError s!"node instruction unreadable: {ref.value}")
    | .file actual document =>
      let expected ← requireMember node.instructionDigest "node.node_instruction_digest"
      ensure (actual.value = expected.value) (validationError
        s!"node instruction digest mismatch: {ref.value}: expected {expected.value}, got {actual.value}")
      match document with
      | .unparseable => .error (validationError s!"node instruction parse failed: {ref.value}")
      | .notAMapping =>
        .error (validationError s!"node instruction identity mismatch: {ref.value}")
      | .mapping nodeId lists => do
        ensure (nodeId = node.nodeId)
          (validationError s!"node instruction identity mismatch: {ref.value}")
        return some lists

/-- The step of a node, before its topology row. -/
def compileNode (root : Option (String → InstructionFile)) (node : NodePayload) :
    Except Raised RuntimePlanStep := do
  let _ ← requireMember node.nodeId "node.node_id"
  let action ← requireMember node.action "node.action"
  let instruction ← loadNodeInstruction root node
  let lists := (instruction.orElse fun _ => node.capabilities).getD {}
  RuntimePlanStep.construct action action {} false [] (some node.binding)
    (lists.inputs.getD node.allowedInputs) (lists.allowedActions.getD node.allowedActions)
    (lists.evidenceRequired.getD node.evidenceRefs)

/-- `steps[action] = RuntimePlanStep(...)` for each node. -/
def compileNodes (root : Option (String → InstructionFile)) :
    List NodePayload → Dict String RuntimePlanStep → Except Raised (Dict String RuntimePlanStep)
  | [], steps => .ok steps
  | node :: rest, steps => do
    let step ← compileNode root node
    compileNodes root rest (steps.set step.stepId.value step)

/-! ## Edges -/

/-- `PlanEdge(...)` of a target that may be missing. -/
def planEdge (outcome : String) (target : Option String) (kind : String)
    (row : RouteRow) (runtimeExecutable : Bool) : Except Raised PlanEdge := do
  let outcome ← requireText outcome "edge.outcome"
  let target ← requireMember target "edge.target"
  let kind ← EdgeKind.ofText kind
  return {
    outcome, target, kind, runtimeExecutable
    conditionId := row.conditionId
    sourceGate := row.sourceGate
    targetGate := row.targetGate }

/-- A target the topology may name. -/
def declaredTarget (steps : Dict String RuntimePlanStep) (target : String) : Prop :=
  steps.contains target ∨ target ∈ nonStepTargets

instance (steps : Dict String RuntimePlanStep) (target : String) :
    Decidable (declaredTarget steps target) := by
  unfold declaredTarget; infer_instance

section Compiler
variable [UpperCase]

/-- One item of a list of routes. -/
def compileRoute (steps : Dict String RuntimePlanStep) (item : Option RouteRow) :
    Except Raised PlanEdge :=
  match item with
  | none => .error (validationError "topology.edges items must be mappings")
  | some row => do
    let some target := row.target.filter (· ≠ "")
      | .error (validationError "topology.edges target must be a non-empty string")
    ensure (row.kind ∈ EdgeKind.allowed.map EdgeKind.value)
      (validationError s!"unsupported route edge kind: {Json.reprString row.kind}")
    let some runtimeExecutable := row.runtimeExecutable.getD (some false)
      | .error (validationError "topology.edges runtime_executable must be a bool")
    ensure (declaredTarget steps target) (validationError s!"edge target not declared: {target}")
    planEdge (UpperCase.upper row.kind) (some target) row.kind row runtimeExecutable

/-- More than one executable route of the kind, and none with a condition. -/
def ambiguous (routes : List PlanEdge) (kind : EdgeKind) : Prop :=
  1 < (routes.filter fun e => e.runtimeExecutable ∧ e.kind = kind).length ∧
    ∀ e ∈ routes, e.runtimeExecutable → e.kind = kind → e.conditionId = none

instance (routes : List PlanEdge) (kind : EdgeKind) : Decidable (ambiguous routes kind) := by
  unfold ambiguous; infer_instance

/-- Every kind with an executable route is told apart. -/
def checkDiscriminators (action : String) (routes : List PlanEdge) : Except Raised Unit :=
  checkAll (fun edge => ensure (¬ ambiguous routes edge.kind) (validationError
      s!"BLUEPRINT_ROUTE_DISCRIMINATOR_REQUIRED: {action} has {(routes.filter fun e => e.runtimeExecutable ∧ e.kind = edge.kind).length} executable '{edge.kind.value}' routes without declared condition_id discriminators"))
    (routes.filter (·.runtimeExecutable))

/-- One route put into the edge mapping; a distinct route under its outcome is
refused. -/
def placeRoute (action : String) (edges : Dict String PlanEdge) (edge : PlanEdge) :
    Except Raised (Dict String PlanEdge) := do
  ensure (∀ existing ∈ edges.get? edge.outcome.value, existing = edge) (validationError
    s!"BLUEPRINT_ROUTE_DISCRIMINATOR_REQUIRED: {action} has multiple routes colliding on outcome {Json.reprString edge.outcome.value} (kind={Json.reprString edge.kind.value}) — the edge mapping cannot hold both distinct routes; declare distinct kinds/outcomes for each route")
  return edges.set edge.outcome.value edge

def placeRoutes (action : String) :
    List PlanEdge → Dict String PlanEdge → Except Raised (Dict String PlanEdge)
  | [], edges => .ok edges
  | edge :: rest, edges => do
    let placed ← placeRoute action edges edge
    placeRoutes action rest placed

/-- The edge mapping of a list of route rows. -/
def compileRoutes (steps : Dict String RuntimePlanStep) (action : String)
    (items : List (Option RouteRow)) : Except Raised (Dict String PlanEdge) := do
  let routes ← items.mapM (compileRoute steps)
  checkDiscriminators action routes
  placeRoutes action (sortedBy (fun e => toLex (e.kind.value, e.target.value)) routes) {}

/-- The edge of the legacy `next`. -/
def compileNext (steps : Dict String RuntimePlanStep) (row : TopologyRow) :
    Except Raised (Dict String PlanEdge) :=
  match row.nextTarget with
  | none => .ok {}
  | some target => do
    ensure (declaredTarget steps target) (validationError s!"edge target not declared: {target}")
    let edge ← planEdge "NEXT" (some target) "continue" {} true
    return ({} : Dict String PlanEdge).set "NEXT" edge

/-- The legacy mapping; a later entry under one upper-case outcome takes the place of
an earlier one, and its target is left to the plan to check. -/
def compileLegacy :
    List (String × LegacyEdge) → Dict String PlanEdge → Except Raised (Dict String PlanEdge)
  | [], edges => .ok edges
  | (outcome, legacy) :: rest, edges => do
    let edge ← planEdge (UpperCase.upper outcome) legacy.target legacy.kind {} true
    compileLegacy rest (edges.set (UpperCase.upper outcome) edge)

/-- The edge mapping of a row. A list of routes takes priority over `next`. -/
def compileEdges (steps : Dict String RuntimePlanStep) (action : String) (row : TopologyRow) :
    Except Raised (Dict String PlanEdge) :=
  match row.edges with
  | .rows items => compileRoutes steps action items
  | .mapping entries => do
    let edges ← compileNext steps row
    compileLegacy entries.entries edges
  | .absent | .other _ => compileNext steps row

/-- The members of an edge's dictionary. -/
def evidenceRow (edge : PlanEdge) : List (String × Json) :=
  match edge.toDict with
  | .obj members => members
  | _ => []

/-- One topology row; a row with neither a route nor a terminal marker changes
nothing. -/
def compileRow (steps : Dict String RuntimePlanStep) (row : TopologyRow) :
    Except Raised (Dict String RuntimePlanStep) := do
  let some (action, step) := row.action.bind fun action => (steps.get? action).map (action, ·)
    | .error (validationError
        ("topology references undeclared action: " ++ row.action.getD "None"))
  ensure (row.terminal ≠ some none) (validationError "topology.terminal must be a bool")
  ensure (¬ (row.isTerminal ∧ (row.nextTarget.isSome ∨ row.edges.truthy)))
    (validationError "terminal topology must preserve canonical edges: []")
  let edges ← compileEdges steps action row
  if edges.entries ≠ [] ∨ row.isTerminal then
    let made ← RuntimePlanStep.construct step.stepId step.semanticAction edges row.isTerminal
      (edges.values.map evidenceRow) step.nodeBinding step.allowedInputs step.allowedActions
      step.evidenceRefs
    return steps.set action made
  else return steps

def compileTopology :
    List TopologyRow → Dict String RuntimePlanStep → Except Raised (Dict String RuntimePlanStep)
  | [], steps => .ok steps
  | row :: rest, steps => do
    let compiled ← compileRow steps row
    compileTopology rest compiled

/-! ## The compiler -/

variable [CompilerDigest]

/-- What the caller may expect of a blueprint; an empty text or mapping expects
nothing. -/
structure Expectations where
  blueprintDigest : Option String := none
  sourceBindings : Option (List (String × Json)) := none
  nodeInstructionRoot : Option (String → InstructionFile) := none

/-- The given ref, or one of the task and the blueprint. -/
def planRef (b : Blueprint) (digest : Digest) : String :=
  match b.runtimePlanRef.filter (· ≠ "") with
  | some ref => ref
  | none =>
    let short := String.ofList ((digest.value.toList.drop 7).take 16)
    "runtime-plan/" ++ b.taskId.getD "unknown" ++ "/" ++ b.blueprintId.getD short

/-- `compile_blueprint`. The text of a binding mismatch goes on with the members that
differ. -/
def compileBlueprint (b : Blueprint) (expected : Expectations) : Except Raised RuntimePlan := do
  let blueprintDigest := CompilerDigest.digest b.value
  ensure (∀ digest ∈ expected.blueprintDigest, digest = "" ∨ digest = blueprintDigest.value)
    (validationError
      ("blueprint digest mismatch: expected " ++ expected.blueprintDigest.getD "" ++ ", got " ++
        blueprintDigest.value))
  let some sourceBindings := b.sourceBindings
    | .error (validationError "source_bindings must be a mapping")
  ensure (∀ bindings ∈ expected.sourceBindings,
      bindings = [] ∨ Json.sortKeys (.obj bindings) = Json.sortKeys (.obj sourceBindings))
    (validationError "source binding mismatch")
  let some nodes := b.nodes.filter (· ≠ [])
    | .error (validationError "blueprint.nodes must be a non-empty list")
  let steps ← compileNodes expected.nodeInstructionRoot nodes {}
  let some topology := b.topology
    | .error (validationError "blueprint.topology must be a list")
  let steps ← compileTopology topology steps
  let planIdentity := CompilerDigest.digest
    (.obj [("blueprint", b.value), ("source_bindings", .obj sourceBindings)])
  RuntimePlan.construct {
      runtimePlanRef := planRef b blueprintDigest
      revision := planIdentity.value
      implementationPlanRef := b.implementationPlanRef
      sourceBindings := some sourceBindings
      runbooks := some (b.runbooks.getD [])
      authorityRequirements := some (b.authorityRequirements.getD [])
      blueprintId := b.blueprintId.getD ""
      blueprintDigest := blueprintDigest.value
      taskId := b.taskId.getD ""
      scenario := b.scenario } steps

end Compiler

end DwSuperApps.Source.Blueprints
