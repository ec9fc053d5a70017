import DwSuperApps.Guarantees.StepActivations

/-!
# The step a running cursor points at

`execute_step` refuses a step that is in the record of completed steps, whatever led
back to it. So a run in which no route leads back to a completed step, and no wait is
resumed at one, always admits the step its running cursor points at
(`own_step_admitted`): the invariant is that a running cursor is at a step still to be
executed. A resumed wait, a retry of the step itself and a cycle all end at a step
that every call is refused for (`own_step_refused`).
-/
namespace DwSuperApps.Guarantees.OwnStep

open DwSuperApps.Lib DwSuperApps.Lib.Checked
open DwSuperApps.Lib.Programs (Prog)
open DwSuperApps.Lib.Programs.Prog
open DwSuperApps.Source.Plans DwSuperApps.Source.ClosedLoop
open DwSuperApps.Guarantees.PlanCursor DwSuperApps.Guarantees.StepActivations

/-! ## Admission without the duplicate check -/

/-- `currentStep` without its check of the completed steps. -/
def declaredStep (M : ClosedLoopRuntimeExecutor) (call : StepCall) : Except Raised StepPayload := do
  match M.plan.steps.get? call.stepId with
  | none => .error (closedLoopError s!"step {Json.reprString call.stepId} not declared in plan")
  | some step => do
    ensure (missingEvidence M = []) (closedLoopError
      s!"lost evidence for steps {Json.rawRepr (RuntimePlanStep.texts (missingEvidence M))} on fresh activation")
    return step

theorem declaredStep_of {M : ClosedLoopRuntimeExecutor} {call : StepCall} {step : StepPayload}
    (found : declaredStep M call = .ok step) (first : call.stepId ∉ M.completedSteps) :
    currentStep M call = .ok step := by
  unfold declaredStep at found
  unfold currentStep
  cases declared : M.plan.steps.get? call.stepId with
  | none =>
    rw [declared] at found
    cases found
  | some held =>
    rw [declared] at found
    exact bind_ok.mpr ⟨(), ensure_of first _, found⟩

section Admission
variable [TextCase]

/-- What `execute_step` checks once it has the step. -/
def prepareStep (M : ClosedLoopRuntimeExecutor) (env : Environment) (call : StepCall)
    (step : StepPayload) : Except Raised Prepared := do
  let capabilities ← stepCapabilities env step
  ensure (capabilities.allowedInputs = [] ∨ unknownInputs call capabilities.allowedInputs = [])
    (closedLoopError
      s!"payload inputs not allowed for {call.stepId}: {Json.rawRepr (RuntimePlanStep.texts (unknownInputs call capabilities.allowedInputs))}")
  let action ← selectAction call capabilities.allowedActions
  let selected ← routeOf call step
  let semanticAction := (step.semanticAction.filter (· ≠ "")).getD call.stepId
  ensure (strip semanticAction ≠ "")
    (closedLoopError "SEMANTIC_ACTION_REQUIRED: step binding is incomplete")
  ensure (action ≠ "" ∨ (call.effect.isNone ∧ call.sideEffect.isNone))
    (closedLoopError "ACTION_REQUIRED: effect requires an explicitly authorized action")
  let authorized ← authorize M env action semanticAction
  ensure authorized (closedLoopError
    "AUTHORITY_REQUIRED: exact authority revalidation failed; no effect or cursor advance")
  return { selected with
    action
    effectful := isEffectful action
    evidenceRefs := capabilities.evidenceRefs }

theorem prepare_eq (M : ClosedLoopRuntimeExecutor) (env : Environment) (call : StepCall) :
    prepare M env call = checkCall M call >>= fun _ =>
      currentStep M call >>= prepareStep M env call := rfl

/-- Every check but that of the completed steps. -/
def otherChecks (M : ClosedLoopRuntimeExecutor) (env : Environment) (call : StepCall) :
    Except Raised Prepared :=
  checkCall M call >>= fun _ => declaredStep M call >>= prepareStep M env call

/-- The executor rejects no call for the step its running cursor points at that passes
every other check. -/
def AdmitsOwn (M : ClosedLoopRuntimeExecutor) : Prop :=
  ∀ env call p, otherChecks M env call = .ok p → prepare M env call = .ok p

/-- A running cursor is at a step still to be executed. -/
def Open (s : RuntimeExecutionState) : Prop :=
  s.cursor.controlState = .running → s.cursor.currentStepId.value ∉ s.completedSteps

theorem Open.admitsOwn {M : ClosedLoopRuntimeExecutor} (isOpen : Open M.state) : AdmitsOwn M := by
  intro env call p others
  obtain ⟨_, checked, others⟩ := bind_ok.mp others
  obtain ⟨step, found, others⟩ := bind_ok.mp others
  obtain ⟨running, own⟩ := checkCall_ok checked
  have first : call.stepId ∉ M.completedSteps := own ▸ isOpen running
  rw [prepare_eq]
  exact bind_ok.mpr ⟨(), checked, bind_ok.mpr ⟨step, declaredStep_of found first, others⟩⟩

/-- A call at a completed step is refused. -/
theorem completed_refused {M : ClosedLoopRuntimeExecutor} {env : Environment} {call : StepCall}
    (done : call.stepId ∈ M.completedSteps) (p : Prepared) : prepare M env call ≠ .ok p := by
  intro prepared
  obtain ⟨_, -, -, -, first, -⟩ := prepare_ok prepared
  exact first done

end Admission

/-! ## Where a route leads -/

/-- Where the cursor runs on, or `none` where it waits or a replan is required. -/
def onward (route : Route) (here : RequiredText) : Option RequiredText :=
  if route.terminalStep then some RunCursor.terminalTarget
  else
    match route.edge with
    | none => some here
    | some edge => if edge.isControl then none else some edge.target

/-- The condition of a run: the route of a call for the cursor's step leads to no
completed step and not back to the step itself, and a wait is resumed at a step still
to be executed. -/
def LeadsOn (m : Machine) : Action → Prop
  | .execute call _ _ => ∀ M step route t, m.process = some M →
      call.stepId = M.cursor.currentStepId.value → M.plan.steps.get? call.stepId = some step →
      routeOf call step = .ok route → onward route M.cursor.currentStepId = some t →
      t.value ∉ M.completedSteps ∧ t.value ≠ call.stepId
  | .resumeWait _ _ => ∀ M, m.process = some M → M.cursor.controlState = .waiting →
      M.cursor.currentStepId.value ∉ M.completedSteps
  | .switchPlan _ _ _ _ | .restart _ _ _ => True

section Steps
variable [TextCase] {M : ClosedLoopRuntimeExecutor} {env : Environment} {call : StepCall}
  {p : Prepared}

omit [TextCase] in
/-- A cursor that still runs after a prepared call is where its route leads. -/
theorem onward_of_running (runs : p.controlState .running = .running) (here : RequiredText) :
    onward p.toRoute here = some (p.target here) := by
  unfold onward Prepared.target
  cases p.terminalStep with
  | true => rfl
  | false =>
    simp only [Bool.false_eq_true, if_false]
    cases chosen : p.edge with
    | none => rfl
    | some edge =>
      unfold Prepared.controlState at runs
      rw [chosen] at runs
      have control : ¬ edge.isControl := by
        intro control
        unfold PlanEdge.isControl controlTargets at control
        dsimp only at runs
        rcases List.mem_cons.mp control with wait | later
        · rw [if_pos wait] at runs
          cases runs
        · have replan := List.mem_singleton.mp later
          rw [if_neg (by rw [replan]; decide), if_pos replan] at runs
          cases runs
      dsimp only
      rw [if_neg control, if_neg control]

/-- A prepared call whose route leads on leaves a running cursor at an open step. -/
theorem advanced_open (prepared : prepare M env call = .ok p)
    (leads : ∀ step route t, call.stepId = M.cursor.currentStepId.value →
      M.plan.steps.get? call.stepId = some step → routeOf call step = .ok route →
      onward route M.cursor.currentStepId = some t → t.value ∉ M.completedSteps ∧ t.value ≠ call.stepId) :
    Open (M.advanced call p).state := by
  obtain ⟨step, running, own, declared, -, routed⟩ := prepare_ok prepared
  intro runs
  change p.controlState M.cursor.controlState = .running at runs
  rw [running] at runs
  obtain ⟨first, other⟩ := leads step _ _ own declared routed (onward_of_running runs _)
  change (p.target M.cursor.currentStepId).value ∉ M.completedSteps ++ [call.stepId]
  rw [List.mem_append, List.mem_singleton, not_or]
  exact ⟨first, other⟩

end Steps

/-! ## Runs -/

/-- The executor of a world and its file are at open steps. -/
def OpenWorld (w : World) : Prop := Open w.memory.state ∧ ∀ s ∈ w.durable, Open s

/-- The process of a machine and its file are at open steps. -/
structure OpenMachine (m : Machine) : Prop where
  process : ∀ M, m.process = some M → Open M.state
  durable : ∀ s ∈ m.durable, Open s

theorem OpenWorld.stored {w : World} {M : ClosedLoopRuntimeExecutor} (isOpen : Open M.state)
    (held : ∀ s ∈ w.durable, Open s) (rebinds : Bool) :
    OpenWorld (World.stored { w with memory := M } M rebinds) := by
  refine ⟨isOpen, fun s inFile => ?_⟩
  change s ∈ (if M.hasStore then some M.state else w.durable) at inFile
  split at inFile
  · cases inFile
    exact isOpen
  · exact held s inFile

theorem after_open {α : Type} {w : World} {program : Program α}
    (held : program.Throughout OpenWorld w) (stopsAfter : Option Nat) :
    OpenMachine (Machine.after w program stopsAfter) := by
  obtain ⟨t, ⟨inMemory, durable⟩, file, -, same⟩ := after_throughout held stopsAfter
  refine ⟨fun M running => ?_, fun s inFile => ?_⟩
  · rw [same M running]
    exact inMemory
  · rw [file] at inFile
    exact durable s inFile

theorem updating_open {α β : Type} {view : ClosedLoopRuntimeExecutor → Except Raised β}
    {next : ClosedLoopRuntimeExecutor → β → ClosedLoopRuntimeExecutor} {result : β → α}
    {env : Environment} {rebinds : Bool} {w : World} (start : OpenWorld w)
    (after : ∀ b, view w.memory = .ok b → Open (next w.memory b).state) :
    (updating view next result env rebinds).Throughout OpenWorld w := by
  cases passed : view w.memory with
  | error e => exact updating_refused passed start
  | ok b =>
    exact updating_throughout passed start ⟨after b passed, start.2⟩
      (OpenWorld.stored (after b passed) start.2 rebinds)

section Machines
variable [TextCase] [Sha256]

theorem step_open {m : Machine} (isOpen : OpenMachine m) {a : Action} (leads : LeadsOn m a) :
    OpenMachine (m.step a) := by
  cases a with
  | execute call env stopsAfter =>
    unfold Machine.step
    cases running : m.process with
    | none => exact isOpen
    | some M =>
      have start : OpenWorld (m.world M) := ⟨isOpen.process M running, isOpen.durable⟩
      apply after_open
      apply executeStep_throughout start
      · intro _ _
        exact performEffects_throughout (fun _ _ held => held) start
      · intro p t prepared _ held
        have advanced : Open (M.advanced call p).state :=
          advanced_open prepared fun step route t => leads M step route t running
        exact ⟨⟨advanced, held.2⟩, OpenWorld.stored advanced held.2 false⟩
  | resumeWait env stopsAfter =>
    unfold Machine.step
    cases running : m.process with
    | none => exact isOpen
    | some M =>
      have start : OpenWorld (m.world M) := ⟨isOpen.process M running, isOpen.durable⟩
      change OpenMachine (Machine.after (m.world M) (updating (fun M => M.cursor.resume)
        (fun M cursor => { M with cursor }) id env false) stopsAfter)
      refine after_open (updating_open start fun c resumed => ?_) stopsAfter
      change M.cursor.resume = .ok c at resumed
      unfold RunCursor.resume at resumed
      split at resumed
      · cases resumed
      · next waiting =>
        cases resumed
        exact fun _ => leads M running (not_not.mp waiting)
  | switchPlan plan currentStepId env stopsAfter =>
    unfold Machine.step
    cases running : m.process with
    | none => exact isOpen
    | some M =>
      have start : OpenWorld (m.world M) := ⟨isOpen.process M running, isOpen.durable⟩
      change OpenMachine (Machine.after (m.world M) (switchPlan plan currentStepId env) stopsAfter)
      rw [switchPlan_eq]
      exact after_open (updating_open start fun b _ _ => List.not_mem_nil) stopsAfter
  | restart plan cursor context =>
    refine ⟨fun M later => ?_, isOpen.durable⟩
    change (start plan cursor true context m.durable).toOption = some M at later
    cases started : start plan cursor true context m.durable with
    | error e =>
      rw [started] at later
      cases later
    | ok N =>
      rw [started] at later
      cases later
      have synced := start_synced started
      cases file : m.durable with
      | none =>
        intro _ inside
        have none : M.completedSteps = [] := (synced.new file).1
        change M.cursor.currentStepId.value ∈ M.completedSteps at inside
        rw [none] at inside
        cases inside
      | some prior =>
        rw [synced.state prior file]
        exact isOpen.durable prior file

omit [TextCase] in
/-- An executor started without a durable state has completed nothing. -/
theorem start_new {plan : PlanPayload} {cursor : RunCursor} {hasStore : Bool}
    {context : List (String × Json)} {M : ClosedLoopRuntimeExecutor}
    (started : start plan cursor hasStore context none = .ok M) : M.completedSteps = [] := by
  unfold start at started
  obtain ⟨F, made, started⟩ := bind_ok.mp started
  have new : F.completedSteps = [] := by
    unfold fresh at made
    obtain ⟨_, _, made⟩ := bind_ok.mp made
    obtain ⟨_, _, made⟩ := bind_ok.mp made
    obtain ⟨_, _, made⟩ := bind_ok.mp made
    cases made
    rfl
  cases hasStore with
  | false =>
    cases started
    exact new
  | true =>
    obtain ⟨_, _, started⟩ := bind_ok.mp started
    cases started
    exact new

/-- In every run whose routes lead on and whose waits are resumed at an open step, the
executor admits the step its running cursor points at. -/
theorem own_step_admitted (plan : PlanPayload) (cursor : RunCursor) (hasStore : Bool)
    (context : List (String × Json)) (M : ClosedLoopRuntimeExecutor)
    (started : start plan cursor hasStore context none = .ok M) (actions : List Action)
    (leads : Runs.Along Machine.step LeadsOn { process := some M } actions) :
    ∀ N, (Runs.run Machine.step { process := some M } actions).process = some N → AdmitsOwn N := by
  have begun : OpenMachine { process := some M } := by
    refine ⟨fun N running => ?_, fun s inFile => (nomatch inFile)⟩
    cases running
    intro _ inside
    change M.cursor.currentStepId.value ∈ M.completedSteps at inside
    rw [start_new started] at inside
    cases inside
  have ended : OpenMachine (Runs.run Machine.step { process := some M } actions) :=
    @Runs.run_invariant _ _ Machine.step LeadsOn OpenMachine
      (fun _ _ held leads => step_open held leads) _ _ begun leads
  exact fun N running => (ended.process N running).admitsOwn

end Machines

/-! ## Three ways back to a step -/

section Returns

/-- Step `a` waits, is retried, or leads on to step `b`. -/
def firstStep : StepPayload where
  stepId := some "a"
  semanticAction := some "first"
  edges := { entries := [
    ("wait", { outcome := some "wait", target := some "wait" }),
    ("retry", { outcome := some "retry", target := some "a", kind := some "retry" }),
    ("next", { outcome := some "next", target := some "b" })] }

/-- Step `b` leads back to step `a`. -/
def returning : PlanPayload where
  runtimePlanRef := some "plan"
  revision := some "r1"
  runtimePlanDigest := some (Digest.ofNat 0).value
  steps := { entries := [
    ("a", firstStep),
    ("b", { stepId := some "b", semanticAction := some "second", edges := { entries := [
      ("back", { outcome := some "back", target := some "a" })] } })] }

/-- A call whose resolver answers with the outcome. -/
def resolved (stepId outcome : String) : StepCall where
  stepId := stepId
  outcomeResolver := some fun _ _ => .ok (.str outcome)

/-- The machine after the start of a process on the plan and more actions. -/
def afterReturns (more : List Action) : Option Machine :=
  (@start constantHash returning atFirst true [] none).toOption.map fun M =>
    @Runs.run _ _ (@Machine.step unchangedCase constantHash) { process := some M } more

/-- Whether the other checks admit a call on the process, and whether the executor
does. -/
def admission (m : Machine) (call : StepCall) : Option (Bool × Bool) :=
  m.process.map fun M => ((@otherChecks unchangedCase M {} call).isOk,
    (@prepare unchangedCase M {} call).isOk)

set_option maxRecDepth 4000 in
/-- The first step after a resumed wait, after its retry and after a cycle passes every
other check and is refused. -/
theorem returns_refused :
    ((afterReturns [.execute (resolved "a" "wait") {} none, .resumeWait {} none]).bind fun m =>
      admission m (resolved "a" "next")) = some (true, false) ∧
    ((afterReturns [.execute (resolved "a" "retry") {} none]).bind fun m =>
      admission m (resolved "a" "next")) = some (true, false) ∧
    ((afterReturns [.execute (resolved "a" "next") {} none,
        .execute (resolved "b" "back") {} none]).bind fun m =>
      admission m (resolved "a" "next")) = some (true, false) := by
  decide

theorem exists_started : ∃ M, @start constantHash returning atFirst true [] none = .ok M :=
  ok_of_isOk (by decide)

/-- The claim of the last theorem without its condition on the run. -/
theorem own_step_refused :
    ¬ ∀ [TextCase] [Sha256] (plan : PlanPayload) (cursor : RunCursor) (hasStore : Bool)
      (context : List (String × Json)) (M : ClosedLoopRuntimeExecutor),
      start plan cursor hasStore context none = .ok M → ∀ (actions : List Action) N,
        (Runs.run Machine.step { process := some M } actions).process = some N → AdmitsOwn N := by
  intro admits
  obtain ⟨M, started⟩ := exists_started
  have waited := returns_refused.1
  unfold afterReturns at waited
  rw [started] at waited
  change admission (@Runs.run _ _ (@Machine.step unchangedCase constantHash) { process := some M }
    [.execute (resolved "a" "wait") {} none, .resumeWait {} none]) (resolved "a" "next") =
      some (true, false) at waited
  unfold admission at waited
  obtain ⟨N, running, checks⟩ := Option.map_eq_some_iff.mp waited
  obtain ⟨others, refused⟩ := Prod.mk.inj checks
  obtain ⟨p, passed⟩ := ok_of_isOk others
  have admitted := @admits unchangedCase constantHash _ _ _ _ M started _ N running {} _ p passed
  rw [admitted] at refused
  cases refused

/-- The second step is open after the first. -/
theorem own_step_admitted_next : ∃ M, @start constantHash returning atFirst true [] none = .ok M ∧
    ∀ N, (@Runs.run _ _ (@Machine.step unchangedCase constantHash) { process := some M }
      [.execute (resolved "a" "next") {} none]).process = some N → @AdmitsOwn unchangedCase N := by
  obtain ⟨M, started⟩ := exists_started
  refine ⟨M, started, @own_step_admitted unchangedCase constantHash _ _ _ _ M started _ ⟨?_, trivial⟩⟩
  intro N step route t running own declared routed leads
  obtain rfl := Option.some.inj running
  obtain ⟨same, -, -⟩ := (@start_ok constantHash _ _ _ _ _ started).1
  rw [same] at declared
  obtain rfl : firstStep = step := Option.some.inj declared
  have here : M.cursor.currentStepId = ⟨"a", by decide⟩ := RequiredText.ext own.symm
  have next : ((routeOf (resolved "a" "next") firstStep).toOption.bind fun route =>
      onward route ⟨"a", by decide⟩).map (·.value) = some "b" := by decide
  rw [here] at leads
  rw [routed] at next
  change (onward route ⟨"a", by decide⟩).map (·.value) = some "b" at next
  rw [leads] at next
  have second : t.value = "b" := Option.some.inj next
  rw [second, @start_new constantHash _ _ _ _ M started]
  decide

end Returns

end DwSuperApps.Guarantees.OwnStep
