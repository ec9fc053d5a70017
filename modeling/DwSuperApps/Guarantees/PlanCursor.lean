import DwSuperApps.Source.ClosedLoop
import DwSuperApps.Lib.Runs

/-!
# The cursor of the executor and the cursor model

`execute_step` moves the cursor itself, `RunCursor.advance` says where an edge leads.
This module compares the two along every run of one plan, and shows what a call that
returned as terminal leaves open.

* `calls_follow_plan`: the durable cursor after a call over an edge is the advanced
  cursor exactly for a retry to a step; after a terminal call that leads to no step
  still open nothing succeeds and nothing is performed, also after a restart.
* `first_step_counted_twice`: over a continue edge the executor goes on counting
  attempts.
-/
namespace DwSuperApps.Guarantees.PlanCursor

open DwSuperApps.Lib DwSuperApps.Lib.Checked
open DwSuperApps.Lib.Programs (Prog)
open DwSuperApps.Lib.Programs.Prog
open DwSuperApps.Source.Plans DwSuperApps.Source.ClosedLoop

/-! ## Edges of the payload and of the plan -/

theorem memberText_ok {payload : Option String} {key value : String} :
    memberText payload key = .ok value ↔ payload = some value := by
  cases payload with
  | none => simp [memberText]
  | some text => simp [memberText]

theorem fromDict_edge {payload : EdgePayload} {e : PlanEdge}
    (made : PlanEdge.fromDict payload = .ok e) :
    payload.outcome = some e.outcome.value ∧ payload.target = some e.target.value ∧
      EdgeKind.ofText (payload.kind.getD "continue") = .ok e.kind := by
  unfold PlanEdge.fromDict at made
  obtain ⟨outcomeText, outcomeRead, made⟩ := bind_ok.mp made
  obtain ⟨targetText, targetRead, made⟩ := bind_ok.mp made
  obtain ⟨outcome, outcomeSolid, made⟩ := bind_ok.mp made
  obtain ⟨target, targetSolid, made⟩ := bind_ok.mp made
  obtain ⟨kind, kindRead, made⟩ := bind_ok.mp made
  obtain ⟨_, _, made⟩ := bind_ok.mp made
  cases made
  refine ⟨?_, ?_, kindRead⟩
  · rw [memberText_ok.mp outcomeRead, requireText_value outcomeSolid]
  · rw [memberText_ok.mp targetRead, requireText_value targetSolid]

/-- Two edges with the target and the kind of the same payload. -/
theorem fromDict_same {p q : EdgePayload} {d e : PlanEdge} (target : p.target = q.target)
    (kind : p.kind = q.kind) (left : PlanEdge.fromDict p = .ok d)
    (right : PlanEdge.fromDict q = .ok e) : d.target = e.target ∧ d.kind = e.kind := by
  obtain ⟨-, leftTarget, leftKind⟩ := fromDict_edge left
  obtain ⟨-, rightTarget, rightKind⟩ := fromDict_edge right
  constructor
  · apply RequiredText.ext
    rw [target, rightTarget] at leftTarget
    exact (Option.some.inj leftTarget).symm
  · rw [kind, rightKind] at leftKind
    exact (Except.ok.inj leftKind).symm

theorem selectEdge_same {stepId outcome : String} {raw : EdgePayload} {d e : PlanEdge}
    (selected : selectEdge stepId outcome raw = .ok d) (read : PlanEdge.fromDict raw = .ok e) :
    d.target = e.target ∧ d.kind = e.kind := by
  unfold selectEdge at selected
  obtain ⟨edge, made, selected⟩ := bind_ok.mp selected
  obtain ⟨_, _, selected⟩ := bind_ok.mp selected
  cases selected
  exact fromDict_same (p := edgePayload stepId outcome raw) (q := raw) rfl rfl made read

theorem step_edge {payload : StepPayload} {s : RuntimePlanStep} {outcome : String} {e : PlanEdge}
    (made : RuntimePlanStep.fromDict payload = .ok s) (held : s.edges.get? outcome = some e) :
    ∃ raw r, payload.edges.get? outcome = some raw ∧ PlanEdge.fromDict raw = .ok r ∧
      e.target = r.target ∧ e.kind = r.kind := by
  unfold RuntimePlanStep.fromDict at made
  obtain ⟨_, _, made⟩ := bind_ok.mp made
  obtain ⟨_, _, made⟩ := bind_ok.mp made
  obtain ⟨raws, read, made⟩ := bind_ok.mp made
  obtain ⟨stepId, _, made⟩ := bind_ok.mp made
  obtain ⟨_, _, made⟩ := bind_ok.mp made
  split at made
  · cases made
  · next edges bound =>
    split at made
    · cases made
      obtain ⟨r, inside, bind⟩ := (Dict.get?_tryMap bound).mp held
      obtain ⟨raw, present, parsed⟩ := (Dict.get?_tryMap read).mp inside
      obtain ⟨-, -, target, kind⟩ := RuntimePlanStep.bindEdge_bound bind
      exact ⟨raw, r, present, parsed, target, kind⟩
    · cases made

theorem plan_step [Sha256] {payload : PlanPayload} {plan : RuntimePlan} {stepId : String}
    {s : RuntimePlanStep} (made : RuntimePlan.fromDict payload = .ok plan)
    (held : plan.steps.get? stepId = some s) :
    ∃ raw, payload.steps.get? stepId = some raw ∧ RuntimePlanStep.fromDict raw = .ok s := by
  unfold RuntimePlan.fromDict at made
  obtain ⟨_, _, made⟩ := bind_ok.mp made
  obtain ⟨_, _, made⟩ := bind_ok.mp made
  obtain ⟨_, _, made⟩ := bind_ok.mp made
  obtain ⟨raws, read, made⟩ := bind_ok.mp made
  obtain ⟨_, _, made⟩ := bind_ok.mp made
  obtain ⟨_, _, made⟩ := bind_ok.mp made
  split at made
  · split at made
    · cases made
    · next steps keyed =>
      obtain ⟨_, _, made⟩ := bind_ok.mp made
      obtain ⟨_, _, made⟩ := bind_ok.mp made
      cases made
      obtain ⟨step, inside, key⟩ := (Dict.get?_tryMap keyed).mp held
      obtain ⟨raw, present, parsed⟩ := (Dict.get?_tryMap read).mp inside
      rw [(RuntimePlan.keyStep_keyed key).1]
      exact ⟨raw, present, parsed⟩
  · cases made

/-! ## Prepared calls -/

section Preparing
variable [TextCase] {M : ClosedLoopRuntimeExecutor} {env : Environment} {call : StepCall} {p : Prepared}

omit [TextCase] in
theorem checkCall_ok (passed : checkCall M call = .ok ()) :
    M.cursor.controlState = .running ∧ call.stepId = M.cursor.currentStepId.value := by
  unfold checkCall at passed
  obtain ⟨_, _, passed⟩ := bind_ok.mp passed
  obtain ⟨_, _, passed⟩ := bind_ok.mp passed
  obtain ⟨_, running, passed⟩ := bind_ok.mp passed
  exact ⟨ensure_ok.mp running, ensure_ok.mp passed⟩

omit [TextCase] in
theorem currentStep_ok {step : StepPayload} (found : currentStep M call = .ok step) :
    M.plan.steps.get? call.stepId = some step ∧ call.stepId ∉ M.completedSteps := by
  unfold currentStep at found
  split at found
  · cases found
  · next declared held =>
    obtain ⟨_, fresh, found⟩ := bind_ok.mp found
    obtain ⟨_, _, found⟩ := bind_ok.mp found
    cases found
    exact ⟨held, ensure_ok.mp fresh⟩

/-- What a prepared call was checked for. -/
theorem prepare_ok (prepared : prepare M env call = .ok p) : ∃ step,
    M.cursor.controlState = .running ∧ call.stepId = M.cursor.currentStepId.value ∧
      M.plan.steps.get? call.stepId = some step ∧ call.stepId ∉ M.completedSteps ∧
      routeOf call step = .ok p.toRoute := by
  unfold prepare at prepared
  obtain ⟨_, checked, prepared⟩ := bind_ok.mp prepared
  obtain ⟨step, current, prepared⟩ := bind_ok.mp prepared
  obtain ⟨_, _, prepared⟩ := bind_ok.mp prepared
  obtain ⟨_, _, prepared⟩ := bind_ok.mp prepared
  obtain ⟨_, _, prepared⟩ := bind_ok.mp prepared
  obtain ⟨route, routed, prepared⟩ := bind_ok.mp prepared
  obtain ⟨_, _, prepared⟩ := bind_ok.mp prepared
  obtain ⟨_, _, prepared⟩ := bind_ok.mp prepared
  obtain ⟨_, _, prepared⟩ := bind_ok.mp prepared
  obtain ⟨_, _, prepared⟩ := bind_ok.mp prepared
  cases prepared
  obtain ⟨running, own⟩ := checkCall_ok checked
  obtain ⟨declared, fresh⟩ := currentStep_ok current
  exact ⟨step, running, own, declared, fresh, routed⟩

omit [TextCase] in
/-- The route of a step: to the terminal place, nowhere, or over the selected edge. -/
theorem routeOf_ok {step : StepPayload} {route : Route} (routed : routeOf call step = .ok route) :
    (step.terminal = true ∧ step.edges.entries = [] ∧ route = { terminalStep := true }) ∨
    (step.terminal = false ∧ step.edges.entries = [] ∧ route = { legacyUnmarkedLeaf := true }) ∨
    (step.terminal = false ∧ ∃ outcome raw edge, resolveOutcome call step = .ok (.str outcome) ∧
      step.edges.get? outcome = some raw ∧ selectEdge call.stepId outcome raw = .ok edge ∧
      route = { edge := some edge, resolvedOutcome := some outcome }) := by
  unfold routeOf at routed
  split at routed
  · next marked =>
    split at routed
    · cases routed
    · next leaf =>
      split at routed
      · cases routed
      · cases routed
        exact .inl ⟨marked, not_not.mp leaf, rfl⟩
  · next unmarked =>
    have unmarked := Bool.eq_false_iff.mpr unmarked
    split at routed
    · next leaf =>
      cases routed
      exact .inr (.inl ⟨unmarked, leaf, rfl⟩)
    · unfold routedStep at routed
      obtain ⟨resolved, answered, routed⟩ := bind_ok.mp routed
      split at routed
      · next outcome =>
        split at routed
        · cases routed
        · next raw held =>
          obtain ⟨_, _, routed⟩ := bind_ok.mp routed
          obtain ⟨edge, selected, routed⟩ := bind_ok.mp routed
          cases routed
          exact .inr (.inr ⟨unmarked, outcome, raw, edge, answered, held, selected, rfl⟩)
      · cases routed

end Preparing

/-! ## Calls as programs -/

section Calls
variable {P : World → Prop} {w final : World} {call : StepCall} {env : Environment}

theorem performEffects_throughout
    (kept : ∀ t entry, P t → P { t with performed := t.performed ++ [entry] }) (start : P w) :
    (performEffects call).Throughout P w := by
  have one (t : World) (held : P t) (side : Bool) (given : Option (Except Raised Unit)) :
      (performGiven call.stepId side given).Throughout P t := by
    cases given with
    | none => exact throughout_pure held
    | some answer => exact throughout_operation held (kept t _ held)
  unfold performEffects
  exact Throughout.bind (one w start _ _) fun _ t _ held => one t held _ _

/-- The effects of a call change neither the executor nor its file. -/
theorem performEffects_frame (w : World) :
    ((performEffects call).run w).2.memory = w.memory ∧
      ((performEffects call).run w).2.durable = w.durable :=
  (performEffects_throughout (P := fun t => t.memory = w.memory ∧ t.durable = w.durable)
    (fun _ _ held => held) ⟨rfl, rfl⟩).run

theorem persist_throughout {M : ClosedLoopRuntimeExecutor} {rebinds : Bool} (before : P w)
    (after : P (w.stored M rebinds)) : (persist M env rebinds).Throughout P w := by
  apply throughout_operation before
  split
  · exact after
  · exact before

theorem persist_ok {M : ClosedLoopRuntimeExecutor} {rebinds : Bool}
    (stored : (persist M env rebinds).run w = (.ok (), final)) : final = w.stored M rebinds := by
  unfold persist at stored
  rw [run_operation] at stored
  split at stored
  · exact (Prod.mk.inj stored).2.symm
  · cases (Prod.mk.inj stored).1

theorem setMemory_throughout {M : ClosedLoopRuntimeExecutor} (before : P w)
    (after : P { w with memory := M }) : (setMemory M).Throughout P w :=
  throughout_operation before after

theorem setMemory_run (M : ClosedLoopRuntimeExecutor) (w : World) :
    (setMemory M).run w = (.ok (), { w with memory := M }) := rfl

variable [TextCase]

/-- A call that is refused before its effect leaves everything as it is. -/
theorem executeStep_refused {e : Raised} (refused : prepare w.memory env call = .error e)
    (start : P w) : (executeStep call env).Throughout P w := by
  unfold executeStep memory
  refine Throughout.bind (throughout_observe start) fun M t seen held => ?_
  cases seen
  apply throughout_lift held
  intro p prepared
  rw [refused] at prepared
  cases prepared

theorem executeStep_refused_run {e : Raised} (refused : prepare w.memory env call = .error e) :
    (executeStep call env).run w = (.error e, w) := by
  change Prog.run (.done (prepare w.memory env call) >>= _) w = _
  exact run_lift_error refused

/-- What has to be shown of every place a call of `execute_step` can stop at. -/
theorem executeStep_throughout (start : P w)
    (performed : ∀ p, prepare w.memory env call = .ok p → (performEffects call).Throughout P w)
    (updated : ∀ p t, prepare w.memory env call = .ok p →
      (performEffects call).run w = (.ok (), t) → P t →
      P { t with memory := w.memory.advanced call p } ∧
        P (World.stored { t with memory := w.memory.advanced call p }
          (w.memory.advanced call p) false)) :
    (executeStep call env).Throughout P w := by
  unfold executeStep memory
  refine Throughout.bind (throughout_observe start) fun M t seen held => ?_
  cases seen
  apply throughout_lift held
  intro p prepared
  refine Throughout.bind (performed p prepared) fun _ t ran held => ?_
  obtain ⟨inMemory, durable⟩ := updated p t prepared ran held
  refine Throughout.bind (setMemory_throughout held inMemory) fun _ u set held => ?_
  cases set
  refine Throughout.bind (persist_throughout held durable) fun _ v _ held => ?_
  exact throughout_pure held

/-- A call that returns was prepared, moved the executor and stored it. -/
theorem executeStep_ok {result : StepResult}
    (returned : (executeStep call env).run w = (.ok result, final)) : ∃ p t,
      prepare w.memory env call = .ok p ∧ (performEffects call).run w = (.ok (), t) ∧
      final = World.stored { t with memory := w.memory.advanced call p }
        (w.memory.advanced call p) false ∧
      result = stepResult (w.memory.advanced call p) p := by
  unfold executeStep memory at returned
  rw [run_bind, run_observe] at returned
  cases prepared : prepare w.memory env call with
  | error e =>
    change (Prog.run (.done (prepare w.memory env call) >>= _) w) = _ at returned
    rw [run_lift_error prepared] at returned
    cases (Prod.mk.inj returned).1
  | ok p =>
    change (Prog.run (.done (prepare w.memory env call) >>= _) w) = _ at returned
    rw [run_lift_ok prepared, run_bind] at returned
    cases ran : (performEffects call).run w with
    | mk answer t =>
    rw [ran] at returned
    cases answer with
    | error e => cases (Prod.mk.inj returned).1
    | ok u =>
      dsimp only at returned
      rw [run_bind_ok (setMemory_run _ t), run_bind] at returned
      cases stored : (persist (w.memory.advanced call p) env false).run
          { t with memory := w.memory.advanced call p } with
      | mk answer v =>
      rw [stored] at returned
      cases answer with
      | error e => cases (Prod.mk.inj returned).1
      | ok u =>
        obtain ⟨same, rfl⟩ := Prod.mk.inj returned
        cases same
        exact ⟨p, t, rfl, rfl, persist_ok stored, rfl⟩

end Calls

/-! ## Where an edge leads -/

/-- The edge of the plan for the step and the outcome of a call. -/
def planEdge (M : ClosedLoopRuntimeExecutor) (call : StepCall) : Except Raised PlanEdge := do
  match M.plan.steps.get? call.stepId with
  | none => .error (closedLoopError s!"step {Json.reprString call.stepId} not declared in plan")
  | some step =>
    match ← resolveOutcome call step with
    | .str outcome => M.planModel.resolveEdge call.stepId outcome
    | resolved => .error (closedLoopError
        s!"ROUTE_OUTCOME_UNRESOLVED: {Json.rawRepr resolved} is not declared for step {Json.reprString call.stepId}")

/-- An executor with a store on the plan of a payload. -/
structure OnPlan [Sha256] (plan : PlanPayload) (M : ClosedLoopRuntimeExecutor) : Prop where
  same : M.plan = plan
  model : RuntimePlan.fromDict plan = .ok M.planModel
  stored : M.hasStore = true

theorem resolveEdge_ok {plan : RuntimePlan} {stepId outcome : String} {e : PlanEdge}
    (found : plan.resolveEdge stepId outcome = .ok e) :
    ∃ s, plan.steps.get? stepId = some s ∧ s.edges.get? outcome = some e := by
  unfold RuntimePlan.resolveEdge at found
  obtain ⟨s, declared, found⟩ := bind_ok.mp found
  unfold RuntimePlan.step at declared
  split at declared
  · next t held =>
    cases declared
    split at found
    · next edge inside =>
      cases found
      exact ⟨s, held, inside⟩
    · cases found
  · cases declared

theorem planEdge_ok {M : ClosedLoopRuntimeExecutor} {call : StepCall} {e : PlanEdge}
    (found : planEdge M call = .ok e) : ∃ step outcome s,
      M.plan.steps.get? call.stepId = some step ∧ resolveOutcome call step = .ok (.str outcome) ∧
      M.planModel.steps.get? call.stepId = some s ∧ s.edges.get? outcome = some e := by
  unfold planEdge at found
  split at found
  · cases found
  · next step declared =>
    obtain ⟨resolved, answered, found⟩ := bind_ok.mp found
    split at found
    · next outcome =>
      obtain ⟨s, held, inside⟩ := resolveEdge_ok found
      exact ⟨step, outcome, s, declared, answered, held, inside⟩
    · cases found

theorem get?_of_no_entries {α : Type} {d : Dict String α} (empty : d.entries = []) (k : String) :
    d.get? k = none := by
  unfold Dict.get?
  rw [empty]
  rfl

section Edges
variable [Sha256] {plan : PlanPayload} {M : ClosedLoopRuntimeExecutor} {call : StepCall} {e : PlanEdge}

/-- A call prepared over an edge of the plan goes over it. -/
theorem prepared_edge [TextCase] {env : Environment} {p : Prepared} (on : OnPlan plan M)
    (prepared : prepare M env call = .ok p) (edge : planEdge M call = .ok e) :
    p.terminalStep = false ∧ ∃ d, p.edge = some d ∧ d.target = e.target ∧ d.kind = e.kind := by
  obtain ⟨step, -, -, declared, -, routed⟩ := prepare_ok prepared
  obtain ⟨step', outcome, s, declared', answered, inModel, inside⟩ := planEdge_ok edge
  rw [declared] at declared'
  cases declared'
  obtain ⟨raw, present, parsed⟩ := plan_step on.model inModel
  rw [← on.same, declared] at present
  cases present
  obtain ⟨rawEdge, r, rawHeld, read, target, kind⟩ := step_edge parsed inside
  rcases routeOf_ok routed with ⟨-, leaf, -⟩ | ⟨-, leaf, -⟩ | ⟨-, outcome', raw', d, answered', held, selected, route⟩
  · rw [get?_of_no_entries leaf] at rawHeld
    cases rawHeld
  · rw [get?_of_no_entries leaf] at rawHeld
    cases rawHeld
  · rw [answered] at answered'
    cases answered'
    rw [rawHeld] at held
    cases held
    obtain ⟨sameTarget, sameKind⟩ := selectEdge_same selected read
    rw [route]
    exact ⟨rfl, d, rfl, sameTarget.trans target.symm, sameKind.trans kind.symm⟩

omit [Sha256] in
/-- The edge of the step the cursor is at starts there. -/
theorem planEdge_source (own : call.stepId = M.cursor.currentStepId.value)
    (edge : planEdge M call = .ok e) : e.sourceStepId = some M.cursor.currentStepId := by
  obtain ⟨_, outcome, s, -, -, inModel, inside⟩ := planEdge_ok edge
  have key := M.planModel.keyed _ s inModel
  rw [(s.bound outcome e inside).2]
  exact congrArg some (RequiredText.ext (key.trans own))

omit [Sha256] in
theorem moved_eq {c : RunCursor} {s t : RequiredText} {a b : Nat} {pa : 1 ≤ a} {pb : 1 ≤ b}
    {x y : ControlState} : c.moved s a pa x = c.moved t b pb y ↔ s = t ∧ a = b ∧ x = y := by
  constructor
  · intro same
    exact ⟨congrArg RunCursor.currentStepId same, congrArg RunCursor.attempt same,
      congrArg RunCursor.controlState same⟩
  · rintro ⟨rfl, rfl, rfl⟩
    rfl

omit [Sha256] in
/-- Counting on and advancing agree exactly for a retry to a step. -/
theorem advance_iff {c : RunCursor} {d : PlanEdge} {p : Prepared}
    (source : e.sourceStepId = some c.currentStepId) (running : c.controlState = .running)
    (unmarked : p.terminalStep = false) (chosen : p.edge = some d) (target : d.target = e.target) :
    c.advance e = .ok (c.moved (p.target c.currentStepId) (c.attempt + 1)
        (Nat.le_add_left 1 c.attempt) (p.controlState c.controlState)) ↔
      e.kind = .retry ∧ e.target.value ∉ nonStepTargets := by
  have positive := c.positive
  have reserved : e.target.value ∈ nonStepTargets ↔
      e.target.value ∈ finalTerminalTargets ∨ e.isControl := List.mem_append
  unfold RunCursor.advance
  rw [if_neg (not_not.mpr source)]
  by_cases terminal : e.isTerminal
  · rw [if_pos terminal]
    constructor
    · intro same
      have counted := (moved_eq.mp (Except.ok.inj same)).2.1
      omega
    · rintro ⟨retry, step⟩
      rcases terminal with final | kind
      · exact absurd (reserved.mpr (.inl final)) step
      · rw [retry] at kind
        cases kind
  · rw [if_neg terminal]
    by_cases control : e.isControl
    · rw [if_pos control]
      constructor
      · intro same
        have counted := (moved_eq.mp (Except.ok.inj same)).2.1
        omega
      · rintro ⟨-, step⟩
        exact absurd (reserved.mpr (.inr control)) step
    · have step : e.target.value ∉ nonStepTargets := by
        rw [reserved]
        rintro (final | reserved)
        · exact terminal (.inl final)
        · exact control reserved
      have notControl : ¬ d.isControl := by
        unfold PlanEdge.isControl at control ⊢
        rwa [target]
      have leads : p.target c.currentStepId = e.target := by
        unfold Prepared.target
        rw [unmarked, chosen]
        change (if d.isControl then c.currentStepId else d.target) = e.target
        rw [if_neg notControl, target]
      have still : p.controlState c.controlState = .running := by
        unfold PlanEdge.isControl controlTargets at notControl
        rw [List.mem_cons, List.mem_singleton, not_or] at notControl
        unfold Prepared.controlState
        rw [chosen]
        change (if d.target.value = "wait" then ControlState.waiting
          else if d.target.value = "replan" then .replanRequired else c.controlState) = .running
        rw [if_neg notControl.1, if_neg notControl.2, running]
      rw [if_neg control, leads, still]
      by_cases retry : e.kind = .retry
      · rw [if_pos retry]
        exact ⟨fun _ => ⟨retry, step⟩, fun _ => rfl⟩
      · rw [if_neg retry]
        constructor
        · intro same
          have counted := (moved_eq.mp (Except.ok.inj same)).2.1
          omega
        · rintro ⟨kind, -⟩
          exact absurd kind retry

end Edges

/-! ## Machines of one plan -/

/-- A call of `execute_step`, whether or not the process stops during it, and the start
of a process on the plan. -/
def Stays (plan : PlanPayload) : Action → Prop
  | .execute _ _ _ => True
  | .restart given _ _ => given = plan
  | _ => False

/-- What holds wherever a program can stop holds of the machine it leaves. -/
theorem after_throughout {α : Type} {P : World → Prop} {w : World} {program : Program α}
    (held : program.Throughout P w) (stopsAfter : Option Nat) :
    ∃ t, P t ∧ (Machine.after w program stopsAfter).durable = t.durable ∧
      (Machine.after w program stopsAfter).performed = t.performed ∧
      ∀ M, (Machine.after w program stopsAfter).process = some M → M = t.memory := by
  cases stopsAfter with
  | none => exact ⟨_, held.run, rfl, rfl, fun M running => (Option.some.inj running).symm⟩
  | some n => exact ⟨_, held.runFor n, rfl, rfl, fun M running => by cases running⟩

section Machines
variable [Sha256] {plan : PlanPayload} {M : ClosedLoopRuntimeExecutor} {cursor : RunCursor}
  {context : List (String × Json)} {durable : Option RuntimeExecutionState}

theorem planObject_ok {model : RuntimePlan} (made : planObject plan = .ok model) :
    RuntimePlan.fromDict plan = .ok model := by
  unfold planObject at made
  split at made
  · next read =>
    cases made
    exact read
  · cases made

theorem fresh_onPlan (made : fresh plan cursor true context = .ok M) : OnPlan plan M := by
  unfold fresh at made
  obtain ⟨_, _, made⟩ := bind_ok.mp made
  obtain ⟨model, read, made⟩ := bind_ok.mp made
  obtain ⟨_, _, made⟩ := bind_ok.mp made
  cases made
  exact ⟨rfl, planObject_ok read, rfl⟩

/-- A started executor is on the plan, and where the durable state says. -/
theorem start_ok (started : start plan cursor true context durable = .ok M) :
    OnPlan plan M ∧ ∀ prior ∈ durable, M.state = prior := by
  unfold start at started
  obtain ⟨F, made, started⟩ := bind_ok.mp started
  have on := fresh_onPlan made
  rw [if_pos rfl] at started
  obtain ⟨_, _, started⟩ := bind_ok.mp started
  cases durable with
  | none =>
    cases started
    exact ⟨on, fun _ absent => by cases absent⟩
  | some prior =>
    change restore F prior = .ok M at started
    unfold restore at started
    obtain ⟨_, _, started⟩ := bind_ok.mp started
    obtain ⟨_, _, started⟩ := bind_ok.mp started
    obtain ⟨_, _, started⟩ := bind_ok.mp started
    cases started
    refine ⟨⟨on.same, on.model, on.stored⟩, fun p named => ?_⟩
    cases named
    rfl

variable [TextCase]

theorem step_onPlan {m : Machine} (held : ∀ M, m.process = some M → OnPlan plan M) {a : Action}
    (stays : Stays plan a) : ∀ M, (m.step a).process = some M → OnPlan plan M := by
  cases a with
  | execute call env stopsAfter =>
    cases running : m.process with
    | none =>
      intro M later
      unfold Machine.step at later
      rw [running] at later
      exact held M later
    | some N =>
      have on := held N running
      have all : (executeStep call env).Throughout (fun t => OnPlan plan t.memory) (m.world N) :=
        executeStep_throughout on
          (fun _ _ => performEffects_throughout (P := fun t => OnPlan plan t.memory)
            (fun _ _ held => held) on)
          (fun _ _ _ _ _ => ⟨⟨on.same, on.model, on.stored⟩, ⟨on.same, on.model, on.stored⟩⟩)
      obtain ⟨t, inside, -, -, same⟩ := after_throughout all stopsAfter
      intro M later
      unfold Machine.step at later
      rw [running] at later
      rw [same M later]
      exact inside
  | resumeWait env stopsAfter => exact absurd stays id
  | switchPlan given currentStepId env stopsAfter => exact absurd stays id
  | restart given cursor context =>
    have same : given = plan := stays
    subst same
    intro M later
    change (start given cursor true context m.durable).toOption = some M at later
    cases started : start given cursor true context m.durable with
    | error e =>
      rw [started] at later
      cases later
    | ok N =>
      rw [started] at later
      cases later
      exact (start_ok started).1

/-- Along every run of a plan the executor is on the plan. -/
theorem run_onPlan {m : Machine} (held : ∀ M, m.process = some M → OnPlan plan M)
    {actions : List Action} (stays : ∀ a ∈ actions, Stays plan a) :
    ∀ M, (Runs.run Machine.step m actions).process = some M → OnPlan plan M :=
  @Runs.run_invariant _ _ Machine.step (fun _ a => Stays plan a)
    (fun m => ∀ M, m.process = some M → OnPlan plan M)
    (fun _ _ held stays => step_onPlan held stays) _ _ held (Runs.along_of_mem stays)

end Machines

/-! ## After a terminal call -/

/-- Where a call from a step leads, unless it stays at the step. -/
def LeadsTo (call : StepCall) (step : StepPayload) (t : String) : Prop :=
  (step.terminal = true ∧ t = RunCursor.terminalTarget.value) ∨
  ∃ outcome raw, resolveOutcome call step = .ok (.str outcome) ∧
    step.edges.get? outcome = some raw ∧ raw.target = some t ∧ t ∉ controlTargets

/-- The call leads to a step that is still to be executed. -/
def Reopens (M : ClosedLoopRuntimeExecutor) (call : StepCall) : Prop :=
  ∃ step t, M.plan.steps.get? call.stepId = some step ∧ LeadsTo call step t ∧
    M.plan.steps.contains t ∧ t ∉ M.completedSteps ∧ t ≠ call.stepId

/-- The cursor is at no step, or at a completed one. -/
def Shut (plan : PlanPayload) (s : RuntimeExecutionState) : Prop :=
  plan.steps.contains s.cursor.currentStepId.value → s.cursor.currentStepId.value ∈ s.completedSteps

section Terminal
variable [TextCase] {M : ClosedLoopRuntimeExecutor} {env : Environment} {call : StepCall} {p : Prepared}

omit [TextCase] in
theorem selectEdge_target {stepId outcome : String} {raw : EdgePayload} {d : PlanEdge}
    (selected : selectEdge stepId outcome raw = .ok d) : raw.target = some d.target.value := by
  unfold selectEdge at selected
  obtain ⟨edge, made, selected⟩ := bind_ok.mp selected
  obtain ⟨_, _, selected⟩ := bind_ok.mp selected
  cases selected
  exact (fromDict_edge made).2.1

omit [TextCase] in
/-- A prepared call leads to its target, or stays where it is. -/
theorem prepared_target {step : StepPayload} (routed : routeOf call step = .ok p.toRoute)
    (terminal : p.isTerminal) (current : RequiredText) :
    p.target current = current ∨ LeadsTo call step (p.target current).value := by
  rcases routeOf_ok routed with ⟨marked, -, route⟩ | ⟨-, -, route⟩ | ⟨-, outcome, raw, d, answered, held, selected, route⟩
  · refine .inr (.inl ⟨marked, ?_⟩)
    unfold Prepared.target
    rw [route]
    rfl
  · rcases terminal with marked | ⟨d, chosen, -⟩
    · rw [route] at marked
      cases marked
    · rw [route] at chosen
      cases chosen
  · unfold Prepared.target
    rw [route]
    change (if d.isControl then current else d.target) = current ∨
      LeadsTo call step (if d.isControl then current else d.target).value
    by_cases control : d.isControl
    · rw [if_pos control]
      exact .inl rfl
    · rw [if_neg control]
      exact .inr (.inr ⟨outcome, raw, answered, held, selectEdge_target selected, control⟩)

/-- A terminal call that reopens nothing shuts the executor. -/
theorem terminal_shuts (prepared : prepare M env call = .ok p) (terminal : p.isTerminal)
    (closed : ¬ Reopens M call) : Shut M.plan (M.advanced call p).state := by
  obtain ⟨step, -, own, declared, -, routed⟩ := prepare_ok prepared
  change M.plan.steps.contains (p.target M.cursor.currentStepId).value →
    (p.target M.cursor.currentStepId).value ∈ M.completedSteps ++ [call.stepId]
  intro inPlan
  by_cases here : (p.target M.cursor.currentStepId).value = call.stepId
  · simp [here]
  · by_cases done : (p.target M.cursor.currentStepId).value ∈ M.completedSteps
    · exact List.mem_append_left _ done
    · rcases prepared_target routed terminal M.cursor.currentStepId with stays | leads
      · rw [stays, own] at here
        exact absurd rfl here
      · exact absurd ⟨step, _, declared, leads, inPlan, done, here⟩ closed

/-- A shut executor refuses every call. -/
theorem shut_refuses (shut : Shut M.plan M.state) (env : Environment) (call : StepCall) :
    ∃ e, prepare M env call = .error e := by
  cases prepared : prepare M env call with
  | error e => exact ⟨e, rfl⟩
  | ok p =>
    obtain ⟨step, -, own, declared, open_, -⟩ := prepare_ok prepared
    have inPlan : M.plan.steps.contains M.cursor.currentStepId.value := by
      unfold Dict.contains
      rw [← own, declared]
      rfl
    have done := shut inPlan
    change M.cursor.currentStepId.value ∈ M.completedSteps at done
    rw [← own] at done
    exact absurd done open_

/-- The process and its file are shut, and nothing more was performed. -/
structure Closed [Sha256] (plan : PlanPayload) (log : List (String × Bool)) (m : Machine) : Prop where
  process : ∀ M, m.process = some M → OnPlan plan M ∧ Shut plan M.state
  durable : ∃ s, m.durable = some s ∧ Shut plan s
  performed : m.performed = log

variable [Sha256] {plan : PlanPayload} {log : List (String × Bool)}

theorem step_closed {m : Machine} (closed : Closed plan log m) {a : Action} (stays : Stays plan a) :
    Closed plan log (m.step a) := by
  cases a with
  | execute call env stopsAfter =>
    cases running : m.process with
    | none =>
      unfold Machine.step
      rw [running]
      exact closed
    | some N =>
      obtain ⟨on, shut⟩ := closed.process N running
      rw [← on.same] at shut
      obtain ⟨e, refused⟩ := shut_refuses shut env call
      have all : (executeStep call env).Throughout (fun t => t = m.world N) (m.world N) :=
        executeStep_refused (w := m.world N) refused rfl
      obtain ⟨t, rfl, durable, performed, same⟩ := after_throughout all stopsAfter
      unfold Machine.step
      rw [running]
      change Closed plan log (Machine.after (m.world N) (executeStep call env) stopsAfter)
      refine ⟨fun M later => ?_, ?_, ?_⟩
      · rw [same M later]
        exact closed.process N running
      · rw [durable]
        exact closed.durable
      · rw [performed]
        exact closed.performed
  | resumeWait env stopsAfter => exact absurd stays id
  | switchPlan given currentStepId env stopsAfter => exact absurd stays id
  | restart given cursor context =>
    have same : given = plan := stays
    subst same
    obtain ⟨s, stored, shut⟩ := closed.durable
    refine ⟨fun M later => ?_, closed.durable, closed.performed⟩
    change (start given cursor true context m.durable).toOption = some M at later
    cases started : start given cursor true context m.durable with
    | error e =>
      rw [started] at later
      cases later
    | ok N =>
      rw [started] at later
      cases later
      obtain ⟨on, restored⟩ := start_ok started
      rw [restored s stored]
      exact ⟨on, shut⟩

theorem run_closed {m : Machine} (closed : Closed plan log m) {actions : List Action}
    (stays : ∀ a ∈ actions, Stays plan a) : Closed plan log (Runs.run Machine.step m actions) :=
  @Runs.run_invariant _ _ Machine.step (fun _ a => Stays plan a) (Closed plan log)
    (fun _ _ closed stays => step_closed closed stays) _ _ closed (Runs.along_of_mem stays)

/-- In every run of one plan, over an edge the durable cursor becomes the advanced
cursor exactly when the edge is a retry to a step; and after a terminal call that
reopens no step, no call succeeds and nothing is performed, on this executor or on one
restarted from its file. -/
theorem calls_follow_plan {actions : List Action} (stays : ∀ a ∈ actions, Stays plan a)
    {M : ClosedLoopRuntimeExecutor} (running : (Runs.run Machine.step {} actions).process = some M)
    {call : StepCall} {env : Environment} {result : StepResult} {final : World}
    (returned : (executeStep call env).run ((Runs.run Machine.step {} actions).world M) =
      (.ok result, final)) :
    (∀ edge, planEdge M call = .ok edge →
      ((∃ c, M.cursor.advance edge = .ok c ∧ final.durable.map (·.cursor) = some c) ↔
        edge.kind = .retry ∧ edge.target.value ∉ nonStepTargets)) ∧
    (result.isTerminal = true → ¬ Reopens M call →
      ∀ later, (∀ a ∈ later, Stays plan a) →
        let m := Runs.run Machine.step (Runs.run Machine.step {} actions)
          (.execute call env none :: later)
        m.performed = final.performed ∧
          ∀ N, m.process = some N → ∀ call' env', ∃ e,
            (executeStep call' env').run (m.world N) = (.error e, m.world N)) := by
  have on := run_onPlan (m := {}) (fun M absent => by cases absent) stays M running
  generalize reached : Runs.run Machine.step {} actions = m at running returned ⊢
  obtain ⟨p, t, prepared, ran, rfl, rfl⟩ := executeStep_ok returned
  change prepare M env call = .ok p at prepared
  have stored : (World.stored { t with memory := M.advanced call p } (M.advanced call p) false).durable =
      some (M.advanced call p).state := if_pos on.stored
  constructor
  · intro edge found
    obtain ⟨unmarked, d, chosen, target, -⟩ := prepared_edge on prepared found
    obtain ⟨step, atRunning, own, -⟩ := prepare_ok prepared
    have agree := advance_iff (planEdge_source own found) atRunning unmarked chosen target
    rw [← agree]
    change (∃ c, M.cursor.advance edge = .ok c ∧
      (World.stored { t with memory := M.advanced call p } (M.advanced call p) false).durable.map
        (·.cursor) = some c) ↔ _
    rw [stored]
    constructor
    · rintro ⟨c, advanced, same⟩
      cases same
      exact advanced
    · intro advanced
      exact ⟨_, advanced, rfl⟩
  · intro terminal closed later stays
    have shut := terminal_shuts prepared (of_decide_eq_true terminal) closed
    rw [on.same] at shut
    have first : m.step (.execute call env none) =
        ⟨some (M.advanced call p), some (M.advanced call p).state, t.performed⟩ := by
      unfold Machine.step
      rw [running]
      change Machine.after (m.world M) (executeStep call env) none = _
      unfold Machine.after
      rw [returned]
      exact congrArg (Machine.mk _ · _) stored
    have start : Closed plan t.performed (m.step (.execute call env none)) := by
      rw [first]
      refine ⟨fun N same => ?_, ⟨_, rfl, shut⟩, rfl⟩
      cases same
      exact ⟨⟨on.same, on.model, on.stored⟩, shut⟩
    have ended := run_closed start stays
    refine ⟨ended.performed, fun N after call' env' => ?_⟩
    obtain ⟨onN, shutN⟩ := ended.process N after
    rw [← onN.same] at shutN
    obtain ⟨e, refused⟩ := shut_refuses shutN env' call'
    exact ⟨e, executeStep_refused_run refused⟩

end Terminal

/-! ## Two steps -/

section TwoSteps

@[reducible] def constantHash : Sha256 := ⟨fun _ => 0⟩

@[reducible] def unchangedCase : TextCase := ⟨id⟩

/-- Step `a` leads to step `b`, which is terminal. -/
def twoSteps (kind : String) : PlanPayload where
  runtimePlanRef := some "plan"
  revision := some "r1"
  runtimePlanDigest := some (Digest.ofNat 0).value
  steps := { entries := [
    ("a", { stepId := some "a", semanticAction := some "first", edges := { entries := [
      ("done", { outcome := some "done", target := some "b", kind := some kind })] } }),
    ("b", { stepId := some "b", semanticAction := some "second", terminal := true })] }

theorem run_solid : strip "run" ≠ "" := by decide
theorem first_solid : strip "a" ≠ "" := by decide
theorem one_positive : 1 ≤ 1 := by decide

def atFirst : RunCursor where
  runId := ⟨"run", run_solid⟩
  runtimePlanRef := ⟨"plan", by decide⟩
  runtimePlanDigest := RunCursor.digestText (Digest.ofNat 0)
  planRevision := ⟨"r1", by decide⟩
  currentStepId := ⟨"a", first_solid⟩
  positive := one_positive

def firstCall : StepCall := { stepId := "a", outcome := some "done" }

def lastCall : StepCall := { stepId := "b" }

/-- The machine after the start of a process on the plan and more actions. -/
def reached (kind : String) (more : List Action) : Machine :=
  @Runs.run _ _ (@Machine.step unchangedCase constantHash) {} (.restart (twoSteps kind) atFirst [] :: more)

/-- A call on the process of a machine. -/
def called (m : Machine) (call : StepCall) : Option (Except Raised StepResult × World) :=
  m.process.map fun M => (@executeStep unchangedCase call {}).run (m.world M)

theorem ok_of_isOk {ε α : Type} {x : Except ε α} (ok : x.isOk = true) : ∃ a, x = .ok a := by
  cases x with
  | error e => cases ok
  | ok a => exact ⟨a, rfl⟩

/-- What a call on the process of a machine did, from a check of what it computes. -/
theorem called_ok {m : Machine} {call : StepCall}
    (checked : ((called m call).map fun answer => answer.1.isOk) = some true) :
    ∃ M result final, m.process = some M ∧
      (@executeStep unchangedCase call {}).run (m.world M) = (.ok result, final) := by
  unfold called at checked
  cases running : m.process with
  | none =>
    rw [running] at checked
    cases checked
  | some M =>
    rw [running] at checked
    obtain ⟨result, ok⟩ := ok_of_isOk (Option.some.inj checked)
    exact ⟨M, result, _, rfl, Prod.ext ok rfl⟩

set_option maxRecDepth 4000 in
/-- Over a continue edge the second step is the first attempt of the cursor model and
the second of the executor; a terminal edge to a step leaves that step to be executed. -/
theorem first_step_counted_twice :
    ((called (reached "continue" []) firstCall).bind fun answer =>
        answer.2.durable.map fun s => (s.cursor.currentStepId.value, s.cursor.attempt)) =
      some ("b", 2) ∧
    ((reached "continue" []).process.bind fun M =>
        (planEdge M firstCall >>= M.cursor.advance).toOption.map fun c =>
          (c.currentStepId.value, c.attempt)) = some ("b", 1) ∧
    ((called (reached "terminal" []) firstCall).bind fun answer =>
        answer.1.toOption.map (·.isTerminal)) = some true ∧
    ((called (reached "terminal" [.execute firstCall {} none]) lastCall).map fun answer =>
        answer.1.isOk) = some true := by
  decide

theorem retried_edge : ∀ M, (reached "retry" []).process = some M →
    ∃ edge, planEdge M firstCall = .ok edge ∧ edge.kind = .retry ∧ edge.target.value ∉ nonStepTargets := by
  intro M running
  have checked : ((reached "retry" []).process.map fun M =>
      (planEdge M firstCall).toOption.any fun edge =>
        edge.kind = .retry ∧ edge.target.value ∉ nonStepTargets) = some true := by
    decide
  rw [running] at checked
  have checked := Option.some.inj checked
  dsimp only at checked
  cases found : planEdge M firstCall with
  | error e =>
    rw [found] at checked
    cases checked
  | ok edge =>
    rw [found] at checked
    exact ⟨edge, rfl, of_decide_eq_true checked⟩

/-- A retry to the second step: the executor and the cursor model agree. -/
theorem calls_follow_plan_retry : ∃ M result final edge c,
    (reached "retry" []).process = some M ∧
      (@executeStep unchangedCase firstCall {}).run ((reached "retry" []).world M) =
        (.ok result, final) ∧
      planEdge M firstCall = .ok edge ∧ M.cursor.advance edge = .ok c ∧
      final.durable.map (·.cursor) = some c := by
  have stays : ∀ a ∈ [.restart (twoSteps "retry") atFirst []], Stays (twoSteps "retry") a := by
    intro a member
    rw [List.mem_singleton.mp member]
    rfl
  obtain ⟨M, result, final, running, returned⟩ :=
    @called_ok (reached "retry" []) firstCall (by decide)
  obtain ⟨edge, found, retry⟩ := retried_edge M running
  obtain ⟨c, advanced, durable⟩ :=
    ((@calls_follow_plan unchangedCase constantHash _ _ stays _ running _ _ _ _ returned).1
      edge found).mpr retry
  exact ⟨M, result, final, edge, c, running, returned, found, advanced, durable⟩

end TwoSteps

end DwSuperApps.Guarantees.PlanCursor
