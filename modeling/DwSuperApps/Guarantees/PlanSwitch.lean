import DwSuperApps.Guarantees.OwnStep
import DwSuperApps.Guarantees.PlanRoundTrip

/-!
# An executor after a switch

`switch_plan` replaces the plan, the cursor and the record of an executor, but not the
plan object its constructor made, which only the authority check reads. So the
executor and a fresh one of the new plan differ in that object alone: a call is
answered alike by both unless it comes to the authority check with an effectful action
whose semantic action one of the two plans permits and the other does not
(`prepare_alike`), and a sequence of calls is answered alike exactly where no call of
it does (`observed_alike`).
-/
namespace DwSuperApps.Guarantees.PlanSwitch

open DwSuperApps.Lib DwSuperApps.Lib.Checked DwSuperApps.Lib.Runs
open DwSuperApps.Lib.Programs (Prog)
open DwSuperApps.Lib.Programs.Prog (run_bind run_operation run_bind_ok run_lift_ok
  run_observe_returned run_lift_returned run_bind_returned)
open DwSuperApps.Source.Plans DwSuperApps.Source.ClosedLoop
open DwSuperApps.Guarantees.PlanCursor DwSuperApps.Guarantees.StepActivations
open DwSuperApps.Guarantees.OwnStep (prepareStep prepare_eq)
open DwSuperApps.Guarantees.PlanRoundTrip (fromDict_toPayload)

/-! ## The authority check -/

/-- The authority requirements of a plan let a semantic action pass. -/
def Permits (plan : RuntimePlan) (semanticAction : String) : Prop :=
  let required := ((plan.authorityRequirements.getD []).filter (·.required)).map (·.action)
  required = [] ∨ semanticAction ∈ required

instance (plan : RuntimePlan) (semanticAction : String) : Decidable (Permits plan semanticAction) := by
  unfold Permits
  infer_instance

/-- `_revalidate_authority` without the requirements of the plan. -/
def approval (M : ClosedLoopRuntimeExecutor) (env : Environment) (action : String) :
    Except Raised Bool :=
  match env.authorityChecker with
  | none => .ok false
  | some checker =>
    if requiredContext.any fun key => (Json.member M.authorityContext key).isNone then .ok false
    else if boundContext.any fun key => truth (expectedContext M.plan key) &&
        ¬ Json.pyEq (Json.get M.authorityContext key) (expectedContext M.plan key) then .ok false
    else (checker (Json.setMember "action" (.str action) M.authorityContext)).map (·.approves)

theorem revalidateAuthority_eq (M : ClosedLoopRuntimeExecutor) (env : Environment)
    (action semanticAction : String) : revalidateAuthority M env action semanticAction =
      if Permits M.planModel semanticAction then approval M env action else .ok false := by
  by_cases permitted : Permits M.planModel semanticAction
  · have passes : ¬ (((M.planModel.authorityRequirements.getD []).filter (·.required)).map (·.action) ≠ [] ∧
        semanticAction ∉ ((M.planModel.authorityRequirements.getD []).filter (·.required)).map (·.action)) :=
      fun ⟨required, outside⟩ => permitted.elim required outside
    rw [if_pos permitted]
    unfold revalidateAuthority approval
    cases env.authorityChecker with
    | none => rfl
    | some checker =>
      dsimp only
      rw [if_neg passes]
  · have fails : ((M.planModel.authorityRequirements.getD []).filter (·.required)).map (·.action) ≠ [] ∧
        semanticAction ∉ ((M.planModel.authorityRequirements.getD []).filter (·.required)).map (·.action) :=
      not_or.mp permitted
    rw [if_neg permitted]
    unfold revalidateAuthority
    cases env.authorityChecker with
    | none => rfl
    | some checker =>
      dsimp only
      rw [if_pos fails, ite_self, ite_self]

/-! ## One call -/

def authorityRequired : Raised := closedLoopError
  "AUTHORITY_REQUIRED: exact authority revalidation failed; no effect or cursor advance"

section Preparing
variable [TextCase] {M : ClosedLoopRuntimeExecutor} {env : Environment} {call : StepCall}
  {model : RuntimePlan}

/-- What `execute_step` works out from the step before it asks for authority: the
prepared step and its semantic action. -/
def askedStep (env : Environment) (call : StepCall) (step : StepPayload) :
    Except Raised (Prepared × String) := do
  let capabilities ← stepCapabilities env step
  ensure (capabilities.allowedInputs = [] ∨ unknownInputs call capabilities.allowedInputs = [])
    (closedLoopError
      s!"payload inputs not allowed for {call.stepId}: {Json.rawRepr (RuntimePlanStep.texts (unknownInputs call capabilities.allowedInputs))}")
  let action ← selectAction call capabilities.allowedActions
  let selected ← routeOf call step
  let semanticAction := (step.semanticAction.filter (· ≠ "")).getD call.stepId
  ensure (strip semanticAction ≠ "")
    (closedLoopError "SEMANTIC_ACTION_REQUIRED: step binding is incomplete")
  ensure (action ≠ "" ∨ (call.effect.isNone ∧ call.sideEffect.isNone))
    (closedLoopError "ACTION_REQUIRED: effect requires an explicitly authorized action")
  return ({ selected with
    action
    effectful := isEffectful action
    evidenceRefs := capabilities.evidenceRefs }, semanticAction)

/-- The call comes to the authority check with what is asked. -/
def asked (M : ClosedLoopRuntimeExecutor) (env : Environment) (call : StepCall) :
    Except Raised (Prepared × String) :=
  checkCall M call >>= fun _ => currentStep M call >>= askedStep env call

/-- The authority check. -/
def answered (M : ClosedLoopRuntimeExecutor) (env : Environment) (request : Prepared × String) :
    Except Raised Prepared := do
  let authorized ← authorize M env request.1.action request.2
  ensure authorized authorityRequired
  return request.1

theorem prepareStep_eq (M : ClosedLoopRuntimeExecutor) (env : Environment) (call : StepCall)
    (step : StepPayload) : prepareStep M env call step = askedStep env call step >>= answered M env := by
  unfold prepareStep askedStep
  simp only [bind_assoc]
  rfl

theorem prepare_asks (M : ClosedLoopRuntimeExecutor) (env : Environment) (call : StepCall) :
    prepare M env call = asked M env call >>= answered M env := by
  rw [prepare_eq, asked, bind_assoc]
  refine congrArg (checkCall M call >>= ·) (funext fun _ => ?_)
  rw [bind_assoc]
  exact congrArg (currentStep M call >>= ·) (funext (prepareStep_eq M env call))

/-- What the rest of the authority check comes to. -/
def granted (M : ClosedLoopRuntimeExecutor) (env : Environment) (action : String) :
    Except Raised Unit :=
  approval M env action >>= fun authorized => ensure authorized authorityRequired

omit [TextCase] in
theorem answered_eq (M : ClosedLoopRuntimeExecutor) (env : Environment)
    (request : Prepared × String) : answered M env request =
      if isEffectful request.1.action then
        if Permits M.planModel request.2 then
          granted M env request.1.action >>= fun _ => .ok request.1
        else .error authorityRequired
      else .ok request.1 := by
  unfold answered authorize granted
  rw [revalidateAuthority_eq]
  split
  · split
    · rw [bind_assoc]
      rfl
    · rfl
  · rfl

/-- The executor with another plan object. -/
def remodelled (M : ClosedLoopRuntimeExecutor) (model : RuntimePlan) : ClosedLoopRuntimeExecutor :=
  { M with planModel := model }

/-- The call comes to the authority check with an effectful action whose semantic
action one of the two plans permits and the other does not, and the rest of the check
does not refuse it. -/
def Disputed (model : RuntimePlan) (M : ClosedLoopRuntimeExecutor) (env : Environment)
    (call : StepCall) : Prop :=
  ∃ request, asked M env call = .ok request ∧ isEffectful request.1.action = true ∧
    ¬ (Permits M.planModel request.2 ↔ Permits model request.2) ∧
    granted M env request.1.action ≠ .error authorityRequired

omit [TextCase] in
theorem granted_error {x : Except Raised Unit} {p : Prepared} :
    (x >>= fun _ => Except.ok p) = .error authorityRequired ↔ x = .error authorityRequired := by
  cases x with
  | error e =>
    rw [error_bind, Except.error.injEq, Except.error.injEq]
  | ok u =>
    rw [ok_bind]
    exact ⟨fun same => (nomatch same), fun same => (nomatch same)⟩

/-- The two answers to a disputed call: one is the refusal and the other is not. -/
theorem prepare_disputed (disputed : Disputed model M env call) :
    (prepare M env call = .error authorityRequired ∧
        prepare (remodelled M model) env call ≠ .error authorityRequired) ∨
      (prepare M env call ≠ .error authorityRequired ∧
        prepare (remodelled M model) env call = .error authorityRequired) := by
  obtain ⟨request, came, effectful, differ, passes⟩ := disputed
  have also : asked (remodelled M model) env call = .ok request := came
  rw [prepare_asks, prepare_asks, came, also, ok_bind, ok_bind, answered_eq, answered_eq,
    if_pos effectful, if_pos effectful]
  have kept : ¬ (granted M env request.1.action >>= fun _ => Except.ok request.1) =
      .error authorityRequired := fun refused => passes (granted_error.mp refused)
  by_cases old : Permits M.planModel request.2
  · have new : ¬ Permits model request.2 := fun new => differ ⟨fun _ => new, fun _ => old⟩
    rw [if_pos old, if_neg (show ¬ Permits (remodelled M model).planModel request.2 from new)]
    exact .inr ⟨kept, rfl⟩
  · have new : Permits model request.2 := by
      by_contra new
      exact differ ⟨fun held => absurd held old, fun held => absurd held new⟩
    rw [if_neg old, if_pos (show Permits (remodelled M model).planModel request.2 from new)]
    exact .inl ⟨rfl, kept⟩

/-- A call is prepared alike with either plan object exactly where it is not
disputed. -/
theorem prepare_alike :
    prepare (remodelled M model) env call = prepare M env call ↔ ¬ Disputed model M env call := by
  constructor
  · intro same disputed
    rcases prepare_disputed disputed with ⟨refused, other⟩ | ⟨other, refused⟩
    · exact other (same.trans refused)
    · exact other (same.symm.trans refused)
  · intro undisputed
    rw [prepare_asks, prepare_asks]
    change asked M env call >>= _ = _
    cases came : asked M env call with
    | error e => rfl
    | ok request =>
      rw [ok_bind, ok_bind, answered_eq, answered_eq]
      by_cases effectful : isEffectful request.1.action = true
      · rw [if_pos effectful, if_pos effectful]
        change (if Permits model request.2 then granted M env request.1.action >>= _ else _) = _
        by_cases alike : Permits M.planModel request.2 ↔ Permits model request.2
        · simp only [alike]
        · have refused : granted M env request.1.action = .error authorityRequired := by
            by_contra passes
            exact undisputed ⟨request, came, effectful, alike, passes⟩
          rw [refused, error_bind, ite_self, ite_self]
      · rw [if_neg effectful, if_neg effectful]

end Preparing

/-! ## Calls as programs -/

/-- The world with another plan object in memory. -/
def withModel (w : World) (model : RuntimePlan) : World :=
  { w with memory := remodelled w.memory model }

section Running
variable {w : World} {env : Environment} {call : StepCall} {model : RuntimePlan}

theorem performGiven_memory (stepId : String) (side : Bool) (given : Option (Except Raised Unit))
    (w : World) (M : ClosedLoopRuntimeExecutor) :
    (performGiven stepId side given).run { w with memory := M } =
      (((performGiven stepId side given).run w).1,
        { ((performGiven stepId side given).run w).2 with memory := M }) := by
  cases given <;> rfl

/-- The effects of a call do not see the executor. -/
theorem performEffects_memory (call : StepCall) (w : World) (M : ClosedLoopRuntimeExecutor) :
    (performEffects call).run { w with memory := M } =
      (((performEffects call).run w).1, { ((performEffects call).run w).2 with memory := M }) := by
  unfold performEffects
  rw [run_bind, run_bind, performGiven_memory]
  cases ran : (performGiven call.stepId false
      (call.effect.map fun effect => effect call.payload)).run w with
  | mk answer t =>
    cases answer with
    | error e => rfl
    | ok u => exact performGiven_memory call.stepId true call.sideEffect t M

theorem performEffects_model (call : StepCall) (w : World) :
    (performEffects call).run (withModel w model) =
      (((performEffects call).run w).1, withModel ((performEffects call).run w).2 model) := by
  refine (performEffects_memory call w (remodelled w.memory model)).trans ?_
  unfold withModel
  rw [(@performEffects_frame call w).1]

/-- A put stores what does not depend on the plan object. -/
theorem persist_model (M : ClosedLoopRuntimeExecutor) (rebinds : Bool) (w : World) :
    (persist (remodelled M model) env rebinds).run (withModel w model) =
      (((persist M env rebinds).run w).1, withModel ((persist M env rebinds).run w).2 model) := by
  unfold persist
  have same : (remodelled M model).hasStore = M.hasStore := rfl
  rw [run_operation, run_operation, same]
  cases if M.hasStore then env.put else .ok () <;> rfl

/-- Changes of the executor that leave its plan object alone are made alike. -/
theorem updated_model {α : Type} (M : ClosedLoopRuntimeExecutor) (w : World) (result : α) :
    ((setMemory (remodelled M model) >>= fun _ =>
        persist (remodelled M model) env false >>= fun _ => pure result).run (withModel w model)) =
      (((setMemory M >>= fun _ => persist M env false >>= fun _ => pure result).run w).1,
        withModel ((setMemory M >>= fun _ =>
          persist M env false >>= fun _ => pure result).run w).2 model) := by
  rw [run_bind_ok (setMemory_run _ _), run_bind_ok (setMemory_run _ _), run_bind, run_bind]
  have stored : (persist (remodelled M model) env false).run
      { withModel w model with memory := remodelled M model } =
        (((persist M env false).run { w with memory := M }).1,
          withModel ((persist M env false).run { w with memory := M }).2 model) :=
    persist_model M false { w with memory := M }
  rw [stored]
  cases (persist M env false).run { w with memory := M } with
  | mk answer t => cases answer <;> rfl

theorem resumeWait_model (w : World) : (resumeWait env).run (withModel w model) =
    (((resumeWait env).run w).1, withModel ((resumeWait env).run w).2 model) := by
  change Prog.run (.done w.memory.cursor.resume >>= _) _ =
    ((Prog.run (.done w.memory.cursor.resume >>= _) w).1,
      withModel (Prog.run (.done w.memory.cursor.resume >>= _) w).2 model)
  cases resumed : w.memory.cursor.resume with
  | error e => rfl
  | ok cursor => exact updated_model { w.memory with cursor } w cursor

variable [TextCase]

/-- A call that is prepared alike is executed alike. -/
theorem executeStep_model
    (same : prepare (remodelled w.memory model) env call = prepare w.memory env call) :
    (executeStep call env).run (withModel w model) =
      (((executeStep call env).run w).1, withModel ((executeStep call env).run w).2 model) := by
  change Prog.run (.done (prepare (remodelled w.memory model) env call) >>= _) _ =
    ((Prog.run (.done (prepare w.memory env call) >>= _) w).1,
      withModel (Prog.run (.done (prepare w.memory env call) >>= _) w).2 model)
  rw [same]
  cases prepare w.memory env call with
  | error e => rfl
  | ok p =>
    rw [run_lift_ok rfl, run_lift_ok rfl, run_bind, run_bind]
    dsimp only [id]
    rw [performEffects_model]
    cases (performEffects call).run w with
    | mk answer t =>
      cases answer with
      | error e => rfl
      | ok u => exact updated_model (w.memory.advanced call p) t _

omit [TextCase] in
theorem performEffects_failed {e : Raised} {t : World}
    (failed : (performEffects call).run w = (.error e, t)) : t.performed ≠ w.performed := by
  have longer (l : List (String × Bool)) (entry : String × Bool) : l ++ [entry] ≠ l := by simp
  unfold performEffects at failed
  cases effect : call.effect with
  | none =>
    cases side : call.sideEffect with
    | none =>
      rw [effect, side] at failed
      cases failed
    | some answer =>
      rw [effect, side] at failed
      cases failed
      exact longer _ _
  | some given =>
    cases performed : given call.payload with
    | error raised =>
      rw [effect, Option.map_some, performed] at failed
      cases failed
      exact longer _ _
    | ok u =>
      rw [effect, Option.map_some, performed] at failed
      cases side : call.sideEffect with
      | none =>
        rw [side] at failed
        cases failed
      | some answer =>
        rw [side] at failed
        cases failed
        intro same
        have both : w.performed ++ [(call.stepId, false)] ++ [(call.stepId, true)] = w.performed := same
        simp at both

/-- A prepared call performs something or moves the executor. -/
theorem executeStep_moves {p : Prepared} (prepared : prepare w.memory env call = .ok p) :
    ((executeStep call env).run w).2.performed ≠ w.performed ∨
      ((executeStep call env).run w).2.memory.state ≠ w.memory.state := by
  change (Prog.run (.done (prepare w.memory env call) >>= _) w).2.performed ≠ _ ∨
    (Prog.run (.done (prepare w.memory env call) >>= _) w).2.memory.state ≠ _
  rw [run_lift_ok prepared, run_bind]
  cases ran : (performEffects call).run w with
  | mk answer t =>
    cases answer with
    | error e => exact .inl (performEffects_failed ran)
    | ok u =>
      right
      dsimp only
      rw [run_bind_ok (setMemory_run _ t), run_bind]
      unfold persist
      rw [run_operation]
      have longer : (w.memory.advanced call p).state ≠ w.memory.state := by
        intro same
        have steps : w.memory.completedSteps ++ [call.stepId] = w.memory.completedSteps :=
          congrArg RuntimeExecutionState.completedSteps same
        simp at steps
      cases (if (w.memory.advanced call p).hasStore then env.put else .ok ()) with
      | error e => exact longer
      | ok u => exact longer

end Running

/-! ## Sequences of calls -/

inductive FurtherCall where
  | execute (call : StepCall) (env : Environment)
  | resumeWait (env : Environment)

inductive Answer where
  | stepped (result : Except Raised StepResult)
  | resumed (result : Except Raised RunCursor)

/-- What can be seen of a call: its answer, the state it leaves, in memory and stored,
and what was performed. -/
structure Observation where
  answer : Answer
  state : RuntimeExecutionState
  durable : Option RuntimeExecutionState
  performed : List (String × Bool)

section Sequences
variable [TextCase]

def applied (w : World) : FurtherCall → Answer × World
  | .execute call env =>
    let ran := (executeStep call env).run w
    (.stepped ran.1, ran.2)
  | .resumeWait env =>
    let ran := (resumeWait env).run w
    (.resumed ran.1, ran.2)

def after (w : World) (call : FurtherCall) : World := (applied w call).2

def observe (w : World) (call : FurtherCall) : Observation where
  answer := (applied w call).1
  state := (after w call).memory.state
  durable := (after w call).durable
  performed := (after w call).performed

/-- What can be seen of calls made one after another. -/
def observed : World → List FurtherCall → List Observation
  | _, [] => []
  | w, call :: rest => observe w call :: observed (after w call) rest

def Undisputed (model : RuntimePlan) (w : World) : FurtherCall → Prop
  | .execute call env => ¬ Disputed model w.memory env call
  | .resumeWait _ => True

variable {w u v : World} {model : RuntimePlan}

theorem applied_alike {call : FurtherCall} (undisputed : Undisputed model w call) :
    applied (withModel w model) call = ((applied w call).1, withModel (applied w call).2 model) := by
  cases call with
  | execute call env =>
    unfold applied
    dsimp only
    rw [executeStep_model (prepare_alike.mpr undisputed)]
  | resumeWait env =>
    unfold applied
    dsimp only
    rw [resumeWait_model]

/-- A refusal for want of authority is seen. -/
theorem observe_refused {env : Environment} {call : StepCall} (performed : u.performed = v.performed)
    (state : u.memory.state = v.memory.state)
    (refused : prepare u.memory env call = .error authorityRequired)
    (other : prepare v.memory env call ≠ .error authorityRequired) :
    observe u (.execute call env) ≠ observe v (.execute call env) := by
  intro same
  have ofU : (executeStep call env).run u = (.error authorityRequired, u) :=
    executeStep_refused_run refused
  have performedAlike : ((executeStep call env).run u).2.performed =
      ((executeStep call env).run v).2.performed := congrArg Observation.performed same
  have stateAlike : ((executeStep call env).run u).2.memory.state =
      ((executeStep call env).run v).2.memory.state := congrArg Observation.state same
  rw [ofU] at performedAlike stateAlike
  cases prepared : prepare v.memory env call with
  | error e =>
    have answer : Answer.stepped ((executeStep call env).run u).1 =
        .stepped ((executeStep call env).run v).1 := congrArg Observation.answer same
    rw [ofU, executeStep_refused_run prepared] at answer
    cases answer
    exact other prepared
  | ok p =>
    rcases executeStep_moves prepared with moved | moved
    · exact moved (performedAlike.symm.trans performed)
    · exact moved (stateAlike.symm.trans state)

theorem observe_alike {call : FurtherCall} :
    observe (withModel w model) call = observe w call ↔ Undisputed model w call := by
  constructor
  · intro same
    cases call with
    | resumeWait env => trivial
    | execute call env =>
      intro disputed
      rcases prepare_disputed disputed with ⟨refused, other⟩ | ⟨other, refused⟩
      · exact @observe_refused _ w (withModel w model) _ _ rfl rfl refused other same.symm
      · exact @observe_refused _ (withModel w model) w _ _ rfl rfl refused other same
  · intro undisputed
    unfold observe after
    rw [applied_alike undisputed]
    rfl

/-- A sequence of calls is seen alike with either plan object exactly where none of
its calls is disputed when it is made. -/
theorem observed_alike {calls : List FurtherCall} :
    observed (withModel w model) calls = observed w calls ↔ Along after (Undisputed model) w calls := by
  induction calls generalizing w with
  | nil => exact ⟨fun _ => trivial, fun _ => rfl⟩
  | cons call rest ih =>
    rw [observed, observed, List.cons.injEq, observe_alike]
    refine and_congr_right fun undisputed => ?_
    have next : after (withModel w model) call = withModel (after w call) model :=
      congrArg Prod.snd (applied_alike undisputed)
    rw [next]
    exact ih

end Sequences

/-! ## The switch -/

section Switches
variable [Sha256]

/-- A switch that returns bound the executor to the plan and stored it. -/
theorem switchPlan_ok {w w' : World} {plan : NewPlan} {currentStepId : Option String}
    {env : Environment} {cursor : RunCursor} {Q : RuntimePlan}
    (switches : (switchPlan plan currentStepId env).run w = (.ok cursor, w'))
    (made : plan.toModel = .ok Q) :
    w.memory.cursor.switchTo Q currentStepId = .ok cursor ∧
      w' = World.stored { w with memory := w.memory.rebound Q cursor }
        (w.memory.rebound Q cursor) true := by
  obtain ⟨M, seen, switches⟩ := run_observe_returned.mp switches
  cases seen
  obtain ⟨model, again, switches⟩ := run_lift_returned.mp switches
  cases made.symm.trans again
  obtain ⟨cursor', moved, switches⟩ := run_lift_returned.mp switches
  obtain ⟨_, t, set, switches⟩ := run_bind_returned.mp switches
  cases set
  obtain ⟨_, t, stored, returned⟩ := run_bind_returned.mp switches
  cases returned
  exact ⟨moved, persist_ok stored⟩

/-- A cursor switched to a plan is valid for it. -/
theorem switchTo_valid {c d : RunCursor} {Q : RuntimePlan} {currentStepId : Option String}
    (switched : c.switchTo Q currentStepId = .ok d) : d.validateAgainst Q = .ok () := by
  unfold RunCursor.switchTo at switched
  obtain ⟨_, _, switched⟩ := bind_ok.mp switched
  obtain ⟨s, found, switched⟩ := bind_ok.mp switched
  cases switched
  have own : Q.step s.stepId.value = .ok s := by
    unfold RuntimePlan.step at found ⊢
    cases held : Q.steps.get? ((currentStepId.filter (· ≠ "")).getD Q.firstStep) with
    | none =>
      rw [held] at found
      cases found
    | some s' =>
      rw [held] at found
      cases found
      rw [Q.keyed _ _ held, held]
  unfold RunCursor.validateAgainst
  refine bind_ok.mpr ⟨(), ensure_of rfl _, bind_ok.mpr ⟨(), ensure_of rfl _,
    bind_ok.mpr ⟨(), ensure_of rfl _, ?_⟩⟩⟩
  dsimp only
  split
  · rfl
  · rw [own]
    rfl

/-- A fresh executor of the new plan, its cursor and what the switch stored is the
switched one with the plan object of the new plan. -/
theorem start_switched {M : ClosedLoopRuntimeExecutor} {Q : RuntimePlan} {cursor : RunCursor}
    {currentStepId : Option String} {durable : Option RuntimeExecutionState}
    (targets : RuntimePlan.checkTargets Q.steps = .ok ())
    (moved : M.cursor.switchTo Q currentStepId = .ok cursor)
    (named : M.hasStore = true → validRunId cursor.runId.value)
    (stored : M.hasStore = true → durable = some (M.rebound Q cursor).state) :
    start Q.toPayload cursor M.hasStore M.authorityContext durable =
      .ok (remodelled (M.rebound Q cursor) Q) := by
  have made : fresh Q.toPayload cursor M.hasStore M.authorityContext =
      .ok (remodelled (M.rebound Q cursor) Q) := by
    unfold fresh planObject
    rw [switchTo_bound moved, ok_bind, fromDict_toPayload targets]
    dsimp only
    rw [ok_bind]
    exact bind_ok.mpr ⟨(), ensure_of rfl _, rfl⟩
  unfold start
  rw [made, ok_bind]
  split
  · next hasStore =>
    rw [ensure_of (named hasStore), ok_bind, stored hasStore]
    change restore (remodelled (M.rebound Q cursor) Q) (M.rebound Q cursor).state = _
    unfold restore
    exact bind_ok.mpr ⟨(), ensure_of rfl _, bind_ok.mpr ⟨(), ensure_of ⟨rfl, rfl, rfl⟩ _,
      bind_ok.mpr ⟨(), switchTo_valid moved, rfl⟩⟩⟩
  · rfl

end Switches

/-! ### Two plans with other requirements -/

section TwoPlans

theorem deploy_alone : (([("a", {
    stepId := some "a"
    semanticAction := some "deploy"
    terminal := true
    allowedActions := ["deploy"] })] : List (String × StepPayload)).map Prod.fst).Nodup := by simp

/-- A plan of one step with one action. -/
def deployPlan (revision : String) (requirements : List AuthorityRequirement) : PlanPayload where
  runtimePlanRef := some "plan"
  revision := some revision
  runtimePlanDigest := some (Digest.ofNat 0).value
  steps := { entries := [("a", {
    stepId := some "a"
    semanticAction := some "deploy"
    terminal := true
    allowedActions := ["deploy"] })], distinct := deploy_alone }
  authorityRequirements := some requirements

/-- The old plan permits no semantic action but `approve`. -/
def oldPlan : PlanPayload :=
  deployPlan "r1" [{ action := "approve", gate := "release", required := true }]

def newPlan : PlanPayload := deployPlan "r2" []

def context : List (String × Json) := requiredContext.map fun key => (key, .str key)

theorem ok_of_isSome {ε α : Type} {x : Except ε α} (held : x.toOption.isSome = true) :
    x = .ok (x.toOption.get held) := by
  cases x with
  | error e => cases held
  | ok a => rfl

def newModel : RuntimePlan :=
  (@RuntimePlan.fromDict constantHash newPlan).toOption.get (by decide)

def oldExecutor : ClosedLoopRuntimeExecutor :=
  (@start constantHash oldPlan atFirst true context none).toOption.get (by decide)

def beforeSwitch : World := ⟨oldExecutor, none, []⟩

def switching : Except Raised RunCursor × World :=
  (@switchPlan constantHash (.payload newPlan) none {}).run beforeSwitch

def switchedCursor : RunCursor := switching.1.toOption.get (by decide)

theorem switching_ok : (@switchPlan constantHash (.payload newPlan) none {}).run beforeSwitch =
    (.ok switchedCursor, switching.2) :=
  Prod.ext (ok_of_isSome _) rfl

theorem newModel_made : @NewPlan.toModel constantHash (.payload newPlan) = .ok newModel :=
  ok_of_isSome _

def deploy (env : Environment) : FurtherCall := .execute { stepId := "a" } env

def freshExecutor : ClosedLoopRuntimeExecutor :=
  (@start constantHash (@RuntimePlan.toPayload constantHash newModel) switchedCursor true context
    switching.2.durable).toOption.get (by decide)

def approving : Environment := { authorityChecker := some fun _ => .ok (.value true) }

end TwoPlans

end DwSuperApps.Guarantees.PlanSwitch
