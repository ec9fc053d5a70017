import DwSuperApps.Guarantees.PlanCursor

/-!
# Activations of a step across crashes

The effect of a step, the update of the executor and the put of its state are three
operations of a call, and a process may stop between any two of them. A step is
activated once for each binding of the run to a plan; the invariant is that whatever
was performed since the binding is a step the durable state has as completed.

* `effects_once`: in every run whose calls keep an effect and its put together, no
  effect is performed twice and the executor is the durable one.
* `effect_repeated`: a crash between the effect and the put, and a put that fails in
  `resume_wait`.
-/
namespace DwSuperApps.Guarantees.StepActivations

open DwSuperApps.Lib DwSuperApps.Lib.Checked
open DwSuperApps.Lib.Programs (Prog)
open DwSuperApps.Lib.Programs.Prog
open DwSuperApps.Source.Plans DwSuperApps.Source.ClosedLoop
open DwSuperApps.Guarantees.PlanCursor

/-! ## What a call performs -/

/-- The effect and the side effect of a call, as far as it has them. -/
def invoked (call : StepCall) : List (String × Bool) :=
  (call.effect.map fun _ => (call.stepId, false)).toList ++
    (call.sideEffect.map fun _ => (call.stepId, true)).toList

/-- The effects of the call return. -/
def Succeeds (call : StepCall) : Prop :=
  (∀ effect ∈ call.effect, effect call.payload = .ok ()) ∧ ∀ answer ∈ call.sideEffect, answer = .ok ()

/-- The operations of a call that is not refused. -/
def operations (call : StepCall) : Nat := 3 + (invoked call).length

section Calls
variable {w : World} {call : StepCall} {env : Environment} {p : Prepared}

theorem invoked_nodup (call : StepCall) : (invoked call).Nodup := by
  unfold invoked
  cases call.effect <;> cases call.sideEffect <;> simp

theorem invoked_step {entry : String × Bool} (member : entry ∈ invoked call) :
    entry.1 = call.stepId := by
  unfold invoked at member
  cases effect : call.effect <;> cases side : call.sideEffect <;> rw [effect, side] at member <;>
    simp at member
  · rw [member]
  · rw [member]
  · rcases member with rfl | rfl <;> rfl

theorem performGiven_run {stepId : String} {side : Bool} {given : Option (Except Raised Unit)}
    (succeeds : ∀ answer ∈ given, answer = .ok ()) (w : World) :
    (performGiven stepId side given).run w =
      (.ok (), { w with performed := w.performed ++ (given.map fun _ => (stepId, side)).toList }) := by
  cases given with
  | none =>
    change (Except.ok (), w) = (_, { w with performed := w.performed ++ [] })
    rw [List.append_nil]
  | some answer =>
    change (answer, _) = _
    rw [succeeds answer rfl]
    rfl

theorem performEffects_run (succeeds : Succeeds call) (w : World) :
    (performEffects call).run w =
      (.ok (), { w with performed := w.performed ++ invoked call }) := by
  have effect : ∀ answer ∈ call.effect.map fun effect => effect call.payload, answer = .ok () := by
    intro answer member
    obtain ⟨effect, given, rfl⟩ := Option.mem_map.mp member
    exact succeeds.1 effect given
  unfold performEffects
  rw [run_bind_ok (performGiven_run effect w), performGiven_run succeeds.2]
  unfold invoked
  cases call.effect <;> simp

theorem performGiven_within (stepId : String) (side : Bool) (given : Option (Except Raised Unit)) :
    (performGiven stepId side given).Within (given.map fun _ => (stepId, side)).toList.length := by
  cases given with
  | none => exact within_done _ _
  | some answer => exact within_operation _

theorem performEffects_within (call : StepCall) :
    (performEffects call).Within (invoked call).length := by
  have both := (performGiven_within call.stepId false
    (call.effect.map fun effect => effect call.payload)).bind fun _ =>
      performGiven_within call.stepId true call.sideEffect
  unfold invoked
  rw [List.length_append]
  refine both.mono (Nat.le_of_eq ?_)
  cases call.effect <;> rfl

variable [TextCase]

theorem executeStep_within (call : StepCall) (env : Environment) :
    (executeStep call env).Within (operations call) := by
  have short : (executeStep call env).Within ((invoked call).length + (1 + 1) + 1) :=
    within_observe_bind fun M => within_lift fun p =>
      (performEffects_within call).bind fun _ =>
        (within_operation _).bind fun _ => (within_operation _).bind fun _ => within_done 0 _
  exact short.mono (by unfold operations; omega)

/-- A prepared call whose effects and put succeed. -/
theorem executeStep_run (prepared : prepare w.memory env call = .ok p) (succeeds : Succeeds call)
    (stores : env.put = .ok ()) :
    ((executeStep call env).run w).2 =
      World.stored { w with
        memory := w.memory.advanced call p
        performed := w.performed ++ invoked call } (w.memory.advanced call p) false := by
  change (Prog.run (.done (prepare w.memory env call) >>= _) w).2 = _
  rw [run_lift_ok prepared, run_bind_ok (performEffects_run succeeds w),
    run_bind_ok (setMemory_run _ _), run_bind]
  unfold persist
  rw [run_operation, stores, ite_self]
  rfl

end Calls

/-! ## What is kept -/

/-- No effect was performed twice, and the step of each is durably completed. -/
structure Recorded (durable : Option RuntimeExecutionState) (performed : List (String × Bool)) :
    Prop where
  once : performed.Nodup
  completed : ∀ entry ∈ performed, ∃ s ∈ durable, entry.1 ∈ s.completedSteps

/-- The executor is the durable one, or as it was constructed when there is none; its
cursor is bound to its plan. -/
structure Synced (durable : Option RuntimeExecutionState) (M : ClosedLoopRuntimeExecutor) :
    Prop where
  stored : M.hasStore = true
  bound : validateBinding M.cursor M.plan = .ok ()
  state : ∀ s ∈ durable, M.state = s
  new : durable = none → M.completedSteps = [] ∧ M.evidence = {} ∧ M.sequence = 0

structure Faithful (m : Machine) : Prop where
  recorded : Recorded m.durable m.performed
  synced : ∀ M, m.process = some M → Synced m.durable M

/-- A call that is not refused and may stop does not stop between an effect and the
end of its put; one that goes on has no effect and no put that fails. -/
def SurvivesCall (call : StepCall) (env : Environment) : Option Nat → Prop
  | none => Succeeds call ∧ env.put = .ok ()
  | some n => n ≤ 1 ∨ invoked call = [] ∨
      (Succeeds call ∧ env.put = .ok () ∧ operations call ≤ n)

section Steps
variable {M : ClosedLoopRuntimeExecutor} {durable : Option RuntimeExecutionState}
  {performed : List (String × Bool)} {α : Type} {w : World} {program : Program α}

/-- More completed steps keep what is recorded. -/
theorem Recorded.more (recorded : Recorded durable performed) (synced : Synced durable M)
    {s : RuntimeExecutionState} (more : ∀ t ∈ M.completedSteps, t ∈ s.completedSteps) :
    Recorded (some s) performed where
  once := recorded.once
  completed := by
    intro entry member
    obtain ⟨old, stored, done⟩ := recorded.completed entry member
    rw [← synced.state old stored] at done
    exact ⟨s, rfl, more _ done⟩

/-- A step that was not completed before is performed for the first time. -/
theorem Recorded.performs (recorded : Recorded durable performed) (synced : Synced durable M)
    {call : StepCall} (first : call.stepId ∉ M.completedSteps) {s : RuntimeExecutionState}
    (next : s.completedSteps = M.completedSteps ++ [call.stepId]) :
    Recorded (some s) (performed ++ invoked call) where
  once := by
    refine recorded.once.append (invoked_nodup call) ?_
    intro entry old new
    obtain ⟨prior, stored, done⟩ := recorded.completed entry old
    rw [← synced.state prior stored, invoked_step new] at done
    exact first done
  completed := by
    intro entry member
    refine ⟨s, rfl, ?_⟩
    rw [next]
    rcases List.mem_append.mp member with old | new
    · obtain ⟨prior, stored, done⟩ := recorded.completed entry old
      rw [← synced.state prior stored] at done
      exact List.mem_append_left _ done
    · rw [invoked_step new]
      simp

/-- A process that stops leaves what was recorded at the place it stopped. -/
theorem stopped_faithful {n : Nat}
    (recorded : Recorded ((program.runFor n w).2).durable ((program.runFor n w).2).performed) :
    Faithful (Machine.after w program (some n)) where
  recorded := recorded
  synced := fun _ running => by cases running

theorem returned_faithful
    (recorded : Recorded ((program.run w).2).durable ((program.run w).2).performed)
    (synced : Synced ((program.run w).2).durable ((program.run w).2).memory) :
    Faithful (Machine.after w program none) where
  recorded := recorded
  synced := fun M running => by
    cases running
    exact synced

theorem stored_eq (hasStore : M.hasStore = true) (w : World) (rebinds : Bool) :
    w.stored M rebinds = ⟨w.memory, some M.state, if rebinds then [] else w.performed⟩ :=
  congrArg (World.mk _ · _) (if_pos hasStore)

/-- A call that changes nothing. -/
theorem unchanged_faithful (unchanged : program.Throughout (fun t => t = w) w)
    (recorded : Recorded w.durable w.performed) (synced : Synced w.durable w.memory)
    (stopsAfter : Option Nat) : Faithful (Machine.after w program stopsAfter) := by
  cases stopsAfter with
  | none =>
    apply returned_faithful
    · rw [unchanged.run]
      exact recorded
    · rw [unchanged.run]
      exact synced
  | some n =>
    apply stopped_faithful
    rw [unchanged.runFor n]
    exact recorded

/-- What `resume_wait` and `switch_plan` have in common: a new executor is worked out,
replaces the one in memory and is stored. -/
def updating {β : Type} (view : ClosedLoopRuntimeExecutor → Except Raised β)
    (next : ClosedLoopRuntimeExecutor → β → ClosedLoopRuntimeExecutor) (result : β → α)
    (env : Environment) (rebinds : Bool) : Program α := do
  let M ← memory
  let b ← (view M : Except Raised β)
  setMemory (next M b)
  persist (next M b) env rebinds
  return result b

section Updates
variable {β : Type} {view : ClosedLoopRuntimeExecutor → Except Raised β}
  {next : ClosedLoopRuntimeExecutor → β → ClosedLoopRuntimeExecutor} {result : β → α}
  {env : Environment} {rebinds : Bool}

theorem updating_refused {P : World → Prop} {e : Raised} (refused : view w.memory = .error e)
    (start : P w) : (updating view next result env rebinds).Throughout P w := by
  unfold updating memory
  refine Throughout.bind (throughout_observe start) fun M t seen held => ?_
  cases seen
  apply throughout_lift held
  intro b passed
  rw [refused] at passed
  cases passed

theorem updating_throughout {P : World → Prop} {b : β} (passed : view w.memory = .ok b)
    (before : P w) (inMemory : P { w with memory := next w.memory b })
    (after : P (World.stored { w with memory := next w.memory b } (next w.memory b) rebinds)) :
    (updating view next result env rebinds).Throughout P w := by
  unfold updating memory
  refine Throughout.bind (throughout_observe before) fun M t seen held => ?_
  cases seen
  apply throughout_lift held
  intro c again
  rw [passed] at again
  cases again
  refine Throughout.bind (setMemory_throughout before inMemory) fun _ u set held => ?_
  cases set
  exact Throughout.bind (persist_throughout held after) fun _ v _ held => throughout_pure held

theorem updating_run {b : β} (passed : view w.memory = .ok b) (stores : env.put = .ok ()) :
    ((updating view next result env rebinds).run w).2 =
      World.stored { w with memory := next w.memory b } (next w.memory b) rebinds := by
  change (Prog.run (.done (view w.memory) >>= _) w).2 = _
  rw [run_lift_ok passed, run_bind_ok (setMemory_run _ _), run_bind]
  unfold persist
  rw [run_operation, stores, ite_self]
  rfl

/-- An update keeps the machine faithful if its put succeeds or the process stops. -/
theorem updating_faithful (recorded : Recorded w.durable w.performed)
    (synced : Synced w.durable w.memory)
    (after : ∀ b, view w.memory = .ok b →
      Recorded (some (next w.memory b).state) (if rebinds then [] else w.performed) ∧
        Synced (some (next w.memory b).state) (next w.memory b))
    {stopsAfter : Option Nat}
    (stores : ∀ b, view w.memory = .ok b → stopsAfter = none → env.put = .ok ()) :
    Faithful (Machine.after w (updating view next result env rebinds) stopsAfter) := by
  cases passed : view w.memory with
  | error e => exact unchanged_faithful (updating_refused passed rfl) recorded synced stopsAfter
  | ok b =>
    obtain ⟨later, kept⟩ := after b passed
    have durable := stored_eq kept.stored { w with memory := next w.memory b } rebinds
    cases stopsAfter with
    | none =>
      have ended : ((updating view next result env rebinds).run w).2 = _ :=
        updating_run passed (stores b passed rfl)
      rw [durable] at ended
      apply returned_faithful
      · rw [ended]
        exact later
      · rw [ended]
        exact kept
    | some n =>
      apply stopped_faithful
      have all : (updating view next result env rebinds).Throughout
          (fun t => Recorded t.durable t.performed) w :=
        updating_throughout passed recorded recorded (by rw [durable]; exact later)
      exact all.runFor n

end Updates

variable [TextCase] {call : StepCall} {env : Environment} {p : Prepared}

theorem execute_faithful (recorded : Recorded w.durable w.performed)
    (synced : Synced w.durable w.memory) (prepared : prepare w.memory env call = .ok p)
    {stopsAfter : Option Nat} (survives : SurvivesCall call env stopsAfter) :
    Faithful (Machine.after w (executeStep call env) stopsAfter) := by
  obtain ⟨_, -, -, -, first, -⟩ := prepare_ok prepared
  have ended (succeeds : Succeeds call) (stores : env.put = .ok ()) :
      ((executeStep call env).run w).2 = ⟨w.memory.advanced call p,
        some (w.memory.advanced call p).state, w.performed ++ invoked call⟩ := by
    rw [executeStep_run prepared succeeds stores,
      stored_eq (M := w.memory.advanced call p) synced.stored]
    rfl
  have after : Recorded (some (w.memory.advanced call p).state) (w.performed ++ invoked call) :=
    recorded.performs synced first rfl
  cases stopsAfter with
  | none =>
    obtain ⟨succeeds, stores⟩ := survives
    apply returned_faithful
    · rw [ended succeeds stores]
      exact after
    · rw [ended succeeds stores]
      exact ⟨synced.stored, synced.bound, fun s same => Option.some.inj same, fun absent => by cases absent⟩
  | some n =>
    apply stopped_faithful
    rcases survives with early | harmless | ⟨succeeds, stores, late⟩
    · match n, early with
      | 0, _ => exact recorded
      | 1, _ => exact recorded
    · have bare : call.effect = none ∧ call.sideEffect = none := by
        unfold invoked at harmless
        cases effect : call.effect <;> cases side : call.sideEffect <;>
          simp [effect, side] at harmless ⊢
      have nothing : performEffects call = pure () := by
        unfold performEffects
        rw [bare.1, bare.2]
        rfl
      have all : (executeStep call env).Throughout (fun t => Recorded t.durable t.performed) w := by
        apply executeStep_throughout recorded
        · intro _ _
          rw [nothing]
          exact throughout_pure recorded
        · intro q t again ran held
          rw [prepared] at again
          cases again
          rw [nothing] at ran
          cases ran
          refine ⟨held, ?_⟩
          rw [stored_eq (M := w.memory.advanced call p) synced.stored]
          exact recorded.more synced fun t done => List.mem_append_left _ done
      exact all.runFor n
    · rw [runFor_of_within ((executeStep_within call env).mono late) w, ended succeeds stores]
      exact after

end Steps

/-! ## Binding -/

section Binding
variable {c d : RunCursor} {plan : PlanPayload}

/-- Only the plan ref, digest and revision of a cursor are bound. -/
theorem validateBinding_congr (ref : c.runtimePlanRef = d.runtimePlanRef)
    (digest : c.runtimePlanDigest = d.runtimePlanDigest) (revision : c.planRevision = d.planRevision) :
    validateBinding c plan = validateBinding d plan := by
  unfold validateBinding
  rw [ref, digest, revision]

theorem resume_bound (resumed : c.resume = .ok d) : validateBinding d plan = validateBinding c plan := by
  unfold RunCursor.resume at resumed
  split at resumed
  · cases resumed
  · cases resumed
    rfl

theorem solid_filter (t : RequiredText) : (some t.value).filter (· ≠ "") ≠ none := by
  have nonempty : t.value ≠ "" := by
    intro empty
    exact t.solid (by rw [empty]; decide)
  rw [Option.filter_some_pos (by simpa using nonempty)]
  exact Option.some_ne_none _

theorem validateBinding_of (ref : plan.runtimePlanRef = some c.runtimePlanRef.value)
    (digest : plan.runtimePlanDigest = some c.runtimePlanDigest.value)
    (revision : plan.revision = some c.planRevision.value) : validateBinding c plan = .ok () := by
  unfold validateBinding
  rw [ref, digest, revision, ensure_of (solid_filter _), Checked.ok_bind, ensure_of (solid_filter _),
    Checked.ok_bind, ensure_of (solid_filter _), Checked.ok_bind, ensure_of rfl, Checked.ok_bind,
    ensure_of rfl, Checked.ok_bind, ensure_of rfl]

variable [Sha256]

/-- A cursor switched to a plan is bound to its payload. -/
theorem switchTo_bound {model : RuntimePlan} {currentStepId : Option String}
    (switched : c.switchTo model currentStepId = .ok d) :
    validateBinding d model.toPayload = .ok () := by
  unfold RunCursor.switchTo at switched
  obtain ⟨_, _, switched⟩ := bind_ok.mp switched
  obtain ⟨_, _, switched⟩ := bind_ok.mp switched
  cases switched
  exact validateBinding_of rfl rfl rfl

theorem fresh_new {M : ClosedLoopRuntimeExecutor} {context : List (String × Json)}
    (made : fresh plan c true context = .ok M) :
    validateBinding M.cursor M.plan = .ok () ∧ M.completedSteps = [] ∧ M.evidence = {} ∧
      M.sequence = 0 := by
  unfold fresh at made
  obtain ⟨_, bound, made⟩ := bind_ok.mp made
  obtain ⟨_, _, made⟩ := bind_ok.mp made
  obtain ⟨_, _, made⟩ := bind_ok.mp made
  cases made
  exact ⟨bound, rfl, rfl, rfl⟩

/-- A started executor is the durable one. -/
theorem start_synced {M : ClosedLoopRuntimeExecutor} {context : List (String × Json)}
    {durable : Option RuntimeExecutionState} (started : start plan c true context durable = .ok M) :
    Synced durable M := by
  obtain ⟨on, restored⟩ := start_ok started
  unfold start at started
  obtain ⟨F, made, started⟩ := bind_ok.mp started
  obtain ⟨bound, new⟩ := fresh_new made
  rw [if_pos rfl] at started
  obtain ⟨_, _, started⟩ := bind_ok.mp started
  cases durable with
  | none =>
    cases started
    exact ⟨on.stored, bound, restored, fun _ => new⟩
  | some prior =>
    refine ⟨on.stored, ?_, restored, fun absent => by cases absent⟩
    change restore F prior = .ok M at started
    unfold restore at started
    obtain ⟨_, _, started⟩ := bind_ok.mp started
    obtain ⟨_, same, started⟩ := bind_ok.mp started
    obtain ⟨_, _, started⟩ := bind_ok.mp started
    cases started
    obtain ⟨ref, digest, revision⟩ := ensure_ok.mp same
    exact (validateBinding_congr ref digest revision).trans bound

end Binding

/-! ## Runs -/

section Machines
variable [TextCase] [Sha256]

/-- The model and the cursor of a switch. -/
def switched (plan : NewPlan) (currentStepId : Option String) (M : ClosedLoopRuntimeExecutor) :
    Except Raised (RuntimePlan × RunCursor) := do
  let model ← plan.toModel
  let cursor ← M.cursor.switchTo model currentStepId
  return (model, cursor)

omit [TextCase] in
theorem switchPlan_eq (plan : NewPlan) (currentStepId : Option String) (env : Environment) :
    switchPlan plan currentStepId env =
      updating (switched plan currentStepId) (fun M b => M.rebound b.1 b.2) Prod.snd env true := by
  unfold switchPlan updating switched
  refine congrArg (memory >>= ·) (funext fun M => ?_)
  cases plan.toModel with
  | error e => rfl
  | ok model =>
    change (Prog.done (M.cursor.switchTo model currentStepId) >>= _) =
      (Prog.done (M.cursor.switchTo model currentStepId >>= _) >>= _)
    cases M.cursor.switchTo model currentStepId with
    | error e => rfl
    | ok cursor => rfl

/-- The condition of a run: every call that is not refused survives. -/
def Survives (m : Machine) : Action → Prop
  | .execute call env stopsAfter => ∀ M p, m.process = some M → prepare M env call = .ok p →
      SurvivesCall call env stopsAfter
  | .resumeWait env stopsAfter => ∀ M c, m.process = some M → M.cursor.resume = .ok c →
      stopsAfter = none → env.put = .ok ()
  | .switchPlan plan currentStepId env stopsAfter => ∀ M b, m.process = some M →
      switched plan currentStepId M = .ok b → stopsAfter = none → env.put = .ok ()
  | .restart _ _ _ => True

theorem step_faithful {m : Machine} (faithful : Faithful m) {a : Action} (survives : Survives m a) :
    Faithful (m.step a) := by
  cases a with
  | restart plan cursor context =>
    refine ⟨faithful.recorded, fun M later => ?_⟩
    change (start plan cursor true context m.durable).toOption = some M at later
    cases started : start plan cursor true context m.durable with
    | error e =>
      rw [started] at later
      cases later
    | ok N =>
      rw [started] at later
      cases later
      exact start_synced started
  | execute call env stopsAfter =>
    unfold Machine.step
    cases running : m.process with
    | none => exact faithful
    | some M =>
      have synced : Synced (m.world M).durable (m.world M).memory := faithful.synced M running
      cases prepared : prepare M env call with
      | error e =>
        exact unchanged_faithful (executeStep_refused (w := m.world M) prepared rfl)
          faithful.recorded synced stopsAfter
      | ok p =>
        exact execute_faithful (w := m.world M) faithful.recorded synced prepared
          (survives M p running prepared)
  | resumeWait env stopsAfter =>
    unfold Machine.step
    cases running : m.process with
    | none => exact faithful
    | some M =>
      have synced : Synced (m.world M).durable (m.world M).memory := faithful.synced M running
      change Faithful (Machine.after (m.world M) (updating (fun M => M.cursor.resume)
        (fun M cursor => { M with cursor }) id env false) stopsAfter)
      refine updating_faithful faithful.recorded synced (fun c resumed => ?_)
        (fun c => survives M c running)
      refine ⟨faithful.recorded.more synced fun _ done => done, synced.stored, ?_,
        fun s same => Option.some.inj same, fun absent => by cases absent⟩
      exact (resume_bound resumed).trans synced.bound
  | switchPlan plan currentStepId env stopsAfter =>
    unfold Machine.step
    cases running : m.process with
    | none => exact faithful
    | some M =>
      have synced : Synced (m.world M).durable (m.world M).memory := faithful.synced M running
      change Faithful (Machine.after (m.world M) (switchPlan plan currentStepId env) stopsAfter)
      rw [switchPlan_eq]
      refine updating_faithful (w := m.world M) faithful.recorded synced (fun b switched => ?_)
        (fun b => survives M b running)
      refine ⟨⟨List.nodup_nil, fun _ member => absurd member List.not_mem_nil⟩, synced.stored, ?_,
        fun s same => Option.some.inj same, fun absent => by cases absent⟩
      obtain ⟨model, _, switched⟩ := bind_ok.mp switched
      obtain ⟨cursor, moved, switched⟩ := bind_ok.mp switched
      cases switched
      exact switchTo_bound moved

/-- In every run whose calls survive, each activation of a step has its effect performed
at most once, and the executor after every call, returned or raised, is the durable one. -/
theorem effects_once {actions : List Action} (survives : Runs.Along Machine.step Survives {} actions) :
    let m := Runs.run Machine.step {} actions
    m.performed.Nodup ∧ ∀ M, m.process = some M → Synced m.durable M := by
  have start : Faithful {} :=
    ⟨⟨List.nodup_nil, fun _ member => absurd member List.not_mem_nil⟩, fun _ absent => by cases absent⟩
  have faithful := @Runs.run_invariant _ _ Machine.step Survives Faithful
    (fun _ _ faithful survives => step_faithful faithful survives) _ _ start survives
  exact ⟨faithful.recorded.once, faithful.synced⟩

end Machines

/-! ## A crash and a failing put -/

section Crashes

/-- A step with one allowed read, and a way to wait. -/
def readPlan : PlanPayload where
  runtimePlanRef := some "plan"
  revision := some "r1"
  runtimePlanDigest := some (Digest.ofNat 0).value
  steps := { entries := [
    ("a", { stepId := some "a", semanticAction := some "read", allowedActions := ["read"],
            edges := { entries := [("later", { outcome := some "later", target := some "wait" })] } })] }

def begun : Action := .restart readPlan atFirst []

def readCall : StepCall :=
  { stepId := "a", outcome := some "later", effect := some fun _ => .ok () }

def failingPut : Environment := { put := .error ⟨.store, "replace failed"⟩ }

def after (actions : List Action) : Machine :=
  @Runs.run _ _ (@Machine.step unchangedCase constantHash) {} actions

set_option maxRecDepth 4000 in
/-- A crash after the effect and before the put has the effect performed twice; a put
that fails in `resume_wait` leaves the executor running and its file waiting. -/
theorem effect_repeated :
    (after [begun, .execute readCall {} (some 3), begun, .execute readCall {} none]).performed =
      [("a", false), ("a", false)] ∧
    ((after [begun, .execute readCall {} none, .resumeWait failingPut none]).process.map
      (·.cursor.controlState)) = some .running ∧
    ((after [begun, .execute readCall {} none, .resumeWait failingPut none]).durable.map
      (·.cursor.controlState)) = some .waiting := by
  decide

/-- A crash right after the process looked at its state, a restart and a whole call. -/
theorem effects_once_restarted :
    let m := after [begun, .execute readCall {} (some 1), begun, .execute readCall {} none,
      .resumeWait {} none]
    m.performed.Nodup ∧ ∀ M, m.process = some M → Synced m.durable M := by
  have survives : @Runs.Along _ _ (@Machine.step unchangedCase constantHash)
      (@Survives unchangedCase constantHash) {}
      [begun, .execute readCall {} (some 1), begun, .execute readCall {} none, .resumeWait {} none] :=
    ⟨trivial, fun _ _ _ _ => .inl (Nat.le_refl 1), trivial,
      fun _ _ _ _ => ⟨⟨fun effect given => by cases given; rfl, fun answer absent => by cases absent⟩, rfl⟩,
      fun _ _ _ _ _ => rfl, trivial⟩
  exact @effects_once unchangedCase constantHash _ survives

end Crashes

end DwSuperApps.Guarantees.StepActivations
