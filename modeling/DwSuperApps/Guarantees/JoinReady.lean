import DwSuperApps.Guarantees.StageOrder

/-!
# When the join is READY

READY means one SUCCEEDED completion of every planned child, of its current
attempt and, once the coordinator is bound, of its plan and generation. Windows
stay within the width of the plan, a child completes only out of a window, and
without a failed child nothing but completeness empties the window.
-/
namespace DwSuperApps.Guarantees.JoinReady

open DwSuperApps.Lib DwSuperApps.Lib.Checked DwSuperApps.Lib.Runs
open DwSuperApps.Source.Fanout DwSuperApps.Source.Fanout.FanoutCoordinator
open DwSuperApps.Guarantees.CoordinatorHistory DwSuperApps.Guarantees.CoordinatorSteps
open DwSuperApps.Guarantees.StageOrder
open DwSuperApps.Guarantees.ManifestOrder (reviewParent api web)

/-! ## Completions of the current generation -/

/-- The completion is of the current attempt of its child and, where the
coordinator is bound to a parent attempt, of its plan and generation. -/
structure Current (c : FanoutCoordinator) (x : ChildCompletion) : Prop where
  attempt : x.attemptId = c.currentAttemptId x.childId
  bound : c.parentAttemptId ≠ none → x.attemptId ≠ none ∧
    x.planVersion.map (·.value) = some c.plan.planVersion.value ∧
    x.planDigest = some c.plan.planDigest ∧ x.parentAttemptId = c.parentAttemptId ∧
    x.leaseGeneration = c.leaseGeneration

theorem held_current {c : FanoutCoordinator} (steady : Steady c) {x : ChildCompletion}
    (member : x ∈ c.completions) : Current c x := by
  refine ⟨?_, fun bound => ?_⟩
  · rw [steady.currentAttemptId]
    exact (steady.records.bound x member).symm
  · obtain ⟨binding, version, digest, parent, generation⟩ :=
      checkCompletion_bound (steady.records.checked x member) bound
    refine ⟨(x.bound (.inl ?_)).1, version, digest, parent, generation⟩
    exact Option.isSome_iff_ne_none.mp binding

/-! ## READY -/

theorem insertionSort_nil {l : List String} : l.insertionSort (· ≤ ·) = [] ↔ l = [] := by
  rw [← List.length_eq_zero_iff, List.length_insertionSort, List.length_eq_zero_iff]

theorem ready_iff_lists {c : FanoutCoordinator} :
    c.join.status = .ready ↔ c.join.failedChildIds = [] ∧ c.join.missingChildIds = [] := by
  change joinStatus c.join.failedChildIds c.join.missingChildIds = .ready ↔ _
  unfold joinStatus
  split
  · next failed => simp [failed]
  · split
    · next missing => simp [missing]
    · next clean full => simp [not_not.mp clean, not_not.mp full]

theorem failed_nil {c : FanoutCoordinator} :
    c.join.failedChildIds = [] ↔ ∀ x ∈ c.completions, x.status = .succeeded := by
  unfold join
  extract_lets semantics received missing failed missing' failed'
  have accepted : semantics.acceptableTerminalStates = [.succeeded] := rfl
  rw [insertionSort_nil, List.map_eq_nil_iff, List.filter_eq_nil_iff]
  simp [accepted]

theorem missing_nil {c : FanoutCoordinator} :
    c.join.missingChildIds = [] ↔ ∀ child ∈ c.plan.children, c.completionOf child.childId ≠ none := by
  unfold join
  extract_lets semantics received missing failed missing' failed'
  rw [insertionSort_nil, List.map_eq_nil_iff, List.filter_eq_nil_iff, List.forall_mem_map]
  refine forall₂_congr fun child _ => ?_
  rw [decide_eq_true_iff, not_not, ne_eq, FanoutCoordinator.completionOf, List.find?_eq_none]
  simp only [received, List.mem_map, decide_eq_true_eq, not_forall, not_not]
  constructor
  · rintro ⟨x, member, same⟩
    exact ⟨x, member, same⟩
  · rintro ⟨x, member, same⟩
    exact ⟨x, member, same⟩

/-- The one completion held of a child. -/
theorem filter_child {c : FanoutCoordinator} (steady : Steady c) {x : ChildCompletion}
    {id : Ident 128} (held : c.completionOf id = some x) :
    c.completions.filter (·.childId = id) = [x] := by
  obtain ⟨member, rfl⟩ := completionOf_mem held
  refine Keyed.filter_eq (P := fun y => y.childId = x.childId) steady.records.once.of_map ?_ member rfl
  intro a inA b inB ofA ofB
  exact List.inj_on_of_nodup_map steady.records.once inA inB (ofA.trans ofB.symm)

theorem ready_iff {c : FanoutCoordinator} (steady : Steady c) (sound : Sound c) :
    c.join.status = .ready ↔ ∀ child ∈ c.plan.children, ∃ x,
      c.completions.filter (·.childId = child.childId) = [x] ∧ x.status = .succeeded ∧
        Current c x := by
  rw [ready_iff_lists, failed_nil, missing_nil]
  constructor
  · rintro ⟨succeeded, held⟩ child planned
    obtain ⟨x, found⟩ := Option.ne_none_iff_exists'.mp (held child planned)
    have member := (completionOf_mem found).1
    exact ⟨x, filter_child steady found, succeeded x member, held_current steady member⟩
  · intro each
    constructor
    · intro x member
      obtain ⟨child, known, _⟩ := sound.completions x member
      obtain ⟨planned, same⟩ := Keyed.find_some known
      obtain ⟨y, only, succeeded, _⟩ := each child planned
      have inside : x ∈ c.completions.filter (·.childId = child.childId) :=
        List.mem_filter.mpr ⟨member, decide_eq_true same.symm⟩
      rw [only] at inside
      exact List.mem_singleton.mp inside ▸ succeeded
    · intro child planned absent
      obtain ⟨y, only, _, _⟩ := each child planned
      have inside : y ∈ c.completions.filter (·.childId = child.childId) :=
        only ▸ List.mem_singleton.mpr rfl
      obtain ⟨member, same⟩ := List.mem_filter.mp inside
      exact Keyed.find_none absent y member (of_decide_eq_true same)

/-! ## Windows -/

theorem windowOf_width {c : FanoutCoordinator} {width : Nat} {stages : List (List (Ident 128))}
    (narrow : ∀ stage ∈ stages, stage.length ≤ width) : (c.windowOf stages).length ≤ width := by
  induction stages with
  | nil => exact Nat.zero_le _
  | cons stage rest ih =>
    obtain ⟨first, others⟩ := List.forall_mem_cons.mp narrow
    unfold windowOf
    split
    · exact Nat.zero_le _
    · dsimp only
      split
      · exact (List.length_filter_le _ _).trans first
      · exact ih others

/-- Without a failed child only complete stages leave nothing to dispatch. -/
theorem windowOf_nil {c : FanoutCoordinator}
    (clean : ∀ x ∈ c.completions, x.status = .succeeded) {stages : List (List (Ident 128))}
    (empty : c.windowOf stages = []) : ∀ id ∈ stages.flatten, c.completionOf id ≠ none := by
  induction stages with
  | nil => simp
  | cons stage rest ih =>
    have open' : ¬ (stage.any fun id => ((c.completionOf id).map fun held =>
        decide (held.status ≠ .succeeded)).getD false) = true := by
      intro failed
      obtain ⟨id, _, found⟩ := List.any_eq_true.mp failed
      cases held : c.completionOf id with
      | none => simp [held] at found
      | some x => simp [held, clean x (completionOf_mem held).1] at found
    unfold windowOf at empty
    rw [if_neg open'] at empty
    dsimp only at empty
    split at empty
    · next remaining => exact absurd empty remaining
    · next full =>
      rw [List.flatten_cons, List.forall_mem_append]
      refine ⟨fun id member absent => ?_, ih empty⟩
      exact (not_not.mp full ▸ List.not_mem_nil) (List.mem_filter.mpr ⟨member, decide_eq_true absent⟩)

/-- A child that comes to hold a completion was in the window. -/
theorem step_dispatched {c : FanoutCoordinator} (steady : Steady c) {operation : Operation}
    {id : Ident 128} (absent : c.completionOf id = none)
    (held : (step c operation).completionOf id ≠ none) : id ∈ c.dispatchWindow := by
  obtain ⟨effect, _⟩ := step_effect steady operation
  generalize step c operation = c' at effect held
  cases effect with
  | unmoved same => exact absurd (same.completionOf id ▸ absent) held
  | recorded record =>
    rw [record.completionOf steady] at held
    split at held
    · next here => exact here ▸ record.window
    · exact absurd absent held
  | @retried _ _ _ _ child _ _ _ _ _ _ _ _ retry =>
    by_cases here : id = child
    · exact absurd (here ▸ retry.dropped steady) held
    · cases retry with
      | renewed => exact absurd rfl held
      | kept => exact absurd ((kept_completionOf steady here).trans absent) held

/-! ## Reachable coordinators -/

/-- In every coordinator of a plan: READY means one SUCCEEDED completion of each
child, of its current attempt, and of the plan and the generation once the
coordinator is bound; a window is no wider than the plan allows; a coordinator
without a failed child and without a window is READY; and a child came to hold its
completion out of a window. -/
theorem join_ready_exactly [Sha256] {parent : ParentContract} {children : List ChildContract}
    {mode : FanoutMode} {maxParallel : Option Nat} {stages : Option (List (List String))}
    {joinPolicy : JoinPolicy} {plan : FanoutPlan}
    (planned : FanoutPlan.fromParent parent children mode maxParallel stages joinPolicy = .ok plan)
    {parentAttemptId : Option (Ident 128)} {lease : Option Nat} {attempts : AttemptIds}
    {start c : FanoutCoordinator} (started : fromPlan plan parentAttemptId lease attempts = .ok start)
    {operations : List Operation} (reached : run step start operations = c) :
    (c.join.status = .ready ↔ ∀ child ∈ plan.children, ∃ x,
      c.completions.filter (·.childId = child.childId) = [x] ∧ x.status = .succeeded ∧
        Current c x) ∧
    c.dispatchWindow.length ≤ plan.maxParallel ∧
    (c.join.failedChildIds = [] → c.dispatchWindow = [] → c.join.status = .ready) ∧
    ∀ before operation after, operations = before ++ operation :: after → ∀ id,
      (run step start before).completionOf id = none →
      (run step start (before ++ [operation])).completionOf id ≠ none →
        id ∈ (run step start before).dispatchWindow := by
  have staged := fromParent_staged planned
  have steady : Steady c := reached ▸ history_steady started operations
  have sound : c.plan = plan ∧ Sound c := reached ▸ history_sound started operations
  obtain ⟨rfl, sound⟩ := sound
  refine ⟨ready_iff steady sound, windowOf_width staged.width, ?_, ?_⟩
  · intro clean empty
    have held := windowOf_nil (failed_nil.mp clean) empty
    refine ready_iff_lists.mpr ⟨clean, missing_nil.mpr fun child inPlan => ?_⟩
    exact held child.childId (staged.children.mem_iff.mpr (List.mem_map_of_mem inPlan))
  · intro before operation after _ id absent held
    rw [run_append] at held
    exact step_dispatched (history_steady started before) absent held

/-- Both children complete, one after the other. -/
def completing : List Operation :=
  [.complete (report api .succeeded none), .complete (report web .succeeded none)]

def completed : FanoutCoordinator where
  plan := oneByOne
  completions := [report api .succeeded none, report web .succeeded none]

theorem join_ready_exactly_completed :
    (completed.join.status = .ready ↔ ∀ child ∈ oneByOne.children, ∃ x,
      completed.completions.filter (·.childId = child.childId) = [x] ∧ x.status = .succeeded ∧
        Current completed x) ∧
    completed.dispatchWindow.length ≤ oneByOne.maxParallel ∧
    (completed.join.failedChildIds = [] → completed.dispatchWindow = [] →
      completed.join.status = .ready) ∧
    ∀ before operation after, completing = before ++ operation :: after → ∀ id,
      (run step { plan := oneByOne } before).completionOf id = none →
      (run step { plan := oneByOne } (before ++ [operation])).completionOf id ≠ none →
        id ∈ (run step { plan := oneByOne } before).dispatchWindow :=
  @join_ready_exactly flatHash _ _ _ _ _ _ _ oneByOne_planned none none [] { plan := oneByOne }
    completed rfl completing rfl

/-- A coordinator that is bound to no parent attempt joins completions without a
plan digest, an attempt or a generation. -/
theorem unbound_join_ready :
    @FanoutPlan.fromParent flatHash reviewParent [api, web] .parallel (some 1) none .allRequired =
        .ok oneByOne ∧
      fromPlan oneByOne none none [] = .ok { plan := oneByOne } ∧
      run step { plan := oneByOne } completing = completed ∧ completed.join.status = .ready ∧
      ∀ x ∈ completed.completions,
        x.planDigest = none ∧ x.attemptId = none ∧ x.leaseGeneration = none := by
  refine ⟨oneByOne_planned, rfl, rfl, rfl, ?_⟩
  intro x member
  have either : x = report api .succeeded none ∨ x = report web .succeeded none := by
    simpa [completed] using member
  rcases either with rfl | rfl <;> exact ⟨rfl, rfl, rfl⟩

end DwSuperApps.Guarantees.JoinReady
