import DwSuperApps.Guarantees.CompletionOrder

/-!
# Evidence and status under retries

`complete` and `retry_child` of `fanout.py`. A completion that is accepted goes into
the current completions or into the stale evidence, and a retry moves what it drops
from the first to the second under the key of child and attempt; a key that is there
keeps the record it has. The status of a child is read off the window and its
completion: it has no RUNNING, a retry starts it again, and a completion that did not
succeed takes its neighbours out of the window.
-/
namespace DwSuperApps.Guarantees.RetryEvidence

open DwSuperApps.Lib DwSuperApps.Lib.Checked DwSuperApps.Lib.Runs
open DwSuperApps.Source.Fanout DwSuperApps.Source.Fanout.FanoutCoordinator
open DwSuperApps.Guarantees.CoordinatorHistory DwSuperApps.Guarantees.CoordinatorSteps
open DwSuperApps.Guarantees.CompletionOrder (windowOf_behind windowOf_failed sideBySide)
open DwSuperApps.Guarantees.ManifestOrder (api web)
open DwSuperApps.Guarantees.StageOrder (oneByOne report reopening secondAttempt)

/-! ## Records of the constructor -/

section Constructor
variable {plan : FanoutPlan}

theorem collectById_mem {collected items out : List ChildCompletion}
    (made : collectById collected items = .ok out) {x : ChildCompletion}
    (given : x ∈ collected ∨ x ∈ items) : x ∈ out := by
  induction items generalizing collected with
  | nil =>
    cases made
    exact given.resolve_right List.not_mem_nil
  | cons y rest ih =>
    unfold collectById at made
    split at made
    · refine ih made ?_
      rw [List.mem_append, List.mem_singleton, or_assoc, ← List.mem_cons]
      exact given
    · next prior found =>
      split at made
      · next same =>
        refine ih made ?_
        rcases given with old | new
        · exact .inl old
        · rcases List.mem_cons.mp new with rfl | later
          · exact .inl (same ▸ (Keyed.find_some found).1)
          · exact .inr later
      · cases made

theorem collectStale_mem {collected items out : List ChildCompletion}
    (made : collectStale plan collected items = .ok out) {x : ChildCompletion}
    (given : x ∈ collected ∨ x ∈ items) : x ∈ out := by
  induction items generalizing collected with
  | nil =>
    cases made
    exact given.resolve_right List.not_mem_nil
  | cons y rest ih =>
    unfold collectStale at made
    obtain ⟨_, _, made⟩ := bind_ok.mp made
    split at made
    · refine ih made ?_
      rw [List.mem_append, List.mem_singleton, or_assoc, ← List.mem_cons]
      exact given
    · next prior found =>
      split at made
      · next same =>
        refine ih made ?_
        rcases given with old | new
        · exact .inl old
        · rcases List.mem_cons.mp new with rfl | later
          · exact .inl (same ▸ (Keyed.find_some found).1)
          · exact .inr later
      · cases made

/-- The constructor drops no record it was given. -/
theorem make_mem {completions stale : List ChildCompletion} {parentAttemptId : Option (Ident 128)}
    {lease : Option Nat} {attempts : AttemptIds} {c : FanoutCoordinator}
    (made : make plan completions parentAttemptId lease attempts stale = .ok c) :
    (∀ x ∈ completions, x ∈ c.completions) ∧ ∀ s ∈ stale, s ∈ c.staleCompletions := by
  unfold make at made
  obtain ⟨_, _, made⟩ := bind_ok.mp made
  obtain ⟨_, _, made⟩ := bind_ok.mp made
  obtain ⟨_, _, made⟩ := bind_ok.mp made
  obtain ⟨_, _, made⟩ := bind_ok.mp made
  obtain ⟨byId, unique, made⟩ := bind_ok.mp made
  obtain ⟨evidence, retained, made⟩ := bind_ok.mp made
  cases made
  exact ⟨fun x inside => (List.mem_insertionSort _).mpr (collectById_mem unique (.inr inside)),
    fun s inside => (List.mem_insertionSort _).mpr (collectStale_mem retained (.inr inside))⟩

end Constructor

/-! ## Evidence -/

section Evidence
variable {c c' : FanoutCoordinator} {x y z : ChildCompletion}

theorem mem_evidence : x ∈ c.evidenceCompletions ↔ x ∈ c.completions ∨ x ∈ c.staleCompletions := by
  rw [evidenceCompletions, List.mem_insertionSort, List.mem_append]

/-- The records name one result of one attempt. -/
def SameResult (y x : ChildCompletion) : Prop :=
  y.childId = x.childId ∧ y.attemptId = x.attemptId ∧ y.resultRef = x.resultRef

/-- The result of `x` is among the evidence. -/
def Holds (c : FanoutCoordinator) (x : ChildCompletion) : Prop :=
  ∃ y ∈ c.evidenceCompletions, SameResult y x

theorem SameResult.trans (first : SameResult z y) (second : SameResult y x) : SameResult z x :=
  ⟨first.1.trans second.1, first.2.1.trans second.2.1, first.2.2.trans second.2.2⟩

/-- `c'` has the evidence of `c` and the result of `x`. -/
def Told (c : FanoutCoordinator) (x : ChildCompletion) (c' : FanoutCoordinator) : Prop :=
  (∀ y ∈ c.evidenceCompletions, y ∈ c'.evidenceCompletions) ∧ Holds c' x

theorem recordStale_told (made : c.recordStale x = .ok c') : Told c x c' := by
  unfold recordStale at made
  extract_lets stale at made
  have same : SameResult stale x := by
    unfold stale
    split <;> exact ⟨rfl, rfl, rfl⟩
  split at made
  · next prior found =>
    split at made
    · next already =>
      cases made
      exact ⟨fun _ inside => inside, stale,
        mem_evidence.mpr (.inr (already ▸ (Keyed.find_some found).1)), same⟩
    · cases made
  · obtain ⟨current, retained⟩ := make_mem made
    refine ⟨fun y inside => ?_, stale, mem_evidence.mpr (.inr (retained _ (by simp))), same⟩
    exact mem_evidence.mpr ((mem_evidence.mp inside).imp (current y)
      fun old => retained y (List.mem_append_left _ old))

theorem completeCurrent_told {expected : ChildContract} {parentAttemptId : Option (Ident 128)}
    {lease : Option Nat} (made : c.completeCurrent x expected parentAttemptId lease = .ok c') :
    Told c x c' := by
  unfold completeCurrent at made
  extract_lets id normalized attempts at made
  have same : SameResult normalized x := by
    unfold normalized
    split <;> exact ⟨rfl, rfl, rfl⟩
  split at made
  · exact recordStale_told made
  · split at made
    · cases made
    · split at made
      · next prior found =>
        split at made
        · next already =>
          cases made
          exact ⟨fun _ inside => inside, normalized,
            mem_evidence.mpr (.inl (already ▸ (completionOf_mem found).1)), same⟩
        · cases made
      · split at made
        · cases made
        · obtain ⟨current, retained⟩ := make_mem made
          refine ⟨fun y inside => ?_, normalized, mem_evidence.mpr (.inl (current _ (by simp))), same⟩
          exact mem_evidence.mpr ((mem_evidence.mp inside).imp
            (fun old => current y (List.mem_append_left _ old)) (retained y))

/-- An accepted completion joins the evidence and takes nothing out of it. -/
theorem complete_told (made : c.complete x = .ok c') : Told c x c' := by
  unfold complete at made
  extract_lets id at made
  split at made
  · cases made
  · repeat' split at made
    all_goals first
      | exact recordStale_told made
      | exact completeCurrent_told made
      | cases made

/-! ## Retries -/

theorem mem_retire {stale : List ChildCompletion} (held : z ∈ stale)
    (completions : List ChildCompletion) : z ∈ retire stale completions := by
  induction completions generalizing stale with
  | nil => exact held
  | cons y rest ih =>
    unfold retire
    split
    · exact ih held
    · exact ih (List.mem_append_left _ held)

/-- Every retired completion has a record under its key: one that was there, or the
stale form of a completion. -/
theorem retire_covers (stale : List ChildCompletion) {completions : List ChildCompletion}
    (inside : y ∈ completions) :
    ∃ z ∈ retire stale completions, z.evidenceKey = y.evidenceKey ∧
      (z ∈ stale ∨ ∃ y' ∈ completions, z = y'.asStale) := by
  induction completions generalizing stale with
  | nil => cases inside
  | cons first rest ih =>
    unfold retire
    rcases List.mem_cons.mp inside with rfl | later
    · split
      · next there =>
        obtain ⟨z, held, same⟩ := List.any_eq_true.mp there
        exact ⟨z, mem_retire held rest, of_decide_eq_true same, .inl held⟩
      · exact ⟨y.asStale, mem_retire (by simp) rest, rfl, .inr ⟨y, List.mem_cons_self, rfl⟩⟩
    · split
      · obtain ⟨z, member, same, origin⟩ := ih stale later
        refine ⟨z, member, same, ?_⟩
        rcases origin with held | ⟨y', known, made⟩
        · exact .inl held
        · exact .inr ⟨y', List.mem_cons_of_mem _ known, made⟩
      · obtain ⟨z, member, same, origin⟩ := ih (stale ++ [first.asStale]) later
        refine ⟨z, member, same, ?_⟩
        rcases origin with held | ⟨y', known, made⟩
        · rcases List.mem_append.mp held with old | new
          · exact .inl old
          · exact .inr ⟨first, List.mem_cons_self, List.mem_singleton.mp new⟩
        · exact .inr ⟨y', List.mem_cons_of_mem _ known, made⟩

theorem attemptText_inj (same : z.attemptText = y.attemptText) : z.attemptId = y.attemptId := by
  unfold ChildCompletion.attemptText at same
  cases first : z.attemptId with
  | none =>
    cases second : y.attemptId with
    | none => rfl
    | some b =>
      rw [first, second] at same
      exact absurd same.symm b.nonempty
  | some a =>
    cases second : y.attemptId with
    | none =>
      rw [first, second] at same
      exact absurd same a.nonempty
    | some b =>
      rw [first, second] at same
      exact congrArg some (Ident.ext same)

/-- A key tells children and attempts apart. -/
theorem evidenceKey_inj (same : z.evidenceKey = y.evidenceKey) :
    z.childId = y.childId ∧ z.attemptId = y.attemptId := by
  obtain ⟨child, attempt⟩ := Prod.mk.inj same
  exact ⟨Ident.ext child, attemptText_inj attempt⟩

/-- A retry starts the child again: it is the child that is retried, or the parent
attempt or the lease generation changes. -/
def Restarts (c : FanoutCoordinator) (childId : String) (parentAttemptId : Option String)
    (lease : Option Nat) (id : Ident 128) : Prop :=
  identText 128 "child_id" childId = .ok id ∨ nextParent c parentAttemptId ≠ .ok c.parentAttemptId ∨
    nextLease c lease ≠ c.leaseGeneration

/-- No completion that a retry drops has stale evidence of another result under its
key. -/
def Clear (c : FanoutCoordinator) : Operation → Prop
  | .complete _ => True
  | .retry childId _ parentAttemptId lease =>
    ∀ y ∈ c.completions, Restarts c childId parentAttemptId lease y.childId →
      ∀ z ∈ c.staleCompletions, z.evidenceKey = y.evidenceKey → z.resultRef = y.resultRef

/-- The results of the retired completions are among the evidence of a coordinator
that retained them. -/
theorem retired_holds {completions : List ChildCompletion} (steady : Steady c)
    (part : ∀ y ∈ completions, y ∈ c.completions)
    (clear : ∀ y ∈ completions, ∀ z ∈ c.staleCompletions, z.evidenceKey = y.evidenceKey →
      z.resultRef = y.resultRef)
    (retained : ∀ z ∈ retire c.staleCompletions completions, z ∈ c'.staleCompletions)
    (inside : y ∈ completions) : Holds c' y := by
  obtain ⟨z, member, same, origin⟩ := retire_covers c.staleCompletions inside
  obtain ⟨child, attempt⟩ := evidenceKey_inj same
  refine ⟨z, mem_evidence.mpr (.inr (retained z member)), child, attempt, ?_⟩
  rcases origin with held | ⟨y', known, rfl⟩
  · exact clear y inside z held same
  · have one : y' = y :=
      List.inj_on_of_nodup_map steady.records.once (part y' known) (part y inside) child
    rw [one]
    rfl

theorem retry_keeps (steady : Steady c) {childId attemptId : String}
    {parentAttemptId : Option String} {lease : Option Nat}
    (made : c.retryChild childId attemptId parentAttemptId lease = .ok c')
    (clear : Clear c (.retry childId attemptId parentAttemptId lease)) (held : Holds c x) :
    Holds c' x := by
  obtain ⟨⟨id, attempt, named, -, -, -, parent, generation, retry⟩, -⟩ := retryChild_cases steady made
  obtain ⟨y, inside, same⟩ := held
  have kept : Holds c' y := by
    cases retry with
    | renewed nextParentId nextLeaseId changed =>
      have restarts (id : Ident 128) : Restarts c childId parentAttemptId lease id := by
        rcases changed with other | other
        · exact .inr (.inl fun unchanged => other (Except.ok.inj (parent.symm.trans unchanged)))
        · exact .inr (.inr fun unchanged => other (generation.trans unchanged))
      have retained : ∀ z ∈ retire c.staleCompletions c.completions,
          z ∈ (listed c.plan [] nextParentId nextLeaseId [(id, attempt)]
            (retire c.staleCompletions c.completions)).staleCompletions :=
        fun z member => (List.mem_insertionSort _).mpr member
      rcases mem_evidence.mp inside with current | stale
      · exact retired_holds steady (fun _ member => member)
          (fun y member => clear y member (restarts y.childId)) retained current
      · exact ⟨y, mem_evidence.mpr (.inr (retained y (mem_retire stale _))), rfl, rfl, rfl⟩
    | kept =>
      have retained : ∀ z ∈ retire c.staleCompletions (c.completions.filter (·.childId = id)),
          z ∈ (listed c.plan (c.completions.filter (·.childId ≠ id)) c.parentAttemptId
            c.leaseGeneration (c.childAttemptIds.filter (·.1 ≠ id) ++ [(id, attempt)])
            (retire c.staleCompletions (c.completions.filter (·.childId = id)))).staleCompletions :=
        fun z member => (List.mem_insertionSort _).mpr member
      rcases mem_evidence.mp inside with current | stale
      · by_cases dropped : y.childId = id
        · refine retired_holds steady (fun _ member => (List.mem_filter.mp member).1)
            (fun y' member => ?_) retained (List.mem_filter.mpr ⟨current, decide_eq_true dropped⟩)
          obtain ⟨known, ofChild⟩ := List.mem_filter.mp member
          exact clear y' known (.inl (by rw [of_decide_eq_true ofChild]; exact named))
        · have stays : y ∈ (c.completions.filter (·.childId ≠ id)).insertionSort
              ChildCompletion.childLe :=
            (List.mem_insertionSort _).mpr (List.mem_filter.mpr ⟨current, decide_eq_true dropped⟩)
          exact ⟨y, mem_evidence.mpr (.inl stays), rfl, rfl, rfl⟩
      · exact ⟨y, mem_evidence.mpr (.inr (retained y (mem_retire stale _))), rfl, rfl, rfl⟩
  obtain ⟨z, member, again⟩ := kept
  exact ⟨z, member, again.trans same⟩

theorem step_keeps (steady : Steady c) {operation : Operation} (clear : Clear c operation)
    (held : Holds c x) : Holds (step c operation) x := by
  unfold step
  split
  · next c' made =>
    cases operation with
    | complete reported =>
      obtain ⟨y, inside, same⟩ := held
      exact ⟨y, (complete_told made).1 y inside, same⟩
    | retry childId attemptId parentAttemptId lease => exact retry_keeps steady made clear held
  · exact held

theorem run_keeps (steady : Steady c) {operations : List Operation}
    (clear : Along step Clear c operations) (held : Holds c x) :
    Holds (run step c operations) x := by
  refine (@run_invariant _ _ step Clear (fun d => Steady d ∧ Holds d x) ?_ c operations
    ⟨steady, held⟩ clear).2
  exact fun d operation both clear =>
    ⟨(step_effect both.1 operation).2, step_keeps both.1 clear both.2⟩

end Evidence

/-! ## Status -/

section Status
variable {c c' : FanoutCoordinator} {s s' : ChildLifecycle} {id : Ident 128}

/-- `s'` is reached from `s` by transitions of a child. -/
def Follows : ChildLifecycle → ChildLifecycle → Prop :=
  Relation.ReflTransGen fun current target => target ∈ current.transitions

theorem follows_opened : Follows .planned .dispatched := .single (by decide)

/-- A terminal status is one of the transitions of DISPATCHED or, after it, of RUNNING. -/
theorem follows_reported (status : CompletionStatus) : Follows .dispatched status.lifecycle := by
  have started : Follows .dispatched .running := .single (by decide)
  cases status with
  | succeeded => exact started.tail (by decide)
  | failed => exact started.tail (by decide)
  | timedOut => exact .single (by decide)
  | cancelled => exact .single (by decide)
  | stale => exact .single (by decide)

/-- The statuses of a child without a completion. -/
def Awaited (s : ChildLifecycle) : Prop := s = .planned ∨ s = .dispatched

/-- What an operation in `c` may change a status by. -/
inductive StatusChange (c : FanoutCoordinator) :
    Operation → Ident 128 → ChildLifecycle → ChildLifecycle → Prop where
  /-- The completion of the child. -/
  | reported {x : ChildCompletion} (path : Follows .dispatched x.lifecycle) :
      StatusChange c (.complete x) x.childId .dispatched x.lifecycle
  /-- A success beside the child opens the next window. -/
  | opened {x : ChildCompletion} {id : Ident 128} (beside : id ≠ x.childId)
      (succeeded : x.status = .succeeded) (path : Follows .planned .dispatched) :
      StatusChange c (.complete x) id .planned .dispatched
  /-- Any other completion beside the child closes the window. -/
  | closed {x : ChildCompletion} {id : Ident 128} (beside : id ≠ x.childId)
      (failed : x.status ≠ .succeeded) : StatusChange c (.complete x) id .dispatched .planned
  /-- A retry starts the child again. -/
  | restarted {childId attemptId : String} {parentAttemptId : Option String} {lease : Option Nat}
      {id : Ident 128} {s s' : ChildLifecycle} (again : Restarts c childId parentAttemptId lease id)
      (fresh : Awaited s') :
      StatusChange c (.retry childId attemptId parentAttemptId lease) id s s'
  /-- A retry beside the child moves the window. -/
  | regrouped {childId attemptId : String} {parentAttemptId : Option String} {lease : Option Nat}
      {id : Ident 128} {s s' : ChildLifecycle} (before : Awaited s) (after : Awaited s') :
      StatusChange c (.retry childId attemptId parentAttemptId lease) id s s'

theorem lifecycleState_held {x : ChildCompletion} (observed : c.lifecycleState id = .ok s)
    (held : c.completionOf id = some x) : s = x.lifecycle := by
  unfold lifecycleState at observed
  split at observed
  · cases observed
  · rw [held] at observed
    exact (Except.ok.inj observed).symm

theorem lifecycleState_absent (observed : c.lifecycleState id = .ok s)
    (absent : c.completionOf id = none) :
    s = if id ∈ c.dispatchWindow then .dispatched else .planned := by
  unfold lifecycleState at observed
  split at observed
  · cases observed
  · rw [absent] at observed
    exact (Except.ok.inj observed).symm

theorem awaited_absent (observed : c.lifecycleState id = .ok s)
    (absent : c.completionOf id = none) : Awaited s := by
  rw [lifecycleState_absent observed absent]
  split
  · exact .inr rfl
  · exact .inl rfl

/-- A child whose completion is the same keeps its status, and one that has none is
awaited before and after. -/
theorem same_completion (before : c.lifecycleState id = .ok s)
    (after : c'.lifecycleState id = .ok s') (same : c'.completionOf id = c.completionOf id)
    (differs : s ≠ s') : c.completionOf id = none ∧ Awaited s ∧ Awaited s' := by
  cases held : c.completionOf id with
  | some x =>
    have now := lifecycleState_held after (same.trans held)
    exact absurd ((lifecycleState_held before held).trans now.symm) differs
  | none => exact ⟨rfl, awaited_absent before held, awaited_absent after (same.trans held)⟩

theorem recorded_change (steady : Steady c) {x y : ChildCompletion} (record : Recorded c x y c')
    (before : c.lifecycleState id = .ok s) (after : c'.lifecycleState id = .ok s')
    (differs : s ≠ s') : StatusChange c (.complete x) id s s' := by
  obtain ⟨child, -, rfl⟩ := record.expected
  have completionOf := record.completionOf steady
  have now : c'.completionOf x.childId = some (sourced x child) := by rw [completionOf, if_pos rfl]
  have held : ∀ other ≠ x.childId, c'.completionOf other = c.completionOf other :=
    fun other apart => by rw [completionOf, if_neg apart]
  have plan : c'.plan = c.plan := by rw [record.made]; rfl
  by_cases own : id = x.childId
  · subst own
    have first := lifecycleState_absent before record.absent
    rw [if_pos record.window] at first
    have last : s' = x.lifecycle := by
      rw [lifecycleState_held after now]
      exact congrArg CompletionStatus.lifecycle (sourced_status x child)
    rw [first, last]
    exact .reported (follows_reported x.status)
  · obtain ⟨absent, -, -⟩ := same_completion before after (held id own) differs
    have first := lifecycleState_absent before absent
    have last := lifecycleState_absent after ((held id own).trans absent)
    by_cases succeeded : x.status = .succeeded
    · have stays (inside : id ∈ c.dispatchWindow) : id ∈ c'.dispatchWindow := by
        unfold dispatchWindow
        rw [plan]
        exact windowOf_behind record.absent now ((sourced_status x child).trans succeeded) held inside own
      by_cases inside : id ∈ c.dispatchWindow
      · rw [if_pos inside] at first
        rw [if_pos (stays inside)] at last
        exact absurd (first.trans last.symm) differs
      · rw [if_neg inside] at first
        split at last
        · rw [first, last]
          exact .opened own succeeded follows_opened
        · exact absurd (first.trans last.symm) differs
    · have out : id ∉ c'.dispatchWindow := by
        unfold dispatchWindow
        rw [plan]
        exact windowOf_failed record.window now
          (fun same => succeeded ((sourced_status x child).symm.trans same)) held id
      rw [if_neg out] at last
      split at first
      · rw [first, last]
        exact .closed own succeeded
      · exact absurd (first.trans last.symm) differs

theorem retried_change (steady : Steady c) {childId attemptId : String}
    {parentAttemptId : Option String} {lease : Option Nat} {child attempt : Ident 128}
    (named : identText 128 "child_id" childId = .ok child)
    (parent : nextParent c parentAttemptId = .ok c'.parentAttemptId)
    (generation : c'.leaseGeneration = nextLease c lease) (retry : Retried c child attempt c')
    (before : c.lifecycleState id = .ok s) (after : c'.lifecycleState id = .ok s')
    (differs : s ≠ s') :
    StatusChange c (.retry childId attemptId parentAttemptId lease) id s s' := by
  by_cases own : id = child
  · subst own
    exact .restarted (.inl named) (awaited_absent after (retry.dropped steady))
  · cases retry with
    | renewed nextParentId nextLeaseId changed =>
      have again : Restarts c childId parentAttemptId lease id := by
        rcases changed with other | other
        · exact .inr (.inl fun unchanged => other (Except.ok.inj (parent.symm.trans unchanged)))
        · exact .inr (.inr fun unchanged => other (generation.trans unchanged))
      exact .restarted again (awaited_absent after rfl)
    | kept =>
      obtain ⟨-, first, last⟩ := same_completion before after (kept_completionOf steady own) differs
      exact .regrouped first last

theorem status_change (steady : Steady c) (operation : Operation)
    (before : c.lifecycleState id = .ok s)
    (after : (step c operation).lifecycleState id = .ok s') (differs : s ≠ s') :
    StatusChange c operation id s s' := by
  obtain ⟨effect, -⟩ := step_effect steady operation
  generalize step c operation = next at effect after
  cases effect with
  | unmoved same =>
    obtain ⟨absent, -, -⟩ := same_completion before after (same.completionOf id) differs
    have window : next.dispatchWindow = c.dispatchWindow := by
      have stages := windowOf_congr same.completionOf c.plan.stages
      obtain ⟨stale, rfl⟩ := same
      exact stages
    have last := lifecycleState_absent after ((same.completionOf id).trans absent)
    rw [window] at last
    exact absurd ((lifecycleState_absent before absent).trans last.symm) differs
  | recorded record => exact recorded_change steady record before after differs
  | retried named attemptNamed known fresh parent generation retry =>
    exact retried_change steady named parent generation retry before after differs

end Status

/-! ## Whole histories -/

theorem step_ok {c d : FanoutCoordinator} {operation : Operation}
    (made : operation.apply c = .ok d) : step c operation = d := by
  unfold step
  rw [made]

/-- Along a history in which every retry is clear, the result of an accepted
completion stays among the evidence under its child and attempt; and whatever the
history, a status changes only as `StatusChange` has it. -/
theorem evidence_and_status {plan : FanoutPlan} {parentAttemptId : Option (Ident 128)}
    {lease : Option Nat} {attempts : AttemptIds} {c : FanoutCoordinator}
    (started : fromPlan plan parentAttemptId lease attempts = .ok c) (operations : List Operation) :
    (Along step Clear c operations → ∀ before x after d,
      operations = before ++ .complete x :: after → (run step c before).complete x = .ok d →
        Holds (run step c operations) x) ∧
    ∀ operation id s s', (run step c operations).lifecycleState id = .ok s →
      (step (run step c operations) operation).lifecycleState id = .ok s' → s ≠ s' →
        StatusChange (run step c operations) operation id s s' := by
  constructor
  · rintro clear before x after d rfl accepted
    obtain ⟨-, -, later⟩ := (along_append _ _ _ _ _).mp clear
    rw [run_append, run_cons]
    have told : step (run step c before) (.complete x) = d := step_ok accepted
    rw [told] at later ⊢
    refine run_keeps ?_ later (complete_told accepted).2
    rw [← told]
    exact (step_effect (history_steady started before) _).2
  · exact fun operation id s s' before after differs =>
      status_change (history_steady started operations) operation before after differs

section Review

/-- Both children complete and `api` is retried: its result is retained. -/
theorem evidence_and_status_reopening :
    Holds (run step { plan := oneByOne } reopening) (report api .succeeded none) ∧
      StatusChange (run step { plan := oneByOne } []) (.complete (report api .succeeded none))
        api.childId .dispatched .succeeded := by
  have results := @evidence_and_status oneByOne none none [] { plan := oneByOne } rfl
  refine ⟨(results reopening).1 ⟨trivial, trivial, ?_, trivial⟩ [] _ _ _ rfl rfl,
    (results []).2 _ _ _ _ rfl rfl (by decide)⟩
  exact fun _ _ _ z held => absurd held List.not_mem_nil

/-- Evidence of the second attempt of `api` that arrives before its completion. -/
def earlyEvidence : ChildCompletion :=
  { (report api .succeeded (some secondAttempt)).asStale with
    resultRef := ⟨"early", by decide, by decide, by decide, by decide⟩ }

/-- The second attempt of `api` leaves evidence, completes and is retried. -/
def replaced : List Operation :=
  [.complete earlyEvidence, .complete (report api .succeeded (some secondAttempt)),
    .retry "api" "third" none none]

/-- The retry keeps the evidence that was there and drops the accepted result. The
observed status passes over RUNNING, a retry leaves a terminal status, and a failure
takes the sibling from DISPATCHED back to PLANNED. -/
theorem result_lost :
    fromPlan oneByOne none none [] = .ok { plan := oneByOne } ∧
      ((run step { plan := oneByOne } [.complete earlyEvidence]).complete
        (report api .succeeded (some secondAttempt))).isOk = true ∧
      (∀ y ∈ (run step { plan := oneByOne } replaced).evidenceCompletions,
        y.resultRef ≠ (report api .succeeded (some secondAttempt)).resultRef) ∧
      (let done := step { plan := oneByOne } (.complete (report api .succeeded none));
        ({ plan := oneByOne } : FanoutCoordinator).lifecycleState api.childId = .ok .dispatched ∧
        done.lifecycleState api.childId = .ok .succeeded ∧
        ChildLifecycle.succeeded ∉ ChildLifecycle.dispatched.transitions ∧
        (step done (.retry "api" "second" none none)).lifecycleState api.childId = .ok .dispatched ∧
        ChildLifecycle.dispatched ∉ ChildLifecycle.succeeded.transitions) ∧
      ({ plan := sideBySide } : FanoutCoordinator).lifecycleState web.childId = .ok .dispatched ∧
      (step { plan := sideBySide } (.complete (report api .failed none))).lifecycleState web.childId =
        .ok .planned ∧
      ChildLifecycle.planned ∉ ChildLifecycle.dispatched.transitions := by
  have left : (run step { plan := oneByOne } replaced).evidenceCompletions = [earlyEvidence] := rfl
  refine ⟨rfl, rfl, ?_, ⟨rfl, rfl, by decide, rfl, by decide⟩, rfl, rfl, by decide⟩
  rw [left]
  intro y member
  rw [List.mem_singleton.mp member]
  decide

end Review

end DwSuperApps.Guarantees.RetryEvidence
