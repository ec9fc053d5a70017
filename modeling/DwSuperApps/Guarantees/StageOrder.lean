import DwSuperApps.Guarantees.CoordinatorSteps
import DwSuperApps.Guarantees.ManifestOrder

/-!
# Stages of a fan-out

A child of a later stage is held or dispatched only over earlier stages that are
all SUCCEEDED, as long as no retry takes back the completion of a child while a
later stage already holds one. Then every result was recorded after the current
results of all its upstream children.
-/
namespace DwSuperApps.Guarantees.StageOrder

open DwSuperApps.Lib DwSuperApps.Lib.Checked DwSuperApps.Lib.Runs
open DwSuperApps.Source.Fanout DwSuperApps.Source.Fanout.FanoutCoordinator
open DwSuperApps.Guarantees.CoordinatorHistory DwSuperApps.Guarantees.CoordinatorSteps
open DwSuperApps.Guarantees.ManifestOrder (reviewParent api web)

/-! ## The stages of a plan -/

theorem chunks_flatten {α : Type} {size : Nat} (positive : 1 ≤ size) {fuel : Nat} {items : List α}
    (enough : items.length ≤ fuel) : (FanoutPlan.chunks size fuel items).flatten = items := by
  induction fuel generalizing items with
  | zero => rw [List.length_eq_zero_iff.mp (Nat.le_zero.mp enough)]; rfl
  | succ fuel ih =>
    cases items with
    | nil => rfl
    | cons item rest =>
      have shorter : ((item :: rest).drop size).length ≤ fuel := by
        rw [List.length_drop]
        omega
      unfold FanoutPlan.chunks
      rw [List.flatten_cons, ih shorter, List.take_append_drop]

theorem chunks_width {α : Type} {size fuel : Nat} {items chunk : List α}
    (member : chunk ∈ FanoutPlan.chunks size fuel items) : chunk.length ≤ size := by
  induction fuel generalizing items with
  | zero => cases member
  | succ fuel ih =>
    cases items with
    | nil => cases member
    | cons item rest =>
      rcases List.mem_cons.mp member with rfl | later
      · exact List.length_take_le _ _
      · exact ih later

/-- Every child stands in exactly one stage, and no stage is wider than the plan
allows. -/
structure Staged (plan : FanoutPlan) : Prop where
  children : plan.stages.flatten.Perm (plan.children.map (·.childId))
  width : ∀ stage ∈ plan.stages, stage.length ≤ plan.maxParallel

theorem normalizeStage_width {expected : List (Ident 128)} {maxParallel index : Nat}
    {raw : List String} {stage : List (Ident 128)}
    (made : FanoutPlan.normalizeStage expected maxParallel index raw = .ok stage) :
    stage.length ≤ maxParallel := by
  unfold FanoutPlan.normalizeStage at made
  obtain ⟨parsed, _, made⟩ := bind_ok.mp made
  obtain ⟨_, _, made⟩ := bind_ok.mp made
  obtain ⟨_, width, made⟩ := bind_ok.mp made
  obtain ⟨_, _, made⟩ := bind_ok.mp made
  obtain ⟨_, _, made⟩ := bind_ok.mp made
  cases made
  exact ensure_ok.mp width

theorem normalizeStages_staged {ids : List (Ident 128)} {mode : FanoutMode} {maxParallel : Nat}
    {stages : Option (List (List String))} {out : List (List (Ident 128))} (unique : ids.Nodup)
    (positive : 1 ≤ maxParallel)
    (made : FanoutPlan.normalizeStages ids mode maxParallel stages = .ok out) :
    out.flatten.Perm ids ∧ ∀ stage ∈ out, stage.length ≤ maxParallel := by
  unfold FanoutPlan.normalizeStages at made
  split at made
  · cases made
  · cases made
    rw [chunks_flatten positive (le_refl _)]
    exact ⟨.refl _, fun stage member => chunks_width member⟩
  · cases made
  · obtain ⟨_, _, made⟩ := bind_ok.mp made
    obtain ⟨result, parsed, made⟩ := bind_ok.mp made
    obtain ⟨_, complete, made⟩ := bind_ok.mp made
    cases made
    obtain ⟨covers, count⟩ := ensure_ok.mp complete
    have inside : List.Subperm ids out.flatten := List.subperm_of_subset unique covers
    refine ⟨(inside.perm_of_length_le count.le).symm, fun stage member => ?_⟩
    obtain ⟨raw, _, normalized⟩ := mapM_mem parsed member
    exact normalizeStage_width normalized

theorem fromParent_staged [Sha256] {parent : ParentContract} {children : List ChildContract}
    {mode : FanoutMode} {maxParallel : Option Nat} {stages : Option (List (List String))}
    {joinPolicy : JoinPolicy} {plan : FanoutPlan}
    (planned : FanoutPlan.fromParent parent children mode maxParallel stages joinPolicy = .ok plan) :
    Staged plan := by
  unfold FanoutPlan.fromParent at planned
  obtain ⟨_, _, planned⟩ := bind_ok.mp planned
  obtain ⟨_, _, planned⟩ := bind_ok.mp planned
  obtain ⟨_, _, planned⟩ := bind_ok.mp planned
  obtain ⟨_, _, planned⟩ := bind_ok.mp planned
  obtain ⟨_, unique, planned⟩ := bind_ok.mp planned
  obtain ⟨_, bounds, planned⟩ := bind_ok.mp planned
  obtain ⟨_, _, planned⟩ := bind_ok.mp planned
  obtain ⟨normalized, made, planned⟩ := bind_ok.mp planned
  cases planned
  obtain ⟨partition, width⟩ :=
    normalizeStages_staged (ensure_ok.mp unique) (ensure_ok.mp bounds).1 made
  exact ⟨partition, width⟩

theorem Staged.distinct {plan : FanoutPlan} (staged : Staged plan)
    (unique : (plan.children.map (·.childId)).Nodup) : plan.stages.flatten.Nodup :=
  staged.children.nodup_iff.mpr unique

/-! ## The current window -/

/-- The child holds a completion that succeeded. -/
def Succeeded (c : FanoutCoordinator) (id : Ident 128) : Prop :=
  ∃ x, c.completionOf id = some x ∧ x.status = .succeeded

section Window
variable {c : FanoutCoordinator}

/-- A window of a stage list: nothing once a stage failed, else what remains of
the first stage that is not complete. -/
theorem mem_windowOf_cons {stage : List (Ident 128)} {rest : List (List (Ident 128))}
    {id : Ident 128} : id ∈ c.windowOf (stage :: rest) ↔
      (∀ e ∈ stage, ∀ x, c.completionOf e = some x → x.status = .succeeded) ∧
        ((id ∈ stage ∧ c.completionOf id = none) ∨
          (∀ e ∈ stage, Succeeded c e) ∧ id ∈ c.windowOf rest) := by
  have clean_iff : ¬ (stage.any fun id => ((c.completionOf id).map fun held =>
      decide (held.status ≠ .succeeded)).getD false) = true ↔
        ∀ e ∈ stage, ∀ x, c.completionOf e = some x → x.status = .succeeded := by
    rw [List.any_eq_true, not_exists]
    constructor
    · intro none e member x held
      by_contra other
      exact none e ⟨member, by simp [held, other]⟩
    · rintro clean e ⟨member, failed⟩
      cases held : c.completionOf e with
      | none => simp [held] at failed
      | some x => simp [held, clean e member x held] at failed
  have complete_iff (clean : ∀ e ∈ stage, ∀ x, c.completionOf e = some x → x.status = .succeeded) :
      stage.filter (fun id => c.completionOf id = none) = [] ↔ ∀ e ∈ stage, Succeeded c e := by
    rw [List.filter_eq_nil_iff]
    constructor
    · intro held e member
      obtain ⟨x, found⟩ := Option.ne_none_iff_exists'.mp (by simpa using held e member)
      exact ⟨x, found, clean e member x found⟩
    · intro succeeded e member
      obtain ⟨x, found, _⟩ := succeeded e member
      simp [found]
  conv_lhs => unfold windowOf
  split
  · next failed =>
    refine ⟨fun inside => absurd inside List.not_mem_nil, ?_⟩
    rintro ⟨clean, _⟩
    exact absurd failed (clean_iff.mpr clean)
  · next open' =>
    have clean := clean_iff.mp open'
    rw [and_iff_right clean]
    dsimp only
    split
    · next remaining =>
      have incomplete := mt (complete_iff clean).mpr remaining
      rw [List.mem_filter, decide_eq_true_iff]
      exact ⟨.inl, fun either => either.resolve_right fun full => incomplete full.1⟩
    · next full =>
      have succeeded := (complete_iff clean).mp (not_not.mp full)
      refine ⟨fun inside => .inr ⟨succeeded, inside⟩, ?_⟩
      rintro (⟨member, absent⟩ | ⟨_, inside⟩)
      · obtain ⟨x, found, _⟩ := succeeded id member
        rw [absent] at found
        cases found
      · exact inside

/-- Only the first stages of a window's stage are complete below it. -/
theorem window_ordered {stages : List (List (Ident 128))} (distinct : stages.flatten.Nodup) :
    stages.Pairwise fun earlier later =>
      (∃ id ∈ later, id ∈ c.windowOf stages) → ∀ e ∈ earlier, Succeeded c e := by
  induction stages with
  | nil => exact .nil
  | cons stage rest ih =>
    rw [List.flatten_cons, List.nodup_append] at distinct
    obtain ⟨_, others, apart⟩ := distinct
    refine List.pairwise_cons.mpr ⟨?_, (ih others).imp_of_mem ?_⟩
    · rintro later member ⟨id, inLater, inside⟩
      rcases (mem_windowOf_cons.mp inside).2 with ⟨inStage, _⟩ | ⟨all, _⟩
      · exact absurd rfl (apart id inStage id (List.mem_flatten.mpr ⟨later, member, inLater⟩))
      · exact all
    · rintro earlier later _ member below ⟨id, inLater, inside⟩
      rcases (mem_windowOf_cons.mp inside).2 with ⟨inStage, _⟩ | ⟨_, further⟩
      · exact absurd rfl (apart id inStage id (List.mem_flatten.mpr ⟨later, member, inLater⟩))
      · exact below ⟨id, inLater, further⟩

end Window

/-! ## Stage order along a history -/

/-- A stage with a child that holds a completion, or is dispatched, stands over
stages that are all SUCCEEDED. -/
def Ordered (c : FanoutCoordinator) : Prop :=
  c.plan.stages.Pairwise fun earlier later =>
    (∃ id ∈ later, c.completionOf id ≠ none ∨ id ∈ c.dispatchWindow) → ∀ e ∈ earlier, Succeeded c e

/-- The order of the completions held. -/
def HeldOrdered (c : FanoutCoordinator) : Prop :=
  c.plan.stages.Pairwise fun earlier later =>
    (∃ id ∈ later, c.completionOf id ≠ none) → ∀ e ∈ earlier, Succeeded c e

theorem HeldOrdered.ordered {c : FanoutCoordinator} (held : HeldOrdered c)
    (distinct : c.plan.stages.flatten.Nodup) : Ordered c := by
  refine (held.and (window_ordered (c := c) distinct)).imp ?_
  rintro earlier later ⟨ofHeld, ofWindow⟩ ⟨id, member, holds | dispatched⟩
  · exact ofHeld ⟨id, member, holds⟩
  · exact ofWindow ⟨id, member, dispatched⟩

/-- A retry that keeps the generation takes back a completion only while no later
stage holds one. -/
def Upstream (c : FanoutCoordinator) : Operation → Prop
  | .complete _ => True
  | .retry childId _ parentAttemptId lease =>
    ∀ id, identText 128 "child_id" childId = .ok id → c.completionOf id ≠ none →
      nextParent c parentAttemptId = .ok c.parentAttemptId → nextLease c lease = c.leaseGeneration →
      c.plan.stages.Pairwise fun earlier later =>
        id ∈ earlier → ∀ l ∈ later, c.completionOf l = none

/-- What a step does to the completion of each child. -/
inductive Moved (c c' : FanoutCoordinator) : Prop where
  | same (held : ∀ id, c'.completionOf id = c.completionOf id)
  | recorded (id : Ident 128) (window : id ∈ c.dispatchWindow) (absent : c.completionOf id = none)
      (held : ∀ other ≠ id, c'.completionOf other = c.completionOf other)
  | dropped (none : ∀ id, c'.completionOf id = none)
  | retried (id : Ident 128) (gone : c'.completionOf id = none)
      (held : ∀ other ≠ id, c'.completionOf other = c.completionOf other)
      (upstream : c.completionOf id ≠ none → c.plan.stages.Pairwise fun earlier later =>
        id ∈ earlier → ∀ l ∈ later, c.completionOf l = none)

theorem step_moved {c : FanoutCoordinator} (steady : Steady c) {operation : Operation}
    (upstream : Upstream c operation) :
    (step c operation).plan = c.plan ∧ Moved c (step c operation) := by
  obtain ⟨effect, _⟩ := step_effect steady operation
  generalize step c operation = c' at effect
  cases effect with
  | unmoved same => exact ⟨by obtain ⟨_, rfl⟩ := same; rfl, .same same.completionOf⟩
  | @recorded x y _ record =>
    refine ⟨record.made ▸ rfl, .recorded x.childId record.window record.absent ?_⟩
    intro other apart
    rw [record.completionOf steady, if_neg apart]
  | @retried _ _ _ _ id attempt _ named _ _ _ parent generation retry =>
    refine ⟨retry.plan, ?_⟩
    have gone := retry.dropped steady
    cases retry with
    | renewed _ _ changed => exact .dropped fun _ => rfl
    | kept =>
      refine .retried id gone (fun other apart => kept_completionOf steady apart) ?_
      exact fun holds => upstream id named holds parent generation.symm

theorem Moved.heldOrdered {c c' : FanoutCoordinator} (moved : Moved c c') (plan : c'.plan = c.plan)
    (distinct : c.plan.stages.flatten.Nodup) (ordered : HeldOrdered c) : HeldOrdered c' := by
  unfold HeldOrdered
  rw [plan]
  cases moved with
  | same held => simpa only [HeldOrdered, Succeeded, held] using ordered
  | recorded id window absent held =>
    -- a completion of the window stands over complete stages
    refine (ordered.ordered distinct).imp ?_
    rintro earlier later below ⟨l, member, holds⟩ e inEarlier
    have before : Succeeded c e := by
      refine below ⟨l, member, ?_⟩ e inEarlier
      by_cases new : l = id
      · exact .inr (new ▸ window)
      · exact .inl (held l new ▸ holds)
    obtain ⟨x, found, succeeded⟩ := before
    have apart : e ≠ id := by
      rintro rfl
      rw [absent] at found
      cases found
    exact ⟨x, (held e apart).trans found, succeeded⟩
  | dropped none =>
    refine ordered.imp ?_
    rintro earlier later _ ⟨l, _, holds⟩
    exact absurd (none l) holds
  | retried id gone held upstream =>
    by_cases holds : c.completionOf id = none
    · -- nothing was taken back
      have same : ∀ other, c'.completionOf other = c.completionOf other := by
        intro other
        by_cases here : other = id
        · rw [here, gone, holds]
        · exact held other here
      simpa only [HeldOrdered, Succeeded, same] using ordered
    · refine (ordered.and (upstream holds)).imp ?_
      rintro earlier later ⟨below, closed⟩ ⟨l, member, found⟩ e inEarlier
      have apart : l ≠ id := by
        rintro rfl
        exact found gone
      rw [held l apart] at found
      obtain ⟨x, current, succeeded⟩ := below ⟨l, member, found⟩ e inEarlier
      have other : e ≠ id := by
        rintro rfl
        exact found (closed inEarlier l member)
      exact ⟨x, (held e other).trans current, succeeded⟩

/-! ## When each completion was recorded -/

/-- A coordinator with the time its current completions were recorded. -/
structure Timed where
  coordinator : FanoutCoordinator
  clock : Nat := 0
  recordedAt : Ident 128 → Nat := fun _ => 0

def Timed.step (t : Timed) (operation : Operation) : Timed :=
  let next := CoordinatorHistory.step t.coordinator operation
  { coordinator := next
    clock := t.clock + 1
    recordedAt := fun id =>
      if next.completionOf id = t.coordinator.completionOf id then t.recordedAt id else t.clock + 1 }

/-- A completion is recorded after those of the earlier stages. -/
def Timely (t : Timed) : Prop :=
  (∀ id, t.recordedAt id ≤ t.clock) ∧
    t.coordinator.plan.stages.Pairwise fun earlier later =>
      ∀ l ∈ later, t.coordinator.completionOf l ≠ none →
        ∀ e ∈ earlier, t.recordedAt e < t.recordedAt l

/-- The step-by-step invariant of a history whose retries are all upstream. -/
structure InOrder (t : Timed) : Prop where
  steady : Steady t.coordinator
  distinct : t.coordinator.plan.stages.flatten.Nodup
  held : HeldOrdered t.coordinator
  timely : Timely t

section Times
variable {t : Timed} {operation : Operation} {id : Ident 128}

theorem recordedAt_kept (same : (t.step operation).coordinator.completionOf id =
    t.coordinator.completionOf id) : (t.step operation).recordedAt id = t.recordedAt id := if_pos same

theorem recordedAt_new (other : (t.step operation).coordinator.completionOf id ≠
    t.coordinator.completionOf id) : (t.step operation).recordedAt id = t.clock + 1 := if_neg other

theorem recordedAt_le (bounded : t.recordedAt id ≤ t.clock) :
    (t.step operation).recordedAt id ≤ (t.step operation).clock := by
  change _ ≤ t.clock + 1
  by_cases same : (t.step operation).coordinator.completionOf id = t.coordinator.completionOf id
  · rw [recordedAt_kept same]
    omega
  · rw [recordedAt_new same]

end Times

theorem step_timely {t : Timed} (inOrder : InOrder t) {operation : Operation}
    (upstream : Upstream t.coordinator operation) : Timely (t.step operation) := by
  obtain ⟨bounded, ordered⟩ := inOrder.timely
  obtain ⟨plan, moved⟩ := step_moved inOrder.steady upstream
  have before := inOrder.held.ordered inOrder.distinct
  have after := moved.heldOrdered plan inOrder.distinct inOrder.held
  refine ⟨fun id => recordedAt_le (bounded id), ?_⟩
  change (CoordinatorHistory.step t.coordinator operation).plan.stages.Pairwise _
  unfold HeldOrdered at after
  rw [plan] at after ⊢
  refine (ordered.and (before.and after)).imp ?_
  rintro earlier later ⟨old, below, belowAfter⟩ l member holds e inEarlier
  obtain ⟨y, current, _⟩ := belowAfter ⟨l, member, holds⟩ e inEarlier
  cases moved with
  | same held =>
    rw [recordedAt_kept (held e), recordedAt_kept (held l)]
    exact old l member (held l ▸ holds) e inEarlier
  | recorded id window absent held =>
    have apart : ∀ k ∈ later, t.coordinator.completionOf k ≠ none ∨ k ∈ t.coordinator.dispatchWindow →
        e ≠ id := by
      rintro k inLater shown rfl
      obtain ⟨x, found, _⟩ := below ⟨k, inLater, shown⟩ e inEarlier
      rw [absent] at found
      cases found
    by_cases new : l = id
    · subst new
      rw [recordedAt_kept (held e (apart l member (.inr window))),
        recordedAt_new (fun same => holds (same.trans absent))]
      exact Nat.lt_succ_of_le (bounded e)
    · have was : t.coordinator.completionOf l ≠ none := held l new ▸ holds
      rw [recordedAt_kept (held e (apart l member (.inl was))), recordedAt_kept (held l new)]
      exact old l member was e inEarlier
  | dropped none => exact absurd (none l) holds
  | retried id gone held _ =>
    have other : l ≠ id := by
      rintro rfl
      exact holds gone
    have apart : e ≠ id := by
      rintro rfl
      rw [gone] at current
      cases current
    rw [recordedAt_kept (held e apart), recordedAt_kept (held l other)]
    exact old l member (held l other ▸ holds) e inEarlier

theorem step_inOrder {t : Timed} (inOrder : InOrder t) {operation : Operation}
    (upstream : Upstream t.coordinator operation) : InOrder (t.step operation) := by
  obtain ⟨plan, moved⟩ := step_moved inOrder.steady upstream
  refine ⟨(step_effect inOrder.steady operation).2, ?_,
    moved.heldOrdered plan inOrder.distinct inOrder.held, step_timely inOrder upstream⟩
  change (CoordinatorHistory.step t.coordinator operation).plan.stages.flatten.Nodup
  rw [plan]
  exact inOrder.distinct

theorem fromPlan_inOrder [Sha256] {parent : ParentContract} {children : List ChildContract}
    {mode : FanoutMode} {maxParallel : Option Nat} {stages : Option (List (List String))}
    {joinPolicy : JoinPolicy} {plan : FanoutPlan}
    (planned : FanoutPlan.fromParent parent children mode maxParallel stages joinPolicy = .ok plan)
    {parentAttemptId : Option (Ident 128)} {lease : Option Nat} {attempts : AttemptIds}
    {c : FanoutCoordinator} (started : fromPlan plan parentAttemptId lease attempts = .ok c) :
    InOrder { coordinator := c } := by
  obtain ⟨steady, rfl, empty⟩ := fromPlan_steady started
  have nothing : ∀ id, c.completionOf id = none := by
    intro id
    unfold FanoutCoordinator.completionOf
    rw [empty]
    rfl
  refine ⟨steady, (fromParent_staged planned).distinct
    (ManifestLedger.fromParent_valid planned).unique, ?_, fun _ => le_refl _, ?_⟩
  · exact List.pairwise_of_forall fun _ _ ⟨l, _, holds⟩ => absurd (nothing l) holds
  · exact List.pairwise_of_forall fun _ _ l _ holds => absurd (nothing l) holds

/-- Along a history whose retries take back a completion only while no later stage
holds one, a child is held or dispatched only over SUCCEEDED earlier stages, and
its completion was recorded after those of all earlier stages. -/
theorem upstream_recorded_first [Sha256] {parent : ParentContract} {children : List ChildContract}
    {mode : FanoutMode} {maxParallel : Option Nat} {stages : Option (List (List String))}
    {joinPolicy : JoinPolicy} {plan : FanoutPlan}
    (planned : FanoutPlan.fromParent parent children mode maxParallel stages joinPolicy = .ok plan)
    {parentAttemptId : Option (Ident 128)} {lease : Option Nat} {attempts : AttemptIds}
    {c : FanoutCoordinator} (started : fromPlan plan parentAttemptId lease attempts = .ok c)
    (operations : List Operation)
    (admitted : Along Timed.step (fun t => Upstream t.coordinator) { coordinator := c } operations) :
    Ordered (run Timed.step { coordinator := c } operations).coordinator ∧
      Timely (run Timed.step { coordinator := c } operations) := by
  have inOrder : InOrder (run Timed.step { coordinator := c } operations) := by
    refine @run_invariant _ _ Timed.step _ InOrder ?_ _ _ (fromPlan_inOrder planned started) admitted
    exact fun t operation held upstream => step_inOrder held upstream
  exact ⟨inOrder.held.ordered inOrder.distinct, inOrder.timely⟩

/-! ## Two stages of one child -/

section Review

@[reducible] def flatHash : Sha256 where
  bits _ := 9

/-- The plan that runs `api` before `web`. -/
def oneByOne : FanoutPlan where
  parentContractId := reviewParent.contractId
  parentContractDigest := reviewParent.contractDigest
  parentBoundaryDigest := reviewParent.boundaryDigest
  runId := reviewParent.runId
  nodeId := reviewParent.nodeId
  planVersion := reviewParent.planVersion
  children := [api, web]
  mode := .parallel
  maxParallel := 1
  joinPolicy := .allRequired
  stages := [[api.childId], [web.childId]]
  planDigest := Digest.ofNat 9

theorem oneByOne_planned :
    @FanoutPlan.fromParent flatHash reviewParent [api, web] .parallel (some 1) none .allRequired =
      .ok oneByOne := by
  rfl

theorem no_sources : (none : Option Digest) = none ↔ (none : Option Digest) = none := by simp
theorem evidence_kept (status : CompletionStatus) (impossible : false = true) : status = .stale := by
  cases impossible

/-- An unbound completion of a child. -/
def report (child : ChildContract) (status : CompletionStatus) (attemptId : Option (Ident 128)) :
    ChildCompletion where
  childId := child.childId
  childContractDigest := child.contractDigest
  status := status
  resultRef := ⟨"result", by decide, by decide, by decide, by decide⟩
  resultDigest := Digest.ofNat 6
  attemptId := attemptId
  sources := no_sources
  staleEvidence := evidence_kept status

def secondAttempt : Ident 128 := ⟨"second", by decide, by decide⟩

/-- Both children complete, then `api` is retried. -/
def reopening : List Operation :=
  [.complete (report api .succeeded none), .complete (report web .succeeded none),
    .retry "api" "second" none none]

/-- `api` is retried before `web` completes. -/
def retriedInTime : List Operation :=
  [.complete (report api .succeeded none), .retry "api" "second" none none,
    .complete (report api .succeeded (some secondAttempt)), .complete (report web .succeeded none)]

theorem upstream_recorded_first_retried :
    Ordered (run Timed.step { coordinator := { plan := oneByOne } } retriedInTime).coordinator ∧
      Timely (run Timed.step { coordinator := { plan := oneByOne } } retriedInTime) := by
  refine @upstream_recorded_first flatHash _ _ _ _ _ _ _ oneByOne_planned none none []
    { plan := oneByOne } rfl retriedInTime ⟨trivial, ?_, trivial, trivial, trivial⟩
  intro id _ _ _ _
  refine List.pairwise_cons.mpr ⟨?_, List.pairwise_singleton _ _⟩
  intro later inLater _ l member
  rw [List.mem_singleton.mp inLater] at member
  rw [List.mem_singleton.mp member]
  rfl

def reopened : FanoutCoordinator where
  plan := oneByOne
  completions := [report web .succeeded none]
  childAttemptIds := [(api.childId, secondAttempt)]
  staleCompletions := [(report api .succeeded none).asStale]

theorem reopened_unordered : ¬ Ordered reopened := by
  intro ordered
  obtain ⟨first, _⟩ := List.pairwise_cons.mp ordered
  have below := first [web.childId] (List.mem_singleton.mpr rfl)
  have holds : reopened.completionOf web.childId ≠ none := by
    rw [show reopened.completionOf web.childId = some (report web .succeeded none) from rfl]
    simp
  obtain ⟨x, held, _⟩ := below ⟨web.childId, List.mem_singleton.mpr rfl, .inl holds⟩ api.childId
    (List.mem_singleton.mpr rfl)
  rw [show reopened.completionOf api.childId = none from rfl] at held
  cases held

/-- After the retry `web` is held over an open stage, and the join becomes READY
with the result of `web` recorded before that of `api`. -/
theorem reopened_stage_behind :
    @FanoutPlan.fromParent flatHash reviewParent [api, web] .parallel (some 1) none .allRequired =
        .ok oneByOne ∧
      fromPlan oneByOne none none [] = .ok { plan := oneByOne } ∧
      ¬ Ordered (run Timed.step { coordinator := { plan := oneByOne } } reopening).coordinator ∧
      let last := run Timed.step { coordinator := { plan := oneByOne } }
        (reopening ++ [.complete (report api .succeeded (some secondAttempt))])
      last.coordinator.join.status = .ready ∧
        last.recordedAt web.childId < last.recordedAt api.childId := by
  have reached : (run Timed.step { coordinator := { plan := oneByOne } } reopening).coordinator =
      reopened := rfl
  refine ⟨oneByOne_planned, rfl, reached ▸ reopened_unordered, rfl, ?_⟩
  have ofWeb : (run Timed.step { coordinator := { plan := oneByOne } }
      (reopening ++ [.complete (report api .succeeded (some secondAttempt))])).recordedAt
        web.childId = 2 := rfl
  have ofApi : (run Timed.step { coordinator := { plan := oneByOne } }
      (reopening ++ [.complete (report api .succeeded (some secondAttempt))])).recordedAt
        api.childId = 4 := rfl
  rw [ofWeb, ofApi]
  decide

end Review

end DwSuperApps.Guarantees.StageOrder
