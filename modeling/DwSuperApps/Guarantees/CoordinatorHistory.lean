import DwSuperApps.Lib.Runs
import DwSuperApps.Source.Fanout

/-!
# Fan-out coordinators under completions and retries

What the constructor of a coordinator promises of the records it holds. Every
operation that succeeds ends in the constructor or leaves the coordinator as it
was, so the promise holds along every history.
-/
namespace DwSuperApps.Guarantees.CoordinatorHistory

open DwSuperApps.Lib DwSuperApps.Lib.Checked DwSuperApps.Lib.Runs
open DwSuperApps.Source.Fanout
open DwSuperApps.Source.Fanout.FanoutCoordinator

/-- The record is of a child of the plan, under its contract. -/
def OfPlan (plan : FanoutPlan) (c : ChildCompletion) : Prop :=
  ∃ child, plan.child? c.childId = some child ∧ c.childContractDigest = child.contractDigest

structure Sound (c : FanoutCoordinator) : Prop where
  completions : ∀ completion ∈ c.completions, OfPlan c.plan completion
  once : (c.completions.map (·.childId)).Nodup
  attempts : ∀ p ∈ c.childAttemptIds, c.plan.child? p.1 ≠ none
  evidence : ∀ s ∈ c.staleCompletions, OfPlan c.plan s ∧ s.evidenceOnly = true

/-! ## The checks of the constructor -/

section Constructor
variable {plan : FanoutPlan}

theorem mem_set {ids : AttemptIds} {child attempt : Ident 128} {p : Ident 128 × Ident 128}
    (member : p ∈ ids.set child attempt) : p ∈ ids ∨ p = (child, attempt) := by
  unfold AttemptIds.set at member
  split at member
  · obtain ⟨q, held, moved⟩ := List.mem_map.mp member
    split at moved
    · exact .inr moved.symm
    · exact .inl (moved ▸ held)
  · simpa using member

theorem collectAttempts_known {collected given out : AttemptIds}
    (made : collectAttempts plan collected given = .ok out)
    (known : ∀ p ∈ collected, plan.child? p.1 ≠ none) : ∀ p ∈ out, plan.child? p.1 ≠ none := by
  induction given generalizing collected with
  | nil =>
    cases made
    exact known
  | cons pair rest ih =>
    obtain ⟨child, attempt⟩ := pair
    unfold collectAttempts at made
    obtain ⟨_, ofPlan, made⟩ := bind_ok.mp made
    obtain ⟨_, _, made⟩ := bind_ok.mp made
    refine ih made ?_
    intro p member
    rcases mem_set member with held | rfl
    · exact known p held
    · exact ensure_ok.mp ofPlan

theorem checkCompletion_ofPlan {parentAttemptId : Option (Ident 128)} {lease : Option Nat}
    {c : ChildCompletion} (checked : checkCompletion plan parentAttemptId lease c = .ok ()) :
    OfPlan plan c := by
  unfold checkCompletion at checked
  split at checked
  · cases checked
  · next expected found =>
    obtain ⟨_, digest, _⟩ := bind_ok.mp checked
    exact ⟨expected, found, ensure_ok.mp digest⟩

theorem bindAttempts_known {parentAttemptId : Option (Ident 128)} {lease : Option Nat}
    {attempts out : AttemptIds} {completions : List ChildCompletion}
    (made : bindAttempts plan parentAttemptId lease attempts completions = .ok out)
    (known : ∀ p ∈ attempts, plan.child? p.1 ≠ none) :
    (∀ p ∈ out, plan.child? p.1 ≠ none) ∧ ∀ c ∈ completions, OfPlan plan c := by
  induction completions generalizing attempts with
  | nil =>
    cases made
    exact ⟨known, by simp⟩
  | cons c rest ih =>
    unfold bindAttempts at made
    obtain ⟨_, checked, made⟩ := bind_ok.mp made
    obtain ⟨_, _, made⟩ := bind_ok.mp made
    have ofPlan := checkCompletion_ofPlan checked
    obtain ⟨bound, others⟩ := ih made (by
      intro p member
      split at member
      · rcases mem_set member with held | rfl
        · exact known p held
        · obtain ⟨child, found, _⟩ := ofPlan
          simp [found]
      · exact known p member)
    exact ⟨bound, List.forall_mem_cons.mpr ⟨ofPlan, others⟩⟩

theorem collectById_once {collected items out : List ChildCompletion}
    (made : collectById collected items = .ok out) (once : (collected.map (·.childId)).Nodup) :
    (out.map (·.childId)).Nodup ∧ ∀ c ∈ out, c ∈ collected ∨ c ∈ items := by
  induction items generalizing collected with
  | nil =>
    cases made
    exact ⟨once, fun c member => .inl member⟩
  | cons c rest ih =>
    unfold collectById at made
    split at made
    · next absent =>
      have fresh : c.childId ∉ collected.map (·.childId) := by
        intro member
        obtain ⟨d, held, same⟩ := List.mem_map.mp member
        exact absurd same (by simpa using List.find?_eq_none.mp absent d held)
      obtain ⟨unique, among⟩ := ih made (by
        rw [List.map_append, List.nodup_append]
        refine ⟨once, List.nodup_singleton _, ?_⟩
        intro a held b single
        rw [List.mem_singleton.mp single]
        rintro rfl
        exact fresh held)
      refine ⟨unique, ?_⟩
      intro d member
      rcases among d member with held | later
      · rcases List.mem_append.mp held with old | new
        · exact .inl old
        · exact .inr (by simp [List.mem_singleton.mp new])
      · exact .inr (by simp [later])
    · split at made
      · obtain ⟨unique, among⟩ := ih made once
        exact ⟨unique, fun d member => (among d member).imp_right fun later => by simp [later]⟩
      · cases made

theorem collectStale_evidence {collected items out : List ChildCompletion}
    (made : collectStale plan collected items = .ok out)
    (held : ∀ s ∈ collected, OfPlan plan s ∧ s.evidenceOnly = true) :
    ∀ s ∈ out, OfPlan plan s ∧ s.evidenceOnly = true := by
  induction items generalizing collected with
  | nil =>
    cases made
    exact held
  | cons c rest ih =>
    unfold collectStale at made
    obtain ⟨_, checked, made⟩ := bind_ok.mp made
    have evidence : OfPlan plan c ∧ c.evidenceOnly = true := by
      unfold checkStale at checked
      split at checked
      · cases checked
      · next expected found =>
        obtain ⟨_, digest, status⟩ := bind_ok.mp checked
        exact ⟨⟨expected, found, ensure_ok.mp digest⟩, (ensure_ok.mp status).2⟩
    split at made
    · refine ih made ?_
      intro s member
      rcases List.mem_append.mp member with old | new
      · exact held s old
      · exact List.mem_singleton.mp new ▸ evidence
    · split at made
      · exact ih made held
      · cases made

theorem make_sound {completions stale : List ChildCompletion} {parentAttemptId : Option (Ident 128)}
    {lease : Option Nat} {attempts : AttemptIds} {c : FanoutCoordinator}
    (made : make plan completions parentAttemptId lease attempts stale = .ok c) :
    c.plan = plan ∧ Sound c := by
  unfold make at made
  obtain ⟨_, _, made⟩ := bind_ok.mp made
  obtain ⟨_, _, made⟩ := bind_ok.mp made
  obtain ⟨given, collected, made⟩ := bind_ok.mp made
  obtain ⟨bound, binding, made⟩ := bind_ok.mp made
  obtain ⟨byId, unique, made⟩ := bind_ok.mp made
  obtain ⟨evidence, retained, made⟩ := bind_ok.mp made
  cases made
  obtain ⟨known, ofPlan⟩ := bindAttempts_known binding (collectAttempts_known collected (by simp))
  obtain ⟨once, among⟩ := collectById_once unique (by simp)
  refine ⟨rfl, ?_, ?_, ?_, ?_⟩
  · intro completion member
    rcases among completion ((List.mem_insertionSort _).mp member) with none | given
    · cases none
    · exact ofPlan completion given
  · exact ((List.perm_insertionSort _ byId).map _).nodup_iff.mpr once
  · exact fun p member => known p ((List.mem_insertionSort _).mp member)
  · exact fun s member => collectStale_evidence retained (by simp) s ((List.mem_insertionSort _).mp member)

end Constructor

/-! ## Histories -/

inductive Operation where
  | complete (completion : ChildCompletion)
  | retry (childId attemptId : String) (parentAttemptId : Option String)
      (leaseGeneration : Option Nat)

def Operation.apply (c : FanoutCoordinator) : Operation → Except Failure FanoutCoordinator
  | .complete completion => c.complete completion
  | .retry childId attemptId parentAttemptId leaseGeneration =>
    c.retryChild childId attemptId parentAttemptId leaseGeneration

/-- A refused operation leaves the coordinator as it is. -/
def step (c : FanoutCoordinator) (operation : Operation) : FanoutCoordinator :=
  match operation.apply c with
  | .ok c' => c'
  | .error _ => c

section History
variable {c c' : FanoutCoordinator}

/-- The coordinator itself, or one made anew over the same plan. -/
def Remade (c c' : FanoutCoordinator) : Prop := c' = c ∨ c'.plan = c.plan ∧ Sound c'

theorem recordStale_remade {completion : ChildCompletion}
    (made : c.recordStale completion = .ok c') : Remade c c' := by
  unfold recordStale at made
  extract_lets stale at made
  split at made
  · split at made
    · exact .inl (Except.ok.inj made).symm
    · cases made
  · exact .inr (make_sound made)

theorem completeCurrent_remade {completion : ChildCompletion} {expected : ChildContract}
    {parentAttemptId : Option (Ident 128)} {lease : Option Nat}
    (made : c.completeCurrent completion expected parentAttemptId lease = .ok c') : Remade c c' := by
  unfold completeCurrent at made
  extract_lets id normalized attempts at made
  split at made
  · exact recordStale_remade made
  · split at made
    · cases made
    · split at made
      · split at made
        · exact .inl (Except.ok.inj made).symm
        · cases made
      · split at made
        · cases made
        · exact .inr (make_sound made)

theorem complete_remade {completion : ChildCompletion} (made : c.complete completion = .ok c') :
    Remade c c' := by
  unfold complete at made
  extract_lets id at made
  split at made
  · cases made
  · repeat' split at made
    all_goals first
      | exact recordStale_remade made
      | exact completeCurrent_remade made
      | cases made

theorem retryChild_remade {childId attemptId : String} {parentAttemptId : Option String}
    {lease : Option Nat} (made : c.retryChild childId attemptId parentAttemptId lease = .ok c') :
    Remade c c' := by
  unfold retryChild at made
  obtain ⟨_, _, made⟩ := bind_ok.mp made
  obtain ⟨_, _, made⟩ := bind_ok.mp made
  obtain ⟨_, _, made⟩ := bind_ok.mp made
  obtain ⟨_, _, made⟩ := bind_ok.mp made
  obtain ⟨_, _, made⟩ := bind_ok.mp made
  obtain ⟨_, _, made⟩ := bind_ok.mp made
  split at made
  · exact .inr (make_sound made)
  · exact .inr (make_sound made)

theorem step_sound {plan : FanoutPlan} (held : c.plan = plan ∧ Sound c) (operation : Operation) :
    (step c operation).plan = plan ∧ Sound (step c operation) := by
  have remade : Remade c (step c operation) := by
    unfold step
    split
    · next c' made =>
      cases operation with
      | complete completion => exact complete_remade made
      | retry childId attemptId parentAttemptId lease => exact retryChild_remade made
    · exact .inl rfl
  rcases remade with same | ⟨samePlan, sound⟩
  · rw [same]
    exact held
  · exact ⟨samePlan.trans held.1, sound⟩

/-- Every coordinator of a plan is sound, whatever it was told. -/
theorem history_sound {plan : FanoutPlan} {parentAttemptId : Option (Ident 128)} {lease : Option Nat}
    {attempts : AttemptIds} (started : fromPlan plan parentAttemptId lease attempts = .ok c)
    (operations : List Operation) :
    (run step c operations).plan = plan ∧ Sound (run step c operations) := by
  refine @run_invariant_of_forall _ _ step (fun d => d.plan = plan ∧ Sound d) ?_ c operations
    (make_sound started)
  exact fun d operation held => step_sound held operation

end History

end DwSuperApps.Guarantees.CoordinatorHistory
