import DwSuperApps.Lib.Keyed
import DwSuperApps.Guarantees.CoordinatorHistory
import DwSuperApps.Guarantees.ManifestLedger

/-!
# What one operation does to a coordinator

A coordinator its constructor made holds records that pass the checks of the
constructor again, in the order it lists them (`Steady`). So an operation that
keeps the completions leaves every other field literally as it was, and the
three things an accepted operation can do are: retain evidence, record a
completion of the current window, start a new attempt of one child.
-/
namespace DwSuperApps.Guarantees.CoordinatorSteps

open DwSuperApps.Lib DwSuperApps.Lib.Checked DwSuperApps.Lib.Runs
open DwSuperApps.Source.Fanout DwSuperApps.Source.Fanout.FanoutCoordinator
open DwSuperApps.Guarantees.CoordinatorHistory

/-! ## Attempts as a dictionary -/

section Attempts
variable {ids : AttemptIds} {child attempt : Ident 128}

theorem lookup_replaced (other : Ident 128) :
    (ids.map fun p => if p.1 = child then (child, attempt) else p).lookup other =
      if other = child then (ids.lookup other).map fun _ => attempt else ids.lookup other := by
  induction ids with
  | nil => simp
  | cons p rest ih =>
    obtain ⟨held, bound⟩ := p
    rw [List.map_cons]
    by_cases here : held = child
    · rw [if_pos here, List.lookup_cons, List.lookup_cons, ih, here]
      by_cases asked : other = child
      · simp [asked]
      · simp [asked, beq_false_of_ne asked]
    · rw [if_neg here, List.lookup_cons, List.lookup_cons, ih]
      by_cases asked : other = held
      · simp [asked, here]
      · simp [beq_false_of_ne asked]

theorem lookup_set (other : Ident 128) :
    (ids.set child attempt).lookup other =
      if other = child then some attempt else ids.lookup other := by
  unfold AttemptIds.set
  split
  · next present =>
    rw [lookup_replaced]
    split
    · next asked =>
      subst asked
      have bound : ids.lookup other ≠ none := by
        rw [ne_eq, Keyed.lookup_none, not_not]
        obtain ⟨p, member, same⟩ := List.any_eq_true.mp present
        exact List.mem_map.mpr ⟨p, member, of_decide_eq_true same⟩
      obtain ⟨a, found⟩ := Option.ne_none_iff_exists'.mp bound
      rw [found]
      rfl
    · rfl
  · next absent =>
    have fresh : child ∉ ids.map Prod.fst := by
      intro member
      obtain ⟨p, held, same⟩ := List.mem_map.mp member
      exact absent (List.any_eq_true.mpr ⟨p, held, decide_eq_true same⟩)
    rw [List.lookup_append]
    split
    · next asked =>
      rw [asked, Keyed.lookup_none.mpr fresh]
      simp
    · next other =>
      rw [List.lookup_cons, beq_false_of_ne other]
      simp

theorem set_once (once : (ids.map Prod.fst).Nodup) :
    ((ids.set child attempt).map Prod.fst).Nodup := by
  unfold AttemptIds.set
  split
  · have keys : (ids.map fun p => if p.1 = child then (child, attempt) else p).map Prod.fst =
        ids.map Prod.fst := by
      rw [List.map_map]
      refine List.map_congr_left fun p _ => ?_
      by_cases here : p.1 = child <;> simp [here]
    rw [keys]
    exact once
  · next absent =>
    rw [List.map_append, List.nodup_append]
    refine ⟨once, List.nodup_singleton _, ?_⟩
    rintro a held b single rfl
    obtain ⟨p, member, same⟩ := List.mem_map.mp held
    refine absent (List.any_eq_true.mpr ⟨p, member, decide_eq_true ?_⟩)
    rw [same, List.mem_singleton.mp single]

theorem sorted_perm (ids : AttemptIds) : ids.sorted.Perm ids := List.perm_insertionSort _ ids

theorem lookup_sorted (once : (ids.map Prod.fst).Nodup) (other : Ident 128) :
    ids.sorted.lookup other = ids.lookup other :=
  (Keyed.lookup_perm once (sorted_perm ids).symm other).symm

/-- The attempts with the one the completion names. -/
def bindAttempt (ids : AttemptIds) (x : ChildCompletion) : AttemptIds :=
  match x.attemptId with
  | some attempt => ids.set x.childId attempt
  | none => ids

theorem lookup_bindAttempt {x : ChildCompletion}
    (same : ∀ a, ids.lookup x.childId = some a → x.attemptId = some a) (other : Ident 128) :
    (bindAttempt ids x).lookup other =
      if other = x.childId then x.attemptId else ids.lookup other := by
  unfold bindAttempt
  split
  · next named => rw [lookup_set, named]
  · next unnamed =>
    split
    · next asked =>
      rw [asked, unnamed]
      cases found : ids.lookup x.childId with
      | none => rfl
      | some a => exact absurd (same a found) (by simp [unnamed])
    · rfl

theorem bindAttempt_once {x : ChildCompletion} (once : (ids.map Prod.fst).Nodup) :
    ((bindAttempt ids x).map Prod.fst).Nodup := by
  unfold bindAttempt
  split
  · exact set_once once
  · exact once

theorem mem_bindAttempt {x : ChildCompletion} {p : Ident 128 × Ident 128}
    (member : p ∈ bindAttempt ids x) : p ∈ ids ∨ p.1 = x.childId := by
  unfold bindAttempt at member
  split at member
  · exact (mem_set member).imp_right fun same => by rw [same]
  · exact .inl member

end Attempts

/-! ## The constructor on records that pass its checks -/

section Constructor
variable {plan : FanoutPlan}

theorem collectAttempts_eq {collected given : AttemptIds}
    (known : ∀ p ∈ given, plan.child? p.1 ≠ none)
    (once : ((collected ++ given).map Prod.fst).Nodup) :
    collectAttempts plan collected given = .ok (collected ++ given) := by
  induction given generalizing collected with
  | nil => rw [List.append_nil]; rfl
  | cons p rest ih =>
    obtain ⟨child, attempt⟩ := p
    have fresh : child ∉ collected.map Prod.fst := by
      rw [List.map_append, List.nodup_append] at once
      exact fun held => once.2.2 child held child (by simp) rfl
    have unbound := Keyed.lookup_none.mpr fresh
    have extended : collected.set child attempt = collected ++ [(child, attempt)] := by
      refine if_neg fun present => fresh ?_
      obtain ⟨q, member, same⟩ := List.any_eq_true.mp present
      exact List.mem_map.mpr ⟨q, member, of_decide_eq_true same⟩
    have split : collected ++ (child, attempt) :: rest = collected ++ [(child, attempt)] ++ rest := by
      simp
    unfold collectAttempts
    rw [ensure_of (known (child, attempt) List.mem_cons_self), ok_bind,
      ensure_of (by simp [unbound]), ok_bind, extended, split]
    exact ih (fun q member => known q (List.mem_cons_of_mem _ member)) (split ▸ once)

theorem collectAttempts_once {collected given out : AttemptIds}
    (made : collectAttempts plan collected given = .ok out)
    (once : (collected.map Prod.fst).Nodup) : (out.map Prod.fst).Nodup := by
  induction given generalizing collected with
  | nil =>
    cases made
    exact once
  | cons p rest ih =>
    unfold collectAttempts at made
    obtain ⟨_, _, made⟩ := bind_ok.mp made
    obtain ⟨_, _, made⟩ := bind_ok.mp made
    exact ih made (set_once once)

variable {parentAttemptId : Option (Ident 128)} {lease : Option Nat}

theorem bindAttempts_eq {attempts : AttemptIds} {completions : List ChildCompletion}
    (checked : ∀ x ∈ completions, checkCompletion plan parentAttemptId lease x = .ok ())
    (bound : ∀ x ∈ completions, attempts.lookup x.childId = x.attemptId) :
    bindAttempts plan parentAttemptId lease attempts completions = .ok attempts := by
  induction completions with
  | nil => rfl
  | cons x rest ih =>
    obtain ⟨first, others⟩ := List.forall_mem_cons.mp checked
    obtain ⟨named, later⟩ := List.forall_mem_cons.mp bound
    unfold bindAttempts
    rw [first, ok_bind, ensure_of (by simp [named]), ok_bind]
    refine (congrArg (bindAttempts plan parentAttemptId lease · rest) ?_).trans (ih others later)
    rw [named]
    cases x.attemptId <;> rfl

theorem bindAttempts_checked {attempts out : AttemptIds} {completions : List ChildCompletion}
    (made : bindAttempts plan parentAttemptId lease attempts completions = .ok out) :
    ∀ x ∈ completions, checkCompletion plan parentAttemptId lease x = .ok () := by
  induction completions generalizing attempts with
  | nil => simp
  | cons x rest ih =>
    unfold bindAttempts at made
    obtain ⟨_, checked, made⟩ := bind_ok.mp made
    obtain ⟨_, _, made⟩ := bind_ok.mp made
    exact List.forall_mem_cons.mpr ⟨checked, ih made⟩

theorem collectById_eq {collected items : List ChildCompletion}
    (once : ((collected ++ items).map (·.childId)).Nodup) :
    collectById collected items = .ok (collected ++ items) := by
  induction items generalizing collected with
  | nil => rw [List.append_nil]; rfl
  | cons x rest ih =>
    have absent : collected.find? (·.childId = x.childId) = none := by
      rw [List.map_append, List.nodup_append] at once
      refine List.find?_eq_none.mpr fun y member => ?_
      simpa using once.2.2 y.childId (List.mem_map_of_mem member) x.childId (by simp)
    have split : collected ++ x :: rest = collected ++ [x] ++ rest := by simp
    unfold collectById
    rw [absent]
    dsimp only
    rw [split]
    exact ih (split ▸ once)

theorem collectStale_eq {collected items : List ChildCompletion}
    (checked : ∀ s ∈ items, checkStale plan s = .ok ())
    (keys : ((collected ++ items).map (·.evidenceKey)).Nodup) :
    collectStale plan collected items = .ok (collected ++ items) := by
  induction items generalizing collected with
  | nil => rw [List.append_nil]; rfl
  | cons x rest ih =>
    obtain ⟨first, others⟩ := List.forall_mem_cons.mp checked
    have absent : collected.find? (·.evidenceKey = x.evidenceKey) = none := by
      rw [List.map_append, List.nodup_append] at keys
      refine List.find?_eq_none.mpr fun y member => ?_
      simpa using keys.2.2 y.evidenceKey (List.mem_map_of_mem member) x.evidenceKey (by simp)
    have split : collected ++ x :: rest = collected ++ [x] ++ rest := by simp
    unfold collectStale
    rw [first, ok_bind, absent]
    dsimp only
    rw [split]
    exact ih others (split ▸ keys)

theorem collectStale_checked {collected items out : List ChildCompletion}
    (made : collectStale plan collected items = .ok out) :
    ∀ s ∈ items, checkStale plan s = .ok () := by
  induction items generalizing collected with
  | nil => simp
  | cons x rest ih =>
    unfold collectStale at made
    obtain ⟨_, checked, made⟩ := bind_ok.mp made
    refine List.forall_mem_cons.mpr ⟨checked, ?_⟩
    split at made
    · exact ih made
    · split at made
      · exact ih made
      · cases made

theorem checkCompletion_bound {plan : FanoutPlan} {parentAttemptId : Option (Ident 128)}
    {lease : Option Nat} {x : ChildCompletion}
    (checked : checkCompletion plan parentAttemptId lease x = .ok ()) (bound : parentAttemptId ≠ none) :
    x.hasParentBinding = true ∧ x.planVersion.map (·.value) = some plan.planVersion.value ∧
      x.planDigest = some plan.planDigest ∧ x.parentAttemptId = parentAttemptId ∧
      x.leaseGeneration = lease := by
  unfold checkCompletion at checked
  extract_lets id at checked
  split at checked
  · cases checked
  · obtain ⟨_, _, checked⟩ := bind_ok.mp checked
    rw [if_neg bound] at checked
    obtain ⟨_, binding, checked⟩ := bind_ok.mp checked
    obtain ⟨_, version, checked⟩ := bind_ok.mp checked
    obtain ⟨_, digest, checked⟩ := bind_ok.mp checked
    obtain ⟨_, parent, checked⟩ := bind_ok.mp checked
    obtain ⟨_, generation, _⟩ := bind_ok.mp checked
    exact ⟨ensure_ok.mp binding, ensure_ok.mp version, ensure_ok.mp digest, ensure_ok.mp parent,
      ensure_ok.mp generation⟩

/-- Records that pass every check of the constructor. -/
structure Admissible (plan : FanoutPlan) (completions : List ChildCompletion)
    (parentAttemptId : Option (Ident 128)) (lease : Option Nat) (attempts : AttemptIds)
    (stale : List ChildCompletion) : Prop where
  generation : parentAttemptId = none ↔ lease = none
  known : ∀ p ∈ attempts, plan.child? p.1 ≠ none
  single : (attempts.map Prod.fst).Nodup
  checked : ∀ x ∈ completions, checkCompletion plan parentAttemptId lease x = .ok ()
  bound : ∀ x ∈ completions, attempts.lookup x.childId = x.attemptId
  once : (completions.map (·.childId)).Nodup
  evidence : ∀ s ∈ stale, checkStale plan s = .ok ()
  keys : (stale.map (·.evidenceKey)).Nodup

/-- The coordinator over the records, each kind in its order. -/
def listed (plan : FanoutPlan) (completions : List ChildCompletion)
    (parentAttemptId : Option (Ident 128)) (lease : Option Nat) (attempts : AttemptIds)
    (stale : List ChildCompletion) : FanoutCoordinator where
  plan := plan
  completions := completions.insertionSort ChildCompletion.childLe
  parentAttemptId := parentAttemptId
  leaseGeneration := lease
  childAttemptIds := attempts.sorted
  staleCompletions := stale.insertionSort ChildCompletion.sequenceLe

variable {completions stale : List ChildCompletion} {attempts : AttemptIds}

theorem make_eq (h : Admissible plan completions parentAttemptId lease attempts stale) :
    make plan completions parentAttemptId lease attempts stale =
      .ok (listed plan completions parentAttemptId lease attempts stale) := by
  unfold make
  rw [ensure_of h.generation.mp, ok_bind, ensure_of (mt h.generation.mpr), ok_bind,
    @collectAttempts_eq plan [] attempts h.known h.single, ok_bind, List.nil_append,
    bindAttempts_eq h.checked h.bound, ok_bind, @collectById_eq [] completions h.once, ok_bind,
    @collectStale_eq plan [] stale h.evidence h.keys, ok_bind, List.nil_append, List.nil_append]
  rfl

/-- What a success of the constructor says of what it was given. -/
structure Checked (plan : FanoutPlan) (completions : List ChildCompletion)
    (parentAttemptId : Option (Ident 128)) (lease : Option Nat) (stale : List ChildCompletion) :
    Prop where
  generation : parentAttemptId = none ↔ lease = none
  completions : ∀ x ∈ completions, checkCompletion plan parentAttemptId lease x = .ok ()
  evidence : ∀ s ∈ stale, checkStale plan s = .ok ()

theorem make_checked {c : FanoutCoordinator}
    (made : make plan completions parentAttemptId lease attempts stale = .ok c) :
    Checked plan completions parentAttemptId lease stale := by
  unfold make at made
  obtain ⟨_, unbound, made⟩ := bind_ok.mp made
  obtain ⟨_, bound, made⟩ := bind_ok.mp made
  obtain ⟨given, _, made⟩ := bind_ok.mp made
  obtain ⟨_, binding, made⟩ := bind_ok.mp made
  obtain ⟨_, _, made⟩ := bind_ok.mp made
  obtain ⟨_, retained, _⟩ := bind_ok.mp made
  refine ⟨⟨ensure_ok.mp unbound, ?_⟩, bindAttempts_checked binding, collectStale_checked retained⟩
  intro none
  by_contra some
  exact ensure_ok.mp bound some none

end Constructor

/-! ## Steady coordinators -/

open ChildCompletion (childLe sequenceLe)

instance : IsTrans ChildCompletion childLe :=
  ⟨fun _ _ _ first second => le_trans (α := String) first second⟩

instance : Std.Total (α := ChildCompletion) childLe :=
  ⟨fun a b => le_total a.childId.value b.childId.value⟩

instance : IsTrans ChildCompletion sequenceLe :=
  ⟨fun _ _ _ first second => le_trans (α := List String) first second⟩

instance : Std.Total (α := ChildCompletion) sequenceLe :=
  ⟨fun _ _ => le_total (α := List String) _ _⟩

instance : IsTrans (Ident 128 × Ident 128) AttemptIds.itemLe :=
  ⟨fun _ _ _ => ManifestLedger.pairLe_trans⟩

instance : Std.Total (α := Ident 128 × Ident 128) AttemptIds.itemLe :=
  ⟨fun _ _ => ManifestLedger.pairLe_total _ _⟩

/-- The records of the coordinator pass the checks of its constructor and stand in
its order. -/
structure Steady (c : FanoutCoordinator) : Prop where
  records : Admissible c.plan c.completions c.parentAttemptId c.leaseGeneration c.childAttemptIds
    c.staleCompletions
  ordered : c.completions.Pairwise ChildCompletion.childLe
  bindings : c.childAttemptIds.Pairwise AttemptIds.itemLe
  retained : c.staleCompletions.Pairwise sequenceLe

theorem listed_steady {plan : FanoutPlan} {completions stale : List ChildCompletion}
    {parentAttemptId : Option (Ident 128)} {lease : Option Nat} {attempts : AttemptIds}
    (h : Admissible plan completions parentAttemptId lease attempts stale) :
    Steady (listed plan completions parentAttemptId lease attempts stale) := by
  have completionsPerm := List.perm_insertionSort childLe completions
  have stalePerm := List.perm_insertionSort sequenceLe stale
  have attemptsPerm := sorted_perm attempts
  constructor
  · constructor
    · exact h.generation
    · exact fun p member => h.known p (attemptsPerm.mem_iff.mp member)
    · exact (attemptsPerm.map Prod.fst).nodup_iff.mpr h.single
    · exact fun x member => h.checked x (completionsPerm.mem_iff.mp member)
    · intro x member
      exact (lookup_sorted h.single x.childId).trans (h.bound x (completionsPerm.mem_iff.mp member))
    · exact (completionsPerm.map _).nodup_iff.mpr h.once
    · exact fun s member => h.evidence s (stalePerm.mem_iff.mp member)
    · exact (stalePerm.map _).nodup_iff.mpr h.keys
  · exact List.pairwise_insertionSort childLe completions
  · exact List.pairwise_insertionSort AttemptIds.itemLe attempts
  · exact List.pairwise_insertionSort sequenceLe stale

/-- The constructor leaves a steady coordinator as it is, new evidence apart. -/
theorem Steady.again {c : FanoutCoordinator} (h : Steady c) {stale : List ChildCompletion}
    (evidence : ∀ s ∈ stale, checkStale c.plan s = .ok ())
    (keys : (stale.map (·.evidenceKey)).Nodup) :
    make c.plan c.completions c.parentAttemptId c.leaseGeneration c.childAttemptIds stale =
        .ok { c with staleCompletions := stale.insertionSort sequenceLe } ∧
      Steady { c with staleCompletions := stale.insertionSort sequenceLe } := by
  have admissible : Admissible c.plan c.completions c.parentAttemptId c.leaseGeneration
      c.childAttemptIds stale := { h.records with evidence, keys }
  have same : listed c.plan c.completions c.parentAttemptId c.leaseGeneration c.childAttemptIds
      stale = { c with staleCompletions := stale.insertionSort sequenceLe } := by
    unfold listed AttemptIds.sorted
    rw [h.ordered.insertionSort_eq, h.bindings.insertionSort_eq]
  exact ⟨same ▸ make_eq admissible, same ▸ listed_steady admissible⟩

/-- The first coordinator of a plan. -/
theorem fromPlan_steady {plan : FanoutPlan} {parentAttemptId : Option (Ident 128)}
    {lease : Option Nat} {attempts : AttemptIds} {c : FanoutCoordinator}
    (made : fromPlan plan parentAttemptId lease attempts = .ok c) :
    Steady c ∧ c.plan = plan ∧ c.completions = [] := by
  have generation := (make_checked made).generation
  unfold fromPlan make at made
  obtain ⟨_, _, made⟩ := bind_ok.mp made
  obtain ⟨_, _, made⟩ := bind_ok.mp made
  obtain ⟨given, collected, made⟩ := bind_ok.mp made
  have known := collectAttempts_known collected (by simp)
  have single := collectAttempts_once collected (by simp)
  have admissible : Admissible plan [] parentAttemptId lease given [] :=
    ⟨generation, known, single, by simp, by simp, by simp, by simp, by simp⟩
  cases made
  exact ⟨listed_steady admissible, rfl, rfl⟩

/-! ## What an operation does -/

section Cases
variable {c c' : FanoutCoordinator}

/-- Only the retained evidence differs. -/
def Unmoved (c c' : FanoutCoordinator) : Prop := ∃ stale, c' = { c with staleCompletions := stale }

theorem recordStale_cases (steady : Steady c) {x : ChildCompletion}
    (made : c.recordStale x = .ok c') : Unmoved c c' ∧ Steady c' := by
  unfold recordStale at made
  extract_lets stale at made
  split at made
  · split at made
    · cases made
      exact ⟨⟨c.staleCompletions, rfl⟩, steady⟩
    · cases made
  · next absent =>
    have keys : ((c.staleCompletions ++ [stale]).map (·.evidenceKey)).Nodup := by
      rw [List.map_append, List.nodup_append]
      refine ⟨steady.records.keys, List.nodup_singleton _, ?_⟩
      rintro a held b single rfl
      obtain ⟨s, member, same⟩ := List.mem_map.mp held
      exact Keyed.find_none absent s member (same.trans (List.mem_singleton.mp single))
    obtain ⟨again, kept⟩ := steady.again (make_checked made).evidence keys
    cases made.symm.trans again
    exact ⟨⟨_, rfl⟩, kept⟩

/-- The completion with the sources of its contract, where it is bound and names
none. -/
def sourced (x : ChildCompletion) (expected : ChildContract) : ChildCompletion :=
  if x.hasParentBinding ∧ x.sourceDigest = none then
    x.withSources expected.sourceDigest expected.standardsProfileDigest
  else x

section Sourced
variable (x : ChildCompletion) (expected : ChildContract)

@[simp] theorem sourced_childId : (sourced x expected).childId = x.childId := by
  unfold sourced; split <;> rfl

@[simp] theorem sourced_attemptId : (sourced x expected).attemptId = x.attemptId := by
  unfold sourced; split <;> rfl

@[simp] theorem sourced_status : (sourced x expected).status = x.status := by
  unfold sourced; split <;> rfl

end Sourced

/-- The completion `x` is recorded as `y`. -/
structure Recorded (c : FanoutCoordinator) (x y : ChildCompletion) (c' : FanoutCoordinator) :
    Prop where
  expected : ∃ child, c.plan.child? x.childId = some child ∧ y = sourced x child
  window : x.childId ∈ c.dispatchWindow
  absent : c.completionOf x.childId = none
  attempt : ∀ a, c.childAttemptIds.lookup x.childId = some a → x.attemptId = some a
  generation : c.parentAttemptId ≠ none →
    c'.parentAttemptId = c.parentAttemptId ∧ c'.leaseGeneration = c.leaseGeneration
  binds : c.parentAttemptId = none →
    c'.parentAttemptId = x.parentAttemptId ∧ c'.leaseGeneration = x.leaseGeneration
  made : c' = listed c.plan (c.completions ++ [y]) c'.parentAttemptId c'.leaseGeneration
    (bindAttempt c.childAttemptIds y) c.staleCompletions

/-- The records of a coordinator with one more completion, of the current attempt
of its child. -/
theorem Steady.recordAdmissible (steady : Steady c) {x : ChildCompletion} {child : ChildContract}
    (found : c.plan.child? x.childId = some child) (absent : c.completionOf x.childId = none)
    (attempt : ∀ a, c.childAttemptIds.lookup x.childId = some a → x.attemptId = some a)
    {parentAttemptId : Option (Ident 128)} {lease : Option Nat}
    (generation : parentAttemptId = none ↔ lease = none)
    (checked : ∀ y ∈ c.completions ++ [sourced x child],
      checkCompletion c.plan parentAttemptId lease y = .ok ()) :
    Admissible c.plan (c.completions ++ [sourced x child]) parentAttemptId lease
      (bindAttempt c.childAttemptIds (sourced x child)) c.staleCompletions := by
  have lookups := @lookup_bindAttempt c.childAttemptIds (sourced x child)
    (by rw [sourced_childId, sourced_attemptId]; exact attempt)
  constructor
  · exact generation
  · intro p member
    rcases mem_bindAttempt member with old | new
    · exact steady.records.known p old
    · rw [new, sourced_childId, found]
      simp
  · exact bindAttempt_once steady.records.single
  · exact checked
  · intro y member
    rw [lookups]
    rcases List.mem_append.mp member with old | new
    · rw [if_neg (sourced_childId x child ▸ Keyed.find_none absent y old)]
      exact steady.records.bound y old
    · rw [List.mem_singleton.mp new, if_pos rfl]
  · rw [List.map_append, List.nodup_append]
    refine ⟨steady.records.once, List.nodup_singleton _, ?_⟩
    rintro a old b new rfl
    obtain ⟨y, member, same⟩ := List.mem_map.mp old
    have ofX : a = (sourced x child).childId := List.mem_singleton.mp new
    exact Keyed.find_none absent y member (same.trans (ofX.trans (sourced_childId x child)))
  · exact steady.records.evidence
  · exact steady.records.keys

theorem completeCurrent_cases (steady : Steady c) {x : ChildCompletion} {expected : ChildContract}
    {parentAttemptId : Option (Ident 128)} {lease : Option Nat}
    (found : c.plan.child? x.childId = some expected)
    (generation : c.parentAttemptId ≠ none →
      parentAttemptId = c.parentAttemptId ∧ lease = c.leaseGeneration)
    (binds : c.parentAttemptId = none →
      parentAttemptId = x.parentAttemptId ∧ lease = x.leaseGeneration)
    (made : c.completeCurrent x expected parentAttemptId lease = .ok c') :
    (Unmoved c c' ∨ ∃ y, Recorded c x y c') ∧ Steady c' := by
  unfold completeCurrent at made
  extract_lets id normalized attempts at made
  have ofX : normalized = sourced x expected := rfl
  split at made
  · exact (recordStale_cases steady made).imp_left .inl
  · next current =>
    have attempt : ∀ a, c.childAttemptIds.lookup x.childId = some a → x.attemptId = some a := by
      intro a bound
      by_contra other
      exact current ⟨a, bound, other⟩
    split at made
    · cases made
    · split at made
      · split at made
        · cases made
          exact ⟨.inl ⟨c.staleCompletions, rfl⟩, steady⟩
        · cases made
      · next absent =>
        split at made
        · cases made
        · next window =>
          have sameChild : normalized.childId = x.childId := sourced_childId x expected
          have sameAttempts : attempts = bindAttempt c.childAttemptIds normalized :=
            congrArg (fun child => match normalized.attemptId with
              | some attempt => AttemptIds.set c.childAttemptIds child attempt
              | none => c.childAttemptIds) sameChild.symm
          have passed := make_checked made
          have admissible := steady.recordAdmissible found absent attempt passed.generation
            passed.completions
          rw [sameAttempts] at made
          cases made.symm.trans (make_eq admissible)
          refine ⟨.inr ⟨normalized, ⟨expected, found, ofX⟩, not_not.mp window, absent, attempt,
            generation, binds, rfl⟩, listed_steady admissible⟩

/-- A completion without a plan version names no generation. -/
theorem unbound_generation {x : ChildCompletion} (unbound : ¬ x.hasParentBinding = true) :
    x.parentAttemptId = none ∧ x.leaseGeneration = none := by
  have noVersion : x.planVersion = none := by
    rw [← Option.not_isSome_iff_eq_none]
    exact unbound
  constructor
  · by_contra named
    exact (x.bound (.inr (.inr (.inl named)))).2.1 noVersion
  · by_contra named
    exact (x.bound (.inr (.inr (.inr named)))).2.1 noVersion

theorem complete_cases (steady : Steady c) {x : ChildCompletion} (made : c.complete x = .ok c') :
    (Unmoved c c' ∨ ∃ y, Recorded c x y c') ∧ Steady c' := by
  unfold complete at made
  extract_lets id at made
  split at made
  · cases made
  · next expected found =>
    repeat' split at made
    · cases made
    · exact (recordStale_cases steady made).imp_left .inl
    · cases made
    · next unbound =>
      refine completeCurrent_cases steady found (fun _ => ⟨rfl, rfl⟩) (fun none => ?_) made
      obtain ⟨noParent, noLease⟩ := unbound_generation unbound
      exact ⟨none.trans noParent.symm, (steady.records.generation.mp none).trans noLease.symm⟩
    · exact (recordStale_cases steady made).imp_left .inl
    · cases made
    · next none =>
      exact completeCurrent_cases steady found (fun some => absurd none some) (fun _ => ⟨rfl, rfl⟩) made
    · exact (recordStale_cases steady made).imp_left .inl
    · next bound _ =>
      exact completeCurrent_cases steady found (fun _ => ⟨rfl, rfl⟩) (fun none => absurd none bound) made

theorem retire_keys {stale completions : List ChildCompletion}
    (keys : (stale.map (·.evidenceKey)).Nodup) :
    ((retire stale completions).map (·.evidenceKey)).Nodup := by
  induction completions generalizing stale with
  | nil => exact keys
  | cons x rest ih =>
    unfold retire
    split
    · exact ih keys
    · next fresh =>
      refine ih ?_
      rw [List.map_append, List.nodup_append]
      refine ⟨keys, List.nodup_singleton _, ?_⟩
      rintro a held b single rfl
      obtain ⟨s, member, same⟩ := List.mem_map.mp held
      refine fresh (List.any_eq_true.mpr ⟨s, member, decide_eq_true ?_⟩)
      exact same.trans (List.mem_singleton.mp single)

theorem lookup_retried {ids : AttemptIds} {id attempt other : Ident 128} (apart : other ≠ id) :
    (ids.filter (·.1 ≠ id) ++ [(id, attempt)]).lookup other = ids.lookup other := by
  rw [List.lookup_append, List.lookup_cons, beq_false_of_ne apart, List.lookup_nil, Option.or_none]
  induction ids with
  | nil => rfl
  | cons p rest ih =>
    obtain ⟨held, bound⟩ := p
    by_cases here : held = id
    · rw [List.filter_cons_of_neg (by simp [here]), ih, List.lookup_cons,
        beq_false_of_ne (here ▸ apart)]
    · rw [List.filter_cons_of_pos (by simp [here]), List.lookup_cons, List.lookup_cons, ih]

/-- What a retry of `id` under the attempt `attempt` leaves: every completion is
dropped where the generation changes, the one of the child where it does not. -/
inductive Retried (c : FanoutCoordinator) (id attempt : Ident 128) : FanoutCoordinator → Prop where
  | renewed (parentAttemptId : Option (Ident 128)) (lease : Option Nat)
      (changed : parentAttemptId ≠ c.parentAttemptId ∨ lease ≠ c.leaseGeneration) :
      Retried c id attempt (listed c.plan [] parentAttemptId lease [(id, attempt)]
        (retire c.staleCompletions c.completions))
  | kept : Retried c id attempt
      (listed c.plan (c.completions.filter (·.childId ≠ id)) c.parentAttemptId c.leaseGeneration
        (c.childAttemptIds.filter (·.1 ≠ id) ++ [(id, attempt)])
        (retire c.staleCompletions (c.completions.filter (·.childId = id))))

/-- The lease generation a retry goes on with. -/
def nextLease (c : FanoutCoordinator) (lease : Option Nat) : Option Nat :=
  lease.orElse fun _ => c.leaseGeneration

/-- The parent attempt a retry goes on with. -/
def nextParent (c : FanoutCoordinator) (parentAttemptId : Option String) :
    Except Failure (Option (Ident 128)) :=
  match parentAttemptId with
  | some raw => (identText 128 "parent_attempt_id" raw).map some
  | none => .ok c.parentAttemptId

theorem retryChild_cases (steady : Steady c) {childId attemptId : String}
    {parentAttemptId : Option String} {lease : Option Nat}
    (made : c.retryChild childId attemptId parentAttemptId lease = .ok c') :
    (∃ id attempt, identText 128 "child_id" childId = .ok id ∧
      identText 128 "attempt_id" attemptId = .ok attempt ∧ c.plan.child? id ≠ none ∧
      c.currentAttemptId id ≠ some attempt ∧
      nextParent c parentAttemptId = .ok c'.parentAttemptId ∧
      c'.leaseGeneration = nextLease c lease ∧ Retried c id attempt c') ∧ Steady c' := by
  unfold retryChild at made
  obtain ⟨id, named, made⟩ := bind_ok.mp made
  obtain ⟨_, known, made⟩ := bind_ok.mp made
  obtain ⟨attempt, attemptNamed, made⟩ := bind_ok.mp made
  obtain ⟨_, fresh, made⟩ := bind_ok.mp made
  obtain ⟨parent, ofParent, made⟩ := bind_ok.mp made
  obtain ⟨_, _, made⟩ := bind_ok.mp made
  have known := ensure_ok.mp known
  have fresh := ensure_ok.mp fresh
  have ofParent : nextParent c parentAttemptId = .ok parent := ofParent
  split at made
  · next changed =>
    have admissible : Admissible c.plan [] parent (nextLease c lease) [(id, attempt)]
        (retire c.staleCompletions c.completions) := by
      refine ⟨(make_checked made).generation, ?_, List.nodup_singleton _, by simp, by simp, by simp,
        (make_checked made).evidence, retire_keys steady.records.keys⟩
      intro p member
      rw [List.mem_singleton.mp member]
      exact known
    cases made.symm.trans (make_eq admissible)
    exact ⟨⟨id, attempt, named, attemptNamed, known, fresh, ofParent, rfl, .renewed _ _ changed⟩,
      listed_steady admissible⟩
  · next unchanged =>
    obtain ⟨sameParent, sameLease⟩ := not_or.mp unchanged
    have sameParent := not_not.mp sameParent
    have sameLease : nextLease c lease = c.leaseGeneration := not_not.mp sameLease
    rw [sameParent] at made
    have passed := make_checked made
    have absent : id ∉ (c.childAttemptIds.filter (·.1 ≠ id)).map Prod.fst := by
      intro member
      obtain ⟨p, held, same⟩ := List.mem_map.mp member
      simpa [same] using (List.mem_filter.mp held).2
    have admissible : Admissible c.plan (c.completions.filter (·.childId ≠ id)) c.parentAttemptId
        c.leaseGeneration (c.childAttemptIds.filter (·.1 ≠ id) ++ [(id, attempt)])
        (retire c.staleCompletions (c.completions.filter (·.childId = id))) := by
      constructor
      · exact steady.records.generation
      · intro p member
        rcases List.mem_append.mp member with old | new
        · exact steady.records.known p (List.mem_filter.mp old).1
        · rw [List.mem_singleton.mp new]
          exact known
      · rw [List.map_append, List.nodup_append]
        refine ⟨(List.filter_sublist.map _).nodup steady.records.single, List.nodup_singleton _, ?_⟩
        rintro a held b single rfl
        have same : a = id := List.mem_singleton.mp single
        exact absent (same ▸ held)
      · exact fun x member => steady.records.checked x (List.mem_filter.mp member).1
      · intro x member
        obtain ⟨held, other⟩ := List.mem_filter.mp member
        have other : x.childId ≠ id := of_decide_eq_true other
        rw [lookup_retried other]
        exact steady.records.bound x held
      · exact (List.filter_sublist.map _).nodup steady.records.once
      · exact passed.evidence
      · exact retire_keys steady.records.keys
    have sameLease' : (lease.orElse fun _ => c.leaseGeneration) = c.leaseGeneration := sameLease
    rw [sameLease'] at made
    cases made.symm.trans (make_eq admissible)
    exact ⟨⟨id, attempt, named, attemptNamed, known, fresh, sameParent ▸ ofParent, sameLease.symm, .kept⟩,
      listed_steady admissible⟩

/-- Everything an operation can do. -/
inductive Effect (c : FanoutCoordinator) : Operation → FanoutCoordinator → Prop where
  | unmoved {operation : Operation} {c' : FanoutCoordinator} (same : Unmoved c c') :
      Effect c operation c'
  | recorded {x y : ChildCompletion} {c' : FanoutCoordinator} (record : Recorded c x y c') :
      Effect c (.complete x) c'
  | retried {childId attemptId : String} {parentAttemptId : Option String} {lease : Option Nat}
      {id attempt : Ident 128} {c' : FanoutCoordinator}
      (named : identText 128 "child_id" childId = .ok id)
      (attemptNamed : identText 128 "attempt_id" attemptId = .ok attempt)
      (known : c.plan.child? id ≠ none) (fresh : c.currentAttemptId id ≠ some attempt)
      (parent : nextParent c parentAttemptId = .ok c'.parentAttemptId)
      (generation : c'.leaseGeneration = nextLease c lease) (retry : Retried c id attempt c') :
      Effect c (.retry childId attemptId parentAttemptId lease) c'

/-- A refused operation leaves the coordinator as it is, an accepted one has one
of the three effects. -/
theorem step_effect (steady : Steady c) (operation : Operation) :
    Effect c operation (step c operation) ∧ Steady (step c operation) := by
  unfold step
  split
  · next c' made =>
    cases operation with
    | complete x =>
      obtain ⟨same | ⟨y, record⟩, kept⟩ := complete_cases steady made
      · exact ⟨.unmoved same, kept⟩
      · exact ⟨.recorded record, kept⟩
    | retry childId attemptId parentAttemptId lease =>
      obtain ⟨⟨id, attempt, named, attemptNamed, known, fresh, parent, generation, retry⟩, kept⟩ :=
        retryChild_cases steady made
      exact ⟨.retried named attemptNamed known fresh parent generation retry, kept⟩
  · exact ⟨.unmoved ⟨c.staleCompletions, rfl⟩, steady⟩

end Cases

/-! ## What is read of a coordinator -/

section Views
variable {c c' : FanoutCoordinator}

theorem listed_completionOf {plan : FanoutPlan} {completions stale : List ChildCompletion}
    {parentAttemptId : Option (Ident 128)} {lease : Option Nat} {attempts : AttemptIds}
    (once : (completions.map (·.childId)).Nodup) (id : Ident 128) :
    (listed plan completions parentAttemptId lease attempts stale).completionOf id =
      completions.find? (·.childId = id) :=
  (Keyed.find_perm once (List.perm_insertionSort childLe completions).symm id).symm

theorem completionOf_mem {id : Ident 128} {x : ChildCompletion} (held : c.completionOf id = some x) :
    x ∈ c.completions ∧ x.childId = id := Keyed.find_some held

theorem Steady.completionOf (steady : Steady c) {x : ChildCompletion} (member : x ∈ c.completions) :
    c.completionOf x.childId = some x := Keyed.find_of_mem steady.records.once member

/-- A completion names the attempt that is bound to its child. -/
theorem Steady.currentAttemptId (steady : Steady c) (id : Ident 128) :
    c.currentAttemptId id = c.childAttemptIds.lookup id := by
  unfold FanoutCoordinator.currentAttemptId
  split
  · next attempt bound => exact bound.symm
  · next unbound =>
    cases held : c.completionOf id with
    | none => exact unbound.symm
    | some x =>
      obtain ⟨member, rfl⟩ := completionOf_mem held
      exact (steady.records.bound x member).symm

/-- Only the plan and the completions decide the window. -/
theorem windowOf_congr (same : ∀ id, c'.completionOf id = c.completionOf id)
    (stages : List (List (Ident 128))) : c'.windowOf stages = c.windowOf stages := by
  induction stages with
  | nil => rfl
  | cons stage rest ih =>
    unfold windowOf
    simp only [same, ih]

theorem Unmoved.completionOf (h : Unmoved c c') (id : Ident 128) :
    c'.completionOf id = c.completionOf id := by
  obtain ⟨stale, rfl⟩ := h
  rfl

theorem Recorded.completionOf {x y : ChildCompletion} (steady : Steady c) (h : Recorded c x y c')
    (id : Ident 128) :
    c'.completionOf id = if id = x.childId then some y else c.completionOf id := by
  obtain ⟨child, _, rfl⟩ := h.expected
  have fresh : ((c.completions ++ [sourced x child]).map (·.childId)).Nodup := by
    rw [List.map_append, List.nodup_append]
    refine ⟨steady.records.once, List.nodup_singleton _, ?_⟩
    rintro a old b new rfl
    obtain ⟨z, member, same⟩ := List.mem_map.mp old
    have ofX : a = (sourced x child).childId := List.mem_singleton.mp new
    exact Keyed.find_none h.absent z member (same.trans (ofX.trans (sourced_childId x child)))
  rw [h.made, listed_completionOf fresh, List.find?_append, List.find?_singleton]
  by_cases asked : id = x.childId
  · have absent : c.completions.find? (·.childId = id) = none := asked ▸ h.absent
    rw [absent, if_pos asked]
    simp [asked]
  · have other : x.childId ≠ id := fun same => asked same.symm
    rw [if_neg asked]
    simp only [sourced_childId, other, decide_false, Bool.false_eq_true, ↓reduceIte, Option.or_none]
    rfl

theorem Recorded.attempts {x y : ChildCompletion} (steady : Steady c) (h : Recorded c x y c')
    (id : Ident 128) :
    c'.childAttemptIds.lookup id =
      if id = x.childId then x.attemptId else c.childAttemptIds.lookup id := by
  obtain ⟨child, _, rfl⟩ := h.expected
  have bound : ∀ a, c.childAttemptIds.lookup (sourced x child).childId = some a →
      (sourced x child).attemptId = some a := by
    rw [sourced_childId, sourced_attemptId]
    exact h.attempt
  rw [h.made]
  refine (lookup_sorted (bindAttempt_once steady.records.single) id).trans ?_
  rw [lookup_bindAttempt bound, sourced_childId, sourced_attemptId]

theorem Retried.plan {id attempt : Ident 128} (h : Retried c id attempt c') : c'.plan = c.plan := by
  cases h <;> rfl

/-- A retry holds no completion of its child. -/
theorem Retried.dropped {id attempt : Ident 128} (steady : Steady c) (h : Retried c id attempt c') :
    c'.completionOf id = none := by
  cases h with
  | renewed parentAttemptId lease changed => rfl
  | kept =>
    rw [listed_completionOf ((List.filter_sublist.map _).nodup steady.records.once)]
    refine List.find?_eq_none.mpr fun x member => ?_
    simpa using (List.mem_filter.mp member).2

/-- A retry that keeps the generation keeps the completions of the other children. -/
theorem kept_completionOf {id other : Ident 128} (steady : Steady c) (apart : other ≠ id)
    {lease : Option Nat} {parentAttemptId : Option (Ident 128)} {attempts : AttemptIds}
    {stale : List ChildCompletion} :
    (listed c.plan (c.completions.filter (·.childId ≠ id)) parentAttemptId lease attempts
      stale).completionOf other = c.completionOf other := by
  rw [listed_completionOf ((List.filter_sublist.map _).nodup steady.records.once)]
  unfold FanoutCoordinator.completionOf
  rw [List.find?_filter]
  congr 1
  funext x
  by_cases here : x.childId = other
  · simp [here, apart]
  · simp [here]

end Views

/-! ## Whole histories -/

/-- Every coordinator of a plan is steady, whatever it was told. -/
theorem history_steady {plan : FanoutPlan} {parentAttemptId : Option (Ident 128)}
    {lease : Option Nat} {attempts : AttemptIds} {c : FanoutCoordinator}
    (started : fromPlan plan parentAttemptId lease attempts = .ok c) (operations : List Operation) :
    Steady (run step c operations) := by
  refine @run_invariant_of_forall _ _ step Steady ?_ c operations (fromPlan_steady started).1
  exact fun d operation steady => (step_effect steady operation).2

end DwSuperApps.Guarantees.CoordinatorSteps
