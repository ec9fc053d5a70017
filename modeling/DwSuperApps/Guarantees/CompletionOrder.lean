import DwSuperApps.Guarantees.StageOrder

/-!
# Completions of one window in any order

Completions of the current attempts of a window are accepted in any order, with
one result, exactly where no failure is among several of them and they agree on
the generation they bind the coordinator to. A failure closes the window to the
siblings that complete after it.
-/
namespace DwSuperApps.Guarantees.CompletionOrder

open DwSuperApps.Lib DwSuperApps.Lib.Checked DwSuperApps.Lib.Runs
open DwSuperApps.Source.Fanout DwSuperApps.Source.Fanout.FanoutCoordinator
open DwSuperApps.Guarantees.CoordinatorHistory DwSuperApps.Guarantees.CoordinatorSteps
open DwSuperApps.Guarantees.StageOrder
open DwSuperApps.Guarantees.ManifestOrder (reviewParent api web)

/-! ## Completions of the current attempt -/

/-- A completion that reports the current attempt of its child, under the plan and,
where the coordinator is bound, under its generation. -/
structure ForCurrentAttempt (c : FanoutCoordinator) (x : ChildCompletion) : Prop where
  advancing : x.evidenceOnly = false
  contract : ∃ child, c.plan.child? x.childId = some child ∧
    x.childContractDigest = child.contractDigest ∧
    (x.hasParentBinding = true → x.sourceDigest ∈ [none, some child.sourceDigest] ∧
      x.standardsProfileDigest ∈ [none, some child.standardsProfileDigest])
  plan : x.hasParentBinding = true →
    x.planVersion.map (·.value) = some c.plan.planVersion.value ∧ x.planDigest = some c.plan.planDigest
  attempt : ∀ a, c.currentAttemptId x.childId = some a → x.attemptId = some a
  generation : c.parentAttemptId ≠ none → x.hasParentBinding = true ∧
    x.parentAttemptId = c.parentAttemptId ∧ x.leaseGeneration = c.leaseGeneration

/-- The generation of a coordinator with the completion recorded. -/
def parentAfter (c : FanoutCoordinator) (x : ChildCompletion) : Option (Ident 128) :=
  if c.parentAttemptId = none then x.parentAttemptId else c.parentAttemptId

def leaseAfter (c : FanoutCoordinator) (x : ChildCompletion) : Option Nat :=
  if c.parentAttemptId = none then x.leaseGeneration else c.leaseGeneration

/-- What a coordinator that is not bound yet asks of a completion that binds it. -/
def Fits (c : FanoutCoordinator) (x : ChildCompletion) : Prop :=
  c.parentAttemptId = none → x.hasParentBinding = true →
    c.completions = [] ∧ x.leaseGeneration ≠ none

theorem bound_iff {x : ChildCompletion} : x.parentAttemptId ≠ none ↔ x.hasParentBinding = true := by
  constructor
  · intro named
    by_contra unbound
    exact named (unbound_generation unbound).1
  · intro binding
    exact (x.bound (.inl (Option.isSome_iff_ne_none.mp binding))).2.2.2

section Acceptance
variable {c : FanoutCoordinator} {x : ChildCompletion} {child : ChildContract}

theorem complete_current (current : ForCurrentAttempt c x) (steady : Steady c)
    (found : c.plan.child? x.childId = some child) :
    c.complete x = c.completeCurrent x child (parentAfter c x) (leaseAfter c x) := by
  obtain ⟨child', found', contract, sources⟩ := current.contract
  cases found.symm.trans found'
  unfold complete parentAfter leaseAfter
  rw [found]
  dsimp only
  rw [if_neg (not_not.mpr contract), if_neg (by simp [current.advancing])]
  by_cases unbound : c.parentAttemptId = none
  · rw [if_pos unbound, if_pos unbound, if_neg (fun both => both.1 unbound)]
    by_cases binding : x.hasParentBinding = true
    · obtain ⟨version, digest⟩ := current.plan binding
      rw [if_neg (not_not.mpr binding), if_neg (by simp [version, digest, sources binding]),
        if_pos unbound]
    · obtain ⟨noParent, noLease⟩ := unbound_generation binding
      rw [if_pos binding, noParent, noLease, unbound, steady.records.generation.mp unbound, if_pos rfl]
  · obtain ⟨binding, sameParent, sameLease⟩ := current.generation unbound
    obtain ⟨version, digest⟩ := current.plan binding
    rw [if_neg unbound, if_neg unbound, if_neg (fun both => both.2 binding),
      if_neg (not_not.mpr binding), if_neg (by simp [version, digest, sources binding]),
      if_neg unbound, if_neg (by simp [sameParent, sameLease])]

theorem parentAfter_bound (current : ForCurrentAttempt c x) (bound : parentAfter c x ≠ none) :
    x.hasParentBinding = true := by
  unfold parentAfter at bound
  split at bound
  · exact bound_iff.mp bound
  · next already => exact (current.generation already).1

/-- What is left of `completeCurrent` past the guards on the attempt. -/
theorem completeCurrent_passed (current : ForCurrentAttempt c x) (steady : Steady c) :
    c.completeCurrent x child (parentAfter c x) (leaseAfter c x) =
      match c.completionOf x.childId with
      | some prior =>
        if prior = sourced x child then .ok c
        else .error ⟨.contractMismatch, s!"conflicting completion: {x.childId.value}"⟩
      | none =>
        if x.childId ∉ c.dispatchWindow then
          .error ⟨.contractMismatch,
            s!"child is not in the current dispatch window: {x.childId.value}"⟩
        else make c.plan (c.completions ++ [sourced x child]) (parentAfter c x) (leaseAfter c x)
          (bindAttempt c.childAttemptIds (sourced x child)) c.staleCompletions := by
  have sameAttempt : ¬ ∃ attempt ∈ c.childAttemptIds.lookup x.childId, x.attemptId ≠ some attempt := by
    rintro ⟨attempt, bound, other⟩
    exact other (current.attempt attempt ((steady.currentAttemptId _).trans bound))
  have named : ¬ (parentAfter c x ≠ none ∧ x.attemptId = none) := by
    rintro ⟨bound, unnamed⟩
    have binding := parentAfter_bound current bound
    exact (x.bound (.inl (Option.isSome_iff_ne_none.mp binding))).1 unnamed
  unfold completeCurrent
  dsimp only
  rw [if_neg sameAttempt, if_neg named]
  unfold bindAttempt
  rw [sourced_childId]
  rfl

/-- The same completion again changes nothing. -/
theorem complete_replayed (current : ForCurrentAttempt c x) (steady : Steady c)
    (found : c.plan.child? x.childId = some child)
    (held : c.completionOf x.childId = some (sourced x child)) : c.complete x = .ok c := by
  rw [complete_current current steady found, completeCurrent_passed current steady, held]
  exact if_pos rfl

theorem complete_absent (current : ForCurrentAttempt c x) (steady : Steady c)
    (found : c.plan.child? x.childId = some child) (absent : c.completionOf x.childId = none) :
    c.complete x =
      if x.childId ∉ c.dispatchWindow then
        .error ⟨.contractMismatch,
          s!"child is not in the current dispatch window: {x.childId.value}"⟩
      else make c.plan (c.completions ++ [sourced x child]) (parentAfter c x) (leaseAfter c x)
        (bindAttempt c.childAttemptIds (sourced x child)) c.staleCompletions := by
  rw [complete_current current steady found, completeCurrent_passed current steady, absent]

/-- Only the sources of a completion are filled in. -/
theorem sourced_fields (x : ChildCompletion) (child : ChildContract) :
    (sourced x child).childContractDigest = x.childContractDigest ∧
      (sourced x child).planVersion = x.planVersion ∧
      (sourced x child).planDigest = x.planDigest ∧
      (sourced x child).parentAttemptId = x.parentAttemptId ∧
      (sourced x child).leaseGeneration = x.leaseGeneration := by
  unfold sourced
  split <;> exact ⟨rfl, rfl, rfl, rfl, rfl⟩

theorem sourced_sources (sources : x.sourceDigest ∈ [none, some child.sourceDigest] ∧
      x.standardsProfileDigest ∈ [none, some child.standardsProfileDigest]) :
    (sourced x child).sourceDigest ∈ [none, some child.sourceDigest] ∧
      (sourced x child).standardsProfileDigest ∈ [none, some child.standardsProfileDigest] := by
  unfold sourced
  split
  · exact ⟨by simp [ChildCompletion.withSources], by simp [ChildCompletion.withSources]⟩
  · exact sources

theorem sourced_checked (current : ForCurrentAttempt c x)
    (found : c.plan.child? x.childId = some child) :
    checkCompletion c.plan (parentAfter c x) (leaseAfter c x) (sourced x child) = .ok () := by
  obtain ⟨child', found', contract, sources⟩ := current.contract
  cases found.symm.trans found'
  obtain ⟨sameContract, sameVersion, sameDigest, sameParent, sameLease⟩ := sourced_fields x child
  unfold checkCompletion
  rw [sourced_childId, found]
  dsimp only
  rw [ensure_of (sameContract.trans contract), ok_bind]
  by_cases unbound : parentAfter c x = none
  · rw [if_pos unbound]
    rfl
  · have binding := parentAfter_bound current unbound
    obtain ⟨version, digest⟩ := current.plan binding
    obtain ⟨inSources, inStandards⟩ := sourced_sources (sources binding)
    have parent : x.parentAttemptId = parentAfter c x := by
      unfold parentAfter
      split
      · rfl
      · next bound => exact (current.generation bound).2.1
    have lease : x.leaseGeneration = leaseAfter c x := by
      unfold leaseAfter
      split
      · rfl
      · next bound => exact (current.generation bound).2.2
    have hasBinding : (sourced x child).hasParentBinding = true := by
      unfold ChildCompletion.hasParentBinding
      rw [sameVersion]
      exact binding
    rw [if_neg unbound, ensure_of hasBinding, ok_bind, ensure_of (sameVersion ▸ version), ok_bind,
      ensure_of (sameDigest.trans digest), ok_bind, ensure_of (sameParent.trans parent), ok_bind,
      ensure_of (sameLease.trans lease), ok_bind, ensure_of inSources, ok_bind]
    exact ensure_of inStandards _

/-- A completion of the current attempt in the window is recorded. -/
theorem complete_recorded (steady : Steady c) (current : ForCurrentAttempt c x) (fits : Fits c x)
    (found : c.plan.child? x.childId = some child) (window : x.childId ∈ c.dispatchWindow)
    (absent : c.completionOf x.childId = none) :
    ∃ c', c.complete x = .ok c' ∧ Steady c' ∧ Recorded c x (sourced x child) c' ∧
      c'.parentAttemptId = parentAfter c x ∧ c'.leaseGeneration = leaseAfter c x := by
  have held : ∀ y ∈ c.completions,
      checkCompletion c.plan (parentAfter c x) (leaseAfter c x) y = .ok () := by
    intro y member
    by_cases unbound : c.parentAttemptId = none
    · by_cases binding : x.hasParentBinding = true
      · rw [(fits unbound binding).1] at member
        cases member
      · obtain ⟨noParent, noLease⟩ := unbound_generation binding
        have checked := steady.records.checked y member
        rw [unbound, steady.records.generation.mp unbound] at checked
        unfold parentAfter leaseAfter
        rw [if_pos unbound, if_pos unbound, noParent, noLease]
        exact checked
    · unfold parentAfter leaseAfter
      rw [if_neg unbound, if_neg unbound]
      exact steady.records.checked y member
  have generation : parentAfter c x = none ↔ leaseAfter c x = none := by
    unfold parentAfter leaseAfter
    split
    · next unbound =>
      by_cases binding : x.hasParentBinding = true
      · simp only [bound_iff.mpr binding, (fits unbound binding).2]
      · simp only [unbound_generation binding]
    · exact steady.records.generation
  have attempt : ∀ a, c.childAttemptIds.lookup x.childId = some a → x.attemptId = some a :=
    fun a bound => current.attempt a ((steady.currentAttemptId _).trans bound)
  have admissible := steady.recordAdmissible found absent attempt generation
    (List.forall_mem_append.mpr
      ⟨held, List.forall_mem_singleton.mpr (sourced_checked current found)⟩)
  refine ⟨_, ?_, listed_steady admissible, ?_, rfl, rfl⟩
  · rw [complete_absent current steady found absent, if_neg (not_not.mpr window), make_eq admissible]
  · refine ⟨⟨child, found, rfl⟩, window, absent, attempt, ?_, ?_, rfl⟩
    · exact fun bound => ⟨if_neg bound, if_neg bound⟩
    · exact fun unbound => ⟨if_pos unbound, if_pos unbound⟩

/-- Out of the window it is refused. -/
theorem complete_closed (steady : Steady c) (current : ForCurrentAttempt c x)
    (found : c.plan.child? x.childId = some child) (closed : x.childId ∉ c.dispatchWindow)
    (absent : c.completionOf x.childId = none) : ∃ e, c.complete x = .error e := by
  rw [complete_absent current steady found absent, if_pos closed]
  exact ⟨_, rfl⟩

end Acceptance

/-! ## The window behind a completion -/

section Behind
variable {c c' : FanoutCoordinator} {k : Ident 128} {stages : List (List (Ident 128))}

/-- A success leaves the others of the window in it. -/
theorem windowOf_behind {y : ChildCompletion} (absent : c.completionOf k = none)
    (now : c'.completionOf k = some y) (succeeded : y.status = .succeeded)
    (held : ∀ other ≠ k, c'.completionOf other = c.completionOf other) {id : Ident 128}
    (inside : id ∈ c.windowOf stages) (apart : id ≠ k) : id ∈ c'.windowOf stages := by
  induction stages with
  | nil => cases inside
  | cons stage rest ih =>
    obtain ⟨clean, either⟩ := mem_windowOf_cons.mp inside
    refine mem_windowOf_cons.mpr ⟨?_, ?_⟩
    · intro e member x found
      by_cases here : e = k
      · rw [here, now] at found
        cases found
        exact succeeded
      · exact clean e member x (held e here ▸ found)
    · rcases either with ⟨member, open'⟩ | ⟨full, later⟩
      · exact .inl ⟨member, (held id apart).trans open'⟩
      · refine .inr ⟨fun e member => ?_, ih later⟩
        obtain ⟨x, found, status⟩ := full e member
        have other : e ≠ k := by
          rintro rfl
          rw [absent] at found
          cases found
        exact ⟨x, (held e other).trans found, status⟩

/-- A failure closes the window. -/
theorem windowOf_failed {y : ChildCompletion} (inside : k ∈ c.windowOf stages)
    (now : c'.completionOf k = some y) (failed : y.status ≠ .succeeded)
    (held : ∀ other ≠ k, c'.completionOf other = c.completionOf other) (id : Ident 128) :
    id ∉ c'.windowOf stages := by
  intro still
  induction stages with
  | nil => cases inside
  | cons stage rest ih =>
    obtain ⟨clean, either⟩ := mem_windowOf_cons.mp still
    obtain ⟨_, ofK⟩ := mem_windowOf_cons.mp inside
    rcases ofK with ⟨member, _⟩ | ⟨full, later⟩
    · exact failed (clean k member y now)
    · rcases either with ⟨inStage, open'⟩ | ⟨_, further⟩
      · obtain ⟨x, found, _⟩ := full id inStage
        have apart : id ≠ k := by
          rintro rfl
          rw [now] at open'
          cases open'
        rw [held id apart, found] at open'
        cases open'
      · exact ih later further

end Behind

/-! ## What decides a steady coordinator -/

theorem completions_ext {a b : List ChildCompletion} (onceA : (a.map (·.childId)).Nodup)
    (onceB : (b.map (·.childId)).Nodup) (orderedA : a.Pairwise ChildCompletion.childLe)
    (orderedB : b.Pairwise ChildCompletion.childLe)
    (same : ∀ id, a.find? (·.childId = id) = b.find? (·.childId = id)) : a = b := by
  have members : ∀ x, x ∈ a ↔ x ∈ b := by
    intro x
    constructor
    · intro member
      exact (Keyed.find_some ((same x.childId).symm.trans (Keyed.find_of_mem onceA member))).1
    · intro member
      exact (Keyed.find_some ((same x.childId).trans (Keyed.find_of_mem onceB member))).1
  have perm := (List.perm_ext_iff_of_nodup onceA.of_map onceB.of_map).mpr members
  refine perm.eq_of_pairwise ?_ orderedA orderedB
  intro x y inA inB first second
  have sameId : x.childId = y.childId := Ident.ext (le_antisymm (α := String) first second)
  exact List.inj_on_of_nodup_map onceA inA ((members y).mpr inB) sameId

theorem attempts_ext {a b : AttemptIds} (onceA : (a.map Prod.fst).Nodup)
    (onceB : (b.map Prod.fst).Nodup) (orderedA : a.Pairwise AttemptIds.itemLe)
    (orderedB : b.Pairwise AttemptIds.itemLe) (same : ∀ id, a.lookup id = b.lookup id) : a = b := by
  have members : ∀ p, p ∈ a ↔ p ∈ b := by
    rintro ⟨id, attempt⟩
    rw [← Keyed.lookup_iff onceA, ← Keyed.lookup_iff onceB, same]
  have perm := (List.perm_ext_iff_of_nodup onceA.of_map onceB.of_map).mpr members
  refine perm.eq_of_pairwise ?_ orderedA orderedB
  rintro ⟨i, p⟩ ⟨j, q⟩ inA inB first second
  have sameId : i = j := by
    refine Ident.ext ?_
    rcases first with less | ⟨same', _⟩
    · rcases second with less' | ⟨same', _⟩
      · exact absurd (less.trans less') (lt_irrefl _)
      · exact same'.symm
    · exact same'
  exact List.inj_on_of_nodup_map onceA inA ((members _).mpr inB) sameId

theorem steady_ext {c d : FanoutCoordinator} (steadyC : Steady c) (steadyD : Steady d)
    (plan : c.plan = d.plan) (parent : c.parentAttemptId = d.parentAttemptId)
    (lease : c.leaseGeneration = d.leaseGeneration)
    (stale : c.staleCompletions = d.staleCompletions)
    (held : ∀ id, c.completionOf id = d.completionOf id)
    (attempts : ∀ id, c.childAttemptIds.lookup id = d.childAttemptIds.lookup id) : c = d := by
  have completions := completions_ext steadyC.records.once steadyD.records.once steadyC.ordered
    steadyD.ordered held
  have bindings := attempts_ext steadyC.records.single steadyD.records.single steadyC.bindings
    steadyD.bindings attempts
  cases c
  cases d
  cases plan
  cases parent
  cases lease
  cases stale
  cases completions
  cases bindings
  rfl

/-! ## Submitting completions -/

/-- One `complete` after the other, up to the first that is refused. -/
def submit (c : FanoutCoordinator) (xs : List ChildCompletion) : Except Failure FanoutCoordinator :=
  xs.foldlM (fun c x => c.complete x) c

theorem submit_cons (c : FanoutCoordinator) (x : ChildCompletion) (xs : List ChildCompletion) :
    submit c (x :: xs) = c.complete x >>= fun d => submit d xs := List.foldlM_cons

section Submission
variable {c d : FanoutCoordinator} {x z : ChildCompletion}

theorem parentAfter_eq (current : ForCurrentAttempt c z) :
    z.parentAttemptId = parentAfter c z ∧ z.leaseGeneration = leaseAfter c z := by
  unfold parentAfter leaseAfter at *
  split
  · exact ⟨rfl, rfl⟩
  · next already => exact (current.generation already).2

/-- A completion that agrees on the generation is still of the current attempt once
another one is recorded. -/
theorem current_behind {y : ChildCompletion} (steady : Steady c) (steadyD : Steady d)
    (record : Recorded c x y d) (parent : d.parentAttemptId = parentAfter c z)
    (lease : d.leaseGeneration = leaseAfter c z) (current : ForCurrentAttempt c z)
    (same : z.childId = x.childId → z.attemptId = x.attemptId) : ForCurrentAttempt d z := by
  have plan : d.plan = c.plan := by rw [record.made]; rfl
  refine ⟨current.advancing, plan ▸ current.contract, plan ▸ current.plan, ?_, ?_⟩
  · intro a named
    rw [steadyD.currentAttemptId, record.attempts steady] at named
    split at named
    · next here => exact (same here).trans named
    · exact current.attempt a ((steady.currentAttemptId _).trans named)
  · rw [parent, lease]
    intro bound
    obtain ⟨sameParent, sameLease⟩ := parentAfter_eq current
    exact ⟨parentAfter_bound current bound, sameParent, sameLease⟩

/-- The generation a further completion leads to stays the same. -/
theorem after_behind (parent : d.parentAttemptId = parentAfter c z)
    (lease : d.leaseGeneration = leaseAfter c z) :
    parentAfter d z = d.parentAttemptId ∧ leaseAfter d z = d.leaseGeneration := by
  unfold parentAfter leaseAfter
  split
  · next unbound =>
    rw [unbound] at parent
    unfold parentAfter at parent
    unfold leaseAfter at lease
    split at parent
    · next before =>
      rw [if_pos before] at lease
      exact ⟨parent.symm.trans unbound.symm, lease.symm⟩
    · next before => exact absurd parent.symm before
  · exact ⟨rfl, rfl⟩

/-- The completion is held already, under the generation it names. -/
structure Held (c : FanoutCoordinator) (x : ChildCompletion) : Prop where
  record : ∃ child, c.plan.child? x.childId = some child ∧
    c.completionOf x.childId = some (sourced x child)
  generation : parentAfter c x = c.parentAttemptId ∧ leaseAfter c x = c.leaseGeneration

/-- The completion is held already or its child is dispatched. -/
def Placed (c : FanoutCoordinator) (x : ChildCompletion) : Prop :=
  Held c x ∨ x.childId ∈ c.dispatchWindow ∧ c.completionOf x.childId = none

/-- The completions of one child are recorded as one. -/
def OneAChild (plan : FanoutPlan) (xs : List ChildCompletion) : Prop :=
  ∀ x ∈ xs, ∀ y ∈ xs, x.childId = y.childId →
    ∀ child, plan.child? x.childId = some child → sourced x child = sourced y child

/-- No failure stands beside the completion of another child. -/
def NoFailureBeside (xs : List ChildCompletion) : Prop :=
  ∀ x ∈ xs, ∀ y ∈ xs, x.status ≠ .succeeded → y.childId = x.childId

theorem placed_behind {child : ChildContract} (steady : Steady c)
    (record : Recorded c x (sourced x child) d) (parent : d.parentAttemptId = parentAfter c z)
    (lease : d.leaseGeneration = leaseAfter c z) (found : c.plan.child? x.childId = some child)
    (one : z.childId = x.childId → sourced x child = sourced z child)
    (beside : z.childId ≠ x.childId → x.status = .succeeded) (placed : Placed c z) : Placed d z := by
  have plan : d.plan = c.plan := by rw [record.made]; rfl
  have held := record.completionOf steady
  by_cases here : z.childId = x.childId
  · refine .inl ⟨⟨child, ?_, ?_⟩, after_behind parent lease⟩
    · rw [plan, here, found]
    · rw [held, if_pos here, one here]
  · rcases placed with already | ⟨window, absent⟩
    · obtain ⟨other, known, same⟩ := already.record
      exact .inl ⟨⟨other, plan ▸ known, (held _).trans ((if_neg here).trans same)⟩,
        after_behind parent lease⟩
    · refine .inr ⟨?_, (held _).trans ((if_neg here).trans absent)⟩
      unfold dispatchWindow
      rw [plan]
      exact windowOf_behind record.absent ((held _).trans (if_pos rfl))
        ((sourced_status x child).trans (beside here))
        (fun other apart => (held other).trans (if_neg apart)) window here

/-- What a submission in full leaves. -/
structure Submitted (c : FanoutCoordinator) (parentAttemptId : Option (Ident 128))
    (lease : Option Nat) (ys : List ChildCompletion) (d : FanoutCoordinator) : Prop where
  steady : Steady d
  plan : d.plan = c.plan
  stale : d.staleCompletions = c.staleCompletions
  parent : d.parentAttemptId = parentAttemptId
  lease : d.leaseGeneration = lease
  held : ∀ y ∈ ys, ∃ child, c.plan.child? y.childId = some child ∧
    d.completionOf y.childId = some (sourced y child)
  others : ∀ id, (∀ y ∈ ys, y.childId ≠ id) → d.completionOf id = c.completionOf id ∧
    d.childAttemptIds.lookup id = c.childAttemptIds.lookup id

theorem submit_ok {ys : List ChildCompletion} {parentAttemptId : Option (Ident 128)}
    {lease : Option Nat} (steady : Steady c) (current : ∀ y ∈ ys, ForCurrentAttempt c y)
    (placed : ∀ y ∈ ys, Placed c y) (one : OneAChild c.plan ys) (beside : NoFailureBeside ys)
    (agree : ∀ y ∈ ys, parentAfter c y = parentAttemptId ∧ leaseAfter c y = lease)
    (fits : ∀ y ∈ ys, Fits c y)
    (first : ys = [] → c.parentAttemptId = parentAttemptId ∧ c.leaseGeneration = lease) :
    ∃ d, submit c ys = .ok d ∧ Submitted c parentAttemptId lease ys d := by
  induction ys generalizing c with
  | nil =>
    obtain ⟨parent, generation⟩ := first rfl
    exact ⟨c, rfl, steady, rfl, rfl, parent, generation, by simp, fun _ _ => ⟨rfl, rfl⟩⟩
  | cons y rest ih =>
    obtain ⟨currentY, currentRest⟩ := List.forall_mem_cons.mp current
    obtain ⟨placedY, placedRest⟩ := List.forall_mem_cons.mp placed
    obtain ⟨agreeY, agreeRest⟩ := List.forall_mem_cons.mp agree
    obtain ⟨fitsY, fitsRest⟩ := List.forall_mem_cons.mp fits
    have oneRest : OneAChild c.plan rest := fun x inX z inZ =>
      one x (List.mem_cons_of_mem _ inX) z (List.mem_cons_of_mem _ inZ)
    have besideRest : NoFailureBeside rest := fun x inX z inZ =>
      beside x (List.mem_cons_of_mem _ inX) z (List.mem_cons_of_mem _ inZ)
    obtain ⟨child, found, _⟩ := currentY.contract
    -- the later completions of the child of `y` are `y` again
    have ofRest : ∀ z ∈ rest, z.childId = y.childId → sourced y child = sourced z child :=
      fun z member same =>
        one y List.mem_cons_self z (List.mem_cons_of_mem _ member) same.symm child found
    rcases placedY with already | ⟨window, absent⟩
    · obtain ⟨child', found', holds⟩ := already.record
      cases found.symm.trans found'
      obtain ⟨e, accepted, submitted⟩ := ih steady currentRest placedRest oneRest besideRest
        agreeRest fitsRest
        (fun _ => ⟨already.generation.1.symm.trans agreeY.1, already.generation.2.symm.trans agreeY.2⟩)
      refine ⟨e, ?_, { submitted with held := ?_, others := ?_ }⟩
      · rw [submit_cons, complete_replayed currentY steady found holds]
        exact accepted
      · refine List.forall_mem_cons.mpr ⟨?_, submitted.held⟩
        by_cases again : ∃ z ∈ rest, z.childId = y.childId
        · obtain ⟨z, member, same⟩ := again
          obtain ⟨child', found', holdsZ⟩ := submitted.held z member
          rw [same] at found' holdsZ
          cases found.symm.trans found'
          exact ⟨child, found, holdsZ.trans (congrArg some (ofRest z member same).symm)⟩
        · have apart := submitted.others y.childId fun z member same => again ⟨z, member, same⟩
          exact ⟨child, found, apart.1.trans holds⟩
      · exact fun id apart => submitted.others id fun z member => apart z (List.mem_cons_of_mem _ member)
    · obtain ⟨d, made, steadyD, record, parent, generation⟩ := complete_recorded steady currentY
        fitsY found window absent
      have plan : d.plan = c.plan := by rw [record.made]; rfl
      have sameParent : ∀ z ∈ rest, d.parentAttemptId = parentAfter c z := fun z member =>
        parent.trans (agreeY.1.trans (agreeRest z member).1.symm)
      have sameLease : ∀ z ∈ rest, d.leaseGeneration = leaseAfter c z := fun z member =>
        generation.trans (agreeY.2.trans (agreeRest z member).2.symm)
      have held := record.completionOf steady
      have currentD : ∀ z ∈ rest, ForCurrentAttempt d z := by
        intro z member
        refine current_behind steady steadyD record (sameParent z member) (sameLease z member)
          (currentRest z member) fun same => ?_
        rw [← sourced_attemptId z child, ← ofRest z member same, sourced_attemptId]
      have placedD : ∀ z ∈ rest, Placed d z := by
        intro z member
        refine placed_behind steady record (sameParent z member) (sameLease z member) found
          (fun same => ofRest z member same) (fun apart => ?_) (placedRest z member)
        by_contra failed
        exact apart (beside y List.mem_cons_self z (List.mem_cons_of_mem _ member) failed)
      have fitsD : ∀ z ∈ rest, Fits d z := by
        intro z member unbound binding
        have none := (sameParent z member).symm.trans unbound
        unfold parentAfter at none
        split at none
        · exact absurd none (bound_iff.mpr binding)
        · next bound => exact absurd none bound
      obtain ⟨e, accepted, submitted⟩ := ih steadyD currentD placedD (plan ▸ oneRest) besideRest
        (fun z member => by
          obtain ⟨afterParent, afterLease⟩ :=
            after_behind (sameParent z member) (sameLease z member)
          exact ⟨afterParent.trans (parent.trans agreeY.1),
            afterLease.trans (generation.trans agreeY.2)⟩)
        fitsD (fun _ => ⟨parent.trans agreeY.1, generation.trans agreeY.2⟩)
      have retained : d.staleCompletions = c.staleCompletions := by
        rw [record.made]
        exact steady.retained.insertionSort_eq
      refine ⟨e, ?_, submitted.steady, submitted.plan.trans plan, submitted.stale.trans retained,
        submitted.parent, submitted.lease, ?_, ?_⟩
      · rw [submit_cons, made]
        exact accepted
      · refine List.forall_mem_cons.mpr ⟨?_, plan ▸ submitted.held⟩
        by_cases again : ∃ z ∈ rest, z.childId = y.childId
        · obtain ⟨z, member, same⟩ := again
          obtain ⟨child', found', holdsZ⟩ := submitted.held z member
          rw [same] at found' holdsZ
          cases found.symm.trans (plan ▸ found')
          exact ⟨child, found, holdsZ.trans (congrArg some (ofRest z member same).symm)⟩
        · have apart := submitted.others y.childId fun z member same => again ⟨z, member, same⟩
          exact ⟨child, found, apart.1.trans ((held _).trans (if_pos rfl))⟩
      · intro id apart
        obtain ⟨apartY, apartRest⟩ := List.forall_mem_cons.mp apart
        obtain ⟨completion, attempt⟩ := submitted.others id apartRest
        rw [completion, attempt, held, record.attempts steady, if_neg (Ne.symm apartY),
          if_neg (Ne.symm apartY)]
        exact ⟨rfl, rfl⟩

end Submission

/-! ## The generation of the completions held -/

/-- The completions held were submitted under the generation of the coordinator. -/
def OfGeneration (c : FanoutCoordinator) : Prop :=
  ∀ y ∈ c.completions, y.parentAttemptId = c.parentAttemptId

/-- A bound coordinator holds nothing else, by the checks of its constructor. -/
theorem steady_ofGeneration {c : FanoutCoordinator} (steady : Steady c)
    (unbound : c.parentAttemptId = none → ∀ y ∈ c.completions, y.parentAttemptId = none) :
    OfGeneration c := by
  intro y member
  by_cases none : c.parentAttemptId = none
  · rw [none]
    exact unbound none y member
  · obtain ⟨_, _, _, parent, _⟩ := checkCompletion_bound (steady.records.checked y member) none
    exact parent

section Generation
variable {c d : FanoutCoordinator}

theorem unmoved_ofGeneration (same : Unmoved c d) (old : OfGeneration c) : OfGeneration d := by
  obtain ⟨_, rfl⟩ := same
  exact old

theorem mem_recorded {x y z : ChildCompletion} (record : Recorded c x y d) :
    z ∈ d.completions ↔ z ∈ c.completions ∨ z = y := by
  rw [record.made]
  refine (List.perm_insertionSort ChildCompletion.childLe _).mem_iff.trans ?_
  rw [List.mem_append, List.mem_singleton]

theorem recorded_ofGeneration {x y : ChildCompletion} (record : Recorded c x y d)
    (steadyD : Steady d) (old : OfGeneration c) : OfGeneration d := by
  refine steady_ofGeneration steadyD fun unbound z member => ?_
  have before : c.parentAttemptId = none := by
    by_contra bound
    exact bound ((record.generation bound).1.symm.trans unbound)
  rcases (mem_recorded record).mp member with held | rfl
  · exact (old z held).trans before
  · obtain ⟨child, _, rfl⟩ := record.expected
    exact (sourced_fields x child).2.2.2.1.trans ((record.binds before).1.symm.trans unbound)

theorem retried_ofGeneration {id attempt : Ident 128} (retry : Retried c id attempt d)
    (old : OfGeneration c) : OfGeneration d := by
  cases retry with
  | renewed => exact fun y member => absurd member List.not_mem_nil
  | kept =>
    intro y member
    have held := (List.perm_insertionSort ChildCompletion.childLe _).mem_iff.mp member
    exact old y (List.mem_filter.mp held).1

theorem step_ofGeneration (steady : Steady c) (old : OfGeneration c) (operation : Operation) :
    OfGeneration (step c operation) := by
  obtain ⟨effect, steadyD⟩ := step_effect steady operation
  generalize step c operation = d at effect steadyD
  cases effect with
  | unmoved same => exact unmoved_ofGeneration same old
  | recorded record => exact recorded_ofGeneration record steadyD old
  | retried _ _ _ _ _ _ retry => exact retried_ofGeneration retry old

/-- Every coordinator of a plan is steady and holds one generation. -/
theorem history_ofGeneration {plan : FanoutPlan} {parentAttemptId : Option (Ident 128)}
    {lease : Option Nat} {attempts : AttemptIds}
    (started : fromPlan plan parentAttemptId lease attempts = .ok c) (operations : List Operation) :
    Steady (run step c operations) ∧ OfGeneration (run step c operations) := by
  obtain ⟨steady, _, empty⟩ := fromPlan_steady started
  refine @run_invariant_of_forall _ _ step (fun c => Steady c ∧ OfGeneration c) ?_ c operations
    ⟨steady, ?_⟩
  · exact fun d operation held =>
      ⟨(step_effect held.1 operation).2, step_ofGeneration held.1 held.2 operation⟩
  · intro y member
    rw [empty] at member
    cases member

/-! ## What an accepted submission says -/

theorem complete_keeps (steady : Steady c) (old : OfGeneration c) {x : ChildCompletion}
    (accepted : c.complete x = .ok d) :
    (Steady d ∧ OfGeneration d) ∧
      (∀ id y, c.completionOf id = some y → d.completionOf id = some y) ∧
      (c.completions ≠ [] →
        d.parentAttemptId = c.parentAttemptId ∧ d.leaseGeneration = c.leaseGeneration) := by
  obtain ⟨same | ⟨y, record⟩, steadyD⟩ := complete_cases steady accepted
  · refine ⟨⟨steadyD, unmoved_ofGeneration same old⟩, fun id y held => ?_, fun _ => ?_⟩
    · exact (same.completionOf id).trans held
    · obtain ⟨_, rfl⟩ := same
      exact ⟨rfl, rfl⟩
  · have new := recorded_ofGeneration record steadyD old
    refine ⟨⟨steadyD, new⟩, ?_, ?_⟩
    · intro id z held
      rw [record.completionOf steady, if_neg, held]
      rintro rfl
      rw [record.absent] at held
      cases held
    · intro some
      obtain ⟨z, member⟩ := List.exists_mem_of_ne_nil _ some
      have parent : d.parentAttemptId = c.parentAttemptId :=
        (new z ((mem_recorded record).mpr (.inl member))).symm.trans (old z member)
      refine ⟨parent, ?_⟩
      by_cases unbound : c.parentAttemptId = none
      · rw [steadyD.records.generation.mp (parent.trans unbound), steady.records.generation.mp unbound]
      · exact (record.generation unbound).2

theorem submit_keeps {ys : List ChildCompletion} (steady : Steady c) (old : OfGeneration c)
    (accepted : submit c ys = .ok d) :
    Steady d ∧ (∀ id y, c.completionOf id = some y → d.completionOf id = some y) ∧
      (c.completions ≠ [] →
        d.parentAttemptId = c.parentAttemptId ∧ d.leaseGeneration = c.leaseGeneration) := by
  induction ys generalizing c with
  | nil =>
    cases accepted
    exact ⟨steady, fun _ _ held => held, fun _ => ⟨rfl, rfl⟩⟩
  | cons y rest ih =>
    rw [submit_cons] at accepted
    obtain ⟨e, first, later⟩ := bind_ok.mp accepted
    obtain ⟨⟨steadyE, ofE⟩, held, generation⟩ := complete_keeps steady old first
    obtain ⟨steadyD, heldD, generationD⟩ := ih steadyE ofE later
    refine ⟨steadyD, fun id z here => heldD id z (held id z here), fun some => ?_⟩
    have someE : e.completions ≠ [] := by
      obtain ⟨z, member⟩ := List.exists_mem_of_ne_nil _ some
      exact List.ne_nil_of_mem (completionOf_mem (held _ _ (steady.completionOf member))).1
    obtain ⟨parent, lease⟩ := generation some
    obtain ⟨parentD, leaseD⟩ := generationD someE
    exact ⟨parentD.trans parent, leaseD.trans lease⟩

/-- An accepted completion fits. -/
theorem fits_of_accepted {x : ChildCompletion} (steady : Steady c) (old : OfGeneration c)
    (current : ForCurrentAttempt c x) (window : x.childId ∈ c.dispatchWindow)
    (absent : c.completionOf x.childId = none) (accepted : c.complete x = .ok d) : Fits c x := by
  intro unbound binding
  obtain ⟨child, found, _⟩ := current.contract
  rw [complete_absent current steady found absent, if_neg (not_not.mpr window)] at accepted
  have checked := make_checked accepted
  have parent : parentAfter c x = x.parentAttemptId := if_pos unbound
  have lease : leaseAfter c x = x.leaseGeneration := if_pos unbound
  rw [parent, lease] at checked
  have named := bound_iff.mpr binding
  refine ⟨?_, fun none => named (checked.generation.mpr none)⟩
  by_contra some
  obtain ⟨z, member⟩ := List.exists_mem_of_ne_nil _ some
  obtain ⟨_, _, _, sameParent, _⟩ := checkCompletion_bound
    (checked.completions z (List.mem_append_left _ member)) named
  exact named (sameParent.symm.trans ((old z member).trans unbound))

theorem window_absent {stages : List (List (Ident 128))} {id : Ident 128}
    (inside : id ∈ c.windowOf stages) : c.completionOf id = none := by
  induction stages with
  | nil => cases inside
  | cons stage rest ih =>
    rcases (mem_windowOf_cons.mp inside).2 with ⟨_, absent⟩ | ⟨_, later⟩
    · exact absent
    · exact ih later

/-- What the order that submits `x` first leaves. -/
theorem first_submitted {x : ChildCompletion} {rest : List ChildCompletion} (steady : Steady c)
    (old : OfGeneration c) (current : ForCurrentAttempt c x) (window : x.childId ∈ c.dispatchWindow)
    (accepted : submit c (x :: rest) = .ok d) :
    Fits c x ∧ Steady d ∧ d.parentAttemptId = parentAfter c x ∧
      d.leaseGeneration = leaseAfter c x ∧
      ∃ child, c.plan.child? x.childId = some child ∧
        d.completionOf x.childId = some (sourced x child) := by
  have absent := window_absent window
  rw [submit_cons] at accepted
  obtain ⟨e, first, later⟩ := bind_ok.mp accepted
  have fits := fits_of_accepted steady old current window absent first
  obtain ⟨child, found, _⟩ := current.contract
  obtain ⟨e', made, steadyE, record, parent, lease⟩ :=
    complete_recorded steady current fits found window absent
  cases first.symm.trans made
  have holds := (record.completionOf steady x.childId).trans (if_pos rfl)
  have some : e.completions ≠ [] := List.ne_nil_of_mem (completionOf_mem holds).1
  obtain ⟨steadyD, held, generation⟩ :=
    submit_keeps steadyE (recorded_ofGeneration record steadyE old) later
  obtain ⟨sameParent, sameLease⟩ := generation some
  refine ⟨fits, steadyD, sameParent.trans parent, sameLease.trans lease,
    child, found, held _ _ holds⟩

end Generation

/-! ## Any two orders -/

section Orders
variable [Sha256] {c d e : FanoutCoordinator} {xs : List ChildCompletion}

theorem normalizedInput_ok (steady : Steady c) : ∃ input, c.normalizedInput = .ok input ∧
    input.parentAttemptId = c.parentAttemptId ∧ input.leaseGeneration = c.leaseGeneration := by
  have ordered := List.pairwise_insertionSort ChildCompletion.childLe c.completions
  have childIds : ((c.completions.insertionSort ChildCompletion.childLe).map (·.childId)).Pairwise
      fun a b => a.value ≤ b.value := List.pairwise_map.mpr ordered
  unfold normalizedInput NormalizedJoinInput.validate
  dsimp only
  rw [ordered.insertionSort_eq, childIds.insertionSort_eq, ensure_of rfl, ok_bind,
    ensure_of steady.records.generation.mp, ok_bind, ensure_of rfl, ok_bind]
  exact ⟨_, rfl, rfl, rfl⟩

theorem generation_of_input (steadyD : Steady d) (steadyE : Steady e)
    (same : d.normalizedInput = e.normalizedInput) :
    d.parentAttemptId = e.parentAttemptId ∧ d.leaseGeneration = e.leaseGeneration := by
  obtain ⟨input, ofD, parentD, leaseD⟩ := normalizedInput_ok steadyD
  obtain ⟨input', ofE, parentE, leaseE⟩ := normalizedInput_ok steadyE
  cases (ofD.symm.trans same).trans ofE
  exact ⟨parentD.symm.trans parentE, leaseD.symm.trans leaseE⟩

/-- Any two orders of the completions are accepted, with the same completion of
every child, the same normalized input and the same join. -/
def AnyOrder (c : FanoutCoordinator) (xs : List ChildCompletion) : Prop :=
  ∀ ys zs, ys.Perm xs → zs.Perm xs → ∃ d e, submit c ys = .ok d ∧ submit c zs = .ok e ∧
    (∀ id, d.completionOf id = e.completionOf id) ∧ d.normalizedInput = e.normalizedInput ∧
    d.join = e.join

omit [Sha256] in
/-- The completions name one generation, unless the coordinator has its own. -/
def OneGeneration (c : FanoutCoordinator) (xs : List ChildCompletion) : Prop :=
  ∀ x ∈ xs, ∀ y ∈ xs, parentAfter c x = parentAfter c y ∧ leaseAfter c x = leaseAfter c y

/-- What lets every order of the completions be accepted. -/
structure Together (c : FanoutCoordinator) (xs : List ChildCompletion) : Prop where
  one : OneAChild c.plan xs
  beside : NoFailureBeside xs
  generation : OneGeneration c xs
  fits : ∀ x ∈ xs, Fits c x

omit [Sha256] in
/-- The coordinator every order ends in. -/
theorem submitted_unique {ys zs : List ChildCompletion} {parentAttemptId : Option (Ident 128)}
    {lease : Option Nat} (same : ∀ x, x ∈ ys ↔ x ∈ zs)
    (left : Submitted c parentAttemptId lease ys d)
    (right : Submitted c parentAttemptId lease zs e) : d = e := by
  have held : ∀ id, d.completionOf id = e.completionOf id ∧
      d.childAttemptIds.lookup id = e.childAttemptIds.lookup id := by
    intro id
    by_cases named : ∃ y ∈ ys, y.childId = id
    · obtain ⟨y, member, rfl⟩ := named
      obtain ⟨child, found, ofD⟩ := left.held y member
      obtain ⟨child', found', ofE⟩ := right.held y ((same y).mp member)
      cases found.symm.trans found'
      have boundD := left.steady.records.bound _ (completionOf_mem ofD).1
      have boundE := right.steady.records.bound _ (completionOf_mem ofE).1
      rw [sourced_childId] at boundD boundE
      exact ⟨ofD.trans ofE.symm, boundD.trans boundE.symm⟩
    · have apart : ∀ y ∈ ys, y.childId ≠ id := fun y member here => named ⟨y, member, here⟩
      obtain ⟨ofD, attemptD⟩ := left.others id apart
      obtain ⟨ofE, attemptE⟩ := right.others id fun y member => apart y ((same y).mpr member)
      exact ⟨ofD.trans ofE.symm, attemptD.trans attemptE.symm⟩
  exact steady_ext left.steady right.steady (left.plan.trans right.plan.symm)
    (left.parent.trans right.parent.symm) (left.lease.trans right.lease.symm)
    (left.stale.trans right.stale.symm) (fun id => (held id).1) fun id => (held id).2

theorem Together.anyOrder (together : Together c xs) (steady : Steady c)
    (current : ∀ x ∈ xs, ForCurrentAttempt c x)
    (window : ∀ x ∈ xs, x.childId ∈ c.dispatchWindow) : AnyOrder c xs := by
  obtain ⟨parentAttemptId, lease, agree, first⟩ : ∃ parentAttemptId lease,
      (∀ x ∈ xs, parentAfter c x = parentAttemptId ∧ leaseAfter c x = lease) ∧
      (xs = [] → c.parentAttemptId = parentAttemptId ∧ c.leaseGeneration = lease) := by
    cases xs with
    | nil => exact ⟨_, _, by simp, fun _ => ⟨rfl, rfl⟩⟩
    | cons x rest =>
      exact ⟨_, _, fun y member => together.generation y member x List.mem_cons_self, by simp⟩
  have submitted : ∀ ys, ys.Perm xs →
      ∃ d, submit c ys = .ok d ∧ Submitted c parentAttemptId lease ys d := by
    intro ys perm
    have inside : ∀ y ∈ ys, y ∈ xs := fun y => perm.mem_iff.mp
    exact submit_ok steady (fun y member => current y (inside y member))
      (fun y member => .inr ⟨window y (inside y member), window_absent (window y (inside y member))⟩)
      (fun x inX y inY => together.one x (inside x inX) y (inside y inY))
      (fun x inX y inY => together.beside x (inside x inX) y (inside y inY))
      (fun y member => agree y (inside y member)) (fun y member => together.fits y (inside y member))
      (fun empty => first (List.nil_perm.mp (empty ▸ perm)))
  intro ys zs permY permZ
  obtain ⟨d, acceptedD, ofD⟩ := submitted ys permY
  obtain ⟨e, acceptedE, ofE⟩ := submitted zs permZ
  have same : d = e := submitted_unique
    (fun x => permY.mem_iff.trans permZ.mem_iff.symm) ofD ofE
  subst same
  exact ⟨d, d, acceptedD, acceptedE, fun _ => rfl, rfl, rfl⟩

theorem AnyOrder.together (any : AnyOrder c xs) (steady : Steady c) (old : OfGeneration c)
    (current : ∀ x ∈ xs, ForCurrentAttempt c x)
    (window : ∀ x ∈ xs, x.childId ∈ c.dispatchWindow) : Together c xs := by
  have toFront : ∀ x ∈ xs, (x :: xs.erase x).Perm xs := fun x member =>
    (List.perm_cons_erase member).symm
  have generation : OneGeneration c xs := by
    intro x inX y inY
    obtain ⟨d, e, ofX, ofY, _, input, _⟩ := any _ _ (toFront x inX) (toFront y inY)
    obtain ⟨_, steadyD, parentD, leaseD, _⟩ :=
      first_submitted steady old (current x inX) (window x inX) ofX
    obtain ⟨_, steadyE, parentE, leaseE, _⟩ :=
      first_submitted steady old (current y inY) (window y inY) ofY
    obtain ⟨parent, lease⟩ := generation_of_input steadyD steadyE input
    exact ⟨parentD.symm.trans (parent.trans parentE), leaseD.symm.trans (lease.trans leaseE)⟩
  have fits : ∀ x ∈ xs, Fits c x := by
    intro x member
    obtain ⟨d, _, ofX, _⟩ := any _ _ (toFront x member) (toFront x member)
    exact (first_submitted steady old (current x member) (window x member) ofX).1
  refine ⟨?_, ?_, generation, fits⟩
  · intro x inX y inY same child found
    obtain ⟨d, e, ofX, ofY, held, _⟩ := any _ _ (toFront x inX) (toFront y inY)
    obtain ⟨_, _, _, _, childX, foundX, heldX⟩ :=
      first_submitted steady old (current x inX) (window x inX) ofX
    obtain ⟨_, _, _, _, childY, foundY, heldY⟩ :=
      first_submitted steady old (current y inY) (window y inY) ofY
    rw [← same] at foundY heldY
    cases found.symm.trans foundX
    cases found.symm.trans foundY
    exact Option.some.inj (heldX.symm.trans ((held _).trans heldY))
  · intro x inX y inY failed
    by_contra apart
    obtain ⟨child, found, _⟩ := (current x inX).contract
    obtain ⟨childY, foundY, _⟩ := (current y inY).contract
    have other : y ∈ xs.erase x := (List.mem_erase_of_ne fun same : y = x => apart (congrArg _ same)).mpr inY
    have perm : (x :: y :: (xs.erase x).erase y).Perm xs :=
      ((List.perm_cons_erase other).symm.cons x).trans (toFront x inX)
    obtain ⟨d, _, accepted, _⟩ := any _ _ perm perm
    rw [submit_cons] at accepted
    obtain ⟨d1, first, accepted⟩ := bind_ok.mp accepted
    rw [submit_cons] at accepted
    obtain ⟨d2, second, _⟩ := bind_ok.mp accepted
    obtain ⟨made, ofX, steadyD, record, parent, lease⟩ := complete_recorded steady (current x inX)
      (fits x inX) found (window x inX) (window_absent (window x inX))
    cases first.symm.trans ofX
    have held := record.completionOf steady
    obtain ⟨sameParent, sameLease⟩ := generation x inX y inY
    have currentY := current_behind steady steadyD record (parent.trans sameParent)
      (lease.trans sameLease) (current y inY) fun same => absurd same apart
    have plan : d1.plan = c.plan := by rw [record.made]; rfl
    have closed : y.childId ∉ d1.dispatchWindow := by
      unfold dispatchWindow
      rw [plan]
      exact windowOf_failed (window x inX) ((held _).trans (if_pos rfl))
        ((sourced_status x child).symm ▸ failed) (fun id other => (held id).trans (if_neg other)) _
    obtain ⟨error, refused⟩ := complete_closed steadyD currentY (plan ▸ foundY) closed
      ((held _).trans ((if_neg apart).trans (window_absent (window y inY))))
    cases second.symm.trans refused

/-- Completions of the current attempts of dispatched children are accepted in any
two orders, with one result, exactly where they are `Together`. -/
theorem any_order_iff_together {plan : FanoutPlan} {parentAttemptId : Option (Ident 128)}
    {lease : Option Nat} {attempts : AttemptIds}
    (started : fromPlan plan parentAttemptId lease attempts = .ok c) (operations : List Operation)
    (current : ∀ x ∈ xs, ForCurrentAttempt (run step c operations) x)
    (window : ∀ x ∈ xs, x.childId ∈ (run step c operations).dispatchWindow) :
    AnyOrder (run step c operations) xs ↔ Together (run step c operations) xs := by
  obtain ⟨steady, old⟩ := history_ofGeneration started operations
  exact ⟨fun any => any.together steady old current window,
    fun together => together.anyOrder steady current window⟩

end Orders

/-! ## A failure beside a success -/

section Review

/-- The plan that runs `api` and `web` in one window. -/
def sideBySide : FanoutPlan := { oneByOne with
  maxParallel := 2
  stages := [[api.childId, web.childId]] }

theorem sideBySide_planned :
    @FanoutPlan.fromParent flatHash reviewParent [api, web] .parallel none none .allRequired =
      .ok sideBySide := by
  rfl

theorem sideBySide_window :
    ({ plan := sideBySide } : FanoutCoordinator).dispatchWindow = [api.childId, web.childId] := rfl

theorem report_current {child : ChildContract} (found : sideBySide.child? child.childId = some child)
    (status : CompletionStatus) :
    ForCurrentAttempt { plan := sideBySide } (report child status none) where
  advancing := rfl
  contract := ⟨child, found, rfl, fun binding => nomatch binding⟩
  plan := fun binding => nomatch binding
  attempt := fun _ named => nomatch named
  generation := fun bound => absurd rfl bound

/-- Both reports are of dispatched children. -/
theorem reports_current (ofApi ofWeb : CompletionStatus) :
    ∀ x ∈ [report api ofApi none, report web ofWeb none],
      ForCurrentAttempt { plan := sideBySide } x ∧
        x.childId ∈ ({ plan := sideBySide } : FanoutCoordinator).dispatchWindow := by
  rw [sideBySide_window, List.forall_mem_cons, List.forall_mem_singleton]
  exact ⟨⟨report_current rfl ofApi, List.mem_cons_self⟩,
    report_current rfl ofWeb, List.mem_cons_of_mem _ List.mem_cons_self⟩

theorem successes_together : Together { plan := sideBySide }
    [report api .succeeded none, report web .succeeded none] := by
  constructor
  · intro x inX y inY same child _
    have distinct : ([report api .succeeded none, report web .succeeded none].map
        (·.childId)).Nodup := by decide
    rw [List.inj_on_of_nodup_map distinct inX inY same]
  · intro x inX y inY failed
    rw [List.mem_cons, List.mem_singleton] at inX
    rcases inX with rfl | rfl <;> exact absurd rfl failed
  · intro x inX y inY
    rw [List.mem_cons, List.mem_singleton] at inX inY
    rcases inX with rfl | rfl <;> rcases inY with rfl | rfl <;> exact ⟨rfl, rfl⟩
  · intro x inX unbound binding
    rw [List.mem_cons, List.mem_singleton] at inX
    rcases inX with rfl | rfl <;> cases binding

theorem any_order_iff_together_succeeded : @AnyOrder flatHash { plan := sideBySide }
    [report api .succeeded none, report web .succeeded none] :=
  (@any_order_iff_together flatHash { plan := sideBySide } _ sideBySide none none [] rfl []
    (fun x member => (reports_current _ _ x member).1)
    (fun x member => (reports_current _ _ x member).2)).mpr successes_together

/-- The failure of `api` is accepted after the success of `web`, not before it. -/
theorem failure_closes_window :
    @FanoutPlan.fromParent flatHash reviewParent [api, web] .parallel none none .allRequired =
        .ok sideBySide ∧
      fromPlan sideBySide none none [] = .ok { plan := sideBySide } ∧
      (∀ x ∈ [report api .failed none, report web .succeeded none],
        ForCurrentAttempt { plan := sideBySide } x ∧
          x.childId ∈ ({ plan := sideBySide } : FanoutCoordinator).dispatchWindow) ∧
      ¬ @AnyOrder flatHash { plan := sideBySide }
        [report api .failed none, report web .succeeded none] := by
  refine ⟨sideBySide_planned, rfl, reports_current _ _, ?_⟩
  intro any
  obtain ⟨d, _, accepted, _⟩ := any _ _ (.refl _) (.refl _)
  have refused : submit { plan := sideBySide } [report api .failed none, report web .succeeded none] =
      .error ⟨.contractMismatch, "child is not in the current dispatch window: web"⟩ := rfl
  cases accepted.symm.trans refused

end Review

end DwSuperApps.Guarantees.CompletionOrder
