import DwSuperApps.Guarantees.StageOrder

/-!
# Attempts that were superseded

An attempt of a child is superseded when the child goes on without it. Where no
retry and no first completion names a superseded attempt, and no retry goes back
to a lower lease generation, a completion held is never one of a superseded
attempt, and the generation of the current attempts never decreases.
-/
namespace DwSuperApps.Guarantees.AttemptHistory

open DwSuperApps.Lib DwSuperApps.Lib.Checked DwSuperApps.Lib.Runs
open DwSuperApps.Source.Fanout DwSuperApps.Source.Fanout.FanoutCoordinator
open DwSuperApps.Guarantees.CoordinatorHistory DwSuperApps.Guarantees.CoordinatorSteps
open DwSuperApps.Guarantees.ManifestOrder (reviewParent api web)
open DwSuperApps.Guarantees.StageOrder (oneByOne oneByOne_planned flatHash report secondAttempt)

/-! ## The attempts behind a coordinator -/

/-- A coordinator with the attempts that were once current for their child and are
not any more. -/
structure Watched where
  coordinator : FanoutCoordinator
  superseded : List (Ident 128 × Ident 128) := []

/-- Attempts current in `c` that `c'` goes on without. -/
def replacedAttempts (c c' : FanoutCoordinator) : List (Ident 128 × Ident 128) :=
  (c.plan.children.map (·.childId)).filterMap fun id =>
    match c.currentAttemptId id with
    | some attempt => if c'.currentAttemptId id = some attempt then none else some (id, attempt)
    | none => none

def Watched.step (w : Watched) (operation : Operation) : Watched :=
  let next := CoordinatorHistory.step w.coordinator operation
  { coordinator := next
    superseded := w.superseded ++ replacedAttempts w.coordinator next }

/-- No completion held is one of a superseded attempt. -/
def NeverBack (w : Watched) : Prop :=
  ∀ x ∈ w.coordinator.completions, ∀ a, x.attemptId = some a → (x.childId, a) ∉ w.superseded

/-- Lease generation attached to the current attempt of a child, if it has one. -/
def attachedGeneration (c : FanoutCoordinator) (id : Ident 128) : Option Nat :=
  (c.currentAttemptId id).bind fun _ => c.leaseGeneration

/-- No operation goes back: a retry names no superseded attempt and no lower
generation, and a completion of a child without a current attempt names no
superseded one. -/
def Forward (w : Watched) : Operation → Prop
  | .complete x => w.coordinator.currentAttemptId x.childId = none →
      ∀ a, x.attemptId = some a → (x.childId, a) ∉ w.superseded
  | .retry childId attemptId _ lease =>
    (∀ id a, identText 128 "child_id" childId = .ok id →
      identText 128 "attempt_id" attemptId = .ok a → (id, a) ∉ w.superseded) ∧
    ∀ next held, lease = some next → w.coordinator.leaseGeneration = some held → held ≤ next

theorem mem_replaced {c c' : FanoutCoordinator} {id attempt : Ident 128}
    (member : (id, attempt) ∈ replacedAttempts c c') : c'.currentAttemptId id ≠ some attempt := by
  obtain ⟨other, _, found⟩ := List.mem_filterMap.mp member
  split at found
  · split at found
    · cases found
    · next gone =>
      cases found
      exact gone
  · cases found

/-! ## One step -/

/-- The second generation is not below the first. -/
def NotBelow (first second : Option Nat) : Prop := ∀ g, first = some g → ∃ h, second = some h ∧ g ≤ h

theorem NotBelow.refl (generation : Option Nat) : NotBelow generation generation :=
  fun g found => ⟨g, found, le_refl g⟩

theorem NotBelow.trans {a b c : Option Nat} (first : NotBelow a b) (second : NotBelow b c) :
    NotBelow a c := by
  intro g found
  obtain ⟨h, next, le⟩ := first g found
  obtain ⟨k, last, le'⟩ := second h next
  exact ⟨k, last, le.trans le'⟩

structure Onward (w : Watched) : Prop where
  steady : Steady w.coordinator
  current : ∀ id a, w.coordinator.currentAttemptId id = some a → (id, a) ∉ w.superseded

theorem Onward.neverBack {w : Watched} (onward : Onward w) : NeverBack w := by
  intro x member a named
  refine onward.current x.childId a ?_
  rw [onward.steady.currentAttemptId, onward.steady.records.bound x member, named]

/-- An attempt current after a step was current before it or is named by it. -/
theorem step_current {w : Watched} (steady : Steady w.coordinator) {operation : Operation}
    (forward : Forward w operation) {id a : Ident 128}
    (current : (CoordinatorHistory.step w.coordinator operation).currentAttemptId id = some a) :
    w.coordinator.currentAttemptId id = some a ∨ (id, a) ∉ w.superseded := by
  obtain ⟨effect, after⟩ := step_effect steady operation
  rw [after.currentAttemptId] at current
  rw [steady.currentAttemptId]
  generalize CoordinatorHistory.step w.coordinator operation = c' at effect after current
  cases effect with
  | unmoved same =>
    obtain ⟨stale, rfl⟩ := same
    exact .inl current
  | @recorded x y _ record =>
    rw [record.attempts steady] at current
    split at current
    · next here =>
      subst here
      cases bound : w.coordinator.childAttemptIds.lookup x.childId with
      | none =>
        refine .inr (forward ?_ a current)
        rw [steady.currentAttemptId]
        exact bound
      | some b => exact .inl ((record.attempt b bound).symm.trans current)
    · exact .inl current
  | @retried childId attemptId _ _ child attempt _ named attemptNamed known _ _ _ retry =>
    have fresh := forward.1 child attempt named attemptNamed
    cases retry with
    | renewed parent lease _ =>
      have only : [(child, attempt)].lookup id = some a := current
      rw [List.lookup_singleton] at only
      split at only
      · next here =>
        cases only
        exact .inr ((beq_iff_eq.mp here) ▸ fresh)
      · cases only
    | kept =>
      by_cases here : id = child
      · subst here
        have same : a = attempt := by
          have once : ((w.coordinator.childAttemptIds.filter (·.1 ≠ id) ++ [(id, attempt)]).map
              Prod.fst).Nodup := (sorted_perm _).map Prod.fst |>.nodup_iff.mp after.records.single
          have last := (lookup_sorted once id).symm.trans current
          have bound := (Keyed.lookup_iff once).mpr (List.mem_append_right _ (List.mem_singleton.mpr rfl))
          exact Option.some.inj (last.symm.trans bound)
        exact .inr (same ▸ fresh)
      · refine .inl ?_
        have once : ((w.coordinator.childAttemptIds.filter (·.1 ≠ child) ++ [(child, attempt)]).map
            Prod.fst).Nodup := (sorted_perm _).map Prod.fst |>.nodup_iff.mp after.records.single
        exact (lookup_retried here).symm.trans ((lookup_sorted once id).symm.trans current)

theorem step_onward {w : Watched} (onward : Onward w) {operation : Operation}
    (forward : Forward w operation) : Onward (w.step operation) := by
  refine ⟨(step_effect onward.steady operation).2, ?_⟩
  intro id a current member
  rcases List.mem_append.mp member with old | new
  · rcases step_current onward.steady forward current with before | fresh
    · exact onward.current id a before old
    · exact fresh old
  · exact mem_replaced new current

theorem step_generation {w : Watched} (onward : Onward w) {operation : Operation}
    (forward : Forward w operation) :
    NotBelow w.coordinator.leaseGeneration (w.step operation).coordinator.leaseGeneration := by
  obtain ⟨effect, _⟩ := step_effect onward.steady operation
  change NotBelow _ (CoordinatorHistory.step w.coordinator operation).leaseGeneration
  generalize CoordinatorHistory.step w.coordinator operation = c' at effect
  cases effect with
  | unmoved same =>
    obtain ⟨stale, rfl⟩ := same
    exact .refl _
  | recorded record =>
    intro g found
    have bound : w.coordinator.parentAttemptId ≠ none := by
      intro unbound
      rw [onward.steady.records.generation.mp unbound] at found
      cases found
    exact ⟨g, (record.generation bound).2.trans found, le_refl g⟩
  | @retried _ _ _ lease _ _ _ _ _ _ _ _ generation _ =>
    intro g found
    rw [generation]
    cases lease with
    | none => exact ⟨g, found, le_refl g⟩
    | some next => exact ⟨next, rfl, forward.2 next g rfl found⟩

/-! ## Whole histories -/

/-- Along a history that never goes back, no completion held is one of a superseded
attempt, and the generation attached to a child does not decrease between any two
coordinators of the history. -/
theorem superseded_never_back {plan : FanoutPlan} {parentAttemptId : Option (Ident 128)}
    {lease : Option Nat} {attempts : AttemptIds} {c : FanoutCoordinator}
    (started : fromPlan plan parentAttemptId lease attempts = .ok c) (operations : List Operation)
    (admitted : Along Watched.step Forward { coordinator := c } operations) :
    NeverBack (run Watched.step { coordinator := c } operations) ∧
      ∀ before after, operations = before ++ after → ∀ id earlier later,
        attachedGeneration (run Watched.step { coordinator := c } before).coordinator id =
          some earlier →
        attachedGeneration (run Watched.step { coordinator := c } operations).coordinator id =
          some later → earlier ≤ later := by
  have first : Onward { coordinator := c } := ⟨(fromPlan_steady started).1, by simp⟩
  have step : ∀ w operation, Onward w → Forward w operation → Onward (w.step operation) :=
    fun w operation onward forward => step_onward onward forward
  refine ⟨(run_invariant step first admitted).neverBack, ?_⟩
  rintro before after rfl id earlier later atFirst atLast
  rw [run_append] at atLast
  obtain ⟨toBefore, onwards⟩ := (along_append _ _ _ _ _).mp admitted
  have reached := run_invariant step first toBefore
  have grows : NotBelow (run Watched.step { coordinator := c } before).coordinator.leaseGeneration
      (run Watched.step (run Watched.step { coordinator := c } before) after).coordinator.leaseGeneration := by
    refine @run_relation _ _ Watched.step Forward Onward
      (fun w w' => NotBelow w.coordinator.leaseGeneration w'.coordinator.leaseGeneration)
      (fun w => .refl _) (fun _ _ _ => .trans) ?_ _ _ reached onwards
    exact fun w operation onward forward =>
      ⟨step_onward onward forward, step_generation onward forward⟩
  obtain ⟨_, _, held⟩ := Option.bind_eq_some_iff.mp atFirst
  obtain ⟨_, _, final⟩ := Option.bind_eq_some_iff.mp atLast
  obtain ⟨g, found, le⟩ := grows earlier held
  cases final.symm.trans found
  exact le

/-! ## Going back -/

section Review

def firstAttempt : Ident 128 := ⟨"first", by decide, by decide⟩

/-- `api` runs under `first`, is retried under `second` and then once more. -/
def onward : List Operation :=
  [.complete (report api .succeeded (some firstAttempt)), .retry "api" "second" none none,
    .complete (report api .succeeded (some secondAttempt))]

theorem superseded_never_back_second :
    NeverBack (run Watched.step { coordinator := { plan := oneByOne } } onward) ∧
      ∀ before after, onward = before ++ after → ∀ id earlier later,
        attachedGeneration
          (run Watched.step { coordinator := { plan := oneByOne } } before).coordinator id =
            some earlier →
        attachedGeneration
          (run Watched.step { coordinator := { plan := oneByOne } } onward).coordinator id =
            some later → earlier ≤ later := by
  refine @superseded_never_back oneByOne none none [] { plan := oneByOne } rfl onward ⟨?_, ⟨?_, ?_⟩, ?_, trivial⟩
  · exact fun _ _ _ => List.not_mem_nil
  · exact fun _ _ _ _ => List.not_mem_nil
  · intro next held none _
    cases none
  · intro unbound
    cases unbound

/-- A retry may go back to an attempt it superseded, whose completion is then the
current one, and to a lower lease generation. -/
theorem superseded_attempt_back :
    @FanoutPlan.fromParent flatHash reviewParent [api, web] .parallel (some 1) none
        .allRequired = .ok oneByOne ∧
      fromPlan oneByOne none none [] = .ok { plan := oneByOne } ∧
      ¬ NeverBack (run Watched.step { coordinator := { plan := oneByOne } }
        [.complete (report api .succeeded (some firstAttempt)), .retry "api" "second" none none,
          .retry "api" "first" none none, .complete (report api .succeeded (some firstAttempt))]) ∧
      ∃ c, fromPlan oneByOne (some firstAttempt) (some 2) [(api.childId, firstAttempt)] = .ok c ∧
        attachedGeneration c api.childId = some 2 ∧
        attachedGeneration (CoordinatorHistory.step c (.retry "api" "second" none (some 1)))
          api.childId = some 1 := by
  refine ⟨oneByOne_planned, rfl, ?_, _, rfl, rfl, rfl⟩
  intro never
  refine never (report api .succeeded (some firstAttempt)) (List.mem_singleton.mpr rfl) firstAttempt
    rfl ?_
  have replaced : (run Watched.step { coordinator := { plan := oneByOne } }
      [.complete (report api .succeeded (some firstAttempt)), .retry "api" "second" none none,
        .retry "api" "first" none none, .complete (report api .succeeded (some firstAttempt))]).superseded =
      [(api.childId, firstAttempt), (api.childId, secondAttempt)] := rfl
  rw [replaced]
  exact List.mem_cons_self

end Review

end DwSuperApps.Guarantees.AttemptHistory
