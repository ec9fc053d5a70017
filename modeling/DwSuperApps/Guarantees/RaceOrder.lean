import Mathlib.Data.List.Perm.Basic
import Mathlib.Data.List.Forall2
import DwSuperApps.Source.TerminalRace

/-!
# Order of the terminal signals

A decision read over the permutations of its batch (`resolve_terminal_race`, whose
docstring promises a decision determined by the state and the signal set).

* what the loop over the batch collects, described by the signals it coerces
  (`collected_describes`, `exists_collected`);
* the evidence and the winner of two described batches with the same signals are the
  same wherever the evidence is sorted (`sealedDecision_eq`, `openDecision_eq`);
* an open race without an eligible signal keeps its evidence in arrival order, so its
  decision follows the order of the batch (`decided_orderFree`).
-/
namespace DwSuperApps.Guarantees.RaceOrder

open DwSuperApps.Lib DwSuperApps.Lib.Checked
open DwSuperApps.Source.TerminalRace

/-- The decision of a batch and the state it is committed to. -/
def decided (state : State) (signals : List SignalInput) : Except Failure (Decision × State) := do
  let decision ← resolveTerminalRace state signals
  let next ← commitTerminalRace state decision
  return (decision, next)

/-- Signals under one id are one signal. -/
def Consistent (signals : List Signal) : Prop :=
  ∀ a ∈ signals, ∀ b ∈ signals, a.signalId = b.signalId → a = b

/-- The batch has an entry that is no signal, or two different signals under one id. -/
def Refused (signals : List SignalInput) : Prop :=
  (∃ raw ∈ signals, ∃ failure, coerceSignal raw = .error failure) ∨
  ∃ raw ∈ signals, ∃ raw' ∈ signals, ∃ a b, coerceSignal raw = .ok a ∧
    coerceSignal raw' = .ok b ∧ a.signalId = b.signalId ∧ a ≠ b

/-- The batch has a signal that may win the race. -/
def HasEligible (identity : Identity) (signals : List SignalInput) : Prop :=
  ∃ raw ∈ signals, ∃ signal, coerceSignal raw = .ok signal ∧ signal.BoundTo identity ∧
    identity.logicalCursor < signal.logicalSeq

/-- The batches whose order does not matter. -/
def OrderFree (state : State) (signals : List SignalInput) : Prop :=
  state.committedWinner ≠ none ∨ HasEligible state.identity signals ∨ Refused signals ∨
    ∀ raw ∈ signals, ∀ raw' ∈ signals, coerceSignal raw = coerceSignal raw'

/-! ## What the loop collects -/

/-- `collected` is what the loop has after the signals `handled`. -/
structure Describes (handled : List Signal) (collected : Collected) : Prop where
  members : ∀ signal, signal ∈ collected.normalized ↔ signal ∈ handled
  distinct : (collected.normalized.map (·.signalId)).Nodup
  first : collected.normalized.head? = handled.head?
  repeated : (collected.repeated ++
    collected.normalized.map (evidence · .duplicateSignal)).Perm
      (handled.map (evidence · .duplicateSignal))

theorem describes_nil : Describes [] {} :=
  ⟨fun _ => Iff.rfl, List.nodup_nil, rfl, List.Perm.refl _⟩

/-- A repetition of a handled signal is one more evidence. -/
theorem Describes.repeat {handled : List Signal} {collected : Collected} {signal : Signal}
    (described : Describes handled collected) (known : signal ∈ handled) :
    Describes (handled ++ [signal]) { collected with
      repeated := collected.repeated ++ [evidence signal .duplicateSignal] } where
  members other := by
    rw [described.members, List.mem_append, List.mem_singleton]
    exact ⟨.inl, fun h => h.elim id fun same => same ▸ known⟩
  distinct := described.distinct
  first := by
    rw [described.first]
    cases handled with
    | nil => cases known
    | cons head rest => rfl
  repeated := by
    rw [List.map_append, List.map_singleton]
    refine List.Perm.trans ?_ (described.repeated.append_right _)
    rw [List.append_assoc, List.append_assoc]
    exact (List.perm_append_comm).append_left _

/-- A signal under a new id is one more distinct signal. -/
theorem Describes.add {handled : List Signal} {collected : Collected} {signal : Signal}
    (described : Describes handled collected)
    (fresh : ∀ other ∈ handled, other.signalId ≠ signal.signalId) :
    Describes (handled ++ [signal]) { collected with
      normalized := collected.normalized ++ [signal] } where
  members other := by
    rw [List.mem_append, List.mem_append, described.members]
  distinct := by
    rw [List.map_append, List.map_singleton]
    refine List.Nodup.append described.distinct (List.nodup_singleton _) ?_
    intro id inside single
    obtain ⟨other, member, rfl⟩ := List.mem_map.mp inside
    exact fresh other ((described.members other).mp member) (List.mem_singleton.mp single)
  first := by
    rw [List.head?_append, List.head?_append, described.first]
  repeated := by
    rw [List.map_append, List.map_append, ← List.append_assoc]
    exact described.repeated.append_right _

theorem find_described {handled : List Signal} {collected : Collected} {signal prior : Signal}
    (described : Describes handled collected)
    (found : collected.normalized.find? (·.signalId = signal.signalId) = some prior) :
    prior ∈ handled ∧ prior.signalId = signal.signalId :=
  ⟨(described.members prior).mp (List.mem_of_find?_eq_some found),
    by simpa using List.find?_some found⟩

/-- One pass: a repetition, or a signal under a new id. -/
theorem collectOne_describes {handled : List Signal} {sofar next : Collected}
    {raw : SignalInput} (described : Describes handled sofar) (consistent : Consistent handled)
    (step : collectOne sofar raw = .ok next) :
    ∃ signal, coerceSignal raw = .ok signal ∧ Describes (handled ++ [signal]) next ∧
      Consistent (handled ++ [signal]) := by
  obtain ⟨signal, coerced, rest⟩ := bind_ok.mp step
  refine ⟨signal, coerced, ?_⟩
  split at rest
  · next prior found =>
    obtain ⟨member, -⟩ := find_described described found
    split_ifs at rest with same
    subst same
    cases rest
    refine ⟨described.repeat member, fun a ha b hb ids => ?_⟩
    have inside : ∀ x ∈ handled ++ [prior], x ∈ handled := fun x hx =>
      (List.mem_append.mp hx).elim id fun single => List.mem_singleton.mp single ▸ member
    exact consistent a (inside a ha) b (inside b hb) ids
  · next absent =>
    cases rest
    have fresh : ∀ other ∈ handled, other.signalId ≠ signal.signalId := fun other member =>
      of_decide_eq_false (Bool.eq_false_iff.mpr
        (List.find?_eq_none.mp absent other ((described.members other).mpr member)))
    refine ⟨described.add fresh, fun a ha b hb ids => ?_⟩
    rcases List.mem_append.mp ha with ha | ha <;> rcases List.mem_append.mp hb with hb | hb
    · exact consistent a ha b hb ids
    · exact absurd (List.mem_singleton.mp hb ▸ ids) (fresh a ha)
    · exact absurd (List.mem_singleton.mp ha ▸ ids.symm) (fresh b hb)
    · rw [List.mem_singleton.mp ha, List.mem_singleton.mp hb]

/-- A pass succeeds when the entry is a signal that no handled signal contradicts. -/
theorem exists_collectOne {handled : List Signal} {sofar : Collected} {raw : SignalInput}
    {signal : Signal} (described : Describes handled sofar)
    (coerced : coerceSignal raw = .ok signal) (consistent : Consistent (handled ++ [signal])) :
    ∃ next, collectOne sofar raw = .ok next := by
  unfold collectOne
  rw [coerced, ok_bind]
  split
  · next prior found =>
    obtain ⟨member, ids⟩ := find_described described found
    have same : prior = signal := consistent prior (List.mem_append_left _ member) signal
      (List.mem_append_right _ (List.mem_singleton_self _)) ids
    exact ⟨_, if_pos same⟩
  · exact ⟨_, rfl⟩

/-- The loop, from any point of the batch on. -/
theorem foldlM_describes {signals : List SignalInput} {handled : List Signal}
    {sofar collected : Collected} (described : Describes handled sofar)
    (consistent : Consistent handled) (loop : signals.foldlM collectOne sofar = .ok collected) :
    ∃ coerced, signals.mapM coerceSignal = .ok coerced ∧
      Describes (handled ++ coerced) collected ∧ Consistent (handled ++ coerced) := by
  induction signals generalizing handled sofar with
  | nil =>
    cases loop
    exact ⟨[], rfl, by rwa [List.append_nil], by rwa [List.append_nil]⟩
  | cons raw rest ih =>
    rw [List.foldlM_cons] at loop
    obtain ⟨next, step, later⟩ := bind_ok.mp loop
    obtain ⟨signal, coerced, described, consistent⟩ :=
      collectOne_describes described consistent step
    obtain ⟨others, mapped, described, consistent⟩ := ih described consistent later
    rw [List.append_assoc] at described consistent
    refine ⟨signal :: others, ?_, described, consistent⟩
    rw [List.mapM_cons, coerced, ok_bind, mapped]
    rfl

theorem collected_describes {signals : List SignalInput} {collected : Collected}
    (loop : signals.foldlM collectOne {} = .ok collected) :
    ∃ coerced, signals.mapM coerceSignal = .ok coerced ∧ Describes coerced collected ∧
      Consistent coerced :=
  foldlM_describes describes_nil (fun _ inside => nomatch inside) loop

theorem exists_foldlM {signals : List SignalInput} {handled coerced : List Signal}
    {sofar : Collected} (described : Describes handled sofar)
    (mapped : signals.mapM coerceSignal = .ok coerced)
    (consistent : Consistent (handled ++ coerced)) :
    ∃ collected, signals.foldlM collectOne sofar = .ok collected := by
  induction signals generalizing handled coerced sofar with
  | nil => exact ⟨sofar, rfl⟩
  | cons raw rest ih =>
    rw [List.mapM_cons] at mapped
    obtain ⟨signal, one, later⟩ := bind_ok.mp mapped
    obtain ⟨others, tail, whole⟩ := bind_ok.mp later
    cases whole
    have front : Consistent (handled ++ [signal]) := fun a ha b hb =>
      consistent a (by simp only [List.mem_append, List.mem_cons] at ha ⊢; tauto)
        b (by simp only [List.mem_append, List.mem_cons] at hb ⊢; tauto)
    have before : Consistent handled := fun a ha b hb =>
      front a (List.mem_append_left _ ha) b (List.mem_append_left _ hb)
    obtain ⟨next, step⟩ := exists_collectOne described one front
    obtain ⟨same, coerced, described, -⟩ := collectOne_describes described before step
    obtain rfl : signal = same := Except.ok.inj (one.symm.trans coerced)
    obtain ⟨collected, loop⟩ := ih described tail
      (by rwa [List.append_assoc, List.singleton_append])
    exact ⟨collected, by rw [List.foldlM_cons, step, ok_bind, loop]⟩

theorem exists_collected {signals : List SignalInput} {coerced : List Signal}
    (mapped : signals.mapM coerceSignal = .ok coerced) (consistent : Consistent coerced) :
    ∃ collected, signals.foldlM collectOne {} = .ok collected :=
  exists_foldlM describes_nil mapped consistent

/-! ## The same signals in another order -/

section Reordered
variable {coerced others : List Signal} {left right : Collected}

theorem normalized_perm (leftward : Describes coerced left) (rightward : Describes others right)
    (same : coerced.Perm others) : left.normalized.Perm right.normalized :=
  (List.perm_ext_iff_of_nodup leftward.distinct.of_map rightward.distinct.of_map).mpr
    fun signal => by rw [leftward.members, rightward.members, same.mem_iff]

theorem repeated_perm (leftward : Describes coerced left) (rightward : Describes others right)
    (same : coerced.Perm others) : left.repeated.Perm right.repeated := by
  have whole := leftward.repeated.trans ((same.map _).trans rightward.repeated.symm)
  have distinct := (normalized_perm leftward rightward same).map (evidence · .duplicateSignal)
  exact (List.perm_append_right_iff _).mp (whole.trans (distinct.symm.append_left _))

theorem repeated_cited (described : Describes coerced left) {item : Evidence}
    (inside : item ∈ left.repeated) : ∃ signal ∈ coerced, item = evidence signal .duplicateSignal := by
  have listed := described.repeated.mem_iff.mp (List.mem_append_left _ inside)
  obtain ⟨signal, member, rfl⟩ := List.mem_map.mp listed
  exact ⟨signal, member, rfl⟩

theorem stableId_ext {a b : StableId} (same : a.value = b.value) : a = b := by
  cases a
  cases b
  cases same
  rfl

theorem reason_value_inj {a b : Reason} (same : a.value = b.value) : a = b := by
  revert same
  cases a <;> cases b <;> decide

/-- The key of an evidence tells the evidence of one batch apart. -/
theorem evidence_apart (consistent : Consistent coerced) {items : List Evidence}
    (cited : ∀ item ∈ items, ∃ signal ∈ coerced, ∃ reason, item = evidence signal reason) :
    ∀ a ∈ items, ∀ b ∈ items, evidenceKey a = evidenceKey b → a = b := by
  intro a ha b hb keys
  obtain ⟨signal, member, reason, rfl⟩ := cited a ha
  obtain ⟨other, member', reason', rfl⟩ := cited b hb
  have inner := (Prod.mk.inj (toLex.injective keys)).2
  obtain ⟨reasons, ids⟩ := Prod.mk.inj (toLex.injective inner)
  obtain rfl : reason = reason' := reason_value_inj reasons
  rw [consistent signal member other member' (stableId_ext ids)]

/-- The key of a signal tells the signals of one batch apart. -/
theorem winner_apart (consistent : Consistent coerced) {items : List Signal}
    (inside : ∀ signal ∈ items, signal ∈ coerced) :
    ∀ a ∈ items, ∀ b ∈ items, winnerKey a = winnerKey b → a = b := by
  intro a ha b hb keys
  have inner := (Prod.mk.inj (toLex.injective keys)).2
  have ids := (Prod.mk.inj (toLex.injective inner)).2
  exact consistent a (inside a ha) b (inside b hb) (stableId_ext ids)

/-- A sealed race decides the same. -/
theorem sealedDecision_eq (leftward : Describes coerced left) (rightward : Describes others right)
    (consistent : Consistent coerced) (same : coerced.Perm others) (identity : Identity)
    (winner : Signal) : sealedDecision identity winner left = sealedDecision identity winner right := by
  unfold sealedDecision
  congr 1
  refine Sorted.sortedBy_eq_of_perm ?_ (evidence_apart consistent ?_)
  · exact (repeated_perm leftward rightward same).append
      ((normalized_perm leftward rightward same).map _)
  · intro item inside
    rcases List.mem_append.mp inside with repeated | late
    · obtain ⟨signal, member, rfl⟩ := repeated_cited leftward repeated
      exact ⟨signal, member, _, rfl⟩
    · obtain ⟨signal, member, rfl⟩ := List.mem_map.mp late
      exact ⟨signal, (leftward.members signal).mp member, _, rfl⟩

theorem eligible_perm (leftward : Describes coerced left) (rightward : Describes others right)
    (same : coerced.Perm others) (identity : Identity) :
    (eligible identity left.normalized).Perm (eligible identity right.normalized) :=
  (normalized_perm leftward rightward same).filter _

/-- The decision of an open race whose first eligible signal is `winner`. -/
theorem openDecision_won {identity : Identity} {collected : Collected} {winner : Signal}
    (first : (Sorted.sortedBy winnerKey (eligible identity collected.normalized)).head? =
      some winner) :
    openDecision identity collected = {
      winner := some winner
      stateAdvancing := true
      evidenceOnly := Sorted.sortedBy evidenceKey
        (collected.repeated ++ ineligible identity collected.normalized ++
          ((eligible identity collected.normalized).filter fun signal =>
            decide (signal ≠ winner)).map fun signal => evidence signal .raceLoser) } := by
  unfold openDecision
  simp only
  split
  · next absent => exact absurd (absent.symm.trans first) (by simp)
  · next other found =>
    obtain rfl : other = winner := Option.some.inj (found.symm.trans first)
    rfl

/-- The decision of an open race without an eligible signal keeps the arrival order. -/
theorem openDecision_idle {identity : Identity} {collected : Collected}
    (idle : eligible identity collected.normalized = []) :
    openDecision identity collected = {
      winner := none
      stateAdvancing := false
      evidenceOnly := collected.repeated ++ ineligible identity collected.normalized } := by
  unfold openDecision
  simp only
  split
  · rfl
  · next other found =>
    rw [idle] at found
    cases found

theorem ineligible_cited (described : Describes coerced left) {identity : Identity}
    {item : Evidence} (inside : item ∈ ineligible identity left.normalized) :
    ∃ signal ∈ coerced, ∃ reason, item = evidence signal reason := by
  obtain ⟨signal, member, made⟩ := List.mem_filterMap.mp inside
  obtain ⟨reason, -, rfl⟩ := Option.map_eq_some_iff.mp made
  exact ⟨signal, (described.members signal).mp member, reason, rfl⟩

/-- An open race with an eligible signal decides the same. -/
theorem openDecision_eq (leftward : Describes coerced left) (rightward : Describes others right)
    (consistent : Consistent coerced) (same : coerced.Perm others) {identity : Identity}
    (some_eligible : eligible identity left.normalized ≠ []) :
    openDecision identity left = openDecision identity right := by
  have competing := eligible_perm leftward rightward same identity
  have ranked : Sorted.sortedBy winnerKey (eligible identity left.normalized) =
      Sorted.sortedBy winnerKey (eligible identity right.normalized) :=
    Sorted.sortedBy_eq_of_perm competing (winner_apart consistent fun signal inside =>
      (leftward.members signal).mp (mem_eligible.mp inside).1)
  obtain ⟨winner, first⟩ : ∃ winner,
      (Sorted.sortedBy winnerKey (eligible identity left.normalized)).head? = some winner := by
    cases sorted : Sorted.sortedBy winnerKey (eligible identity left.normalized) with
    | nil =>
      have perm := @Sorted.perm_sortedBy _ _ _ winnerKey (eligible identity left.normalized)
      rw [sorted] at perm
      exact absurd perm.nil_eq.symm some_eligible
    | cons winner rest => exact ⟨winner, rfl⟩
  rw [openDecision_won first, openDecision_won (ranked ▸ first)]
  congr 1
  refine Sorted.sortedBy_eq_of_perm ?_ (evidence_apart consistent ?_)
  · exact ((repeated_perm leftward rightward same).append
      ((normalized_perm leftward rightward same).filterMap _)).append
        ((competing.filter _).map _)
  · intro item inside
    rcases List.mem_append.mp inside with refused | lost
    · rcases List.mem_append.mp refused with repeated | unfit
      · obtain ⟨signal, member, rfl⟩ := repeated_cited leftward repeated
        exact ⟨signal, member, _, rfl⟩
      · exact ineligible_cited leftward unfit
    · obtain ⟨signal, member, rfl⟩ := List.mem_map.mp lost
      have competitor := mem_eligible.mp (List.mem_filter.mp member).1
      exact ⟨signal, (leftward.members signal).mp competitor.1, _, rfl⟩

end Reordered

/-! ## Reading a batch -/

section Batch
variable {state : State} {signals others : List SignalInput}

theorem refused_perm (same : signals.Perm others) : Refused signals ↔ Refused others := by
  simp only [Refused, same.mem_iff]

/-- A batch that is not refused is a list of consistent signals. -/
theorem coerced_of_not_refused (accepted : ¬ Refused signals) :
    ∃ coerced, signals.mapM coerceSignal = .ok coerced ∧ Consistent coerced := by
  have each : ∀ raw ∈ signals, ∃ signal, coerceSignal raw = .ok signal := by
    intro raw member
    cases read : coerceSignal raw with
    | error failure => exact absurd (.inl ⟨raw, member, failure, read⟩) accepted
    | ok signal => exact ⟨signal, rfl⟩
  obtain ⟨coerced, mapped⟩ := exists_mapM_ok each
  refine ⟨coerced, mapped, fun a ha b hb ids => ?_⟩
  obtain ⟨raw, member, read⟩ := mapM_mem mapped ha
  obtain ⟨raw', member', read'⟩ := mapM_mem mapped hb
  by_contra different
  exact accepted (.inr ⟨raw, member, raw', member', a, b, read, read', ids, different⟩)

theorem not_refused {coerced : List Signal} (mapped : signals.mapM coerceSignal = .ok coerced)
    (consistent : Consistent coerced) : ¬ Refused signals := by
  rintro (⟨raw, member, failure, failed⟩ | ⟨raw, member, raw', member', a, b, read, read', ids, different⟩)
  · obtain ⟨signal, -, read⟩ := mapM_of_mem mapped member
    cases failed.symm.trans read
  · obtain ⟨signal, inside, same⟩ := mapM_of_mem mapped member
    obtain ⟨signal', inside', same'⟩ := mapM_of_mem mapped member'
    obtain rfl : a = signal := Except.ok.inj (read.symm.trans same)
    obtain rfl : b = signal' := Except.ok.inj (read'.symm.trans same')
    exact different (consistent a inside b inside' ids)

/-- A permuted batch reads as the permuted signals. -/
theorem coerced_perm {coerced : List Signal} (mapped : signals.mapM coerceSignal = .ok coerced)
    (same : signals.Perm others) :
    ∃ permuted, others.mapM coerceSignal = .ok permuted ∧ coerced.Perm permuted := by
  obtain ⟨permuted, each, perm⟩ := List.perm_comp_forall₂ same.symm (mapM_ok.mp mapped)
  exact ⟨permuted, mapM_ok.mpr each, perm.symm⟩

/-- The loop sees what the entries coerce to. -/
theorem foldlM_congr {sofar : Collected}
    (alike : signals.map coerceSignal = others.map coerceSignal) :
    signals.foldlM collectOne sofar = others.foldlM collectOne sofar := by
  induction signals generalizing others sofar with
  | nil => rw [List.map_eq_nil_iff.mp alike.symm]
  | cons raw rest ih =>
    cases others with
    | nil => cases alike
    | cons raw' later =>
      obtain ⟨first, tails⟩ := List.cons.inj alike
      have step : collectOne sofar raw = collectOne sofar raw' := by
        unfold collectOne
        rw [first]
      rw [List.foldlM_cons, List.foldlM_cons, step]
      exact congrArg _ (funext fun next => ih tails)

/-- The decision on what the loop collected. -/
def decisionOf (state : State) (collected : Collected) : Decision :=
  match state.committedWinner with
  | some winner => sealedDecision state.identity winner collected
  | none => openDecision state.identity collected

theorem resolve_of (nonempty : signals ≠ []) {collected : Collected}
    (loop : signals.foldlM collectOne {} = .ok collected) :
    resolveTerminalRace state signals = .ok (decisionOf state collected) := by
  refine (bind_of (ensure_of nonempty _) _).trans ?_
  refine (bind_of loop _).trans ?_
  unfold decisionOf
  cases state.committedWinner <;> rfl

/-- A decided batch: not empty, its loop ended, and its decision committed. -/
theorem decided_ok {result : Decision × State} :
    decided state signals = .ok result ↔ signals ≠ [] ∧ ∃ collected,
      signals.foldlM collectOne {} = .ok collected ∧ result.1 = decisionOf state collected ∧
      commitTerminalRace state result.1 = .ok result.2 := by
  constructor
  · intro made
    obtain ⟨decision, resolved, rest⟩ := bind_ok.mp made
    obtain ⟨next, committed, final⟩ := bind_ok.mp rest
    cases final
    obtain ⟨u, nonempty, rest⟩ := bind_ok.mp resolved
    have nonempty : signals ≠ [] := ensure_ok.mp nonempty
    obtain ⟨collected, loop, -⟩ := bind_ok.mp rest
    refine ⟨nonempty, collected, loop, ?_, committed⟩
    exact Except.ok.inj (resolved.symm.trans (resolve_of nonempty loop))
  · rintro ⟨nonempty, collected, loop, decision, committed⟩
    have resolved := @resolve_of state _ nonempty _ loop
    rw [← decision] at resolved
    exact bind_ok.mpr ⟨_, resolved, bind_ok.mpr ⟨_, committed, rfl⟩⟩

/-- A refused batch is not decided. -/
theorem decided_refused (refused : Refused signals) : (decided state signals).toOption = none := by
  cases made : decided state signals with
  | error failure => rfl
  | ok result =>
    obtain ⟨-, collected, loop, -, -⟩ := decided_ok.mp made
    obtain ⟨coerced, mapped, -, consistent⟩ := collected_describes loop
    exact absurd refused (not_refused mapped consistent)

theorem decided_eq (nonempty : signals ≠ []) {collected : Collected}
    (loop : signals.foldlM collectOne {} = .ok collected) :
    ∃ next, decided state signals = .ok (decisionOf state collected, next) := by
  have resolved := @resolve_of state _ nonempty _ loop
  obtain ⟨next, committed⟩ := commit_resolved resolved
  exact ⟨next, bind_ok.mpr ⟨_, resolved, bind_ok.mpr ⟨_, committed, rfl⟩⟩⟩

/-- Batches whose decisions are the same are decided the same. -/
theorem decided_congr (here : signals ≠ []) (there : others ≠ []) {left right : Collected}
    (leftLoop : signals.foldlM collectOne {} = .ok left)
    (rightLoop : others.foldlM collectOne {} = .ok right)
    (same : decisionOf state left = decisionOf state right) :
    decided state others = decided state signals := by
  unfold decided
  rw [resolve_of here leftLoop, resolve_of there rightLoop, same]

end Batch

/-! ## The order of the batch -/

/-- The first evidence that is not a repetition. -/
def lead (items : List Evidence) : Option StableId :=
  ((items.filter fun item => decide (item.reason ≠ .duplicateSignal)).head?).map (·.signalId)

theorem classifyIneligible_ne_duplicate (signal : Signal) (identity : Identity) :
    classifyIneligible signal identity ≠ some .duplicateSignal := by
  unfold classifyIneligible
  simp only
  split_ifs <;> simp

/-- Where nothing is eligible the evidence is led by the first signal that arrived. -/
theorem lead_idle {coerced : List Signal} {collected : Collected} {identity : Identity}
    {signal : Signal} (described : Describes coerced collected)
    (idle : eligible identity collected.normalized = []) (first : coerced.head? = some signal) :
    lead (openDecision identity collected).evidenceOnly = some signal.signalId := by
  rw [openDecision_idle idle]
  have repeats : collected.repeated.filter
      (fun item => decide (item.reason ≠ .duplicateSignal)) = [] := by
    refine List.filter_eq_nil_iff.mpr fun item inside => ?_
    obtain ⟨other, -, rfl⟩ := repeated_cited described inside
    simp [evidence]
  obtain ⟨rest, normalized⟩ : ∃ rest, collected.normalized = signal :: rest := by
    have head := described.first.trans first
    cases normalized : collected.normalized with
    | nil => rw [normalized] at head; cases head
    | cons head' rest =>
      rw [normalized] at head
      exact ⟨rest, by rw [Option.some.inj head]⟩
  obtain ⟨reason, classified⟩ : ∃ reason, classifyIneligible signal identity = some reason := by
    cases classified : classifyIneligible signal identity with
    | some reason => exact ⟨reason, rfl⟩
    | none =>
      have won : signal ∈ eligible identity collected.normalized := by
        rw [normalized]
        exact List.mem_filter.mpr ⟨List.mem_cons_self, by rw [classified]; rfl⟩
      rw [idle] at won
      cases won
  have other : (evidence signal reason).reason ≠ .duplicateSignal := fun same =>
    classifyIneligible_ne_duplicate signal identity (same ▸ classified)
  have front : ineligible identity collected.normalized =
      evidence signal reason :: ineligible identity rest := by
    rw [normalized]
    simp [ineligible, classified]
  unfold lead
  simp only
  rw [List.filter_append, repeats, List.nil_append, front, List.filter_cons,
    if_pos (decide_eq_true other)]
  rfl

/-- A batch that is accepted and has no eligible signal, decided in an open race with
one of its entries first. -/
theorem decided_lead {state : State} {signals rest : List SignalInput} {raw : SignalInput}
    {signal : Signal} (isOpen : state.committedWinner = none)
    (accepted : ¬ Refused signals) (idle : ¬ HasEligible state.identity signals)
    (same : signals.Perm (raw :: rest)) (read : coerceSignal raw = .ok signal) :
    ∃ decision next, (decided state (raw :: rest)).toOption = some (decision, next) ∧
      lead decision.evidenceOnly = some signal.signalId := by
  obtain ⟨coerced, mapped, consistent⟩ :=
    coerced_of_not_refused (mt (refused_perm same).mpr accepted)
  obtain ⟨collected, loop⟩ := exists_collected mapped consistent
  obtain ⟨again, mapped', described, -⟩ := collected_describes loop
  obtain rfl : coerced = again := Except.ok.inj (mapped.symm.trans mapped')
  have none_eligible : eligible state.identity collected.normalized = [] := by
    refine List.eq_nil_iff_forall_not_mem.mpr fun winner member => idle ?_
    obtain ⟨inside, bound, newer⟩ := mem_eligible.mp member
    obtain ⟨source, listed, read⟩ := mapM_mem mapped ((described.members winner).mp inside)
    exact ⟨source, same.mem_iff.mpr listed, winner, read, bound, newer⟩
  have first : coerced.head? = some signal := by
    rw [List.mapM_cons, read, ok_bind] at mapped
    obtain ⟨later, -, whole⟩ := bind_ok.mp mapped
    cases whole
    rfl
  obtain ⟨next, made⟩ := @decided_eq state _ (List.cons_ne_nil _ _) _ loop
  refine ⟨_, next, by rw [made]; rfl, ?_⟩
  unfold decisionOf
  rw [isOpen]
  exact lead_idle described none_eligible first

/-- The decision of a batch whose order does not matter. -/
theorem decided_perm {state : State} {signals others : List SignalInput}
    (orderFree : OrderFree state signals) (same : signals.Perm others) :
    (decided state others).toOption = (decided state signals).toOption := by
  by_cases refused : Refused signals
  · rw [decided_refused refused, decided_refused ((refused_perm same).mp refused)]
  · by_cases empty : signals = []
    · subst empty
      rw [same.nil_eq]
    · have nonempty : others ≠ [] := fun nil => empty (nil ▸ same).eq_nil
      obtain ⟨coerced, mapped, consistent⟩ := coerced_of_not_refused refused
      obtain ⟨permuted, mapped', perm⟩ := coerced_perm mapped same
      have consistent' : Consistent permuted := fun a ha b hb =>
        consistent a (perm.mem_iff.mpr ha) b (perm.mem_iff.mpr hb)
      obtain ⟨left, leftLoop⟩ := exists_collected mapped consistent
      obtain ⟨right, rightLoop⟩ := exists_collected mapped' consistent'
      obtain ⟨_, again, leftward, -⟩ := collected_describes leftLoop
      obtain rfl := Except.ok.inj (mapped.symm.trans again)
      obtain ⟨_, again, rightward, -⟩ := collected_describes rightLoop
      obtain rfl := Except.ok.inj (mapped'.symm.trans again)
      refine congrArg _ (decided_congr empty nonempty leftLoop rightLoop ?_)
      unfold decisionOf
      cases committed : state.committedWinner with
      | some winner => exact sealedDecision_eq leftward rightward consistent perm _ winner
      | none =>
        rcases orderFree with sealed | ⟨raw, member, signal, read, bound, newer⟩ | bad | alike
        · exact absurd committed sealed
        · refine openDecision_eq leftward rightward consistent perm ?_
          obtain ⟨raw', inside, read'⟩ := mapM_of_mem mapped member
          obtain rfl : signal = raw' := Except.ok.inj (read.symm.trans read')
          exact List.ne_nil_of_mem
            (mem_eligible.mpr ⟨(leftward.members signal).mpr inside, bound, newer⟩)
        · exact absurd bad refused
        · -- every entry coerces to the same signal: the loops see the same list
          obtain ⟨raw, member⟩ := List.exists_mem_of_ne_nil _ empty
          have shown : ∀ list : List SignalInput, list.Perm signals →
              list.map coerceSignal = List.replicate signals.length (coerceSignal raw) := by
            intro list listed
            refine List.eq_replicate_iff.mpr ⟨by rw [List.length_map, listed.length_eq], ?_⟩
            intro read inside
            obtain ⟨raw', member', rfl⟩ := List.mem_map.mp inside
            exact alike raw' (listed.mem_iff.mp member') raw member
          have loops := @foldlM_congr signals others {}
            ((shown _ (List.Perm.refl _)).trans (shown _ same.symm).symm)
          rw [leftLoop, rightLoop] at loops
          rw [Except.ok.inj loops]

/-- A batch is decided the same in every order exactly where its order does not matter:
the race is sealed, a signal is eligible, the batch is refused, or it is one signal. -/
theorem decided_orderFree (state : State) (signals : List SignalInput) :
    (∀ others, signals.Perm others →
      (decided state others).toOption = (decided state signals).toOption) ↔
    OrderFree state signals := by
  constructor
  · intro invariant
    by_contra ordered
    simp only [OrderFree, not_or, ne_eq, not_not] at ordered
    obtain ⟨isOpen, idle, accepted, different⟩ := ordered
    push Not at different
    obtain ⟨raw, member, raw', member', apart⟩ := different
    obtain ⟨coerced, mapped, consistent⟩ := coerced_of_not_refused accepted
    obtain ⟨a, inside, read⟩ := mapM_of_mem mapped member
    obtain ⟨b, inside', read'⟩ := mapM_of_mem mapped member'
    obtain ⟨before, after, split⟩ := List.append_of_mem member
    obtain ⟨before', after', split'⟩ := List.append_of_mem member'
    have front : signals.Perm (raw :: (before ++ after)) := split ▸ List.perm_middle
    have front' : signals.Perm (raw' :: (before' ++ after')) := split' ▸ List.perm_middle
    obtain ⟨decision, next, made, led⟩ := decided_lead isOpen accepted idle front read
    obtain ⟨decision', next', made', led'⟩ := decided_lead isOpen accepted idle front' read'
    have results := (invariant _ front).trans (invariant _ front').symm
    rw [made, made'] at results
    obtain ⟨rfl, -⟩ := Prod.mk.inj (Option.some.inj results)
    have ids : a.signalId = b.signalId := Option.some.inj (led.symm.trans led')
    refine apart ?_
    rw [read, read', consistent a inside b inside' ids]
  · intro orderFree others same
    exact decided_perm orderFree same

/-! ## Two late signals -/

theorem run_identifier : isIdentifier "run" = true := by decide
theorem node_identifier : isIdentifier "node" = true := by decide
theorem attempt_identifier : isIdentifier "attempt" = true := by decide

/-- The identity of a race whose lease was granted again. -/
def regranted : Identity where
  runId := ⟨"run", run_identifier⟩
  nodeId := ⟨"node", node_identifier⟩
  attemptId := ⟨"attempt", attempt_identifier⟩
  leaseGeneration := 2

/-- A timeout of the lease before. -/
def staleTimeout : Signal where
  signalId := ⟨"timeout", by decide⟩
  kind := .timeout
  runId := ⟨"run", run_identifier⟩
  nodeId := ⟨"node", node_identifier⟩
  attemptId := ⟨"attempt", attempt_identifier⟩
  leaseGeneration := 1
  logicalSeq := 4

/-- A cancellation under the lease before. -/
def staleCancellation : Signal :=
  { staleTimeout with
    signalId := ⟨"cancel", by decide⟩
    kind := .cancellation
    childFits := by decide }

/-- Two stale signals in both orders: the same set, two decisions. -/
theorem stale_signals_ordered :
    ¬ ∀ (state : State) (signals others : List SignalInput), signals.Perm others →
      (decided state others).toOption = (decided state signals).toOption := by
  intro claim
  have swapped := congrArg (Option.map fun result => result.1.evidenceOnly)
    (claim { identity := regranted } [.signal staleTimeout, .signal staleCancellation]
      [.signal staleCancellation, .signal staleTimeout] (List.Perm.swap _ _ _))
  revert swapped
  decide

end DwSuperApps.Guarantees.RaceOrder
