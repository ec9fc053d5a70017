import DwSuperApps.Guarantees.SynthesisCompletion

/-!
# Precedence of the parent verdict

A material conflict that is left open makes the verdict NEEDS_CLARIFICATION, whatever
was proposed. Without one the verdict is at least as severe as the proposed one and as
the adjudicated one, and FAIL stays FAIL whatever evidence is added
(`verdict_floor`). An open conflict outranks even a proposed FAIL
(`open_conflict_outranks_fail`).
-/
namespace DwSuperApps.Guarantees.VerdictPrecedence

open DwSuperApps.Lib DwSuperApps.Lib.Checked
open DwSuperApps.Source.Findings DwSuperApps.Source.Conflicts DwSuperApps.Source.Synthesis
open DwSuperApps.Guarantees.SynthesisCompletion

/-! ## The verdict of the evidence -/

section Verdict
variable {proposed : ReviewVerdict} {evaluation : ConflictEvaluation}
  {findings : List DeduplicatedFinding}

theorem effectiveVerdict_open (isOpen : ∃ g ∈ evaluation.conflicts, g.unresolvedMaterial = true) :
    effectiveVerdict proposed evaluation findings = .needsClarification := by
  unfold effectiveVerdict
  exact if_pos (List.any_eq_true.mpr isOpen)

/-- The worse of two verdicts. -/
def worse (p q : ReviewVerdict) : ReviewVerdict := if verdictOrder p < verdictOrder q then q else p

theorem order_worse (p q : ReviewVerdict) :
    verdictOrder (worse p q) = max (verdictOrder p) (verdictOrder q) := by
  unfold worse
  split
  · next less => exact (Nat.max_eq_right (Nat.le_of_lt less)).symm
  · next greater => exact (Nat.max_eq_left (Nat.not_lt.mp greater)).symm

theorem worse_fail {p q : ReviewVerdict} : worse p q = .fail ↔ p = .fail ∨ q = .fail := by
  cases p <;> cases q <;> decide

/-- Without an open conflict the verdict is the worse one, or NEEDS_FIX in place of PASS. -/
theorem effectiveVerdict_settled
    (settled : ¬ ∃ g ∈ evaluation.conflicts, g.unresolvedMaterial = true) :
    effectiveVerdict proposed evaluation findings =
      if findings.any (·.representative.severity.isHigh) ∧
        worse proposed evaluation.finalVerdict = .pass then .needsFix
      else worse proposed evaluation.finalVerdict := by
  unfold effectiveVerdict
  rw [if_neg fun any => settled (List.any_eq_true.mp any)]
  rfl

theorem effectiveVerdict_floor
    (settled : ¬ ∃ g ∈ evaluation.conflicts, g.unresolvedMaterial = true) :
    verdictOrder (worse proposed evaluation.finalVerdict) ≤
      verdictOrder (effectiveVerdict proposed evaluation findings) := by
  rw [effectiveVerdict_settled settled]
  split
  · next raised =>
    rw [raised.2]
    decide
  · exact Nat.le_refl _

/-- FAIL comes from a FAIL that was proposed or adjudicated. -/
theorem effectiveVerdict_fail (failed : effectiveVerdict proposed evaluation findings = .fail) :
    proposed = .fail ∨ evaluation.finalVerdict = .fail := by
  by_cases isOpen : ∃ g ∈ evaluation.conflicts, g.unresolvedMaterial = true
  · rw [effectiveVerdict_open isOpen] at failed
    cases failed
  · rw [effectiveVerdict_settled isOpen] at failed
    split at failed
    · cases failed
    · exact worse_fail.mp failed

theorem effectiveVerdict_fails (failed : proposed = .fail ∨ evaluation.finalVerdict = .fail)
    (settled : ¬ ∃ g ∈ evaluation.conflicts, g.unresolvedMaterial = true) :
    effectiveVerdict proposed evaluation findings = .fail := by
  have worst : worse proposed evaluation.finalVerdict = .fail := worse_fail.mpr failed
  rw [effectiveVerdict_settled settled, worst]
  exact if_neg fun both => absurd both.2 (by decide)

end Verdict

/-! ## The verdict of a synthesis -/

section Synthesis
variable [Rendering] [Sha256]

/-- A material conflict is left open. -/
def OpenConflict (result : ParentSynthesisResult) : Prop :=
  ∃ g ∈ result.conflicts, g.unresolvedMaterial = true

/-- The same verdict is proposed, and a verdict adjudicated before is adjudicated at
least as severely. -/
def AtLeast (options further : SynthesisOptions) : Prop :=
  further.proposedVerdict = options.proposedVerdict ∧
    ∀ adjudicated, options.conflictResult = some adjudicated →
      ∃ again, further.conflictResult = some again ∧
        verdictOrder adjudicated.finalVerdict ≤ verdictOrder again.finalVerdict

omit [Sha256] in
/-- The built-in detection proposes nothing of its own but NEEDS_CLARIFICATION. -/
theorem detected_verdict {findings : List NormalizedFinding} {proposed : ReviewVerdict}
    {evaluation : ConflictEvaluation}
    (made : evaluateConflicts findings proposed none = .ok evaluation)
    (failed : evaluation.finalVerdict = .fail) : proposed = .fail := by
  unfold evaluateConflicts detectConflicts at made
  obtain ⟨conflicts, _, made⟩ := bind_ok.mp made
  cases made
  dsimp only at failed
  split at failed
  · cases failed
  · exact failed

theorem open_iff {children : List NormalizedChildResult} {options : SynthesisOptions}
    {result : ParentSynthesisResult} (trace : SynthesisTrace children options result) :
    OpenConflict result ↔ ∃ g ∈ trace.evaluation.conflicts, g.unresolvedMaterial = true := by
  unfold OpenConflict
  rw [trace.conflicts]
  exact exists_congr fun g => and_congr_left fun _ => (List.perm_insertionSort _ _).mem_iff

omit [Rendering] [Sha256] in
theorem asVerdict_inj {field value : String} {v w : ReviewVerdict} (first : asVerdict field value = .ok v)
    (second : asVerdict field value = .ok w) : v = w := Except.ok.inj (first.symm.trans second)

omit [Rendering] [Sha256] in
/-- Nothing is more severe than FAIL. -/
theorem fail_of_order {v : ReviewVerdict} (worst : verdictOrder .fail ≤ verdictOrder v) : v = .fail := by
  cases v <;> first | rfl | exact absurd worst (by decide)

/-- Open conflicts give NEEDS_CLARIFICATION; otherwise the verdict is at least the
proposed and the adjudicated one, and a FAIL stays one unless a conflict is opened. A
child that did not succeed leaves no result. -/
theorem verdict_floor {children : List NormalizedChildResult} {options : SynthesisOptions}
    {result : ParentSynthesisResult} (made : synthesizeParentResult children options = .ok result) :
    (OpenConflict result → result.finalVerdict = .needsClarification) ∧
    (¬ OpenConflict result →
      verdictOrder result.proposedVerdict ≤ verdictOrder result.finalVerdict ∧
      ∀ adjudicated, options.conflictResult = some adjudicated →
        verdictOrder adjudicated.finalVerdict ≤ verdictOrder result.finalVerdict) ∧
    (result.finalVerdict = .fail → ∀ others further next,
      synthesizeParentResult others further = .ok next → AtLeast options further →
        next.finalVerdict = .fail ∨ OpenConflict next ∧ next.finalVerdict = .needsClarification) ∧
    ∀ others further, (∃ child ∈ others, child.status ≠ .succeeded) →
      ∀ next, synthesizeParentResult others further ≠ .ok next := by
  obtain ⟨trace⟩ := synthesizeParentResult_ok made
  refine ⟨fun isOpen => ?_, fun settled => ?_, fun failed others further next again atLeast => ?_, ?_⟩
  · rw [trace.verdict]
    exact effectiveVerdict_open ((open_iff trace).mp isOpen)
  · have floor := @effectiveVerdict_floor result.proposedVerdict trace.evaluation
      trace.deduplicated.findings fun isOpen => settled ((open_iff trace).mpr isOpen)
    rw [← trace.verdict, order_worse] at floor
    refine ⟨le_trans (le_max_left _ _) floor, fun adjudicated given => ?_⟩
    have evaluated := trace.evaluated
    rw [given] at evaluated
    rw [← (external_ok evaluated).1]
    exact le_trans (le_max_right _ _) floor
  · obtain ⟨later⟩ := synthesizeParentResult_ok again
    have proposed : next.proposedVerdict = result.proposedVerdict := by
      have same := later.proposed
      rw [atLeast.1] at same
      exact asVerdict_inj same trace.proposed
    by_cases isOpen : OpenConflict next
    · refine .inr ⟨isOpen, ?_⟩
      rw [later.verdict]
      exact effectiveVerdict_open ((open_iff later).mp isOpen)
    · left
      rw [later.verdict]
      refine effectiveVerdict_fails ?_ fun again => isOpen ((open_iff later).mpr again)
      rw [trace.verdict] at failed
      rcases effectiveVerdict_fail failed with given | judged
      · exact .inl (proposed.trans given)
      · have evaluated := trace.evaluated
        cases external : options.conflictResult with
        | none =>
          rw [external] at evaluated
          exact .inl (proposed.trans (detected_verdict evaluated judged))
        | some adjudicated =>
          obtain ⟨second, given, severe⟩ := atLeast.2 adjudicated external
          rw [external] at evaluated
          have evaluatedAgain := later.evaluated
          rw [given] at evaluatedAgain
          have worst : adjudicated.finalVerdict = .fail := (external_ok evaluated).1.symm.trans judged
          rw [worst] at severe
          exact .inr ((external_ok evaluatedAgain).1.trans (fail_of_order severe))
  · rintro others further ⟨child, member, unfinished⟩ next again
    obtain ⟨later⟩ := synthesizeParentResult_ok again
    exact unfinished (acceptedChildren_succeeded later.accepted child member)

end Synthesis

/-! ## A review of two stances -/

section TwoStances

/-- A finding of the conflict group on the fence. -/
def fenceFinding (findingId : Ident 128) (claim : BoundedText 2048) : NormalizedFinding :=
  { unclearName with
    findingId, claim
    severity := .major
    conflictGroup := some ⟨"fence-1", by decide, by decide, by decide, by decide⟩ }

def fenceHolds : NormalizedFinding :=
  fenceFinding ⟨"finding-a", by decide, by decide⟩
    ⟨"fence is enforced", by decide, by decide, by decide, by decide⟩

def fenceBypassed : NormalizedFinding :=
  fenceFinding ⟨"finding-b", by decide, by decide⟩
    ⟨"fence can be bypassed", by decide, by decide, by decide, by decide⟩

def twoStances : NormalizedChildResult :=
  { reviewed with
    findings := [fenceHolds, fenceBypassed]
    bounded := by decide
    findingIds := by decide }

/-- FAIL is proposed, and the Controller waits. -/
def failing : SynthesisOptions where
  proposedVerdict := "FAIL"
  controllerDecision := some (.mapping {
    decisionId := some "decision-1"
    runRef := some "run-1"
    decisionType := some "WAIT"
    rationale := some "the stances differ"
    evidenceRefs := some ["src/a.py"] })

theorem twoStances_bounded :
    utf8Bytes (@NormalizedChildResult.canonicalPayload reviewText twoStances).canonicalText ≤
      NormalizedChildResult.maxRawOutputBytes := by
  unfold utf8Bytes Json.canonicalText
  rw [JsonText.toList_dumps]
  decide +kernel

/-- The verdicts of a synthesis. -/
def verdicts (made : Except Failure ParentSynthesisResult) : Option (ReviewVerdict × ReviewVerdict) :=
  made.toOption.map fun result => (result.proposedVerdict, result.finalVerdict)

theorem twoStances_verdicts :
    verdicts (@synthesizeParentResult reviewText constantHash [twoStances] failing) =
      some (.fail, .needsClarification) := by
  unfold synthesizeParentResult
  rw [ensure_of (List.cons_ne_nil _ _),
    @acceptedChildren_single reviewText constantHash twoStances rfl twoStances_bounded]
  decide

theorem verdicts_some {made : Except Failure ParentSynthesisResult} {p q : ReviewVerdict}
    (shown : verdicts made = some (p, q)) :
    ∃ result, made = .ok result ∧ result.proposedVerdict = p ∧ result.finalVerdict = q := by
  cases made with
  | error _ => cases shown
  | ok result =>
    obtain ⟨proposed, final⟩ := Prod.mk.inj (Option.some.inj shown)
    exact ⟨result, rfl, proposed, final⟩

/-- An open conflict outranks a proposed FAIL. -/
theorem open_conflict_outranks_fail : ∃ result,
    @synthesizeParentResult reviewText constantHash [twoStances] failing = .ok result ∧
      verdictOrder result.finalVerdict < verdictOrder result.proposedVerdict := by
  obtain ⟨result, made, proposed, final⟩ := verdicts_some twoStances_verdicts
  refine ⟨result, made, ?_⟩
  rw [proposed, final]
  decide

theorem verdict_floor_twoStances : ∃ result,
    @synthesizeParentResult reviewText constantHash [twoStances] failing = .ok result ∧
      (OpenConflict result → result.finalVerdict = .needsClarification) := by
  obtain ⟨result, made, -⟩ := verdicts_some twoStances_verdicts
  exact ⟨result, made, (@verdict_floor reviewText constantHash _ _ _ made).1⟩

end TwoStances

end DwSuperApps.Guarantees.VerdictPrecedence
