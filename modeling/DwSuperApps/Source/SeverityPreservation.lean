import DwSuperApps.Source.MixerInput

/-!
# Severity preservation

`taskcontroller/execution/severity_preservation.py`: the verdict of the reviewers, with
the precedence of critical and major findings that are not rejected.
-/
namespace DwSuperApps.Source.SeverityPreservation

open DwSuperApps.Lib DwSuperApps.Lib.Checked
open DwSuperApps.Source.Findings DwSuperApps.Source.Conflicts
open DwSuperApps.Source.MixerInput (ReviewerOutcome)

/-- `_VERDICT_ORDER`. -/
def verdictOrder : ReviewVerdict → Nat
  | .pass => 0
  | .needsClarification => 1
  | .needsFix => 2
  | .fail => 3

/-- `max((first, *rest), key=_VERDICT_ORDER.__getitem__)`. -/
def maxVerdict (first : ReviewVerdict) (rest : List ReviewVerdict) : ReviewVerdict :=
  rest.foldl (fun best verdict => if verdictOrder best < verdictOrder verdict then verdict else best) first

/-- `SeverityPreservationResult`. -/
structure SeverityPreservationResult where
  finalVerdict : ReviewVerdict
  proposedVerdict : ReviewVerdict
  activeFindings : List NormalizedFinding
  highSeverityIds : List (Ident 128)
  proposedPassOverridden : Bool
  reviewerAccount : List (String × Nat)
  protocol : String := "dw.taskcontroller.severity-preservation/v1"

def SeverityPreservationResult.highSeverityCount (r : SeverityPreservationResult) : Nat :=
  r.highSeverityIds.length

/-- Key of the active findings. -/
def activeKey (f : NormalizedFinding) : String ×ₗ String ×ₗ String ×ₗ List String :=
  toLex (f.findingId.value, toLex (f.severity.value, toLex (f.reviewer.value,
    f.evidenceRefs.map (·.value))))

/-- `_active_findings`: a rejected finding is left out. -/
def activeFindings (seedFindings : List NormalizedFinding) (outcomes : List ReviewerOutcome) :
    Except Failure (List NormalizedFinding) := do
  let candidates := seedFindings ++ outcomes.flatMap (·.findings)
  let byId ← collectFindings (fun id => ⟨.severityPreservationInvalid,
      s!"conflicting finding evidence for finding_id={id.value}"⟩) []
    (candidates.filter (·.disposition ≠ .rejected))
  return Sorted.sortedBy activeKey byId

/-- `_proposed_verdict`. -/
def proposedVerdict (outcomes : List ReviewerOutcome) : Option ReviewVerdict → ReviewVerdict
  | some proposed => proposed
  | none =>
    match outcomes with
    | [] => .pass
    | first :: rest => maxVerdict first.verdict (rest.map (·.verdict))

/-- How many outcomes each reviewer has, by reviewer. -/
def reviewerAccount (outcomes : List ReviewerOutcome) : List (String × Nat) :=
  (Sorted.sortedBy id (outcomes.map (·.reviewer)).dedup).map fun reviewer =>
    (reviewer, outcomes.countP (·.reviewer = reviewer))

/-- `preserve_severity`. -/
def preserveSeverity (outcomes : List ReviewerOutcome) (findings : List NormalizedFinding)
    (proposed : Option ReviewVerdict) : Except Failure SeverityPreservationResult := do
  let active ← activeFindings findings outcomes
  let high := active.filter (·.severity.isHigh)
  let proposedOne := proposedVerdict outcomes proposed
  let candidate := maxVerdict proposedOne [proposedVerdict outcomes none]
  let overridden := high ≠ [] ∧ candidate = .pass
  return {
    finalVerdict := if overridden then .needsFix else candidate
    proposedVerdict := proposedOne
    activeFindings := active
    highSeverityIds := high.map (·.findingId)
    proposedPassOverridden := overridden
    reviewerAccount := reviewerAccount outcomes }

/-- Active findings are those that are not rejected, up to the sign of a confidence. -/
theorem mem_activeFindings {seedFindings active : List NormalizedFinding}
    {outcomes : List ReviewerOutcome} (made : activeFindings seedFindings outcomes = .ok active)
    (u : NormalizedFinding) : u ∈ active.map (·.unsigned) ↔ u ∈ ((seedFindings ++
      outcomes.flatMap (·.findings)).filter (·.disposition ≠ .rejected)).map (·.unsigned) := by
  unfold activeFindings at made
  obtain ⟨out, collected, made⟩ := bind_ok.mp made
  cases made
  rw [(Sorted.perm_sortedBy.map _).mem_iff, (collected_unsigned collected).2]

/-- Where the findings under one id are equal, there are active findings. -/
theorem activeFindings_ok {seedFindings : List NormalizedFinding} {outcomes : List ReviewerOutcome}
    (consistent : Consistent (seedFindings ++ outcomes.flatMap (·.findings))) :
    ∃ active, activeFindings seedFindings outcomes = .ok active := by
  have empty : (([] : List NormalizedFinding).map (·.findingId)).Nodup := List.nodup_nil
  have kept : Consistent ([] ++ (seedFindings ++ outcomes.flatMap (·.findings)).filter
      (·.disposition ≠ .rejected)) := by
    refine consistent.mono fun u member => ?_
    obtain ⟨f, inside, rfl⟩ := List.mem_map.mp member
    exact List.mem_map_of_mem (List.mem_filter.mp inside).1
  obtain ⟨out, collected⟩ := (collectFindings_ok empty).mpr kept
  unfold activeFindings
  dsimp only
  rw [bind_of collected]
  exact ⟨_, rfl⟩

end DwSuperApps.Source.SeverityPreservation
