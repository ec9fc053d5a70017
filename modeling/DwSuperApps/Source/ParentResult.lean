import DwSuperApps.Source.Synthesis
import DwSuperApps.Source.TerminalBuild

/-!
# The parent result as a value

`to_dict` and `result_digest` of `taskcontroller/execution/parent_synthesis.py` and
`to_dict` of `taskcontroller/execution/finding_deduplicator.py`: what a synthesized
result hands to the terminal builder.
-/
namespace DwSuperApps.Source.Synthesis

open DwSuperApps.Lib
open DwSuperApps.Source.Findings DwSuperApps.Source.Conflicts
open DwSuperApps.Source.Envelope (texts)

/-- A member that is there for a value only. -/
def given (name : String) (value : Option String) : List (String × Json) :=
  (value.map fun s => (name, Json.str s)).toList

/-- A member that is `None` without a value. -/
def nullable (name : String) (value : Option String) : String × Json := (name, .ofOption value)

/-! ## Findings -/

/-- `FindingProvenance.to_dict`. -/
def provenanceDict (p : FindingProvenance) : Json :=
  .obj ([("source_finding_id", .str p.sourceFindingId.value),
      ("reviewer", .str p.reviewer.value),
      ("evidence_refs", texts (p.evidenceRefs.map (·.value)))] ++
    given "conflict_group" (p.conflictGroup.map (·.value)))

/-- What `DeduplicatedFinding.to_dict` adds to its representative. -/
def provenanceMembers (f : DeduplicatedFinding) : List (String × Json) :=
  [("provenance", .arr (f.provenance.map provenanceDict)),
    ("provenance_count", .int f.provenance.length)]

/-! ## Children, conflicts and the decision -/

/-- `ChildEvidenceRef.to_dict`. -/
def ChildEvidenceRef.members (c : ChildEvidenceRef) : List (String × Json) :=
  [("child_id", .str c.childId.value),
    ("status", .str c.status.value),
    ("result_digest", .str c.resultDigest.value),
    ("normalization_digest", .str c.resultDigest.value),
    nullable "raw_output_digest" (c.rawOutputDigest.map (·.value)),
    nullable "child_contract_digest" (c.childContractDigest.map (·.value)),
    nullable "source_digest" (c.sourceDigest.map (·.value)),
    nullable "lens" (c.lens.map (·.value)),
    nullable "reviewer" (c.reviewer.map (·.value))]

def dispositionValue : ConflictDisposition → String
  | .unresolved => "UNRESOLVED"
  | .resolved => "RESOLVED"
  | .escalated => "ESCALATED"
  | .notMaterial => "NOT_MATERIAL"

/-- `ParentConflictGroup.to_dict`. -/
def conflictDict (g : ConflictGroup) : Json :=
  .obj ([("conflict_id", .str g.conflictId),
      ("finding_ids", texts g.findingIds),
      ("reviewers", texts g.reviewers),
      ("severities", texts g.severities),
      ("evidence_refs", texts g.evidenceRefs),
      ("material", .bool g.material),
      ("disposition", .str (dispositionValue g.disposition)),
      ("resolution_evidence_refs", texts g.resolutionEvidenceRefs)] ++
    given "rationale" g.rationale ++ given "residual_risk" g.residualRisk)

/-- `ControllerDecision.to_dict`. -/
def ControllerDecision.members (d : ControllerDecision) : List (String × Json) :=
  [("decision_id", .str d.decisionId),
    ("run_ref", .str d.runRef),
    ("decision_type", .str d.decisionType.value),
    ("rationale", .str d.rationale),
    ("evidence_refs", texts d.evidenceRefs)] ++
    given "selected_option" d.selectedOption

/-! ## The result -/

section Rendered
variable [Rendering]

/-- `DeduplicatedFinding.to_dict`. -/
def findingMembers (f : DeduplicatedFinding) : List (String × Json) :=
  TerminalResult.membersOf f.representative.toDict ++ provenanceMembers f

namespace ParentSynthesisResult

/-- `_canonical_payload`. -/
def canonicalPayload (r : ParentSynthesisResult) : List (String × Json) :=
  [("protocol", .str r.protocol),
    ("proposed_verdict", .str r.proposedVerdict.value),
    ("final_verdict", .str r.finalVerdict.value),
    ("verdict", .str r.finalVerdict.value),
    ("status", .str r.finalVerdict.value),
    ("findings", .arr (r.findings.map fun f => .obj (findingMembers f))),
    ("child_refs", .arr (r.childRefs.map fun c => .obj c.members)),
    ("child_result_digests", texts (r.childRefs.map (·.resultDigest.value))),
    ("residual_risks", texts r.residualRisks),
    ("unresolved_questions", texts r.unresolvedQuestions),
    ("conflicts", .arr (r.conflicts.map conflictDict)),
    ("controller_decision", .obj r.controllerDecision.members)]

variable [Sha256]

/-- `result_digest`. -/
def resultDigest (r : ParentSynthesisResult) : Digest := canonicalDigest (.obj r.canonicalPayload)

/-- `to_dict`. -/
def toDict (r : ParentSynthesisResult) : List (String × Json) :=
  r.canonicalPayload ++ [("result_digest", .str r.resultDigest.value)]

end ParentSynthesisResult
end Rendered

end DwSuperApps.Source.Synthesis
