import DwSuperApps.Source.Conflicts

/-!
# Parent synthesis

`taskcontroller/execution/parent_synthesis.py`: child evidence, conflicts and the
explicit Controller decision become one parent result.
-/
namespace DwSuperApps.Source.Synthesis

open DwSuperApps.Lib DwSuperApps.Lib.Checked DwSuperApps.Lib.Grouping
open DwSuperApps.Source.Findings DwSuperApps.Source.Conflicts

/-! ## Checked texts -/

/-- `_text`. -/
def text (field value : String) : Except Failure String := do
  ensure (strip value ≠ "") ⟨.synthesisInvalid, s!"{field} must be non-empty"⟩
  ensure ('\x00' ∉ (strip value).toList) ⟨.synthesisInvalid, s!"{field} must not contain NUL"⟩
  return strip value

def optionalText (field : String) : Option String → Except Failure (Option String)
  | none => .ok none
  | some value => (text field value).map some

/-- `_identifier`. -/
def identifier (field value : String) : Except Failure String := do
  let normalized ← text field value
  ensure (isIdentifier normalized) ⟨.synthesisInvalid, s!"{field} must be a stable identifier"⟩
  return normalized

/-- `_unique_sorted_texts`. -/
def uniqueSortedTexts (field : String) (values : List String) (allowEmpty : Bool) :
    Except Failure (List String) := do
  ensure (values ≠ [] ∨ allowEmpty) ⟨.synthesisInvalid, s!"{field} must not be empty"⟩
  let items ← values.mapM (text s!"{field} item")
  return items.dedup.insertionSort (· ≤ ·)

/-- `_as_verdict`. -/
def asVerdict (field value : String) : Except Failure ReviewVerdict :=
  match ReviewVerdict.ofValue? value with
  | some verdict => .ok verdict
  | none => .error ⟨.synthesisInvalid, s!"{field} must be a ReviewVerdict"⟩

/-- `_as_decision_type`. -/
def asDecisionType (value : String) : Except Failure DecisionType :=
  match DecisionType.ofValue? value with
  | some decision => .ok decision
  | none => .error ⟨.synthesisInvalid, "decision_type must be a DecisionType"⟩

/-! ## Controller decision -/

/-- `ControllerDecision` as its constructor leaves it. -/
structure ControllerDecision where
  decisionId : String
  runRef : String
  decisionType : DecisionType
  rationale : String
  evidenceRefs : List String
  selectedOption : Option String := none
  deriving DecidableEq

/-- `ControllerDecision.__post_init__` on raw fields. -/
def ControllerDecision.make (decisionId runRef decisionType rationale : String)
    (evidenceRefs : List String) (selectedOption : Option String) :
    Except Failure ControllerDecision := do
  return {
    decisionId := ← identifier "decision_id" decisionId
    runRef := ← text "run_ref" runRef
    decisionType := ← asDecisionType decisionType
    rationale := ← text "rationale" rationale
    evidenceRefs := ← uniqueSortedTexts "evidence_refs" evidenceRefs false
    selectedOption := ← optionalText "selected_option" selectedOption }

/-- A mapping with the fields of a decision, any of which may be missing. -/
structure DecisionFields where
  decisionId : Option String := none
  runRef : Option String := none
  decisionType : Option String := none
  rationale : Option String := none
  evidenceRefs : Option (List String) := none
  selectedOption : Option String := none

/-- `ControllerDecision.from_dict`. -/
def ControllerDecision.fromDict (value : DecisionFields) : Except Failure ControllerDecision :=
  match value.decisionId, value.runRef, value.decisionType, value.rationale, value.evidenceRefs with
  | some decisionId, some runRef, some decisionType, some rationale, some evidenceRefs =>
    make decisionId runRef decisionType rationale evidenceRefs value.selectedOption
  | decisionId, runRef, decisionType, rationale, evidenceRefs =>
    let missing := [("decision_id", decisionId.isNone), ("decision_type", decisionType.isNone),
      ("evidence_refs", evidenceRefs.isNone), ("rationale", rationale.isNone),
      ("run_ref", runRef.isNone)].filter (·.2)
    .error ⟨.synthesisInvalid,
      "controller_decision missing fields: " ++ ", ".intercalate (missing.map (·.1))⟩

/-- What the caller hands over as its decision. -/
inductive DecisionInput where
  | decision (value : ControllerDecision)
  | mapping (value : DecisionFields)

/-- `_controller_decision`. -/
def controllerDecision (value decisionAlias : Option DecisionInput) : Except Failure ControllerDecision :=
  match value.orElse fun _ => decisionAlias with
  | none => .error ⟨.synthesisInvalid, "controller_decision is required"⟩
  | some (.decision d) => .ok d
  | some (.mapping fields) => ControllerDecision.fromDict fields

/-! ## Child evidence -/

/-- `ChildEvidenceRef`; only a succeeded child has one. -/
structure ChildEvidenceRef where
  childId : Ident 128
  status : NormalizationStatus
  resultDigest : Digest
  rawOutputDigest : Option Digest := none
  childContractDigest : Option Digest := none
  sourceDigest : Option Digest := none
  lens : Option (BoundedText 128) := none
  reviewer : Option (Ident 128) := none
  succeeded : status = .succeeded

section Children
variable [Rendering] [Sha256]

/-- `ChildEvidenceRef.from_result`. -/
def ChildEvidenceRef.fromResult (result : NormalizedChildResult) : Except Failure ChildEvidenceRef := do
  let resultDigest ← result.normalizationDigest
  if succeeded : result.status = .succeeded then
    return {
      childId := result.childId
      status := result.status
      resultDigest
      rawOutputDigest := result.rawOutputDigest
      childContractDigest := result.childContractDigest
      sourceDigest := result.sourceDigest
      lens := result.lens
      reviewer := result.reviewer
      succeeded }
  else .error ⟨.incompleteChildResult, s!"child {result.childId.value} is not SUCCEEDED"⟩

local instance : LawfulBEq (Ident 128) := inferInstance

/-- `_accepted_children`. -/
def acceptedChildren :
    List (Ident 128) → List NormalizedChildResult → Except Failure (List ChildEvidenceRef)
  | _, [] => .ok []
  | seen, child :: rest => do
    ensure (child.childId ∉ seen) ⟨.duplicateChildId, s!"duplicate child_id: {child.childId.value}"⟩
    ensure (child.status = .succeeded) ⟨.incompleteChildResult,
      s!"incomplete child result: {child.childId.value} has status {child.status.value}"⟩
    let ref ← ChildEvidenceRef.fromResult child
    let refs ← acceptedChildren (child.childId :: seen) rest
    return ref :: refs

/-- `_collect_findings`. -/
def collectChildFindings (children : List NormalizedChildResult) :
    Except Failure (List NormalizedFinding) := do
  let byId ← collectFindings (fun id =>
    ⟨.conflictingFindingId, s!"conflicting finding evidence for finding_id={id.value}"⟩) []
    (children.flatMap (·.findings))
  return byId.insertionSort byFindingId

end Children

/-! ## Conflicts -/

/-- `ParentConflictGroup.__post_init__`: repeated reviewers, severities and
references are kept once. -/
def parentConflictGroup (g : ConflictGroup) : Except Failure ConflictGroup := do
  let conflictId ← identifier "conflict_id" g.conflictId
  let findingIds ← uniqueSortedTexts "finding_ids" g.findingIds false
  ensure (2 ≤ findingIds.length)
    ⟨.synthesisInvalid, "finding_ids must contain at least two findings"⟩
  let reviewers ← uniqueSortedTexts "reviewers" g.reviewers false
  let severities ← uniqueSortedTexts "severities" g.severities false
  let evidenceRefs ← uniqueSortedTexts "evidence_refs" g.evidenceRefs false
  let resolutionEvidenceRefs ←
    uniqueSortedTexts "resolution_evidence_refs" g.resolutionEvidenceRefs true
  let rationale ← optionalText "rationale" g.rationale
  let residualRisk ← optionalText "residual_risk" g.residualRisk
  ensure (¬ (g.material ∧ (g.disposition = .resolved ∨ g.disposition = .escalated) ∧
      resolutionEvidenceRefs = []))
    ⟨.synthesisInvalid, "resolution evidence_refs are required for material conflict"⟩
  return { g with conflictId, findingIds, reviewers, severities, evidenceRefs,
                  resolutionEvidenceRefs, rationale, residualRisk }

/-- `_ConflictEvaluation`. -/
structure ConflictEvaluation where
  conflicts : List ConflictGroup
  finalVerdict : ReviewVerdict
  residualRisks : List String

def byConflictId (a b : ConflictGroup) : Prop := a.conflictId ≤ b.conflictId

instance : DecidableRel byConflictId := fun a b => by unfold byConflictId; infer_instance

section Evaluation
variable [Rendering]

/-- `_finding_stance`. -/
def findingStance (f : NormalizedFinding) : String × Severity × String × FindingDisposition :=
  stance f

/-- `_is_material_conflict`. -/
def isMaterialConflict (findings : List NormalizedFinding) : Bool := isMaterial findings

/-- The group evidence of one detected conflict, without a resolution. -/
def detectedGroup (conflictId : String) (findings : List NormalizedFinding) :
    Except Failure ConflictGroup :=
  let group := findings.insertionSort byFindingId
  let material := isMaterialConflict group
  parentConflictGroup {
    conflictId
    findingIds := group.map (·.findingId.value)
    reviewers := group.map (·.reviewer.value)
    severities := group.map (·.severity.value)
    evidenceRefs := group.flatMap fun f => f.evidenceRefs.map (·.value)
    material
    disposition := if material then .unresolved else .notMaterial
    residualRisk := if material then some unresolvedRisk else none }

/-- `_detect_conflicts`. -/
def detectConflicts (findings : List NormalizedFinding) (proposed : ReviewVerdict) :
    Except Failure ConflictEvaluation := do
  let ids := (conflictIds findings).filter fun id => disagree (groupFindings findings id)
  let conflicts ← ids.mapM fun id => detectedGroup id (groupFindings findings id)
  let normalized := conflicts.insertionSort byConflictId
  return {
    conflicts := normalized
    finalVerdict := if normalized.any (·.unresolvedMaterial) then .needsClarification else proposed
    residualRisks := normalized.filterMap (·.residualRisk) }

end Evaluation

/-- `_external_conflict_evaluation`. -/
def externalConflictEvaluation (result : ConflictAdjudicationResult) :
    Except Failure ConflictEvaluation := do
  let conflicts ← result.conflicts.mapM parentConflictGroup
  return {
    conflicts
    finalVerdict := result.finalVerdict
    residualRisks := result.residualRisks }

/-! ## Verdict -/

/-- `_VERDICT_ORDER`. -/
def verdictOrder : ReviewVerdict → Nat
  | .pass => 0
  | .needsClarification => 1
  | .needsFix => 2
  | .fail => 3

/-- `_effective_verdict`. -/
def effectiveVerdict (proposed : ReviewVerdict) (evaluation : ConflictEvaluation)
    (findings : List DeduplicatedFinding) : ReviewVerdict :=
  if evaluation.conflicts.any (·.unresolvedMaterial) then .needsClarification
  else
    let candidate := if verdictOrder proposed < verdictOrder evaluation.finalVerdict then
      evaluation.finalVerdict else proposed
    let hasHigh := findings.any (·.representative.severity.isHigh)
    if hasHigh ∧ candidate = .pass then .needsFix else candidate

def activeFindingsRisk : String :=
  "Critical or major findings remain active and require Controller action"

/-- `_derived_risks`. -/
def derivedRisks (explicit : List String) (evaluation : ConflictEvaluation)
    (finalVerdict : ReviewVerdict) (findings : List DeduplicatedFinding) :
    Except Failure (List String) := do
  let risks ← uniqueSortedTexts "residual_risks" explicit true
  let active := finalVerdict = .needsFix ∧ findings.any (·.representative.severity.isHigh)
  uniqueSortedTexts "residual_risks"
    (risks ++ evaluation.residualRisks ++ if active then [activeFindingsRisk] else []) true

/-- `_derived_questions`. -/
def derivedQuestions (explicit : List String) (evaluation : ConflictEvaluation) :
    Except Failure (List String) := do
  let questions ← uniqueSortedTexts "unresolved_questions" explicit true
  uniqueSortedTexts "unresolved_questions"
    (questions ++ (evaluation.conflicts.filter (·.unresolvedMaterial)).map fun conflict =>
      s!"Controller/Human adjudication required for conflict group {conflict.conflictId}") true

/-- `_ESCALATING_DECISIONS`. -/
def escalatingDecisions : List DecisionType := [.wait, .replan, .escalate]

/-- `_validate_controller_compatibility`. -/
def validateControllerCompatibility (decision : ControllerDecision) (finalVerdict : ReviewVerdict) :
    Except Failure Unit := do
  ensure (finalVerdict = .needsClarification → decision.decisionType ∈ escalatingDecisions)
    ⟨.controllerDecisionMismatch,
      "Controller decision must WAIT, REPLAN, or ESCALATE for NEEDS_CLARIFICATION"⟩
  ensure (finalVerdict = .needsFix ∨ finalVerdict = .fail → decision.decisionType ≠ .complete)
    ⟨.controllerDecisionMismatch,
      "Controller decision cannot COMPLETE while findings require action"⟩

/-! ## Synthesis -/

/-- `ParentSynthesisResult`. -/
structure ParentSynthesisResult where
  proposedVerdict : ReviewVerdict
  finalVerdict : ReviewVerdict
  findings : List DeduplicatedFinding
  childRefs : List ChildEvidenceRef
  residualRisks : List String
  unresolvedQuestions : List String
  controllerDecision : ControllerDecision
  conflicts : List ConflictGroup := []
  protocol : String := "dw.taskcontroller.parent-synthesis/v1"

/-- `unresolved_material_conflict_count`. -/
def ParentSynthesisResult.unresolvedMaterialConflictCount (r : ParentSynthesisResult) : Nat :=
  r.conflicts.countP (·.unresolvedMaterial)

/-- `ParentSynthesisResult.__post_init__`. -/
def ParentSynthesisResult.make (r : ParentSynthesisResult) : Except Failure ParentSynthesisResult := do
  ensure (r.childRefs.map (·.childId)).Nodup
    ⟨.duplicateChildId, "child_refs contain duplicate child_id"⟩
  let residualRisks ← uniqueSortedTexts "residual_risks" r.residualRisks true
  let unresolvedQuestions ← uniqueSortedTexts "unresolved_questions" r.unresolvedQuestions true
  let protocol ← text "protocol" r.protocol
  return { r with
    findings := r.findings.insertionSort fun a b =>
      a.representative.findingId.value ≤ b.representative.findingId.value
    childRefs := r.childRefs.insertionSort fun a b => a.childId.value ≤ b.childId.value
    conflicts := r.conflicts.insertionSort byConflictId
    residualRisks, unresolvedQuestions, protocol }

/-- Arguments of `synthesize_parent_result` next to the child results. -/
structure SynthesisOptions where
  proposedVerdict : String := "PASS"
  residualRisks : List String := []
  unresolvedQuestions : List String := []
  controllerDecision : Option DecisionInput := none
  decision : Option DecisionInput := none
  conflictResult : Option ConflictAdjudicationResult := none

section Synthesis
variable [Rendering] [Sha256]

/-- The conflicts of the findings, or those of an adjudication of just them. -/
def evaluateConflicts (findings : List NormalizedFinding) (proposed : ReviewVerdict) :
    Option ConflictAdjudicationResult → Except Failure ConflictEvaluation
  | none => detectConflicts findings proposed
  | some result => do
    ensure (result.activeFindingIds = findings.map (·.findingId.value))
      ⟨.conflictResultMismatch,
        "conflict result active finding IDs do not match child evidence"⟩
    externalConflictEvaluation result

/-- `synthesize_parent_result`. -/
def synthesizeParentResult (children : List NormalizedChildResult) (options : SynthesisOptions) :
    Except Failure ParentSynthesisResult := do
  let proposed ← asVerdict "proposed_verdict" options.proposedVerdict
  ensure (children ≠ []) ⟨.noChildResults, "child_results must not be empty"⟩
  let childRefs ← acceptedChildren [] children
  let rawFindings ← collectChildFindings children
  let deduplicated ← deduplicateFindings rawFindings
  let adjudicated ← evaluateConflicts rawFindings proposed options.conflictResult
  let finalVerdict := effectiveVerdict proposed adjudicated deduplicated.findings
  let controller ← controllerDecision options.controllerDecision options.decision
  validateControllerCompatibility controller finalVerdict
  let residualRisks ←
    derivedRisks options.residualRisks adjudicated finalVerdict deduplicated.findings
  let unresolvedQuestions ← derivedQuestions options.unresolvedQuestions adjudicated
  ParentSynthesisResult.make
    { proposedVerdict := proposed
      finalVerdict
      findings := deduplicated.findings
      childRefs
      residualRisks
      unresolvedQuestions
      controllerDecision := controller
      conflicts := adjudicated.conflicts }

/-- The values `synthesize_parent_result` goes through on the way to its result. -/
structure SynthesisTrace (children : List NormalizedChildResult) (options : SynthesisOptions)
    (result : ParentSynthesisResult) where
  childRefs : List ChildEvidenceRef
  findings : List NormalizedFinding
  deduplicated : FindingDeduplicationResult
  evaluation : ConflictEvaluation
  residualRisks : List String
  unresolvedQuestions : List String
  proposed : asVerdict "proposed_verdict" options.proposedVerdict = .ok result.proposedVerdict
  accepted : acceptedChildren [] children = .ok childRefs
  collected : collectChildFindings children = .ok findings
  represented : deduplicateFindings findings = .ok deduplicated
  evaluated : evaluateConflicts findings result.proposedVerdict options.conflictResult = .ok evaluation
  verdict : result.finalVerdict =
    effectiveVerdict result.proposedVerdict evaluation deduplicated.findings
  controller : controllerDecision options.controllerDecision options.decision =
    .ok result.controllerDecision
  compatible : validateControllerCompatibility result.controllerDecision result.finalVerdict = .ok ()
  risks : derivedRisks options.residualRisks evaluation result.finalVerdict deduplicated.findings =
    .ok residualRisks
  questions : derivedQuestions options.unresolvedQuestions evaluation = .ok unresolvedQuestions
  conflicts : result.conflicts = evaluation.conflicts.insertionSort byConflictId

theorem synthesizeParentResult_ok {children : List NormalizedChildResult}
    {options : SynthesisOptions} {result : ParentSynthesisResult}
    (made : synthesizeParentResult children options = .ok result) :
    Nonempty (SynthesisTrace children options result) := by
  unfold synthesizeParentResult at made
  obtain ⟨proposed, named, made⟩ := bind_ok.mp made
  obtain ⟨_, _, made⟩ := bind_ok.mp made
  obtain ⟨childRefs, accepted, made⟩ := bind_ok.mp made
  obtain ⟨findings, collected, made⟩ := bind_ok.mp made
  obtain ⟨deduplicated, represented, made⟩ := bind_ok.mp made
  obtain ⟨evaluation, evaluated, made⟩ := bind_ok.mp made
  obtain ⟨controller, decided, made⟩ := bind_ok.mp made
  obtain ⟨_, compatible, made⟩ := bind_ok.mp made
  obtain ⟨residualRisks, risks, made⟩ := bind_ok.mp made
  obtain ⟨unresolvedQuestions, questions, made⟩ := bind_ok.mp made
  unfold ParentSynthesisResult.make at made
  obtain ⟨_, _, made⟩ := bind_ok.mp made
  obtain ⟨_, _, made⟩ := bind_ok.mp made
  obtain ⟨_, _, made⟩ := bind_ok.mp made
  obtain ⟨_, _, made⟩ := bind_ok.mp made
  cases made
  exact ⟨⟨childRefs, findings, deduplicated, evaluation, residualRisks, unresolvedQuestions, named,
    accepted, collected, represented, evaluated, rfl, decided, compatible, risks, questions, rfl⟩⟩

end Synthesis

end DwSuperApps.Source.Synthesis
