import DwSuperApps.Source.RuntimeState
import DwSuperApps.Source.TerminalBuild

/-!
# Acceptance of a terminal result

`taskcontroller/controlplane/semantic_acceptance.py` and
`taskcontroller/controlplane/decision_mapping.py`: whether a terminal result meets its
task contract, and the Controller decision it is mapped to. The description of an
evidence item and the fields of a contract that no check reads are left out.
-/
namespace DwSuperApps.Source.Acceptance

open DwSuperApps.Lib DwSuperApps.Lib.Checked
open DwSuperApps.Source.Envelope DwSuperApps.Source.TerminalResult
open DwSuperApps.Source.Runtime (Identifier)

/-! ## Raw values -/

/-- `SemanticAcceptanceError(code, message)`. -/
def acceptanceError (code message : String) : Raised := ⟨.semanticAcceptance, code, message⟩

def resultInvalid (message : String) : Raised := acceptanceError "SEMANTIC_RESULT_INVALID" message

def contractMismatch (message : String) : Raised :=
  acceptanceError "SEMANTIC_CONTRACT_MISMATCH" message

/-- A text that is not blank and has no NUL once stripped. -/
def Solid (s : String) : Prop := strip s ≠ "" ∧ '\x00' ∉ (strip s).toList

instance (s : String) : Decidable (Solid s) := by unfold Solid; infer_instance

/-- `_text`. -/
def semanticText (value : Json) (field : String) : Except Raised String :=
  match value with
  | .str s => do
    ensure (strip s ≠ "") (resultInvalid s!"{field} must be a non-empty string")
    ensure ('\x00' ∉ (strip s).toList) (resultInvalid s!"{field} must not contain NUL")
    return strip s
  | _ => .error (resultInvalid s!"{field} must be a non-empty string")

/-- `_text_values`. -/
def textValues (value : Json) (field : String) : Except Raised (List String) :=
  match value with
  | .null => .ok []
  | .arr items => do
    let texts ← items.mapM fun item => semanticText item s!"{field}[]"
    return sortedSet texts
  | _ => .error (resultInvalid s!"{field} must be an array")

/-- `_mapping`. -/
def semanticMapping (value : Json) (field : String) : Except Raised (List (String × Json)) :=
  match value with
  | .obj members => .ok members
  | _ => .error (resultInvalid s!"{field} must be an object")

/-! ## Contracts -/

structure EvidenceSpec where
  evidenceId : String
  artifactRef : Option String := none
  deriving DecidableEq

structure TaskContract where
  contractId : Identifier
  runId : Identifier
  nodeId : Identifier
  acceptanceCriteria : List String
  requiredEvidence : List EvidenceSpec := []
  planVersion : String := ""
  demanding : acceptanceCriteria ≠ [] := by decide
  deriving DecidableEq

/-- `_evidence_spec_tokens`. -/
def evidenceSpecTokens (spec : EvidenceSpec) (index : Nat) : Except Raised (String × List String) := do
  let evidenceId ← semanticText (.str spec.evidenceId) s!"required_evidence[{index}].evidence_id"
  match spec.artifactRef with
  | none => return (evidenceId, [evidenceId])
  | some ref => do
    let artifactRef ← semanticText (.str ref) s!"required_evidence[{index}].artifact_ref"
    return (evidenceId, sortedSet [evidenceId, artifactRef])

section
variable [Sha256]

/-- `_contract_identity`. -/
def contractIdentity (contract : TaskContract) (terminal : TerminalParentResult)
    (expectedContractDigest : Option String) : Except Raised Unit := do
  let envelope := terminal.envelope
  let identity := envelope.executionIdentity
  ensure (envelope.runId = contract.runId.text ∧ identity.runId = contract.runId.text)
    (contractMismatch "terminal run_id does not bind the TaskContract")
  ensure (envelope.nodeId = contract.nodeId.text ∧ identity.nodeId = contract.nodeId.text)
    (contractMismatch "terminal node_id does not bind the TaskContract")
  ensure (envelope.logicalContract.contractId = contract.contractId.text)
    (contractMismatch "terminal contract_id does not bind the TaskContract")
  ensure (contract.planVersion = "" ∨ envelope.logicalContract.planVersion = contract.planVersion)
    (contractMismatch "terminal plan_version does not bind the TaskContract")
  match expectedContractDigest with
  | none => return ()
  | some expected => do
    let expected ← semanticText (.str expected) "expected_contract_digest"
    ensure (identity.contractDigest = expected)
      (contractMismatch "terminal contract_digest does not match the Controller binding")

/-! ## Evidence and criteria of a result -/

/-- The references of one finding. -/
def findingRefs (entry : Json × Nat) : Except Raised (List String) := do
  let (finding, index) := entry
  let members ← semanticMapping finding s!"findings[{index}]"
  textValues (Json.get members "evidence_refs") s!"findings[{index}].evidence_refs"

/-- The references of the decision, where there is one. -/
def decisionTexts (normalized : List (String × Json)) (name : String) :
    Except Raised (List String) :=
  match Json.get normalized "controller_decision" with
  | .null => .ok []
  | decision => do
    let members ← semanticMapping decision "normalized_parent_result.controller_decision"
    textValues (Json.get members name) s!"controller_decision.{name}"

/-- `normalized.get("findings", ())`. -/
def findingItems (normalized : List (String × Json)) : Except Raised (List Json) :=
  match Json.member normalized "findings" with
  | none => .ok []
  | some (.arr items) => .ok items
  | some _ => .error (resultInvalid "normalized_parent_result.findings must be an array")

/-- `terminal.envelope.to_dict()["result"]`. -/
def resultMapping (terminal : TerminalParentResult) : Except Raised (List (String × Json)) :=
  semanticMapping (terminal.envelope.result.getD .null) "terminal.result"

/-- `_result_evidence_refs`. -/
def resultEvidenceRefs (normalized : List (String × Json)) (terminal : TerminalParentResult) :
    Except Raised (List String) := do
  let evidence ←
    textValues (Json.get normalized "evidence_refs") "normalized_parent_result.evidence_refs"
  let artifacts ←
    textValues (Json.get normalized "artifact_refs") "normalized_parent_result.artifact_refs"
  let decision ← decisionTexts normalized "evidence_refs"
  let findings ← findingItems normalized
  let cited ← findings.zipIdx.mapM findingRefs
  let result ← resultMapping terminal
  let reported ← textValues (Json.get result "artifact_refs") "terminal.result.artifact_refs"
  return sortedSet (evidence ++ artifacts ++ decision ++ cited.flatten ++ reported)

/-- `_result_criteria`. -/
def resultCriteria (normalized : List (String × Json)) : Except Raised (List String) := do
  let accepted ← textValues (Json.get normalized "accepted_criteria") "accepted_criteria"
  let criteria ← textValues (Json.get normalized "criteria") "criteria"
  let decisionAccepted ← decisionTexts normalized "accepted_criteria"
  let decisionCriteria ← decisionTexts normalized "criteria"
  return sortedSet (accepted ++ criteria ++ decisionAccepted ++ decisionCriteria)

/-! ## Acceptance -/

structure SemanticAcceptance where
  accepted : Bool
  contractId : String
  runId : String
  nodeId : String
  terminalStatus : String
  resultDigest : Json
  criteriaCovered : List String
  evidenceRefs : List String
  missingCriteria : List String
  missingEvidence : List String
  reasonCodes : List String
  deriving DecidableEq

/-- The required evidence no reference names, in contract order. -/
def missingEvidence (evidenceRefs : List String) (specs : List EvidenceSpec) :
    Except Raised (List String) := do
  let tokens ← specs.zipIdx.mapM fun entry => evidenceSpecTokens entry.1 entry.2
  return (tokens.filter fun spec => ∀ token ∈ spec.2, token ∉ evidenceRefs).map Prod.fst

/-- The reasons against the acceptance. -/
def reasonsAgainst (terminalStatus : String) (missingCriteria missingEvidence : List String) :
    List String :=
  (if terminalStatus ≠ "SUCCEEDED" then ["TERMINAL_NOT_SUCCEEDED"] else []) ++
    (if missingCriteria ≠ [] then ["MISSING_ACCEPTANCE_CRITERIA"] else []) ++
    (if missingEvidence ≠ [] then ["MISSING_REQUIRED_EVIDENCE"] else [])

/-- `evaluate_terminal_acceptance`. -/
def evaluateTerminalAcceptance (contract : TaskContract) (terminal : TerminalParentResult)
    (expectedContractDigest : Option String := none) : Except Raised SemanticAcceptance := do
  contractIdentity contract terminal expectedContractDigest
  let normalized := terminal.normalizedResult
  let result ← resultMapping terminal
  let status ← semanticText (Json.get result "status") "terminal.result.status"
  let criteriaCovered ← resultCriteria normalized
  let evidenceRefs ← resultEvidenceRefs normalized terminal
  let criteria ← contract.acceptanceCriteria.mapM fun item =>
    semanticText (.str item) "contract.acceptance_criteria[]"
  let missingCriteria := (sortedSet criteria).filter (· ∉ criteriaCovered)
  let missing ← missingEvidence evidenceRefs contract.requiredEvidence
  let reasons := reasonsAgainst (upper status) missingCriteria missing
  return {
    accepted := reasons = []
    contractId := contract.contractId.text
    runId := contract.runId.text
    nodeId := contract.nodeId.text
    terminalStatus := upper status
    resultDigest := terminal.resultDigest
    criteriaCovered, evidenceRefs, missingCriteria
    missingEvidence := missing.insertionSort (· ≤ ·)
    reasonCodes := if reasons = [] then ["ACCEPTED"] else reasons }

/-! ## Decisions -/

/-- `DecisionMappingError(code, message)`. -/
def decisionError (code message : String) : Raised := ⟨.decisionMapping, code, message⟩

def decisionInvalid (message : String) : Raised := decisionError "DECISION_INVALID" message

def evidenceInvalid (message : String) : Raised := decisionError "DECISION_EVIDENCE_INVALID" message

/-- `_text` of a field that keeps its case. -/
def decisionText (value : Json) (field : String) : Except Raised String :=
  match value with
  | .str s => do
    ensure (strip s ≠ "") (decisionInvalid s!"{field} must be a non-empty string")
    ensure ('\x00' ∉ (strip s).toList) (decisionInvalid s!"{field} must not contain NUL")
    return strip s
  | _ => .error (decisionInvalid s!"{field} must be a non-empty string")

/-- `_refs`. -/
def decisionRefs (value : Json) (field : String) : Except Raised (List String) :=
  match value with
  | .arr items => do
    let refs ← items.mapM fun item => decisionText item s!"{field}[]"
    ensure (refs ≠ []) (evidenceInvalid s!"{field} must not be empty")
    return sortedSet refs
  | _ => .error (evidenceInvalid s!"{field} must be a non-empty array")

/-- `_truth_signal`. -/
def truthSignal (value : Json) (field : String) : Except Raised Bool :=
  match value with
  | .null => .ok false
  | .bool b => .ok b
  | _ => .error (decisionInvalid s!"{field} must be boolean")

/-- `any(_truth_signal(...) for ...)`: what follows a true signal is not read. -/
def anySignal (members : List (String × Json)) (owner : String) : List String → Except Raised Bool
  | [] => .ok false
  | name :: rest => do
    let signal ← truthSignal (Json.get members name) s!"{owner}.{name}"
    if signal then return true else anySignal members owner rest

/-- The fields that call for a human. -/
def humanSignals : List String := ["human_approval_required", "authority_required"]

/-- `_REQUESTED_DECISIONS`. -/
def requestedDecisions : List String :=
  ["CONTINUE", "RETRY", "REPLAN", "WAIT", "ESCALATE", "COMPLETE", "CANCEL"]

structure DecisionMapping where
  decision : String
  requestedDecision : String
  decisionId : String
  rationale : String
  resultDigest : Json
  evidenceRefs : List String
  reasonCodes : List String
  completionBlocked : Bool := false
  humanApprovalRequired : Bool := false
  authorityGranted : Bool := false
  deriving DecidableEq

/-- `can_close`. -/
def DecisionMapping.canClose (m : DecisionMapping) : Bool :=
  m.decision = "COMPLETE" ∧ m.completionBlocked = false ∧ m.humanApprovalRequired = false ∧
    m.authorityGranted = false

/-- The human signal of the result or, where it has none, of its decision. -/
def humanSignal (normalized decision : List (String × Json)) : Except Raised Bool := do
  let own ← anySignal normalized "normalized_parent_result" humanSignals
  if own then return true else anySignal decision "controller_decision" humanSignals

/-- The completion of a result that was not accepted. -/
def completionBlocked (requested : String) (accepted : Bool) : Bool :=
  requested = "COMPLETE" && !accepted

/-- The decision a request is mapped to. -/
def mappedDecision (requested : String) (accepted signal : Bool) : String :=
  if requested = "CANCEL" ∨ signal then "ESCALATE"
  else if completionBlocked requested accepted then "WAIT"
  else requested

def mappedReasons (requested : String) (accepted signal : Bool) : List String :=
  let blocked := if completionBlocked requested accepted then ["COMPLETION_NOT_ACCEPTED"] else []
  let human := if requested = "CANCEL" ∨ signal then ["HUMAN_AUTHORITY_REQUIRED"] else []
  if blocked ++ human = [] then ["MAPPED"] else blocked ++ human

/-- `map_terminal_decision`. -/
def mapTerminalDecision (terminal : TerminalParentResult) (acceptance : SemanticAcceptance) :
    Except Raised DecisionMapping := do
  ensure (acceptance.resultDigest = terminal.resultDigest)
    (decisionError "DECISION_RESULT_DIGEST_MISMATCH"
      "acceptance is not bound to terminal result_digest")
  let normalized := terminal.normalizedResult
  let decision ← (match Json.get normalized "controller_decision" with
    | .obj members => .ok members
    | _ => .error (decisionInvalid "controller_decision must be an object"))
  let requestedText ← decisionText (Json.get decision "decision_type")
    "controller_decision.decision_type"
  let requested := upper requestedText
  ensure (requested ∈ requestedDecisions)
    (decisionInvalid s!"unsupported decision_type: {Json.reprString requested}")
  let decisionId ← decisionText (Json.get decision "decision_id") "controller_decision.decision_id"
  let rationale ← decisionText (Json.get decision "rationale") "controller_decision.rationale"
  let directRefs ←
    decisionRefs (Json.get decision "evidence_refs") "controller_decision.evidence_refs"
  ensure (acceptance.evidenceRefs ≠ [])
    (evidenceInvalid "semantic acceptance has no evidence references")
  ensure (∀ ref ∈ directRefs, ref ∈ acceptance.evidenceRefs)
    (evidenceInvalid "decision evidence is absent from the accepted result evidence")
  let signal ← humanSignal normalized decision
  return {
    decision := mappedDecision requested acceptance.accepted signal
    requestedDecision := requested
    decisionId, rationale
    resultDigest := terminal.resultDigest
    evidenceRefs := acceptance.evidenceRefs.insertionSort (· ≤ ·)
    reasonCodes := mappedReasons requested acceptance.accepted signal
    completionBlocked := completionBlocked requested acceptance.accepted
    humanApprovalRequired := signal || requested = "CANCEL" }

end
end DwSuperApps.Source.Acceptance
