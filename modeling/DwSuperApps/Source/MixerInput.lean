import DwSuperApps.Lib.Dict
import DwSuperApps.Source.Conflicts
import DwSuperApps.Source.FindingReceipts

/-!
# Mixer input manifests

`taskcontroller/execution/mixer_input_manifest.py`: what the Mixer is given, built from
the ledger of receipts and the outcomes of the reviewers
(`taskcontroller/execution/severity_preservation.py`). The constructors are the
functions named `create`; the structures carry what they check.
-/
namespace DwSuperApps.Source.MixerInput

open DwSuperApps.Lib DwSuperApps.Lib.Checked DwSuperApps.Lib.Sorted
open DwSuperApps.Source.Findings (NormalizedFinding Severity Rendering)
open DwSuperApps.Source.Conflicts (ReviewVerdict ConflictDisposition)
open DwSuperApps.Source.FindingReceipts

/-! ## Failures -/

inductive Code where
  | inputInvalid | evidenceIncomplete | evidenceInvalid | evidenceDuplicate | findingIdConflict
  | findingBindingMismatch | findingDigestMismatch | findingEvidenceMissing | rawEvidenceMissing
  | reviewerBindingMismatch | ledgerBindingMismatch | reviewerDuplicate | reviewerUnknown
  | outcomeMissing | receiptDuplicate | conflictDuplicate | conflictBindingMismatch
  | conflictEvidenceMissing | quorumIncomplete
  deriving DecidableEq

def Code.value : Code → String
  | .inputInvalid => "MIXER_INPUT_INVALID"
  | .evidenceIncomplete => "MIXER_EVIDENCE_INCOMPLETE"
  | .evidenceInvalid => "MIXER_EVIDENCE_INVALID"
  | .evidenceDuplicate => "MIXER_EVIDENCE_DUPLICATE"
  | .findingIdConflict => "MIXER_FINDING_ID_CONFLICT"
  | .findingBindingMismatch => "MIXER_FINDING_BINDING_MISMATCH"
  | .findingDigestMismatch => "MIXER_FINDING_DIGEST_MISMATCH"
  | .findingEvidenceMissing => "MIXER_FINDING_EVIDENCE_MISSING"
  | .rawEvidenceMissing => "MIXER_RAW_EVIDENCE_MISSING"
  | .reviewerBindingMismatch => "MIXER_REVIEWER_BINDING_MISMATCH"
  | .ledgerBindingMismatch => "MIXER_LEDGER_BINDING_MISMATCH"
  | .reviewerDuplicate => "MIXER_REVIEWER_DUPLICATE"
  | .reviewerUnknown => "MIXER_REVIEWER_UNKNOWN"
  | .outcomeMissing => "MIXER_OUTCOME_MISSING"
  | .receiptDuplicate => "MIXER_RECEIPT_DUPLICATE"
  | .conflictDuplicate => "MIXER_CONFLICT_DUPLICATE"
  | .conflictBindingMismatch => "MIXER_CONFLICT_BINDING_MISMATCH"
  | .conflictEvidenceMissing => "MIXER_CONFLICT_EVIDENCE_MISSING"
  | .quorumIncomplete => "MIXER_QUORUM_INCOMPLETE"

/-- `MixerInputManifestError`. -/
structure Failure where
  code : Code
  message : String
  deriving DecidableEq

def Failure.text (f : Failure) : String := s!"{f.code.value}: {f.message}"

/-- Texts of `_text`, `_identifier` and `_digest`. -/
def textFailure (field : String) (fault : TextFault) : Failure where
  code := .inputInvalid
  message := match fault with
    | .empty => s!"{field} must be non-empty"
    | .nul => s!"{field} must not contain NUL"
    | .tooLong _ => s!"{field} exceeds its byte limit"
    | .notIdentifier => s!"{field} must be a stable identifier"
    | .notDigest => s!"{field} must be sha256:<64 lowercase hex>"

/-- A text check under the name of its field. -/
def named {α : Type} (field : String) : Except TextFault α → Except Failure α
  | .ok a => .ok a
  | .error fault => .error (textFailure field fault)

theorem named_ok {α : Type} {field : String} {checked : Except TextFault α} {a : α} :
    named field checked = .ok a ↔ checked = .ok a := by
  cases checked with
  | ok b => simp [named]
  | error fault => simp [named]

/-- A check of a value that may be left out. -/
def ifGiven {α β : Type} (check : α → Except Failure β) : Option α → Except Failure (Option β)
  | none => .ok none
  | some a => (check a).map some

/-! ## Outcomes -/

/-- `ReviewerOutcome` as its constructor leaves it. -/
structure ReviewerOutcome where
  reviewId : String
  reviewer : String
  verdict : ReviewVerdict
  targetRef : String
  evidenceRefs : List String := []
  findings : List NormalizedFinding := []
  stripped : ∀ ref ∈ evidenceRefs, strip ref = ref ∧ ref ≠ "" := by simp
  sorted : evidenceRefs.Pairwise (· < ·) := by simp

/-! ## Retained evidence -/

inductive EvidenceKind where
  | reviewEvidence | findingEvidence | rawOutput
  deriving DecidableEq

def EvidenceKind.value : EvidenceKind → String
  | .reviewEvidence => "REVIEW_EVIDENCE"
  | .findingEvidence => "FINDING_EVIDENCE"
  | .rawOutput => "RAW_OUTPUT"

/-- `RetainedEvidenceRef`. -/
structure RetainedEvidenceRef where
  reference : BoundedText 2048
  reviewerId : Ident 128
  kind : EvidenceKind
  findingId : Option (Ident 128) := none
  digest : Option Digest := none
  named : kind = .findingEvidence ↔ findingId ≠ none
  digested : kind = .rawOutput → digest ≠ none
  deriving DecidableEq

namespace RetainedEvidenceRef

/-- `RetainedEvidenceRef.__post_init__`. -/
def create (reference reviewerId : String) (kind : EvidenceKind) (findingId : Option String := none)
    (digest : Option Digest := none) : Except Failure RetainedEvidenceRef := do
  let reference ← MixerInput.named "evidence.reference" (BoundedText.parse 2048 reference)
  let reviewerId ← MixerInput.named "evidence.reviewer_id" (Ident.parse 128 reviewerId)
  let findingId ← ifGiven (fun id => MixerInput.named "evidence.finding_id" (Ident.parse 128 id)) findingId
  if named : kind = .findingEvidence ↔ findingId ≠ none then
    if digested : kind = .rawOutput → digest ≠ none then
      return { reference, reviewerId, kind, findingId, digest, named, digested }
    else .error ⟨.evidenceIncomplete, "raw output requires a digest"⟩
  else .error (match kind with
    | .findingEvidence => ⟨.evidenceIncomplete, "finding evidence requires finding_id"⟩
    | .reviewEvidence => ⟨.evidenceInvalid, "review evidence must not bind a finding_id"⟩
    | .rawOutput => ⟨.evidenceInvalid, "raw output must not bind a finding_id"⟩)

def toDict (e : RetainedEvidenceRef) : Json :=
  .obj [("reference", .str e.reference.value), ("reviewer_id", .str e.reviewerId.value),
    ("kind", .str e.kind.value), ("finding_id", Json.ofOption (e.findingId.map (·.value))),
    ("digest", Json.ofOption (e.digest.map (·.value)))]

/-- `_evidence_key`. -/
def key (e : RetainedEvidenceRef) : String ×ₗ String ×ₗ String ×ₗ String :=
  toLex (e.kind.value, toLex (e.reviewerId.value,
    toLex ((e.findingId.map (·.value)).getD "", e.reference.value)))

end RetainedEvidenceRef

/-! ## Reviewer inputs -/

/-- A ref of a finding is kept as evidence of that finding. -/
def Retains (evidence : List RetainedEvidenceRef) (f : NormalizedFinding) (ref : BoundedText 2048) :
    Prop :=
  ∃ e ∈ evidence, e.kind = .findingEvidence ∧ e.findingId = some f.findingId ∧ e.reference = ref

instance (evidence : List RetainedEvidenceRef) (f : NormalizedFinding) (ref : BoundedText 2048) :
    Decidable (Retains evidence f ref) := by unfold Retains; infer_instance

/-- The findings with each of their refs. -/
def referenced (findings : List NormalizedFinding) : List (NormalizedFinding × BoundedText 2048) :=
  findings.flatMap fun f => f.evidenceRefs.map fun ref => (f, ref)

theorem mem_referenced {findings : List NormalizedFinding} {f : NormalizedFinding}
    {ref : BoundedText 2048} :
    (f, ref) ∈ referenced findings ↔ f ∈ findings ∧ ref ∈ f.evidenceRefs := by
  simp [referenced]

def findingId (f : NormalizedFinding) : String := f.findingId.value

section Inputs
variable [Rendering] [Sha256]

/-- `MixerReviewerInput`. -/
structure MixerReviewerInput where
  reviewerId : Ident 128
  receiptDigest : Digest
  findingDigest : Digest
  verdict : ReviewVerdict
  targetRef : BoundedText 2048
  findings : List NormalizedFinding
  retainedEvidence : List RetainedEvidenceRef
  rawOutputDigest : Option Digest := none
  findingsSorted : findings.Pairwise (findingId · < findingId ·)
  own : ∀ f ∈ findings, f.reviewer = reviewerId
  evidenceSorted : retainedEvidence.Pairwise (RetainedEvidenceRef.key · < RetainedEvidenceRef.key ·)
  digested : digestFindings findings = findingDigest
  retained : ∀ f ∈ findings, ∀ ref ∈ f.evidenceRefs, Retains retainedEvidence f ref
  rawRetained : ∀ d ∈ rawOutputDigest, ∃ e ∈ retainedEvidence, e.kind = .rawOutput ∧ e.digest = some d

namespace MixerReviewerInput

/-- `MixerReviewerInput.__post_init__`. -/
def create (reviewerId : Ident 128) (receiptDigest findingDigest : Digest) (verdict : ReviewVerdict)
    (targetRef : String) (findings : List NormalizedFinding) (evidence : List RetainedEvidenceRef)
    (rawOutputDigest : Option Digest) : Except Failure MixerReviewerInput := do
  let targetRef ← named "target_ref" (BoundedText.parse 2048 targetRef)
  if distinct : (findings.map findingId).Nodup then
    if own : ∀ f ∈ findings, f.reviewer = reviewerId then
      if evidenceDistinct : (evidence.map (·.key)).Nodup then
        if digested : digestFindings (sortedBy findingId findings) = findingDigest then
          match lost : (referenced (sortedBy findingId findings)).find? fun pair =>
              ¬ Retains evidence pair.1 pair.2 with
          | some (f, ref) => .error ⟨.findingEvidenceMissing,
              s!"evidence {ref.value} for {f.findingId.value} was dropped"⟩
          | none =>
            if rawRetained : ∀ d ∈ rawOutputDigest, ∃ e ∈ sortedBy RetainedEvidenceRef.key evidence,
                e.kind = .rawOutput ∧ e.digest = some d then
              return {
                reviewerId, receiptDigest, findingDigest, verdict, targetRef, rawOutputDigest
                findings := sortedBy findingId findings
                retainedEvidence := sortedBy RetainedEvidenceRef.key evidence
                findingsSorted := sortedBy_strict distinct
                own := fun f member => own f (mem_sortedBy.mp member)
                evidenceSorted := sortedBy_strict evidenceDistinct
                digested
                retained := fun f member ref held => by
                  have kept := List.find?_eq_none.mp lost (f, ref) (mem_referenced.mpr ⟨member, held⟩)
                  rw [decide_eq_true_eq, not_not] at kept
                  obtain ⟨e, inside, shape⟩ := kept
                  exact ⟨e, mem_sortedBy.mpr inside, shape⟩
                rawRetained }
            else .error ⟨.rawEvidenceMissing, "raw output digest is not retained as evidence"⟩
        else .error ⟨.findingDigestMismatch, "finding digest does not match normalized findings"⟩
      else .error ⟨.evidenceDuplicate, "retained_evidence contains duplicate provenance"⟩
    else .error ⟨.findingBindingMismatch, "finding reviewer does not match reviewer input"⟩
  else .error ⟨.findingIdConflict, "reviewer input contains duplicate finding IDs"⟩

/-- The evidence of an outcome: its own refs, the refs of its findings, its raw output. -/
def evidenceOf (outcome : ReviewerOutcome) (rawOutputDigest : Option Digest) :
    Except Failure (List RetainedEvidenceRef) := do
  let review ← outcome.evidenceRefs.mapM fun ref =>
    RetainedEvidenceRef.create ref outcome.reviewer .reviewEvidence
  let finding ← outcome.findings.mapM fun f => f.evidenceRefs.mapM fun ref =>
    RetainedEvidenceRef.create ref.value outcome.reviewer .findingEvidence (some f.findingId.value)
  let raw ← rawOutputDigest.toList.mapM fun d =>
    RetainedEvidenceRef.create s!"raw-output:{outcome.reviewer}" outcome.reviewer .rawOutput none (some d)
  return review ++ finding.flatten ++ raw

/-- `from_receipt_and_outcome`. -/
def fromReceiptAndOutcome (receipt : InitialFindingReceipt) (outcome : ReviewerOutcome)
    (rawOutputDigest : Option Digest) : Except Failure MixerReviewerInput := do
  ensure (receipt.reviewerId.value = outcome.reviewer)
    ⟨.reviewerBindingMismatch, "receipt and outcome reviewer differ"⟩
  let findingDigest := digestFindings outcome.findings
  ensure (findingDigest = receipt.findingDigest)
    ⟨.findingDigestMismatch, "outcome findings differ from receipt"⟩
  let evidence ← evidenceOf outcome rawOutputDigest
  create receipt.reviewerId receipt.receiptDigest findingDigest outcome.verdict outcome.targetRef
    outcome.findings evidence rawOutputDigest

def toDict (i : MixerReviewerInput) : Json :=
  .obj [("reviewer_id", .str i.reviewerId.value), ("receipt_digest", .str i.receiptDigest.value),
    ("finding_digest", .str i.findingDigest.value), ("verdict", .str i.verdict.value),
    ("target_ref", .str i.targetRef.value), ("findings", .arr (i.findings.map (·.toDict))),
    ("retained_evidence", .arr (i.retainedEvidence.map (·.toDict))),
    ("raw_output_digest", Json.ofOption (i.rawOutputDigest.map (·.value)))]

def reviewerOf (i : MixerReviewerInput) : String := i.reviewerId.value

end MixerReviewerInput

/-! ## Conflicts -/

def dispositionValue : ConflictDisposition → String
  | .unresolved => "UNRESOLVED"
  | .resolved => "RESOLVED"
  | .escalated => "ESCALATED"
  | .notMaterial => "NOT_MATERIAL"

/-- `MixerConflict` as its constructor leaves it. -/
structure MixerConflict where
  conflictId : Ident 128
  findingIds : List (Ident 128)
  reviewers : List (Ident 128)
  severities : List String
  evidenceRefs : List (BoundedText 2048)
  material : Bool
  disposition : ConflictDisposition := .unresolved
  resolutionEvidenceRefs : List (BoundedText 2048) := []
  rationale : Option (BoundedText 2048) := none
  residualRisk : Option (BoundedText 2048) := none
  several : 2 ≤ findingIds.length
  resolved : material = true → disposition = .resolved ∨ disposition = .escalated →
    resolutionEvidenceRefs ≠ []

namespace MixerConflict

def toDict (c : MixerConflict) : Json :=
  .obj [("conflict_id", .str c.conflictId.value),
    ("finding_ids", .arr (c.findingIds.map (.str ·.value))),
    ("reviewers", .arr (c.reviewers.map (.str ·.value))),
    ("severities", .arr (c.severities.map .str)),
    ("evidence_refs", .arr (c.evidenceRefs.map (.str ·.value))),
    ("material", .bool c.material), ("disposition", .str (dispositionValue c.disposition)),
    ("resolution_evidence_refs", .arr (c.resolutionEvidenceRefs.map (.str ·.value))),
    ("rationale", Json.ofOption (c.rationale.map (·.value))),
    ("residual_risk", Json.ofOption (c.residualRisk.map (·.value)))]

def id (c : MixerConflict) : String := c.conflictId.value

end MixerConflict

/-! ## Manifest -/

/-- The fields all required reviewers share. -/
structure SharedIdentity where
  runId : Ident 128
  nodeId : Ident 128
  attemptId : Ident 128
  sourceDigest : Digest
  standardsProfileDigest : Digest
  standardsContextDigest : Digest
  deriving DecidableEq

def sharedIdentity (r : ReviewerReceiptRequirement) : SharedIdentity where
  runId := r.runId
  nodeId := r.nodeId
  attemptId := r.attemptId
  sourceDigest := r.sourceDigest
  standardsProfileDigest := r.standardsProfileDigest
  standardsContextDigest := r.standardsContextDigest

/-- `MixerInputManifest` before it is sealed. -/
structure MixerInputManifest where
  identity : SharedIdentity
  requiredReviewerIds : List (Ident 128)
  reviewerInputs : List MixerReviewerInput := []
  conflicts : List MixerConflict := []
  leaseGeneration : Option Nat := none
  fencingToken : Option (BoundedText 4096) := none
  inputsSorted : reviewerInputs.Pairwise (MixerReviewerInput.reviewerOf · < MixerReviewerInput.reviewerOf ·)
  known : ∀ i ∈ reviewerInputs, i.reviewerId ∈ requiredReviewerIds

namespace MixerInputManifest

def receivedReviewerIds (m : MixerInputManifest) : List (Ident 128) := m.reviewerInputs.map (·.reviewerId)

local instance : LawfulBEq (Ident 128) := inferInstance

def missingReviewerIds (m : MixerInputManifest) : List (Ident 128) :=
  m.requiredReviewerIds.filter (· ∉ m.receivedReviewerIds)

def readyForMixer (m : MixerInputManifest) : Bool := m.missingReviewerIds = []

def allFindings (m : MixerInputManifest) : List NormalizedFinding := m.reviewerInputs.flatMap (·.findings)

/-- `retained_evidence_refs`. -/
def retainedEvidenceRefs (inputs : List MixerReviewerInput) : List RetainedEvidenceRef :=
  sortedBy RetainedEvidenceRef.key (inputs.flatMap (·.retainedEvidence))

/-- The refs are among the retained ones. -/
def refsRetained (inputs : List MixerReviewerInput) (refs : List (BoundedText 2048)) : Prop :=
  ∀ ref ∈ refs, ∃ e ∈ retainedEvidenceRefs inputs, e.reference = ref

instance (inputs : List MixerReviewerInput) (refs : List (BoundedText 2048)) :
    Decidable (refsRetained inputs refs) := by unfold refsRetained; infer_instance

/-- One conflict of `_validate_findings_and_conflicts`. -/
def checkConflict (inputs : List MixerReviewerInput) (c : MixerConflict) : Except Failure Unit := do
  ensure (∀ id ∈ c.findingIds, id.value ∈ (inputs.flatMap (·.findings)).map findingId)
    ⟨.conflictBindingMismatch, s!"{c.conflictId.value} references an unknown finding"⟩
  ensure (refsRetained inputs c.evidenceRefs)
    ⟨.conflictEvidenceMissing, s!"{c.conflictId.value} references dropped evidence"⟩
  ensure (refsRetained inputs c.resolutionEvidenceRefs)
    ⟨.conflictEvidenceMissing, s!"{c.conflictId.value} resolution evidence is not retained"⟩

/-- `_validate_findings_and_conflicts`. -/
def validateFindingsAndConflicts (inputs : List MixerReviewerInput) (conflicts : List MixerConflict) :
    Except Failure Unit := do
  ensure ((inputs.flatMap (·.findings)).map findingId).Nodup
    ⟨.findingIdConflict, "finding IDs must be globally unique in the input manifest"⟩
  checkAll (checkConflict inputs) conflicts

/-- The ids of inputs nobody requires. -/
def unknownReviewers (required : List (Ident 128)) (inputs : List MixerReviewerInput) : List String :=
  (((inputs.filter (·.reviewerId ∉ required)).map MixerReviewerInput.reviewerOf).dedup).insertionSort (· ≤ ·)

theorem unknownReviewers_nil {required : List (Ident 128)} {inputs : List MixerReviewerInput}
    (none : unknownReviewers required inputs = []) : ∀ i ∈ inputs, i.reviewerId ∈ required := by
  intro i member
  by_contra unknown
  have listed : i.reviewerOf ∈ unknownReviewers required inputs := by
    unfold unknownReviewers
    rw [List.mem_insertionSort, List.mem_dedup, List.mem_map]
    exact ⟨i, List.mem_filter.mpr ⟨member, by simpa using unknown⟩, rfl⟩
  rw [none] at listed
  cases listed

/-- What else `from_receipt_ledger` is given. -/
structure Options where
  rawOutputDigests : List (String × String) := []
  conflicts : List MixerConflict := []
  parentAttemptId : Option String := none
  leaseGeneration : Option Int := none
  fencingToken : Option String := none

/-- `MixerInputManifest.__post_init__`; the ids and digests it checks again are those of
the ledger. -/
def create (identity : SharedIdentity) (required : List (Ident 128)) (inputs : List MixerReviewerInput)
    (options : Options) : Except Failure MixerInputManifest := do
  ensure (∀ n ∈ options.leaseGeneration, 0 ≤ n)
    ⟨.inputInvalid, "lease_generation must be a non-negative integer"⟩
  let fencingToken ← ifGiven (fun token => named "fencing_token" (BoundedText.parse 4096 token))
    options.fencingToken
  if distinct : (inputs.map MixerReviewerInput.reviewerOf).Nodup then
    if unknown : unknownReviewers required inputs = [] then
      ensure (inputs.map (·.receiptDigest)).Nodup
        ⟨.receiptDuplicate, "receipt digest is reused by multiple reviewers"⟩
      let sorted := sortedBy MixerReviewerInput.reviewerOf inputs
      ensure (options.conflicts.map MixerConflict.id).Nodup
        ⟨.conflictDuplicate, "conflict IDs must be unique"⟩
      let conflicts := sortedBy MixerConflict.id options.conflicts
      validateFindingsAndConflicts sorted conflicts
      return {
        identity, requiredReviewerIds := required, reviewerInputs := sorted, conflicts, fencingToken
        leaseGeneration := options.leaseGeneration.map Int.toNat
        inputsSorted := sortedBy_strict distinct
        known := fun i member => unknownReviewers_nil unknown i (mem_sortedBy.mp member) }
    else .error ⟨.reviewerUnknown, ", ".intercalate (unknownReviewers required inputs)⟩
  else .error ⟨.reviewerDuplicate, "one reviewer has multiple Mixer inputs"⟩

/-- The outcomes by reviewer, after those found so far. -/
def collectFrom (found : Dict String ReviewerOutcome) :
    List ReviewerOutcome → Except Failure (Dict String ReviewerOutcome)
  | [] => .ok found
  | outcome :: rest => do
    ensure (¬ found.contains outcome.reviewer)
      ⟨.reviewerDuplicate, s!"duplicate outcome for {outcome.reviewer}"⟩
    collectFrom (found.set outcome.reviewer outcome) rest

def collectOutcomes (outcomes : List ReviewerOutcome) : Except Failure (Dict String ReviewerOutcome) :=
  collectFrom {} outcomes

/-- Reviewers with an outcome that nobody requires. -/
def unknownOutcomes (required : List String) (found : Dict String ReviewerOutcome) : List String :=
  ((found.entries.map Prod.fst).filter (· ∉ required)).insertionSort (· ≤ ·)

/-- The raw output digests by reviewer. -/
def collectRaw (required : List String) (digests : List (String × String)) :
    Except Failure (Dict String Digest) :=
  digests.foldlM (fun found entry => do
    ensure (entry.1 ∈ required) ⟨.reviewerUnknown, entry.1⟩
    let digest ← named s!"raw_output_digests.{entry.1}" (Digest.parse entry.2)
    return found.set entry.1 digest) {}

/-- The input of one receipt. -/
def inputOf (found : Dict String ReviewerOutcome) (raw : Dict String Digest)
    (receipt : InitialFindingReceipt) : Except Failure MixerReviewerInput :=
  match found.get? (receiptReviewer receipt) with
  | none => .error ⟨.outcomeMissing, s!"no normalized outcome for {receipt.reviewerId.value}"⟩
  | some outcome =>
    MixerReviewerInput.fromReceiptAndOutcome receipt outcome (raw.get? (receiptReviewer receipt))

/-- `from_receipt_ledger`. -/
def fromReceiptLedger (ledger : InitialFindingReceiptLedger) (outcomes : List ReviewerOutcome)
    (options : Options) : Except Failure MixerInputManifest :=
  let requirements := ledger.requiredSessions
  let first := requirements.head ledger.required
  let requiredIds := ledger.requiredReviewerIds
  do
    ensure (∀ r ∈ requirements, sharedIdentity r = sharedIdentity first)
      ⟨.ledgerBindingMismatch, "required reviewers do not share one bound identity"⟩
    let found ← collectOutcomes outcomes
    ensure (unknownOutcomes requiredIds found = [])
      ⟨.reviewerUnknown, ", ".intercalate (unknownOutcomes requiredIds found)⟩
    let raw ← collectRaw requiredIds options.rawOutputDigests
    let inputs ← ledger.receipts.mapM (inputOf found raw)
    ensure (∀ attempt ∈ options.parentAttemptId, attempt = first.attemptId.value)
      ⟨.ledgerBindingMismatch, "parent_attempt_id differs from reviewer session identity"⟩
    create (sharedIdentity first) (requirements.map (·.reviewerId)) inputs options

/-! ### Digest -/

def severityInventory (m : MixerInputManifest) : List (String × Json) :=
  (((m.allFindings.map (·.severity.value)).dedup).insertionSort (· ≤ ·)).map fun severity =>
    (severity, .int (m.allFindings.countP (·.severity.value = severity)))

def highSeverityFindingIds (m : MixerInputManifest) : List String :=
  ((m.allFindings.filter (·.severity.isHigh)).map findingId).insertionSort (· ≤ ·)

def highSeverityEvidenceRefs (m : MixerInputManifest) : List String :=
  ((((m.allFindings.filter (·.severity.isHigh)).flatMap (·.evidenceRefs)).map (·.value)).dedup).insertionSort
    (· ≤ ·)

def mixerInputManifestProtocol : String := "dw.taskcontroller.mixer-input-manifest/v1"

/-- `_canonical_payload`. -/
def canonicalPayload (m : MixerInputManifest) : Json :=
  let ids (items : List (Ident 128)) : Json := .arr (items.map (.str ·.value))
  let texts (items : List String) : Json := .arr (items.map .str)
  .obj ([("protocol", .str mixerInputManifestProtocol), ("run_id", .str m.identity.runId.value),
      ("node_id", .str m.identity.nodeId.value), ("attempt_id", .str m.identity.attemptId.value),
      ("source_digest", .str m.identity.sourceDigest.value),
      ("standards_profile_digest", .str m.identity.standardsProfileDigest.value),
      ("standards_context_digest", .str m.identity.standardsContextDigest.value),
      ("quorum", .obj [("policy", .str "ALL_REQUIRED"),
        ("required_reviewer_ids", ids m.requiredReviewerIds),
        ("received_reviewer_ids", ids m.receivedReviewerIds),
        ("missing_reviewer_ids", ids m.missingReviewerIds),
        ("satisfied", .bool m.readyForMixer)]),
      ("conflict_policy", .str "PRESERVE_ALL"),
      ("reviewer_inputs", .arr (m.reviewerInputs.map (·.toDict))),
      ("conflicts", .arr (m.conflicts.map (·.toDict))),
      ("severity", .obj [("inventory", .obj m.severityInventory),
        ("high_severity_finding_ids", texts m.highSeverityFindingIds),
        ("high_severity_evidence_refs", texts m.highSeverityEvidenceRefs)]),
      ("retained_evidence_refs", .arr ((retainedEvidenceRefs m.reviewerInputs).map (·.toDict))),
      ("sealed", .bool false)] ++
    (m.leaseGeneration.map fun n => ("lease_generation", Json.int n)).toList ++
    (m.fencingToken.map fun token => ("fencing_token", Json.str token.value)).toList)

/-- `manifest_digest`. -/
def manifestDigest (m : MixerInputManifest) : Digest := canonicalDigest m.canonicalPayload

end MixerInputManifest

end Inputs

end DwSuperApps.Source.MixerInput
