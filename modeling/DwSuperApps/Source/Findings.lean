import Mathlib.Data.Prod.Lex
import Mathlib.Data.Rat.Defs
import Mathlib.Algebra.Order.Ring.Rat
import DwSuperApps.Lib.Checked
import DwSuperApps.Lib.Grouping
import DwSuperApps.Lib.JsonText
import DwSuperApps.Lib.Text

/-!
# Normalized findings and their deduplication

The records of `taskcontroller/execution/result_normalizer.py` as their
constructors leave them, and `taskcontroller/execution/finding_deduplicator.py`.
A confidence is the exact value of the float and the sign of a zero. What `casefold`
makes of a text and `repr` of a float are parameters (`Rendering`).
-/
namespace DwSuperApps.Source.Findings

open DwSuperApps.Lib DwSuperApps.Lib.Checked DwSuperApps.Lib.Grouping

/-- Text functions of the standard library. -/
class Rendering where
  /-- `" ".join(value.split()).casefold()`. -/
  semanticText : String → String
  /-- `repr` of a float without a sign. -/
  float : ℚ → String
  unsigned : ∀ value, (float value).toList.head? ≠ some '-'

/-- `json.dumps(value, sort_keys=True, separators=(",", ":"))`. -/
def dumps (value : Json) : String := String.ofList (JsonText.render true value.sortKeys)

/-! ## Failures -/

inductive Code where
  | outputLimitExceeded | deduplicationInvalid | adjudicationInvalid | synthesisInvalid
  | noChildResults | duplicateChildId | incompleteChildResult | conflictingFindingId
  | conflictResultMismatch | controllerDecisionMismatch | severityPreservationInvalid
  | typeError
  deriving DecidableEq

structure Failure where
  code : Code
  message : String
  deriving DecidableEq

/-! ## Findings -/

inductive Severity where
  | critical | major | minor | info
  deriving DecidableEq

def Severity.value : Severity → String
  | .critical => "critical"
  | .major => "major"
  | .minor => "minor"
  | .info => "info"

theorem Severity.value_inj {s t : Severity} (same : s.value = t.value) : s = t := by
  cases s <;> cases t <;> first | rfl | exact absurd same (by decide)

/-- `_HIGH_SEVERITIES`. -/
def Severity.isHigh (s : Severity) : Bool := s = .critical ∨ s = .major

inductive FindingDisposition where
  | openFinding | accepted | rejected | deferred | escalated
  deriving DecidableEq

def FindingDisposition.value : FindingDisposition → String
  | .openFinding => "OPEN"
  | .accepted => "ACCEPTED"
  | .rejected => "REJECTED"
  | .deferred => "DEFERRED"
  | .escalated => "ESCALATED"

theorem FindingDisposition.value_inj {d e : FindingDisposition} (same : d.value = e.value) :
    d = e := by
  cases d <;> cases e <;> first | rfl | exact absurd same (by decide)

/-- A float between 0 and 1, among them `-0.0`. -/
structure Confidence where
  value : ℚ
  negative : Bool := false
  nonneg : 0 ≤ value
  le_one : value ≤ 1
  zero : negative = true → value = 0 := by simp
  deriving DecidableEq

/-- `repr` of the float. -/
def Confidence.repr [Rendering] (c : Confidence) : String :=
  if c.negative then "-" ++ Rendering.float c.value else Rendering.float c.value

/-- The float with a positive sign. -/
def Confidence.unsigned (c : Confidence) : Confidence where
  value := c.value
  nonneg := c.nonneg
  le_one := c.le_one

/-- `NormalizedFinding`. -/
structure NormalizedFinding where
  findingId : Ident 128
  severity : Severity
  category : BoundedText 128
  lens : BoundedText 128
  claim : BoundedText 2048
  evidenceRefs : List (BoundedText 2048)
  recommendation : BoundedText 2048
  reviewer : Ident 128
  disposition : FindingDisposition := .openFinding
  confidence : Option Confidence := none
  conflictGroup : Option (BoundedText 128) := none
  referenced : evidenceRefs ≠ []
  bounded : evidenceRefs.length ≤ 256
  sorted : evidenceRefs.Pairwise (·.value < ·.value)
  deriving DecidableEq

/-- `to_dict`. -/
def NormalizedFinding.toDict [Rendering] (f : NormalizedFinding) : Json :=
  .obj ([("finding_id", .str f.findingId.value),
      ("severity", .str f.severity.value),
      ("category", .str f.category.value),
      ("lens", .str f.lens.value),
      ("claim", .str f.claim.value),
      ("evidence_refs", .arr (f.evidenceRefs.map (.str ·.value))),
      ("recommendation", .str f.recommendation.value),
      ("reviewer", .str f.reviewer.value),
      ("disposition", .str f.disposition.value)] ++
    (f.confidence.map fun c => ("confidence", Json.float c.repr)).toList ++
    (f.conflictGroup.map fun group => ("conflict_group", Json.str group.value)).toList)

/-- The finding with a positive sign of its confidence. -/
def NormalizedFinding.unsigned (f : NormalizedFinding) : NormalizedFinding :=
  { f with confidence := f.confidence.map Confidence.unsigned }

/-- `==` of findings: `0.0 == -0.0`. -/
def NormalizedFinding.pyEq (f g : NormalizedFinding) : Prop := f.unsigned = g.unsigned

instance (f g : NormalizedFinding) : Decidable (f.pyEq g) := by
  unfold NormalizedFinding.pyEq; infer_instance

@[simp] theorem NormalizedFinding.unsigned_unsigned (f : NormalizedFinding) :
    f.unsigned.unsigned = f.unsigned := by
  have twice : Confidence.unsigned ∘ Confidence.unsigned = Confidence.unsigned := rfl
  simp [NormalizedFinding.unsigned, twice]

/-! ## Child results -/

inductive NormalizationStatus where
  | succeeded | failed | needsRetry
  deriving DecidableEq

def NormalizationStatus.value : NormalizationStatus → String
  | .succeeded => "SUCCEEDED"
  | .failed => "FAILED"
  | .needsRetry => "NEEDS_RETRY"

structure NormalizationFailure where
  code : Ident 128
  message : BoundedText 512
  retryable : Bool := true
  deriving DecidableEq

def NormalizationFailure.toDict (f : NormalizationFailure) : Json :=
  .obj [("code", .str f.code.value), ("message", .str f.message.value),
    ("retryable", .bool f.retryable)]

structure NormalizedArtifact where
  artifactId : Ident 128
  contentRef : BoundedText 2048
  mediaType : BoundedText 128
  digest : Digest
  provenance : List (Ident 128 × BoundedText 2048)
  schemaRef : Option (BoundedText 2048) := none
  schemaVersion : Option (BoundedText 2048) := none
  sorted : provenance.Pairwise (·.1.value < ·.1.value)
  deriving DecidableEq

def NormalizedArtifact.toDict (a : NormalizedArtifact) : Json :=
  .obj ([("artifact_id", .str a.artifactId.value),
      ("content_ref", .str a.contentRef.value),
      ("media_type", .str a.mediaType.value),
      ("digest", .str a.digest.value),
      ("provenance", .obj (a.provenance.map fun (k, v) => (k.value, .str v.value)))] ++
    (a.schemaRef.map fun s => ("schema_ref", Json.str s.value)).toList ++
    (a.schemaVersion.map fun s => ("schema_version", Json.str s.value)).toList)

/-- `NormalizedChildResult`. -/
structure NormalizedChildResult where
  childId : Ident 128
  status : NormalizationStatus
  rawOutputDigest : Option Digest
  artifacts : List NormalizedArtifact := []
  findings : List NormalizedFinding := []
  failure : Option NormalizationFailure := none
  childContractDigest : Option Digest := none
  sourceDigest : Option Digest := none
  lens : Option (BoundedText 128) := none
  reviewer : Option (Ident 128) := none
  protocol : BoundedText 128
  bounded : artifacts.length ≤ 64 ∧ findings.length ≤ 64
  artifactIds : artifacts.Pairwise (·.artifactId.value < ·.artifactId.value)
  findingIds : findings.Pairwise (·.findingId.value < ·.findingId.value)
  outcome : status = .succeeded ↔ failure = none

namespace NormalizedChildResult
variable [Rendering] [Sha256]

/-- `_canonical_payload`. -/
def canonicalPayload (r : NormalizedChildResult) : Json :=
  .obj ([("protocol", .str r.protocol.value),
      ("child_id", .str r.childId.value),
      ("status", .str r.status.value),
      ("artifacts", .arr (r.artifacts.map (·.toDict))),
      ("findings", .arr (r.findings.map (·.toDict)))] ++
    (r.childContractDigest.map fun d => ("child_contract_digest", Json.str d.value)).toList ++
    (r.sourceDigest.map fun d => ("source_digest", Json.str d.value)).toList ++
    (r.lens.map fun l => ("lens", Json.str l.value)).toList ++
    (r.reviewer.map fun l => ("reviewer", Json.str l.value)).toList ++
    (r.failure.map fun f => ("failure", f.toDict)).toList)

/-- `MAX_RAW_OUTPUT_BYTES`. -/
def maxRawOutputBytes : Nat := 256 * 1024

/-- `normalization_digest`. -/
def normalizationDigest (r : NormalizedChildResult) : Except Failure Digest := do
  ensure (utf8Bytes r.canonicalPayload.canonicalText ≤ maxRawOutputBytes)
    ⟨.outputLimitExceeded, "raw output exceeds the bounded byte limit"⟩
  return canonicalDigest r.canonicalPayload

end NormalizedChildResult

/-! ## Deduplication -/

section Deduplication
variable [Rendering]

/-- `_semantic_key`: the texts compared in order, and the confidence behind them. -/
structure SemanticKey where
  texts : List String
  confidence : Option ℚ
  deriving DecidableEq

def semanticKey (f : NormalizedFinding) : SemanticKey where
  texts := [f.severity.value, Rendering.semanticText f.category.value,
    Rendering.semanticText f.lens.value, Rendering.semanticText f.claim.value,
    Rendering.semanticText f.recommendation.value, f.disposition.value]
  confidence := f.confidence.map (·.value)

/-- Order of the keys; two confidences are compared where both are numbers. -/
def SemanticKey.le (a b : SemanticKey) : Prop :=
  a.texts < b.texts ∨ a.texts = b.texts ∧
    ∀ x ∈ a.confidence, ∀ y ∈ b.confidence, x ≤ y

instance : DecidableRel SemanticKey.le := fun a b => by unfold SemanticKey.le; infer_instance

/-- `_source_sort_key`. -/
def sourceSortKey (f : NormalizedFinding) : String ×ₗ String ×ₗ List String ×ₗ String ×ₗ String :=
  toLex (f.findingId.value, toLex (f.reviewer.value, toLex (f.evidenceRefs.map (·.value),
    toLex ((f.conflictGroup.map (·.value)).getD "", dumps f.toDict))))

structure FindingProvenance where
  sourceFindingId : Ident 128
  reviewer : Ident 128
  evidenceRefs : List (BoundedText 2048)
  conflictGroup : Option (BoundedText 128) := none
  deriving DecidableEq

structure DeduplicatedFinding where
  representative : NormalizedFinding
  provenance : List FindingProvenance
  deriving DecidableEq

structure FindingDeduplicationResult where
  findings : List DeduplicatedFinding
  sourceCount : Nat

/-- The first source represents its group, every source stays recoverable. -/
def represent (sources : List NormalizedFinding) : Option DeduplicatedFinding :=
  sources.head?.map fun representative =>
    { representative
      provenance := sources.map fun item =>
        { sourceFindingId := item.findingId
          reviewer := item.reviewer
          evidenceRefs := item.evidenceRefs
          conflictGroup := item.conflictGroup } }

/-- `deduplicate_findings`. Sorting keys that differ only in having a confidence
compares `None` with a float. -/
def deduplicateFindings (findings : List NormalizedFinding) :
    Except Failure FindingDeduplicationResult := do
  let keys := sortedKeys SemanticKey.le semanticKey findings
  ensure (∀ a ∈ keys, ∀ b ∈ keys, a.texts = b.texts → (a.confidence = none ↔ b.confidence = none))
    ⟨.typeError, "'<' not supported between instances of 'NoneType' and 'float'"⟩
  return {
    findings := keys.filterMap fun key =>
      represent ((groupOf semanticKey findings key).insertionSort
        fun a b => sourceSortKey a ≤ sourceSortKey b)
    sourceCount := findings.length }

end Deduplication

end DwSuperApps.Source.Findings
