import DwSuperApps.Lib.Dict
import DwSuperApps.Source.Chunking

/-!
# Context packs

`taskcontroller/standards/context_pack.py`: the builder of one bounded pack from a resolved
standards context and the sources and evidence a request names, with the receipts of
`taskcontroller/standards/resolver.py` that the inventory repeats.

The readers and SHA-256 are parameters. A reference given as a mapping is taken as read, or
as refused with the reason of the refusal. Left out: `to_dict` of the pack, the resolver.
-/
namespace DwSuperApps.Source.ContextPack

open DwSuperApps.Lib DwSuperApps.Lib.Checked DwSuperApps.Lib.Sorted
open DwSuperApps.Source.Chunking (Bytes ByteHash rawDigest StandardsSourceRef Reading)

/-! ## Errors -/

inductive Code where
  | evidenceRefInvalid | sourceRefInvalid | limitInvalid | standardsRequired | standardsInvalid
  | duplicateRef | sourceLimitExceeded | evidenceLimitExceeded | sourceUnavailable | sourceInvalid
  | sourceDigestMismatch | evidenceUnavailable | evidenceInvalid | evidenceDigestMismatch
  | sizeLimitExceeded
  deriving DecidableEq

def Code.text : Code → String
  | .evidenceRefInvalid => "CONTEXT_EVIDENCE_REF_INVALID"
  | .sourceRefInvalid => "CONTEXT_SOURCE_REF_INVALID"
  | .limitInvalid => "CONTEXT_LIMIT_INVALID"
  | .standardsRequired => "CONTEXT_STANDARDS_REQUIRED"
  | .standardsInvalid => "CONTEXT_STANDARDS_INVALID"
  | .duplicateRef => "CONTEXT_DUPLICATE_REF"
  | .sourceLimitExceeded => "CONTEXT_SOURCE_LIMIT_EXCEEDED"
  | .evidenceLimitExceeded => "CONTEXT_EVIDENCE_LIMIT_EXCEEDED"
  | .sourceUnavailable => "CONTEXT_SOURCE_UNAVAILABLE"
  | .sourceInvalid => "CONTEXT_SOURCE_INVALID"
  | .sourceDigestMismatch => "CONTEXT_SOURCE_DIGEST_MISMATCH"
  | .evidenceUnavailable => "CONTEXT_EVIDENCE_UNAVAILABLE"
  | .evidenceInvalid => "CONTEXT_EVIDENCE_INVALID"
  | .evidenceDigestMismatch => "CONTEXT_EVIDENCE_DIGEST_MISMATCH"
  | .sizeLimitExceeded => "CONTEXT_SIZE_LIMIT_EXCEEDED"

/-- `ContextPackError`. -/
structure ContextPackError where
  code : Code
  message : String
  deriving DecidableEq

def fail (code : Code) (message : String) : ContextPackError := ⟨code, s!"{code.text}: {message}"⟩

/-! ## References -/

structure EvidenceRef where
  ref : String
  digest : Digest
  mediaType : String := "application/octet-stream"
  named : strip ref ≠ ""
  typed : strip mediaType ≠ ""
  deriving DecidableEq

/-- `StandardsSourceRef.sort_key`. -/
def sourceKey (source : StandardsSourceRef) : List String :=
  [source.repository, source.commitSha, source.path]

/-- `EvidenceRef.sort_key`. -/
def EvidenceRef.sortKey (evidence : EvidenceRef) : List String :=
  [evidence.ref, evidence.digest.value, evidence.mediaType]

def EvidenceRef.toDict (evidence : EvidenceRef) : Json := .obj [
  ("ref", .str evidence.ref), ("digest", .str evidence.digest.value), ("media_type", .str evidence.mediaType)]

/-- References as they are given: an array, or what is refused for not being one. -/
inductive Given (ρ : Type) where
  | array (values : List (Reading ρ))
  | other

/-- One value of `_normalize_sources`. -/
def sourceOf : Reading StandardsSourceRef → Except ContextPackError StandardsSourceRef
  | .read source => .ok source
  | .refused reason => .error (fail .sourceRefInvalid reason)

/-- `EvidenceRef.from_value`. -/
def evidenceOf : Reading EvidenceRef → Except ContextPackError EvidenceRef
  | .read evidence => .ok evidence
  | .refused reason => .error (fail .evidenceRefInvalid reason)

/-- The references in the order of their keys, which must be distinct. -/
def ordered {ρ : Type} (key : ρ → List String) (name : String) (refs : List ρ) :
    Except ContextPackError (List ρ) := do
  ensure (((sortedBy key refs).map key).Nodup)
    (fail .duplicateRef s!"{name} must not contain duplicates")
  .ok (sortedBy key refs)

/-- `_normalize_sources`. -/
def normalizeSources : Given StandardsSourceRef → Except ContextPackError (List StandardsSourceRef)
  | .other => .error (fail .sourceRefInvalid "source_refs must be an array")
  | .array values => do
    let normalized ← values.mapM sourceOf
    ordered sourceKey "source_refs" normalized

/-- `_normalize_evidence`. -/
def normalizeEvidence : Given EvidenceRef → Except ContextPackError (List EvidenceRef)
  | .other => .error (fail .evidenceRefInvalid "evidence_refs must be an array")
  | .array values => do
    let normalized ← values.mapM evidenceOf
    ordered EvidenceRef.sortKey "evidence_refs" normalized

/-! ## Standards -/

structure MaterializedInstruction where
  source : StandardsSourceRef
  content : String
  deriving DecidableEq

/-- The observed digest is the declared one. -/
structure MaterializedSourceReceipt where
  source : StandardsSourceRef
  byteLength : Nat
  deriving DecidableEq

def MaterializedSourceReceipt.toDict (receipt : MaterializedSourceReceipt) : Json := .obj [
  ("source", receipt.source.toDict), ("observed_digest", .str receipt.source.blobDigest.value),
  ("byte_length", .int receipt.byteLength)]

structure StandardsResolutionReceipt where
  profileId : String
  version : String
  digest : Digest
  sources : List StandardsSourceRef
  contextDigest : Digest
  materializedSources : List MaterializedSourceReceipt
  materializationDigest : Digest
  required : materializedSources ≠ []
  declared : materializedSources.map (·.source) = sources
  deriving DecidableEq

def materializationProtocol : String := "dw.taskcontroller.standards-materialization/v1"

def StandardsResolutionReceipt.toDict (receipt : StandardsResolutionReceipt) : Json := .obj [
  ("profile_id", .str receipt.profileId), ("version", .str receipt.version),
  ("digest", .str receipt.digest.value), ("source_count", .int receipt.sources.length),
  ("source_refs", .arr (receipt.sources.map (·.toDict))),
  ("context_digest", .str receipt.contextDigest.value),
  ("materialization_protocol", .str materializationProtocol),
  ("materialized_sources", .arr (receipt.materializedSources.map (·.toDict))),
  ("materialization_digest", .str receipt.materializationDigest.value)]

structure StandardsSessionContext where
  receipt : StandardsResolutionReceipt
  instructions : List MaterializedInstruction
  deriving DecidableEq

/-- `_standards_context`; resolved standards are taken as their session context. -/
def standardsContext : Option StandardsSessionContext → Except ContextPackError StandardsSessionContext
  | none => .error (fail .standardsRequired "resolved standards session context is required")
  | some value => do
    ensure (value.instructions ≠ [] ∧ value.receipt.sources ≠ [])
      (fail .standardsInvalid "standards context must contain resolved instructions and sources")
    ensure (value.instructions.map (·.source) = value.receipt.sources)
      (fail .standardsInvalid "standards receipt sources do not match materialized instructions")
    .ok value

/-! ## Limits -/

@[ext] structure ContextPackLimits where
  maxSources : Nat := 16
  maxEvidence : Nat := 16
  maxTotalBytes : Nat := 256 * 1024
  maxSingleBytes : Nat := 128 * 1024
  bounded : maxSingleBytes ≤ maxTotalBytes

instance : DecidableEq ContextPackLimits := fun _ _ => decidable_of_iff _ ContextPackLimits.ext_iff.symm

/-- `_check_size`. -/
def checkSize (size : Nat) (limits : ContextPackLimits) (ref : String) : Except ContextPackError Unit := do
  ensure (size ≤ limits.maxSingleBytes)
    (fail .sizeLimitExceeded s!"materialized item exceeds {limits.maxSingleBytes} bytes: {ref}")
  ensure (size ≤ limits.maxTotalBytes)
    (fail .sizeLimitExceeded s!"materialized context exceeds {limits.maxTotalBytes} bytes: {ref}")

/-! ## Reading -/

/-- What a reader answers with. -/
inductive Answer where
  | raised
  | bytes (raw : Bytes)
  | other
  deriving DecidableEq

/-- `_read_source`. -/
def readSource (reader : StandardsSourceRef → Answer) (source : StandardsSourceRef) :
    Except ContextPackError Bytes :=
  match reader source with
  | .raised => .error (fail .sourceUnavailable s!"cannot read exact source {source.path} at {source.commitSha}")
  | .other => .error (fail .sourceInvalid s!"source reader returned non-bytes: {source.path}")
  | .bytes raw => .ok raw

/-- `_read_evidence`. -/
def readEvidence (reader : EvidenceRef → Answer) (reference : EvidenceRef) : Except ContextPackError Bytes :=
  match reader reference with
  | .raised => .error (fail .evidenceUnavailable s!"cannot read exact evidence {reference.ref}")
  | .other => .error (fail .evidenceInvalid s!"evidence reader returned non-bytes: {reference.ref}")
  | .bytes raw => .ok raw

/-- `text.encode("utf-8")`. -/
def encode (text : String) : Bytes := text.toList.flatMap String.utf8EncodeChar

/-- `raw.decode("utf-8")`, if it is UTF-8. -/
def decode (raw : Bytes) : Option String := String.fromUTF8? raw.toByteArray

section
variable [ByteHash]

/-- `_check_content_digest`. -/
def checkContentDigest (raw : Bytes) (expected : Digest) (code : Code) (ref : String) :
    Except ContextPackError Unit :=
  ensure (rawDigest raw = expected) (fail code
    s!"content digest mismatch for {ref}: expected {expected.value}, got {(rawDigest raw).value}")

/-! ## Materialization -/

structure MaterializedContextSource where
  source : StandardsSourceRef
  content : String
  deriving DecidableEq

structure MaterializedEvidence where
  reference : EvidenceRef
  content : Bytes
  deriving DecidableEq

/-- The bytes of a source: what the standards hold of it, or else what the reader has. -/
def sourceBytes (standards : List MaterializedInstruction) (reader : StandardsSourceRef → Answer)
    (source : StandardsSourceRef) : Except ContextPackError Bytes :=
  let held := ({} : Dict (List String) MaterializedInstruction).update
    (standards.map fun item => (sourceKey item.source, item))
  match held.get? (sourceKey source) with
  | some instruction => .ok (encode instruction.content)
  | none => readSource reader source

/-- One round of the loop over the sources. -/
def materializeSource (standards : List MaterializedInstruction) (reader : StandardsSourceRef → Answer)
    (limits : ContextPackLimits) (total : Nat) (source : StandardsSourceRef) :
    Except ContextPackError (MaterializedContextSource × Nat) := do
  let raw ← sourceBytes standards reader source
  checkContentDigest raw source.blobDigest .sourceDigestMismatch source.path
  checkSize raw.length limits source.path
  checkSize (total + raw.length) limits "total context"
  match decode raw with
  | none => .error (fail .sourceInvalid s!"source is not UTF-8 text: {source.path}")
  | some content => .ok (⟨source, content⟩, total + raw.length)

/-- One round of the loop over the evidence. -/
def materializeEvidence (reader : EvidenceRef → Answer) (limits : ContextPackLimits) (total : Nat)
    (reference : EvidenceRef) : Except ContextPackError (MaterializedEvidence × Nat) := do
  let raw ← readEvidence reader reference
  checkContentDigest raw reference.digest .evidenceDigestMismatch reference.ref
  checkSize raw.length limits reference.ref
  checkSize (total + raw.length) limits "total context"
  .ok (⟨reference, raw⟩, total + raw.length)

omit [ByteHash] in
/-- The rounds of a loop that carries the running total. -/
def rounds {ρ μ : Type} (materialize : Nat → ρ → Except ContextPackError (μ × Nat)) :
    Nat → List ρ → Except ContextPackError (List μ × Nat)
  | total, [] => .ok ([], total)
  | total, reference :: rest => do
    let made ← materialize total reference
    let later ← rounds materialize made.2 rest
    .ok (made.1 :: later.1, later.2)

structure TaskContextPack where
  standards : StandardsSessionContext
  sources : List MaterializedContextSource
  evidence : List MaterializedEvidence
  inventory : Json
  inventoryDigest : Digest
  deriving DecidableEq

structure ContextPackBuilder where
  sourceReader : StandardsSourceRef → Answer
  evidenceReader : EvidenceRef → Answer
  limits : ContextPackLimits

def contextPackProtocol : String := "dw.taskcontroller.context-pack/v1"

def inventoryOf (context : StandardsSessionContext) (sources : List StandardsSourceRef)
    (evidence : List EvidenceRef) : Json := .obj [
  ("protocol", .str contextPackProtocol), ("standards", context.receipt.toDict),
  ("source_refs", .arr (sources.map (·.toDict))), ("evidence_refs", .arr (evidence.map (·.toDict)))]

/-- The size of the instructions of a standards context. -/
def standardsBytes (context : StandardsSessionContext) : Nat :=
  (context.instructions.map fun item => (encode item.content).length).sum

/-- `ContextPackBuilder.build`. -/
def ContextPackBuilder.build (builder : ContextPackBuilder) (sourceRefs : Given StandardsSourceRef)
    (evidenceRefs : Given EvidenceRef) (standards : Option StandardsSessionContext) :
    Except ContextPackError TaskContextPack := do
  let context ← standardsContext standards
  let sources ← normalizeSources sourceRefs
  let evidence ← normalizeEvidence evidenceRefs
  ensure (sources.length ≤ builder.limits.maxSources)
    (fail .sourceLimitExceeded s!"maximum source refs is {builder.limits.maxSources}")
  ensure (evidence.length ≤ builder.limits.maxEvidence)
    (fail .evidenceLimitExceeded s!"maximum evidence refs is {builder.limits.maxEvidence}")
  checkSize (standardsBytes context) builder.limits "standards"
  let read ← rounds (materializeSource context.instructions builder.sourceReader builder.limits)
    (standardsBytes context) sources
  let proven ← rounds (materializeEvidence builder.evidenceReader builder.limits) read.2 evidence
  let inventory := inventoryOf context sources evidence
  .ok { standards := context, sources := read.1, evidence := proven.1, inventory := inventory
        inventoryDigest := rawDigest (encode inventory.canonicalText) }

end

end DwSuperApps.Source.ContextPack
