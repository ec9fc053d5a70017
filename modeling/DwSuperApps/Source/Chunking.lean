import Mathlib.Data.Prod.Lex
import Mathlib.Data.String.Basic
import DwSuperApps.Lib.Checked
import DwSuperApps.Lib.Sorted
import DwSuperApps.Lib.Text

/-!
# Chunked review partitions

The partitioner and the chunk join of `taskcontroller/execution/chunking.py`, over the
source references of `taskcontroller/standards/resolver.py`.

Left out: `from_dict` and every `to_dict` that is not hashed. A source or a chunk given
as a mapping is taken as read, or as refused with the reason of the refusal.
-/
namespace DwSuperApps.Source.Chunking

open DwSuperApps.Lib DwSuperApps.Lib.Checked

abbrev Bytes : Type := List UInt8

/-- SHA-256 over raw bytes, as a number. -/
class ByteHash where
  bits : Bytes → Nat

/-- `"sha256:" + hashlib.sha256(raw).hexdigest()`. -/
def rawDigest [ByteHash] (raw : Bytes) : Digest := Digest.ofNat (ByteHash.bits raw)

inductive Code where
  | schemaInvalid | sourceRefInvalid | sourceContentInvalid | rangeInvalid | sourceVersionMismatch
  | partitionPolicyInvalid | chunkSetInvalid | digestMismatch | sourceDigestMismatch
  | chunkCountExceeded | chunkLimitExceeded | chunkSetIncomplete | chunkDigestMismatch | joinReady
  deriving DecidableEq

def Code.text : Code → String
  | .schemaInvalid => "SCHEMA_INVALID"
  | .sourceRefInvalid => "SOURCE_REF_INVALID"
  | .sourceContentInvalid => "SOURCE_CONTENT_INVALID"
  | .rangeInvalid => "RANGE_INVALID"
  | .sourceVersionMismatch => "SOURCE_VERSION_MISMATCH"
  | .partitionPolicyInvalid => "PARTITION_POLICY_INVALID"
  | .chunkSetInvalid => "CHUNK_SET_INVALID"
  | .digestMismatch => "DIGEST_MISMATCH"
  | .sourceDigestMismatch => "SOURCE_DIGEST_MISMATCH"
  | .chunkCountExceeded => "CHUNK_COUNT_EXCEEDED"
  | .chunkLimitExceeded => "CHUNK_LIMIT_EXCEEDED"
  | .chunkSetIncomplete => "CHUNK_SET_INCOMPLETE"
  | .chunkDigestMismatch => "CHUNK_DIGEST_MISMATCH"
  | .joinReady => "JOIN_READY"

/-- `ChunkPartitionError`. -/
structure Raised where
  code : Code
  message : String
  invalidatedChildIds : List String := []
  deriving DecidableEq

def fail (code : Code) (message : String) : Raised := ⟨code, s!"{code.text}: {message}", []⟩

def protocol : String := "dw.taskcontroller.chunked-review/v1"
def maxChunksLimit : Nat := 64
def maxChunkLines : Nat := 4096
def maxChunkBytes : Nat := 4 * 1024 * 1024
def maxChunkIdLength : Nat := 128

/-! ## Sources -/

/-- `[0-9a-f]{40}` or `[0-9a-f]{64}`. -/
def isCommit (value : String) : Bool :=
  (value.toList.length = 40 || value.toList.length = 64) && value.toList.all isHexChar

/-- The path is relative, with forward slashes and no unsafe part. -/
def SafePath (path : String) : Prop :=
  path ≠ "" ∧ path.toList.head? ≠ some '/' ∧ '\\' ∉ path.toList ∧ '\x00' ∉ path.toList ∧
    ∀ part ∈ path.toList.splitOn '/', String.ofList part ∉ ["", ".", ".."]

instance (path : String) : Decidable (SafePath path) := inferInstanceAs (Decidable (_ ∧ _))

/-- `StandardsSourceRef`. -/
@[ext] structure StandardsSourceRef where
  repository : String
  commitSha : String
  path : String
  blobDigest : Digest
  identified : isIdentifier repository
  commit : isCommit commitSha
  safe : SafePath path

instance : DecidableEq StandardsSourceRef := fun _ _ => decidable_of_iff _ StandardsSourceRef.ext_iff.symm

/-- `_source_identity`. -/
def StandardsSourceRef.identity (s : StandardsSourceRef) : String × String × String × Digest :=
  (s.repository, s.commitSha, s.path, s.blobDigest)

def StandardsSourceRef.toDict (s : StandardsSourceRef) : Json := .obj [
  ("repository", .str s.repository), ("commit_sha", .str s.commitSha), ("path", .str s.path),
  ("blob_digest", .str s.blobDigest.value)]

/-- An input that may be given as a mapping. -/
inductive Reading (α : Type) where
  | read (value : α)
  | refused (reason : String)
  deriving DecidableEq

/-- `_source`. -/
def sourceOf : Reading StandardsSourceRef → Except Raised StandardsSourceRef
  | .read source => .ok source
  | .refused reason => .error (fail .sourceRefInvalid reason)

inductive Content where
  | text (value : String)
  | bytes (value : Bytes)
  | other
  deriving DecidableEq

/-- `_raw_bytes`. -/
def rawBytes : Content → Except Raised Bytes
  | .text value => .ok (value.toList.flatMap String.utf8EncodeChar)
  | .bytes value => .ok value
  | .other => .error (fail .sourceContentInvalid "source content must be UTF-8 text or bytes")

/-- `raw.splitlines(keepends=True)`: a line ends behind `\n`, `\r` or `\r\n`. -/
def splitLines : Bytes → List Bytes
  | [] => []
  | 10 :: rest => [10] :: splitLines rest
  | 13 :: 10 :: rest => [13, 10] :: splitLines rest
  | 13 :: rest => [13] :: splitLines rest
  | byte :: rest =>
    match splitLines rest with
    | [] => [[byte]]
    | line :: lines => (byte :: line) :: lines

/-! ## Chunks -/

/-- An inclusive line range and a half-open byte range. -/
structure ChunkRange where
  lineStart : Nat
  lineEnd : Nat
  byteStart : Nat
  byteEnd : Nat
  ordered : 1 ≤ lineStart ∧ lineStart ≤ lineEnd
  nonempty : byteStart < byteEnd
  deriving DecidableEq

namespace ChunkRange

/-- `__post_init__`. -/
def make (lineStart lineEnd byteStart byteEnd : Nat) : Except Raised ChunkRange :=
  if lines : lineStart < 1 ∨ lineEnd < lineStart then
    .error (fail .rangeInvalid "line range must be one-based and ordered")
  else if bytes : byteEnd ≤ byteStart then
    .error (fail .rangeInvalid "byte range must be non-empty and ordered")
  else .ok ⟨lineStart, lineEnd, byteStart, byteEnd, by omega, by omega⟩

def toDict (r : ChunkRange) : Json := .obj [
  ("line_start", .int r.lineStart), ("line_end", .int r.lineEnd),
  ("byte_start", .int r.byteStart), ("byte_end", .int r.byteEnd)]

end ChunkRange

/-- A text `_require_identifier` accepts. -/
def StableId (value : String) (maxBytes : Nat) : Prop :=
  isIdentifier (strip value) ∧ utf8Bytes (strip value) ≤ maxBytes

structure ChunkRef where
  chunkId : String
  sourceRef : StandardsSourceRef
  range : ChunkRange
  contentDigest : Digest
  identified : StableId chunkId maxChunkIdLength
  deriving DecidableEq

namespace ChunkRef

/-- `source_digest`, which is the blob digest of the source. -/
def sourceDigest (c : ChunkRef) : Digest := c.sourceRef.blobDigest

/-- `sort_key`. -/
def sortKey (c : ChunkRef) : Nat ×ₗ Nat ×ₗ String :=
  toLex (c.range.byteStart, toLex (c.range.byteEnd, c.chunkId))

def toDict (c : ChunkRef) : Json := .obj [
  ("chunk_id", .str c.chunkId), ("source_ref", c.sourceRef.toDict),
  ("source_digest", .str c.sourceDigest.value), ("range", c.range.toDict),
  ("content_digest", .str c.contentDigest.value)]

end ChunkRef

/-- The first 32 hexadecimal digits of a digest. -/
def shortHex (digest : Digest) : String := String.ofList ((digest.value.toList.drop 7).take 32)

theorem chunkId_stable (digest : Digest) : StableId ("chunk-" ++ shortHex digest) maxChunkIdLength := by
  obtain ⟨-, chars⟩ := digest.chars
  have hex : ∀ c ∈ (shortHex digest).toList, isIdentifierChar c ∧ c.toNat < 128 := by
    intro c member
    rw [shortHex, String.toList_ofList] at member
    exact chars c (List.mem_of_mem_drop (List.mem_of_mem_take member))
  have identifier : isIdentifier ("chunk-" ++ shortHex digest) :=
    isIdentifier_append (by decide) fun c member => (hex c member).1
  have plain : strip ("chunk-" ++ shortHex digest) = "chunk-" ++ shortHex digest :=
    strip_of_noSpace fun c member =>
      isIdentifierChar_noSpace ((isIdentifier_chars identifier).2 c member)
  refine ⟨plain.symm ▸ identifier, plain.symm ▸ ?_⟩
  have count : (shortHex digest).toList.length ≤ 32 := by
    rw [shortHex, String.toList_ofList]
    exact List.length_take_le _ _
  rw [utf8Bytes_append, utf8Bytes, utf8Bytes,
    Digest.ascii_bytes (l := (shortHex digest).toList) fun c member => (hex c member).2]
  have lead : ("chunk-".toList.map Char.utf8Size).sum = 6 := by decide
  rw [lead, maxChunkIdLength]
  omega

/-! ## Partitions -/

/-- A positive integer with a maximum. -/
structure Bound (maximum : Nat) where
  value : Nat
  positive : 0 < value
  bounded : value ≤ maximum
  deriving DecidableEq

/-- `_positive_int`. -/
def positiveInt (value : Int) (field : String) (maximum : Nat) : Except Raised (Bound maximum) :=
  if small : value ≤ 0 then
    .error (fail .schemaInvalid s!"{field} must be a positive integer")
  else if large : maximum < value then
    .error (fail .schemaInvalid s!"{field} exceeds {maximum}")
  else .ok ⟨value.toNat, by omega, by omega⟩

def boundJson {maximum : Nat} : Option (Bound maximum) → Json
  | none => .null
  | some bound => .int bound.value

structure ChunkPartition where
  sourceRef : StandardsSourceRef
  maxLines : Option (Bound maxChunkLines)
  maxBytes : Option (Bound maxChunkBytes)
  chunks : List ChunkRef
  policy : maxLines ≠ none ∨ maxBytes ≠ none
  nonempty : chunks ≠ []
  sorted : chunks.Pairwise fun a b => a.sortKey ≤ b.sortKey
  distinct : (chunks.map (·.chunkId)).Nodup
  bound : ∀ chunk ∈ chunks, chunk.sourceRef.identity = sourceRef.identity

/-- `_payload`. -/
def payload (source : StandardsSourceRef) (maxLines : Option (Bound maxChunkLines))
    (maxBytes : Option (Bound maxChunkBytes)) (chunks : List ChunkRef) : Json := .obj [
  ("protocol", .str protocol), ("source_ref", source.toDict),
  ("source_digest", .str source.blobDigest.value), ("max_lines", boundJson maxLines),
  ("max_bytes", boundJson maxBytes), ("chunks", .arr (chunks.map (·.toDict)))]

theorem sorted_sortedBy (chunks : List ChunkRef) :
    (Sorted.sortedBy ChunkRef.sortKey chunks).Pairwise fun a b => a.sortKey ≤ b.sortKey := by
  have total : Std.Total fun a b : ChunkRef => a.sortKey ≤ b.sortKey :=
    ⟨fun a b => le_total a.sortKey b.sortKey⟩
  have trans : IsTrans ChunkRef fun a b => a.sortKey ≤ b.sortKey := ⟨fun _ _ _ => le_trans⟩
  exact List.pairwise_insertionSort _ _

namespace ChunkPartition

def sourceDigest (p : ChunkPartition) : Digest := p.sourceRef.blobDigest

/-- `partition_digest`, which is the digest of the payload. -/
def partitionDigest [Sha256] (p : ChunkPartition) : Digest :=
  canonicalDigest (payload p.sourceRef p.maxLines p.maxBytes p.chunks)

def childIds (p : ChunkPartition) : List String := p.chunks.map (·.chunkId)

/-- `__post_init__`. -/
def make [Sha256] (source : StandardsSourceRef) (maxLines : Option (Bound maxChunkLines))
    (maxBytes : Option (Bound maxChunkBytes)) (chunks : List ChunkRef) (partitionDigest : Digest) :
    Except Raised ChunkPartition :=
  let ordered := Sorted.sortedBy ChunkRef.sortKey chunks
  if policy : maxLines ≠ none ∨ maxBytes ≠ none then
    if nonempty : chunks ≠ [] then
      if distinct : (ordered.map (·.chunkId)).Nodup then
        if bound : ∀ chunk ∈ ordered, chunk.sourceRef.identity = source.identity then
          if partitionDigest = canonicalDigest (payload source maxLines maxBytes ordered) then
            .ok {
              sourceRef := source, maxLines, maxBytes, chunks := ordered, policy, distinct, bound
              nonempty := by
                have perm : ordered.Perm chunks := Sorted.perm_sortedBy
                intro empty
                rw [empty] at perm
                exact nonempty (List.nil_perm.mp perm)
              sorted := sorted_sortedBy chunks }
          else .error (fail .digestMismatch "partition digest does not match canonical bytes")
        else .error (fail .sourceVersionMismatch "partition contains a different source version")
      else .error (fail .chunkSetInvalid "partition chunk IDs must be unique")
    else .error (fail .chunkSetInvalid "partition must contain at least one chunk")
  else .error (fail .partitionPolicyInvalid "at least one chunk bound is required")

end ChunkPartition

/-! ## The partitioner -/

structure ChunkPartitioner where
  maxLines : Option (Bound maxChunkLines)
  maxBytes : Option (Bound maxChunkBytes)
  maxChunks : Bound maxChunksLimit
  policy : maxLines ≠ none ∨ maxBytes ≠ none
  deriving DecidableEq

namespace ChunkPartitioner

/-- `_positive_int` of a bound that may be left out. -/
def optionalBound (value : Option Int) (field : String) (maximum : Nat) :
    Except Raised (Option (Bound maximum)) :=
  match value with
  | none => .ok none
  | some value => (positiveInt value field maximum).map some

/-- `__init__`. -/
def make (maxLines maxBytes : Option Int) (maxChunks : Int) : Except Raised ChunkPartitioner := do
  ensure (maxLines ≠ none ∨ maxBytes ≠ none)
    (fail .partitionPolicyInvalid "at least one chunk bound is required")
  let lines ← optionalBound maxLines "max_lines" maxChunkLines
  let bytes ← optionalBound maxBytes "max_bytes" maxChunkBytes
  let chunks ← positiveInt maxChunks "max_chunks" maxChunksLimit
  if policy : lines ≠ none ∨ bytes ≠ none then
    .ok { maxLines := lines, maxBytes := bytes, maxChunks := chunks, policy }
  else .error (fail .partitionPolicyInvalid "at least one chunk bound is required")

/-- The variables of the loop over the lines. -/
structure Pass where
  chunks : List ChunkRef := []
  pending : List Bytes := []
  pendingStartLine : Nat := 1
  pendingStartByte : Nat := 0
  currentByte : Nat := 0
  deriving DecidableEq

variable [Sha256] [ByteHash]

/-- The identity of a chunk: the hash of its source, range and content. -/
def chunkIdOf (source : StandardsSourceRef) (range : ChunkRange) (contentDigest : Digest) : String :=
  "chunk-" ++ shortHex (canonicalDigest (.obj [("protocol", .str protocol),
    ("source_ref", source.toDict), ("range", range.toDict),
    ("content_digest", .str contentDigest.value)]))

/-- The chunk of a text at a range. -/
def chunkOf (source : StandardsSourceRef) (range : ChunkRange) (text : Bytes) : ChunkRef where
  chunkId := chunkIdOf source range (rawDigest text)
  sourceRef := source
  range := range
  contentDigest := rawDigest text
  identified := chunkId_stable _

/-- `emit`. -/
def emit (p : ChunkPartitioner) (source : StandardsSourceRef) (pass : Pass) (endLine endByte : Nat) :
    Except Raised (List ChunkRef) :=
  if pass.pending = [] then .ok pass.chunks
  else do
    let range ← ChunkRange.make pass.pendingStartLine endLine pass.pendingStartByte endByte
    let chunks := pass.chunks ++ [chunkOf source range pass.pending.flatten]
    ensure (chunks.length ≤ p.maxChunks.value)
      (fail .chunkCountExceeded s!"partition exceeds max_chunks={p.maxChunks.value}")
    return chunks

/-- One more line would put the pending lines over a bound. -/
def WouldExceed (p : ChunkPartitioner) (pending : List Bytes) (unit : Bytes) : Prop :=
  (∃ bound ∈ p.maxLines, bound.value ≤ pending.length) ∨
    ∃ bound ∈ p.maxBytes, pending ≠ [] ∧ bound.value < pending.flatten.length + unit.length

instance (p : ChunkPartitioner) (pending : List Bytes) (unit : Bytes) :
    Decidable (p.WouldExceed pending unit) :=
  inferInstanceAs (Decidable (_ ∨ _))

/-- The check of one line against the byte bound. -/
def checkLine (p : ChunkPartitioner) (unit : Bytes) (index : Nat) : Except Raised Unit :=
  match p.maxBytes with
  | none => .ok ()
  | some bound =>
    ensure (unit.length ≤ bound.value)
      (fail .chunkLimitExceeded s!"line {index} exceeds max_bytes={bound.value}")

/-- The body of the loop, for a line and its number. -/
def step (p : ChunkPartitioner) (source : StandardsSourceRef) (pass : Pass) (line : Bytes × Nat) :
    Except Raised Pass := do
  let (unit, index) := line
  p.checkLine unit index
  let pass ←
    if pass.pending ≠ [] ∧ p.WouldExceed pass.pending unit then do
      let chunks ← p.emit source pass (index - 1) pass.currentByte
      pure { pass with
        chunks, pending := [], pendingStartLine := index, pendingStartByte := pass.currentByte }
    else pure pass
  return { pass with
    pending := pass.pending ++ [unit], currentByte := pass.currentByte + unit.length }

/-- The chunks of the lines. -/
def chunksOf (p : ChunkPartitioner) (source : StandardsSourceRef) (units : List Bytes) :
    Except Raised (List ChunkRef) := do
  let pass ← (units.zipIdx 1).foldlM (p.step source) {}
  p.emit source pass units.length pass.currentByte

/-- `partition`. -/
def partition (p : ChunkPartitioner) (source : Reading StandardsSourceRef) (content : Content) :
    Except Raised ChunkPartition := do
  let boundSource ← sourceOf source
  let raw ← rawBytes content
  ensure (rawDigest raw = boundSource.blobDigest) (fail .sourceDigestMismatch
    s!"expected {boundSource.blobDigest.value}, got {(rawDigest raw).value}")
  ensure (raw ≠ [])
    (fail .sourceContentInvalid "empty source cannot produce review chunks")
  let chunks ← p.chunksOf boundSource (splitLines raw)
  ChunkPartition.make boundSource p.maxLines p.maxBytes chunks
    (canonicalDigest (payload boundSource p.maxLines p.maxBytes chunks))

/-- `partition_chunks`. -/
def partitionChunks (source : Reading StandardsSourceRef) (content : Content)
    (maxLines maxBytes : Option Int) (maxChunks : Int) : Except Raised ChunkPartition := do
  let p ← make maxLines maxBytes maxChunks
  p.partition source content

end ChunkPartitioner

/-! ## The chunk join -/

inductive ChunkJoinStatus where
  | ready | blocked
  deriving DecidableEq

structure ChunkJoinDecision where
  status : ChunkJoinStatus
  reasonCode : Code
  manifestDigest : Digest
  normalizedChunks : List ChunkRef := []
  invalidatedChildIds : List String := []
  deriving DecidableEq

section Join
variable [Sha256] [ByteHash]

/-- `_join_blocked`. -/
def joinBlocked (p : ChunkPartition) (reason : Code) (normalized : List ChunkRef) :
    ChunkJoinDecision where
  status := .blocked
  reasonCode := reason
  manifestDigest := p.partitionDigest
  normalizedChunks := Sorted.sortedBy ChunkRef.sortKey normalized
  invalidatedChildIds := p.childIds

/-- The current source is another one. The content is read with a source only. -/
def sourceChanged (p : ChunkPartition) (currentSource : Option (Reading StandardsSourceRef))
    (currentContent : Option Content) : Except Raised Bool :=
  match currentSource with
  | none => .ok false
  | some given => do
    let candidate ← sourceOf given
    if candidate.identity ≠ p.sourceRef.identity then return true
    match currentContent with
    | none => return false
    | some content => do
      let raw ← rawBytes content
      return decide (rawDigest raw ≠ p.sourceDigest)

/-- The chunks as `ChunkRef`s, unless one is refused. -/
def readChunks : List (Reading ChunkRef) → Option (List ChunkRef)
  | [] => some []
  | .refused _ :: _ => none
  | .read chunk :: rest => (readChunks rest).map (chunk :: ·)

/-- `expected[chunk_id]`. -/
def expected (p : ChunkPartition) (chunkId : String) : Option ChunkRef :=
  p.chunks.find? (·.chunkId = chunkId)

/-- The decision about chunks that could be read. -/
def joinReceived (p : ChunkPartition) (received : List ChunkRef) : ChunkJoinDecision :=
  let receivedIds := received.map (·.chunkId)
  if ¬ receivedIds.Nodup then joinBlocked p .chunkSetInvalid received
  else if ∃ chunk ∈ received, chunk.sourceRef.identity ≠ p.sourceRef.identity then
    joinBlocked p .sourceVersionMismatch received
  else if ¬ (receivedIds ⊆ p.childIds ∧ p.childIds ⊆ receivedIds) then
    joinBlocked p (if receivedIds ⊆ p.childIds then .chunkSetIncomplete else .chunkSetInvalid)
      received
  else if ∃ chunk ∈ received, expected p chunk.chunkId ≠ some chunk then
    joinBlocked p .chunkDigestMismatch received
  else {
    status := .ready
    reasonCode := .joinReady
    manifestDigest := p.partitionDigest
    normalizedChunks := Sorted.sortedBy ChunkRef.sortKey received }

/-- `join`; chunks that are a text, a mapping or no sequence are `none`. -/
def join (p : ChunkPartition) (chunks : Option (List (Reading ChunkRef)))
    (currentSource : Option (Reading StandardsSourceRef)) (currentContent : Option Content) :
    Except Raised ChunkJoinDecision := do
  if ← sourceChanged p currentSource currentContent then
    return joinBlocked p .sourceVersionMismatch []
  match chunks.bind readChunks with
  | none => return joinBlocked p .chunkSetInvalid []
  | some received => return joinReceived p received

/-- `require_joinable`. -/
def requireJoinable (p : ChunkPartition) (chunks : Option (List (Reading ChunkRef)))
    (currentSource : Option (Reading StandardsSourceRef)) (currentContent : Option Content) :
    Except Raised ChunkJoinDecision := do
  let decision ← join p chunks currentSource currentContent
  if decision.status = .ready then return decision
  else .error { fail decision.reasonCode "chunked review join is blocked" with
    invalidatedChildIds := decision.invalidatedChildIds }

end Join

end DwSuperApps.Source.Chunking
