import Mathlib.Data.List.Sort
import DwSuperApps.Lib.Programs
import DwSuperApps.Source.Mailbox

/-!
# Terminal parent result

`taskcontroller/execution/terminal_result.py`: the normalization of a parent
result, the reader of a terminal envelope and the exactly-once write. A
`TerminalParentResult` is an envelope whose own normalized result is canonical,
as `from_envelope` leaves it; the builder normalizes its input before it calls
the constructor, so its values are of this form too.
-/
namespace DwSuperApps.Source.TerminalResult

open DwSuperApps.Lib DwSuperApps.Lib.Checked DwSuperApps.Lib.Programs
open DwSuperApps.Source.Envelope DwSuperApps.Source.Mailbox

/-- `TerminalResultError(code, message)`. -/
def terminalError (code message : String) : Raised := ⟨.terminalResult, code, message⟩

def invalid (message : String) : Raised := terminalError "TERMINAL_RESULT_INVALID" message

/-! ## Reading raw values -/

def text (value : Json) (field : String) : Except Raised String :=
  match value with
  | .str s => do
    ensure (strip s ≠ "") (invalid s!"{field} must be non-empty")
    ensure ('\x00' ∉ (strip s).toList) (invalid s!"{field} must not contain NUL")
    return strip s
  | _ => .error (invalid s!"{field} must be non-empty")

def identifier (value : Json) (field : String) : Except Raised String := do
  let normalized ← text value field
  ensure (isIdentifier normalized) (invalid s!"{field} must be a stable identifier")
  return normalized

def digest (value : Json) (field : String) : Except Raised String := do
  let normalized ← text value field
  ensure (isDigest normalized) (invalid s!"{field} must be sha256:<64 lowercase hex>")
  return normalized

/-- `_mapping` of a parsed value. -/
def mapping (value : Json) (field : String) : Except Raised (List (String × Json)) :=
  match value with
  | .obj members => .ok members
  | _ => .error (invalid s!"{field} must be an object or to_dict() value")

/-- `sorted(set(items))`. -/
def sortedSet (items : List String) : List String := items.dedup.insertionSort (· ≤ ·)

def textTuple (value : Json) (field : String) (allowEmpty : Bool := true) :
    Except Raised (List String) := do
  let values ← (match value with
    | .null => .ok []
    | .arr items => .ok items
    | _ => .error (invalid s!"{field} must be an array"))
  ensure (allowEmpty ∨ values ≠ []) (invalid s!"{field} must not be empty")
  let items ← values.mapM fun item => text item s!"{field} item"
  return sortedSet items

/-! ### Raw context -/

def forbiddenContextKeys : List String :=
  ["chat", "chat_history", "conversation", "conversation_history", "messages", "prompt",
    "raw_chat", "raw_output", "raw_transcript", "transcript"]

/-- The folding of one character as far as its result is ASCII. Every other
character folds to a text with a character outside ASCII. -/
def casefoldChar (c : Char) : List Char :=
  if 'A' ≤ c ∧ c ≤ 'Z' then [Char.ofNat (c.toNat + 32)]
  else match c.toNat with
  | 0xdf => ['s', 's']
  | 0x17f => ['s']
  | 0x1e9e => ['s', 's']
  | 0x212a => ['k']
  | 0xfb00 => ['f', 'f']
  | 0xfb01 => ['f', 'i']
  | 0xfb02 => ['f', 'l']
  | 0xfb03 => ['f', 'f', 'i']
  | 0xfb04 => ['f', 'f', 'l']
  | 0xfb05 => ['s', 't']
  | 0xfb06 => ['s', 't']
  | _ => [c]

def casefold (s : String) : String := String.ofList (s.toList.flatMap casefoldChar)

mutual
/-- `_reject_raw_context`. -/
def rejectRawContext (path : String) : Json → Except Raised Unit
  | .obj members => rejectRawMembers path members
  | .arr items => rejectRawItems path 0 items
  | _ => .ok ()
def rejectRawMembers (path : String) : List (String × Json) → Except Raised Unit
  | [] => .ok ()
  | (key, nested) :: rest => do
    ensure (casefold key ∉ forbiddenContextKeys)
      (terminalError "TERMINAL_RAW_CONTEXT_FORBIDDEN" s!"{path}.{key} is not canonical evidence")
    rejectRawContext s!"{path}.{key}" nested
    rejectRawMembers path rest
def rejectRawItems (path : String) : Nat → List Json → Except Raised Unit
  | _, [] => .ok ()
  | index, nested :: rest => do
    rejectRawContext s!"{path}[{index}]" nested
    rejectRawItems path (index + 1) rest
end

/-! ## Normalization -/

/-- `finding_id` as a sort key. -/
def stringOf : Json → String
  | .str s => s
  | _ => ""

def normalizeFinding (entry : Json × Nat) : Except Raised (List (String × Json)) := do
  let (item, index) := entry
  let finding ← mapping item s!"findings[{index}]"
  let _ ← identifier (Json.get finding "finding_id") s!"findings[{index}].finding_id"
  let refs ← textTuple (Json.get finding "evidence_refs") s!"findings[{index}].evidence_refs" false
  return Json.setMember "evidence_refs" (texts refs) finding

/-- Order by finding id, then by canonical bytes. -/
def findingLe (a b : List (String × Json)) : Prop :=
  let idA := stringOf (Json.get a "finding_id")
  let idB := stringOf (Json.get b "finding_id")
  idA < idB ∨ idA = idB ∧ (Json.obj a).canonicalText ≤ (Json.obj b).canonicalText

instance : DecidableRel findingLe := fun a b => by unfold findingLe; infer_instance

def normalizeFindings (value : Json) : Except Raised (List (List (String × Json))) :=
  match value with
  | .null => .ok []
  | .arr items => do
    let normalized ← items.zipIdx.mapM normalizeFinding
    return normalized.insertionSort findingLe
  | _ => .error (invalid "normalized_parent_result.findings must be an array")

def normalizeChild (item : Json) (index : Nat) (seen : List String) :
    Except Raised (String × List (String × Json)) := do
  let field (name : String) : String := s!"child_provenance[{index}].{name}"
  let child ← mapping item s!"child_provenance[{index}]"
  let childId ← identifier (Json.get child "child_id") (field "child_id")
  ensure (childId ∉ seen) (terminalError "TERMINAL_CHILD_PROVENANCE_INVALID"
    s!"duplicate child_id {Json.reprString childId}")
  let reported := (Json.member child "result_digest").getD (Json.get child "normalization_digest")
  let resultDigest ← digest reported (field "result_digest")
  let child := Json.setMember "result_digest" (.str resultDigest)
    (Json.setMember "child_id" (.str childId) child)
  let child ← (match Json.member child "normalization_digest" with
    | some value => do
      let d ← digest value (field "normalization_digest")
      return Json.setMember "normalization_digest" (.str d) child
    | none => .ok child)
  match Json.get child "status" with
  | .null => return (childId, child)
  | status => do
    let status ← text status (field "status")
    return (childId, Json.setMember "status" (.str status) child)

/-- The children in order, with the ids seen so far. -/
def normalizeChildren : Nat → List String → List Json →
    Except Raised (List (String × List (String × Json)))
  | _, _, [] => .ok []
  | index, seen, item :: rest => do
    let child ← normalizeChild item index seen
    let others ← normalizeChildren (index + 1) (child.1 :: seen) rest
    return child :: others

def childProvenanceRequired (message : String) : Raised :=
  terminalError "TERMINAL_CHILD_PROVENANCE_REQUIRED" message

def normalizeChildProvenance (value : Json) (allowEmpty : Bool) :
    Except Raised (List (String × List (String × Json))) :=
  match value with
  | .null =>
    if allowEmpty then .ok []
    else .error (childProvenanceRequired "child provenance must be a non-empty array")
  | .arr items => do
    let normalized ← normalizeChildren 0 [] items
    ensure (normalized ≠ [] ∨ allowEmpty)
      (childProvenanceRequired "child provenance must not be empty")
    return normalized.insertionSort fun a b => a.1 ≤ b.1
  | _ => .error (childProvenanceRequired "child provenance must be an array")

section
variable [Sha256]

/-- `_canonical_result_digest`. -/
def canonicalResultDigest (members : List (String × Json)) : Digest :=
  canonicalDigest (.obj (Json.dropMember "result_digest" members))

def normalizeParentResult (value : Json) (allowEmptyChildProvenance : Bool) :
    Except Raised (List (String × Json)) := do
  let candidate ← mapping value "normalized_parent_result"
  rejectRawContext "normalized_parent_result" (.obj candidate)
  let findings ← normalizeFindings (Json.get candidate "findings")
  let reported := (Json.member candidate "child_refs").getD (Json.get candidate "child_provenance")
  let children ← normalizeChildProvenance reported allowEmptyChildProvenance
  let childRefs : Json := .arr (children.map fun c => .obj c.2)
  let candidate := Json.setMember "findings" (.arr (findings.map .obj)) candidate
  let candidate := Json.setMember "child_refs" childRefs candidate
  let candidate := Json.setMember "child_provenance" childRefs candidate
  let candidate := Json.setMember "child_result_digests"
    (.arr (children.map fun c => Json.get c.2 "result_digest")) candidate
  let risks ← textTuple (Json.get candidate "residual_risks") "residual_risks"
  let questions ← textTuple (Json.get candidate "unresolved_questions") "unresolved_questions"
  let candidate := Json.setMember "residual_risks" (texts risks) candidate
  let candidate := Json.setMember "unresolved_questions" (texts questions) candidate
  let decision ← mapping (Json.get candidate "controller_decision") "controller_decision"
  let refs ← textTuple (Json.get decision "evidence_refs") "controller_decision.evidence_refs" false
  let decision := Json.setMember "evidence_refs" (texts refs) decision
  let candidate := Json.setMember "controller_decision" (.obj decision) candidate
  -- `child_provenance` is an alias of `child_refs` and does not alter the identity.
  let computed := canonicalResultDigest (Json.dropMember "child_provenance" candidate)
  (match Json.get candidate "result_digest" with
    | .null => pure ()
    | supplied => do
      let supplied ← digest supplied "result_digest"
      ensure (supplied = computed.value) (terminalError "TERMINAL_RESULT_DIGEST_MISMATCH"
        "normalized parent result digest is not canonical"))
  return Json.setMember "result_digest" (.str computed.value) candidate

/-! ## Terminal results -/

/-- The constructor's checks on the envelope and the result in its payload. -/
def readNormalized (envelope : V2MailboxEnvelope) : Except Raised (List (String × Json)) := do
  let normalized ← normalizeParentResult (Json.get envelope.payload "normalized_parent_result")
    (envelope.logicalContract.scope.maxChildren = 0)
  ensure (envelope.messageType = .terminalResult) (invalid "envelope is not a terminal_result")
  ensure (envelope.direction = .executorToController)
    (invalid "terminal result must flow executor_to_controller")
  ensure (envelope.resultMember "result_digest" = Json.member normalized "result_digest")
    (terminalError "TERMINAL_RESULT_DIGEST_MISMATCH"
      "envelope and normalized result digest differ")
  ensure (envelope.resultMember "boundary_digest" =
      some (.str envelope.executionIdentity.boundaryDigest))
    (terminalError "TERMINAL_BOUNDARY_MISMATCH" "terminal result boundary is not current")
  ensure (Json.same (Json.get envelope.payload "normalized_parent_result") (.obj normalized))
    (terminalError "TERMINAL_RESULT_DIGEST_MISMATCH" "terminal payload is not canonical")
  ensure (Json.same (Json.get envelope.payload "child_provenance")
      (Json.get normalized "child_provenance"))
    (terminalError "TERMINAL_CHILD_PROVENANCE_INVALID"
      "terminal child provenance is not canonical")
  return normalized

structure TerminalParentResult where
  envelope : V2MailboxEnvelope
  normalizedResult : List (String × Json)
  checked : readNormalized envelope = .ok normalizedResult
  deriving DecidableEq

namespace TerminalParentResult

def fromEnvelope (envelope : V2MailboxEnvelope) : Except Raised TerminalParentResult :=
  match h : readNormalized envelope with
  | .error e => .error e
  | .ok normalized => .ok ⟨envelope, normalized, h⟩

/-- `envelope.to_dict()["result"]["result_digest"]`. -/
def resultDigest (t : TerminalParentResult) : Json :=
  (t.envelope.resultMember "result_digest").getD .null

end TerminalParentResult

/-! ## Readback -/

def readbackMismatch (message : String) : Raised :=
  terminalError "TERMINAL_READBACK_MISMATCH" message

def eventForReceipt (snapshot : MailboxSnapshot) (receipt : WriteReceipt) :
    Except Raised MailboxEvent := do
  ensure (snapshot.mailboxRef = receipt.mailboxRef)
    (readbackMismatch "readback mailbox reference differs")
  match snapshot.events.find? (·.eventId = receipt.eventId) with
  | none => .error (readbackMismatch "receipt event is absent from readback")
  | some event =>
    ensure (event.eventSeq = receipt.eventSeq ∧ event.envelopeDigest = receipt.envelopeDigest ∧
        event.eventDigest = receipt.eventDigest)
      (readbackMismatch "receipt does not exactly bind readback event")
    return event

def verifyTerminalResultReadback (expected : TerminalParentResult) (snapshot : MailboxSnapshot)
    (receipt : WriteReceipt) : Except Raised TerminalParentResult := do
  let event ← eventForReceipt snapshot receipt
  let consumed ← TerminalParentResult.fromEnvelope event.envelope
  ensure (Json.same consumed.envelope.toDict expected.envelope.toDict)
    (readbackMismatch "Controller readback differs from terminal write")
  return consumed

/-- `_receipt_from_event`. -/
def receiptFromEvent (event : MailboxEvent) : WriteReceipt := receiptOf event true

/-! ## The write -/

/-- A terminal result of the same run, node and execution identity. -/
def isSameExecution (terminal : TerminalParentResult) (event : MailboxEvent) : Prop :=
  event.envelope.messageType = .terminalResult ∧
  event.envelope.runId = terminal.envelope.runId ∧
  event.envelope.nodeId = terminal.envelope.nodeId ∧
  event.envelope.executionIdentity = terminal.envelope.executionIdentity

instance (terminal : TerminalParentResult) (event : MailboxEvent) :
    Decidable (isSameExecution terminal event) := by unfold isSameExecution; infer_instance

def resultConflict : Raised :=
  terminalError "TERMINAL_RESULT_CONFLICT"
    "a different terminal result already exists for the current execution identity"

/-- A program of mailbox operations. -/
abbrev MailboxProg := Prog InMemoryMailboxRepository Raised

/-- An equal stored result is confirmed by its readback, another one is a conflict. -/
def reconcileEvent (terminal : TerminalParentResult) (event : MailboxEvent) :
    MailboxProg (Option (WriteReceipt × TerminalParentResult)) := do
  let existing ← TerminalParentResult.fromEnvelope event.envelope
  if existing.resultDigest = terminal.resultDigest then
    let receipt := receiptFromEvent event
    let snapshot ← Prog.observe (·.exactReadback receipt)
    let consumed ← verifyTerminalResultReadback existing snapshot receipt
    return some (receipt, consumed)
  else Prog.done (.error resultConflict)

/-- The loop ends at its first event of the same execution. -/
def reconcileIn (terminal : TerminalParentResult) (snapshot : MailboxSnapshot) :
    MailboxProg (Option (WriteReceipt × TerminalParentResult)) :=
  match snapshot.events.find? (isSameExecution terminal) with
  | none => return none
  | some event => reconcileEvent terminal event

/-- `_reconcile_existing_terminal`. -/
def reconcileExistingTerminal (mailboxRef : String) (terminal : TerminalParentResult) :
    MailboxProg (Option (WriteReceipt × TerminalParentResult)) := do
  let snapshot ← Prog.observe (·.read mailboxRef)
  reconcileIn terminal snapshot

/-- What the guarded part of the write leaves. -/
inductive Written where
  | existing (receipt : WriteReceipt) (consumed : TerminalParentResult)
  | appended (receipt : WriteReceipt) (snapshot : MailboxSnapshot)

/-- The compare-and-swap append and its readback. -/
def appendTerminal (mailboxRef : String) (expectedSeq : Int) (terminal : TerminalParentResult)
    (expectedIdentity : Option (List (String × Json))) : MailboxProg Written := do
  let receipt ← Prog.operation
    (·.write mailboxRef expectedSeq terminal.envelope expectedIdentity)
  let snapshot ← Prog.observe (·.exactReadback receipt)
  return .appended receipt snapshot

/-- The body of the `try`. -/
def attemptWrite (mailboxRef : String) (expectedSeq : Int) (terminal : TerminalParentResult)
    (expectedIdentity : Option (List (String × Json))) : MailboxProg Written := do
  (match expectedIdentity with
    | some expected => Prog.done (terminal.envelope.validateCurrentIdentity expected)
    | none => pure ())
  match ← reconcileExistingTerminal mailboxRef terminal with
  | some (receipt, consumed) => return .existing receipt consumed
  | none => appendTerminal mailboxRef expectedSeq terminal expectedIdentity

/-- The `except MailboxV2ValidationError` clause: only a lost sequence race is
reconciled once more. -/
def recoverWrite (mailboxRef : String) (terminal : TerminalParentResult) (raised : Raised) :
    MailboxProg Written := do
  let rejected := terminalError "TERMINAL_WRITE_REJECTED" raised.text
  if raised.kind = .mailboxV2 then
    if raised.code = MailboxV2ErrorCode.invalidSequence.value then
      match ← reconcileExistingTerminal mailboxRef terminal with
      | some (receipt, consumed) => return .existing receipt consumed
      | none => Prog.done (.error rejected)
    else Prog.done (.error rejected)
  else Prog.done (.error raised)

/-- What follows the guarded part: an appended result is verified. -/
def finishWrite (terminal : TerminalParentResult) :
    Written → MailboxProg (WriteReceipt × TerminalParentResult)
  | .existing receipt consumed => return (receipt, consumed)
  | .appended receipt snapshot => do
    let consumed ← verifyTerminalResultReadback terminal snapshot receipt
    return (receipt, consumed)

def writeTerminalParentResult (mailboxRef : String) (expectedSeq : Int)
    (terminal : TerminalParentResult) (expectedIdentity : Option (List (String × Json)) := none) :
    MailboxProg (WriteReceipt × TerminalParentResult) := do
  let attempt := attemptWrite mailboxRef expectedSeq terminal expectedIdentity
  let written ← attempt.handle (recoverWrite mailboxRef terminal)
  finishWrite terminal written

end
end DwSuperApps.Source.TerminalResult
