import DwSuperApps.Lib.Checked
import DwSuperApps.Lib.Occurrence
import DwSuperApps.Source.Routing

/-!
# Peer communication

`taskcontroller/interaction/communication_v2.py`: readable messages of the peers as
comments, and the sequence numbers of a run read back from a history of comments. `str`
and `int` refuse a numeral of more than 4300 digits.
-/
namespace DwSuperApps.Source.Communication

open DwSuperApps.Lib DwSuperApps.Lib.Checked DwSuperApps.Lib.Occurrence
open DwSuperApps.Source.Routing (decimalValue readInt)

inductive ErrorClass where
  | validation | valueError
  deriving DecidableEq

structure Raised where
  kind : ErrorClass
  message : String
  deriving DecidableEq

def invalid (message : String) : Raised := ⟨.validation, message⟩

inductive Kind where
  | command | report | correction | ack
  deriving DecidableEq

def Kind.value : Kind → String
  | .command => "COMMAND"
  | .report => "REPORT"
  | .correction => "CORRECTION"
  | .ack => "ACK"

/-- The alternatives of the header pattern. -/
def kinds : List Kind := [.command, .report, .correction, .ack]

def maxText : Nat := 4000

def marker : List Char := "<!-- dw.taskcontroller.communication/v2 -->".toList

/-! ## Messages -/

structure Fields where
  run : String
  seq : Nat
  sender : String
  recipient : String
  kind : Kind
  goal : String
  nextAction : String
  evidence : String := "none"
  sourceRef : String := "none"
  replyTo : String := "none"
  deriving DecidableEq

/-- `_valid`. -/
def validField (label value : String) : Except Raised Unit :=
  ensure (strip value ≠ "" ∧ '\n' ∉ value.toList ∧ '\r' ∉ value.toList)
    (invalid s!"invalid communication field: {label}")

def validBody (label value : String) : Except Raised Unit :=
  ensure (strip value ≠ "" ∧ value.length ≤ maxText)
    (invalid s!"invalid communication body: {label}")

/-- `__post_init__`. -/
def Fields.check (m : Fields) : Except Raised Unit := do
  validField "run" m.run
  validField "sender" m.sender
  validField "recipient" m.recipient
  validField "source_ref" m.sourceRef
  validField "reply_to" m.replyTo
  ensure (1 ≤ m.seq) (invalid "communication seq must be positive int")
  ensure (m.sender ≠ m.recipient) (invalid "invalid kind or sender/recipient")
  validBody "goal" m.goal
  validBody "next_action" m.nextAction
  validBody "evidence" m.evidence

structure CommunicationV2 extends Fields where
  checked : toFields.check = .ok ()

/-- The constructor. -/
def construct (m : Fields) : Except Raised CommunicationV2 :=
  match checked : m.check with
  | .ok () => .ok ⟨m, checked⟩
  | .error e => .error e

/-! ## Rendering -/

def goalMark : List Char := "\n\n**GOAL**\n".toList

def nextMark : List Char := "\n\n**NEXT**\n".toList

def evidenceMark : List Char := "\n\n**EVIDENCE**\n".toList

/-- `"### A2A v2 · … #"`. -/
def headerStart (kind : Kind) : List Char := "### A2A v2 · ".toList ++ kind.value.toList ++ " #".toList

/-- The decimal numeral of a sequence number. -/
def numeral (seq : Nat) : List Char := (toString seq).toList

/-- The lines above the sections. -/
def headerLines (m : Fields) : List (List Char) := [
  marker,
  headerStart m.kind ++ numeral m.seq,
  "run: ".toList ++ m.run.toList,
  "seq: ".toList ++ numeral m.seq,
  "from: ".toList ++ m.sender.toList,
  "to: ".toList ++ m.recipient.toList,
  "kind: ".toList ++ m.kind.value.toList,
  "source_ref: ".toList ++ m.sourceRef.toList,
  "reply_to: ".toList ++ m.replyTo.toList]

/-- The sections, each behind its mark. -/
def sections (m : Fields) : List Char :=
  goalMark ++ (strip m.goal).toList ++ (nextMark ++ (strip m.nextAction).toList ++
    (evidenceMark ++ ((strip m.evidence).toList ++ ['\n'])))

/-- Lines with a line feed between them. -/
def joinLines : List (List Char) → List Char
  | [] => []
  | [line] => line
  | line :: rest => line ++ '\n' :: joinLines rest

def renderedText (m : Fields) : String :=
  String.ofList (joinLines (headerLines m) ++ sections m)

def CommunicationV2.render (m : CommunicationV2) : Except Raised String :=
  if (numeral m.seq).length > 4300 then
    .error ⟨.valueError, "Exceeds the limit (4300 digits) for integer string conversion"⟩
  else .ok (renderedText m.toFields)

/-! ## Lines -/

/-- The characters `str.splitlines` ends a line at. -/
def isLineBoundary (c : Char) : Bool :=
  (10 ≤ c.toNat && c.toNat ≤ 13) || (28 ≤ c.toNat && c.toNat ≤ 30) || c.toNat == 0x85 ||
    c.toNat == 0x2028 || c.toNat == 0x2029

/-- `text.splitlines()`. -/
def splitLines : List Char → List (List Char)
  | [] => []
  | '\r' :: '\n' :: rest => [] :: splitLines rest
  | c :: rest =>
    if isLineBoundary c then [] :: splitLines rest
    else
      match splitLines rest with
      | [] => [[c]]
      | line :: lines =>
        -- the rest of the line is the first one, unless a boundary follows at once
        (c :: line) :: lines

/-! ## Parsing -/

/-- The names of `FIELD_RE`. -/
def fieldNames : List String := ["run", "seq", "from", "to", "kind", "source_ref", "reply_to"]

/-- What stands behind a beginning. -/
def behind (front line : List Char) : Option (List Char) :=
  if front <+: line then some (line.drop front.length) else none

/-- `FIELD_RE.fullmatch`: no name with its colon begins another one. -/
def matchField (line : List Char) : Option (String × List Char) :=
  fieldNames.findSome? fun name =>
    (behind (name.toList ++ ": ".toList) line).bind fun value =>
      if value ≠ [] ∧ '\n' ∉ value then some (name, value) else none

/-- The loop over the field lines. -/
def readHeader (header : List (String × List Char)) :
    List (List Char) → Except Raised (List (String × List Char))
  | [] => .ok header
  | line :: rest =>
    match matchField line with
    | none => .error (invalid "malformed communication fields")
    | some (name, value) =>
      if name ∈ header.map Prod.fst then .error (invalid "malformed communication fields")
      else readHeader (header ++ [(name, value)]) rest

/-- The pattern of the second line. -/
def matchHeader (line : List Char) : Option (Kind × List Char) :=
  kinds.findSome? fun kind =>
    (behind (headerStart kind) line).bind fun digits =>
      if digits ≠ [] ∧ digits.all fun c => (decimalValue c).isSome then some (kind, digits) else none

/-- `(.*?)\n?\Z`. -/
def dropLineFeed (l : List Char) : List Char :=
  if l.getLast? = some '\n' then l.dropLast else l

/-- The three groups of the section pattern: each lazy group ends at the first place its
mark stands at; behind a later place there is only less to match. -/
def matchSections (text : List Char) : Option (List Char × List Char × List Char) := do
  let (_, fromGoal) ← splitFirst goalMark text
  let (goal, fromNext) ← splitFirst nextMark fromGoal
  let (nextAction, fromEvidence) ← splitFirst evidenceMark fromNext
  return (goal, nextAction, dropLineFeed fromEvidence)

/-- A field of the header. -/
def headerText (header : List (String × List Char)) (name : String) : String :=
  String.ofList ((header.lookup name).getD [])

/-- The lines and sections of a text with one marker. -/
def parseMarked (text : List Char) : Except Raised CommunicationV2 := do
  let lines := splitLines text
  ensure (17 ≤ lines.length ∧ lines.head? = some marker)
    (invalid "malformed communication header")
  let header ← readHeader [] ((lines.drop 2).take 7)
  ensure (∀ name ∈ fieldNames, name ∈ header.map Prod.fst) (invalid "missing communication field")
  match matchHeader ((lines.drop 1).headD []) with
  | none => .error (invalid "communication header identity mismatch")
  | some (kind, digits) => do
    ensure (headerText header "kind" = kind.value ∧ headerText header "seq" = String.ofList digits)
      (invalid "communication header identity mismatch")
    match matchSections text with
    | none => .error (invalid "malformed communication sections")
    | some (goal, nextAction, evidence) => do
      let seq ← (readInt digits).mapError fun e => ⟨.valueError, e.message⟩
      construct {
        seq, kind
        run := headerText header "run"
        sender := headerText header "from"
        recipient := headerText header "to"
        sourceRef := headerText header "source_ref"
        replyTo := headerText header "reply_to"
        goal := String.ofList goal
        nextAction := String.ofList nextAction
        evidence := String.ofList evidence }

def parse (text : String) : Except Raised (Option CommunicationV2) :=
  match splitFirst marker text.toList with
  | none => .ok none
  | some (_, rest) =>
    if marker <:+: rest then .error (invalid "duplicate communication marker")
    else (parseMarked text.toList).map some

/-! ## Histories -/

/-- The loop of `next_seq`. -/
def nextSeqFrom (run : String) (expected : Nat) : List String → Except Raised Nat
  | [] => .ok expected
  | body :: rest => do
    match ← parse body with
    | none => nextSeqFrom run expected rest
    | some item =>
      if item.run ≠ run then nextSeqFrom run expected rest
      else if item.seq ≠ expected then
        .error (invalid s!"communication sequence gap/fork: expected {expected}, got {item.seq}")
      else nextSeqFrom run (expected + 1) rest

def nextSeq (history : List String) (run : String) : Except Raised Nat := nextSeqFrom run 1 history

/-- The arguments of `create_next`. -/
structure Draft where
  run : String
  sender : String
  recipient : String
  kind : Kind
  goal : String
  nextAction : String
  evidence : String := "none"
  sourceRef : String := "none"
  replyTo : String := "none"
  deriving DecidableEq

def Draft.fields (d : Draft) (seq : Nat) : Fields where
  run := d.run
  seq := seq
  sender := d.sender
  recipient := d.recipient
  kind := d.kind
  goal := d.goal
  nextAction := d.nextAction
  evidence := d.evidence
  sourceRef := d.sourceRef
  replyTo := d.replyTo

def createNext (history : List String) (draft : Draft) : Except Raised CommunicationV2 := do
  let seq ← nextSeq history draft.run
  construct (draft.fields seq)

end DwSuperApps.Source.Communication
