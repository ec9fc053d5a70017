import DwSuperApps.Lib.Json
import DwSuperApps.Source.Routing

/-!
# Monitoring

`taskcontroller/mvp/{protocol_bridge,monitoring}.py`: reports against a contracted subtask,
and the loop that polls a thread for replies newer than its cursor. The reader, the sleeper
and the RootCard updater are the host's; the loop is given what each read returns and lists
the calls it makes.
-/
namespace DwSuperApps.Source.Monitoring

open DwSuperApps.Lib DwSuperApps.Lib.Checked DwSuperApps.Lib.Sorted
open DwSuperApps.Source.Routing (decimalValue)

inductive ErrorClass where
  | validation | malformedReport | valueError
  deriving DecidableEq

structure Raised where
  kind : ErrorClass
  message : String
  deriving DecidableEq

def invalid (message : String) : Raised := ⟨.validation, message⟩

/-! ## Vocabulary -/

/-- `PROTOCOL_VERDICTS`. -/
inductive Literal where
  | «continue» | waitController | terminal | intercept
  deriving DecidableEq

def Literal.value : Literal → String
  | .continue => "CONTINUE"
  | .waitController => "WAIT_CONTROLLER"
  | .terminal => "TERMINAL"
  | .intercept => "INTERCEPT"

/-- `CONTRACTED_AFTER_VALUES`. -/
def contractedAfterValues : List Literal := [.continue, .waitController, .terminal]

inductive ReportStatus where
  | running | done | blocked | failed
  deriving DecidableEq

def ReportStatus.value : ReportStatus → String
  | .running => "RUNNING"
  | .done => "DONE"
  | .blocked => "BLOCKED"
  | .failed => "FAILED"

/-- `REPORT_STATUSES`. -/
def reportStatuses : List ReportStatus := [.running, .done, .blocked, .failed]

inductive InterceptReason where
  | scopeDrift | authorityDrift | planDrift | evidenceConflict | materialFinding
  deriving DecidableEq

def InterceptReason.value : InterceptReason → String
  | .scopeDrift => "scope_drift"
  | .authorityDrift => "authority_drift"
  | .planDrift => "plan_drift"
  | .evidenceConflict => "evidence_conflict"
  | .materialFinding => "material_finding"

/-! ## Reports -/

/-- `_require_text`. -/
def requireText (value : Json) (fieldName : String) : Except Raised String :=
  match value with
  | .str text => do
    ensure (strip text ≠ "") (invalid s!"{fieldName} must be a non-empty string")
    return text
  | _ => .error (invalid s!"{fieldName} must be a non-empty string")

def itemText (fieldName : String) : Json → Except Raised String
  | .str text => do
    ensure (strip text ≠ "") (invalid s!"{fieldName} entries must be non-empty strings")
    return text
  | _ => .error (invalid s!"{fieldName} entries must be non-empty strings")

/-- `_require_items`. -/
def requireItems (value : Json) (fieldName : String) : Except Raised (List String) :=
  match value with
  | .arr items => do
    ensure (items ≠ []) (invalid s!"{fieldName} must not be empty")
    items.mapM (itemText fieldName)
  | _ => .error (invalid s!"{fieldName} must be a sequence of strings, not a bare string")

/-- `_optional_items`. -/
def optionalItems (value : Json) (fieldName : String) : Except Raised (List String) :=
  match value with
  | .null => .ok []
  | .arr items => items.mapM (itemText fieldName)
  | _ => .error (invalid s!"{fieldName} must be a sequence of strings, not a bare string")

/-- `bool(value)`. -/
def truthy : Json → Bool
  | .null => false
  | .bool b => b
  | .int n => n ≠ 0
  | .float text => text ≠ "0.0" ∧ text ≠ "-0.0"
  | .str text => text ≠ ""
  | .arr items => items ≠ []
  | .obj members => members ≠ []

/-- The constructor has checked a contract. -/
structure ContractedSubtask where
  subtaskId : String
  objective : String
  allowedWork : List String
  expectedOutput : List String
  reportRequirement : List String
  afterReport : Literal
  texts : strip subtaskId ≠ "" ∧ strip objective ≠ ""
  items : ∀ l ∈ [allowedWork, expectedOutput, reportRequirement], l ≠ [] ∧ ∀ s ∈ l, strip s ≠ ""
  planned : afterReport ∈ contractedAfterValues

structure ExecutorReport where
  subtaskId : String
  status : ReportStatus
  completed : List String
  evidence : List String
  nextAction : String
  after : Literal
  findingRisk : List String := []
  drift : List String := []
  materialFinding : Bool := false
  authorityRequired : Bool := false
  evidenceConflict : Bool := false
  deriving DecidableEq

/-- `status not in REPORT_STATUSES`. -/
def readStatus (value : Json) : Except Raised ReportStatus :=
  match reportStatuses.find? fun status => value = .str status.value with
  | some status => .ok status
  | none => .error (invalid
      s!"invalid report status: {value.rawRepr}; expected one of ('RUNNING', 'DONE', 'BLOCKED', 'FAILED')")

/-- `after not in CONTRACTED_AFTER_VALUES`. -/
def readAfter (value : Json) : Except Raised Literal :=
  match contractedAfterValues.find? fun after => value = .str after.value with
  | some after => .ok after
  | none => .error (invalid
      s!"invalid report after value: {value.rawRepr}; expected one of ('CONTINUE', 'WAIT_CONTROLLER', 'TERMINAL')")

/-- `payload.get(name, default)`. -/
def payloadGet (payload : List (String × Json)) (name : String) (default : Json) : Json :=
  (Json.member payload name).getD default

def ExecutorReport.fromPayload (payload : List (String × Json)) : Except Raised ExecutorReport := do
  let subtaskId ← requireText (payloadGet payload "subtask_id" (.str "")) "subtask_id"
  let status ← readStatus (payloadGet payload "status" (.str ""))
  let completed ← requireItems (payloadGet payload "completed" (.arr [])) "completed"
  let evidence ← requireItems (payloadGet payload "evidence" (.arr [])) "evidence"
  let nextAction ← requireText (payloadGet payload "next_action" (.str "")) "next_action"
  let findingRisk ← optionalItems (payloadGet payload "finding_risk" (.arr [])) "finding_risk"
  let drift ← optionalItems (payloadGet payload "drift" (.arr [])) "drift"
  let after ← readAfter (payloadGet payload "after" (.str ""))
  return {
    subtaskId, status, completed, evidence, nextAction, after, findingRisk, drift
    materialFinding := truthy (payloadGet payload "material_finding" (.bool false))
    authorityRequired := truthy (payloadGet payload "authority_required" (.bool false))
    evidenceConflict := truthy (payloadGet payload "evidence_conflict" (.bool false)) }

/-! ## Verdicts -/

structure ProtocolVerdict where
  verdict : Literal
  detail : String
  subtaskId : String
  interceptReason : Option InterceptReason := none
  explained : verdict = .intercept ↔ interceptReason.isSome := by decide
  deriving DecidableEq

def ProtocolVerdict.intercept (sid detail : String) (reason : InterceptReason) : ProtocolVerdict where
  verdict := .intercept
  detail := detail
  subtaskId := sid
  interceptReason := some reason
  explained := by simp

def classifyReport (contracted : ContractedSubtask) (report : ExecutorReport) : ProtocolVerdict :=
  let sid := report.subtaskId
  if report.subtaskId ≠ contracted.subtaskId then
    .intercept sid s!"report targets {Json.reprString report.subtaskId}, contracted boundary is {Json.reprString contracted.subtaskId}"
      .scopeDrift
  else if report.authorityRequired then
    .intercept sid "external authority required; runtime not mutated, not approved, not merged"
      .authorityDrift
  else if report.after ≠ contracted.afterReport then
    .intercept sid s!"report boundary {report.after.value} conflicts with contracted {contracted.afterReport.value}"
      .planDrift
  else if report.evidenceConflict then
    .intercept sid "evidence conflict: stale expected_version / conflicting evidence surfaced"
      .evidenceConflict
  else if report.materialFinding ∨ report.drift ≠ [] then
    let detail := "material finding invalidates the contracted next step"
    .intercept sid (if report.drift ≠ [] then detail ++ ": " ++ ", ".intercalate report.drift else detail)
      .materialFinding
  else if report.status = .blocked then
    { verdict := .terminal, detail := "executor reported blocked; delegated segment ends", subtaskId := sid }
  else if report.status = .failed then
    { verdict := .terminal, detail := "executor reported failed; delegated segment ends", subtaskId := sid }
  else if contracted.afterReport = .waitController then
    { verdict := .waitController, detail := "contracted controller review required before release",
      subtaskId := sid }
  else if contracted.afterReport = .terminal then
    { verdict := .terminal,
      detail := "contracted delegated-segment termination; grants no DONE, approve or merge authority",
      subtaskId := sid }
  else
    { verdict := .continue,
      detail := "contracted milestone satisfied; controller may release next subtask",
      subtaskId := sid }

/-- `BOUNDARY_VERDICTS`. -/
def boundaryVerdicts : List Literal := [.waitController, .intercept, .terminal]

/-! ## Timestamps -/

@[ext] structure ThreadReply where
  ts : String
  payload : List (String × Json)
  timed : strip ts ≠ "" := by decide

instance : DecidableEq ThreadReply := fun _ _ => decidable_of_iff _ ThreadReply.ext_iff.symm

/-- The code points `str.isdigit` accepts beside the decimal digits, as ranges. -/
def otherDigits : List (Nat × Nat) :=
  [(0xb2, 0xb3), (0xb9, 0xb9), (0x1369, 0x1371), (0x19da, 0x19da), (0x2070, 0x2070), (0x2074, 0x2079),
    (0x2080, 0x2089), (0x2460, 0x2468), (0x2474, 0x247c), (0x2488, 0x2490), (0x24ea, 0x24ea),
    (0x24f5, 0x24fd), (0x24ff, 0x24ff), (0x2776, 0x277e), (0x2780, 0x2788), (0x278a, 0x2792),
    (0x10a40, 0x10a43), (0x10e60, 0x10e68), (0x11052, 0x1105a), (0x1f100, 0x1f10a)]

/-- `text.isdigit()`. -/
def isDigits (text : List Char) : Bool :=
  text ≠ [] ∧ text.all fun c => (decimalValue c).isSome ||
    otherDigits.any fun (first, last) => first ≤ c.toNat && c.toNat ≤ last

/-- `int(text)` of a text `isdigit` accepts. -/
def readInt (text : List Char) : Except Raised Nat :=
  if text.all fun c => (decimalValue c).isSome then
    (Routing.readInt text).mapError fun e => ⟨.valueError, e.message⟩
  else .error ⟨.valueError,
    s!"invalid literal for int() with base 10: {Json.reprString (String.ofList text)}"⟩

/-- `_ts_key`, in the order of its tuples. -/
abbrev TsKey := Nat ×ₗ Nat ×ₗ Nat ×ₗ String

def tsKey (ts : String) : Except Raised TsKey :=
  let candidate := (strip ts).toList
  let seconds := candidate.takeWhile (· ≠ '.')
  let fraction := (candidate.dropWhile (· ≠ '.')).drop 1
  if isDigits seconds ∧ (fraction = [] ∨ isDigits fraction) then do
    let micros ← if fraction = [] then .ok 0 else readInt ((fraction ++ "000000".toList).take 6)
    let whole ← readInt seconds
    return toLex (0, toLex (whole, toLex (micros, "")))
  else .ok (toLex (1, toLex (0, toLex (0, ts))))

/-- `_is_newer`. -/
def isNewer (ts : String) : Option String → Except Raised Bool
  | none => .ok true
  | some lastSeen => do
    let key ← tsKey ts
    let seen ← tsKey lastSeen
    return seen < key

def newerOnly (lastSeen : Option String) : List ThreadReply → Except Raised (List ThreadReply)
  | [] => .ok []
  | r :: rest => do
    let newer ← isNewer r.ts lastSeen
    let others ← newerOnly lastSeen rest
    return if newer then r :: others else others

/-- Each timestamp once, at its first reply. -/
def uniqueReplies (seen : List String) : List ThreadReply → List ThreadReply
  | [] => []
  | reply :: rest =>
    if reply.ts ∈ seen then uniqueReplies seen rest
    else reply :: uniqueReplies (seen ++ [reply.ts]) rest

/-- `_newer_replies`. -/
def newerReplies (replies : List ThreadReply) (lastSeen : Option String) :
    Except Raised (List ThreadReply) := do
  let fresh ← newerOnly lastSeen replies
  let keyed ← fresh.mapM fun r => do
    let key ← tsKey r.ts
    return (key, r)
  return uniqueReplies [] ((sortedBy Prod.fst keyed).map Prod.snd)

/-! ## The loop -/

structure LoopObservation where
  poll : Nat
  replyTs : String
  verdict : ProtocolVerdict
  report : ExecutorReport
  deriving DecidableEq

/-- `material_signature`. -/
structure Signature where
  subtaskId : String
  status : ReportStatus
  completed : List String
  evidence : List String
  findingRisk : List String
  nextAction : String
  after : Literal
  verdict : Literal
  interceptReason : Option InterceptReason
  detail : String
  deriving DecidableEq

def materialSignature (report : ExecutorReport) (verdict : ProtocolVerdict) : Signature where
  subtaskId := report.subtaskId
  status := report.status
  completed := report.completed
  evidence := report.evidence
  findingRisk := report.findingRisk
  nextAction := report.nextAction
  after := report.after
  verdict := verdict.verdict
  interceptReason := verdict.interceptReason
  detail := verdict.detail

inductive Reason where
  | boundary | maxPolls
  deriving DecidableEq

structure LoopOutcome where
  verdict : Option Literal
  reason : Reason
  polls : Nat
  lastSeenTs : Option String
  observations : List LoopObservation := []
  detail : String := ""
  deriving DecidableEq

/-- What a segment does, in order: it sleeps, classifies a reply, updates the RootCard. -/
inductive Call where
  | sleeper (seconds : Nat)
  | classified (reply : ThreadReply) (verdict : ProtocolVerdict)
  | updateRootcard (observation : LoopObservation)
  deriving DecidableEq

/-- The variables of the loop. -/
structure Progress where
  cursor : Option String
  observations : List LoopObservation := []
  lastVerdict : Option Literal := none
  lastSignature : Option Signature := none
  calls : List Call := []
  deriving DecidableEq

/-- How a segment ended, if it did. -/
abbrev Ended := Option (Except Raised LoopOutcome)

/-- A classified reply: an observation where something material changed. -/
def Progress.classify (s : Progress) (poll : Nat) (reply : ThreadReply) (report : ExecutorReport)
    (verdict : ProtocolVerdict) : Progress :=
  let signature := materialSignature report verdict
  let observation : LoopObservation := ⟨poll, reply.ts, verdict, report⟩
  let material : Bool := some signature ≠ s.lastSignature
  { s with
    observations := if material then s.observations ++ [observation] else s.observations
    lastVerdict := some verdict.verdict
    lastSignature := some signature
    calls := s.calls ++ .classified reply verdict ::
      (if material then [.updateRootcard observation] else []) }

/-- `for reply in replies`. -/
def handleReplies (contracted : ContractedSubtask) (poll : Nat) (s : Progress) :
    List ThreadReply → Progress × Ended
  | [] => (s, none)
  | reply :: rest =>
    let s := { s with cursor := some reply.ts }
    match ExecutorReport.fromPayload reply.payload with
    | .error e => (s, some (.error
        ⟨.malformedReport, s!"malformed executor report at ts {reply.ts}: {e.message}"⟩))
    | .ok report =>
      let verdict := classifyReport contracted report
      let s := s.classify poll reply report verdict
      if verdict.verdict ∈ boundaryVerdicts then
        (s, some (.ok {
          verdict := some verdict.verdict
          reason := .boundary
          polls := poll
          lastSeenTs := s.cursor
          observations := s.observations
          detail := verdict.detail }))
      else handleReplies contracted poll s rest

/-- What the host's reader returns for a cursor, read by read. -/
abbrev Reader := Nat → Option String → List ThreadReply

/-- The body both loops repeat. -/
def onePoll (contracted : ContractedSubtask) (readReplies : Reader) (interval poll : Nat)
    (s : Progress) : Progress × Ended :=
  let s := { s with calls := s.calls ++ [.sleeper interval] }
  match newerReplies (readReplies poll s.cursor) s.cursor with
  | .error e => (s, some (.error e))
  | .ok replies => handleReplies contracted poll s replies

/-- Polls until one ends the segment, this many at most. -/
def pollLoop (contracted : ContractedSubtask) (readReplies : Reader) (interval : Nat) :
    (poll count : Nat) → Progress → Progress × Ended
  | _, 0, s => (s, none)
  | poll, count + 1, s =>
    match onePoll contracted readReplies interval poll s with
    | (s, none) => pollLoop contracted readReplies interval (poll + 1) count s
    | (s, some ended) => (s, some ended)

/-- What the arguments are checked for. -/
def checkArguments (lastSeenTs : Option String) (maxPolls : Option Nat) (interval : Nat) :
    Except Raised Unit := do
  ensure (∀ n ∈ maxPolls, 1 ≤ n) (invalid "max_polls must be a positive int or None (unbounded)")
  ensure (1 ≤ interval) (invalid "poll_interval_seconds must be an int >= 1")
  ensure (∀ ts ∈ lastSeenTs, strip ts ≠ "") (invalid "last_seen_ts must be a non-empty string or None")

/-- What a segment called, and how it ended. -/
structure Segment where
  calls : List Call
  ended : Ended
  deriving DecidableEq

/-- The loop with a number of polls. -/
def boundedLoop (contracted : ContractedSubtask) (readReplies : Reader) (lastSeenTs : Option String)
    (maxPolls interval : Nat) : Segment :=
  match checkArguments lastSeenTs (some maxPolls) interval with
  | .error e => ⟨[], some (.error e)⟩
  | .ok () =>
    match pollLoop contracted readReplies interval 1 maxPolls { cursor := lastSeenTs } with
    | (s, some ended) => ⟨s.calls, some ended⟩
    | (s, none) => ⟨s.calls, some (.ok {
        verdict := s.lastVerdict
        reason := .maxPolls
        polls := maxPolls
        lastSeenTs := s.cursor
        observations := s.observations
        detail := "monitoring budget exhausted without a boundary verdict" })⟩

/-- The loop without one, as far as `polls` polls take it. -/
def unboundedLoop (contracted : ContractedSubtask) (readReplies : Reader) (lastSeenTs : Option String)
    (interval polls : Nat) : Segment :=
  match checkArguments lastSeenTs none interval with
  | .error e => ⟨[], some (.error e)⟩
  | .ok () =>
    let (s, ended) := pollLoop contracted readReplies interval 1 polls { cursor := lastSeenTs }
    ⟨s.calls, ended⟩

end DwSuperApps.Source.Monitoring
