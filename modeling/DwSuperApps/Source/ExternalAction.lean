import DwSuperApps.Lib.Json
import DwSuperApps.Lib.Transactions

/-!
# External actions

`taskcontroller/audit/external_action.py`: the ledger of external actions over one
database file. Any number of connections make calls, and each call issues its SQL
statements one at a time; `BEGIN` is the one `sqlite3` issues before a write outside a
transaction. A payload column holds the value its canonical text stands for.
-/
namespace DwSuperApps.Source.ExternalAction

open DwSuperApps.Lib DwSuperApps.Lib.Transactions

inductive ExternalActionState where
  | pending | confirmed | failed | blocked
  deriving DecidableEq

def ExternalActionState.value : ExternalActionState → String
  | .pending => "PENDING"
  | .confirmed => "CONFIRMED"
  | .failed => "FAILED"
  | .blocked => "BLOCKED"

/-- `\x7b"success": …, "evidence": …\x7d`. -/
structure ResultPayload where
  success : Bool
  evidence : List String
  deriving DecidableEq

/-- A row of `external_actions`, without its key. -/
structure Row where
  state : ExternalActionState
  intentPayload : Json
  resultPayload : Option ResultPayload := none
  readbackPayload : Option Json := none
  createdAt : String
  updatedAt : String
  deriving DecidableEq

structure Key where
  runId : String
  actionId : String
  deriving DecidableEq

structure ExternalActionRecord where
  key : Key
  row : Row
  deriving DecidableEq

structure ExternalActionResult where
  success : Bool
  readback : Option Json := none
  evidence : List String := []
  deriving DecidableEq

/-- `_readback_matches`. -/
def readbackMatches (intent : Json) : Option Json → Bool
  | none => false
  | some readback => intent.canonicalText = readback.canonicalText

/-- The state `finalize` computes from the intent it read. -/
def newState (intent : Json) (result : ExternalActionResult) : ExternalActionState :=
  if result.success = false then .failed
  else if readbackMatches intent result.readback = false then .blocked
  else .confirmed

/-- The columns of the `UPDATE`. -/
def Row.finalized (row : Row) (state : ExternalActionState) (result : ExternalActionResult)
    (now : String) : Row :=
  { row with
    state := state
    resultPayload := some ⟨result.success, result.evidence⟩
    readbackPayload := result.readback
    updatedAt := now }

/-! ## Calls -/

inductive Call where
  | record (key : Key) (intentPayload : Json) (now : String)
  | finalize (key : Key) (result : ExternalActionResult) (now : String)
  | load (key : Key)
  deriving DecidableEq

/-- The next statement of a connection, with what the call knows so far. -/
inductive Phase where
  | idle
  | recordBegin (key : Key) (intentPayload : Json) (now : String)
  | recordInsert (key : Key) (intentPayload : Json) (now : String)
  | recordCommit (key : Key) (intentPayload : Json) (now : String)
  | finalizeSelect (key : Key) (result : ExternalActionResult) (now : String)
  | finalizeBegin (key : Key) (result : ExternalActionResult) (now : String) (row : Row)
  | finalizeUpdate (key : Key) (result : ExternalActionResult) (now : String) (row : Row)
  | finalizeCommit (key : Key) (result : ExternalActionResult) (now : String) (row : Row)
  | loadSelect (key : Key)
  deriving DecidableEq

def Call.start : Call → Phase
  | .record key intentPayload now => .recordBegin key intentPayload now
  | .finalize key result now => .finalizeSelect key result now
  | .load key => .loadSelect key

/-- What a call returned, or the text of what it raised. -/
structure Answered where
  call : Call
  answer : Except String (Option ExternalActionRecord)

/-- The database file, where each connection stands, and the answers so far. -/
structure World where
  db : Database Nat Key Row := {}
  phase : Nat → Phase := fun _ => .idle
  answers : List Answered := []

/-! ## Statements -/

def keyText (key : Key) : String := s!"run_id={key.runId} action_id={key.actionId}"

def duplicateAction (key : Key) : String := "DUPLICATE_ACTION " ++ keyText key

def actionNotFound (key : Key) : String := "ACTION_NOT_FOUND " ++ keyText key

def actionNotPending (key : Key) (row : Row) : String :=
  "ACTION_NOT_PENDING " ++ keyText key ++ s!" state={row.state.value}"

def databaseLocked : String := "database is locked"

/-- The row `record` inserts. -/
def pendingRow (intentPayload : Json) (now : String) : Row where
  state := .pending
  intentPayload := intentPayload
  createdAt := now
  updatedAt := now

/-- The record `finalize` returns: from the row it read. -/
def finalRecord (key : Key) (result : ExternalActionResult) (now : String) (row : Row) :
    ExternalActionRecord :=
  ⟨key, row.finalized (newState row.intentPayload result) result now⟩

namespace World

/-- The connection goes on. -/
def proceed (w : World) (c : Nat) (db : Database Nat Key Row) (next : Phase) : World :=
  { w with db := db, phase := Function.update w.phase c next }

/-- The call of the connection ends. -/
def finish (w : World) (c : Nat) (db : Database Nat Key Row) (call : Call)
    (answer : Except String (Option ExternalActionRecord)) : World :=
  { db := db
    phase := Function.update w.phase c .idle
    answers := w.answers ++ [⟨call, answer⟩] }

/-- The next statement of a connection. -/
def advance (w : World) (c : Nat) : World :=
  match w.phase c with
  | .idle => w
  | .recordBegin key intentPayload now =>
    w.proceed c (w.db.beginDeferred c) (.recordInsert key intentPayload now)
  | .recordInsert key intentPayload now =>
    match w.db.insert c key (pendingRow intentPayload now) with
    | (.locked, db) => w.finish c db (.record key intentPayload now) (.error databaseLocked)
    | (.duplicate, db) => w.finish c db (.record key intentPayload now) (.error (duplicateAction key))
    | (.done, db) => w.proceed c db (.recordCommit key intentPayload now)
  | .recordCommit key intentPayload now =>
    w.finish c (w.db.commit c) (.record key intentPayload now)
      (.ok (some ⟨key, pendingRow intentPayload now⟩))
  | .finalizeSelect key result now =>
    match w.db.view c key with
    | none => w.finish c (w.db.select c) (.finalize key result now) (.error (actionNotFound key))
    | some row =>
      if row.state ≠ .pending then
        w.finish c (w.db.select c) (.finalize key result now) (.error (actionNotPending key row))
      else w.proceed c (w.db.select c) (.finalizeBegin key result now row)
  | .finalizeBegin key result now row =>
    w.proceed c (w.db.beginDeferred c) (.finalizeUpdate key result now row)
  | .finalizeUpdate key result now row =>
    match w.db.update c key (·.finalized (newState row.intentPayload result) result now) with
    | (.locked, db) => w.finish c db (.finalize key result now) (.error databaseLocked)
    | (_, db) => w.proceed c db (.finalizeCommit key result now row)
  | .finalizeCommit key result now row =>
    w.finish c (w.db.commit c) (.finalize key result now) (.ok (some (finalRecord key result now row)))
  | .loadSelect key =>
    w.finish c (w.db.select c) (.load key) (.ok ((w.db.view c key).map (⟨key, ·⟩)))

end World

/-- A connection starts a call, executes its next statement, or ends with what it has open. -/
inductive Action where
  | call (c : Nat) (call : Call)
  | advance (c : Nat)
  | close (c : Nat)
  deriving DecidableEq

def step (w : World) : Action → World
  | .call c call =>
    if w.phase c = .idle then { w with phase := Function.update w.phase c call.start } else w
  | .advance c => w.advance c
  | .close c => { w with db := w.db.rollback c, phase := Function.update w.phase c .idle }

end DwSuperApps.Source.ExternalAction
