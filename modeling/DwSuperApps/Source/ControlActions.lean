import DwSuperApps.Lib.Checked
import DwSuperApps.Lib.Text

/-!
# Public control actions

`taskcontroller/mvp/actions.py`, and the offered actions of `RootCard` in `rootcard.py`.
A control state, a request and a safe boundary hold what their constructors check. The
boundary resolver is the caller's: it may answer with anything, or raise.

Left out: `to_dict` of the records, and the result's guards on a completed disposition and
a mutated runtime, which no result here can have.
-/
namespace DwSuperApps.Source.Control

open DwSuperApps.Lib DwSuperApps.Lib.Checked

/-! ## Errors -/

inductive ErrorClass where
  | validation | safeBoundaryUnavailable | staleControlRequest | workUnitBlocked | resolver
  deriving DecidableEq

structure ControlError where
  kind : ErrorClass
  message : String
  deriving DecidableEq

def invalid (message : String) : ControlError := ⟨.validation, message⟩

/-! ## Vocabulary -/

inductive Action where
  | pause | stop | approve | merge
  deriving DecidableEq

def Action.value : Action → String
  | .pause => "PAUSE"
  | .stop => "STOP"
  | .approve => "APPROVE"
  | .merge => "MERGE"

/-- `PUBLIC_ACTIONS`, in contract order. -/
def publicActions : List Action := [.pause, .stop, .approve, .merge]

/-- `AUTHORITY_ACTIONS`. -/
def authorityActions : List Action := [.approve, .merge]

inductive Disposition where
  | running | paused | stopped
  deriving DecidableEq

def Disposition.value : Disposition → String
  | .running => "RUNNING"
  | .paused => "PAUSED"
  | .stopped => "STOPPED"

/-! ## State -/

structure SafeBoundary where
  workUnitId : String
  description : String
  named : strip workUnitId ≠ "" ∧ strip description ≠ ""
  deriving DecidableEq

@[ext] structure MvpControlState where
  runId : String
  disposition : Disposition := .running
  currentWorkUnit : Option String := none
  evidence : List String := []
  revision : Nat := 0
  stoppedAt : Option SafeBoundary := none
  pausedAt : Option SafeBoundary := none
  named : strip runId ≠ ""
  working : ∀ unit ∈ currentWorkUnit, strip unit ≠ ""
  evident : ∀ item ∈ evidence, strip item ≠ ""

instance : DecidableEq MvpControlState := fun _ _ => decidable_of_iff _ MvpControlState.ext_iff.symm

namespace MvpControlState

def isStopped (s : MvpControlState) : Prop := s.disposition = .stopped

/-- No new meaningful work unit may start. -/
def halted (s : MvpControlState) : Prop := s.disposition = .paused ∨ s.disposition = .stopped

instance (s : MvpControlState) : Decidable s.isStopped := by unfold isStopped; infer_instance
instance (s : MvpControlState) : Decidable s.halted := by unfold halted; infer_instance

end MvpControlState

/-- A text that begins with a letter is not blank. -/
theorem strip_of_head {c : Char} {rest : List Char} (solid : isSpace c = false) :
    strip (String.ofList (c :: rest)) ≠ "" := by
  intro empty
  have chars := congrArg String.toList empty
  rw [strip, String.toList_ofList, String.toList_ofList, stripChars, List.dropWhile_cons, solid] at chars
  change (List.dropWhile isSpace (c :: rest).reverse).reverse = [] at chars
  rw [List.reverse_eq_nil_iff, List.dropWhile_eq_nil_iff] at chars
  have blank := chars c (by simp)
  rw [solid] at blank
  cases blank

/-- `default_safe_boundary`. -/
def defaultSafeBoundary (s : MvpControlState) : Option SafeBoundary :=
  match unit : s.currentWorkUnit with
  | none => none
  | some work => some {
      workUnitId := work
      description := String.ofList ("end of work unit ".toList ++ work.toList)
      named := ⟨s.working work unit, strip_of_head rfl⟩ }

/-- `start_work_unit`. -/
def startWorkUnit (s : MvpControlState) (workUnitId : Json) : Except ControlError MvpControlState :=
  match workUnitId with
  | .str unit =>
    if solid : strip unit ≠ "" then
      if s.halted then
        .error ⟨.workUnitBlocked, s!"run {Json.reprString s.runId} is {s.disposition.value}; no new work unit may start (requested {Json.reprString unit})"⟩
      else .ok { s with
        currentWorkUnit := some unit
        revision := s.revision + 1
        working := fun _ member => Option.some_inj.mp member ▸ solid }
    else .error (invalid "work_unit_id must be a non-empty string")
  | _ => .error (invalid "work_unit_id must be a non-empty string")

/-! ## Requests -/

@[ext] structure PublicActionRequest where
  action : Action
  runId : String
  expectedRevision : Option Int := none
  named : strip runId ≠ ""

instance : DecidableEq PublicActionRequest := fun _ _ => decidable_of_iff _ PublicActionRequest.ext_iff.symm

/-- The public action of a name. -/
def readAction (action : Json) : Except ControlError Action :=
  match publicActions.find? fun a => Json.str a.value = action with
  | some found => .ok found
  | none => .error (invalid s!"unknown or non-public action: {action.rawRepr}; the public MVP API is exactly ('PAUSE', 'STOP', 'APPROVE', 'MERGE')")

def readRevision : Json → Except ControlError (Option Int)
  | .null => .ok none
  | .int n => .ok (some n)
  | _ => .error (invalid "expected_revision must be an int or None")

def readRunId : Json → Except ControlError { runId : String // strip runId ≠ "" }
  | .str runId =>
    if named : strip runId ≠ "" then .ok ⟨runId, named⟩
    else .error (invalid "run_id must be a non-empty string")
  | _ => .error (invalid "run_id must be a non-empty string")

/-- `PublicActionRequest.from_payload`. -/
def fromPayload (payload : List (String × Json)) : Except ControlError PublicActionRequest := do
  let action ← readAction ((Json.member payload "action").getD (.str ""))
  let runId ← readRunId ((Json.member payload "run_id").getD (.str ""))
  let expectedRevision ← readRevision (Json.get payload "expected_revision")
  .ok ⟨action, runId.1, expectedRevision, runId.2⟩

/-- What a caller hands in as a request. -/
inductive Request where
  | typed (request : PublicActionRequest)
  | mapping (payload : List (String × Json))
  | other

def Request.read : Request → Except ControlError PublicActionRequest
  | .typed request => .ok request
  | .mapping payload => fromPayload payload
  | .other => .error (invalid "request must be a PublicActionRequest")

/-- What a resolver answers. -/
inductive Resolution where
  | unrepresentable
  | boundary (found : SafeBoundary)
  | foreign

abbrev SafeBoundaryResolver : Type := MvpControlState → Except ControlError Resolution

/-- The resolver the code uses where none is given. -/
def defaultResolver : SafeBoundaryResolver := fun s =>
  .ok ((defaultSafeBoundary s).elim .unrepresentable .boundary)

structure PublicActionResult where
  action : Action
  runId : String
  state : MvpControlState
  disposition : Disposition
  detail : String
  authorityRequired : Bool := false
  boundary : Option SafeBoundary := none
  deriving DecidableEq

/-! ## Applying an action -/

def stopDetail : String :=
  "hard stop at safe boundary; no new work unit may start, existing evidence preserved, stopped disposition surfaced for Controller review; NOT a cancellation and NOT DONE"

def pauseDetail : String :=
  "bounded pause before the next meaningful action boundary; existing evidence preserved, no completion fabricated"

/-- The state that a boundary is resolved for, with the boundary. -/
def resolved (action : Action) (s : MvpControlState) (resolve : SafeBoundaryResolver) :
    Except ControlError SafeBoundary := do
  match ← resolve s with
  | .boundary found => .ok found
  | .unrepresentable => .error ⟨.safeBoundaryUnavailable,
      s!"cannot represent a safe boundary for run {Json.reprString s.runId}; {action.value} fails closed"⟩
  | .foreign => .error (invalid "resolve_safe_boundary must return a SafeBoundary or None")

/-- The control action at its boundary. -/
def controlled (action : Action) (s : MvpControlState) (boundary : SafeBoundary) : PublicActionResult :=
  if action = .stop then {
    action := .stop
    runId := s.runId
    state := { s with disposition := .stopped, stoppedAt := some boundary, revision := s.revision + 1 }
    disposition := .stopped
    detail := stopDetail
    boundary := some boundary }
  else {
    action := .pause
    runId := s.runId
    state := { s with disposition := .paused, pausedAt := some boundary, revision := s.revision + 1 }
    disposition := .paused
    detail := pauseDetail
    boundary := some boundary }

/-- `apply_public_action`. -/
def applyPublicAction (request : Request) (s : MvpControlState) (resolve : SafeBoundaryResolver) :
    Except ControlError PublicActionResult := do
  let request ← request.read
  ensure (request.runId = s.runId)
    (invalid s!"action targets run {Json.reprString request.runId}, state is {Json.reprString s.runId}")
  ensure (∀ expected ∈ request.expectedRevision, expected = s.revision)
    ⟨.staleControlRequest, s!"stale control request: expected_revision={(Json.int (request.expectedRevision.getD 0)).pyStr}, current revision={s.revision}"⟩
  if request.action ∈ authorityActions then
    .ok {
      action := request.action
      runId := s.runId
      state := s
      disposition := s.disposition
      detail := request.action.value ++
        " is an authority-only projection intent; runtime not mutated, not approved, not merged"
      authorityRequired := true }
  else do
    let boundary ← resolved request.action s resolve
    .ok (controlled request.action s boundary)

/-! ## Offered actions -/

/-- `contextual_actions`. -/
def contextualActions (s : MvpControlState) (authorityBoundary mergeReady : Bool) : List Action :=
  publicActions.filter fun action =>
    match action with
    | .pause => !decide s.halted
    | .stop => !decide s.isStopped
    | .approve => authorityBoundary
    | .merge => mergeReady

/-- `RootCard.contextual_actions`. -/
def cardActions (paused authorityBoundary mergeReady : Bool) : List Action :=
  publicActions.filter fun action =>
    match action with
    | .pause => !paused
    | .stop => true
    | .approve => authorityBoundary
    | .merge => mergeReady

/-! ## Calls -/

/-- A call on a control state. -/
inductive Call where
  | action (request : Request) (resolve : SafeBoundaryResolver)
  | start (workUnitId : Json)

/-- The state after a call; a refused one leaves it. -/
def step (s : MvpControlState) : Call → MvpControlState
  | .action request resolve =>
    match applyPublicAction request s resolve with
    | .ok result => result.state
    | .error _ => s
  | .start workUnitId =>
    match startWorkUnit s workUnitId with
    | .ok next => next
    | .error _ => s

end DwSuperApps.Source.Control
