import DwSuperApps.Lib.Checked
import DwSuperApps.Lib.Dict
import DwSuperApps.Lib.Text

/-!
# Controller continuations and their manifests

`taskcontroller/interaction/continuation.py` and the run manifests of
`taskcontroller/audit/manifest.py`. A constructor's checks are the fields of the
structure it makes. A store keeps the value of a manifest's metadata: the order of
members is not part of it.
-/
namespace DwSuperApps.Source.Continuations

open DwSuperApps.Lib DwSuperApps.Lib.Checked

/-! ## Failures -/

inductive RecoveryCode where
  | bindingInvalid | reconciliationBlocked | digestMismatch
  deriving DecidableEq

def RecoveryCode.value : RecoveryCode → String
  | .bindingInvalid => "RECOVERY_BINDING_INVALID"
  | .reconciliationBlocked => "RECOVERY_RECONCILIATION_BLOCKED"
  | .digestMismatch => "RECOVERY_DIGEST_MISMATCH"

inductive ErrorClass where
  | validation | value | recovery (code : RecoveryCode)
  deriving DecidableEq

structure Raised where
  kind : ErrorClass
  message : String
  deriving DecidableEq

def validationError (message : String) : Raised := ⟨.validation, message⟩

/-! ## Fields -/

/-- A text that is not blank. -/
@[ext] structure SolidText where
  value : String
  solid : strip value ≠ "" := by decide

instance : DecidableEq SolidText := fun _ _ => decidable_of_iff _ SolidText.ext_iff.symm

/-- `_required_text`. -/
def requiredText (value : Json) (name : String) : Except Raised SolidText :=
  match value with
  | .str s =>
    if solid : strip s ≠ "" then .ok ⟨s, solid⟩
    else .error (validationError s!"controller_continuation.{name} must be non-empty")
  | _ => .error (validationError s!"controller_continuation.{name} must be non-empty")

@[simp] theorem requiredText_value (t : SolidText) (name : String) :
    requiredText (.str t.value) name = .ok t := dif_pos t.solid

/-- A text that may be left out. -/
def optionalText (value : Json) (name : String) : Except Raised (Option SolidText) :=
  match value with
  | .null => .ok none
  | value => (requiredText value name).map some

@[simp] theorem optionalText_value (t : Option SolidText) (name : String) :
    optionalText (Json.ofOption (t.map (·.value))) name = .ok t := by
  cases t with
  | none => rfl
  | some t =>
    change (requiredText (.str t.value) name).map some = _
    rw [requiredText_value]
    rfl

/-- A positive integer. -/
structure Positive where
  value : Int
  positive : 0 < value := by decide
  deriving DecidableEq

@[ext] theorem Positive.ext {m n : Positive} (same : m.value = n.value) : m = n := by
  cases m
  cases n
  cases same
  rfl

/-- `_positive_int`. -/
def positiveInt (value : Json) (name : String) : Except Raised Positive :=
  match value with
  | .int n =>
    if positive : 0 < n then .ok ⟨n, positive⟩
    else .error (validationError s!"controller_continuation.{name} must be int > 0")
  | _ => .error (validationError s!"controller_continuation.{name} must be int > 0")

@[simp] theorem positiveInt_value (n : Positive) (name : String) :
    positiveInt (.int n.value) name = .ok n := dif_pos n.positive

/-- An integer that is not negative. -/
structure NonNegative where
  value : Int
  nonneg : 0 ≤ value := by decide
  deriving DecidableEq

@[ext] theorem NonNegative.ext {m n : NonNegative} (same : m.value = n.value) : m = n := by
  cases m
  cases n
  cases same
  rfl

def nonNegativeInt (value : Json) (failure : Raised) : Except Raised NonNegative :=
  match value with
  | .int n => if nonneg : 0 ≤ n then .ok ⟨n, nonneg⟩ else .error failure
  | _ => .error failure

@[simp] theorem nonNegativeInt_value (n : NonNegative) (failure : Raised) :
    nonNegativeInt (.int n.value) failure = .ok n := dif_pos n.nonneg

/-! ## Phases -/

inductive ContinuationPhase where
  | preDispatch | waitExecutor | reviewExecutor | waitController | terminal
  deriving DecidableEq

namespace ContinuationPhase

def value : ContinuationPhase → String
  | preDispatch => "PRE_DISPATCH"
  | waitExecutor => "WAIT_EXECUTOR"
  | reviewExecutor => "REVIEW_EXECUTOR"
  | waitController => "WAIT_CONTROLLER"
  | terminal => "TERMINAL"

def ofValue? (v : Json) : Option ContinuationPhase :=
  [preDispatch, waitExecutor, reviewExecutor, waitController, terminal].find? (.str ·.value = v)

@[simp] theorem ofValue_value (p : ContinuationPhase) : ofValue? (.str p.value) = some p := by
  cases p <;> decide

end ContinuationPhase

inductive ContinuationStatus where
  | active | terminal
  deriving DecidableEq

namespace ContinuationStatus

def value : ContinuationStatus → String
  | active => "ACTIVE"
  | terminal => "TERMINAL"

def ofValue? (v : Json) : Option ContinuationStatus := [active, terminal].find? (.str ·.value = v)

@[simp] theorem ofValue_value (s : ContinuationStatus) : ofValue? (.str s.value) = some s := by
  cases s <;> decide

end ContinuationStatus

/-! ## Continuations -/

/-- `_WAIT_EXECUTOR_ACTIONS`. -/
def waitExecutorActions : List String := ["POLL_EXECUTOR", "AWAIT_EXECUTOR_EVENT"]

/-- Fields of `ControllerContinuation`. -/
structure ContinuationFields where
  runId : SolidText
  controllerEpoch : Positive
  phase : ContinuationPhase
  status : ContinuationStatus
  nextAction : SolidText
  controllerMailboxRef : SolidText
  controllerSeq : Positive
  executorActor : SolidText
  executorMailboxRef : SolidText
  expectedExecutorSeq : Positive
  lastSeenExecutorSeq : NonNegative
  wakeupBinding : SolidText
  exactHeadSha : SolidText
  updatedAt : SolidText
  humanRootRef : Option SolidText := none
  deriving DecidableEq

/-- What a status says about phase and next action. -/
def ContinuationFields.checkStatus (c : ContinuationFields) : Except Raised Unit :=
  match c.status with
  | .active =>
    ensure (¬ (c.phase = .terminal ∨ c.nextAction.value = "NONE"))
      (validationError "ACTIVE controller continuation must retain a non-terminal next action")
  | .terminal =>
    ensure (¬ (c.phase ≠ .terminal ∨ c.nextAction.value ≠ "NONE"))
      (validationError "TERMINAL controller continuation requires TERMINAL/NONE")

/-- What `__post_init__` checks across the fields. -/
def ContinuationFields.check (c : ContinuationFields) : Except Raised Unit := do
  c.checkStatus
  ensure (c.phase = .waitExecutor → c.lastSeenExecutorSeq.value < c.expectedExecutorSeq.value)
    (validationError "WAIT_EXECUTOR expected_executor_seq must be newer than last_seen_executor_seq")
  ensure (c.phase = .waitExecutor → c.nextAction.value ∈ waitExecutorActions)
    (validationError
      "WAIT_EXECUTOR controller continuation requires POLL_EXECUTOR or AWAIT_EXECUTOR_EVENT")

structure ControllerContinuation extends ContinuationFields where
  checked : toContinuationFields.check = .ok ()
  deriving DecidableEq

namespace ControllerContinuation

@[ext] theorem ext {c d : ControllerContinuation} (same : c.toContinuationFields = d.toContinuationFields) :
    c = d := by
  cases c
  cases d
  cases same
  rfl

/-- The constructor, after the checks of the single fields. -/
def make (fields : ContinuationFields) : Except Raised ControllerContinuation :=
  match checked : fields.check with
  | .ok () => .ok ⟨fields, checked⟩
  | .error e => .error e

@[simp] theorem make_fields (c : ControllerContinuation) : make c.toContinuationFields = .ok c := by
  unfold make
  split
  · rfl
  · next failed =>
    rw [c.checked] at failed
    cases failed

def continuationProtocol : String := "dw.taskcontroller.continuation/v1"

/-- The keys `from_dict` reads by subscription. -/
def requiredKeys : List String :=
  ["run_id", "controller_epoch", "phase", "status", "next_action", "controller_mailbox_ref",
    "controller_seq", "executor_actor", "executor_mailbox_ref", "expected_executor_seq",
    "last_seen_executor_seq", "wakeup_binding", "exact_head_sha", "updated_at"]

def toMembers (c : ControllerContinuation) : List (String × Json) :=
  [("protocol", .str continuationProtocol), ("run_id", .str c.runId.value),
    ("controller_epoch", .int c.controllerEpoch.value), ("phase", .str c.phase.value),
    ("status", .str c.status.value), ("next_action", .str c.nextAction.value),
    ("controller_mailbox_ref", .str c.controllerMailboxRef.value),
    ("controller_seq", .int c.controllerSeq.value), ("executor_actor", .str c.executorActor.value),
    ("executor_mailbox_ref", .str c.executorMailboxRef.value),
    ("expected_executor_seq", .int c.expectedExecutorSeq.value),
    ("last_seen_executor_seq", .int c.lastSeenExecutorSeq.value),
    ("wakeup_binding", .str c.wakeupBinding.value), ("exact_head_sha", .str c.exactHeadSha.value),
    ("updated_at", .str c.updatedAt.value)] ++
  (c.humanRootRef.map fun ref => ("human_root_ref", Json.str ref.value)).toList

/-- `to_dict`. -/
def toDict (c : ControllerContinuation) : Json := .obj c.toMembers

/-- `from_dict`. -/
def fromDict (payload : List (String × Json)) : Except Raised ControllerContinuation := do
  ensure (Json.get payload "protocol" = .str continuationProtocol)
    (validationError s!"controller_continuation.protocol must be {Json.reprString continuationProtocol}")
  ensure (∀ key ∈ requiredKeys, Json.member payload key ≠ none)
    (validationError "malformed controller continuation")
  let text (name : String) := requiredText (Json.get payload name) name
  let runId ← text "run_id"
  let nextAction ← text "next_action"
  let controllerMailboxRef ← text "controller_mailbox_ref"
  let executorActor ← text "executor_actor"
  let executorMailboxRef ← text "executor_mailbox_ref"
  let wakeupBinding ← text "wakeup_binding"
  let exactHeadSha ← text "exact_head_sha"
  let updatedAt ← text "updated_at"
  let controllerEpoch ← positiveInt (Json.get payload "controller_epoch") "controller_epoch"
  let controllerSeq ← positiveInt (Json.get payload "controller_seq") "controller_seq"
  let expectedExecutorSeq ← positiveInt (Json.get payload "expected_executor_seq") "expected_executor_seq"
  let lastSeenExecutorSeq ← nonNegativeInt (Json.get payload "last_seen_executor_seq")
    (validationError "controller_continuation.last_seen_executor_seq must be int >= 0")
  let humanRootRef ← optionalText (Json.get payload "human_root_ref") "human_root_ref"
  match ContinuationPhase.ofValue? (Json.get payload "phase"),
      ContinuationStatus.ofValue? (Json.get payload "status") with
  | some phase, some status =>
    make { runId, controllerEpoch, phase, status, nextAction, controllerMailboxRef, controllerSeq,
           executorActor, executorMailboxRef, expectedExecutorSeq, lastSeenExecutorSeq, wakeupBinding,
           exactHeadSha, updatedAt, humanRootRef }
  | _, _ => .error (validationError "controller_continuation phase/status unsupported")

/-- What is read under each key of a serialized continuation. -/
theorem get_toMembers (c : ControllerContinuation) :
    Json.get c.toMembers "protocol" = .str continuationProtocol ∧
    Json.get c.toMembers "run_id" = .str c.runId.value ∧
    Json.get c.toMembers "controller_epoch" = .int c.controllerEpoch.value ∧
    Json.get c.toMembers "phase" = .str c.phase.value ∧
    Json.get c.toMembers "status" = .str c.status.value ∧
    Json.get c.toMembers "next_action" = .str c.nextAction.value ∧
    Json.get c.toMembers "controller_mailbox_ref" = .str c.controllerMailboxRef.value ∧
    Json.get c.toMembers "controller_seq" = .int c.controllerSeq.value ∧
    Json.get c.toMembers "executor_actor" = .str c.executorActor.value ∧
    Json.get c.toMembers "executor_mailbox_ref" = .str c.executorMailboxRef.value ∧
    Json.get c.toMembers "expected_executor_seq" = .int c.expectedExecutorSeq.value ∧
    Json.get c.toMembers "last_seen_executor_seq" = .int c.lastSeenExecutorSeq.value ∧
    Json.get c.toMembers "wakeup_binding" = .str c.wakeupBinding.value ∧
    Json.get c.toMembers "exact_head_sha" = .str c.exactHeadSha.value ∧
    Json.get c.toMembers "updated_at" = .str c.updatedAt.value ∧
    Json.get c.toMembers "human_root_ref" = Json.ofOption (c.humanRootRef.map (·.value)) := by
  refine ⟨rfl, rfl, rfl, rfl, rfl, rfl, rfl, rfl, rfl, rfl, rfl, rfl, rfl, rfl, rfl, ?_⟩
  unfold toMembers
  cases c.humanRootRef <;> rfl

theorem requiredKeys_toMembers (c : ControllerContinuation) :
    ∀ key ∈ requiredKeys, Json.member c.toMembers key ≠ none := by
  intro key member
  have listed : key ∈ c.toMembers.map Prod.fst := by
    have names : ∀ key ∈ requiredKeys, key ∈ (c.toMembers.take 15).map Prod.fst := by
      change ∀ key ∈ requiredKeys, key ∈ "protocol" :: requiredKeys
      exact fun _ => List.mem_cons_of_mem _
    exact List.map_subset _ (List.take_subset 15 c.toMembers) (names key member)
  exact Json.member_ne_none listed

/-- A continuation read from its own serialization is the continuation. -/
@[simp] theorem fromDict_toMembers (c : ControllerContinuation) : fromDict c.toMembers = .ok c := by
  obtain ⟨protocol, runId, epoch, phase, status, action, mailbox, seq, actor, executor, expected, seen,
    wakeup, head, updated, root⟩ := c.get_toMembers
  unfold fromDict
  rw [ensure_of protocol, ensure_of c.requiredKeys_toMembers]
  simp only [ok_bind, runId, epoch, phase, status, action, mailbox, seq, actor, executor, expected,
    seen, wakeup, head, updated, root, requiredText_value, positiveInt_value, nonNegativeInt_value,
    optionalText_value, ContinuationPhase.ofValue_value, ContinuationStatus.ofValue_value]
  exact make_fields c

end ControllerContinuation

/-! ## Manifests -/

/-- `RunManifest`. The metadata is a JSON object. -/
structure RunManifest where
  runId : String
  manifestKind : String
  schemaVersion : String
  createdAt : String
  updatedAt : String
  metadata : List (String × Json)
  deriving DecidableEq

/-- `RunManifest.__post_init__`. -/
def RunManifest.check (m : RunManifest) : Except Raised Unit := do
  ensure (m.runId ≠ "") ⟨.value, "run_id is required"⟩
  ensure (m.manifestKind ≠ "") ⟨.value, "manifest_kind is required"⟩
  ensure (m.schemaVersion ≠ "") ⟨.value, "schema_version is required"⟩
  ensure (m.createdAt ≠ "") ⟨.value, "created_at is required"⟩
  ensure (m.updatedAt ≠ "") ⟨.value, "updated_at is required"⟩

/-- The constructor. -/
def RunManifest.make (m : RunManifest) : Except Raised RunManifest := do
  m.check
  return m

theorem RunManifest.make_ok {m : RunManifest} (run : m.runId ≠ "") (kind : m.manifestKind ≠ "")
    (version : m.schemaVersion ≠ "") (created : m.createdAt ≠ "") (updated : m.updatedAt ≠ "") :
    m.make = .ok m := by
  unfold RunManifest.make RunManifest.check
  rw [ensure_of run, ensure_of kind, ensure_of version, ensure_of created, ensure_of updated]
  rfl

def continuationManifestKind : String := ControllerContinuation.continuationProtocol

def continuationSchemaVersion : String := "1.0"

namespace ControllerContinuation

/-- `to_manifest` with a given creation time. -/
def manifestOf (c : ControllerContinuation) (createdAt : String) : RunManifest where
  runId := c.runId.value
  manifestKind := continuationManifestKind
  schemaVersion := continuationSchemaVersion
  createdAt := createdAt
  updatedAt := c.updatedAt.value
  metadata := c.toMembers

/-- `to_manifest`. -/
def toManifest (c : ControllerContinuation) (createdAt : String) : Except Raised RunManifest :=
  (c.manifestOf (if createdAt = "" then c.updatedAt.value else createdAt)).make

theorem toManifest_ok (c : ControllerContinuation) {createdAt : String} (given : createdAt ≠ "") :
    c.toManifest createdAt = .ok (c.manifestOf createdAt) := by
  unfold toManifest
  rw [if_neg given]
  have kind : continuationManifestKind ≠ "" := by decide
  have version : continuationSchemaVersion ≠ "" := by decide
  exact RunManifest.make_ok (ne_empty_of_strip c.runId.solid) kind version given
    (ne_empty_of_strip c.updatedAt.solid)

/-- `from_manifest`. -/
def fromManifest (m : RunManifest) : Except Raised ControllerContinuation := do
  ensure (m.manifestKind = continuationManifestKind)
    (validationError "unexpected continuation manifest kind")
  ensure (m.schemaVersion = continuationSchemaVersion)
    (validationError "unsupported continuation manifest version")
  let checkpoint ← fromDict m.metadata
  ensure (checkpoint.runId.value = m.runId) (validationError "continuation manifest run_id mismatch")
  return checkpoint

@[simp] theorem fromManifest_manifestOf (c : ControllerContinuation) (createdAt : String) :
    fromManifest (c.manifestOf createdAt) = .ok c := by
  have kind : (c.manifestOf createdAt).manifestKind = continuationManifestKind := rfl
  have version : (c.manifestOf createdAt).schemaVersion = continuationSchemaVersion := rfl
  have read : fromDict (c.manifestOf createdAt).metadata = .ok c := c.fromDict_toMembers
  have run : c.runId.value = (c.manifestOf createdAt).runId := rfl
  unfold fromManifest
  rw [ensure_of kind, ensure_of version, read]
  simp only [ok_bind]
  rw [ensure_of run]
  rfl

end ControllerContinuation

/-! ## The manifest table -/

/-- The manifests by run and kind. -/
abbrev ManifestTable := Dict (String × String) RunManifest

/-- `load_manifest`. -/
def loadManifest (table : ManifestTable) (runId manifestKind : String) : Option RunManifest :=
  table.get? (runId, manifestKind)

/-- `save_manifest`: an upsert that keeps the first creation time. -/
def saveManifest (m : RunManifest) (table : ManifestTable) : ManifestTable :=
  table.set (m.runId, m.manifestKind)
    { m with createdAt := (loadManifest table m.runId m.manifestKind).elim m.createdAt (·.createdAt) }

section Table
variable {table : ManifestTable} {m : RunManifest} {runId kind : String}

theorem load_saved (run : m.runId = runId) (same : m.manifestKind = kind) :
    loadManifest (saveManifest m table) runId kind =
      some { m with createdAt := (loadManifest table runId kind).elim m.createdAt (·.createdAt) } := by
  subst run same
  exact Dict.get?_set_self _ _ _

theorem load_saved_other (other : kind ≠ m.manifestKind) :
    loadManifest (saveManifest m table) runId kind = loadManifest table runId kind :=
  Dict.get?_set_of_ne _ (fun pair => other (Prod.mk.inj pair).2) _

end Table

end DwSuperApps.Source.Continuations
