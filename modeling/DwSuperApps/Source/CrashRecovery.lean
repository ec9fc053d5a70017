import DwSuperApps.Lib.Programs
import DwSuperApps.Lib.Sorted
import DwSuperApps.Source.Continuation

/-!
# Crash recovery bindings

`taskcontroller/controlplane/crash_recovery.py`, with the functions of
`taskcontroller/interaction/continuation.py` that read and write the table. A table
operation is one atomic operation of a program, so a process can stop between any
two of them.
-/
namespace DwSuperApps.Source.Recovery

open DwSuperApps.Lib DwSuperApps.Lib.Checked
open DwSuperApps.Lib.Programs (Prog)
open DwSuperApps.Source.Continuations

/-! ## Failures and fields -/

/-- `CrashRecoveryError(code, message)`. -/
def recoveryError (code : RecoveryCode) (message : String) : Raised :=
  ⟨.recovery code, s!"{code.value}: {message}"⟩

def invalid (message : String) : Raised := recoveryError .bindingInvalid message

def blocked (message : String) : Raised := recoveryError .reconciliationBlocked message

/-- A text that is not blank and holds no NUL. -/
structure SafeText extends SolidText where
  noNul : '\x00' ∉ value.toList := by decide
  deriving DecidableEq

@[ext] theorem SafeText.ext {s t : SafeText} (same : s.value = t.value) : s = t := by
  cases s
  cases t
  cases SolidText.ext same
  rfl

/-- `_text`. -/
def text (value : Json) (name : String) : Except Raised SafeText :=
  match value with
  | .str s =>
    if solid : strip s ≠ "" then
      if noNul : '\x00' ∉ s.toList then .ok ⟨⟨s, solid⟩, noNul⟩
      else .error (invalid s!"{name} must not contain NUL")
    else .error (invalid s!"{name} must be a non-empty string")
  | _ => .error (invalid s!"{name} must be a non-empty string")

@[simp] theorem text_value (t : SafeText) (name : String) : text (.str t.value) name = .ok t := by
  unfold text
  exact (dif_pos t.solid).trans (dif_pos t.noNul)

/-- `_positive_int`. -/
def recoveryPositiveInt (value : Json) (name : String) : Except Raised Positive :=
  match value with
  | .int n =>
    if positive : 0 < n then .ok ⟨n, positive⟩ else .error (invalid s!"{name} must be an integer > 0")
  | _ => .error (invalid s!"{name} must be an integer > 0")

@[simp] theorem recoveryPositiveInt_value (n : Positive) (name : String) :
    recoveryPositiveInt (.int n.value) name = .ok n := dif_pos n.positive

/-- `_mapping`. -/
def mapping (value : Json) (name : String) : Except Raised (List (String × Json)) :=
  match value with
  | .obj members => .ok members
  | _ => .error (invalid s!"{name} must be an object")

@[simp] theorem mapping_obj (members : List (String × Json)) (name : String) :
    mapping (.obj members) name = .ok members := rfl

/-- The keys that are not allowed, in the order `sorted` gives them. -/
def unexpected (members : List (String × Json)) (allowed : List String) : List String :=
  ((members.map Prod.fst).filter (· ∉ allowed)).mergeSort (· ≤ ·)

/-- `_strict_fields`. -/
def strictFields (members : List (String × Json)) (allowed : List String) (name : String) :
    Except Raised Unit :=
  ensure (∀ key ∈ members.map Prod.fst, key ∈ allowed)
    (invalid (s!"{name} contains unknown fields: " ++ ", ".intercalate (unexpected members allowed)))

/-- `payload[key]`, a `KeyError` reported as a missing field. -/
def required (members : List (String × Json)) (key message : String) : Except Raised Json :=
  match Json.member members key with
  | some value => .ok value
  | none => .error (invalid message)

@[simp] theorem required_of {members : List (String × Json)} {key : String} {value : Json}
    (found : Json.member members key = some value) (message : String) :
    required members key message = .ok value := by
  unfold required
  rw [found]

/-! ## Ledger and lease references -/

def crashRecoveryProtocol : String := "dw.taskcontroller.crash-recovery/v1"
def crashRecoveryManifestKind : String := crashRecoveryProtocol
def crashRecoverySchemaVersion : String := "1.0"
def ledgerRefProtocol : String := "dw.taskcontroller.run-ledger-ref/v1"

/-- `RunLedgerRef`. Its manifest kind is always the one of the recovery manifest. -/
structure RunLedgerRef where
  runId : SafeText
  deriving DecidableEq

namespace RunLedgerRef

def toMembers (r : RunLedgerRef) : List (String × Json) :=
  [("protocol", .str ledgerRefProtocol), ("run_id", .str r.runId.value),
    ("manifest_kind", .str crashRecoveryManifestKind)]

def missing : String := "ledger_ref is missing a required field"

/-- `from_dict`. -/
def fromDict (payload : List (String × Json)) : Except Raised RunLedgerRef := do
  strictFields payload ["protocol", "run_id", "manifest_kind"] "ledger_ref"
  ensure (Json.get payload "protocol" = .str ledgerRefProtocol)
    (invalid "unsupported Run Ledger reference protocol")
  let runId ← required payload "run_id" missing
  let manifestKind ← required payload "manifest_kind" missing
  let runId ← text runId "ledger_ref.run_id"
  ensure (manifestKind = .str crashRecoveryManifestKind)
    (invalid "ledger_ref.manifest_kind must identify the crash-recovery manifest")
  return { runId }

@[simp] theorem fromDict_toMembers (r : RunLedgerRef) : fromDict r.toMembers = .ok r := by
  have known : ∀ key ∈ r.toMembers.map Prod.fst, key ∈ ["protocol", "run_id", "manifest_kind"] := by
    change ∀ key ∈ ["protocol", "run_id", "manifest_kind"], _
    exact fun _ member => member
  have protocol : Json.get r.toMembers "protocol" = .str ledgerRefProtocol := rfl
  have runId : Json.member r.toMembers "run_id" = some (.str r.runId.value) := rfl
  have kind : Json.member r.toMembers "manifest_kind" = some (.str crashRecoveryManifestKind) := rfl
  unfold fromDict strictFields
  rw [ensure_of known, ensure_of protocol, required_of runId, required_of kind]
  simp only [ok_bind, text_value, ensure_true]
  rfl

end RunLedgerRef

structure LeaseRecoveryRef where
  leaseId : SafeText
  leaseGeneration : Positive
  fencingToken : SafeText
  deriving DecidableEq

namespace LeaseRecoveryRef

def toMembers (r : LeaseRecoveryRef) : List (String × Json) :=
  [("lease_id", .str r.leaseId.value), ("lease_generation", .int r.leaseGeneration.value),
    ("fencing_token", .str r.fencingToken.value)]

def missing : String := "active_lease is missing a required field"

/-- `from_dict`. -/
def fromDict (payload : List (String × Json)) : Except Raised LeaseRecoveryRef := do
  strictFields payload ["lease_id", "lease_generation", "fencing_token"] "active_lease"
  let leaseId ← required payload "lease_id" missing
  let leaseGeneration ← required payload "lease_generation" missing
  let fencingToken ← required payload "fencing_token" missing
  let leaseId ← text leaseId "active_lease.lease_id"
  let leaseGeneration ← recoveryPositiveInt leaseGeneration "active_lease.lease_generation"
  let fencingToken ← text fencingToken "active_lease.fencing_token"
  return { leaseId, leaseGeneration, fencingToken }

@[simp] theorem fromDict_toMembers (r : LeaseRecoveryRef) : fromDict r.toMembers = .ok r := by
  have known : ∀ key ∈ r.toMembers.map Prod.fst, key ∈ ["lease_id", "lease_generation", "fencing_token"] := by
    change ∀ key ∈ ["lease_id", "lease_generation", "fencing_token"], _
    exact fun _ member => member
  have leaseId : Json.member r.toMembers "lease_id" = some (.str r.leaseId.value) := rfl
  have generation : Json.member r.toMembers "lease_generation" = some (.int r.leaseGeneration.value) := rfl
  have token : Json.member r.toMembers "fencing_token" = some (.str r.fencingToken.value) := rfl
  unfold fromDict strictFields
  rw [ensure_of known, required_of leaseId, required_of generation, required_of token]
  simp only [ok_bind, text_value, recoveryPositiveInt_value]
  rfl

end LeaseRecoveryRef

/-! ## Mailbox references -/

/-- A text that is not empty. -/
@[ext] structure NonEmptyText where
  value : String
  nonempty : value ≠ "" := by decide

instance : DecidableEq NonEmptyText := fun _ _ => decidable_of_iff _ NonEmptyText.ext_iff.symm

/-- An optional text of a cursor. -/
def cursorText (value : Json) (name : String) : Except Raised (Option NonEmptyText) :=
  match value with
  | .null => .ok none
  | .str s =>
    if nonempty : s ≠ "" then .ok (some ⟨s, nonempty⟩)
    else .error (validationError s!"mailbox_cursor.{name} must be non-empty when supplied")
  | _ => .error (validationError s!"mailbox_cursor.{name} must be non-empty when supplied")

@[simp] theorem cursorText_value (t : Option NonEmptyText) (name : String) :
    cursorText (Json.ofOption (t.map (·.value))) name = .ok t := by
  cases t with
  | none => rfl
  | some t => exact dif_pos t.nonempty

/-- `MailboxCursor`. -/
structure MailboxCursor where
  actor : SolidText
  lastSeenSeq : NonNegative
  mailboxRef : Option NonEmptyText
  lastHeadSha : Option NonEmptyText
  deriving DecidableEq

namespace MailboxCursor

def toMembers (c : MailboxCursor) : List (String × Json) :=
  [("actor", .str c.actor.value), ("last_seen_seq", .int c.lastSeenSeq.value)] ++
  (c.mailboxRef.map fun ref => ("mailbox_ref", Json.str ref.value)).toList ++
  (c.lastHeadSha.map fun sha => ("last_head_sha", Json.str sha.value)).toList

/-- `_required_text` of the envelope module. -/
def actorText (value : Json) : Except Raised SolidText :=
  match value with
  | .str s =>
    if solid : strip s ≠ "" then .ok ⟨s, solid⟩
    else .error (validationError "a2a_envelope.cursor.actor must be non-empty")
  | _ => .error (validationError "a2a_envelope.cursor.actor must be non-empty")

@[simp] theorem actorText_value (t : SolidText) : actorText (.str t.value) = .ok t := dif_pos t.solid

/-- `from_dict`. -/
def fromDict (payload : List (String × Json)) : Except Raised MailboxCursor := do
  ensure (Json.member payload "actor" ≠ none) (validationError "malformed mailbox_cursor payload")
  let actor ← actorText (Json.get payload "actor")
  let lastSeenSeq ← nonNegativeInt ((Json.member payload "last_seen_seq").getD (.int 0))
    (validationError "mailbox_cursor.last_seen_seq must be int >= 0")
  let mailboxRef ← cursorText (Json.get payload "mailbox_ref") "mailbox_ref"
  let lastHeadSha ← cursorText (Json.get payload "last_head_sha") "last_head_sha"
  return { actor, lastSeenSeq, mailboxRef, lastHeadSha }

/-- `_CURSOR_FIELDS`. -/
def cursorFields : List String := ["actor", "last_seen_seq", "mailbox_ref", "last_head_sha"]

theorem get_toMembers (c : MailboxCursor) :
    Json.member c.toMembers "actor" = some (.str c.actor.value) ∧
    Json.member c.toMembers "last_seen_seq" = some (.int c.lastSeenSeq.value) ∧
    Json.get c.toMembers "mailbox_ref" = Json.ofOption (c.mailboxRef.map (·.value)) ∧
    Json.get c.toMembers "last_head_sha" = Json.ofOption (c.lastHeadSha.map (·.value)) := by
  unfold toMembers
  cases c.mailboxRef <;> cases c.lastHeadSha <;> exact ⟨rfl, rfl, rfl, rfl⟩

theorem fields_toMembers (c : MailboxCursor) : ∀ key ∈ c.toMembers.map Prod.fst, key ∈ cursorFields := by
  unfold toMembers cursorFields
  cases c.mailboxRef <;> cases c.lastHeadSha <;> simp

@[simp] theorem fromDict_toMembers (c : MailboxCursor) : fromDict c.toMembers = .ok c := by
  obtain ⟨actor, seen, ref, head⟩ := c.get_toMembers
  have present : Json.member c.toMembers "actor" ≠ none := by
    rw [actor]
    exact Option.some_ne_none _
  have actorRead : Json.get c.toMembers "actor" = .str c.actor.value := by
    unfold Json.get
    rw [actor]
    rfl
  unfold fromDict
  rw [ensure_of present, seen]
  simp only [ok_bind, actorRead, ref, head, Option.getD_some, actorText_value, nonNegativeInt_value,
    cursorText_value]
  rfl

end MailboxCursor

structure MailboxFields where
  actor : SafeText
  mailboxRef : SafeText
  cursor : MailboxCursor
  targetSeq : Positive
  deriving DecidableEq

/-- What `__post_init__` checks across the fields. -/
def MailboxFields.check (m : MailboxFields) : Except Raised Unit := do
  ensure (m.cursor.actor.value = m.actor.value)
    (invalid "mailbox cursor actor does not match mailbox actor")
  ensure (m.cursor.mailboxRef.map (·.value) = some m.mailboxRef.value)
    (invalid "mailbox cursor ref does not match mailbox ref")
  ensure (m.cursor.lastSeenSeq.value ≤ m.targetSeq.value)
    (invalid "mailbox target sequence cannot precede cursor")

structure MailboxRecoveryRef extends MailboxFields where
  checked : toMailboxFields.check = .ok ()
  deriving DecidableEq

namespace MailboxRecoveryRef

def make (fields : MailboxFields) : Except Raised MailboxRecoveryRef :=
  match checked : fields.check with
  | .ok () => .ok ⟨fields, checked⟩
  | .error e => .error e

@[simp] theorem make_fields (m : MailboxRecoveryRef) : make m.toMailboxFields = .ok m := by
  unfold make
  split
  · rfl
  · next failed =>
    rw [m.checked] at failed
    cases failed

def toMembers (m : MailboxRecoveryRef) : List (String × Json) :=
  [("actor", .str m.actor.value), ("mailbox_ref", .str m.mailboxRef.value),
    ("cursor", .obj m.cursor.toMembers), ("target_seq", .int m.targetSeq.value)]

def missing : String := "mailbox reference is missing a required field"

/-- `from_dict`. -/
def fromDict (payload : List (String × Json)) : Except Raised MailboxRecoveryRef := do
  strictFields payload ["actor", "mailbox_ref", "cursor", "target_seq"] "mailbox"
  let cursorPayload ← mapping (Json.get payload "cursor") "mailbox.cursor"
  strictFields cursorPayload MailboxCursor.cursorFields "mailbox.cursor"
  let cursor ← MailboxCursor.fromDict cursorPayload
  let actor ← required payload "actor" missing
  let mailboxRef ← required payload "mailbox_ref" missing
  let targetSeq ← required payload "target_seq" missing
  let actor ← text actor "mailbox.actor"
  let mailboxRef ← text mailboxRef "mailbox.mailbox_ref"
  let targetSeq ← recoveryPositiveInt targetSeq "mailbox.target_seq"
  make { actor, mailboxRef, cursor, targetSeq }

@[simp] theorem fromDict_toMembers (m : MailboxRecoveryRef) : fromDict m.toMembers = .ok m := by
  have known : ∀ key ∈ m.toMembers.map Prod.fst, key ∈ ["actor", "mailbox_ref", "cursor", "target_seq"] := by
    change ∀ key ∈ ["actor", "mailbox_ref", "cursor", "target_seq"], _
    exact fun _ member => member
  have cursor : Json.get m.toMembers "cursor" = .obj m.cursor.toMembers := rfl
  have actor : Json.member m.toMembers "actor" = some (.str m.actor.value) := rfl
  have ref : Json.member m.toMembers "mailbox_ref" = some (.str m.mailboxRef.value) := rfl
  have target : Json.member m.toMembers "target_seq" = some (.int m.targetSeq.value) := rfl
  unfold fromDict strictFields
  rw [ensure_of known, cursor, required_of actor, required_of ref, required_of target]
  simp only [ok_bind, mapping_obj, MailboxCursor.fromDict_toMembers, text_value, recoveryPositiveInt_value]
  rw [ensure_of m.cursor.fields_toMembers]
  exact make_fields m

end MailboxRecoveryRef

/-! ## Bindings -/

/-- Fields of `ControllerRecoveryBinding` that are checked against each other. -/
structure BindingFields where
  runId : SafeText
  nodeId : SafeText
  controllerActor : SafeText
  continuation : ControllerContinuation
  ledgerRef : RunLedgerRef
  controllerMailbox : MailboxRecoveryRef
  executorMailbox : MailboxRecoveryRef
  exactHeadSha : SafeText
  updatedAt : SafeText
  deriving DecidableEq

/-- What `__post_init__` checks across the fields. -/
def BindingFields.check (b : BindingFields) : Except Raised Unit := do
  ensure (b.runId.value = b.continuation.runId.value ∧ b.ledgerRef.runId = b.runId)
    (blocked "run identity differs across recovery surfaces")
  ensure (b.exactHeadSha.value = b.continuation.exactHeadSha.value)
    (blocked "exact head differs from continuation")
  ensure (b.controllerMailbox.actor = b.controllerActor ∧
      b.controllerMailbox.mailboxRef.value = b.continuation.controllerMailboxRef.value ∧
      b.controllerMailbox.cursor.lastSeenSeq.value = b.continuation.controllerSeq.value ∧
      b.controllerMailbox.targetSeq = b.continuation.controllerSeq)
    (blocked "Controller mailbox ref/cursor differs from continuation")
  ensure (b.executorMailbox.actor.value = b.continuation.executorActor.value ∧
      b.executorMailbox.mailboxRef.value = b.continuation.executorMailboxRef.value ∧
      b.executorMailbox.cursor.lastSeenSeq = b.continuation.lastSeenExecutorSeq ∧
      b.executorMailbox.targetSeq = b.continuation.expectedExecutorSeq)
    (blocked "Executor mailbox ref/cursor differs from continuation")

/-- References that are safe and not empty. -/
def SafeRefs (refs : List String) : Prop := ∀ ref ∈ refs, ref ≠ "" ∧ '\x00' ∉ ref.toList

instance (refs : List String) : Decidable (SafeRefs refs) := by unfold SafeRefs; infer_instance

structure ControllerRecoveryBinding extends BindingFields where
  checked : toBindingFields.check = .ok ()
  evidenceRefs : List String := []
  safeRefs : SafeRefs evidenceRefs := by decide
  distinct : evidenceRefs.Nodup := by decide
  normalizedResultRef : Option SafeText := none
  activeLease : Option LeaseRecoveryRef := none
  deriving DecidableEq

/-- The text of a reference, if it is one. -/
def refText : Json → Option String
  | .str s => some s
  | _ => none

@[simp] theorem mapM_refText (refs : List String) : (refs.map Json.str).mapM refText = some refs := by
  induction refs with
  | nil => rfl
  | cons ref rest ih =>
    rw [List.map_cons, List.mapM_cons, ih]
    rfl

namespace ControllerRecoveryBinding

/-- A binding is of the run of its continuation. -/
theorem sameRun (b : ControllerRecoveryBinding) : b.runId.value = b.continuation.runId.value := by
  have checked := b.checked
  unfold BindingFields.check at checked
  obtain ⟨_, identity, -⟩ := Checked.bind_ok.mp checked
  exact (ensure_ok.mp identity).1

/-- An optional result reference. -/
def resultRef (value : Json) : Except Raised (Option SafeText) :=
  match value with
  | .null => .ok none
  | value => (text value "recovery.normalized_result_ref").map some

@[simp] theorem resultRef_value (t : Option SafeText) :
    resultRef (Json.ofOption (t.map (·.value))) = .ok t := by
  cases t with
  | none => rfl
  | some t =>
    change (text (.str t.value) _).map some = _
    rw [text_value]
    rfl

/-- The checks on the references, and the binding. -/
def withRefs (fields : BindingFields) (checked : fields.check = .ok ())
    (normalizedResultRef : Option SafeText) (evidenceRefs : List Json)
    (activeLease : Option LeaseRecoveryRef) : Except Raised ControllerRecoveryBinding :=
  match evidenceRefs.mapM refText with
  | none => .error (invalid "recovery.evidence_refs must contain safe non-empty refs")
  | some refs =>
    if safeRefs : SafeRefs refs then
      if distinct : refs.Nodup then
        .ok { fields with checked, normalizedResultRef, evidenceRefs := refs, safeRefs, distinct, activeLease }
      else .error (invalid "recovery.evidence_refs must not contain duplicates")
    else .error (invalid "recovery.evidence_refs must contain safe non-empty refs")

/-- The constructor, after the checks of the single fields before the continuation. -/
def make (fields : BindingFields) (evidenceRefs : List Json) (normalizedResultRef : Json)
    (activeLease : Option LeaseRecoveryRef) : Except Raised ControllerRecoveryBinding :=
  match checked : fields.check with
  | .error e => .error e
  | .ok () =>
    match resultRef normalizedResultRef with
    | .error e => .error e
    | .ok ref => withRefs fields checked ref evidenceRefs activeLease

@[simp] theorem make_fields (b : ControllerRecoveryBinding) :
    make b.toBindingFields (b.evidenceRefs.map .str) (Json.ofOption (b.normalizedResultRef.map (·.value)))
      b.activeLease = .ok b := by
  unfold make
  split
  · next failed =>
    rw [b.checked] at failed
    cases failed
  · rw [resultRef_value]
    unfold withRefs
    rw [mapM_refText]
    exact (dif_pos b.safeRefs).trans (dif_pos b.distinct)

/-- `_payload`. -/
def payload (b : ControllerRecoveryBinding) : List (String × Json) :=
  [("protocol", .str crashRecoveryProtocol), ("schema_version", .str crashRecoverySchemaVersion),
    ("run_id", .str b.runId.value), ("node_id", .str b.nodeId.value),
    ("controller_actor", .str b.controllerActor.value), ("continuation", b.continuation.toDict),
    ("ledger_ref", .obj b.ledgerRef.toMembers),
    ("mailboxes", .obj [("controller", .obj b.controllerMailbox.toMembers),
      ("executor", .obj b.executorMailbox.toMembers)]),
    ("exact_head_sha", .str b.exactHeadSha.value), ("updated_at", .str b.updatedAt.value),
    ("evidence_refs", .arr (b.evidenceRefs.map .str)),
    ("normalized_result_ref", Json.ofOption (b.normalizedResultRef.map (·.value))),
    ("active_lease", (b.activeLease.map fun lease => Json.obj lease.toMembers).getD .null)]

/-- `binding_digest`. -/
def bindingDigest [Sha256] (b : ControllerRecoveryBinding) : Digest := canonicalDigest (.obj b.payload)

/-- `to_dict`. -/
def toDict [Sha256] (b : ControllerRecoveryBinding) : List (String × Json) :=
  b.payload ++ [("binding_digest", .str b.bindingDigest.value)]

/-- The fields `from_dict` knows. -/
def knownFields : List String :=
  ["protocol", "schema_version", "run_id", "node_id", "controller_actor", "continuation", "ledger_ref",
    "mailboxes", "exact_head_sha", "updated_at", "evidence_refs", "normalized_result_ref",
    "active_lease", "binding_digest"]

/-- `_CONTINUATION_FIELDS`. -/
def continuationFields : List String :=
  "protocol" :: ControllerContinuation.requiredKeys ++ ["human_root_ref"]

def missing : String := "recovery binding is missing a required field"

/-- `payload.get("evidence_refs", ())` as an array. -/
def evidenceArray (members : List (String × Json)) : Except Raised (List Json) :=
  match (Json.member members "evidence_refs").getD (.arr []) with
  | .arr refs => .ok refs
  | _ => .error (invalid "evidence_refs must be an array")

/-- The lease of a payload. -/
def leaseOf (value : Json) : Except Raised (Option LeaseRecoveryRef) :=
  match value with
  | .null => .ok none
  | value => do
    let members ← mapping value "active_lease"
    let lease ← LeaseRecoveryRef.fromDict members
    return some lease

@[simp] theorem leaseOf_value (lease : Option LeaseRecoveryRef) :
    leaseOf ((lease.map fun lease => Json.obj lease.toMembers).getD .null) = .ok lease := by
  cases lease with
  | none => rfl
  | some lease =>
    change (LeaseRecoveryRef.fromDict lease.toMembers >>= fun read => Except.ok (some read)) = _
    rw [LeaseRecoveryRef.fromDict_toMembers]
    rfl

/-- The binding of a payload, its digest not yet compared. -/
def read (members : List (String × Json)) : Except Raised ControllerRecoveryBinding := do
  strictFields members knownFields "recovery binding"
  ensure (Json.get members "protocol" = .str crashRecoveryProtocol)
    (invalid "unsupported crash-recovery protocol")
  ensure (Json.get members "schema_version" = .str crashRecoverySchemaVersion)
    (invalid "unsupported crash-recovery schema version")
  let continuationPayload ← mapping (Json.get members "continuation") "continuation"
  strictFields continuationPayload continuationFields "continuation"
  let mailboxes ← mapping (Json.get members "mailboxes") "mailboxes"
  strictFields mailboxes ["controller", "executor"] "mailboxes"
  let evidence ← evidenceArray members
  let runId ← required members "run_id" missing
  let nodeId ← required members "node_id" missing
  let controllerActor ← required members "controller_actor" missing
  let continuation ← ControllerContinuation.fromDict continuationPayload
  let ledgerValue ← required members "ledger_ref" missing
  let ledgerMembers ← mapping ledgerValue "ledger_ref"
  let ledgerRef ← RunLedgerRef.fromDict ledgerMembers
  let controllerValue ← required mailboxes "controller" missing
  let controllerMembers ← mapping controllerValue "mailboxes.controller"
  let controllerMailbox ← MailboxRecoveryRef.fromDict controllerMembers
  let executorValue ← required mailboxes "executor" missing
  let executorMembers ← mapping executorValue "mailboxes.executor"
  let executorMailbox ← MailboxRecoveryRef.fromDict executorMembers
  let exactHeadSha ← required members "exact_head_sha" missing
  let updatedAt ← required members "updated_at" missing
  let activeLease ← leaseOf (Json.get members "active_lease")
  let runId ← text runId "recovery.run_id"
  let nodeId ← text nodeId "recovery.node_id"
  let controllerActor ← text controllerActor "recovery.controller_actor"
  let exactHeadSha ← text exactHeadSha "recovery.exact_head_sha"
  let updatedAt ← text updatedAt "recovery.updated_at"
  make { runId, nodeId, controllerActor, continuation, ledgerRef, controllerMailbox, executorMailbox,
         exactHeadSha, updatedAt }
    evidence (Json.get members "normalized_result_ref") activeLease

/-- `from_dict`. -/
def fromDict [Sha256] (members : List (String × Json)) : Except Raised ControllerRecoveryBinding := do
  let binding ← read members
  ensure (Json.get members "binding_digest" = .str binding.bindingDigest.value)
    (recoveryError .digestMismatch "recovery binding digest differs from canonical bytes")
  return binding

theorem continuation_fields (c : ControllerContinuation) :
    ∀ key ∈ c.toMembers.map Prod.fst, key ∈ continuationFields := by
  have base : (c.toMembers.take 15).map Prod.fst = "protocol" :: ControllerContinuation.requiredKeys := rfl
  unfold continuationFields
  rw [← base]
  unfold ControllerContinuation.toMembers
  cases c.humanRootRef <;> simp

theorem mailbox_fields (controller executor : Json) :
    ∀ key ∈ [("controller", controller), ("executor", executor)].map Prod.fst,
      key ∈ ["controller", "executor"] := fun _ member => member

section RoundTrip
variable [Sha256] (b : ControllerRecoveryBinding)

/-- What is read under each key of a serialized binding. -/
theorem member_toDict :
    Json.member b.toDict "protocol" = some (.str crashRecoveryProtocol) ∧
    Json.member b.toDict "schema_version" = some (.str crashRecoverySchemaVersion) ∧
    Json.member b.toDict "run_id" = some (.str b.runId.value) ∧
    Json.member b.toDict "node_id" = some (.str b.nodeId.value) ∧
    Json.member b.toDict "controller_actor" = some (.str b.controllerActor.value) ∧
    Json.member b.toDict "continuation" = some (.obj b.continuation.toMembers) ∧
    Json.member b.toDict "ledger_ref" = some (.obj b.ledgerRef.toMembers) ∧
    Json.member b.toDict "mailboxes" = some (.obj [("controller", .obj b.controllerMailbox.toMembers),
      ("executor", .obj b.executorMailbox.toMembers)]) ∧
    Json.member b.toDict "exact_head_sha" = some (.str b.exactHeadSha.value) ∧
    Json.member b.toDict "updated_at" = some (.str b.updatedAt.value) ∧
    Json.member b.toDict "evidence_refs" = some (.arr (b.evidenceRefs.map .str)) ∧
    Json.member b.toDict "normalized_result_ref" =
      some (Json.ofOption (b.normalizedResultRef.map (·.value))) ∧
    Json.member b.toDict "active_lease" =
      some ((b.activeLease.map fun lease => Json.obj lease.toMembers).getD .null) ∧
    Json.member b.toDict "binding_digest" = some (.str b.bindingDigest.value) :=
  ⟨rfl, rfl, rfl, rfl, rfl, rfl, rfl, rfl, rfl, rfl, rfl, rfl, rfl, rfl⟩

/-- A serialized binding is read as the binding it came from. -/
theorem read_toDict : read b.toDict = .ok b := by
  obtain ⟨protocol, version, runId, nodeId, actor, continuation, ledger, mailboxes, head, updated,
    evidence, result, lease, -⟩ := b.member_toDict
  have known : ∀ key ∈ b.toDict.map Prod.fst, key ∈ knownFields := fun _ member => member
  have controllerFound : Json.member [("controller", .obj b.controllerMailbox.toMembers),
      ("executor", .obj b.executorMailbox.toMembers)] "controller" =
        some (.obj b.controllerMailbox.toMembers) := rfl
  have executorFound : Json.member [("controller", .obj b.controllerMailbox.toMembers),
      ("executor", .obj b.executorMailbox.toMembers)] "executor" =
        some (.obj b.executorMailbox.toMembers) := rfl
  have continuationRead : mapping (Json.get b.toDict "continuation") "continuation" =
      .ok b.continuation.toMembers := by rw [Json.get_of continuation, mapping_obj]
  have mailboxesRead : mapping (Json.get b.toDict "mailboxes") "mailboxes" =
      .ok [("controller", .obj b.controllerMailbox.toMembers),
        ("executor", .obj b.executorMailbox.toMembers)] := by rw [Json.get_of mailboxes, mapping_obj]
  have evidenceRead : evidenceArray b.toDict = .ok (b.evidenceRefs.map .str) := by
    unfold evidenceArray
    rw [evidence]
    rfl
  have leaseRead : leaseOf (Json.get b.toDict "active_lease") = .ok b.activeLease := by
    rw [Json.get_of lease, leaseOf_value]
  unfold read
  refine (bind_of (ensure_of known _) _).trans ((bind_of (ensure_of (Json.get_of protocol) _) _).trans ?_)
  refine (bind_of (ensure_of (Json.get_of version) _) _).trans ((bind_of continuationRead _).trans ?_)
  refine (bind_of (ensure_of (continuation_fields b.continuation) _) _).trans ((bind_of mailboxesRead _).trans ?_)
  refine (bind_of (ensure_of (mailbox_fields _ _) _) _).trans ((bind_of evidenceRead _).trans ?_)
  refine (bind_of (required_of runId _) _).trans ((bind_of (required_of nodeId _) _).trans ?_)
  refine (bind_of (required_of actor _) _).trans ((bind_of b.continuation.fromDict_toMembers _).trans ?_)
  refine (bind_of (required_of ledger _) _).trans ((bind_of (mapping_obj _ _) _).trans ?_)
  refine (bind_of b.ledgerRef.fromDict_toMembers _).trans ((bind_of (required_of controllerFound _) _).trans ?_)
  refine (bind_of (mapping_obj _ _) _).trans ((bind_of b.controllerMailbox.fromDict_toMembers _).trans ?_)
  refine (bind_of (required_of executorFound _) _).trans ((bind_of (mapping_obj _ _) _).trans ?_)
  refine (bind_of b.executorMailbox.fromDict_toMembers _).trans ((bind_of (required_of head _) _).trans ?_)
  refine (bind_of (required_of updated _) _).trans ((bind_of leaseRead _).trans ?_)
  refine (bind_of (text_value _ _) _).trans ((bind_of (text_value _ _) _).trans ?_)
  refine (bind_of (text_value _ _) _).trans ((bind_of (text_value _ _) _).trans ?_)
  refine (bind_of (text_value _ _) _).trans ?_
  rw [Json.get_of result]
  exact b.make_fields

/-- `from_dict(to_dict(b)) == b`. -/
theorem fromDict_toDict : fromDict b.toDict = .ok b := by
  have digest : Json.get b.toDict "binding_digest" = .str b.bindingDigest.value := rfl
  unfold fromDict
  rw [b.read_toDict]
  simp only [ok_bind]
  rw [ensure_of digest]
  rfl

end RoundTrip

/-- `to_manifest`. -/
def manifestOf [Sha256] (b : ControllerRecoveryBinding) : RunManifest where
  runId := b.runId.value
  manifestKind := crashRecoveryManifestKind
  schemaVersion := crashRecoverySchemaVersion
  createdAt := b.updatedAt.value
  updatedAt := b.updatedAt.value
  metadata := b.toDict

/-- `to_manifest`, without a creation time of its own. -/
def toManifest [Sha256] (b : ControllerRecoveryBinding) : Except Raised RunManifest := b.manifestOf.make

theorem toManifest_ok [Sha256] (b : ControllerRecoveryBinding) : b.toManifest = .ok b.manifestOf := by
  have kind : crashRecoveryManifestKind ≠ "" := by decide
  have version : crashRecoverySchemaVersion ≠ "" := by decide
  have updated := ne_empty_of_strip b.updatedAt.solid
  exact RunManifest.make_ok (ne_empty_of_strip b.runId.solid) kind version updated updated

/-- `from_manifest`. -/
def fromManifest [Sha256] (m : RunManifest) : Except Raised ControllerRecoveryBinding := do
  ensure (m.manifestKind = crashRecoveryManifestKind)
    (invalid "unexpected crash-recovery manifest kind")
  ensure (m.schemaVersion = crashRecoverySchemaVersion)
    (invalid "unsupported crash-recovery manifest version")
  let binding ← fromDict m.metadata
  ensure (binding.runId.value = m.runId) (blocked "manifest and binding run IDs differ")
  return binding

/-- A binding is read back from its manifest, whatever the time it was first saved. -/
@[simp] theorem fromManifest_manifestOf [Sha256] (b : ControllerRecoveryBinding) (createdAt : String) :
    fromManifest { b.manifestOf with createdAt } = .ok b := by
  have kind : ({ b.manifestOf with createdAt } : RunManifest).manifestKind = crashRecoveryManifestKind := rfl
  have version : ({ b.manifestOf with createdAt } : RunManifest).schemaVersion =
    crashRecoverySchemaVersion := rfl
  have metadata : fromDict ({ b.manifestOf with createdAt } : RunManifest).metadata = .ok b :=
    b.fromDict_toDict
  have run : b.runId.value = ({ b.manifestOf with createdAt } : RunManifest).runId := rfl
  unfold fromManifest
  rw [ensure_of kind, ensure_of version, metadata]
  simp only [ok_bind]
  rw [ensure_of run]
  rfl

end ControllerRecoveryBinding

/-! ## Reading and writing the table -/

/-- `load_manifest`. -/
def load (runId manifestKind : String) : Prog ManifestTable Raised (Option RunManifest) :=
  Prog.observe fun table => .ok (loadManifest table runId manifestKind)

/-- `save_manifest`. -/
def save (m : RunManifest) : Prog ManifestTable Raised Unit :=
  Prog.operation fun table => (.ok (), saveManifest m table)

/-- `persist_continuation`. -/
def persistContinuation (checkpoint : ControllerContinuation) : Prog ManifestTable Raised Unit := do
  let existing ← load checkpoint.runId.value continuationManifestKind
  let createdAt := existing.elim checkpoint.updatedAt.value (·.createdAt)
  let manifest ← checkpoint.toManifest createdAt
  save manifest

/-- `from_manifest` of a manifest that may be missing. -/
def readContinuation (manifest : Option RunManifest) : Except Raised (Option ControllerContinuation) :=
  match manifest with
  | none => .ok none
  | some m => (ControllerContinuation.fromManifest m).map some

/-- `recover_continuation`. -/
def recoverContinuation (runId : String) :
    Prog ManifestTable Raised (Option ControllerContinuation) := do
  let manifest ← load runId continuationManifestKind
  readContinuation manifest

/-- The binding of a manifest; an error that is not of crash recovery is wrapped. -/
def readBinding [Sha256] (manifest : Option RunManifest) : Except Raised ControllerRecoveryBinding :=
  match manifest with
  | none => .error (blocked "crash-recovery manifest is missing")
  | some m =>
    match ControllerRecoveryBinding.fromManifest m with
    | .ok binding => .ok binding
    | .error e =>
      match e.kind with
      | .recovery _ => .error e
      | _ => .error (blocked s!"recovery manifest cannot be read: {e.message}")

/-- `recover_recovery_binding`. -/
def recoverRecoveryBinding [Sha256] (runId : String) :
    Prog ManifestTable Raised ControllerRecoveryBinding := do
  let _ ← text (.str runId) "run_id"
  let manifest ← load runId crashRecoveryManifestKind
  let binding ← readBinding manifest
  let durable ← recoverContinuation runId
  ensure (durable = some binding.continuation)
    (blocked "Run Ledger continuation does not match recovery manifest")
  return binding

/-- `persist_recovery_binding` where a recovery manifest is recorded. -/
def confirmBinding [Sha256] (binding : ControllerRecoveryBinding) (existing : RunManifest) :
    Prog ManifestTable Raised ControllerRecoveryBinding := do
  let bound ← ControllerRecoveryBinding.fromManifest existing
  ensure (bound = binding) (blocked "existing recovery manifest conflicts with binding")
  let durable ← recoverContinuation binding.runId.value
  ensure (durable = some binding.continuation) (blocked "existing continuation conflicts with binding")
  return binding

/-- `persist_recovery_binding` where none is. -/
def recordBinding [Sha256] (binding : ControllerRecoveryBinding) :
    Prog ManifestTable Raised ControllerRecoveryBinding := do
  let durable ← recoverContinuation binding.runId.value
  ensure (∀ c ∈ durable, c = binding.continuation)
    (blocked "existing continuation conflicts with binding")
  persistContinuation binding.continuation
  let manifest ← binding.toManifest
  save manifest
  let recovered ← recoverRecoveryBinding binding.runId.value
  ensure (recovered = binding)
    (recoveryError .digestMismatch "recovery manifest exact readback differs from binding")
  return binding

/-- `persist_recovery_binding`. -/
def persistRecoveryBinding [Sha256] (binding : ControllerRecoveryBinding) :
    Prog ManifestTable Raised ControllerRecoveryBinding := do
  let existing ← load binding.runId.value crashRecoveryManifestKind
  match existing with
  | some manifest => confirmBinding binding manifest
  | none => recordBinding binding

end DwSuperApps.Source.Recovery
