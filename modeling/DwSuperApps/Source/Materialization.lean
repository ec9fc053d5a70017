import DwSuperApps.Lib.Checked
import DwSuperApps.Source.Envelope

/-!
# Materialization requests

`validate_materialization_request` of `taskcontroller/runtime/high_integrity_session.py`, with
`BoundedMailboxRequest.from_mapping` of `taskcontroller/controlplane/request_compiler.py`. A
value is told apart as the scans tell it apart: a mapping, a sequence, or anything else. The
fields of a request that no check reads are kept as they were given.
-/
namespace DwSuperApps.Source.Materialization

open DwSuperApps.Lib DwSuperApps.Lib.Checked
open DwSuperApps.Source.Envelope (Raised mailboxError)

/-! ## Values -/

/-- A key of a mapping; one that is no text is known by its `str`. -/
inductive Key where
  | text (value : String)
  | other (shown : String)
  deriving DecidableEq

/-- `str(key)`. -/
def Key.shown : Key → String
  | .text value => value
  | .other shown => shown

/-- `atom` is any object that is neither a mapping nor a sequence, and a text or bytes value;
`null` is `None`. -/
inductive Value where
  | null
  | atom (shown : String)
  | mapping (members : List (Key × Value))
  | sequence (items : List Value)

abbrev Members := List (Key × Value)

/-- What the interpreter supplies: `str.lower`, `==` of two values, and the text of the
`TypeError` of a call with these keywords. -/
class Interpreter where
  lower : String → String
  same : Value → Value → Bool
  callError : Members → String

variable [Interpreter]

/-- `HighIntegrityMaterializationError(code, message)`. -/
def materializationError (code message : String) : Raised := ⟨.materialization, code, message⟩

/-! ## Keys -/

def forbiddenTransportKeys : List String :=
  ["protocol", "record_type", "mailbox_ref", "event_id", "event_seq", "previous_event_digest",
    "envelope_digest", "event_digest", "cursor", "record_seq", "previous_record_digest",
    "manifest_digest", "digest"]

def secretKeyFragments : List String :=
  ["token", "api_key", "apikey", "authorization", "bearer", "credential", "password", "private_key",
    "secret"]

def safeSecretKeys : List String := ["token_budget", "fencing_token"]

def safeSecretSuffixes : List String := ["_ref", "_id", "_digest", "_hash", "_sha"]

/-- `_normalized_key`. -/
def normalizedKey (key : Key) : String :=
  let lowered := Interpreter.lower (strip key.shown)
  String.ofList (lowered.toList.map fun c => if c = '-' then '_' else c)

/-- `fragment in key`. -/
def holds (key fragment : String) : Bool := decide (fragment.toList <:+: key.toList)

/-- `_is_secret_key`. -/
def isSecretKey (key : String) : Bool :=
  if key ∈ safeSecretKeys then false
  else if safeSecretSuffixes.any fun suffix => decide (suffix.toList <:+ key.toList) then false
  else secretKeyFragments.any (holds key)

/-! ## Scans -/

def secretForbidden (path : String) : Raised :=
  materializationError "SECRET_BEARING_PAYLOAD_FORBIDDEN"
    s!"{path} must be represented by a reference/digest, never a raw secret"

def transportForbidden (path : String) : Raised :=
  materializationError "HAND_AUTHORED_TRANSPORT_FIELD_FORBIDDEN"
    s!"{path} is runtime-owned mailbox state"

def childPath (path : String) (key : Key) : String := s!"{path}.{key.shown}"

mutual
/-- `_validate_no_raw_secrets`. -/
def validateNoRawSecrets : Value → String → Except Raised Unit
  | .mapping members, path => secretFreeMembers members path
  | .sequence items, path => secretFreeItems items path 0
  | .null, _ | .atom _, _ => .ok ()
def secretFreeMembers : Members → String → Except Raised Unit
  | [], _ => .ok ()
  | (key, child) :: rest, path => do
    ensure (isSecretKey (normalizedKey key) = false) (secretForbidden (childPath path key))
    validateNoRawSecrets child (childPath path key)
    secretFreeMembers rest path
def secretFreeItems : List Value → String → Nat → Except Raised Unit
  | [], _, _ => .ok ()
  | child :: rest, path, index => do
    validateNoRawSecrets child s!"{path}[{index}]"
    secretFreeItems rest path (index + 1)
end

mutual
/-- `_validate_semantic_payload`. -/
def validateSemanticPayload : Value → String → Except Raised Unit
  | .mapping members, path => semanticMembers members path
  | .sequence items, path => semanticItems items path 0
  | .null, _ | .atom _, _ => .ok ()
def semanticMembers : Members → String → Except Raised Unit
  | [], _ => .ok ()
  | (key, child) :: rest, path => do
    ensure (normalizedKey key ∉ forbiddenTransportKeys) (transportForbidden (childPath path key))
    validateNoRawSecrets (.mapping [(key, child)]) path
    validateSemanticPayload child (childPath path key)
    semanticMembers rest path
def semanticItems : List Value → String → Nat → Except Raised Unit
  | [], _, _ => .ok ()
  | child :: rest, path, index => do
    validateSemanticPayload child s!"{path}[{index}]"
    semanticItems rest path (index + 1)
end

/-! ## Requests -/

/-- `BoundedMailboxRequest`: the fields that are scanned, and the others under their names. -/
structure BoundedMailboxRequest where
  payload : Value
  scope : Value
  sourceRefs : Value
  standardsProfile : Value
  evidenceRefs : Value
  environmentRequirements : Value
  authorityConstraints : Value
  executionBoundary : Value
  others : Members

/-- Scanned fields without a default. -/
def scannedFields : List String := ["scope", "source_refs", "standards_profile"]

/-- Scanned fields that may be left out. -/
def scannedDefaults : List String :=
  ["payload", "evidence_refs", "environment_requirements", "authority_constraints",
    "execution_boundary"]

/-- Fields without a default that no check reads. -/
def boundFields : List String :=
  ["message_id", "run_id", "node_id", "seq", "correlation_id", "contract_id", "plan_version",
    "contract_digest", "boundary_digest", "source_digest", "source_manifest_ref", "objective",
    "acceptance_criteria", "recipient_capability", "agent_instance", "attempt_id", "attempt_number",
    "lease_generation", "fencing_token", "lease_expires_at", "idempotency_key"]

/-- Fields with a default that no check reads. -/
def boundDefaults : List String :=
  ["standards_profile_ref", "producer_namespace", "producer_actor_id", "execution_id",
    "checkpoint_id"]

def fieldValue (values : Members) (name : String) (default : Value) : Value :=
  (values.lookup (.text name)).getD default

/-- `_construct_from_mapping`: every keyword is a field and no field without a default is
missing. -/
def constructFromMapping (values : Members) : Except Raised BoundedMailboxRequest := do
  ensure ((∀ entry ∈ values, entry.1 ∈ (scannedFields ++ scannedDefaults ++ boundFields ++
      boundDefaults).map Key.text) ∧
      ∀ name ∈ scannedFields ++ boundFields, (values.lookup (.text name)).isSome)
    (mailboxError .schemaInvalid ("bounded mailbox request input is incomplete or unsupported: " ++
      Interpreter.callError values))
  return {
    payload := fieldValue values "payload" (.mapping [])
    scope := fieldValue values "scope" .null
    sourceRefs := fieldValue values "source_refs" .null
    standardsProfile := fieldValue values "standards_profile" .null
    evidenceRefs := fieldValue values "evidence_refs" (.sequence [])
    environmentRequirements := fieldValue values "environment_requirements" (.mapping [])
    authorityConstraints := fieldValue values "authority_constraints" (.mapping [])
    executionBoundary := fieldValue values "execution_boundary" .null
    others := values.filter fun entry => entry.1 ∈ (boundFields ++ boundDefaults).map Key.text }

def aliasNames : List (String × String) :=
  [("ac", "acceptance_criteria"), ("sources", "source_refs"), ("evidence", "evidence_refs"),
    ("standards", "standards_profile"), ("environment", "environment_requirements"),
    ("authority", "authority_constraints"), ("required_capability", "recipient_capability"),
    ("capability", "recipient_capability"), ("boundary", "execution_boundary")]

/-- `candidate.pop(name)`. -/
def withoutKey (name : String) (candidate : Members) : Members :=
  candidate.filter fun entry => entry.1 ≠ .text name

/-- `candidate.setdefault(name, value)`, where a value that is there must be the same. -/
def defaultOrSame (name : String) (value : Value) (conflict : Raised) (candidate : Members) :
    Except Raised Members :=
  match candidate.lookup (.text name) with
  | none => .ok (candidate ++ [(.text name, value)])
  | some held => if Interpreter.same held value then .ok candidate else .error conflict

def applyAliases : List (String × String) → Members → Except Raised Members
  | [], candidate => .ok candidate
  | (alternative, field) :: rest, candidate =>
    match candidate.lookup (.text alternative) with
    | none => applyAliases rest candidate
    | some value => do
      let renamed ← defaultOrSame field value
        (mailboxError .contractMismatch s!"conflicting aliases for {field}")
        (withoutKey alternative candidate)
      applyAliases rest renamed

def recipientNames : List (String × String) :=
  [("capability", "recipient_capability"), ("agent_instance", "agent_instance")]

def applyRecipient (recipient : Members) : List (String × String) → Members → Except Raised Members
  | [], candidate => .ok candidate
  | (source, target) :: rest, candidate =>
    match recipient.lookup (.text source) with
    | none => applyRecipient recipient rest candidate
    | some value => do
      let named ← defaultOrSame target value
        (mailboxError .contractMismatch s!"conflicting recipient values for {target}") candidate
      applyRecipient recipient rest named

/-- `candidate.pop("recipient", None)` and what it binds. -/
def bindRecipient (candidate : Members) : Except Raised Members :=
  match candidate.lookup (.text "recipient") with
  | none => .ok candidate
  | some .null => .ok (withoutKey "recipient" candidate)
  | some (.mapping recipient) =>
    applyRecipient recipient recipientNames (withoutKey "recipient" candidate)
  | some _ => .error (mailboxError .schemaInvalid "recipient binding must be an object")

/-- `BoundedMailboxRequest.from_mapping`. -/
def fromMapping (values : Members) : Except Raised BoundedMailboxRequest := do
  let renamed ← applyAliases aliasNames values
  let named ← bindRecipient renamed
  constructFromMapping named

/-- A request as the caller passes it. -/
inductive Request where
  | bound (request : BoundedMailboxRequest)
  | raw (value : Value)

def bindRequest : Request → Except Raised BoundedMailboxRequest
  | .bound request => .ok request
  | .raw (.mapping values) => fromMapping values
  | .raw _ => .error (materializationError "MATERIALIZATION_REQUEST_INVALID"
      "request must be BoundedMailboxRequest or mapping")

/-- The fields that are scanned beside the payload. -/
def BoundedMailboxRequest.scanned (request : BoundedMailboxRequest) : Members :=
  [(.text "scope", request.scope), (.text "source_refs", request.sourceRefs),
    (.text "standards_profile", request.standardsProfile),
    (.text "evidence_refs", request.evidenceRefs),
    (.text "environment_requirements", request.environmentRequirements),
    (.text "authority_constraints", request.authorityConstraints),
    (.text "execution_boundary", request.executionBoundary)]

/-- `validate_materialization_request`. -/
def validateMaterializationRequest (request : Request) : Except Raised BoundedMailboxRequest := do
  let bound ← bindRequest request
  validateSemanticPayload bound.payload "payload"
  validateNoRawSecrets (.mapping bound.scanned) "request"
  return bound

end DwSuperApps.Source.Materialization
