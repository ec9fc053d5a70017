import DwSuperApps.Source.Fanout

/-!
# Durable fan-out manifest

`taskcontroller/execution/manifest.py`. A manifest is an immutable snapshot whose
digest covers its own canonical payload; every transition returns a new version.
The constructor sorts the children by id and the stale records by child and
attempt, and checks the digest it is given against the sorted payload.
-/
namespace DwSuperApps.Source.Manifest

open DwSuperApps.Lib DwSuperApps.Lib.Checked
open DwSuperApps.Source.Fanout

def protocolName : String := "dw.taskcontroller.fanout-manifest/v1"
def maxManifestChildren : Nat := 64
def maxManifestVersion : Int := 2 ^ 31 - 1
def defaultChildTimeoutSeconds : Nat := 1800

def schemaInvalid (message : String) : Failure := ⟨.schemaInvalid, message⟩

def contractMismatch (message : String) : Failure := ⟨.contractMismatch, message⟩

/-! ## Reading raw values -/

section Reading
variable {α : Type}

/-- `_text(value, name, max_bytes=..)`. -/
def boundedText (maxBytes : Nat) (name raw : String) : Except Failure (BoundedText maxBytes) :=
  (BoundedText.parse maxBytes raw).mapError (textFailure name)

def digestText (name raw : String) : Except Failure Digest :=
  (Digest.parse raw).mapError (textFailure name)

/-- `None` is passed through, anything else is read. -/
def optionally {β : Type} (read : α → Except Failure β) : Option α → Except Failure (Option β)
  | none => .ok none
  | some value => (read value).map some

def readString (name : String) : Json → Except Failure String
  | .str s => .ok s
  | _ => .error (schemaInvalid s!"{name} must be a string")

def readNullable (read : Json → Except Failure α) : Json → Except Failure (Option α)
  | .null => .ok none
  | value => (read value).map some

def readIdent (maxBytes : Nat) (name : String) (value : Json) : Except Failure (Ident maxBytes) :=
  readString name value >>= identText maxBytes name

def readText (maxBytes : Nat) (name : String) (value : Json) :
    Except Failure (BoundedText maxBytes) :=
  readString name value >>= boundedText maxBytes name

def readDigest (name : String) (value : Json) : Except Failure Digest :=
  readString name value >>= digestText name

def readPositive (name : String) : Json → Except Failure Nat
  | .int n => if 0 < n then .ok n.toNat
      else .error (schemaInvalid s!"{name} must be a positive integer")
  | _ => .error (schemaInvalid s!"{name} must be a positive integer")

def readNonNegative (name : String) : Json → Except Failure Nat
  | .int n => if 0 ≤ n then .ok n.toNat
      else .error (schemaInvalid s!"{name} must be a non-negative integer")
  | _ => .error (schemaInvalid s!"{name} must be a non-negative integer")

def readLifecycle (name : String) (value : Json) : Except Failure ChildLifecycle :=
  let invalid := schemaInvalid
    s!"{name} is not a valid ChildLifecycle: {value.pyRepr} is not a valid ChildLifecycle"
  match value with
  | .str s => match ChildLifecycle.ofValue? s with
    | some state => .ok state
    | none => .error invalid
  | _ => .error invalid

def readObject (name : String) : Json → Except Failure (List (String × Json))
  | .obj members => .ok members
  | _ => .error (schemaInvalid s!"{name} must be an object")

def readArray (name : String) : Json → Except Failure (List Json)
  | .arr items => .ok items
  | _ => .error (schemaInvalid s!"{name} must be an array")

/-- Raise the failure of a check, if it has one. -/
def raise : Option Failure → Except Failure Unit
  | none => .ok ()
  | some failure => .error failure

def nameList (names : List String) : String := ", ".intercalate (names.insertionSort (· ≤ ·))

/-- No member outside the two lists, every required one present. -/
def checkFields (kind : String) (required optional : List String) (members : List (String × Json)) :
    Except Failure Unit := do
  let unknown := (members.map Prod.fst).filter fun name => name ∉ required ∧ name ∉ optional
  let missing := required.filter fun name => name ∉ members.map Prod.fst
  ensure (unknown = []) (schemaInvalid s!"unsupported {kind} fields: {nameList unknown}")
  ensure (missing = []) (schemaInvalid s!"missing {kind} fields: {nameList missing}")

/-- A member that `checkFields` found, or the default of an optional one. -/
def field (members : List (String × Json)) (name : String) (default : Json := .null) : Json :=
  (Json.member members name).getD default

end Reading

def intOrNull : Option Nat → Json
  | none => .null
  | some n => .int n

/-! ## Parent identity -/

structure ManifestParentIdentity where
  runId : Ident 256
  nodeId : Ident 256
  planVersion : Ident 256
  contractId : Ident 256
  contractDigest : Digest
  boundaryDigest : Digest
  sourceManifestRef : BoundedText 256
  sourceDigest : Digest
  standardsProfileRef : BoundedText 256
  standardsProfileDigest : Digest
  attemptId : Ident 256
  leaseGeneration : Option Nat := none
  fencingToken : Option (BoundedText 2048) := none
  deriving DecidableEq

namespace ManifestParentIdentity

/-- `actual != expected` of a child against its plan and the first child. -/
def childMatches (plan : FanoutPlan) (first child : ChildContract) : Prop :=
  child.parentContractId = plan.parentContractId ∧
  child.parentContractDigest = plan.parentContractDigest ∧
  child.runId = plan.runId ∧ child.nodeId = plan.nodeId ∧ child.planVersion = plan.planVersion ∧
  child.parentBoundaryDigest = plan.parentBoundaryDigest ∧
  child.sourceManifestRef = first.sourceManifestRef ∧ child.sourceDigest = first.sourceDigest ∧
  child.standardsProfileRef = first.standardsProfileRef ∧
  child.standardsProfileDigest = first.standardsProfileDigest

instance (plan : FanoutPlan) (first child : ChildContract) :
    Decidable (childMatches plan first child) := by unfold childMatches; infer_instance

def fromPlan (plan : FanoutPlan) (attemptId : String) (leaseGeneration : Option Nat)
    (fencingToken : Option String) : Except Failure ManifestParentIdentity :=
  match plan.children with
  | [] => .error (schemaInvalid "plan must contain at least one child")
  | first :: rest => do
    checkAll (fun child => ensure (childMatches plan first child)
      (contractMismatch s!"child identity/digest does not match parent for {child.childId.value}"))
      (first :: rest)
    let attempt ← identText 256 "attempt_id" attemptId
    let token ← optionally (boundedText 2048 "fencing_token") fencingToken
    return {
      runId := plan.runId
      nodeId := plan.nodeId
      planVersion := plan.planVersion
      contractId := plan.parentContractId
      contractDigest := plan.parentContractDigest
      boundaryDigest := plan.parentBoundaryDigest
      sourceManifestRef := first.sourceManifestRef.toText (Nat.le_refl _)
      sourceDigest := first.sourceDigest
      standardsProfileRef := first.standardsProfileRef
      standardsProfileDigest := first.standardsProfileDigest
      attemptId := attempt
      leaseGeneration := leaseGeneration
      fencingToken := token }

def requiredFields : List String :=
  ["run_id", "node_id", "plan_version", "contract_id", "contract_digest", "boundary_digest",
    "source_manifest_ref", "source_digest", "standards_profile_ref", "standards_profile_digest",
    "attempt_id", "lease_generation"]

def fromDict (value : Json) : Except Failure ManifestParentIdentity := do
  let members ← readObject "parent" value
  checkFields "parent" requiredFields ["fencing_token"] members
  let ident (name : String) := readIdent 256 name (field members name)
  let text (name : String) := readText 256 name (field members name)
  let digest (name : String) := readDigest name (field members name)
  let runId ← ident "run_id"
  let nodeId ← ident "node_id"
  let planVersion ← ident "plan_version"
  let contractId ← ident "contract_id"
  let sourceManifestRef ← text "source_manifest_ref"
  let standardsProfileRef ← text "standards_profile_ref"
  let attemptId ← ident "attempt_id"
  let contractDigest ← digest "contract_digest"
  let boundaryDigest ← digest "boundary_digest"
  let sourceDigest ← digest "source_digest"
  let standardsProfileDigest ← digest "standards_profile_digest"
  let leaseGeneration ← readNullable (readNonNegative "lease_generation") (field members "lease_generation")
  let fencingToken ← readNullable (readText 2048 "fencing_token") (field members "fencing_token")
  return { runId, nodeId, planVersion, contractId, contractDigest, boundaryDigest,
           sourceManifestRef, sourceDigest, standardsProfileRef, standardsProfileDigest,
           attemptId, leaseGeneration, fencingToken }

def toDict (p : ManifestParentIdentity) : Json :=
  .obj ([("run_id", .str p.runId.value),
      ("node_id", .str p.nodeId.value),
      ("plan_version", .str p.planVersion.value),
      ("contract_id", .str p.contractId.value),
      ("contract_digest", .str p.contractDigest.value),
      ("boundary_digest", .str p.boundaryDigest.value),
      ("source_manifest_ref", .str p.sourceManifestRef.value),
      ("source_digest", .str p.sourceDigest.value),
      ("standards_profile_ref", .str p.standardsProfileRef.value),
      ("standards_profile_digest", .str p.standardsProfileDigest.value),
      ("attempt_id", .str p.attemptId.value),
      ("lease_generation", intOrNull p.leaseGeneration)] ++
    match p.fencingToken with
    | some token => [("fencing_token", .str token.value)]
    | none => [])

end ManifestParentIdentity

/-! ## Child records -/

/-- Fields of a `FanoutManifestChild`. -/
structure ChildRecord where
  childId : Ident 256
  lens : Ident 256
  agentInstance : Ident 256
  attemptId : Ident 256
  status : ChildLifecycle
  timeoutSeconds : Nat
  childContractDigest : Digest
  sourceDigest : Digest
  standardsProfileDigest : Digest
  resultRef : Option (BoundedText 2048) := none
  resultDigest : Option Digest := none
  planVersion : Option (Ident 256) := none
  planDigest : Option Digest := none
  parentAttemptId : Option (Ident 256) := none
  leaseGeneration : Option Nat := none
  deriving DecidableEq

namespace ChildRecord

/-- Result evidence comes as a pair, with a terminal status and only then. -/
def resultProblem (status : ChildLifecycle) (resultRef : Option (BoundedText 2048))
    (resultDigest : Option Digest) : Option Failure :=
  if resultRef.isSome ≠ resultDigest.isSome then
    some (schemaInvalid "result_ref and result_digest must be supplied together")
  else if status.isTerminal ∧ resultRef = none then
    some (schemaInvalid "terminal child requires result_ref and result_digest")
  else if ¬ status.isTerminal ∧ resultRef ≠ none then
    some (schemaInvalid "non-terminal child cannot carry result evidence")
  else none

/-- A record bound to a plan names its version, its digest and the parent attempt. -/
def bindingProblem (r : ChildRecord) : Option Failure :=
  if (r.planVersion ≠ none ∨ r.planDigest ≠ none ∨ r.parentAttemptId ≠ none ∨
        r.leaseGeneration ≠ none) ∧
      (r.planVersion = none ∨ r.planDigest = none ∨ r.parentAttemptId = none) then
    some (schemaInvalid
      "bound manifest child requires plan_version, plan_digest and parent_attempt_id")
  else none

/-- The first cross-field check of `__post_init__` that fails. -/
def problem (r : ChildRecord) : Option Failure :=
  if r.timeoutSeconds = 0 then some (schemaInvalid "timeout_seconds must be a positive integer")
  else (resultProblem r.status r.resultRef r.resultDigest).orElse fun _ => r.bindingProblem

end ChildRecord

/-- A record that passed its cross-field checks. -/
structure FanoutManifestChild extends ChildRecord where
  checked : toChildRecord.problem = none
  deriving DecidableEq

namespace FanoutManifestChild

def ofRecord (r : ChildRecord) : Except Failure FanoutManifestChild :=
  match h : r.problem with
  | some failure => .error failure
  | none => .ok ⟨r, h⟩

def hasParentBinding (c : FanoutManifestChild) : Bool := c.planVersion.isSome

def requiredFields : List String :=
  ["child_id", "lens", "agent_instance", "attempt_id", "status", "timeout_seconds",
    "child_contract_digest", "source_digest", "standards_profile_digest", "result_ref",
    "result_digest"]

def optionalFields : List String :=
  ["plan_version", "plan_digest", "parent_attempt_id", "lease_generation"]

def fromDict (value : Json) : Except Failure FanoutManifestChild := do
  let members ← readObject "children[]" value
  checkFields "child" requiredFields optionalFields members
  let ident (name : String) := readIdent 256 name (field members name)
  let digest (name : String) := readDigest name (field members name)
  let childId ← ident "child_id"
  let lens ← ident "lens"
  let agentInstance ← ident "agent_instance"
  let attemptId ← ident "attempt_id"
  let status ← readLifecycle "status" (field members "status")
  let timeoutSeconds ← readPositive "timeout_seconds" (field members "timeout_seconds")
  let childContractDigest ← digest "child_contract_digest"
  let sourceDigest ← digest "source_digest"
  let standardsProfileDigest ← digest "standards_profile_digest"
  let resultRef ← readNullable (readText 2048 "result_ref") (field members "result_ref")
  let resultDigest ← readNullable (readDigest "result_digest") (field members "result_digest")
  raise (ChildRecord.resultProblem status resultRef resultDigest)
  let planVersion ← readNullable (readIdent 256 "plan_version") (field members "plan_version")
  let planDigest ← readNullable (readDigest "plan_digest") (field members "plan_digest")
  let parentAttemptId ← readNullable (readIdent 256 "parent_attempt_id")
    (field members "parent_attempt_id")
  let leaseGeneration ← readNullable (readNonNegative "lease_generation")
    (field members "lease_generation")
  ofRecord { childId, lens, agentInstance, attemptId, status, timeoutSeconds, childContractDigest,
             sourceDigest, standardsProfileDigest, resultRef, resultDigest, planVersion, planDigest,
             parentAttemptId, leaseGeneration }

def toDict (c : FanoutManifestChild) : Json :=
  .obj ([("child_id", .str c.childId.value),
      ("lens", .str c.lens.value),
      ("agent_instance", .str c.agentInstance.value),
      ("attempt_id", .str c.attemptId.value),
      ("status", .str c.status.value),
      ("timeout_seconds", .int c.timeoutSeconds),
      ("child_contract_digest", .str c.childContractDigest.value),
      ("source_digest", .str c.sourceDigest.value),
      ("standards_profile_digest", .str c.standardsProfileDigest.value),
      ("result_ref", .ofOption (c.resultRef.map (·.value))),
      ("result_digest", .ofOption (c.resultDigest.map (·.value)))] ++
    if c.hasParentBinding then
      [("plan_version", .ofOption (c.planVersion.map (·.value))),
        ("plan_digest", .ofOption (c.planDigest.map (·.value))),
        ("parent_attempt_id", .ofOption (c.parentAttemptId.map (·.value))),
        ("lease_generation", intOrNull c.leaseGeneration)]
    else [])

/-- Order of the children of a manifest. -/
def childLe (a b : FanoutManifestChild) : Prop := a.childId.value ≤ b.childId.value

instance : DecidableRel childLe := fun a b => by unfold childLe; infer_instance

/-- `(child_id, attempt_id)`. -/
def key (c : FanoutManifestChild) : String × String := (c.childId.value, c.attemptId.value)

/-- Order of the stale records: by child, then by attempt. -/
def keyLe (a b : FanoutManifestChild) : Prop := pairLe a.key b.key

instance : DecidableRel keyLe := fun a b => by unfold keyLe; infer_instance

end FanoutManifestChild

/-! ## Manifest snapshots -/

structure FanoutManifest where
  manifestId : Ident 256
  manifestVersion : Int
  parent : ManifestParentIdentity
  joinSemantics : JoinSemantics
  children : List FanoutManifestChild
  manifestDigest : Digest
  staleChildren : List FanoutManifestChild := []
  deriving DecidableEq

/-- The canonical payload over the given record orders; an empty stale list is
left out. -/
def payloadOf (manifestId : Ident 256) (version : Int) (parent : ManifestParentIdentity)
    (joinSemantics : JoinSemantics) (children stale : List FanoutManifestChild) :
    List (String × Json) :=
  [("protocol", .str protocolName),
    ("manifest_id", .str manifestId.value),
    ("manifest_version", .int version),
    ("parent", parent.toDict),
    ("join_semantics", joinSemantics.toDict),
    ("children", .arr (children.map FanoutManifestChild.toDict))] ++
  if stale ≠ [] then [("stale_children", .arr (stale.map FanoutManifestChild.toDict))] else []

namespace FanoutManifest
open FanoutManifestChild (childLe keyLe)

/-- A bound child carries the identity of the parent attempt. -/
def checkBinding (parent : ManifestParentIdentity) (child : FanoutManifestChild) :
    Except Failure Unit := do
  if ¬ child.hasParentBinding then return ()
  ensure (child.planVersion = some parent.planVersion)
    (contractMismatch s!"child plan_version mismatch: {child.childId.value}")
  ensure (child.parentAttemptId = some parent.attemptId)
    (contractMismatch s!"child parent attempt mismatch: {child.childId.value}")
  ensure (child.leaseGeneration = parent.leaseGeneration)
    (contractMismatch s!"child lease generation mismatch: {child.childId.value}")

/-- The checks of `__post_init__` before the digest. -/
def checkRecords (version : Int) (parent : ManifestParentIdentity)
    (children stale : List FanoutManifestChild) : Except Failure Unit := do
  ensure (1 ≤ version ∧ version ≤ maxManifestVersion)
    (schemaInvalid "manifest_version is outside the supported range")
  ensure (children ≠ []) (schemaInvalid "children must contain at least one manifest record")
  ensure (children.length ≤ maxManifestChildren)
    ⟨.replanRequired, "manifest exceeds bounded child count"⟩
  let normalized := children.insertionSort childLe
  ensure (normalized.map (·.childId)).Nodup
    (schemaInvalid "manifest child_id values must be unique")
  checkAll (checkBinding parent) normalized
  ensure ((normalized.filterMap (·.planDigest)).dedup.length ≤ 1)
    (contractMismatch "manifest children have conflicting plan digests")
  ensure (∀ record ∈ stale, record.status = .stale)
    (schemaInvalid "stale_children must contain STALE records")

section
variable [Sha256]

/-- The constructor: `__post_init__` over the supplied digest. -/
def make (manifestId : Ident 256) (version : Int) (parent : ManifestParentIdentity)
    (joinSemantics : JoinSemantics) (children : List FanoutManifestChild) (supplied : Digest)
    (stale : List FanoutManifestChild := []) : Except Failure FanoutManifest := do
  checkRecords version parent children stale
  let children := children.insertionSort childLe
  let stale := stale.insertionSort keyLe
  let expected :=
    canonicalDigest (.obj (payloadOf manifestId version parent joinSemantics children stale))
  ensure (supplied = expected)
    ⟨.digestMismatch, "manifest_digest does not match canonical manifest bytes"⟩
  return { manifestId := manifestId, manifestVersion := version, parent := parent
           joinSemantics := joinSemantics, children := children, manifestDigest := expected
           staleChildren := stale }

/-- Construct a snapshot whose digest is taken over the records as listed. -/
def build (manifestId : Ident 256) (version : Int) (parent : ManifestParentIdentity)
    (joinSemantics : JoinSemantics) (children : List FanoutManifestChild)
    (stale : List FanoutManifestChild := []) : Except Failure FanoutManifest :=
  make manifestId version parent joinSemantics children
    (canonicalDigest (.obj (payloadOf manifestId version parent joinSemantics children stale))) stale

/-- The PLANNED record of one child of the plan. -/
def plannedRecord (plan : FanoutPlan) (parent : ManifestParentIdentity) (attemptId : String)
    (timeout : Nat) (attempts : List (String × String)) (child : ChildContract) :
    Except Failure FanoutManifestChild := do
  let id := child.childId.value
  let attemptId ← identText 256 "attempt_id" ((attempts.lookup id).getD s!"{attemptId}:{id}")
  FanoutManifestChild.ofRecord {
    childId := child.childId.widen (by decide)
    lens := child.lens.widen (by decide)
    agentInstance := child.agentInstance
    attemptId := attemptId
    status := .planned
    timeoutSeconds := timeout
    childContractDigest := child.contractDigest
    sourceDigest := child.sourceDigest
    standardsProfileDigest := child.standardsProfileDigest
    planVersion := some plan.planVersion
    planDigest := some plan.planDigest
    parentAttemptId := some parent.attemptId
    leaseGeneration := parent.leaseGeneration }

/-- Keyword arguments of `from_plan` besides the plan and the attempt. -/
structure PlanOptions where
  leaseGeneration : Option Nat := none
  fencingToken : Option String := none
  timeoutSeconds : Nat := defaultChildTimeoutSeconds
  manifestId : Option String := none
  childAttemptIds : Option (List (String × String)) := none
  allowPartial : Bool := false
  deriving DecidableEq

/-- `manifest_id or f"manifest:{run_id}:{node_id}:{plan_version}"`. -/
def selectedId (plan : FanoutPlan) (manifestId : Option String) : String :=
  match manifestId.filter (· ≠ "") with
  | some given => given
  | none => s!"manifest:{plan.runId.value}:{plan.nodeId.value}:{plan.planVersion.value}"

/-- The checked inputs of the first snapshot: manifest id, parent and records. -/
def planParts (plan : FanoutPlan) (attemptId : String) (options : PlanOptions) :
    Except Failure (Ident 256 × ManifestParentIdentity × List FanoutManifestChild) := do
  let parent ← ManifestParentIdentity.fromPlan plan attemptId options.leaseGeneration
    options.fencingToken
  ensure (0 < options.timeoutSeconds) (schemaInvalid "timeout_seconds must be a positive integer")
  let attempts := options.childAttemptIds.getD []
  let expected := plan.children.map (·.childId.value)
  let unknown := (attempts.map Prod.fst).filter (· ∉ expected)
  let missing := expected.filter (· ∉ attempts.map Prod.fst)
  ensure (unknown = []) (schemaInvalid s!"unknown child attempt IDs: {nameList unknown}")
  let records ← plan.children.mapM
    (plannedRecord plan parent attemptId options.timeoutSeconds attempts)
  ensure (missing = [] ∨ options.childAttemptIds = none ∨ options.allowPartial)
    (schemaInvalid s!"missing child attempt IDs: {nameList missing}")
  let manifestId ← identText 256 "manifest_id" (selectedId plan options.manifestId)
  return (manifestId, parent, records)

def fromPlan (plan : FanoutPlan) (attemptId : String) (options : PlanOptions := {}) :
    Except Failure FanoutManifest := do
  let (manifestId, parent, records) ← planParts plan attemptId options
  build manifestId 1 parent plan.joinSemantics records

/-- `child`: the current record of a child. -/
def childIn (children : List FanoutManifestChild) (childId : String) :
    Except Failure FanoutManifestChild := do
  let normalized ← identText 256 "child_id" childId
  match children.find? (·.childId = normalized) with
  | some record => .ok record
  | none => .error (contractMismatch s!"unknown manifest child: {normalized.value}")

def child (m : FanoutManifest) (childId : String) : Except Failure FanoutManifestChild :=
  childIn m.children childId

/-- `_snapshot`. -/
def snapshot (m : FanoutManifest) (children : List FanoutManifestChild)
    (parent : ManifestParentIdentity) (stale : List FanoutManifestChild) :
    Except Failure FanoutManifest :=
  build m.manifestId (m.manifestVersion + 1) parent m.joinSemantics children stale

def replaced (children : List FanoutManifestChild) (updated : FanoutManifestChild) :
    List FanoutManifestChild :=
  children.map fun item => if item.childId = updated.childId then updated else item

/-- `_replace_child`. -/
def replaceChild (m : FanoutManifest) (updated : FanoutManifestChild) :
    Except Failure FanoutManifest :=
  m.snapshot (replaced m.children updated) m.parent m.staleChildren

/-- The value supplied, or the one on record when none is. -/
def suppliedOr {α : Type} (read : String → Except Failure α) (current : Option α) :
    Option String → Except Failure (Option α)
  | some raw => (read raw).map some
  | none => .ok current

/-- The record a transition leaves, or none for an exact replay. -/
def transitionUpdate (childId : String) (current : FanoutManifestChild) (target : ChildLifecycle)
    (resultRef resultDigest : Option String) : Except Failure (Option FanoutManifestChild) := do
  let next ← transitionChildLifecycle current.status target
  if next = current.status then
    let suppliedRef ← suppliedOr (boundedText 2048 "result_ref") current.resultRef resultRef
    let suppliedDigest ← suppliedOr (digestText "result_digest") current.resultDigest resultDigest
    ensure (suppliedRef = current.resultRef ∧ suppliedDigest = current.resultDigest)
      ⟨.idempotencyConflict, s!"replayed transition has different evidence: {childId}"⟩
    return none
  else if next.isTerminal then
    match resultRef, resultDigest with
    | some rawRef, some rawDigest =>
      let ref ← boundedText 2048 "result_ref" rawRef
      let digest ← digestText "result_digest" rawDigest
      let updated ← FanoutManifestChild.ofRecord
        { current.toChildRecord with
          status := next, resultRef := some ref, resultDigest := some digest }
      return some updated
    | _, _ =>
      .error (schemaInvalid "terminal transition requires result_ref and result_digest")
  else
    ensure (resultRef = none ∧ resultDigest = none)
      (schemaInvalid "non-terminal transition cannot carry result evidence")
    let updated ← FanoutManifestChild.ofRecord
      { current.toChildRecord with status := next, resultRef := none, resultDigest := none }
    return some updated

def recordTransition (m : FanoutManifest) (childId : String) (target : ChildLifecycle)
    (resultRef : Option String := none) (resultDigest : Option String := none) :
    Except Failure FanoutManifest := do
  let current ← m.child childId
  match ← transitionUpdate childId current target resultRef resultDigest with
  | none => return m
  | some updated => m.replaceChild updated

/-- The stale records with one more, or none when the same record is held. -/
def staleWith (held : List FanoutManifestChild) (stale : FanoutManifestChild) :
    Except Failure (Option (List FanoutManifestChild)) :=
  match held.find? (·.key = stale.key) with
  | some prior =>
    if prior = stale then .ok none
    else .error ⟨.idempotencyConflict, s!"conflicting stale evidence: {stale.childId.value}"⟩
  | none => .ok (some (held ++ [stale]))

/-- `_append_stale_child`. -/
def appendStaleChild (m : FanoutManifest) (stale : FanoutManifestChild) :
    Except Failure FanoutManifest := do
  match ← staleWith m.staleChildren stale with
  | none => return m
  | some records => m.snapshot m.children m.parent records

/-- `completion.attempt_id or f"stale:{child_id}:{result_digest[7:15]}"`. -/
def staleAttempt (completion : ChildCompletion) : String :=
  match completion.attemptId with
  | some attempt => attempt.value
  | none => s!"stale:{completion.childId.value}:{String.ofList ((completion.resultDigest.value.toList.drop 7).take 8)}"

/-- `_stale_child_from_completion`. -/
def staleChildFromCompletion (current : FanoutManifestChild) (completion : ChildCompletion) :
    Except Failure FanoutManifestChild := do
  let attemptId ← identText 256 "attempt_id" (staleAttempt completion)
  FanoutManifestChild.ofRecord { current.toChildRecord with
    attemptId := attemptId
    status := .stale
    sourceDigest := completion.sourceDigest.getD current.sourceDigest
    standardsProfileDigest := completion.standardsProfileDigest.getD current.standardsProfileDigest
    resultRef := some (completion.resultRef.widen (by decide))
    resultDigest := some completion.resultDigest
    planVersion := (completion.planVersion.map (·.widen (by decide))).or current.planVersion
    planDigest := completion.planDigest.or current.planDigest
    parentAttemptId := (completion.parentAttemptId.map (·.widen (by decide))).or current.parentAttemptId
    leaseGeneration := if completion.hasParentBinding then completion.leaseGeneration
      else current.leaseGeneration }

/-- A bound completion of another plan, generation, attempt or source. -/
def mismatched (current : FanoutManifestChild) (completion : ChildCompletion) : Prop :=
  completion.planVersion.map (·.value) ≠ current.planVersion.map (·.value) ∨
  completion.planDigest ≠ current.planDigest ∨
  completion.parentAttemptId.map (·.value) ≠ current.parentAttemptId.map (·.value) ∨
  completion.leaseGeneration ≠ current.leaseGeneration ∨
  completion.attemptId.map (·.value) ≠ some current.attemptId.value ∨
  completion.sourceDigest ∉ [none, some current.sourceDigest] ∨
  completion.standardsProfileDigest ∉ [none, some current.standardsProfileDigest]

local instance : LawfulBEq (Option Digest) := inferInstance

instance (current : FanoutManifestChild) (completion : ChildCompletion) :
    Decidable (mismatched current completion) := by unfold mismatched; infer_instance

/-- What a completion is to the record of its child. -/
inductive Arrival where
  | advancing
  | stale (record : FanoutManifestChild)
  deriving DecidableEq

/-- The identity checks of `record_completion`. -/
def classify (current : FanoutManifestChild) (completion : ChildCompletion) :
    Except Failure Arrival := do
  let id := completion.childId.value
  ensure (completion.childContractDigest = current.childContractDigest)
    (contractMismatch s!"child contract digest mismatch: {id}")
  if completion.evidenceOnly then
    return .stale (← staleChildFromCompletion current completion)
  else if current.hasParentBinding then
    ensure completion.hasParentBinding
      (contractMismatch s!"current-generation completion is missing binding: {id}")
    if mismatched current completion then
      return .stale (← staleChildFromCompletion current completion)
    else return .advancing
  else
    ensure (¬ completion.hasParentBinding)
      (contractMismatch s!"bound completion cannot target an unbound manifest child: {id}")
    return .advancing

/-- `record_completion`: advance the child to the reported outcome, or retain the
completion as stale evidence. -/
def recordCompletion (m : FanoutManifest) (completion : ChildCompletion) :
    Except Failure FanoutManifest := do
  let id := completion.childId.value
  let current ← m.child id
  match ← classify current completion with
  | .stale record => m.appendStaleChild record
  | .advancing =>
    let m ← (if current.status = .planned then m.recordTransition id .dispatched else .ok m)
    let dispatched ← m.child id
    let m ← (if dispatched.status = .dispatched then m.recordTransition id .running else .ok m)
    m.recordTransition id completion.lifecycle (some completion.resultRef.value)
      (some completion.resultDigest.value)

/-- `replace(prior, status=STALE)`. -/
def asStale (prior : FanoutManifestChild) : Except Failure FanoutManifestChild :=
  FanoutManifestChild.ofRecord { prior.toChildRecord with status := .stale }

/-- The terminal records join the stale ones, except under a key already held. -/
def retired : List FanoutManifestChild → List FanoutManifestChild →
    Except Failure (List FanoutManifestChild)
  | stale, [] => .ok stale
  | stale, prior :: rest =>
    if prior.status.isTerminal then do
      let record ← asStale prior
      if stale.any (·.key = record.key) then retired stale rest
      else retired (stale ++ [record]) rest
    else retired stale rest

/-- The record of one child after a retry. -/
def retriedRecord (generationChanged : Bool) (childId attemptId parentAttemptId : Ident 256)
    (leaseGeneration : Option Nat) (prior : FanoutManifestChild) :
    Except Failure FanoutManifestChild :=
  if generationChanged then do
    let attempt ← (if prior.childId = childId then .ok attemptId
      else identText 256 "attempt_id" s!"{parentAttemptId.value}:{prior.childId.value}")
    FanoutManifestChild.ofRecord { prior.toChildRecord with
      attemptId := attempt
      status := .planned
      resultRef := none
      resultDigest := none
      parentAttemptId := if prior.hasParentBinding then some parentAttemptId else none
      leaseGeneration := if prior.hasParentBinding then leaseGeneration else none }
  else if prior.childId = childId then
    FanoutManifestChild.ofRecord { prior.toChildRecord with
      attemptId := attemptId
      status := .planned
      resultRef := none
      resultDigest := none }
  else .ok prior

/-- The checked inputs of the snapshot of a retry: parent, children and stale records. -/
def retryParts (parent : ManifestParentIdentity) (children stale : List FanoutManifestChild)
    (childId attemptId : String) (parentAttemptId : Option String) (leaseGeneration : Option Nat) :
    Except Failure
      (ManifestParentIdentity × List FanoutManifestChild × List FanoutManifestChild) := do
  let current ← childIn children childId
  let attempt ← identText 256 "attempt_id" attemptId
  ensure (attempt ≠ current.attemptId)
    ⟨.attemptReuse, s!"retry must create a new attempt: {current.childId.value}"⟩
  let nextParent ← (match parentAttemptId with
    | some raw => identText 256 "parent_attempt_id" raw
    | none => .ok parent.attemptId)
  let nextLease := leaseGeneration.orElse fun _ => parent.leaseGeneration
  let changed : Bool := nextParent ≠ parent.attemptId ∨ nextLease ≠ parent.leaseGeneration
  let stale ← retired stale children
  let children ← children.mapM
    (retriedRecord changed current.childId attempt nextParent nextLease)
  return ({ parent with attemptId := nextParent, leaseGeneration := nextLease }, children, stale)

def retryChild (m : FanoutManifest) (childId attemptId : String)
    (parentAttemptId : Option String := none) (leaseGeneration : Option Nat := none) :
    Except Failure FanoutManifest := do
  let (parent, children, stale) ← retryParts m.parent m.children m.staleChildren childId attemptId
    parentAttemptId leaseGeneration
  m.snapshot children parent stale

/-! ### Projection of a coordinator -/

/-- Keyword arguments of `from_coordinator`. -/
structure CoordinatorOptions where
  attemptId : Option String := none
  leaseGeneration : Option Nat := none
  fencingToken : Option String := none
  timeoutSeconds : Nat := defaultChildTimeoutSeconds
  manifestId : Option String := none
  childAttemptIds : Option (List (String × String)) := none
  deriving DecidableEq

/-- The transitions that take a PLANNED child to its coordinator state. -/
def replayChild (coordinator : FanoutCoordinator) (m : FanoutManifest) (child : ChildContract) :
    Except Failure FanoutManifest := do
  let id := child.childId.value
  let state ← coordinator.lifecycleState child.childId
  if state = .planned then return m
  let m ← m.recordTransition id .dispatched
  if state = .dispatched then return m
  let m ← m.recordTransition id .running
  match coordinator.completionOf child.childId with
  | none => .error (contractMismatch s!"terminal child lacks completion: {id}")
  | some completion =>
    m.recordTransition id completion.lifecycle (some completion.resultRef.value)
      (some completion.resultDigest.value)

/-- `{attempt_ids} or None`. -/
def nonEmptyIds (ids : List (String × String)) : Option (List (String × String)) :=
  if ids = [] then none else some ids

/-- The arguments `from_plan` is called with. -/
def coordinatorPlanOptions (coordinator : FanoutCoordinator) (options : CoordinatorOptions) :
    Except Failure (String × PlanOptions) := do
  let held := coordinator.parentAttemptId.map (·.value)
  match (options.attemptId.filter (· ≠ "")).or held with
  | none => .error (contractMismatch "parent attempt_id is required for a manifest")
  | some selected =>
    ensure (held = none ∨ held = some selected)
      (contractMismatch "manifest attempt_id does not match coordinator generation")
    let lease := options.leaseGeneration.or coordinator.leaseGeneration
    ensure (coordinator.leaseGeneration = none ∨ lease = coordinator.leaseGeneration)
      (contractMismatch "manifest lease generation does not match coordinator")
    let attempts := options.childAttemptIds.getD
      (coordinator.childAttemptIds.map fun p => (p.1.value, p.2.value))
    return (selected, {
      leaseGeneration := lease
      fencingToken := options.fencingToken
      timeoutSeconds := options.timeoutSeconds
      manifestId := options.manifestId
      childAttemptIds := nonEmptyIds attempts
      allowPartial := true })

def fromCoordinator (coordinator : FanoutCoordinator) (options : CoordinatorOptions := {}) :
    Except Failure FanoutManifest := do
  let (attemptId, planOptions) ← coordinatorPlanOptions coordinator options
  let m ← fromPlan coordinator.plan attemptId planOptions
  let m ← coordinator.plan.children.foldlM (replayChild coordinator) m
  coordinator.staleCompletions.foldlM recordCompletion m

/-! ### Serialized form -/

def payload (m : FanoutManifest) : List (String × Json) :=
  payloadOf m.manifestId m.manifestVersion m.parent m.joinSemantics m.children m.staleChildren

def toDict (m : FanoutManifest) : Json :=
  .obj (m.payload ++ [("manifest_digest", .str m.manifestDigest.value)])

def requiredFields : List String :=
  ["protocol", "manifest_id", "manifest_version", "parent", "join_semantics", "children",
    "manifest_digest"]

/-- `_enum(value, CompletionStatus, ..)`. -/
def readCompletionStatus (value : Json) : Except Failure CompletionStatus :=
  let invalid := schemaInvalid
    "acceptable_terminal_states[] must be one of SUCCEEDED, FAILED, TIMED_OUT, CANCELLED, STALE"
  match value with
  | .str s => match CompletionStatus.ofValue? s with
    | some status => .ok status
    | none => .error invalid
  | _ => .error invalid

def readJoinPolicy : Json → Except Failure JoinPolicy
  | .str s => match JoinPolicy.ofValue? s with
    | some policy => .ok policy
    | none => .error (schemaInvalid "join_policy must be one of ALL_REQUIRED")
  | _ => .error (schemaInvalid "join_policy must be one of ALL_REQUIRED")

def readDisposition (name : String) : Json → Except Failure String
  | .str s => .ok s
  | _ => .error (schemaInvalid s!"{name} has an unsupported disposition")

def readJoinSemantics (value : Json) : Except Failure JoinSemantics := do
  let members ← readObject "join_semantics" value
  checkAll (fun name => ensure (Json.member members name ≠ none)
      (schemaInvalid s!"join_semantics is incomplete: '{name}'"))
    ["policy", "acceptable_terminal_states", "partial_result_policy", "failure_policy",
      "timeout_policy", "cancellation_policy", "stale_policy"]
  let policy ← readJoinPolicy (field members "policy")
  let states ← readArray "acceptable_terminal_states" (field members "acceptable_terminal_states")
  let states ← states.mapM readCompletionStatus
  let disposition (name : String) := readDisposition name (field members name)
  let partialResult ← disposition "partial_result_policy"
  let failure ← disposition "failure_policy"
  let timeout ← disposition "timeout_policy"
  let cancellation ← disposition "cancellation_policy"
  let stale ← disposition "stale_policy"
  JoinSemantics.validate {
    policy := policy
    acceptableTerminalStates := states
    partialResultPolicy := partialResult
    failurePolicy := failure
    timeoutPolicy := timeout
    cancellationPolicy := cancellation
    stalePolicy := stale }

def readVersion : Json → Except Failure Int
  | .int n => .ok n
  | _ => .error (schemaInvalid "manifest_version must be an integer")

def fromDict (value : Json) : Except Failure FanoutManifest := do
  let members ← readObject "manifest" value
  checkFields "manifest" requiredFields ["stale_children"] members
  ensure (field members "protocol" = .str protocolName) (schemaInvalid s!"expected {protocolName}")
  let children ← readArray "children" (field members "children")
  let children ← children.mapM FanoutManifestChild.fromDict
  let stale ← readArray "stale_children" (field members "stale_children" (.arr []))
  let stale ← stale.mapM FanoutManifestChild.fromDict
  let joinSemantics ← readJoinSemantics (field members "join_semantics")
  let parent ← ManifestParentIdentity.fromDict (field members "parent")
  let manifestId ← readIdent 256 "manifest_id" (field members "manifest_id")
  let version ← readVersion (field members "manifest_version")
  let supplied ← readDigest "manifest_digest" (field members "manifest_digest")
  make manifestId version parent joinSemantics children supplied stale

/-! ### Join -/

structure ManifestJoinDecision where
  status : JoinStatus
  manifestId : Ident 256
  manifestVersion : Int
  manifestDigest : Digest
  missingChildIds : List String
  failedChildIds : List String
  deriving DecidableEq

def joinDecision (m : FanoutManifest) : ManifestJoinDecision :=
  let accepted := m.joinSemantics.acceptableTerminalStates.map (·.lifecycle)
  let missing := (m.children.filter (¬ ·.status.isTerminal)).map (·.childId.value)
  let failed := (m.children.filter fun c => c.status.isTerminal ∧ c.status ∉ accepted).map
    (·.childId.value)
  { status := FanoutCoordinator.joinStatus failed missing
    manifestId := m.manifestId
    manifestVersion := m.manifestVersion
    manifestDigest := m.manifestDigest
    missingChildIds := missing
    failedChildIds := failed }

end
end FanoutManifest

end DwSuperApps.Source.Manifest
