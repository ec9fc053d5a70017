import Mathlib.Data.List.Sort
import Mathlib.Data.String.Basic
import DwSuperApps.Lib.Checked
import DwSuperApps.Lib.Text

/-!
# Fan-out coordinator

`taskcontroller/execution/fanout.py`. Parent and child contracts are the records
their own constructors let through, reduced to the fields fan-out reads; the
digest of a source manifest equals the `source_digest` it is bound to, so it is
not a field of its own. Raw strings of a caller go through the text checks, a
value already checked is an `Ident`, a `BoundedText` or a `Digest`.
-/
namespace DwSuperApps.Source.Fanout

open DwSuperApps.Lib DwSuperApps.Lib.Checked

/-! ## Failures -/

inductive Code where
  | schemaInvalid | contractMismatch | digestMismatch | idempotencyConflict | attemptReuse
  | replanRequired | generationRequired | invalidLifecycleTransition
  deriving DecidableEq

/-- `FanoutCoordinatorError` and `FanoutManifestError`: a code and a message. -/
structure Failure where
  code : Code
  message : String
  deriving DecidableEq

def textFailure (name : String) (fault : TextFault) : Failure :=
  ⟨.schemaInvalid, fault.message name⟩

/-- `_text(value, name, max_bytes=.., identifier=True)`. -/
def identText (maxBytes : Nat) (name raw : String) : Except Failure (Ident maxBytes) :=
  (Ident.parse maxBytes raw).mapError (textFailure name)

/-- Order of a pair of strings, by the first one and then by the second. -/
def pairLe (a b : String × String) : Prop := a.1 < b.1 ∨ a.1 = b.1 ∧ a.2 ≤ b.2

instance : DecidableRel pairLe := fun a b => by unfold pairLe; infer_instance

/-! ## Vocabulary -/

inductive FanoutMode where
  | parallel | staged
  deriving DecidableEq

def FanoutMode.value : FanoutMode → String
  | .parallel => "PARALLEL"
  | .staged => "STAGED"

inductive ChildLifecycle where
  | planned | dispatched | running | succeeded | failed | timedOut | cancelled | stale
  deriving DecidableEq

namespace ChildLifecycle

def value : ChildLifecycle → String
  | planned => "PLANNED"
  | dispatched => "DISPATCHED"
  | running => "RUNNING"
  | succeeded => "SUCCEEDED"
  | failed => "FAILED"
  | timedOut => "TIMED_OUT"
  | cancelled => "CANCELLED"
  | stale => "STALE"

def all : List ChildLifecycle :=
  [planned, dispatched, running, succeeded, failed, timedOut, cancelled, stale]

def ofValue? (s : String) : Option ChildLifecycle := all.find? (·.value = s)

@[simp] theorem ofValue_value (s : ChildLifecycle) : ofValue? s.value = some s := by
  cases s <;> decide

def isTerminal : ChildLifecycle → Bool
  | planned | dispatched | running => false
  | succeeded | failed | timedOut | cancelled | stale => true

/-- `_CHILD_LIFECYCLE_TRANSITIONS`. -/
def transitions : ChildLifecycle → List ChildLifecycle
  | planned => [dispatched, cancelled, stale]
  | dispatched => [running, timedOut, cancelled, stale]
  | running => [succeeded, failed, timedOut, cancelled, stale]
  | succeeded | failed | timedOut | cancelled | stale => []

end ChildLifecycle

/-- One bounded lifecycle transition, allowing exact replay only. -/
def transitionChildLifecycle (current target : ChildLifecycle) : Except Failure ChildLifecycle :=
  if current = target then .ok current
  else if target ∈ current.transitions then .ok target
  else .error ⟨.invalidLifecycleTransition, s!"{current.value} -> {target.value} is not allowed"⟩

inductive CompletionStatus where
  | succeeded | failed | timedOut | cancelled | stale
  deriving DecidableEq

namespace CompletionStatus

def lifecycle : CompletionStatus → ChildLifecycle
  | succeeded => .succeeded
  | failed => .failed
  | timedOut => .timedOut
  | cancelled => .cancelled
  | stale => .stale

def value (s : CompletionStatus) : String := s.lifecycle.value

def ofValue? (s : String) : Option CompletionStatus :=
  [succeeded, failed, timedOut, cancelled, stale].find? (·.value = s)

@[simp] theorem lifecycle_terminal (s : CompletionStatus) : s.lifecycle.isTerminal = true := by
  cases s <;> rfl

end CompletionStatus

inductive JoinPolicy where
  | allRequired
  deriving DecidableEq

def JoinPolicy.value : JoinPolicy → String
  | .allRequired => "ALL_REQUIRED"

def JoinPolicy.ofValue? (s : String) : Option JoinPolicy :=
  if s = "ALL_REQUIRED" then some .allRequired else none

inductive JoinStatus where
  | notReady | ready | blocked
  deriving DecidableEq

/-- `JoinSemantics` as its constructor leaves it. -/
structure JoinSemantics where
  policy : JoinPolicy
  acceptableTerminalStates : List CompletionStatus
  partialResultPolicy : String := "NOT_READY"
  failurePolicy : String := "BLOCK_PARENT"
  timeoutPolicy : String := "BLOCK_PARENT"
  cancellationPolicy : String := "BLOCK_PARENT"
  stalePolicy : String := "BLOCK_PARENT"
  deriving DecidableEq

namespace JoinSemantics

def dispositions (j : JoinSemantics) : List (String × String) :=
  [("partial_result_policy", j.partialResultPolicy), ("failure_policy", j.failurePolicy),
    ("timeout_policy", j.timeoutPolicy), ("cancellation_policy", j.cancellationPolicy),
    ("stale_policy", j.stalePolicy)]

/-- `__post_init__`. -/
def validate (j : JoinSemantics) : Except Failure JoinSemantics := do
  ensure (j.acceptableTerminalStates = [.succeeded])
    ⟨.schemaInvalid, "ALL_REQUIRED accepts exactly SUCCEEDED terminal children"⟩
  checkAll (fun (name, disposition) => ensure (disposition ∈ ["NOT_READY", "BLOCK_PARENT"])
    ⟨.schemaInvalid, s!"{name} has an unsupported disposition"⟩) j.dispositions
  ensure (j.partialResultPolicy = "NOT_READY")
    ⟨.schemaInvalid, "ALL_REQUIRED partial_result_policy must be NOT_READY"⟩
  ensure (∀ d ∈ j.dispositions.drop 1, d.2 = "BLOCK_PARENT")
    ⟨.schemaInvalid, "ALL_REQUIRED non-success terminal policy must BLOCK_PARENT"⟩
  return j

def forPolicy (policy : JoinPolicy) : JoinSemantics :=
  { policy := policy, acceptableTerminalStates := [.succeeded] }

def toDict (j : JoinSemantics) : Json :=
  .obj [("policy", .str j.policy.value),
    ("acceptable_terminal_states", .arr (j.acceptableTerminalStates.map fun s => .str s.value)),
    ("allow_partial", .bool false),
    ("partial_result_policy", .str j.partialResultPolicy),
    ("failure_policy", .str j.failurePolicy),
    ("timeout_policy", .str j.timeoutPolicy),
    ("cancellation_policy", .str j.cancellationPolicy),
    ("stale_policy", .str j.stalePolicy)]

theorem forPolicy_valid (policy : JoinPolicy) : (forPolicy policy).validate = .ok (forPolicy policy) := by
  cases policy
  decide

end JoinSemantics

/-! ## Contracts and plans -/

/-- Fields of a `ParentContract` a plan binds to. -/
structure ParentContract where
  runId : Ident 256
  nodeId : Ident 256
  contractId : Ident 256
  contractDigest : Digest
  planVersion : Ident 256
  boundaryDigest : Digest
  maxChildren : Nat
  maxParallel : Nat
  sourceDigest : Digest
  sourceManifestRef : Ident 256
  standardsProfileRef : BoundedText 256
  standardsProfileDigest : Digest
  deriving DecidableEq

structure ChildContract where
  childId : Ident 128
  parentContractId : Ident 256
  parentContractDigest : Digest
  runId : Ident 256
  nodeId : Ident 256
  planVersion : Ident 256
  lens : Ident 128
  parentBoundaryDigest : Digest
  standardsProfileRef : BoundedText 256
  standardsProfileDigest : Digest
  sourceManifestRef : Ident 256
  sourceDigest : Digest
  agentInstance : Ident 256
  contractDigest : Digest
  deriving DecidableEq

/-- `_parent_binding`. -/
def parentBinding (parent : ParentContract) : List (String × String) :=
  [("run_id", parent.runId.value),
    ("node_id", parent.nodeId.value),
    ("contract_id", parent.contractId.value),
    ("contract_digest", parent.contractDigest.value),
    ("plan_version", parent.planVersion.value),
    ("boundary_digest", parent.boundaryDigest.value),
    ("source_digest", parent.sourceDigest.value),
    ("source_manifest_ref", parent.sourceManifestRef.value),
    ("source_manifest_digest", parent.sourceDigest.value),
    ("standards_profile_ref", parent.standardsProfileRef.value),
    ("standards_profile_digest", parent.standardsProfileDigest.value)]

/-- `_child_binding`. -/
def childBinding (child : ChildContract) : List (String × String) :=
  [("run_id", child.runId.value),
    ("node_id", child.nodeId.value),
    ("contract_id", child.parentContractId.value),
    ("contract_digest", child.parentContractDigest.value),
    ("plan_version", child.planVersion.value),
    ("boundary_digest", child.parentBoundaryDigest.value),
    ("source_digest", child.sourceDigest.value),
    ("source_manifest_ref", child.sourceManifestRef.value),
    ("source_manifest_digest", child.sourceDigest.value),
    ("standards_profile_ref", child.standardsProfileRef.value),
    ("standards_profile_digest", child.standardsProfileDigest.value)]

def strObject (fields : List (String × String)) : Json :=
  .obj (fields.map fun (k, v) => (k, .str v))

/-- `_assert_child_belongs`. -/
def assertChildBelongs (parent : ParentContract) (child : ChildContract) : Except Failure Unit :=
  let mismatches := ((parentBinding parent).zip (childBinding child)).filter fun (e, a) => e.2 ≠ a.2
  ensure (mismatches = [])
    ⟨.contractMismatch, "child is not bound to the supplied parent: " ++
      ", ".intercalate (mismatches.map fun (e, _) => e.1)⟩

structure FanoutPlan where
  parentContractId : Ident 256
  parentContractDigest : Digest
  parentBoundaryDigest : Digest
  runId : Ident 256
  nodeId : Ident 256
  planVersion : Ident 256
  children : List ChildContract
  mode : FanoutMode
  maxParallel : Nat
  joinPolicy : JoinPolicy
  stages : List (List (Ident 128))
  planDigest : Digest

namespace FanoutPlan

def joinSemantics (plan : FanoutPlan) : JoinSemantics := .forPolicy plan.joinPolicy

/-- `{child.child_id: child for child in self.children}.get(child_id)`. -/
def child? (plan : FanoutPlan) (childId : Ident 128) : Option ChildContract :=
  plan.children.find? (·.childId = childId)

/-- Consecutive windows of at most `size` items. -/
def chunks {α : Type} (size : Nat) : Nat → List α → List (List α)
  | 0, _ => []
  | _, [] => []
  | fuel + 1, item :: rest =>
    (item :: rest).take size :: chunks size fuel ((item :: rest).drop size)

def normalizeStage (expected : List (Ident 128)) (maxParallel index : Nat) (raw : List String) :
    Except Failure (List (Ident 128)) := do
  let stage ← raw.mapM (identText 128 s!"stages[{index}][]")
  ensure (stage ≠ []) ⟨.schemaInvalid, s!"stages[{index}] must not be empty"⟩
  ensure (stage.length ≤ maxParallel)
    ⟨.replanRequired, "a staged dispatch window exceeds max_parallel"⟩
  ensure stage.Nodup ⟨.schemaInvalid, "each staged child_id must occur exactly once"⟩
  let unknown := (stage.filter (· ∉ expected)).map (·.value)
  ensure (unknown = [])
    ⟨.contractMismatch,
      "staged children are unknown: " ++ ", ".intercalate (unknown.insertionSort (· ≤ ·))⟩
  return stage

/-- `_normalize_stages`. -/
def normalizeStages (childIds : List (Ident 128)) (mode : FanoutMode) (maxParallel : Nat)
    (stages : Option (List (List String))) : Except Failure (List (List (Ident 128))) :=
  match mode, stages with
  | .parallel, some _ => .error ⟨.schemaInvalid, "stages are only supplied for STAGED mode"⟩
  | .parallel, none => .ok (chunks maxParallel childIds.length childIds)
  | .staged, none => .error ⟨.schemaInvalid, "STAGED mode requires explicit stages"⟩
  | .staged, some raw => do
    ensure (raw ≠ [] ∧ raw.length ≤ 64)
      ⟨.schemaInvalid, "stages must contain between 1 and 64 items"⟩
    let result ← raw.zipIdx.mapM fun (stage, index) => normalizeStage childIds maxParallel index stage
    let seen := result.flatten
    ensure ((∀ id ∈ childIds, id ∈ seen) ∧ seen.length = childIds.length)
      ⟨.schemaInvalid, "stages must account for every child_id exactly once"⟩
    return result

section
variable [Sha256]

/-- `from_parent`. -/
def fromParent (parent : ParentContract) (children : List ChildContract)
    (mode : FanoutMode := .parallel) (maxParallel : Option Nat := none)
    (stages : Option (List (List String)) := none) (joinPolicy : JoinPolicy := .allRequired) :
    Except Failure FanoutPlan := do
  ensure (children ≠ []) ⟨.schemaInvalid, "children must contain at least one item"⟩
  ensure (children.length ≤ 64) ⟨.replanRequired, "children exceed bounded fan-out count"⟩
  ensure (children.length ≤ parent.maxChildren)
    ⟨.replanRequired, "children exceed parent max_children"⟩
  checkAll (assertChildBelongs parent) children
  let ids := children.map (·.childId)
  ensure ids.Nodup ⟨.schemaInvalid, "children must contain each child_id exactly once"⟩
  let requested := maxParallel.getD parent.maxParallel
  ensure (1 ≤ requested ∧ requested ≤ 64)
    ⟨.schemaInvalid, "max_parallel must be an integer between 1 and 64"⟩
  ensure (requested ≤ parent.maxParallel)
    ⟨.replanRequired, "max_parallel exceeds parent max_parallel"⟩
  let normalized ← normalizeStages ids mode requested stages
  let payload : Json := .obj
    [("protocol", .str "dw.taskcontroller.fanout-coordinator/v1"),
      ("parent", strObject (parentBinding parent)),
      ("children", .arr (children.map fun c =>
        strObject [("child_id", c.childId.value), ("contract_digest", c.contractDigest.value)])),
      ("mode", .str mode.value),
      ("max_parallel", .int requested),
      ("join_policy", .str joinPolicy.value),
      ("join_semantics", (JoinSemantics.forPolicy joinPolicy).toDict),
      ("stages", .arr (normalized.map fun stage => .arr (stage.map fun id => .str id.value)))]
  return {
    parentContractId := parent.contractId
    parentContractDigest := parent.contractDigest
    parentBoundaryDigest := parent.boundaryDigest
    runId := parent.runId
    nodeId := parent.nodeId
    planVersion := parent.planVersion
    children := children
    mode := mode
    maxParallel := requested
    joinPolicy := joinPolicy
    stages := normalized
    planDigest := canonicalDigest payload }

end
end FanoutPlan

/-! ## Completions -/

/-- `ChildCompletion` with the cross-field checks of its constructor. -/
structure ChildCompletion where
  childId : Ident 128
  childContractDigest : Digest
  status : CompletionStatus
  resultRef : BoundedText 1024
  resultDigest : Digest
  attemptId : Option (Ident 128) := none
  planVersion : Option (Ident 128) := none
  planDigest : Option Digest := none
  parentAttemptId : Option (Ident 128) := none
  leaseGeneration : Option Nat := none
  sourceDigest : Option Digest := none
  standardsProfileDigest : Option Digest := none
  evidenceOnly : Bool := false
  bound : planVersion ≠ none ∨ planDigest ≠ none ∨ parentAttemptId ≠ none ∨ leaseGeneration ≠ none →
    attemptId ≠ none ∧ planVersion ≠ none ∧ planDigest ≠ none ∧ parentAttemptId ≠ none := by simp
  sources : sourceDigest = none ↔ standardsProfileDigest = none := by simp
  staleEvidence : evidenceOnly = true → status = .stale := by simp
  deriving DecidableEq

namespace ChildCompletion

def hasParentBinding (c : ChildCompletion) : Bool := c.planVersion.isSome

def lifecycle (c : ChildCompletion) : ChildLifecycle := c.status.lifecycle

/-- `attempt_id or ""`. -/
def attemptText (c : ChildCompletion) : String := (c.attemptId.map (·.value)).getD ""

/-- `replace(completion, status=STALE, evidence_only=True)`. -/
def asStale (c : ChildCompletion) : ChildCompletion :=
  { c with status := .stale, evidenceOnly := true, staleEvidence := fun _ => rfl }

/-- `replace(completion, source_digest=.., standards_profile_digest=..)`. -/
def withSources (c : ChildCompletion) (source standards : Digest) : ChildCompletion :=
  { c with sourceDigest := some source, standardsProfileDigest := some standards
           sources := by simp }

/-- `_sequence_key` order. -/
def sequenceLe (a b : ChildCompletion) : Prop :=
  let key (c : ChildCompletion) :=
    [c.childId.value, c.attemptText, c.resultRef.value, c.resultDigest.value]
  key a ≤ key b

instance : DecidableRel sequenceLe := fun a b => by unfold sequenceLe; infer_instance

def childLe (a b : ChildCompletion) : Prop := a.childId.value ≤ b.childId.value

instance : DecidableRel childLe := fun a b => by unfold childLe; infer_instance

/-- `to_dict`. -/
def toDict (c : ChildCompletion) : Json :=
  let text (name : String) (value : String) := (name, Json.str value)
  .obj ([text "child_id" c.childId.value,
      text "child_contract_digest" c.childContractDigest.value,
      text "status" c.status.value,
      text "result_ref" c.resultRef.value,
      text "result_digest" c.resultDigest.value] ++
    (c.attemptId.map fun a => text "attempt_id" a.value).toList ++
    (if c.hasParentBinding then
      [("plan_version", (c.planVersion.map (Json.str ·.value)).getD .null),
        ("plan_digest", (c.planDigest.map (Json.str ·.value)).getD .null),
        ("parent_attempt_id", (c.parentAttemptId.map (Json.str ·.value)).getD .null),
        ("lease_generation", (c.leaseGeneration.map (Json.int ·)).getD .null)] ++
      (match c.sourceDigest with
        | some source => [text "source_digest" source.value,
            ("standards_profile_digest",
              (c.standardsProfileDigest.map (Json.str ·.value)).getD .null)]
        | none => [])
    else []) ++
    (if c.evidenceOnly then [("evidence_only", .bool true)] else []))

/-- Identity of retained evidence: `(child_id, attempt_id or "")`. -/
def evidenceKey (c : ChildCompletion) : String × String := (c.childId.value, c.attemptText)

end ChildCompletion

/-! ## Coordinator -/

structure FanoutCoordinator where
  plan : FanoutPlan
  completions : List ChildCompletion := []
  parentAttemptId : Option (Ident 128) := none
  leaseGeneration : Option Nat := none
  childAttemptIds : List (Ident 128 × Ident 128) := []
  staleCompletions : List ChildCompletion := []

/-- `normalized_attempt_ids`, a dictionary in insertion order. -/
abbrev AttemptIds := List (Ident 128 × Ident 128)

namespace AttemptIds

def set (ids : AttemptIds) (child attempt : Ident 128) : AttemptIds :=
  if ids.any (·.1 = child) then ids.map fun p => if p.1 = child then (child, attempt) else p
  else ids ++ [(child, attempt)]

def itemLe (a b : Ident 128 × Ident 128) : Prop :=
  pairLe (a.1.value, a.2.value) (b.1.value, b.2.value)

instance : DecidableRel itemLe := fun a b => by unfold itemLe; infer_instance

/-- `tuple(sorted(ids.items()))`. -/
def sorted (ids : AttemptIds) : AttemptIds := ids.insertionSort itemLe

end AttemptIds

namespace FanoutCoordinator

/-- The pairs given by the caller, each naming a known child, without conflict. -/
def collectAttempts (plan : FanoutPlan) : AttemptIds → AttemptIds → Except Failure AttemptIds
  | collected, [] => .ok collected
  | collected, (child, attempt) :: rest => do
    ensure (plan.child? child ≠ none)
      ⟨.contractMismatch, s!"unknown child attempt binding: {child.value}"⟩
    ensure (∀ prior, collected.lookup child = some prior → prior = attempt)
      ⟨.contractMismatch, s!"conflicting child attempt binding: {child.value}"⟩
    collectAttempts plan (collected.set child attempt) rest

/-- Checks of one state-advancing completion against the plan and, once the
coordinator is bound, against its generation. -/
def checkCompletion (plan : FanoutPlan) (parentAttemptId : Option (Ident 128))
    (leaseGeneration : Option Nat) (c : ChildCompletion) : Except Failure Unit :=
  let id := c.childId.value
  match plan.child? c.childId with
  | none => .error ⟨.contractMismatch, s!"unknown child: {id}"⟩
  | some expected => do
    ensure (c.childContractDigest = expected.contractDigest)
      ⟨.contractMismatch, s!"child contract digest mismatch: {id}"⟩
    if parentAttemptId = none then return ()
    ensure c.hasParentBinding
      ⟨.contractMismatch, s!"current-generation completion is missing binding: {id}"⟩
    ensure (c.planVersion.map (·.value) = some plan.planVersion.value)
      ⟨.contractMismatch, s!"completion plan_version mismatch: {id}"⟩
    ensure (c.planDigest = some plan.planDigest)
      ⟨.contractMismatch, s!"completion plan_digest mismatch: {id}"⟩
    ensure (c.parentAttemptId = parentAttemptId)
      ⟨.contractMismatch, s!"completion parent attempt mismatch: {id}"⟩
    ensure (c.leaseGeneration = leaseGeneration)
      ⟨.contractMismatch, s!"completion lease generation mismatch: {id}"⟩
    ensure (c.sourceDigest ∈ [none, some expected.sourceDigest])
      ⟨.contractMismatch, s!"completion source digest mismatch: {id}"⟩
    ensure (c.standardsProfileDigest ∈ [none, some expected.standardsProfileDigest])
      ⟨.contractMismatch, s!"completion standards digest mismatch: {id}"⟩

/-- Every completion passes its checks and names the attempt bound to its child;
an unbound child is bound to the attempt the completion names. -/
def bindAttempts (plan : FanoutPlan) (parentAttemptId : Option (Ident 128))
    (leaseGeneration : Option Nat) : AttemptIds → List ChildCompletion → Except Failure AttemptIds
  | attempts, [] => .ok attempts
  | attempts, c :: rest => do
    checkCompletion plan parentAttemptId leaseGeneration c
    ensure (∀ expected, attempts.lookup c.childId = some expected → c.attemptId = some expected)
      ⟨.contractMismatch, s!"completion attempt mismatch: {c.childId.value}"⟩
    let attempts := match c.attemptId, attempts.lookup c.childId with
      | some attempt, none => attempts.set c.childId attempt
      | _, _ => attempts
    bindAttempts plan parentAttemptId leaseGeneration attempts rest

/-- `by_id`: one completion a child, equal copies dropped. -/
def collectById : List ChildCompletion → List ChildCompletion → Except Failure (List ChildCompletion)
  | collected, [] => .ok collected
  | collected, c :: rest =>
    match collected.find? (·.childId = c.childId) with
    | none => collectById (collected ++ [c]) rest
    | some prior =>
      if prior = c then collectById collected rest
      else .error ⟨.contractMismatch, s!"conflicting completion: {c.childId.value}"⟩

def checkStale (plan : FanoutPlan) (c : ChildCompletion) : Except Failure Unit :=
  let id := c.childId.value
  match plan.child? c.childId with
  | none => .error ⟨.contractMismatch, s!"unknown stale child: {id}"⟩
  | some expected => do
    ensure (c.childContractDigest = expected.contractDigest)
      ⟨.contractMismatch, s!"stale child contract digest mismatch: {id}"⟩
    ensure (c.status = .stale ∧ c.evidenceOnly)
      ⟨.schemaInvalid, "stale_completions must be evidence_only STALE records"⟩

/-- `stale_by_key`: one record an evidence key, equal copies dropped. -/
def collectStale (plan : FanoutPlan) :
    List ChildCompletion → List ChildCompletion → Except Failure (List ChildCompletion)
  | collected, [] => .ok collected
  | collected, c :: rest => do
    checkStale plan c
    match collected.find? (·.evidenceKey = c.evidenceKey) with
    | none => collectStale plan (collected ++ [c]) rest
    | some prior =>
      if prior = c then collectStale plan collected rest
      else .error ⟨.contractMismatch, s!"conflicting stale evidence: {c.childId.value}"⟩

/-- `__post_init__`. -/
def make (plan : FanoutPlan) (completions : List ChildCompletion)
    (parentAttemptId : Option (Ident 128)) (leaseGeneration : Option Nat)
    (childAttemptIds : AttemptIds) (staleCompletions : List ChildCompletion) :
    Except Failure FanoutCoordinator := do
  ensure (parentAttemptId = none → leaseGeneration = none)
    ⟨.schemaInvalid, "lease_generation requires parent_attempt_id"⟩
  ensure (parentAttemptId ≠ none → leaseGeneration ≠ none)
    ⟨.generationRequired, "parent_attempt_id requires lease_generation for v2 fan-out"⟩
  let given ← collectAttempts plan [] childAttemptIds
  let attempts ← bindAttempts plan parentAttemptId leaseGeneration given completions
  let byId ← collectById [] completions
  let stale ← collectStale plan [] staleCompletions
  return {
    plan := plan
    completions := byId.insertionSort ChildCompletion.childLe
    parentAttemptId := parentAttemptId
    leaseGeneration := leaseGeneration
    childAttemptIds := attempts.sorted
    staleCompletions := stale.insertionSort ChildCompletion.sequenceLe }

/-- `FanoutCoordinator(plan, parent_attempt_id=.., ..)` over a new plan. -/
def fromPlan (plan : FanoutPlan) (parentAttemptId : Option (Ident 128))
    (leaseGeneration : Option Nat) (childAttemptIds : AttemptIds) :
    Except Failure FanoutCoordinator :=
  make plan [] parentAttemptId leaseGeneration childAttemptIds []

def completionOf (c : FanoutCoordinator) (childId : Ident 128) : Option ChildCompletion :=
  c.completions.find? (·.childId = childId)

def evidenceCompletions (c : FanoutCoordinator) : List ChildCompletion :=
  (c.completions ++ c.staleCompletions).insertionSort ChildCompletion.sequenceLe

def currentAttemptId (c : FanoutCoordinator) (childId : Ident 128) : Option (Ident 128) :=
  match c.childAttemptIds.lookup childId with
  | some attempt => some attempt
  | none => (c.completionOf childId).bind (·.attemptId)

/-- Children of the first stage that is not complete; none once a stage holds a
completion that did not succeed. -/
def windowOf (c : FanoutCoordinator) : List (List (Ident 128)) → List (Ident 128)
  | [] => []
  | stage :: rest =>
    if stage.any fun id => ((c.completionOf id).map fun held => decide (held.status ≠ .succeeded)).getD false then []
    else
      let remaining := stage.filter fun id => c.completionOf id = none
      if remaining ≠ [] then remaining else windowOf c rest

def dispatchWindow (c : FanoutCoordinator) : List (Ident 128) := c.windowOf c.plan.stages

def lifecycleState (c : FanoutCoordinator) (childId : Ident 128) : Except Failure ChildLifecycle :=
  if c.plan.child? childId = none then
    .error ⟨.contractMismatch, s!"unknown child: {childId.value}"⟩
  else
    match c.completionOf childId with
    | some completion => .ok completion.lifecycle
    | none => .ok (if childId ∈ c.dispatchWindow then .dispatched else .planned)

/-- `_record_stale`. -/
def recordStale (c : FanoutCoordinator) (completion : ChildCompletion) :
    Except Failure FanoutCoordinator :=
  let stale := if completion.status ≠ .stale ∨ ¬ completion.evidenceOnly then completion.asStale
    else completion
  match c.staleCompletions.find? (·.evidenceKey = stale.evidenceKey) with
  | some prior =>
    if prior = stale then .ok c
    else .error ⟨.idempotencyConflict, s!"conflicting stale evidence: {stale.childId.value}"⟩
  | none => make c.plan c.completions c.parentAttemptId c.leaseGeneration c.childAttemptIds
      (c.staleCompletions ++ [stale])

/-- The part of `complete` after the completion is known to be of the current
generation. -/
def completeCurrent (c : FanoutCoordinator) (completion : ChildCompletion) (expected : ChildContract)
    (parentAttemptId : Option (Ident 128)) (leaseGeneration : Option Nat) :
    Except Failure FanoutCoordinator :=
  let id := completion.childId
  if ∃ attempt ∈ c.childAttemptIds.lookup id, completion.attemptId ≠ some attempt then
    c.recordStale completion
  else if parentAttemptId ≠ none ∧ completion.attemptId = none then
    .error ⟨.contractMismatch, s!"bound completion is missing attempt_id: {id.value}"⟩
  else
    let normalized :=
      if completion.hasParentBinding ∧ completion.sourceDigest = none then
        completion.withSources expected.sourceDigest expected.standardsProfileDigest
      else completion
    match c.completionOf id with
    | some prior =>
      if prior = normalized then .ok c
      else .error ⟨.contractMismatch, s!"conflicting completion: {id.value}"⟩
    | none =>
      if id ∉ c.dispatchWindow then
        .error ⟨.contractMismatch, s!"child is not in the current dispatch window: {id.value}"⟩
      else
        let attempts := match normalized.attemptId with
          | some attempt => AttemptIds.set c.childAttemptIds id attempt
          | none => c.childAttemptIds
        make c.plan (c.completions ++ [normalized]) parentAttemptId leaseGeneration attempts
          c.staleCompletions

/-- Accept a current-window completion or retain late evidence as STALE. -/
def complete (c : FanoutCoordinator) (completion : ChildCompletion) :
    Except Failure FanoutCoordinator :=
  let id := completion.childId.value
  match c.plan.child? completion.childId with
  | none => .error ⟨.contractMismatch, s!"unknown child: {id}"⟩
  | some expected =>
    if completion.childContractDigest ≠ expected.contractDigest then
      .error ⟨.contractMismatch, s!"child contract digest mismatch: {id}"⟩
    else if completion.evidenceOnly then c.recordStale completion
    else if c.parentAttemptId ≠ none ∧ ¬ completion.hasParentBinding then
      .error ⟨.contractMismatch, s!"current-generation completion is missing binding: {id}"⟩
    else if ¬ completion.hasParentBinding then
      c.completeCurrent completion expected c.parentAttemptId c.leaseGeneration
    else if completion.planVersion.map (·.value) ≠ some c.plan.planVersion.value ∨
        completion.planDigest ≠ some c.plan.planDigest ∨
        completion.sourceDigest ∉ [none, some expected.sourceDigest] ∨
        completion.standardsProfileDigest ∉ [none, some expected.standardsProfileDigest] then
      if c.parentAttemptId ≠ none then c.recordStale completion
      else .error ⟨.contractMismatch, s!"completion plan identity mismatch: {id}"⟩
    else if c.parentAttemptId = none then
      -- the first bound completion fixes the generation
      c.completeCurrent completion expected completion.parentAttemptId completion.leaseGeneration
    else if completion.parentAttemptId ≠ c.parentAttemptId ∨
        completion.leaseGeneration ≠ c.leaseGeneration then
      c.recordStale completion
    else c.completeCurrent completion expected c.parentAttemptId c.leaseGeneration

/-- Retained evidence of a retry, skipping keys that are already held. -/
def retire : List ChildCompletion → List ChildCompletion → List ChildCompletion
  | stale, [] => stale
  | stale, prior :: rest =>
    if stale.any (·.evidenceKey = prior.asStale.evidenceKey) then retire stale rest
    else retire (stale ++ [prior.asStale]) rest

/-- Start a new child attempt without reusing the old identity. -/
def retryChild (c : FanoutCoordinator) (childId attemptId : String)
    (parentAttemptId : Option String := none) (leaseGeneration : Option Nat := none) :
    Except Failure FanoutCoordinator := do
  let childId ← identText 128 "child_id" childId
  ensure (c.plan.child? childId ≠ none)
    ⟨.contractMismatch, s!"unknown child: {childId.value}"⟩
  let attemptId ← identText 128 "attempt_id" attemptId
  ensure (c.currentAttemptId childId ≠ some attemptId)
    ⟨.attemptReuse, s!"retry must create a new attempt: {childId.value}"⟩
  let nextParent ← (match parentAttemptId with
    | some raw => (identText 128 "parent_attempt_id" raw).map some
    | none => .ok c.parentAttemptId)
  let nextLease := leaseGeneration.orElse fun _ => c.leaseGeneration
  ensure (nextParent = none → nextLease = none)
    ⟨.schemaInvalid, "lease_generation requires parent_attempt_id"⟩
  if nextParent ≠ c.parentAttemptId ∨ nextLease ≠ c.leaseGeneration then
    make c.plan [] nextParent nextLease [(childId, attemptId)] (retire c.staleCompletions c.completions)
  else
    let attempts := (c.childAttemptIds.filter (·.1 ≠ childId)) ++ [(childId, attemptId)]
    make c.plan (c.completions.filter (·.childId ≠ childId)) nextParent nextLease attempts
      (retire c.staleCompletions (c.completions.filter (·.childId = childId)))

/-! ## Join -/

structure JoinDecision where
  status : JoinStatus
  missingChildIds : List String
  failedChildIds : List String
  joinSemantics : JoinSemantics
  staleChildIds : List String
  deriving DecidableEq

/-- Completion-order-independent input of a later Mixer. -/
structure NormalizedJoinInput where
  parentContractId : Ident 256
  parentContractDigest : Digest
  planDigest : Digest
  childIds : List (Ident 128)
  completions : List ChildCompletion
  digest : Digest
  parentAttemptId : Option (Ident 128) := none
  leaseGeneration : Option Nat := none
  deriving DecidableEq

namespace NormalizedJoinInput

/-- The payload under the digest. -/
def payload (parentContractId : Ident 256) (parentContractDigest planDigest : Digest)
    (ordered : List ChildCompletion) (parentAttemptId : Option (Ident 128))
    (leaseGeneration : Option Nat) : Json :=
  .obj ([("parent_contract_id", .str parentContractId.value),
      ("parent_contract_digest", .str parentContractDigest.value),
      ("plan_digest", .str planDigest.value),
      ("completions", .arr (ordered.map (·.toDict)))] ++
    match parentAttemptId with
    | some attempt => [("parent_attempt_id", .str attempt.value),
        ("lease_generation", (leaseGeneration.map (Json.int ·)).getD .null)]
    | none => [])

/-- `__post_init__`. -/
def validate [Sha256] (input : NormalizedJoinInput) : Except Failure NormalizedJoinInput := do
  let ordered := input.completions.insertionSort ChildCompletion.childLe
  ensure (ordered.map (·.childId) = input.childIds.insertionSort (·.value ≤ ·.value))
    ⟨.schemaInvalid, "normalized child_ids do not match completions"⟩
  ensure (input.parentAttemptId = none → input.leaseGeneration = none)
    ⟨.schemaInvalid, "lease_generation requires parent_attempt_id"⟩
  ensure (input.digest = canonicalDigest (payload input.parentContractId input.parentContractDigest
      input.planDigest ordered input.parentAttemptId input.leaseGeneration))
    ⟨.digestMismatch, "normalized join digest does not match canonical input"⟩
  return { input with completions := ordered, childIds := ordered.map (·.childId) }

end NormalizedJoinInput

/-- `normalized_input`. -/
def normalizedInput [Sha256] (c : FanoutCoordinator) : Except Failure NormalizedJoinInput :=
  let ordered := c.completions.insertionSort ChildCompletion.childLe
  NormalizedJoinInput.validate {
    parentContractId := c.plan.parentContractId
    parentContractDigest := c.plan.parentContractDigest
    planDigest := c.plan.planDigest
    childIds := ordered.map (·.childId)
    completions := ordered
    digest := canonicalDigest (NormalizedJoinInput.payload c.plan.parentContractId
      c.plan.parentContractDigest c.plan.planDigest ordered c.parentAttemptId c.leaseGeneration)
    parentAttemptId := c.parentAttemptId
    leaseGeneration := c.leaseGeneration }

/-- Blocked by a failed child, otherwise waiting for a missing one. -/
def joinStatus (failed missing : List String) : JoinStatus :=
  if failed ≠ [] then .blocked else if missing ≠ [] then .notReady else .ready

/-- `join`; the normalized input it also returns is `normalizedInput`. -/
def join (c : FanoutCoordinator) : JoinDecision :=
  let semantics := c.plan.joinSemantics
  let received := c.completions.map (·.childId)
  let missing := ((c.plan.children.map (·.childId)).filter (· ∉ received)).map (·.value)
  let failed := (c.completions.filter (·.status ∉ semantics.acceptableTerminalStates)).map (·.childId.value)
  let missing := missing.insertionSort (· ≤ ·)
  let failed := failed.insertionSort (· ≤ ·)
  { status := joinStatus failed missing
    missingChildIds := missing
    failedChildIds := failed
    joinSemantics := semantics
    staleChildIds := ((c.staleCompletions.map (·.childId.value)).dedup).insertionSort (· ≤ ·) }

end FanoutCoordinator

end DwSuperApps.Source.Fanout
