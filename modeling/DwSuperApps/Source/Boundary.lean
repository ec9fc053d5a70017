import Mathlib.Data.List.DropRight
import Mathlib.Data.String.Basic
import DwSuperApps.Lib.Checked
import DwSuperApps.Lib.Sorted
import DwSuperApps.Lib.Text

/-!
# Execution boundaries

The capability envelope of `taskcontroller/controlplane/execution_boundary.py`: its
sequences and limits, the containment of scope roots, the child-subset proof.

The constructor takes arguments of the declared types; `from_dict` reads them from JSON.
A Lean string always encodes, so the digest is always defined.
-/
namespace DwSuperApps.Source.Boundary

open DwSuperApps.Lib DwSuperApps.Lib.Checked

inductive Code where
  | replanRequired | schemaInvalid | digestMismatch
  deriving DecidableEq

def Code.text : Code → String
  | .replanRequired => "REPLAN_REQUIRED"
  | .schemaInvalid => "SCHEMA_INVALID"
  | .digestMismatch => "DIGEST_MISMATCH"

/-- The checks of a child boundary, the single budgets among them. -/
inductive Check where
  | allowedActionsSubset | deniedActionsPreserved | writableTargetsSubset | sourceRootsSubset
  | maxChildren | maxParallel | maxDepth | childBudgetsWithinParent | replanTriggersPreserved
  deriving DecidableEq

def Check.name : Check → String
  | .allowedActionsSubset => "allowed_actions_subset"
  | .deniedActionsPreserved => "denied_actions_preserved"
  | .writableTargetsSubset => "writable_targets_subset"
  | .sourceRootsSubset => "source_roots_subset"
  | .maxChildren => "max_children"
  | .maxParallel => "max_parallel"
  | .maxDepth => "max_depth"
  | .childBudgetsWithinParent => "child_budgets_within_parent"
  | .replanTriggersPreserved => "replan_triggers_preserved"

/-- `_SUBSET_CHECKS`. -/
def subsetChecks : List Check :=
  [.allowedActionsSubset, .deniedActionsPreserved, .writableTargetsSubset, .sourceRootsSubset,
    .childBudgetsWithinParent, .replanTriggersPreserved]

/-- `ExecutionBoundaryValidationError`. -/
structure Raised where
  code : Code
  message : String
  failedChecks : List Check
  deriving DecidableEq

def fail (code : Code) (message : String) (failedChecks : List Check) : Raised :=
  ⟨code, s!"{code.text}: {message}", failedChecks⟩

def schemaInvalid (message : String) : Raised := fail .schemaInvalid message []

def maxActions : Nat := 64
def maxTargets : Nat := 64
def maxSourceRoots : Nat := 64
def maxReplanTriggers : Nat := 64
def maxTimeBudgetSeconds : Int := 3600
def maxTokenBudget : Int := 1000000

/-! ## Sequences of texts -/

/-- A text a boundary accepts as an item. -/
def Text (value : String) : Prop := value ≠ "" ∧ strip value = value

instance (value : String) : Decidable (Text value) := inferInstanceAs (Decidable (_ ∧ _))

/-- A normalized sequence: sorted, without duplicates. -/
structure Sequence (minItems maxItems : Nat) where
  items : List String
  strict : items.Pairwise (· < ·)
  enough : minItems ≤ items.length
  limited : items.length ≤ maxItems
  texts : ∀ item ∈ items, Text item

/-- `_string_sequence` without the check of paths. -/
def stringSequence (value : List String) (name : String) (minItems maxItems : Nat) :
    Except Raised (Sequence minItems maxItems) :=
  if few : value.length < minItems then
    .error (schemaInvalid s!"{name} must contain at least {minItems} item(s)")
  else if many : maxItems < value.length then
    .error (schemaInvalid s!"{name} must contain at most {maxItems} items")
  else if texts : ∀ item ∈ value, Text item then
    if distinct : (value.map id).Nodup then
      .ok {
        items := Sorted.sortedBy id value
        strict := Sorted.sortedBy_strict distinct
        enough := by
          rw [Sorted.perm_sortedBy.length_eq]
          exact Nat.not_lt.mp few
        limited := by
          rw [Sorted.perm_sortedBy.length_eq]
          exact Nat.not_lt.mp many
        texts := fun item member => texts item (Sorted.mem_sortedBy.mp member) }
    else .error (schemaInvalid s!"{name} must not contain duplicates")
  else
    .error (schemaInvalid
      s!"{name}[] must be a non-empty string without surrounding whitespace")

/-! ## Scope roots -/

/-- `value.split("/")`. -/
def splitPath (value : String) : List String :=
  (value.toList.splitOn '/').map String.ofList

/-- What `_validate_scope_path` holds against a root. -/
inductive ScopeFault where
  | notRelative | unsafeSegment | innerWildcard | unsupportedWildcard
  deriving DecidableEq

def ScopeFault.message (name : String) : ScopeFault → String
  | .notRelative => s!"{name}[] must be a relative forward-slash scope root"
  | .unsafeSegment => s!"{name}[] contains an unsafe path segment"
  | .innerWildcard => s!"{name}[] supports only a trailing wildcard"
  | .unsupportedWildcard => s!"{name}[] contains an unsupported wildcard"

/-- The positions of the segments with an asterisk. -/
def wildcardPositions (parts : List String) : List Nat :=
  parts.zipIdx.filterMap fun part => if '*' ∈ part.1.toList then some part.2 else none

/-- `_validate_scope_path`. -/
def scopeFault (value : String) : Option ScopeFault :=
  let parts := splitPath value
  let wildcards := wildcardPositions parts
  if value.toList.head? = some '/' ∨ '\\' ∈ value.toList then some .notRelative
  else if ∃ part ∈ parts, part ∈ ["", ".", ".."] then some .unsafeSegment
  else if wildcards ≠ [] ∧ wildcards ≠ [parts.length - 1] then some .innerWildcard
  else if wildcards ≠ [] ∧ parts.getLast? ∉ [some "*", some "**"] then some .unsupportedWildcard
  else none

def validateScopePath (name value : String) : Except Raised Unit :=
  match scopeFault value with
  | some fault => .error (schemaInvalid (fault.message name))
  | none => .ok ()

theorem validateScopePath_ok {name value : String} :
    validateScopePath name value = .ok () ↔ scopeFault value = none := by
  unfold validateScopePath
  split <;> simp [*]

/-- A normalized sequence of scope roots. -/
structure Roots (minItems maxItems : Nat) extends Sequence minItems maxItems where
  valid : ∀ root ∈ items, scopeFault root = none

/-- `_string_sequence` with `path_like=True`. -/
def rootSequence (value : List String) (name : String) (minItems maxItems : Nat) :
    Except Raised (Roots minItems maxItems) :=
  match stringSequence value name minItems maxItems with
  | .error e => .error e
  | .ok normalized =>
    match checked : checkAll (validateScopePath name) normalized.items with
    | .error e => .error e
    | .ok _ =>
      .ok { normalized with
        valid := fun root member =>
          validateScopePath_ok.mp (checkAll_ok.mp checked root member) }

inductive Wildcard where
  | star | doubleStar
  deriving DecidableEq

/-- `_root_without_wildcard`. -/
def rootWithoutWildcard (value : String) : String × Option Wildcard :=
  if "/**".toList <:+ value.toList then
    (String.ofList (value.toList.rdrop 3), some .doubleStar)
  else if "/*".toList <:+ value.toList then (String.ofList (value.toList.rdrop 2), some .star)
  else (value, none)

/-- `_path_is_within`. -/
def pathIsWithin (child parent : String) : Bool :=
  if child = parent then true
  else
    let (childRoot, childWildcard) := rootWithoutWildcard child
    let (parentRoot, parentWildcard) := rootWithoutWildcard parent
    let parentParts := splitPath parentRoot
    let childParts := splitPath childRoot
    if childParts.take parentParts.length ≠ parentParts then false
    else
      let remaining := childParts.drop parentParts.length
      if remaining = [] then
        -- a one-segment wildcard does not include its own root
        if parentWildcard = some .star then false
        else decide (parentWildcard ∈ [none, some .doubleStar])
      else if parentWildcard = some .star then
        decide (remaining.length = 1 ∧ childWildcard = none)
      else decide (parentWildcard ∈ [none, some .doubleStar])

/-- `_any_root_contains`. -/
def anyRootContains (child : String) (parents : List String) : Bool :=
  parents.any (pathIsWithin child)

/-! ## Boundaries -/

/-- An integer between two limits. -/
structure Limited (minimum maximum : Int) where
  value : Int
  atLeast : minimum ≤ value
  atMost : value ≤ maximum
  deriving DecidableEq

/-- `_integer`. -/
def integer (value : Int) (name : String) (minimum maximum : Int) :
    Except Raised (Limited minimum maximum) :=
  if h : value < minimum ∨ maximum < value then
    .error (schemaInvalid s!"{name} must be between {minimum} and {maximum}")
  else .ok ⟨value, by omega, by omega⟩

/-- `_optional_integer`. -/
def optionalInteger (value : Option Int) (name : String) (minimum maximum : Int) :
    Except Raised (Option (Limited minimum maximum)) :=
  match value with
  | none => .ok none
  | some value => (integer value name minimum maximum).map some

structure ExecutionBoundary where
  allowedActions : Sequence 1 maxActions
  deniedActions : Sequence 0 maxActions
  writableTargets : Roots 0 maxTargets
  sourceRoots : Roots 1 maxSourceRoots
  maxChildren : Limited 0 64
  maxParallel : Limited 1 64
  maxDepth : Limited 0 8
  replanRequiredWhen : Sequence 1 maxReplanTriggers
  timeBudgetSeconds : Option (Limited 1 maxTimeBudgetSeconds)
  tokenBudget : Option (Limited 1 maxTokenBudget)
  disjoint : ∀ action ∈ allowedActions.items, action ∉ deniedActions.items

/-- The arguments of the constructor. -/
structure Arguments where
  allowedActions : List String
  deniedActions : List String
  writableTargets : List String
  sourceRoots : List String
  maxChildren : Int
  maxParallel : Int
  maxDepth : Int
  replanRequiredWhen : List String
  scopeDigest : Option String := none
  timeBudgetSeconds : Option Int := none
  tokenBudget : Option Int := none
  deriving DecidableEq

namespace ExecutionBoundary

def limitJson {minimum maximum : Int} (limit : Limited minimum maximum) : Json := .int limit.value

def budgetJson {minimum maximum : Int} : Option (Limited minimum maximum) → Json
  | none => .null
  | some limit => limitJson limit

/-- `_payload_without_digest`. -/
def payloadWithoutDigest (b : ExecutionBoundary) : Json := .obj [
  ("allowed_actions", .arr (b.allowedActions.items.map .str)),
  ("denied_actions", .arr (b.deniedActions.items.map .str)),
  ("writable_targets", .arr (b.writableTargets.items.map .str)),
  ("source_roots", .arr (b.sourceRoots.items.map .str)),
  ("max_children", limitJson b.maxChildren),
  ("max_parallel", limitJson b.maxParallel),
  ("max_depth", limitJson b.maxDepth),
  ("replan_required_when", .arr (b.replanRequiredWhen.items.map .str)),
  ("time_budget_seconds", budgetJson b.timeBudgetSeconds),
  ("token_budget", budgetJson b.tokenBudget)]

/-- `scope_digest` of a constructed boundary. -/
def scopeDigest [Sha256] (b : ExecutionBoundary) : Digest := canonicalDigest b.payloadWithoutDigest

/-- The check of a supplied digest. -/
def checkDigest [Sha256] (b : ExecutionBoundary) (supplied : String) : Except Raised Unit := do
  ensure (Text supplied)
    (schemaInvalid "scope_digest must be a non-empty string without surrounding whitespace")
  ensure (isDigest supplied) (schemaInvalid "scope_digest must match sha256:<64 lowercase hex>")
  ensure (supplied = b.scopeDigest.value) (fail .digestMismatch
    s!"scope_digest does not match canonical boundary; expected {b.scopeDigest.value}" [])

/-- `__post_init__`. -/
def make [Sha256] (given : Arguments) : Except Raised ExecutionBoundary := do
  let allowedActions ← stringSequence given.allowedActions "allowed_actions" 1 maxActions
  let deniedActions ← stringSequence given.deniedActions "denied_actions" 0 maxActions
  let writableTargets ← rootSequence given.writableTargets "writable_targets" 0 maxTargets
  let sourceRoots ← rootSequence given.sourceRoots "source_roots" 1 maxSourceRoots
  let replanRequiredWhen ←
    stringSequence given.replanRequiredWhen "replan_required_when" 1 maxReplanTriggers
  let overlap := allowedActions.items.filter (· ∈ deniedActions.items)
  if overlapping : overlap ≠ [] then
    .error (schemaInvalid
      ("allowed_actions and denied_actions overlap: " ++ ", ".intercalate overlap))
  else do
    let maxChildren ← integer given.maxChildren "max_children" 0 64
    let maxParallel ← integer given.maxParallel "max_parallel" 1 64
    let maxDepth ← integer given.maxDepth "max_depth" 0 8
    let timeBudgetSeconds ←
      optionalInteger given.timeBudgetSeconds "time_budget_seconds" 1 maxTimeBudgetSeconds
    let tokenBudget ← optionalInteger given.tokenBudget "token_budget" 1 maxTokenBudget
    let boundary : ExecutionBoundary := {
      allowedActions, deniedActions, writableTargets, sourceRoots, maxChildren, maxParallel
      maxDepth, replanRequiredWhen, timeBudgetSeconds, tokenBudget
      disjoint := fun action allowed denied =>
        overlapping fun none => by
          have member : action ∈ overlap :=
            List.mem_filter.mpr ⟨allowed, decide_eq_true denied⟩
          rw [none] at member
          cases member }
    match given.scopeDigest with
    | none => .ok boundary
    | some supplied => do
      boundary.checkDigest supplied
      return boundary

/-! ## Child boundaries -/

/-- A bounded parent wants a child within the bound; an unbounded one takes any. -/
def budgetWithin {minimum maximum : Int} (child parent : Option (Limited minimum maximum)) : Bool :=
  match parent, child with
  | none, _ => true
  | some _, none => false
  | some limit, some used => used.value ≤ limit.value

/-- The list `failed` of `validate_child_subset`. -/
def failedChecks (parent child : ExecutionBoundary) (childDepth : Int) : List Check :=
  let moreChildren := parent.maxChildren.value < child.maxChildren.value
  let moreParallel := parent.maxParallel.value < child.maxParallel.value
  let deeper := parent.maxDepth.value - childDepth < child.maxDepth.value
  let budgetFailed := moreChildren ∨ moreParallel ∨ deeper ∨
    ¬ budgetWithin child.timeBudgetSeconds parent.timeBudgetSeconds ∨
    ¬ budgetWithin child.tokenBudget parent.tokenBudget
  (if child.allowedActions.items ⊆ parent.allowedActions.items then []
    else [.allowedActionsSubset]) ++
  (if parent.deniedActions.items ⊆ child.deniedActions.items then []
    else [.deniedActionsPreserved]) ++
  (if child.writableTargets.items.all (anyRootContains · parent.writableTargets.items) then []
    else [.writableTargetsSubset]) ++
  (if child.sourceRoots.items.all (anyRootContains · parent.sourceRoots.items) then []
    else [.sourceRootsSubset]) ++
  (if moreChildren then [.maxChildren] else []) ++
  (if moreParallel then [.maxParallel] else []) ++
  (if deeper then [.maxDepth] else []) ++
  (if budgetFailed then [.childBudgetsWithinParent] else []) ++
  (if parent.replanRequiredWhen.items ⊆ child.replanRequiredWhen.items then []
    else [.replanTriggersPreserved])

/-- `BoundarySubsetProof`; a proof that exists is valid. -/
structure BoundarySubsetProof where
  parentScopeDigest : Digest
  childScopeDigest : Digest
  checks : List Check := subsetChecks
  complete : checks = subsetChecks := by rfl

/-- `validate_child_subset`. -/
def validateChildSubset [Sha256] (parent child : ExecutionBoundary) (childDepth : Int) :
    Except Raised BoundarySubsetProof := do
  ensure (0 ≤ childDepth) (schemaInvalid "child_depth must be an integer >= 0")
  ensure (parent.failedChecks child childDepth = [])
    (fail .replanRequired "child execution boundary is not a subset of the parent boundary"
      (parent.failedChecks child childDepth))
  return { parentScopeDigest := parent.scopeDigest, childScopeDigest := child.scopeDigest }

/-- `is_subset_of`. -/
def isSubsetOf [Sha256] (child parent : ExecutionBoundary) (childDepth : Int) :
    Except Raised Bool :=
  match parent.validateChildSubset child childDepth with
  | .ok _ => .ok true
  | .error e => if e.code = .replanRequired then .ok false else .error e

/-! ## Serialized form -/

/-- `to_dict`. -/
def toDict [Sha256] (b : ExecutionBoundary) : List (String × Json) := [
  ("allowed_actions", .arr (b.allowedActions.items.map .str)),
  ("denied_actions", .arr (b.deniedActions.items.map .str)),
  ("writable_targets", .arr (b.writableTargets.items.map .str)),
  ("source_roots", .arr (b.sourceRoots.items.map .str)),
  ("max_children", limitJson b.maxChildren),
  ("max_parallel", limitJson b.maxParallel),
  ("max_depth", limitJson b.maxDepth),
  ("replan_required_when", .arr (b.replanRequiredWhen.items.map .str)),
  ("time_budget_seconds", budgetJson b.timeBudgetSeconds),
  ("token_budget", budgetJson b.tokenBudget),
  ("scope_digest", .str b.scopeDigest.value)]

/-- `list(value)`; a value that is not iterable has the text of its `TypeError`. -/
def sequenceItems (value : Json) (name : String) : Except Raised (List Json) :=
  let notIterable (type : String) : Except Raised (List Json) :=
    .error (schemaInvalid s!"{name} must be an array of strings: '{type}' object is not iterable")
  match value with
  | .arr items => .ok items
  | .str _ | .obj _ => .error (schemaInvalid s!"{name} must be an array of strings")
  | .null => notIterable "NoneType"
  | .bool _ => notIterable "bool"
  | .int _ => notIterable "int"
  | .float _ => notIterable "float"

/-- `_string` of an item. -/
def itemText (name : String) : Json → Except Raised String
  | .str value => do
    ensure (Text value) (schemaInvalid s!"{name}[] must be a non-empty string without surrounding whitespace")
    return value
  | _ => .error (schemaInvalid s!"{name}[] must be a non-empty string without surrounding whitespace")

/-- What `_string_sequence` reads of a value before it sorts. -/
def sequenceTexts (value : Json) (name : String) (minItems maxItems : Nat) :
    Except Raised (List String) := do
  let items ← sequenceItems value name
  ensure (minItems ≤ items.length) (schemaInvalid s!"{name} must contain at least {minItems} item(s)")
  ensure (items.length ≤ maxItems) (schemaInvalid s!"{name} must contain at most {maxItems} items")
  items.mapM (itemText name)

/-- `_integer` of a value. -/
def integerOf (value : Json) (name : String) (minimum maximum : Int) :
    Except Raised (Limited minimum maximum) :=
  match value with
  | .int n => integer n name minimum maximum
  | _ => .error (schemaInvalid s!"{name} must be an integer")

/-- `_optional_integer` of a value. -/
def optionalIntegerOf (value : Json) (name : String) (minimum maximum : Int) :
    Except Raised (Option (Limited minimum maximum)) :=
  match value with
  | .null => .ok none
  | value => (integerOf value name minimum maximum).map some

/-- `_BOUNDARY_FIELDS`. -/
def boundaryFields : List String :=
  ["allowed_actions", "denied_actions", "writable_targets", "source_roots", "max_children",
    "max_parallel", "max_depth", "replan_required_when"]

/-- `_OPTIONAL_BOUNDARY_FIELDS`. -/
def optionalBoundaryFields : List String := ["time_budget_seconds", "token_budget"]

/-- `from_dict`: the constructor over the members of a mapping. -/
def fromDict [Sha256] (payload : List (String × Json)) : Except Raised ExecutionBoundary := do
  let names := payload.map Prod.fst
  let unknown := Sorted.sortedBy id
    (names.filter (· ∉ boundaryFields ++ optionalBoundaryFields ++ ["scope_digest"]))
  ensure (unknown = [])
    (schemaInvalid ("unsupported execution boundary fields: " ++ ", ".intercalate unknown))
  let missing := boundaryFields.filter (· ∉ names)
  ensure (missing = []) (schemaInvalid ("execution boundary is missing: " ++ ", ".intercalate missing))
  let allowedTexts ← sequenceTexts (Json.get payload "allowed_actions") "allowed_actions" 1 maxActions
  let allowedActions ← stringSequence allowedTexts "allowed_actions" 1 maxActions
  let deniedTexts ← sequenceTexts (Json.get payload "denied_actions") "denied_actions" 0 maxActions
  let deniedActions ← stringSequence deniedTexts "denied_actions" 0 maxActions
  let targetTexts ← sequenceTexts (Json.get payload "writable_targets") "writable_targets" 0 maxTargets
  let writableTargets ← rootSequence targetTexts "writable_targets" 0 maxTargets
  let rootTexts ← sequenceTexts (Json.get payload "source_roots") "source_roots" 1 maxSourceRoots
  let sourceRoots ← rootSequence rootTexts "source_roots" 1 maxSourceRoots
  let replanTexts ←
    sequenceTexts (Json.get payload "replan_required_when") "replan_required_when" 1 maxReplanTriggers
  let replanRequiredWhen ← stringSequence replanTexts "replan_required_when" 1 maxReplanTriggers
  let overlap := allowedActions.items.filter (· ∈ deniedActions.items)
  if overlapping : overlap ≠ [] then
    .error (schemaInvalid
      ("allowed_actions and denied_actions overlap: " ++ ", ".intercalate overlap))
  else do
    let maxChildren ← integerOf (Json.get payload "max_children") "max_children" 0 64
    let maxParallel ← integerOf (Json.get payload "max_parallel") "max_parallel" 1 64
    let maxDepth ← integerOf (Json.get payload "max_depth") "max_depth" 0 8
    let timeBudgetSeconds ← optionalIntegerOf (Json.get payload "time_budget_seconds")
      "time_budget_seconds" 1 maxTimeBudgetSeconds
    let tokenBudget ← optionalIntegerOf (Json.get payload "token_budget") "token_budget" 1 maxTokenBudget
    let boundary : ExecutionBoundary := {
      allowedActions, deniedActions, writableTargets, sourceRoots, maxChildren, maxParallel
      maxDepth, replanRequiredWhen, timeBudgetSeconds, tokenBudget
      disjoint := fun action allowed denied =>
        overlapping fun none => by
          have member : action ∈ overlap :=
            List.mem_filter.mpr ⟨allowed, decide_eq_true denied⟩
          rw [none] at member
          cases member }
    match Json.get payload "scope_digest" with
    | .null => .ok boundary
    | .str supplied => do
      boundary.checkDigest supplied
      return boundary
    | _ => .error (schemaInvalid "scope_digest must be a non-empty string without surrounding whitespace")

end ExecutionBoundary

end DwSuperApps.Source.Boundary
