import DwSuperApps.Source.Blueprint
import DwSuperApps.Source.ClosedLoop

/-!
# Plan objects and their store

`taskcontroller/domain/runtime_plan.py`: a plan whose runbooks and authority
requirements are held as the constructor was given them, and `FilePlanStore`, which
keeps one file for each plan ref. A file keeps the value of a plan: the order of the
members of an object is not part of it. Symbolic links and directories are left out,
so that a path is its parts after `resolve()`.
-/
namespace DwSuperApps.Source.Plans

open DwSuperApps.Lib DwSuperApps.Lib.Checked
open DwSuperApps.Source.ClosedLoop (truth)

/-! ## Entries -/

/-- `RunbookBinding`; the dataclass takes any values. -/
structure RunbookObject where
  runbookId : Json
  revision : Json := .str ""
  digest : Json := .str ""
  deriving DecidableEq

namespace RunbookObject

def toDict (r : RunbookObject) : List (String × Json) :=
  [("runbook_id", r.runbookId), ("revision", r.revision), ("digest", r.digest)]

def fromDict (payload : List (String × Json)) : RunbookObject where
  runbookId := (Json.member payload "runbook_id").getD (.str "")
  revision := (Json.member payload "revision").getD (.str "")
  digest := (Json.member payload "digest").getD (.str "")

theorem fromDict_toDict (r : RunbookObject) : fromDict r.toDict = r := rfl

end RunbookObject

/-- `AuthorityRequirement`. -/
structure AuthorityObject where
  action : Json
  gate : Json
  required : Bool := false
  deriving DecidableEq

namespace AuthorityObject

def toDict (r : AuthorityObject) : List (String × Json) :=
  [("action", r.action), ("gate", r.gate), ("required", .bool r.required)]

def fromDict (payload : List (String × Json)) : AuthorityObject where
  action := (Json.member payload "action").getD (.str "")
  gate := (Json.member payload "gate").getD (.str "")
  required := truth ((Json.member payload "required").getD (.bool false))

theorem fromDict_toDict (r : AuthorityObject) : fromDict r.toDict = r := rfl

end AuthorityObject

/-- An entry of a plan: a value of the class, or the mapping the constructor was
given. -/
inductive PlanEntry (α : Type) where
  | typed (value : α)
  | mapping (members : List (String × Json))
  deriving DecidableEq

namespace PlanEntry
variable {α : Type}

def isTyped : PlanEntry α → Prop
  | .typed _ => True
  | .mapping _ => False

instance (entry : PlanEntry α) : Decidable entry.isTyped := by
  cases entry <;> unfold isTyped <;> infer_instance

/-- `entry.to_dict()` of a value, a mapping as it is. -/
def members (toDict : α → List (String × Json)) : PlanEntry α → List (String × Json)
  | .typed value => toDict value
  | .mapping members => members

end PlanEntry

/-! ## Plan objects -/

/-- `RuntimePlan` with its entries as they were given; `core` is the rest of it. -/
structure PlanObject where
  core : RuntimePlan
  runbooks : Option (List (PlanEntry RunbookObject)) := none
  authorityRequirements : Option (List (PlanEntry AuthorityObject)) := none
  bare : core.runbooks = none ∧ core.authorityRequirements = none
  targets : RuntimePlan.checkTargets core.steps = .ok ()

/-- What `to_dict` writes; `core` holds the other members. -/
structure PlanDocument where
  core : PlanPayload
  runtimePlanDigest : Option String := none
  runbooks : Option (List (List (String × Json))) := none
  authorityRequirements : Option (List (List (String × Json))) := none
  deriving DecidableEq

namespace PlanObject

def ref (p : PlanObject) : String := p.core.runtimePlanRef.value

/-- `RuntimePlan(...)`. -/
def construct (fields : PlanFields) (raw : Dict String RuntimePlanStep)
    (runbooks : Option (List (PlanEntry RunbookObject)))
    (authorityRequirements : Option (List (PlanEntry AuthorityObject))) :
    Except Raised PlanObject :=
  match made : RuntimePlan.construct
      { fields with runbooks := none, authorityRequirements := none } raw with
  | .error e => .error e
  | .ok core => .ok {
      core, runbooks, authorityRequirements
      bare := ⟨(RuntimePlan.construct_ok made).2.1, (RuntimePlan.construct_ok made).2.2.1⟩
      targets := by
        obtain ⟨same, -, -, checked⟩ := RuntimePlan.construct_ok made
        rw [same]
        exact checked }

/-- The value `runtime_plan_digest` covers. -/
def digestPayload (p : PlanObject) : Json :=
  .obj [("runtime_plan_ref", .str p.core.runtimePlanRef.value),
    ("revision", .str p.core.revision.value),
    ("implementation_plan_ref", .str p.core.implementationPlanRef),
    ("steps", .obj (p.core.steps.entries.map fun entry => (entry.1, entry.2.toDict))),
    ("source_bindings", (p.core.sourceBindings.map Json.obj).getD .null),
    ("runbooks", .arr ((p.runbooks.getD []).map fun entry =>
      .obj (entry.members RunbookObject.toDict))),
    ("authority_requirements", .arr ((p.authorityRequirements.getD []).map fun entry =>
      .obj (entry.members AuthorityObject.toDict))),
    ("blueprint_id", .str p.core.blueprintId),
    ("blueprint_digest", .str p.core.blueprintDigest),
    ("task_id", .str p.core.taskId),
    ("scenario", .str p.core.scenario)]

section Digests
variable [Sha256]

def runtimePlanDigest (p : PlanObject) : Digest := canonicalDigest p.digestPayload

/-- `to_dict`. -/
def toDict (p : PlanObject) : PlanDocument where
  core := { p.core.toPayload with runtimePlanDigest := none }
  runtimePlanDigest := some p.runtimePlanDigest.value
  runbooks := p.runbooks.map fun entries =>
    entries.map fun entry => entry.members RunbookObject.toDict
  authorityRequirements := p.authorityRequirements.map fun entries =>
    entries.map fun entry => entry.members AuthorityObject.toDict

theorem core_ok {payload : PlanPayload} {core : RuntimePlan}
    (made : RuntimePlan.fromDict payload = .ok core) :
    core.runbooks = payload.runbooks ∧
      core.authorityRequirements = payload.authorityRequirements ∧
      RuntimePlan.checkTargets core.steps = .ok () := by
  unfold RuntimePlan.fromDict at made
  dsimp only at made
  obtain ⟨_, _, made⟩ := bind_ok.mp made
  obtain ⟨_, _, made⟩ := bind_ok.mp made
  obtain ⟨_, _, made⟩ := bind_ok.mp made
  obtain ⟨_, _, made⟩ := bind_ok.mp made
  obtain ⟨_, _, made⟩ := bind_ok.mp made
  obtain ⟨_, _, made⟩ := bind_ok.mp made
  split at made
  · split at made
    · cases made
    · obtain ⟨_, checked, made⟩ := bind_ok.mp made
      obtain ⟨_, _, made⟩ := bind_ok.mp made
      cases made
      exact ⟨rfl, rfl, checked⟩
  · cases made

/-- `from_dict`. -/
def fromDict (payload : PlanDocument) : Except Raised PlanObject :=
  match made : RuntimePlan.fromDict { payload.core with
      runtimePlanDigest := none, runbooks := none, authorityRequirements := none } with
  | .error e => .error e
  | .ok core => do
    let plan : PlanObject := {
      core
      runbooks := payload.runbooks.map fun entries =>
        entries.map fun members => .typed (RunbookObject.fromDict members)
      authorityRequirements := payload.authorityRequirements.map fun entries =>
        entries.map fun members => .typed (AuthorityObject.fromDict members)
      bare := ⟨(core_ok made).1, (core_ok made).2.1⟩
      targets := (core_ok made).2.2 }
    ensure (∀ supplied ∈ payload.runtimePlanDigest, supplied = plan.runtimePlanDigest.value)
      (validationError "RUNTIME_PLAN_DIGEST_MISMATCH: persisted digest differs")
    return plan

end Digests

/-- A plan of typed entries as an object. -/
def ofPlan (plan : RuntimePlan) (targets : RuntimePlan.checkTargets plan.steps = .ok ()) :
    PlanObject where
  core := { plan with runbooks := none, authorityRequirements := none }
  runbooks := plan.runbooks.map fun entries => entries.map fun r =>
    .typed ⟨.str r.runbookId, .str r.revision, .str r.digest⟩
  authorityRequirements := plan.authorityRequirements.map fun entries => entries.map fun r =>
    .typed ⟨.str r.action, .str r.gate, r.required⟩
  bare := ⟨rfl, rfl⟩
  targets

end PlanObject

/-! ## The store -/

/-- `FilePlanStore`: the resolved root and what is in the file at each path. -/
structure FilePlanStore where
  root : List String
  files : Dict (List String) PlanDocument := {}

namespace FilePlanStore

/-- The parts of `root / text` after `resolve()`; an absolute text does not start at
the root. -/
def resolve (root : List String) (text : String) : List String :=
  (text.toList.splitOn '/').foldl
    (fun found part =>
      if part = [] ∨ part = ['.'] then found
      else if part = ['.', '.'] then found.dropLast
      else found ++ [String.ofList part])
    (if text.toList.head? = some '/' then [] else root)

/-- `_path`; a text with a null character cannot be resolved. -/
def path (store : FilePlanStore) (ref : String) : Except Raised (List String) :=
  let resolved := resolve store.root (ref ++ ".json")
  if '\x00' ∉ ref.toList ∧ store.root <+: resolved then .ok resolved
  else .error (validationError "RUNTIME_PLAN_PATH_TRAVERSAL: ref escapes store root")

def immutable (ref : String) : Raised :=
  validationError s!"RUNTIME_PLAN_IMMUTABLE: {ref} already exists"

variable [Sha256]

/-- `put`. -/
def put (store : FilePlanStore) (plan : PlanObject) : Except Raised PlanObject × FilePlanStore :=
  match store.path plan.ref with
  | .error e => (.error e, store)
  | .ok path =>
    match store.files.get? path with
    | some stored =>
      (do
        let existing ← PlanObject.fromDict stored
        ensure (existing.runtimePlanDigest = plan.runtimePlanDigest) (immutable plan.ref)
        return existing, store)
    | none => (.ok plan, { store with files := store.files.set path plan.toDict })

/-- `get`. -/
def get (store : FilePlanStore) (ref digest : String) : Except Raised PlanObject := do
  let path ← store.path ref
  let some stored := store.files.get? path
    | .error (validationError "RUNTIME_PLAN_REQUIRED: plan is not persisted")
  let plan ← PlanObject.fromDict stored
  ensure (plan.runtimePlanDigest.value = digest)
    (validationError "RUNTIME_PLAN_DIGEST_MISMATCH: requested digest is stale")
  return plan

/-- The store after plans were put one after another. -/
def putAll (store : FilePlanStore) (plans : List PlanObject) : FilePlanStore :=
  plans.foldl (fun store plan => (store.put plan).2) store

end FilePlanStore

end DwSuperApps.Source.Plans
