import Mathlib.Data.List.Infix
import DwSuperApps.Source.TerminalBuild

/-!
# Execution contracts

`taskcontroller/controlplane/execution_contracting.py` with `validate_hold_semantics` of
`orchestration_policy.py`: the check that a payload and a scope fit the contract mode the
payload declares. Payload and scope are the objects they convert to.
-/
namespace DwSuperApps.Source.Contracting

open DwSuperApps.Lib DwSuperApps.Lib.Checked
open DwSuperApps.Source.TerminalResult (upper)

/-- `ExecutionContractingError` and `OrchestrationPolicyError`. -/
inductive ErrorClass where
  | executionContracting | orchestrationPolicy
  deriving DecidableEq

structure Raised where
  kind : ErrorClass
  code : String
  message : String
  deriving DecidableEq

def contractError (code message : String) : Raised := ⟨.executionContracting, code, message⟩

def policyError (code message : String) : Raised := ⟨.orchestrationPolicy, code, message⟩

def contractInvalid (message : String) : Raised := contractError "EXECUTION_CONTRACT_INVALID" message

def policyInvalid (message : String) : Raised := policyError "ORCHESTRATION_POLICY_INVALID" message

/-! ## Fields -/

/-- `_text` of either module, with the error it raises. -/
def textOr (invalid : String → Raised) (field : String) : Json → Except Raised String
  | .str text =>
    if strip text = "" then .error (invalid s!"{field} must be non-empty") else .ok (strip text)
  | _ => .error (invalid s!"{field} must be non-empty")

/-- `_string_list` of either module. -/
def stringListOr (invalid : String → Raised) (field : String) (allowEmpty : Bool) :
    Json → Except Raised (List String)
  | .arr items => do
    let normalized ← items.mapM (textOr invalid (field ++ "[]"))
    ensure (allowEmpty = true ∨ normalized ≠ []) (invalid s!"{field} must not be empty")
    ensure normalized.Nodup (invalid s!"{field} must not contain duplicates")
    return normalized
  | _ => .error (invalid s!"{field} must be an array")

/-- `_text` of `execution_contracting`. -/
def text (field : String) : Json → Except Raised String := textOr contractInvalid field

/-- `_string_list` of `execution_contracting`. -/
def stringList (field : String) (allowEmpty : Bool) : Json → Except Raised (List String) :=
  stringListOr contractInvalid field allowEmpty

/-- `_mapping`. -/
def mapping (field : String) : Json → Except Raised (List (String × Json))
  | .obj members => .ok members
  | _ => .error (contractInvalid s!"{field} must be an object")

/-- `members.get(name, ())`. -/
def getList (members : List (String × Json)) (name : String) : Json :=
  (Json.member members name).getD (.arr [])

/-- `", ".join(sorted(names))`. -/
def joinSorted (names : List String) : String :=
  String.intercalate ", " (names.dedup.insertionSort (· ≤ ·))

/-! ## Holds -/

inductive HoldType where
  | effect | run
  deriving DecidableEq

def HoldType.value : HoldType → String
  | .effect => "EFFECT_HOLD"
  | .run => "RUN_HOLD"

/-- The type of an upper-case text. -/
def HoldType.parse (text : String) : Option HoldType := [effect, run].find? (·.value = text)

structure HoldSemantics where
  holdType : HoldType
  deniedEffects : List String
  controlLoopContinues : Bool
  deriving DecidableEq

/-- `"HOLD" in disposition.upper()`, of a text. -/
def mentionsHold : Json → Bool
  | .str disposition => "HOLD".toList <:+: (upper disposition).toList
  | _ => false

/-- The hold object. -/
def readHold (hold : List (String × Json)) : Except Raised HoldSemantics := do
  let named ← textOr policyInvalid "hold.type" (Json.get hold "type")
  let invalid := policyError "HOLD_POLICY_INVALID"
  match HoldType.parse (upper named), Json.get hold "control_loop_continues" with
  | none, _ => .error (invalid "hold.type must be EFFECT_HOLD or RUN_HOLD")
  | some holdType, continues => do
    let deniedEffects ← stringListOr policyInvalid "hold.denied_effects" (holdType = .run)
      (getList hold "denied_effects")
    match continues with
    | .bool continues => do
      ensure (¬ (holdType = .effect ∧ continues = false)) (policyError
        "EFFECT_HOLD_MUST_CONTINUE_CONTROL_LOOP"
        "EFFECT_HOLD gates named effects only; Controller reasoning/planning must continue")
      ensure (¬ (holdType = .run ∧ continues = true))
        (policyError "RUN_HOLD_MUST_STOP_CONTROL_LOOP" "RUN_HOLD must stop new run actions")
      return ⟨holdType, deniedEffects, continues⟩
    | _ => .error (invalid "hold.control_loop_continues must be boolean")

/-- `validate_hold_semantics`. -/
def validateHoldSemantics (payload : List (String × Json)) : Except Raised (Option HoldSemantics) :=
  match Json.get payload "hold" with
  | .null => do
    ensure (mentionsHold (Json.get payload "disposition") = false) (policyError
      "AMBIGUOUS_HOLD_FORBIDDEN"
      "HOLD disposition must declare typed hold semantics (EFFECT_HOLD or RUN_HOLD)")
    return none
  | .obj hold => (readHold hold).map some
  | _ => .error (policyError "HOLD_POLICY_INVALID" "hold must be an object")

/-! ## Actions -/

def realWorkActions : List String :=
  ["create_guarded_branch_or_worktree", "modify_approved_files", "run_sandboxed_validation", "stage",
    "create_commit", "push_working_branch", "open_or_update_draft_pr"]

def separateAuthorityActions : List String :=
  ["mark_pr_ready_for_review", "merge_approved_pr", "deploy_approved_release",
    "production_config_change", "production_data_write", "migration", "credential_rotation",
    "branch_deletion", "force_push"]

def routineEngineeringStopConditions : List String :=
  ["RED_COMPLETE", "GREEN_COMPLETE", "TEST_FAILURE", "LINT_FAILURE", "REFACTOR_NEEDED",
    "ROUTINE_IMPLEMENTATION_DECISION"]

/-! ## Contracts -/

inductive ContractMode where
  | plan | execute | transportRepair
  deriving DecidableEq

def ContractMode.value : ContractMode → String
  | .plan => "PLAN"
  | .execute => "EXECUTE"
  | .transportRepair => "TRANSPORT_REPAIR"

/-- The mode of an upper-case text. -/
def ContractMode.parse (text : String) : Option ContractMode :=
  [plan, execute, transportRepair].find? (·.value = text)

/-- A receipt without a mode is one in compatibility mode. -/
structure ExecutionContractingReceipt where
  mode : Option ContractMode
  reasonCodes : List String
  realWorkRequired : Bool
  authorityGranted : Bool := false
  deriving DecidableEq

/-- One package, behind those with the ids `seen`. -/
def workPackage (index : Nat) (seen : List String) (item : Json) : Except Raised String := do
  let package ← mapping s!"work_packages[{index}]" item
  let packageId ← text s!"work_packages[{index}].id" (Json.get package "id")
  let _ ← text s!"work_packages[{index}].objective" (Json.get package "objective")
  ensure (packageId ∉ seen)
    (contractInvalid s!"duplicate work package id {Json.reprString packageId}")
  return packageId

/-- The loop of `_work_packages`: the ids of the packages. -/
def workPackagesFrom (index : Nat) (seen : List String) : List Json → Except Raised (List String)
  | [] => .ok seen
  | item :: rest => do
    let packageId ← workPackage index seen item
    workPackagesFrom (index + 1) (seen ++ [packageId]) rest

/-- `_work_packages`. -/
def workPackages : Json → Except Raised (List String)
  | .arr (item :: rest) => workPackagesFrom 0 [] (item :: rest)
  | _ => .error (contractError "EXECUTION_CONTRACT_WORK_PACKAGES_REQUIRED"
      "EXECUTE requires work_packages")

/-- The action lists of a scope. -/
structure ScopeActions where
  allowed : List String
  denied : List String
  writable : List String
  deriving DecidableEq

def scopeActions (scope : List (String × Json)) : Except Raised ScopeActions := do
  let allowed ← stringList "scope.allowed_actions" true (getList scope "allowed_actions")
  let denied ← stringList "scope.denied_actions" true (getList scope "denied_actions")
  let writable ← stringList "scope.writable_targets" true (getList scope "writable_targets")
  return { allowed, denied, writable }

/-- The branch of `PLAN` and `TRANSPORT_REPAIR`. -/
def checkReadOnly (mode : ContractMode) (scope : ScopeActions) (hold : Option HoldSemantics)
    (authorityActive : Bool) : Except Raised ExecutionContractingReceipt := do
  ensure (authorityActive = false) (contractError "EXECUTION_CONTRACT_AUTHORITY_FORBIDDEN"
    s!"{mode.value} must not claim active execution authority")
  ensure (∀ action ∈ scope.allowed, action ∉ realWorkActions) (contractError
    "EXECUTION_CONTRACT_READONLY_MODE_MUTATION"
    s!"{mode.value} cannot include real-work mutation actions")
  return {
    mode := some mode
    reasonCodes := s!"EXECUTION_CONTRACT_{mode.value}_OK" ::
      (hold.map fun hold => s!"HOLD:{hold.holdType.value}").toList
    realWorkRequired := false }

/-- What `EXECUTE` asks of an active hold. -/
def checkHold (scope : ScopeActions) : Option HoldSemantics → Except Raised Unit
  | none => .ok ()
  | some hold => do
    ensure (hold.holdType ≠ .run)
      (contractError "EXECUTION_CONTRACT_RUN_HOLD_ACTIVE" "RUN_HOLD forbids EXECUTE dispatch")
    let missingDenials := hold.deniedEffects.filter (· ∉ scope.denied)
    ensure (missingDenials = []) (contractError "EXECUTION_CONTRACT_EFFECT_HOLD_SCOPE_MISMATCH"
      ("EFFECT_HOLD denied effects must also be denied by scope: " ++ joinSorted missingDenials))

/-- The branch of `EXECUTE`. -/
def checkExecute (payload : List (String × Json)) (scope : ScopeActions)
    (hold : Option HoldSemantics) (authorityActive : Bool) :
    Except Raised ExecutionContractingReceipt := do
  checkHold scope hold
  ensure (authorityActive = true) (contractError "EXECUTION_CONTRACT_AUTHORITY_REQUIRED"
    "EXECUTE requires already-validated bounded execution authority")
  let executionPlanRef ← text "execution_plan_ref" (Json.get payload "execution_plan_ref")
  let approvalRef ← text "approval_ref" (Json.get payload "approval_ref")
  let approvalDigest ← text "approval_digest" (Json.get payload "approval_digest")
  ensure (isDigest approvalDigest = true) (contractError "EXECUTION_CONTRACT_APPROVAL_DIGEST_INVALID"
    "approval_digest must be sha256:<64 lowercase hex>")
  ensure (scope.writable ≠ []) (contractError "EXECUTION_CONTRACT_WRITABLE_SCOPE_REQUIRED"
    "EXECUTE requires at least one writable target")
  let realActions := scope.allowed.filter (· ∈ realWorkActions)
  ensure (realActions ≠ []) (contractError "EXECUTION_CONTRACT_REAL_WORK_REQUIRED"
    "EXECUTE must authorize at least one real engineering work action")
  let separateEffects := scope.allowed.filter (· ∈ separateAuthorityActions)
  ensure (separateEffects = []) (contractError "EXECUTION_CONTRACT_EFFECT_AUTHORITY_SEPARATE"
    ("EXECUTE cannot bundle separate merge/deploy/production authority: " ++
      joinSorted separateEffects))
  let packages ← workPackages (Json.get payload "work_packages")
  let continueUntil ← stringList "continue_until" false (Json.get payload "continue_until")
  let stopConditions ← stringList "stop_conditions" false (Json.get payload "stop_conditions")
  let routineStops := stopConditions.filter (· ∈ routineEngineeringStopConditions)
  ensure (routineStops = []) (contractError "EXECUTION_CONTRACT_ROUTINE_WAIT_FORBIDDEN"
    ("routine engineering conditions cannot be hard stop conditions: " ++ joinSorted routineStops))
  return {
    mode := some .execute
    reasonCodes := ["EXECUTION_CONTRACT_EXECUTE_OK",
      s!"EXECUTION_PLAN_REF:{executionPlanRef}",
      s!"APPROVAL_REF:{approvalRef}",
      s!"WORK_PACKAGES:{packages.length}",
      s!"REAL_ACTIONS:{realActions.length}",
      s!"CONTINUE_UNTIL:{continueUntil.length}",
      s!"STOP_CONDITIONS:{stopConditions.length}"]
    realWorkRequired := true }

/-- `request_payload.get("execution_authority_active", False)`. -/
def authorityActive (payload : List (String × Json)) : Except Raised Bool :=
  match (Json.member payload "execution_authority_active").getD (.bool false) with
  | .bool active => .ok active
  | _ => .error (contractInvalid "execution_authority_active must be boolean when present")

/-- `_text(mode, …).upper()`, one of the supported modes. -/
def contractMode (declared : Json) : Except Raised ContractMode := do
  let named ← text "controller_contract_mode" declared
  match ContractMode.parse (upper named) with
  | some mode => return mode
  | none => .error (contractError "EXECUTION_CONTRACT_MODE_UNSUPPORTED"
      s!"unsupported mode {Json.reprString (upper named)}")

def validateExecutionContracting (payload scope : Json) :
    Except Raised ExecutionContractingReceipt := do
  let requestPayload ← mapping "payload" payload
  match Json.get requestPayload "controller_contract_mode" with
  | .null => return {
      mode := none
      reasonCodes := ["EXECUTION_CONTRACT_COMPATIBILITY"]
      realWorkRequired := false }
  | declared => do
    let mode ← contractMode declared
    let normalizedScope ← mapping "scope" scope
    let actions ← scopeActions normalizedScope
    let hold ← validateHoldSemantics requestPayload
    let active ← authorityActive requestPayload
    match mode with
    | .execute => checkExecute requestPayload actions hold active
    | .plan => checkReadOnly .plan actions hold active
    | .transportRepair => checkReadOnly .transportRepair actions hold active

end DwSuperApps.Source.Contracting
