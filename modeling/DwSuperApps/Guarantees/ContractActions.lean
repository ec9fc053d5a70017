import DwSuperApps.Source.ExecutionContracting

/-!
# Actions of an accepted execution contract

Each mode checks one of the action sets. `EXECUTE` refuses the actions of a separate
authority, and effects under a hold that the scope does not deny; the read-only modes
refuse real work. No mode compares the allowed actions with the denied ones.

* `stringList_listed`: what a checked list contains, in terms of the object it was read from;
* `excluded_iff`: the accepted scope allows nothing of the excluded kinds exactly where it
  allows nothing it denies, and in a read-only mode nothing held or of a separate authority.
-/
namespace DwSuperApps.Guarantees.ContractActions

open DwSuperApps.Lib DwSuperApps.Lib.Checked
open DwSuperApps.Source.Contracting
open DwSuperApps.Source.TerminalResult (upper)

/-! ## Lists of an object -/

def members : Json → List (String × Json)
  | .obj members => members
  | _ => []

def items : Json → List Json
  | .arr items => items
  | _ => []

/-- The text of a list item, without the spaces around it. -/
def itemText : Json → Option String
  | .str text => some (strip text)
  | _ => none

/-- The texts an object lists under a name. -/
def listed (object : Json) (name : String) : List String :=
  (items (getList (members object) name)).filterMap itemText

def allowedActions (scope : Json) : List String := listed scope "allowed_actions"

def deniedActions (scope : Json) : List String := listed scope "denied_actions"

/-- The effects the hold of a payload denies. -/
def heldEffects (payload : Json) : List String :=
  listed (Json.get (members payload) "hold") "denied_effects"

/-- The mode a payload declares. -/
def declaredMode (payload : Json) : Option ContractMode :=
  (itemText (Json.get (members payload) "controller_contract_mode")).bind fun named =>
    ContractMode.parse (upper named)

/-! ## What the checks establish -/

theorem textOr_ok {invalid : String → Raised} {field : String} {value : Json} {text : String}
    (passed : textOr invalid field value = .ok text) : itemText value = some text := by
  cases value with
  | str raw =>
    dsimp only [textOr] at passed
    split at passed
    · cases passed
    · cases passed
      rfl
  | _ => cases passed

theorem texts_ok {invalid : String → Raised} {field : String} {values : List Json}
    {texts : List String} (passed : values.mapM (textOr invalid field) = .ok texts) :
    texts = values.filterMap itemText := by
  induction values generalizing texts with
  | nil =>
    cases passed
    rfl
  | cons value rest ih =>
    rw [List.mapM_cons] at passed
    obtain ⟨text, first, passed⟩ := bind_ok.mp passed
    obtain ⟨later, others, made⟩ := bind_ok.mp passed
    cases made
    rw [List.filterMap_cons, textOr_ok first, ih others]

/-- A checked list is what the object lists. -/
theorem stringList_listed {invalid : String → Raised} {field : String} {allowEmpty : Bool}
    {object : List (String × Json)} {name : String} {texts : List String}
    (passed : stringListOr invalid field allowEmpty (getList object name) = .ok texts) :
    texts = listed (.obj object) name := by
  change texts = (items (getList object name)).filterMap itemText
  cases value : getList object name with
  | arr values =>
    rw [value] at passed
    obtain ⟨normalized, read, passed⟩ := bind_ok.mp passed
    obtain ⟨-, -, passed⟩ := bind_ok.mp passed
    obtain ⟨-, -, made⟩ := bind_ok.mp passed
    cases made
    exact texts_ok read
  | _ =>
    rw [value] at passed
    cases passed

theorem scopeActions_ok {scope : List (String × Json)} {actions : ScopeActions}
    (passed : scopeActions scope = .ok actions) :
    actions.allowed = allowedActions (.obj scope) ∧ actions.denied = deniedActions (.obj scope) := by
  unfold scopeActions at passed
  obtain ⟨allowed, first, passed⟩ := bind_ok.mp passed
  obtain ⟨denied, second, passed⟩ := bind_ok.mp passed
  obtain ⟨writable, -, made⟩ := bind_ok.mp passed
  cases made
  exact ⟨stringList_listed first, stringList_listed second⟩

theorem readHold_ok {hold : List (String × Json)} {semantics : HoldSemantics}
    (passed : readHold hold = .ok semantics) :
    semantics.deniedEffects = listed (.obj hold) "denied_effects" := by
  unfold readHold at passed
  obtain ⟨named, -, passed⟩ := bind_ok.mp passed
  dsimp only at passed
  split at passed
  · cases passed
  · obtain ⟨deniedEffects, read, passed⟩ := bind_ok.mp passed
    split at passed
    · obtain ⟨-, -, passed⟩ := bind_ok.mp passed
      obtain ⟨-, -, made⟩ := bind_ok.mp passed
      cases made
      exact stringList_listed read
    · cases passed

/-- Without a hold nothing is held. -/
theorem validateHold_ok {payload : List (String × Json)} {hold : Option HoldSemantics}
    (passed : validateHoldSemantics payload = .ok hold) :
    heldEffects (.obj payload) = (hold.map (·.deniedEffects)).getD [] := by
  change listed (Json.get payload "hold") "denied_effects" = _
  unfold validateHoldSemantics at passed
  split at passed
  · next absent =>
    obtain ⟨-, -, made⟩ := bind_ok.mp passed
    cases made
    rw [absent]
    rfl
  · next object given =>
    rw [given]
    cases read : readHold object with
    | error e =>
      rw [read] at passed
      cases passed
    | ok semantics =>
      rw [read] at passed
      cases passed
      exact (readHold_ok read).symm
  · cases passed

/-! ## Modes -/

theorem contractMode_ok {payload : List (String × Json)} {mode : ContractMode}
    (passed : contractMode (Json.get payload "controller_contract_mode") = .ok mode) :
    declaredMode (.obj payload) = some mode := by
  unfold contractMode at passed
  obtain ⟨named, read, passed⟩ := bind_ok.mp passed
  have text : itemText (Json.get payload "controller_contract_mode") = some named := textOr_ok read
  change (itemText (Json.get payload "controller_contract_mode")).bind _ = _
  rw [text, Option.bind_some]
  split at passed
  · next found =>
    cases passed
    exact found
  · cases passed

theorem checkReadOnly_ok {mode : ContractMode} {actions : ScopeActions} {hold : Option HoldSemantics}
    {active : Bool} {receipt : ExecutionContractingReceipt}
    (passed : checkReadOnly mode actions hold active = .ok receipt) :
    ∀ action ∈ actions.allowed, action ∉ realWorkActions := by
  unfold checkReadOnly at passed
  obtain ⟨-, -, passed⟩ := bind_ok.mp passed
  obtain ⟨_, checked, -⟩ := bind_ok.mp passed
  exact ensure_ok.mp checked

theorem filter_empty {names others : List String} (none : names.filter (· ∈ others) = []) :
    ∀ name ∈ names, name ∉ others := by
  intro name inside other
  exact List.filter_eq_nil_iff.mp none name inside (decide_eq_true other)

/-- A hold `EXECUTE` accepts denies only what the scope denies. -/
theorem checkHold_ok {actions : ScopeActions} {hold : Option HoldSemantics}
    (passed : checkHold actions hold = .ok ()) :
    ∀ effect ∈ (hold.map (·.deniedEffects)).getD [], effect ∈ actions.denied := by
  cases hold with
  | none =>
    intro effect inside
    cases inside
  | some hold =>
    unfold checkHold at passed
    obtain ⟨-, -, checked⟩ := bind_ok.mp passed
    have none := List.filter_eq_nil_iff.mp (ensure_ok.mp checked)
    intro effect inside
    by_contra missing
    exact none effect inside (decide_eq_true missing)

theorem checkExecute_ok {payload : List (String × Json)} {actions : ScopeActions}
    {hold : Option HoldSemantics} {active : Bool} {receipt : ExecutionContractingReceipt}
    (passed : checkExecute payload actions hold active = .ok receipt) :
    checkHold actions hold = .ok () ∧
      ∀ action ∈ actions.allowed, action ∉ separateAuthorityActions := by
  unfold checkExecute at passed
  obtain ⟨_, held, passed⟩ := bind_ok.mp passed
  obtain ⟨_, -, passed⟩ := bind_ok.mp passed
  obtain ⟨_, -, passed⟩ := bind_ok.mp passed
  obtain ⟨_, -, passed⟩ := bind_ok.mp passed
  obtain ⟨_, -, passed⟩ := bind_ok.mp passed
  obtain ⟨_, -, passed⟩ := bind_ok.mp passed
  obtain ⟨_, -, passed⟩ := bind_ok.mp passed
  dsimp only at passed
  obtain ⟨_, -, passed⟩ := bind_ok.mp passed
  obtain ⟨_, separate, -⟩ := bind_ok.mp passed
  exact ⟨held, filter_empty (ensure_ok.mp separate)⟩

theorem mapping_ok {field : String} {value : Json} {object : List (String × Json)}
    (passed : mapping field value = .ok object) : value = .obj object := by
  cases value with
  | obj members =>
    cases passed
    rfl
  | _ => cases passed

/-- The parts of an accepted request with a mode. -/
theorem accepted_parts {payload scope : Json} {receipt : ExecutionContractingReceipt}
    {mode : ContractMode} (accepted : validateExecutionContracting payload scope = .ok receipt)
    (declared : declaredMode payload = some mode) :
    ∃ actions hold active, actions.allowed = allowedActions scope ∧
      actions.denied = deniedActions scope ∧
      heldEffects payload = (hold.map HoldSemantics.deniedEffects).getD [] ∧
      match mode with
      | .execute => checkExecute (members payload) actions hold active = .ok receipt
      | .plan => checkReadOnly .plan actions hold active = .ok receipt
      | .transportRepair => checkReadOnly .transportRepair actions hold active = .ok receipt := by
  unfold validateExecutionContracting at accepted
  obtain ⟨requestPayload, read, body⟩ := bind_ok.mp accepted
  obtain rfl := mapping_ok read
  split at body
  · next absent =>
    change (itemText (Json.get requestPayload "controller_contract_mode")).bind _ = _ at declared
    rw [absent] at declared
    cases declared
  · obtain ⟨found, parsed, body⟩ := bind_ok.mp body
    obtain rfl : found = mode := Option.some.inj ((contractMode_ok parsed).symm.trans declared)
    obtain ⟨normalizedScope, object, body⟩ := bind_ok.mp body
    obtain ⟨actions, lists, body⟩ := bind_ok.mp body
    obtain ⟨hold, validated, body⟩ := bind_ok.mp body
    obtain ⟨active, -, body⟩ := bind_ok.mp body
    obtain ⟨allowed, denied⟩ := scopeActions_ok lists
    rw [mapping_ok object]
    refine ⟨actions, hold, active, allowed, denied, validateHold_ok validated, ?_⟩
    cases found with
    | execute => exact body
    | plan => exact body
    | transportRepair => exact body

/-! ## Excluded actions -/

/-- No allowed action is of a separate authority, denied by the scope or held, and in a
read-only mode none is real work. -/
def Excluded (payload scope : Json) (mode : ContractMode) : Prop :=
  ∀ action ∈ allowedActions scope, action ∉ separateAuthorityActions ∧
    action ∉ deniedActions scope ∧ action ∉ heldEffects payload ∧
    (mode ≠ .execute → action ∉ realWorkActions)

/-- The scope allows nothing it denies; in a read-only mode it allows nothing that is held
or of a separate authority. -/
def Apart (payload scope : Json) (mode : ContractMode) : Prop :=
  (∀ action ∈ allowedActions scope, action ∉ deniedActions scope) ∧
    (mode ≠ .execute → ∀ action ∈ allowedActions scope, action ∉ heldEffects payload ∧
      action ∉ separateAuthorityActions)

theorem excluded_iff {payload scope : Json} {receipt : ExecutionContractingReceipt}
    {mode : ContractMode} (accepted : validateExecutionContracting payload scope = .ok receipt)
    (declared : declaredMode payload = some mode) :
    Excluded payload scope mode ↔ Apart payload scope mode := by
  constructor
  · intro excluded
    constructor
    · intro action allowed
      exact (excluded action allowed).2.1
    · intro _ action allowed
      obtain ⟨separate, -, held, -⟩ := excluded action allowed
      exact ⟨held, separate⟩
  · rintro ⟨undenied, readOnly⟩ action inside
    obtain ⟨actions, hold, active, allowed, denied, held, checked⟩ := accepted_parts accepted declared
    have readOnlyMode (other : mode ≠ .execute)
        (real : ∀ action ∈ actions.allowed, action ∉ realWorkActions) :
        action ∉ separateAuthorityActions ∧ action ∉ deniedActions scope ∧
          action ∉ heldEffects payload ∧ (mode ≠ .execute → action ∉ realWorkActions) := by
      obtain ⟨unheld, separate⟩ := readOnly other action inside
      exact ⟨separate, undenied action inside, unheld, fun _ => real action (allowed ▸ inside)⟩
    cases mode with
    | execute =>
      obtain ⟨holdChecked, separate⟩ := checkExecute_ok checked
      refine ⟨separate action (allowed ▸ inside), undenied action inside, ?_, fun other => absurd rfl other⟩
      -- what is held is denied by the scope as well
      intro isHeld
      rw [held] at isHeld
      exact undenied action inside (denied ▸ checkHold_ok holdChecked action isHeld)
    | plan => exact readOnlyMode (by decide) (checkReadOnly_ok checked)
    | transportRepair => exact readOnlyMode (by decide) (checkReadOnly_ok checked)

/-! ## A plan that may deploy -/

def planPayload : Json := .obj [("controller_contract_mode", .str "PLAN")]

def scopeOf (allowed denied : List String) : Json :=
  .obj [("allowed_actions", .arr (allowed.map .str)), ("denied_actions", .arr (denied.map .str))]

def planReceipt : ExecutionContractingReceipt where
  mode := some .plan
  reasonCodes := ["EXECUTION_CONTRACT_PLAN_OK"]
  realWorkRequired := false

theorem excluded_reading : Excluded planPayload (scopeOf ["read"] ["force_push"]) .plan ↔
    Apart planPayload (scopeOf ["read"] ["force_push"]) .plan :=
  @excluded_iff planPayload (scopeOf ["read"] ["force_push"]) planReceipt .plan (by decide) (by decide)

/-- A plan is accepted with a deployment that its scope both allows and denies. -/
theorem plan_deploys :
    ¬ ∀ (payload scope : Json) (receipt : ExecutionContractingReceipt) (mode : ContractMode),
      validateExecutionContracting payload scope = .ok receipt →
        declaredMode payload = some mode → Excluded payload scope mode := by
  intro excludes
  have excluded := excludes planPayload
    (scopeOf ["deploy_approved_release"] ["deploy_approved_release"]) planReceipt .plan
    (by decide) (by decide)
  have allowed : "deploy_approved_release" ∈
      allowedActions (scopeOf ["deploy_approved_release"] ["deploy_approved_release"]) := by
    decide
  exact absurd (excluded _ allowed).1 (by decide)

end DwSuperApps.Guarantees.ContractActions
