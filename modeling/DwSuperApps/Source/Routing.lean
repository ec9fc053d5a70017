import Mathlib.Data.Prod.Lex
import Mathlib.Data.Sum.Order
import DwSuperApps.Lib.Sorted
import DwSuperApps.Source.RuntimeState

/-!
# Routing

`taskcontroller/routing/{semver,registry,eligibility,selector,receipt,router}.py` with
the models they read: from an execution request and a registry of providers and
capabilities to one execution receipt. A field the constructors check against an
enumeration is that enumeration. `int` refuses a numeral of more than 4300 digits.
-/
namespace DwSuperApps.Source.Routing

open DwSuperApps.Lib DwSuperApps.Lib.Checked
open DwSuperApps.Source.Runtime (Identifier validateId)

inductive ErrorClass where
  | validation | routingEligibility | routingNoRoute | valueError
  deriving DecidableEq

structure Raised where
  kind : ErrorClass
  message : String
  deriving DecidableEq

/-- `RoutingNoRouteError(reason)`. -/
def routingNoRoute (reason : String) : Raised := ⟨.routingNoRoute, s!"no eligible route: {reason}"⟩

/-! ## Vocabulary -/

inductive ProviderKind where
  | «local» | connector | agent | service | tool
  deriving DecidableEq

def ProviderKind.value : ProviderKind → String
  | .local => "LOCAL"
  | .connector => "CONNECTOR"
  | .agent => "AGENT"
  | .service => "SERVICE"
  | .tool => "TOOL"

inductive TrustTier where
  | trusted | standard | sandbox | unverified
  deriving DecidableEq

inductive Idempotency where
  | idempotent | nonIdempotent | bestEffort
  deriving DecidableEq

def Idempotency.value : Idempotency → String
  | .idempotent => "IDEMPOTENT"
  | .nonIdempotent => "NON_IDEMPOTENT"
  | .bestEffort => "BEST_EFFORT"

inductive CostClass where
  | free | low | medium | high
  deriving DecidableEq

def CostClass.value : CostClass → String
  | .free => "FREE"
  | .low => "LOW"
  | .medium => "MEDIUM"
  | .high => "HIGH"

inductive BindingType where
  | localIpc | chat | httpApi | connector | cli | grpc | webhook | mcp
  deriving DecidableEq

def BindingType.value : BindingType → String
  | .localIpc => "LOCAL_IPC"
  | .chat => "CHAT"
  | .httpApi => "HTTP_API"
  | .connector => "CONNECTOR"
  | .cli => "CLI"
  | .grpc => "GRPC"
  | .webhook => "WEBHOOK"
  | .mcp => "MCP"

inductive Locality where
  | «local» | remote | any
  deriving DecidableEq

def Locality.value : Locality → String
  | .local => "LOCAL"
  | .remote => "REMOTE"
  | .any => "ANY"

inductive ExecutionStatus where
  | pending | routing | dispatched | running | succeeded | failed | cancelled | timedOut | waiting
  deriving DecidableEq

/-! ## Requests -/

@[ext] structure CapabilityRequirement where
  capabilityId : String
  minVersion : Option String := none
  idempotency : Option Idempotency := none
  costClass : Option CostClass := none
  deriving DecidableEq

structure EnvironmentRequirement where
  os : Option String := none
  runtime : Option String := none
  arch : Option String := none
  minMemoryMb : Option Int := none
  capabilities : List String := []
  deriving DecidableEq

structure RoutingPref where
  locality : Locality := .any
  remoteFallback : Bool := true
  preferredKinds : List ProviderKind := []
  deriving DecidableEq

structure InputRef where
  inputId : String
  sourceRef : String
  mediaType : Option String := none
  named : inputId ≠ "" ∧ sourceRef ≠ "" := by decide
  deriving DecidableEq

structure Permission where
  boundaries : List String := []
  allowlist : List String := []
  deny : List String := []
  deriving DecidableEq

@[ext] structure ArtifactSpec where
  artifactId : String
  mediaType : Option String := none
  schemaRef : Option String := none
  named : artifactId ≠ "" := by decide

instance : DecidableEq ArtifactSpec := fun _ _ => decidable_of_iff _ ArtifactSpec.ext_iff.symm

structure RetryPolicy where
  timeoutSeconds : Option Nat := none
  maxAttempts : Option Nat := none
  backoffSeconds : Option Nat := none
  deriving DecidableEq

@[ext] structure ExecutionRequest where
  executionId : Identifier
  contractRef : Identifier
  attempt : Nat
  attemptId : Identifier
  fencingToken : String
  capabilityRequirements : CapabilityRequirement
  environmentRequirements : EnvironmentRequirement := {}
  routingPreferences : RoutingPref := {}
  inputs : List InputRef := []
  permissions : Option Permission := none
  expectedOutputs : List ArtifactSpec := []
  retry : Option RetryPolicy := none
  planVersion : String := ""
  runVersion : String := ""
  positive : 1 ≤ attempt := by decide
  fenced : fencingToken ≠ "" := by decide

instance : DecidableEq ExecutionRequest := fun _ _ => decidable_of_iff _ ExecutionRequest.ext_iff.symm

/-! ## Providers and capabilities -/

@[ext] structure Binding where
  kind : BindingType
  endpointRef : String
  bindingId : Option String := none
  addressed : endpointRef ≠ "" := by decide

instance : DecidableEq Binding := fun _ _ => decidable_of_iff _ Binding.ext_iff.symm

structure EnvironmentInfo where
  os : Option String := none
  runtime : Option String := none
  arch : Option String := none
  capabilities : List String := []
  metadata : List (String × Json) := []
  deriving DecidableEq

structure ExecutionProviderCard where
  providerId : Identifier
  providerKind : ProviderKind
  capabilityRefs : List Identifier := []
  environment : Option EnvironmentInfo := none
  bindings : List Binding := []
  trustTier : Option TrustTier := none
  costClass : Option CostClass := none
  deriving DecidableEq

structure CapabilityCard where
  capabilityId : Identifier
  version : String
  idempotency : Idempotency
  costClass : CostClass
  supportedBindingTypes : List BindingType := []
  deriving DecidableEq

structure Registry where
  providers : Dict String ExecutionProviderCard := {}
  capabilities : Dict String CapabilityCard := {}

namespace Registry

def getProvider (r : Registry) (providerId : String) : Option ExecutionProviderCard :=
  r.providers.get? providerId

def getCapability (r : Registry) (capabilityId : String) : Option CapabilityCard :=
  r.capabilities.get? capabilityId

/-- `sorted(self.providers.keys())`. -/
def providerIds (r : Registry) : List String :=
  (r.providers.entries.map Prod.fst).insertionSort (· ≤ ·)

end Registry

/-! ## Versions -/

/-- The code points of the decimal zeros; the nine other digits of a script follow its zero. -/
def decimalZeros : List Nat :=
  [0x30, 0x660, 0x6f0, 0x7c0, 0x966, 0x9e6, 0xa66, 0xae6, 0xb66, 0xbe6, 0xc66, 0xce6, 0xd66, 0xde6,
    0xe50, 0xed0, 0xf20, 0x1040, 0x1090, 0x17e0, 0x1810, 0x1946, 0x19d0, 0x1a80, 0x1a90, 0x1b50,
    0x1bb0, 0x1c40, 0x1c50, 0xa620, 0xa8d0, 0xa900, 0xa9d0, 0xa9f0, 0xaa50, 0xabf0, 0xff10, 0x104a0,
    0x10d30, 0x11066, 0x110f0, 0x11136, 0x111d0, 0x112f0, 0x11450, 0x114d0, 0x11650, 0x116c0,
    0x11730, 0x118e0, 0x11950, 0x11c50, 0x11d50, 0x11da0, 0x16a60, 0x16ac0, 0x16b50, 0x1d7ce,
    0x1d7d8, 0x1d7e2, 0x1d7ec, 0x1d7f6, 0x1e140, 0x1e2f0, 0x1e950, 0x1fbf0]

/-- The value of a character `\d` matches. -/
def decimalValue (c : Char) : Option Nat :=
  (decimalZeros.find? fun start => start ≤ c.toNat ∧ c.toNat < start + 10).map (c.toNat - ·)

/-- `int(numeral)` of a text of decimal digits. -/
def readInt (numeral : List Char) : Except Raised Nat :=
  if numeral.length > 4300 then
    .error ⟨.valueError, s!"Exceeds the limit (4300 digits) for integer string conversion: value has {numeral.length} digits; use sys.set_int_max_str_digits() to increase the limit"⟩
  else .ok (numeral.foldl (fun value c => 10 * value + (decimalValue c).getD 0) 0)

/-- A pre-release identifier list is `none` for a release. -/
structure Version where
  major : Nat
  minor : Nat
  patch : Nat
  pre : Option (List String)
  deriving DecidableEq

/-- `[0-9A-Za-z.-]`. -/
def isTagChar (c : Char) : Bool := isAlnum c || c == '.' || c == '-'

/-- `\d+` at the front, greedily. -/
def takeDigits (l : List Char) : Option (List Char × List Char) :=
  match l.span (fun c => (decimalValue c).isSome) with
  | ([], _) => none
  | (digits, rest) => some (digits, rest)

/-- One optional part of `_VERSION_RE`: the mark, then tag characters. -/
def takeTag (mark : Char) : List Char → Option (Option (List Char) × List Char)
  | [] => some (none, [])
  | c :: rest =>
    if c = mark then
      match rest.span isTagChar with
      | ([], _) => none
      | (tag, rest) => some (some tag, rest)
    else some (none, c :: rest)

/-- The groups major, minor, patch and pre of `_VERSION_RE.match`. No character can be
matched by two neighbouring parts, so nothing is tried twice. -/
def matchVersion (l : List Char) :
    Option (List Char × List Char × List Char × Option (List Char)) := do
  let (major, afterMajor) ← takeDigits l
  let '.' :: fromMinor := afterMajor | none
  let (minor, afterMinor) ← takeDigits fromMinor
  let '.' :: fromPatch := afterMinor | none
  let (patch, afterPatch) ← takeDigits fromPatch
  let (pre, afterPre) ← takeTag '-' afterPatch
  let (_, rest) ← takeTag '+' afterPre
  if rest = [] then some (major, minor, patch, pre) else none

/-- `text.split(".")`. -/
def splitDots (l : List Char) : List String := (l.splitOn '.').map String.ofList

def parseVersion (value : String) : Except Raised Version :=
  if strip value = "" then
    .error ⟨.routingEligibility, s!"malformed version (empty): {Json.reprString value}"⟩
  else
    match matchVersion (stripChars value.toList) with
    | none => .error ⟨.routingEligibility, s!"malformed semver: {Json.reprString value}"⟩
    | some (major, minor, patch, pre) => do
      return {
        major := ← readInt major
        minor := ← readInt minor
        patch := ← readInt patch
        pre := pre.map splitDots }

/-- A numeric identifier stands below every other one. -/
def splitId (token : String) : Except Raised (Nat ⊕ₗ String) :=
  if token ≠ "" ∧ token.toList.all (·.isDigit) then (readInt token.toList).map Sum.inlₗ
  else .ok (Sum.inrₗ token)

/-- The loop over the paired identifiers; `none` when no pair differs. -/
def comparePairs : List String → List String → Except Raised (Option Int)
  | x :: xs, y :: ys => do
    let kx ← splitId x
    let ky ← splitId y
    if kx = ky then comparePairs xs ys else return some (if kx < ky then -1 else 1)
  | _, _ => .ok none

def comparePre (a b : List String) : Except Raised Int :=
  if a = b then .ok 0
  else do
    let decided ← comparePairs a b
    return decided.getD (if a.length < b.length then -1 else 1)

/-- The loop over the three numbers. -/
def compareNumbers (a b : Version) : Option Int :=
  [(a.major, b.major), (a.minor, b.minor), (a.patch, b.patch)].findSome? fun (x, y) =>
    if x = y then none else some (if x < y then -1 else 1)

def compareVersions (a b : String) : Except Raised Int := do
  let va ← parseVersion a
  let vb ← parseVersion b
  match compareNumbers va vb, va.pre, vb.pre with
  | some order, _, _ => return order
  | none, none, none => return 0
  | none, none, some _ => return 1
  | none, some _, none => return -1
  | none, some preA, some preB => comparePre preA preB

def satisfiesMinVersion (actual minVersion : String) : Except Raised Bool := do
  let order ← compareVersions actual minVersion
  return decide (0 ≤ order)

/-! ## Eligibility -/

/-- `f"\x7bvalue!r\x7d"` of an optional text. -/
def reprOption (value : Option String) : String := (Json.ofOption value).rawRepr

/-- `f"\x7bvalues!r\x7d"` of a list of texts. -/
def reprTexts (values : List String) : String := (Json.arr (values.map .str)).rawRepr

/-- The first reason given. -/
def firstReason (reasons : List (Option String)) : Option String := reasons.findSome? id

/-- The check of `min_version`. -/
def checkMinVersion (capId : String) (card : CapabilityCard) (minVersion : String) : Option String :=
  match satisfiesMinVersion card.version minVersion with
  | .error e => some s!"capability {Json.reprString capId} version compare failed: {e.message}"
  | .ok false => some
      s!"capability {Json.reprString capId} version {Json.reprString card.version} < required min_version {Json.reprString minVersion}"
  | .ok true => none

/-- `check_capability`; `none` is eligible. -/
def checkCapability (provider : ExecutionProviderCard) (requirement : CapabilityRequirement)
    (registry : Registry) : Option String :=
  let capId := requirement.capabilityId
  if ∀ ref ∈ provider.capabilityRefs, ref.text ≠ capId then
    some s!"provider {provider.providerId.text} lacks capability_ref {Json.reprString capId}"
  else
    match registry.getCapability capId with
    | none => some s!"capability_id {Json.reprString capId} not registered in registry"
    | some card => firstReason [
        requirement.minVersion.bind (checkMinVersion capId card),
        requirement.idempotency.bind fun required =>
          if required = card.idempotency then none
          else some s!"capability {Json.reprString capId} idempotency {Json.reprString card.idempotency.value} != required {Json.reprString required.value}",
        requirement.costClass.bind fun required =>
          if required = card.costClass then none
          else some s!"capability {Json.reprString capId} cost_class {Json.reprString card.costClass.value} != required {Json.reprString required.value}"]

/-- An optional text that is neither absent nor empty. -/
def given (value : Option String) : Bool := value.any (· ≠ "")

/-- One of the attributes `os`, `runtime` and `arch`. -/
def checkAttr (attr : String) (required provided : Option String) : Option String :=
  if given required ∧ provided ≠ required then
    some s!"environment {attr} mismatch: provider {reprOption provided} != required {reprOption required}"
  else none

/-- `isinstance(value, int)`, with the number it is. -/
def intOf : Json → Option Int
  | .int n => some n
  | .bool b => some (if b then 1 else 0)
  | _ => none

def checkMemory (provider : ExecutionProviderCard) (env : EnvironmentInfo) (required : Int) :
    Option String :=
  if required ≤ 0 then none
  else
    match intOf (Json.get env.metadata "memory_mb") with
    | none => some
        s!"provider {provider.providerId.text} environment.metadata.memory_mb absent/invalid (required {required}MB)"
    | some memory =>
      if memory < required then some s!"provider memory {memory}MB < required {required}MB" else none

def requiresEnv (requirement : EnvironmentRequirement) : Bool :=
  given requirement.os || given requirement.runtime || given requirement.arch ||
    requirement.capabilities ≠ [] || requirement.minMemoryMb.any (0 < ·)

/-- `check_environment`. -/
def checkEnvironment (provider : ExecutionProviderCard) (requirement : EnvironmentRequirement) :
    Option String :=
  match provider.environment with
  | none =>
    if requiresEnv requirement then
      some s!"provider {provider.providerId.text} has no environment but request requires environment characteristics"
    else none
  | some env =>
    let missing := requirement.capabilities.filter (· ∉ env.capabilities)
    firstReason [
      checkAttr "os" requirement.os env.os,
      checkAttr "runtime" requirement.runtime env.runtime,
      checkAttr "arch" requirement.arch env.arch,
      if missing = [] then none
      else some s!"provider environment missing required capabilities: {reprTexts missing}",
      requirement.minMemoryMb.bind (checkMemory provider env)]

/-- `(env.metadata or {}).get("locality")`. -/
def envLocality (provider : ExecutionProviderCard) : Json :=
  (provider.environment.map fun env => Json.get env.metadata "locality").getD .null

def isLocal (provider : ExecutionProviderCard) : Prop :=
  provider.providerKind = .local ∨ envLocality provider = .str Locality.local.value

instance (provider : ExecutionProviderCard) : Decidable (isLocal provider) := by
  unfold isLocal; infer_instance

/-- `check_locality`. -/
def checkLocality (provider : ExecutionProviderCard) (pref : RoutingPref) : Option String :=
  match pref.locality with
  | .any => none
  | .local =>
    if isLocal provider then none
    else some s!"provider {provider.providerId.text} not local (kind={provider.providerKind.value}, env_locality={(envLocality provider).rawRepr})"
  | .remote =>
    if isLocal provider then
      some s!"provider {provider.providerId.text} is local but REMOTE locality requested"
    else none

def bindingKey (b : Binding) : String ×ₗ String ×ₗ String :=
  toLex (b.kind.value, toLex (b.bindingId.getD "", b.endpointRef))

/-- `eligible_bindings`. -/
def eligibleBindings (provider : ExecutionProviderCard) (capability : CapabilityCard) : List Binding :=
  Sorted.sortedBy bindingKey (provider.bindings.filter fun b =>
    capability.supportedBindingTypes = [] ∨ b.kind ∈ capability.supportedBindingTypes)

/-- `provider_eligibility`. -/
def providerEligibility (provider : ExecutionProviderCard) (request : ExecutionRequest)
    (registry : Registry) : Option String :=
  firstReason [
    checkCapability provider request.capabilityRequirements registry,
    checkEnvironment provider request.environmentRequirements,
    checkLocality provider request.routingPreferences,
    (registry.getCapability request.capabilityRequirements.capabilityId).bind fun card =>
      if eligibleBindings provider card = [] then
        some s!"provider {provider.providerId.text} exposes no eligible binding"
      else none]

/-! ## Selection -/

def costRank : Option CostClass → Nat
  | some .free => 0
  | some .low => 1
  | some .medium => 2
  | some .high => 3
  | none => 4

def trustRank : Option TrustTier → Nat
  | some .trusted => 0
  | some .standard => 1
  | some .sandbox => 2
  | some .unverified => 3
  | none => 4

/-- The place of the kind among the preferred ones, behind them all when it is not there. -/
def preferredKindRank (provider : ExecutionProviderCard) (preferred : List ProviderKind) : Nat :=
  preferred.idxOf provider.providerKind

def rankKey (preferred : List ProviderKind) (provider : ExecutionProviderCard) :
    Nat ×ₗ Nat ×ₗ Nat ×ₗ String :=
  toLex (preferredKindRank provider preferred, toLex (costRank provider.costClass,
    toLex (trustRank provider.trustTier, provider.providerId.text)))

/-- One provider with its first eligible binding. -/
def eligiblePair (registry : Registry) (request : ExecutionRequest) (provider : ExecutionProviderCard) :
    Option (ExecutionProviderCard × Binding) :=
  match providerEligibility provider request registry with
  | some _ => none
  | none => do
    let card ← registry.getCapability request.capabilityRequirements.capabilityId
    let binding ← (eligibleBindings provider card).head?
    return (provider, binding)

/-- `_eligible_provider_binding_pairs`. -/
def eligibleProviderBindingPairs (registry : Registry) (request : ExecutionRequest) :
    List (ExecutionProviderCard × Binding) :=
  (registry.providerIds.filterMap registry.getProvider).filterMap (eligiblePair registry request)

def rankPairs (pairs : List (ExecutionProviderCard × Binding)) (request : ExecutionRequest) :
    List (ExecutionProviderCard × Binding) :=
  Sorted.sortedBy (fun pair => rankKey request.routingPreferences.preferredKinds pair.1) pairs

/-- The request of the second pass, open to every locality. -/
def fallbackRequest (request : ExecutionRequest) : ExecutionRequest :=
  { request with routingPreferences := { locality := .any, remoteFallback := false } }

/-- The pairs of the second pass, where one is made. -/
def fallbackPairs (registry : Registry) (request : ExecutionRequest) :
    List (ExecutionProviderCard × Binding) :=
  if request.routingPreferences.locality = .local ∧ request.routingPreferences.remoteFallback then
    eligibleProviderBindingPairs registry (fallbackRequest request)
  else []

def select (registry : Registry) (request : ExecutionRequest) :
    Except Raised (ExecutionProviderCard × Binding) :=
  let pref := request.routingPreferences
  let capId := request.capabilityRequirements.capabilityId
  match registry.getCapability capId with
  | none => .error (routingNoRoute s!"capability_id {Json.reprString capId} not registered")
  | some _ =>
    match rankPairs (eligibleProviderBindingPairs registry request) request with
    | first :: _ => .ok first
    | [] =>
      match rankPairs (rankPairs (fallbackPairs registry request) request) request with
      | first :: _ => .ok first
      | [] => .error (routingNoRoute
          s!"no eligible provider/binding for capability {Json.reprString capId} (locality={pref.locality.value}, remote_fallback={(Json.bool pref.remoteFallback).rawRepr})")

/-! ## Receipts -/

structure ExecutionRef where
  executionId : Identifier
  attempt : Nat
  attemptId : Identifier
  fencingToken : String
  deriving DecidableEq

structure ExecutionReceipt where
  receiptId : Identifier
  contractRef : Identifier
  executionRef : ExecutionRef
  selectedProvider : Identifier
  binding : Option Identifier
  status : ExecutionStatus
  acceptedAt : Option String := none
  deriving DecidableEq

def ExecutionRequest.executionRef (request : ExecutionRequest) : ExecutionRef where
  executionId := request.executionId
  attempt := request.attempt
  attemptId := request.attemptId
  fencingToken := request.fencingToken

/-- `_validate_id`. -/
def checkedId (name value : String) : Except Raised Identifier :=
  (validateId name value).mapError fun e => ⟨.validation, e.message⟩

theorem checkedId_text {name value : String} {id : Identifier} (passed : checkedId name value = .ok id) :
    id.text = value := by
  unfold checkedId validateId at passed
  split at passed
  · cases passed
    rfl
  · cases passed

/-- `BindingRef(binding_id=…) if … else None`. -/
def bindingRef (bindingId : Option String) : Except Raised (Option Identifier) :=
  match bindingId with
  | some text => if text = "" then .ok none else (checkedId "binding_id" text).map some
  | none => .ok none

def compileReceipt (request : ExecutionRequest) (provider : ExecutionProviderCard) (binding : Binding)
    (receiptId : String) (acceptedAt : Option String) : Except Raised ExecutionReceipt := do
  let bound ← bindingRef binding.bindingId
  let receiptId ← checkedId "receipt_id" receiptId
  return {
    receiptId, acceptedAt
    contractRef := request.contractRef
    executionRef := request.executionRef
    selectedProvider := provider.providerId
    binding := bound
    status := .routing }

def route (registry : Registry) (request : ExecutionRequest) (receiptId : String)
    (acceptedAt : Option String) : Except Raised ExecutionReceipt := do
  let (provider, binding) ← select registry request
  compileReceipt request provider binding receiptId acceptedAt

end DwSuperApps.Source.Routing
