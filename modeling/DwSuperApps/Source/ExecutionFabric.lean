import DwSuperApps.Source.Lease
import DwSuperApps.Source.Routing
import DwSuperApps.Source.RuntimePlan

/-!
# Execution fabric

`taskcontroller/execution/{types,registry,dispatch,fabric,orchestrator}.py` and
`taskcontroller/runtime/materializer.py`: the ways a request is dispatched to an
adapter. The lease table of the run and what the adapter would do with the envelope
are given with each call; a result carries the adapter calls that were made. A context
is a `StepContext`. Cancelling keeps an index of its own.
-/
namespace DwSuperApps.Source.Fabric

open DwSuperApps.Lib DwSuperApps.Lib.Checked
open DwSuperApps.Source.Routing
open DwSuperApps.Source.Runtime (Identifier WorkLease Timestamps matchesId currentLease)
open DwSuperApps.Source.Plans (RuntimePlan RunCursor RuntimePlanStep)

inductive ErrorClass where
  | validation | executionFabric | executionCorrelation | adapterNotFound | duplicateCommand
  | dispatchRejected
  deriving DecidableEq

/-- An error of the fabric, or one of a function it calls. -/
inductive Raised where
  | fabric (kind : ErrorClass) (message : String)
  | routing (e : Routing.Raised)
  | plan (e : Plans.Raised)
  | lease (e : Runtime.Raised)
  | adapter (text : String)
  deriving DecidableEq

def validationError (message : String) : Raised := .fabric .validation message

def correlationError (message : String) : Raised := .fabric .executionCorrelation message

/-! ## Current step -/

structure StepContext where
  runtimePlanRef : String
  runtimePlanDigest : String
  planRevision : String
  stepId : String
  semanticAction : String
  allowedInputs : List String
  allowedActions : List String
  evidenceRefs : List String
  deriving DecidableEq

section Materializer
variable [Sha256]

/-- `InMemoryPlanStore.get`. -/
def storedPlan (plan : RuntimePlan) (runtimePlanRef runtimePlanDigest : String) :
    Except Raised RuntimePlan := do
  ensure (runtimePlanRef = plan.runtimePlanRef.value)
    (validationError "runtime plan binding reference mismatch")
  ensure (runtimePlanDigest = plan.runtimePlanDigest.value)
    (validationError "runtime plan binding digest mismatch")
  return plan

/-- The references no evidence of the step declares. -/
def undeclaredRefs (requested declared : List String) : List String :=
  (requested.dedup.filter fun ref => ref ∉ declared ∧ ¬ ".runtime".toList <:+ ref.toList).insertionSort
    (· ≤ ·)

/-- `StepMaterializer.materialize`. -/
def materialize (plan : RuntimePlan) (cursor : RunCursor) (evidenceRefs : List String) :
    Except Raised StepContext := do
  let plan ← storedPlan plan cursor.runtimePlanRef.value cursor.runtimePlanDigest.value
  (cursor.validateAgainst plan).mapError .plan
  let step ← (plan.step cursor.currentStepId.value).mapError .plan
  ensure (∀ ref ∈ evidenceRefs, strip ref ≠ "")
    (validationError "evidence refs must contain non-empty strings")
  let undeclared := undeclaredRefs evidenceRefs step.evidenceRefs
  ensure (undeclared = []) (validationError
    s!"evidence refs are not declared by current step: {reprTexts undeclared}")
  return {
    runtimePlanRef := plan.runtimePlanRef.value
    runtimePlanDigest := plan.runtimePlanDigest.value
    planRevision := plan.revision.value
    stepId := step.stepId.value
    semanticAction := step.semanticAction.value
    allowedInputs := step.allowedInputs
    allowedActions := step.allowedActions
    evidenceRefs }

end Materializer

/-! ## Envelopes -/

structure DispatchEnvelope where
  commandId : String
  request : ExecutionRequest
  receipt : ExecutionReceipt
  provider : Identifier
  binding : Option Identifier
  leaseId : Identifier
  fencingToken : String
  adapterKey : String
  context : Option StepContext
  deriving DecidableEq

structure Fingerprint where
  commandId : String
  executionId : Identifier
  attempt : Nat
  attemptId : Identifier
  contractRef : Identifier
  capabilityId : String
  fencingToken : String
  leaseId : Identifier
  providerId : Identifier
  bindingId : Option Identifier
  adapterKey : String
  context : Option StepContext
  deriving DecidableEq

/-- `canonical_fingerprint`. -/
def DispatchEnvelope.canonicalFingerprint (e : DispatchEnvelope) : Fingerprint where
  commandId := e.commandId
  executionId := e.request.executionId
  attempt := e.request.attempt
  attemptId := e.request.attemptId
  contractRef := e.request.contractRef
  capabilityId := e.request.capabilityRequirements.capabilityId
  fencingToken := e.fencingToken
  leaseId := e.leaseId
  providerId := e.provider
  bindingId := e.binding
  adapterKey := e.adapterKey
  context := e.context

structure DispatchAck where
  commandId : String
  accepted : Bool
  status : String
  adapterKey : String
  detail : Option String := none
  deriving DecidableEq

/-! ## Adapters -/

structure ExecutionAdapter where
  adapterKey : String
  supportedBindingTypes : List String
  deriving DecidableEq

abbrev AdapterRegistry := Dict String ExecutionAdapter

/-- `lookup_by_key`. -/
def lookupByKey (adapters : AdapterRegistry) (adapterKey : String) : Except Raised ExecutionAdapter :=
  match adapters.get? adapterKey with
  | some adapter => .ok adapter
  | none => .error (.fabric .adapterNotFound
      s!"no adapter registered for key {Json.reprString adapterKey}")

/-- `lookup_by_binding_type`. -/
def lookupByBindingType (adapters : AdapterRegistry) (bindingType : String) :
    Except Raised ExecutionAdapter :=
  let matching := adapters.values.filter (bindingType ∈ ·.supportedBindingTypes)
  match Sorted.sortedBy ExecutionAdapter.adapterKey matching with
  | first :: _ => .ok first
  | [] => .error (.fabric .adapterNotFound
      s!"no adapter supports binding type {Json.reprString bindingType}")

/-- `_resolve_adapter`. -/
def resolveAdapter (adapters : AdapterRegistry) (adapterKey : Option String) (bindingType : String) :
    Except Raised ExecutionAdapter :=
  match adapterKey with
  | some key => lookupByKey adapters key
  | none => lookupByBindingType adapters bindingType

/-! ## Preflight -/

/-- `LeaseManager.current` over the lease table of the run. No lease is held for an id
the constructors refuse. -/
def current [Timestamps] (leases : Dict String WorkLease) (runId nodeId : String)
    (request : ExecutionRequest) (now : String) : Except Raised (Option WorkLease) :=
  if ids : matchesId runId ∧ matchesId nodeId then
    (currentLease leases ⟨⟨runId, ids.1⟩, ⟨nodeId, ids.2⟩, request.executionId, request.attemptId⟩
      now).mapError .lease
  else .ok none

/-- The request and the receipt name the same contract and execution. -/
def checkReceipt (request : ExecutionRequest) (receipt : ExecutionReceipt) : Except Raised Unit := do
  ensure (request.contractRef = receipt.contractRef) (correlationError
    s!"contract_ref mismatch: request {Json.reprString request.contractRef.text} != receipt {Json.reprString receipt.contractRef.text}")
  let ref := receipt.executionRef
  ensure (ref.executionId = request.executionId) (correlationError
    s!"execution_id mismatch: receipt {Json.reprString ref.executionId.text} != request {Json.reprString request.executionId.text}")
  ensure (ref.attempt = request.attempt) (correlationError
    s!"attempt mismatch: receipt {ref.attempt} != request {request.attempt}")
  ensure (ref.attemptId = request.attemptId) (correlationError
    s!"attempt_id mismatch: receipt {Json.reprString ref.attemptId.text} != request {Json.reprString request.attemptId.text}")
  ensure (ref.fencingToken = request.fencingToken)
    (correlationError "fencing_token mismatch between receipt and request")

/-- The receipt names the routed provider and one of its bindings. -/
def checkProvider (receipt : ExecutionReceipt) (provider : ExecutionProviderCard)
    (bindingId : Option Identifier) : Except Raised Unit := do
  ensure (receipt.selectedProvider = provider.providerId) (correlationError
    s!"selected provider {Json.reprString receipt.selectedProvider.text} != routed provider {Json.reprString provider.providerId.text}")
  match receipt.binding, bindingId with
  | none, _ => return ()
  | some _, none =>
    .error (correlationError "receipt carries a binding but no provider binding resolved")
  | some selected, some resolved => ensure (selected = resolved) (correlationError
      s!"selected binding {Json.reprString selected.text} != provider binding {Json.reprString resolved.text}")

/-- The lease is fenced as the request is and held by the provider. -/
def checkLease (request : ExecutionRequest) (provider : ExecutionProviderCard) (lease : WorkLease) :
    Except Raised Identifier := do
  ensure (lease.fencingToken = request.fencingToken) (correlationError
    s!"lease fencing_token {Json.reprString lease.fencingToken} != request fencing {Json.reprString request.fencingToken}")
  ensure (lease.holder = provider.providerId) (correlationError
    s!"lease holder {Json.reprString lease.holder.text} != selected provider {Json.reprString provider.providerId.text}")
  return lease.leaseId

/-- `check_correlation`: the id of the current lease. -/
def checkCorrelation [Timestamps] (request : ExecutionRequest) (receipt : ExecutionReceipt)
    (provider : ExecutionProviderCard) (bindingId : Option Identifier)
    (leases : Dict String WorkLease) (runId nodeId now : String) : Except Raised Identifier := do
  checkReceipt request receipt
  checkProvider receipt provider bindingId
  match ← current leases runId nodeId request now with
  | none => .error (correlationError
      s!"no current ACTIVE lease for {runId}/{nodeId}/{request.executionId.text}/{request.attemptId.text}; dispatch blocked")
  | some lease => checkLease request provider lease

/-! ## Dispatch -/

/-- The arguments of `dispatch`. -/
structure DispatchCall where
  request : ExecutionRequest
  receipt : ExecutionReceipt
  provider : ExecutionProviderCard
  runId : String
  nodeId : String
  commandId : String
  now : String
  adapterKey : Option String := none
  context : Option StepContext := none
  requirePlanBinding : Bool := false

/-- The actions that stand for a semantic action. -/
def aliases (semanticAction : String) : List String :=
  if semanticAction = "inspect" then ["read", "search"] else []

/-- The context has all its texts and allows its action. -/
def checkContext (context : StepContext) : Except Raised Unit := do
  ensure ((∀ value ∈ [context.runtimePlanRef, context.runtimePlanDigest, context.planRevision,
      context.stepId, context.semanticAction], strip value ≠ "") ∧ context.allowedActions ≠ [])
    (validationError "runtime plan binding context is incomplete")
  ensure (context.semanticAction ∈ context.allowedActions ∨
      ∃ action ∈ aliases context.semanticAction, action ∈ context.allowedActions)
    (validationError "runtime plan binding semantic action is not allowed by the current step")

/-- The plan-binding guard. -/
def checkPlanBinding (call : DispatchCall) : Except Raised Unit :=
  match call.context with
  | none => ensure (call.requirePlanBinding = false)
      (validationError "runtime plan binding is required for semantic dispatch")
  | some context => checkContext context

/-- The binding of the receipt, where the provider has it. -/
def resolvedBindingId (call : DispatchCall) : Option Identifier :=
  call.receipt.binding.filter fun selected =>
    call.provider.bindings.any (·.bindingId = some selected.text)

/-- `provider.bindings[0].kind if provider.bindings else ""`. -/
def bindingType (provider : ExecutionProviderCard) : String :=
  (provider.bindings.head?.map (·.kind.value)).getD ""

/-- `build_envelope`. -/
def buildEnvelope (call : DispatchCall) (bindingId : Option Identifier) (leaseId : Identifier)
    (adapterKey : String) : DispatchEnvelope where
  commandId := call.commandId
  request := call.request
  receipt := call.receipt
  provider := call.provider.providerId
  binding := bindingId
  leaseId := leaseId
  fencingToken := call.request.fencingToken
  adapterKey := adapterKey
  context := call.context

/-- Everything `dispatch` does before it looks at its index. -/
def preflight [Timestamps] (adapters : AdapterRegistry) (leases : Dict String WorkLease)
    (call : DispatchCall) : Except Raised DispatchEnvelope := do
  checkPlanBinding call
  let adapter ← resolveAdapter adapters call.adapterKey (bindingType call.provider)
  let leaseId ← checkCorrelation call.request call.receipt call.provider (resolvedBindingId call)
    leases call.runId call.nodeId call.now
  return buildEnvelope call (resolvedBindingId call) leaseId adapter.adapterKey

/-- What an adapter does with an envelope: an acknowledgement, or the text of an exception. -/
abbrev Answer := Except String DispatchAck

/-- An answer `dispatch` indexes. -/
def acceptance : Answer → Option DispatchAck
  | .ok ack => if ack.status = "REJECTED" then none else some ack
  | .error _ => none

structure AdapterCall where
  envelope : DispatchEnvelope
  answer : Answer

theorem noDispatches_nodup :
    (([] : List (String × Fingerprint × DispatchAck)).map Prod.fst).Nodup := List.nodup_nil

/-- `_dispatched`. -/
structure ExecutionFabric where
  dispatched : Dict String (Fingerprint × DispatchAck) := { distinct := noDispatches_nodup }

/-- What a call returns or raises, the fabric after it, and the adapter calls it made. -/
structure Outcome where
  result : Except Raised DispatchAck
  fabric : ExecutionFabric
  calls : List AdapterCall := []

/-- What `dispatch` makes of the answer to its envelope. -/
def acknowledge (envelope : DispatchEnvelope) : Answer → Except Raised DispatchAck
  | .error text => .error (.adapter text)
  | .ok ack =>
    if ack.status = "REJECTED" then
      .error (.fabric .dispatchRejected ((ack.detail.filter (· ≠ "")).getD
        s!"adapter rejected command {Json.reprString envelope.commandId}"))
    else .ok ack

/-- The tail of `dispatch`: the index, then the adapter. -/
def submit (fabric : ExecutionFabric) (envelope : DispatchEnvelope) (answer : Answer) : Outcome :=
  let fp := envelope.canonicalFingerprint
  match fabric.dispatched.get? envelope.commandId with
  | some (priorFp, priorAck) =>
    if priorFp = fp then ⟨.ok priorAck, fabric, []⟩
    else ⟨.error (.fabric .duplicateCommand
      s!"command_id {Json.reprString envelope.commandId} reused with a different canonical envelope"),
      fabric, []⟩
  | none =>
    match acknowledge envelope answer with
    | .error e => ⟨.error e, fabric, [⟨envelope, answer⟩]⟩
    | .ok ack => ⟨.ok ack, ⟨fabric.dispatched.set envelope.commandId (fp, ack)⟩, [⟨envelope, answer⟩]⟩

def dispatch [Timestamps] (adapters : AdapterRegistry) (fabric : ExecutionFabric)
    (leases : Dict String WorkLease) (answer : Answer) (call : DispatchCall) : Outcome :=
  match preflight adapters leases call with
  | .error e => ⟨.error e, fabric, []⟩
  | .ok envelope => submit fabric envelope answer

/-! ## Cancelling -/

structure CancelAck where
  commandId : String
  accepted : Bool
  status : String
  adapterKey : String
  detail : Option String := none
  deriving DecidableEq

/-- An error of the fabric, the text of an exception of the adapter, or that it cannot cancel. -/
inductive CancelRaised where
  | raised (e : Raised)
  | adapterUnsupported (message : String)
  deriving DecidableEq

/-- `_cancelled`. -/
abbrev CancelIndex := Dict String (Fingerprint × CancelAck)

/-- What `cancel` returns or raises, its index after it, and the envelopes the adapter got. -/
structure CancelOutcome where
  result : Except CancelRaised CancelAck
  cancelled : CancelIndex
  calls : List DispatchEnvelope := []

/-- Everything `cancel` does before it looks at its index. -/
def cancelPreflight [Timestamps] (adapters : AdapterRegistry)
    (supportsCancel : ExecutionAdapter → Bool) (leases : Dict String WorkLease)
    (call : DispatchCall) : Except CancelRaised DispatchEnvelope := do
  let adapter ← (resolveAdapter adapters call.adapterKey (bindingType call.provider)).mapError .raised
  ensure (supportsCancel adapter = true) (.adapterUnsupported
    s!"adapter {Json.reprString adapter.adapterKey} does not support cancel")
  let leaseId ← (checkCorrelation call.request call.receipt call.provider (resolvedBindingId call)
    leases call.runId call.nodeId call.now).mapError .raised
  return buildEnvelope { call with context := none } (resolvedBindingId call) leaseId
    adapter.adapterKey

/-- The tail of `cancel`: the index, then the adapter. -/
def submitCancel (cancelled : CancelIndex) (envelope : DispatchEnvelope)
    (answer : Except String CancelAck) : CancelOutcome :=
  let fp := envelope.canonicalFingerprint
  match cancelled.get? envelope.commandId with
  | some (priorFp, priorAck) =>
    if priorFp = fp then ⟨.ok priorAck, cancelled, []⟩
    else ⟨.error (.raised (.fabric .duplicateCommand
      s!"cancel command_id {Json.reprString envelope.commandId} reused with a different envelope")),
      cancelled, []⟩
  | none =>
    match answer with
    | .error text => ⟨.error (.raised (.adapter text)), cancelled, [envelope]⟩
    | .ok ack => ⟨.ok ack, cancelled.set envelope.commandId (fp, ack), [envelope]⟩

def cancel [Timestamps] (adapters : AdapterRegistry) (supportsCancel : ExecutionAdapter → Bool)
    (cancelled : CancelIndex) (leases : Dict String WorkLease) (answer : Except String CancelAck)
    (call : DispatchCall) : CancelOutcome :=
  match cancelPreflight adapters supportsCancel leases call with
  | .error e => ⟨.error e, cancelled, []⟩
  | .ok envelope => submitCancel cancelled envelope answer

/-! ## Semantic dispatch -/

/-- The arguments of `dispatch_semantic`. -/
structure SemanticCall where
  request : ExecutionRequest
  receipt : ExecutionReceipt
  provider : ExecutionProviderCard
  runId : String
  nodeId : String
  commandId : String
  now : String
  runtimePlan : RuntimePlan
  runCursor : RunCursor
  evidenceRefs : List String := []
  runtimePlanRef : Option String
  runtimePlanDigest : Option String
  planRevision : Option String
  stepId : Option String
  adapterKey : Option String := none

section Semantic
variable [Sha256]

/-- The checks of the plan identity, and the context of the current step. -/
def semanticContext (call : SemanticCall) : Except Raised StepContext := do
  let plan := call.runtimePlan
  ensure (∀ value ∈ [call.runtimePlanRef, call.runtimePlanDigest, call.planRevision, call.stepId],
      given value = true)
    (validationError "runtime plan binding is required")
  ensure (call.runtimePlanRef = some plan.runtimePlanRef.value)
    (validationError "runtime plan binding reference mismatch")
  ensure (call.runtimePlanDigest = some plan.runtimePlanDigest.value)
    (validationError "runtime plan binding digest mismatch")
  ensure (call.planRevision = some plan.revision.value)
    (validationError "runtime plan binding revision mismatch")
  let context ← materialize plan call.runCursor call.evidenceRefs
  ensure (call.runtimePlanRef = some context.runtimePlanRef)
    (validationError "runtime plan binding context mismatch")
  return context

/-- The dispatch of a plan-bound step. -/
def SemanticCall.toDispatch (call : SemanticCall) (context : StepContext) : DispatchCall where
  request := call.request
  receipt := call.receipt
  provider := call.provider
  runId := call.runId
  nodeId := call.nodeId
  commandId := call.commandId
  now := call.now
  adapterKey := call.adapterKey
  context := some context
  requirePlanBinding := true

def dispatchSemantic [Timestamps] (adapters : AdapterRegistry) (fabric : ExecutionFabric)
    (leases : Dict String WorkLease) (answer : Answer) (call : SemanticCall) : Outcome :=
  match semanticContext call with
  | .error e => ⟨.error e, fabric, []⟩
  | .ok context => dispatch adapters fabric leases answer (call.toDispatch context)

end Semantic

/-! ## Routed dispatch -/

/-- The arguments of `route_and_dispatch`. -/
structure RouteCall where
  registry : Registry
  request : ExecutionRequest
  receiptId : String
  runId : String
  nodeId : String
  now : String
  acceptedAt : Option String := none
  commandId : Option String := none
  adapterKey : Option String := none

/-- The dispatch of the routed request. -/
def RouteCall.toDispatch (call : RouteCall) (receipt : ExecutionReceipt)
    (provider : ExecutionProviderCard) : DispatchCall where
  request := call.request
  receipt := receipt
  provider := provider
  runId := call.runId
  nodeId := call.nodeId
  commandId := (call.commandId.filter (· ≠ "")).getD receipt.receiptId.text
  now := call.now
  adapterKey := call.adapterKey

/-- Routing, and the card of the routed provider. -/
def routed (call : RouteCall) : Except Raised DispatchCall := do
  let receipt ← (route call.registry call.request call.receiptId call.acceptedAt).mapError .routing
  match call.registry.getProvider receipt.selectedProvider.text with
  | none => .error (.fabric .executionFabric
      s!"routed provider {Json.reprString receipt.selectedProvider.text} not found in registry")
  | some provider => return call.toDispatch receipt provider

/-- `route_and_dispatch`, over a fabric of its own. -/
def routeAndDispatch [Timestamps] (adapters : AdapterRegistry) (leases : Dict String WorkLease)
    (answer : Answer) (call : RouteCall) : Outcome :=
  match routed call with
  | .error e => ⟨.error e, {}, []⟩
  | .ok dispatchCall => dispatch adapters {} leases answer dispatchCall

end DwSuperApps.Source.Fabric
