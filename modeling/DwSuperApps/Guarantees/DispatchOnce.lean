import DwSuperApps.Lib.Runs
import DwSuperApps.Source.ExecutionFabric

/-!
# One accepted dispatch for each command

Any sequence of `dispatch`, `dispatch_semantic` and `route_and_dispatch` calls over one
adapter registry, on any number of fabrics. A fabric knows the commands it dispatched
itself, and its fingerprint of a request leaves fields out:

* `submit_cases`: what one call that passes the preflight can do;
* `dispatched_once_iff`: along a run every command is accepted once, and an
  acknowledgement is returned for the request it was issued for, exactly as long as an
  accepted command is dispatched again on the fabric that has it and with a request that
  agrees in the fields the fingerprint leaves out.
-/
namespace DwSuperApps.Guarantees.DispatchOnce

open DwSuperApps.Lib DwSuperApps.Lib.Checked DwSuperApps.Lib.Runs
open DwSuperApps.Source.Routing DwSuperApps.Source.Fabric
open DwSuperApps.Source.Runtime (Timestamps WorkLease)

/-! ## Runs -/

/-- A call that returned an acknowledgement. -/
structure Answered where
  commandId : String
  request : ExecutionRequest
  ack : DispatchAck
  deriving DecidableEq

/-- The fabrics, every adapter call made and every acknowledgement returned so far. -/
structure World where
  fabrics : List ExecutionFabric := []
  calls : List AdapterCall := []
  answered : List Answered := []

/-- The dispatches among some adapter calls that were accepted. -/
def acceptedOf (calls : List AdapterCall) : List (DispatchEnvelope × DispatchAck) :=
  calls.filterMap fun call => (acceptance call.answer).map (call.envelope, ·)

/-- The dispatches the adapters accepted, in order. -/
def World.accepted (w : World) : List (DispatchEnvelope × DispatchAck) := acceptedOf w.calls

/-- The results of a call on the fabric at `target`, or on one that is dropped after it. -/
def World.record (w : World) (target : Option Nat) (commandId : String) (request : ExecutionRequest)
    (outcome : Outcome) : World where
  fabrics := target.elim w.fabrics (w.fabrics.set · outcome.fabric)
  calls := w.calls ++ outcome.calls
  answered := w.answered ++
    (outcome.result.toOption.map fun ack => ⟨commandId, request, ack⟩).toList

/-- A new fabric, or one of the calls with the leases and the adapter's answer it meets. -/
inductive Action where
  | newFabric
  | dispatch (fabric : Nat) (leases : Dict String WorkLease) (answer : Answer) (call : DispatchCall)
  | dispatchSemantic (fabric : Nat) (leases : Dict String WorkLease) (answer : Answer)
      (call : SemanticCall)
  | routeAndDispatch (leases : Dict String WorkLease) (answer : Answer) (call : RouteCall)

/-- `command_id or receipt.receipt_id`. -/
def routedCommandId (call : RouteCall) : String := (call.commandId.filter (· ≠ "")).getD call.receiptId

theorem routed_call {call : RouteCall} {dispatchCall : DispatchCall}
    (made : routed call = .ok dispatchCall) :
    dispatchCall.commandId = routedCommandId call ∧ dispatchCall.request = call.request := by
  unfold routed at made
  obtain ⟨receipt, compiled, made⟩ := bind_ok.mp made
  have named : receipt.receiptId.text = call.receiptId := by
    cases found : route call.registry call.request call.receiptId call.acceptedAt with
    | error e =>
      rw [found] at compiled
      cases compiled
    | ok compiledReceipt =>
      rw [found] at compiled
      cases compiled
      unfold route compileReceipt at found
      obtain ⟨⟨provider, binding⟩, -, found⟩ := bind_ok.mp found
      obtain ⟨bound, -, found⟩ := bind_ok.mp found
      obtain ⟨receiptId, checked, found⟩ := bind_ok.mp found
      cases found
      exact checkedId_text checked
  split at made
  · cases made
  · cases made
    refine ⟨?_, rfl⟩
    unfold RouteCall.toDispatch routedCommandId
    rw [named]

/-- A call that raises before the index leaves everything as it was. -/
theorem record_raised {w : World} {target : Option Nat} {fabric : ExecutionFabric}
    (held : ∀ i, target = some i → w.fabrics[i]? = some fabric) (commandId : String)
    (request : ExecutionRequest) (e : Source.Fabric.Raised) :
    w.record target commandId request ⟨.error e, fabric, []⟩ = w := by
  have kept : target.elim w.fabrics (w.fabrics.set · fabric) = w.fabrics := by
    cases target with
    | none => rfl
    | some i =>
      obtain ⟨inside, same⟩ := List.getElem?_eq_some_iff.mp (held i rfl)
      exact same ▸ List.set_getElem_self inside
  unfold World.record
  rw [kept]
  simp [Except.toOption]

variable [Sha256] [Timestamps]

/-- One action; a call on a fabric that was not made does nothing. -/
def step (adapters : AdapterRegistry) (w : World) : Action → World
  | .newFabric => { w with fabrics := w.fabrics ++ [{}] }
  | .dispatch i leases answer call =>
    match w.fabrics[i]? with
    | none => w
    | some fabric => w.record (some i) call.commandId call.request
        (Source.Fabric.dispatch adapters fabric leases answer call)
  | .dispatchSemantic i leases answer call =>
    match w.fabrics[i]? with
    | none => w
    | some fabric => w.record (some i) call.commandId call.request
        (Source.Fabric.dispatchSemantic adapters fabric leases answer call)
  | .routeAndDispatch leases answer call =>
    w.record none (routedCommandId call) call.request
      (Source.Fabric.routeAndDispatch adapters leases answer call)

/-! ## What is asked of a run -/

/-- Each command is accepted once; an acknowledgement is returned for the command and the
request it was issued for; no other request under that command is acknowledged. -/
structure DispatchedOnce (w : World) : Prop where
  once : (w.accepted.map (·.1.commandId)).Nodup
  issued : ∀ a ∈ w.answered, ∃ e, (e, a.ack) ∈ w.accepted ∧ e.commandId = a.commandId ∧
    e.request = a.request
  agreed : ∀ a ∈ w.answered, ∀ d ∈ w.accepted, d.1.commandId = a.commandId → d.1.request = a.request

/-- The fields of a request that `canonical_fingerprint` does not read. -/
structure Unhashed where
  minVersion : Option String
  idempotency : Option Idempotency
  costClass : Option CostClass
  environmentRequirements : EnvironmentRequirement
  routingPreferences : RoutingPref
  inputs : List InputRef
  permissions : Option Permission
  expectedOutputs : List ArtifactSpec
  retry : Option RetryPolicy
  planVersion : String
  runVersion : String
  deriving DecidableEq

def unhashed (request : ExecutionRequest) : Unhashed where
  minVersion := request.capabilityRequirements.minVersion
  idempotency := request.capabilityRequirements.idempotency
  costClass := request.capabilityRequirements.costClass
  environmentRequirements := request.environmentRequirements
  routingPreferences := request.routingPreferences
  inputs := request.inputs
  permissions := request.permissions
  expectedOutputs := request.expectedOutputs
  retry := request.retry
  planVersion := request.planVersion
  runVersion := request.runVersion

/-- A call that passed the preflight: the fabric it was made on and where that is kept, the
envelope, and what the adapter would answer. -/
structure Arrival where
  target : Option Nat
  fabric : ExecutionFabric
  envelope : DispatchEnvelope
  answer : Answer

/-- The arrival of an action, where its call comes as far as the index. -/
def arrival (adapters : AdapterRegistry) (w : World) : Action → Option Arrival
  | .newFabric => none
  | .dispatch i leases answer call => do
    let fabric ← w.fabrics[i]?
    let envelope ← (preflight adapters leases call).toOption
    return ⟨some i, fabric, envelope, answer⟩
  | .dispatchSemantic i leases answer call => do
    let fabric ← w.fabrics[i]?
    let context ← (semanticContext call).toOption
    let envelope ← (preflight adapters leases (call.toDispatch context)).toOption
    return ⟨some i, fabric, envelope, answer⟩
  | .routeAndDispatch leases answer call => do
    let dispatchCall ← (routed call).toOption
    let envelope ← (preflight adapters leases dispatchCall).toOption
    return ⟨none, {}, envelope, answer⟩

/-- What the fabric of the arrival has under its command. -/
def Arrival.prior (a : Arrival) : Option (Fingerprint × DispatchAck) :=
  a.fabric.dispatched.get? a.envelope.commandId

/-- A command that was accepted is known to the fabric unless the adapter refuses, and one
that is repeated under its fingerprint agrees in the other fields. -/
structure Covered (w : World) (a : Arrival) : Prop where
  known : a.prior = none → (acceptance a.answer).isSome → a.envelope.commandId ∉
    w.accepted.map (·.1.commandId)
  agrees : a.prior.map Prod.fst = some a.envelope.canonicalFingerprint → ∀ d ∈ w.accepted,
    d.1.commandId = a.envelope.commandId → unhashed d.1.request = unhashed a.envelope.request

/-- Every call that reaches the index is covered. -/
def Repeats (adapters : AdapterRegistry) (w : World) (action : Action) : Prop :=
  ∀ a, arrival adapters w action = some a → Covered w a

/-! ## One call -/

omit [Sha256] in
/-- What reaches the index is the command and the request of the call. -/
theorem preflight_envelope {adapters : AdapterRegistry} {leases : Dict String WorkLease}
    {call : DispatchCall} {envelope : DispatchEnvelope}
    (passed : preflight adapters leases call = .ok envelope) :
    envelope.commandId = call.commandId ∧ envelope.request = call.request ∧
      envelope.fencingToken = envelope.request.fencingToken := by
  unfold preflight at passed
  obtain ⟨_, -, passed⟩ := bind_ok.mp passed
  obtain ⟨adapter, -, passed⟩ := bind_ok.mp passed
  obtain ⟨leaseId, -, passed⟩ := bind_ok.mp passed
  cases passed
  exact ⟨rfl, rfl, rfl⟩

/-- The world after an arrival. -/
def Arrival.settle (w : World) (a : Arrival) : World :=
  w.record a.target a.envelope.commandId a.envelope.request (submit a.fabric a.envelope a.answer)

/-- An arrival is on a fabric of the world or on an empty one, with a fenced envelope. -/
structure Arrival.Placed (w : World) (a : Arrival) : Prop where
  held : ∀ i, a.target = some i → w.fabrics[i]? = some a.fabric
  fresh : a.target = none → a.fabric = {}
  fenced : a.envelope.fencingToken = a.envelope.request.fencingToken

omit [Sha256] in
theorem dispatch_arrives (adapters : AdapterRegistry) {w : World} {target : Option Nat}
    {fabric : ExecutionFabric} (held : ∀ i, target = some i → w.fabrics[i]? = some fabric)
    (leases : Dict String WorkLease) (answer : Answer) (call : DispatchCall) :
    w.record target call.commandId call.request (dispatch adapters fabric leases answer call) =
      ((preflight adapters leases call).toOption.map fun envelope =>
        Arrival.settle w ⟨target, fabric, envelope, answer⟩).getD w := by
  unfold dispatch
  cases passed : preflight adapters leases call with
  | error e => exact record_raised held _ _ e
  | ok envelope =>
    obtain ⟨command, request, -⟩ := preflight_envelope passed
    simp only [Except.toOption, Option.map_some, Option.getD_some, Arrival.settle, command, request]

/-- A call does nothing, or is settled where it arrives. -/
theorem step_call (adapters : AdapterRegistry) (w : World) {action : Action}
    (isCall : action ≠ .newFabric) :
    step adapters w action = ((arrival adapters w action).map (Arrival.settle w)).getD w := by
  cases action with
  | newFabric => exact absurd rfl isCall
  | dispatch i leases answer call =>
    cases held : w.fabrics[i]? with
    | none => simp only [step, arrival, held, Option.bind_eq_bind, Option.bind_none, Option.map_none,
        Option.getD_none]
    | some fabric =>
      have placed : ∀ j, some i = some j → w.fabrics[j]? = some fabric := by
        rintro j ⟨rfl⟩
        exact held
      simp only [step, arrival, held, dispatch_arrives adapters placed, Option.bind_eq_bind, Option.bind_some]
      cases preflight adapters leases call <;> rfl
  | dispatchSemantic i leases answer call =>
    cases held : w.fabrics[i]? with
    | none => simp only [step, arrival, held, Option.bind_eq_bind, Option.bind_none, Option.map_none,
        Option.getD_none]
    | some fabric =>
      have placed : ∀ j, some i = some j → w.fabrics[j]? = some fabric := by
        rintro j ⟨rfl⟩
        exact held
      simp only [step, arrival, held, dispatchSemantic, Option.bind_eq_bind, Option.bind_some]
      cases semanticContext call with
      | error e => exact record_raised placed _ _ e
      | ok context =>
        have same := dispatch_arrives adapters placed leases answer (call.toDispatch context)
        refine same.trans ?_
        simp only [Except.toOption, Option.bind_some]
        cases preflight adapters leases (call.toDispatch context) <;> rfl
  | routeAndDispatch leases answer call =>
    have placed : ∀ j, (none : Option Nat) = some j → w.fabrics[j]? = some {} := by
      intro j impossible
      cases impossible
    simp only [step, arrival, routeAndDispatch, Option.bind_eq_bind]
    cases made : routed call with
    | error e => exact record_raised placed _ _ e
    | ok dispatchCall =>
      obtain ⟨command, request⟩ := routed_call made
      have same := dispatch_arrives adapters placed leases answer dispatchCall
      rw [command, request] at same
      refine same.trans ?_
      simp only [Except.toOption, Option.bind_some]
      cases preflight adapters leases dispatchCall <;> rfl

/-! ## The index and the adapters -/

omit [Sha256] [Timestamps] in
theorem acknowledge_ok {envelope : DispatchEnvelope} {answer : Answer} {ack : DispatchAck} :
    acknowledge envelope answer = .ok ack ↔ acceptance answer = some ack := by
  cases answer with
  | error text => simp [acknowledge, acceptance]
  | ok other =>
    unfold acknowledge acceptance
    by_cases refused : other.status = "REJECTED" <;> simp [refused]

omit [Sha256] [Timestamps] in
/-- A call is answered from the index, refused with nothing accepted, or accepted and indexed. -/
theorem submit_cases (fabric : ExecutionFabric) (envelope : DispatchEnvelope) (answer : Answer) :
    (∃ ack, fabric.dispatched.get? envelope.commandId = some (envelope.canonicalFingerprint, ack) ∧
      submit fabric envelope answer = ⟨.ok ack, fabric, []⟩) ∨
    (∃ e calls, (fabric.dispatched.get? envelope.commandId).map Prod.fst ≠
        some envelope.canonicalFingerprint ∧
      (fabric.dispatched.get? envelope.commandId = none → acceptance answer = none) ∧
      acceptedOf calls = [] ∧ submit fabric envelope answer = ⟨.error e, fabric, calls⟩) ∨
    ∃ ack, fabric.dispatched.get? envelope.commandId = none ∧ acceptance answer = some ack ∧
      submit fabric envelope answer =
        ⟨.ok ack, ⟨fabric.dispatched.set envelope.commandId (envelope.canonicalFingerprint, ack)⟩,
          [⟨envelope, answer⟩]⟩ := by
  unfold submit
  cases known : fabric.dispatched.get? envelope.commandId with
  | some prior =>
    obtain ⟨fp, ack⟩ := prior
    by_cases same : fp = envelope.canonicalFingerprint
    · refine .inl ⟨ack, by rw [same], ?_⟩
      simp [same]
    · refine .inr (.inl ⟨_, [], ?_, ?_, rfl, if_neg same⟩)
      · exact fun equal => same (Option.some.inj equal)
      · intro impossible
        cases impossible
  | none =>
    cases answered : acknowledge envelope answer with
    | error e =>
      have refused : acceptance answer = none := by
        cases accepted : acceptance answer with
        | none => rfl
        | some ack =>
          rw [acknowledge_ok.mpr accepted] at answered
          cases answered
      refine .inr (.inl ⟨e, [⟨envelope, answer⟩], ?_, fun _ => refused, ?_, rfl⟩)
      · intro impossible
        cases impossible
      · simp [acceptedOf, refused]
    | ok ack => exact .inr (.inr ⟨ack, rfl, acknowledge_ok.mp answered, rfl⟩)

omit [Sha256] [Timestamps] in
/-- Fenced envelopes under one fingerprint carry one request exactly when the fields the
fingerprint leaves out agree. -/
theorem request_eq_iff {d e : DispatchEnvelope} (dFenced : d.fencingToken = d.request.fencingToken)
    (eFenced : e.fencingToken = e.request.fencingToken)
    (same : d.canonicalFingerprint = e.canonicalFingerprint) :
    d.request = e.request ↔ unhashed d.request = unhashed e.request := by
  constructor
  · intro equal
    rw [equal]
  · intro rest
    simp only [DispatchEnvelope.canonicalFingerprint, Fingerprint.mk.injEq] at same
    obtain ⟨-, execution, attempt, attemptId, contract, capability, fencing, -⟩ := same
    rw [dFenced, eFenced] at fencing
    simp only [unhashed, Unhashed.mk.injEq] at rest
    obtain ⟨minVersion, idempotency, costClass, environment, routing, inputs, permissions, outputs,
      retry, plan, run⟩ := rest
    exact ExecutionRequest.ext execution contract attempt attemptId fencing
      (CapabilityRequirement.ext capability minVersion idempotency costClass) environment routing
      inputs permissions outputs retry plan run

/-! ## Steps -/

/-- What a fabric has was accepted by an adapter, under the fingerprint it has it by. -/
structure Indexed (w : World) : Prop where
  origin : ∀ fabric ∈ w.fabrics, ∀ c fp ack, fabric.dispatched.get? c = some (fp, ack) →
    ∃ e, (e, ack) ∈ w.accepted ∧ e.commandId = c ∧ e.canonicalFingerprint = fp
  fenced : ∀ d ∈ w.accepted, d.1.fencingToken = d.1.request.fencingToken

section Settled
omit [Sha256] [Timestamps]

/-- The fabrics after a record are those of the world and the one of the outcome. -/
theorem fabrics_record {w : World} {target : Option Nat} {commandId : String}
    {request : ExecutionRequest} {outcome : Outcome} {fabric : ExecutionFabric}
    (member : fabric ∈ (w.record target commandId request outcome).fabrics) :
    fabric ∈ w.fabrics ∨ fabric = outcome.fabric := by
  cases target with
  | none => exact .inl member
  | some i => exact List.mem_or_eq_of_mem_set member

/-- The three things an arrival can do to the world. -/
theorem settle_cases (w : World) (a : Arrival) :
    (∃ ack, a.prior = some (a.envelope.canonicalFingerprint, ack) ∧
      (submit a.fabric a.envelope a.answer).fabric = a.fabric ∧
      (a.settle w).accepted = w.accepted ∧
      (a.settle w).answered = w.answered ++ [⟨a.envelope.commandId, a.envelope.request, ack⟩]) ∨
    (a.prior.map Prod.fst ≠ some a.envelope.canonicalFingerprint ∧
      (a.prior = none → acceptance a.answer = none) ∧
      (submit a.fabric a.envelope a.answer).fabric = a.fabric ∧
      (a.settle w).accepted = w.accepted ∧ (a.settle w).answered = w.answered) ∨
    ∃ ack, a.prior = none ∧ acceptance a.answer = some ack ∧
      (submit a.fabric a.envelope a.answer).fabric = ⟨a.fabric.dispatched.set a.envelope.commandId
        (a.envelope.canonicalFingerprint, ack)⟩ ∧
      (a.settle w).accepted = w.accepted ++ [(a.envelope, ack)] ∧
      (a.settle w).answered = w.answered ++ [⟨a.envelope.commandId, a.envelope.request, ack⟩] := by
  have accepted : (a.settle w).accepted =
      w.accepted ++ acceptedOf (submit a.fabric a.envelope a.answer).calls := List.filterMap_append
  have answered : (a.settle w).answered = w.answered ++
      ((submit a.fabric a.envelope a.answer).result.toOption.map fun ack =>
        ⟨a.envelope.commandId, a.envelope.request, ack⟩).toList := rfl
  rcases submit_cases a.fabric a.envelope a.answer with
    ⟨ack, known, result⟩ | ⟨e, calls, other, refused, none, result⟩ | ⟨ack, unknown, taken, result⟩
  · rw [result] at accepted answered ⊢
    exact .inl ⟨ack, known, rfl, accepted.trans (List.append_nil _), answered⟩
  · rw [result] at accepted answered ⊢
    rw [none, List.append_nil] at accepted
    exact .inr (.inl ⟨other, refused, rfl, accepted, answered.trans (List.append_nil _)⟩)
  · rw [result] at accepted answered ⊢
    refine .inr (.inr ⟨ack, unknown, taken, rfl, ?_, answered⟩)
    rw [accepted]
    simp [acceptedOf, taken]

/-- What a placed fabric has was accepted. -/
theorem Arrival.Placed.origin {w : World} {a : Arrival} (placed : a.Placed w) (indexed : Indexed w)
    {c : String} {fp : Fingerprint} {ack : DispatchAck}
    (known : a.fabric.dispatched.get? c = some (fp, ack)) :
    ∃ e, (e, ack) ∈ w.accepted ∧ e.commandId = c ∧ e.canonicalFingerprint = fp := by
  cases target : a.target with
  | none =>
    rw [placed.fresh target] at known
    cases known
  | some i => exact indexed.origin _ (List.mem_of_getElem? (placed.held i target)) _ _ _ known

theorem settle_indexed {w : World} {a : Arrival} (placed : a.Placed w) (indexed : Indexed w) :
    Indexed (a.settle w) := by
  -- a fabric of the world or the one of the arrival, before the call
  have before : ∀ fabric, fabric ∈ w.fabrics ∨ fabric = a.fabric → ∀ c fp ack,
      fabric.dispatched.get? c = some (fp, ack) →
      ∃ e, (e, ack) ∈ w.accepted ∧ e.commandId = c ∧ e.canonicalFingerprint = fp := by
    rintro fabric (old | rfl) c fp ack known
    · exact indexed.origin fabric old c fp ack known
    · exact placed.origin indexed known
  have unchanged (same : (submit a.fabric a.envelope a.answer).fabric = a.fabric)
      (accepted : (a.settle w).accepted = w.accepted) : Indexed (a.settle w) := by
    constructor
    · intro fabric member
      rw [accepted]
      exact before fabric (same ▸ fabrics_record member)
    · rw [accepted]
      exact indexed.fenced
  rcases settle_cases w a with
    ⟨ack, -, same, accepted, -⟩ | ⟨-, -, same, accepted, -⟩ | ⟨ack, -, -, made, accepted, -⟩
  · exact unchanged same accepted
  · exact unchanged same accepted
  · constructor
    · intro fabric member c fp other known
      rw [accepted]
      rcases fabrics_record member with old | rfl
      · obtain ⟨e, inside, rest⟩ := before fabric (.inl old) c fp other known
        exact ⟨e, List.mem_append_left _ inside, rest⟩
      · rw [made, Dict.get?_set] at known
        split at known
        · next here =>
          cases known
          exact ⟨a.envelope, List.mem_append_right _ List.mem_cons_self, here.symm, rfl⟩
        · obtain ⟨e, inside, rest⟩ := before a.fabric (.inr rfl) c fp other known
          exact ⟨e, List.mem_append_left _ inside, rest⟩
    · intro d member
      rw [accepted] at member
      rcases List.mem_append.mp member with old | new
      · exact indexed.fenced d old
      · rw [List.mem_singleton.mp new]
        exact placed.fenced

theorem DispatchedOnce.of {w : World} (once : (w.accepted.map (·.1.commandId)).Nodup)
    (issued : ∀ a ∈ w.answered, ∃ e, (e, a.ack) ∈ w.accepted ∧ e.commandId = a.commandId ∧
      e.request = a.request) : DispatchedOnce w where
  once := once
  issued := issued
  agreed := by
    intro a member d accepted same
    obtain ⟨e, inside, command, request⟩ := issued a member
    have one : d = (e, a.ack) :=
      List.inj_on_of_nodup_map once accepted inside (same.trans command.symm)
    rw [one]
    exact request

/-- An arrival keeps the property exactly when it is covered. -/
theorem settle_exact {w : World} {a : Arrival} (placed : a.Placed w) (indexed : Indexed w)
    (holds : DispatchedOnce w) : DispatchedOnce (a.settle w) ↔ Covered w a := by
  rcases settle_cases w a with ⟨ack, known, -, accepted, answered⟩ |
    ⟨other, refused, -, accepted, answered⟩ | ⟨ack, unknown, taken, -, accepted, answered⟩
  · -- an earlier acknowledgement is returned
    obtain ⟨e, inside, command, same⟩ := placed.origin indexed known
    have exact := request_eq_iff (indexed.fenced _ inside) placed.fenced same
    constructor
    · intro after
      constructor
      · intro unknown
        rw [unknown] at known
        cases known
      · intro _ d member named
        have member : d ∈ (a.settle w).accepted := accepted ▸ member
        rw [after.agreed ⟨a.envelope.commandId, a.envelope.request, ack⟩ (by simp [answered]) d member
          named]
    · intro covered
      have request := exact.mpr (covered.agrees (by rw [known]; rfl) _ inside command)
      refine .of (accepted ▸ holds.once) ?_
      rw [accepted, answered, List.forall_mem_append, List.forall_mem_singleton]
      exact ⟨holds.issued, e, inside, command, request⟩
  · -- nothing is accepted and nothing returned
    refine iff_of_true (.of (accepted ▸ holds.once) ?_) ⟨?_, fun same => absurd same other⟩
    · rw [accepted, answered]
      exact holds.issued
    · intro unknown taken
      rw [refused unknown] at taken
      cases taken
  · -- the adapter accepts
    constructor
    · intro after
      constructor
      · intro _ _ member
        have once := after.once
        rw [accepted, List.map_append, List.nodup_append] at once
        exact once.2.2 _ member _ List.mem_cons_self rfl
      · intro same
        rw [unknown] at same
        cases same
    · intro covered
      have fresh := covered.known unknown (by rw [taken]; rfl)
      refine .of ?_ ?_
      · rw [accepted, List.map_append]
        exact holds.once.append (List.nodup_singleton _) (by simpa using fresh)
      · rw [accepted, answered, List.forall_mem_append, List.forall_mem_singleton]
        constructor
        · intro earlier member
          obtain ⟨e, inside, rest⟩ := holds.issued earlier member
          exact ⟨e, List.mem_append_left _ inside, rest⟩
        · exact ⟨a.envelope, List.mem_append_right _ List.mem_cons_self, rfl, rfl⟩

end Settled

/-! ## Runs of calls -/

theorem arrival_placed {adapters : AdapterRegistry} {w : World} {action : Action} {a : Arrival}
    (arrives : arrival adapters w action = some a) : a.Placed w := by
  have fenced {call : DispatchCall} {leases : Dict String WorkLease} {envelope : DispatchEnvelope}
      (passed : (preflight adapters leases call).toOption = some envelope) :
      envelope.fencingToken = envelope.request.fencingToken := by
    cases result : preflight adapters leases call with
    | error e =>
      rw [result] at passed
      cases passed
    | ok made =>
      rw [result] at passed
      cases passed
      exact (preflight_envelope result).2.2
  cases action with
  | newFabric => cases arrives
  | dispatch i leases answer call =>
    simp only [arrival, Option.bind_eq_bind, Option.bind_eq_some_iff] at arrives
    obtain ⟨fabric, held, envelope, passed, made⟩ := arrives
    cases made
    refine ⟨?_, ?_, fenced passed⟩
    · rintro _ ⟨rfl⟩
      exact held
    · intro impossible
      cases impossible
  | dispatchSemantic i leases answer call =>
    simp only [arrival, Option.bind_eq_bind, Option.bind_eq_some_iff] at arrives
    obtain ⟨fabric, held, context, -, envelope, passed, made⟩ := arrives
    cases made
    refine ⟨?_, ?_, fenced passed⟩
    · rintro _ ⟨rfl⟩
      exact held
    · intro impossible
      cases impossible
  | routeAndDispatch leases answer call =>
    simp only [arrival, Option.bind_eq_bind, Option.bind_eq_some_iff] at arrives
    obtain ⟨dispatchCall, -, envelope, passed, made⟩ := arrives
    cases made
    refine ⟨?_, fun _ => rfl, fenced passed⟩
    intro i impossible
    cases impossible

omit [Sha256] [Timestamps] in
theorem newFabric_indexed {w : World} (indexed : Indexed w) :
    Indexed { w with fabrics := w.fabrics ++ [{}] } := by
  refine ⟨?_, indexed.fenced⟩
  intro fabric member
  rcases List.mem_append.mp member with old | new
  · exact indexed.origin fabric old
  · rw [List.mem_singleton.mp new]
    intro c fp ack known
    cases known

theorem step_indexed (adapters : AdapterRegistry) (w : World) (action : Action)
    (indexed : Indexed w) : Indexed (step adapters w action) := by
  by_cases isCall : action = .newFabric
  · rw [isCall]
    exact newFabric_indexed indexed
  · rw [step_call adapters w isCall]
    cases arrives : arrival adapters w action with
    | none => exact indexed
    | some a => exact settle_indexed (arrival_placed arrives) indexed

/-- One action keeps the property exactly when its call is covered. -/
theorem step_exact (adapters : AdapterRegistry) (w : World) (action : Action) (indexed : Indexed w)
    (holds : DispatchedOnce w) :
    DispatchedOnce (step adapters w action) ↔ Repeats adapters w action := by
  by_cases isCall : action = .newFabric
  · rw [isCall]
    refine iff_of_true ⟨holds.once, holds.issued, holds.agreed⟩ ?_
    intro a arrives
    cases arrives
  · rw [step_call adapters w isCall]
    unfold Repeats
    cases arrives : arrival adapters w action with
    | none => exact iff_of_true holds fun a impossible => nomatch impossible
    | some a =>
      rw [Option.map_some, Option.getD_some, settle_exact (arrival_placed arrives) indexed holds]
      constructor
      · rintro covered _ ⟨rfl⟩
        exact covered
      · exact fun all => all a rfl

theorem dispatched_once_iff (adapters : AdapterRegistry) (actions : List Action) :
    Always (step adapters) DispatchedOnce {} actions ↔
      Along (step adapters) (Repeats adapters) {} actions := by
  have start : Indexed {} :=
    ⟨fun _ member => absurd member List.not_mem_nil, fun _ member => absurd member List.not_mem_nil⟩
  have empty : DispatchedOnce {} :=
    .of List.nodup_nil fun _ member => absurd member List.not_mem_nil
  exact always_iff_along (q := fun _ => True) (fun w action _ => step_indexed adapters w action)
    (fun w action _ => step_exact adapters w action) (fun _ _ => trivial) start empty

/-! ## Two runs that are not covered -/

section Uncovered
omit [Sha256] [Timestamps]

@[reducible] def unusedHash : Sha256 := ⟨fun _ => 0⟩

@[reducible] def unusedClock : Timestamps := ⟨fun _ => .aware 0⟩

theorem first_positive : 1 ≤ 1 := by decide
theorem token_fenced : "ft-1" ≠ "" := by decide

def summarize : ExecutionRequest where
  executionId := ⟨"exec.1", by decide⟩
  contractRef := ⟨"contract.1", by decide⟩
  attempt := 1
  attemptId := ⟨"att.1", by decide⟩
  fencingToken := "ft-1"
  positive := first_positive
  fenced := token_fenced
  capabilityRequirements := { capabilityId := "cap.1" }

/-- The same attempt over an input. -/
def summarizeInput : ExecutionRequest :=
  { summarize with inputs := [{ inputId := "in.1", sourceRef := "src.1" }] }

def localProvider : ExecutionProviderCard where
  providerId := ⟨"prov.1", by decide⟩
  providerKind := .local
  capabilityRefs := [⟨"cap.1", by decide⟩]
  bindings := [{ kind := .localIpc, endpointRef := "ipc" }]

def routedReceipt : ExecutionReceipt where
  receiptId := ⟨"receipt.1", by decide⟩
  contractRef := summarize.contractRef
  executionRef := summarize.executionRef
  selectedProvider := localProvider.providerId
  binding := none
  status := .routing

def heldLease : WorkLease where
  leaseId := ⟨"lease.1", by decide⟩
  runId := ⟨"run.1", by decide⟩
  nodeId := ⟨"node.1", by decide⟩
  executionId := summarize.executionId
  attemptId := summarize.attemptId
  holder := localProvider.providerId
  fencingToken := "ft-1"
  grantedAt := "2026-01-01T00:00:00Z"
  expiresAt := "2026-01-02T00:00:00Z"

def runLeases : Dict String WorkLease := ⟨[("lease.1", heldLease)], by decide⟩

def ipcAdapters : AdapterRegistry := ⟨[("fake.1", ⟨"fake.1", ["LOCAL_IPC"]⟩)], by decide⟩

def accepting : Answer := .ok ⟨"cmd.1", true, "ACCEPTED", "fake.1", none⟩

def commandFor (request : ExecutionRequest) : DispatchCall where
  request := request
  receipt := routedReceipt
  provider := localProvider
  runId := "run.1"
  nodeId := "node.1"
  commandId := "cmd.1"
  now := "2026-01-01T12:00:00Z"

/-- One fabric, one command, two requests. -/
def otherInputs : List Action :=
  [.newFabric, .dispatch 0 runLeases accepting (commandFor summarize),
    .dispatch 0 runLeases accepting (commandFor summarizeInput)]

def localRegistry : Registry where
  providers := ⟨[("prov.1", localProvider)], by decide⟩
  capabilities := ⟨[("cap.1", ⟨⟨"cap.1", by decide⟩, "1.0.0", .idempotent, .free, []⟩)], by decide⟩

def routeCommand : Action :=
  .routeAndDispatch runLeases accepting {
    registry := localRegistry
    request := summarize
    receiptId := "receipt.1"
    runId := "run.1"
    nodeId := "node.1"
    now := "2026-01-01T12:00:00Z"
    commandId := some "cmd.1" }

/-- The run over the sample adapters. -/
def sampleRun (actions : List Action) : World :=
  run (@step unusedHash unusedClock ipcAdapters) {} actions

theorem otherInputs_answered :
    (sampleRun otherInputs).answered.map (·.request) = [summarize, summarizeInput] ∧
      (sampleRun otherInputs).accepted.map (·.1.request) = [summarize] := by
  decide

theorem routeTwice_accepted : (sampleRun [routeCommand, routeCommand]).accepted.map (·.1.commandId) =
    ["cmd.1", "cmd.1"] := by
  decide

/-- The acknowledgement of one request is returned for another, and a command that is routed
twice is accepted twice. -/
theorem uncovered_runs : ¬ DispatchedOnce (sampleRun otherInputs) ∧
    ¬ DispatchedOnce (sampleRun [routeCommand, routeCommand]) := by
  constructor
  · intro holds
    obtain ⟨answered, accepted⟩ := otherInputs_answered
    have returned : summarizeInput ∈ (sampleRun otherInputs).answered.map (·.request) := by
      rw [answered]
      decide
    obtain ⟨a, member, request⟩ := List.mem_map.mp returned
    obtain ⟨e, inside, -, same⟩ := holds.issued a member
    have only : e.request ∈ [summarize] := accepted ▸ List.mem_map.mpr ⟨_, inside, rfl⟩
    rw [same, request] at only
    exact absurd only (by decide)
  · intro holds
    have once := holds.once
    rw [routeTwice_accepted] at once
    exact absurd once (by decide)

end Uncovered

end DwSuperApps.Guarantees.DispatchOnce
