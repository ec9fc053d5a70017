import DwSuperApps.Guarantees.DispatchOnce

/-!
# The adapter of a routed request

Routing selects one binding of a provider; without an adapter key the fabric looks the
adapter up for the kind of the provider's first binding.

* `lookup_firstFor`: the lookup finds the first adapter, by key, that lists the kind;
* `invoked_supports_iff`: the adapter that `dispatch` or `cancel` calls supports the kind
  of the selected binding exactly where the first adapter for the kind of the provider's
  first binding does.
-/
namespace DwSuperApps.Guarantees.AdapterChoice

open DwSuperApps.Lib DwSuperApps.Lib.Checked
open DwSuperApps.Source.Routing DwSuperApps.Source.Fabric
open DwSuperApps.Source.Runtime (Timestamps WorkLease)

/-! ## Lookup by kind -/

/-- Among the adapters that list the kind it is the first by its key, and of those with
that key the first in the registry. -/
structure FirstFor (adapters : AdapterRegistry) (kind : String) (adapter : ExecutionAdapter) :
    Prop where
  listed : kind ∈ adapter.supportedBindingTypes
  first : ∃ before after, adapters.values = before ++ adapter :: after ∧
    (∀ other ∈ before, kind ∈ other.supportedBindingTypes → adapter.adapterKey < other.adapterKey) ∧
    ∀ other ∈ after, kind ∈ other.supportedBindingTypes → adapter.adapterKey ≤ other.adapterKey

theorem lookup_firstFor {adapters : AdapterRegistry} {kind : String} {adapter : ExecutionAdapter} :
    lookupByBindingType adapters kind = .ok adapter ↔ FirstFor adapters kind adapter := by
  have head : lookupByBindingType adapters kind = .ok adapter ↔
      (Sorted.sortedBy ExecutionAdapter.adapterKey
        (adapters.values.filter (kind ∈ ·.supportedBindingTypes))).head? = some adapter := by
    unfold lookupByBindingType
    dsimp only
    cases Sorted.sortedBy ExecutionAdapter.adapterKey
        (adapters.values.filter (kind ∈ ·.supportedBindingTypes)) with
    | nil => exact ⟨fun impossible => (nomatch impossible), fun impossible => (nomatch impossible)⟩
    | cons first rest =>
      constructor
      · rintro ⟨⟩
        rfl
      · rintro ⟨⟩
        rfl
  rw [head, Sorted.head_sortedBy]
  constructor
  · rintro ⟨before, after, split, earlier, follow⟩
    -- the matching adapters split where the registry does
    obtain ⟨front, back, values, fronts, backs⟩ := List.filter_eq_append_iff.mp split
    obtain ⟨skipped, later, rest, unlisted, listed, afters⟩ := List.filter_eq_cons_iff.mp backs
    refine ⟨by simpa using listed, front ++ skipped, later, ?_, ?_, ?_⟩
    · rw [values, rest, List.append_assoc]
    · intro other inside lists
      rcases List.mem_append.mp inside with inside | inside
      · apply earlier
        rw [← fronts]
        exact List.mem_filter.mpr ⟨inside, by simpa using lists⟩
      · exact absurd (by simpa using lists) (unlisted other inside)
    · intro other inside lists
      apply follow
      rw [← afters]
      exact List.mem_filter.mpr ⟨inside, by simpa using lists⟩
  · rintro ⟨listed, before, after, values, earlier, follow⟩
    refine ⟨before.filter (kind ∈ ·.supportedBindingTypes),
      after.filter (kind ∈ ·.supportedBindingTypes), ?_, ?_, ?_⟩
    · rw [values, List.filter_append, List.filter_cons_of_pos (by simpa using listed)]
    · intro other inside
      obtain ⟨inside, lists⟩ := List.mem_filter.mp inside
      exact earlier other inside (by simpa using lists)
    · intro other inside
      obtain ⟨inside, lists⟩ := List.mem_filter.mp inside
      exact follow other inside (by simpa using lists)

/-! ## Selected bindings -/

theorem eligiblePair_binding {registry : Registry} {request : ExecutionRequest}
    {candidate provider : ExecutionProviderCard} {binding : Binding}
    (paired : eligiblePair registry request candidate = some (provider, binding)) :
    binding ∈ provider.bindings := by
  unfold eligiblePair at paired
  split at paired
  · cases paired
  · simp only [Option.bind_eq_bind, Option.bind_eq_some_iff] at paired
    obtain ⟨card, -, found, first, made⟩ := paired
    obtain ⟨rfl, rfl⟩ := Prod.mk.inj (Option.some.inj made)
    have eligible := Sorted.mem_sortedBy.mp (List.mem_of_mem_head? first)
    exact (List.mem_filter.mp eligible).1

theorem pairs_binding {registry : Registry} {request : ExecutionRequest}
    {provider : ExecutionProviderCard} {binding : Binding}
    (inside : (provider, binding) ∈ eligibleProviderBindingPairs registry request) :
    binding ∈ provider.bindings := by
  obtain ⟨candidate, -, paired⟩ := List.mem_filterMap.mp inside
  exact eligiblePair_binding paired

/-- Both passes select a binding of the provider. -/
theorem select_binding {registry : Registry} {request : ExecutionRequest}
    {provider : ExecutionProviderCard} {binding : Binding}
    (selected : select registry request = .ok (provider, binding)) :
    binding ∈ provider.bindings := by
  unfold select at selected
  dsimp only at selected
  split at selected
  · cases selected
  · split at selected
    · next first rest ranked =>
      cases selected
      have inside := ranked ▸ List.mem_cons_self (a := (provider, binding)) (l := rest)
      exact pairs_binding (Sorted.mem_sortedBy.mp inside)
    · split at selected
      · next first rest ranked =>
        cases selected
        have inside := ranked ▸ List.mem_cons_self (a := (provider, binding)) (l := rest)
        have inside := Sorted.mem_sortedBy.mp (Sorted.mem_sortedBy.mp inside)
        unfold fallbackPairs at inside
        split at inside
        · exact pairs_binding inside
        · cases inside
      · cases selected

/-! ## Invoked adapters -/

/-- A call for a route: the provider and the receipt are those routing makes, and no
adapter key is given. -/
structure RoutedCall (registry : Registry) (request : ExecutionRequest) (binding : Binding)
    (call : DispatchCall) : Prop where
  selected : select registry request = .ok (call.provider, binding)
  compiled : ∃ receiptId acceptedAt,
    compileReceipt request call.provider binding receiptId acceptedAt = .ok call.receipt
  unkeyed : call.adapterKey = none

/-- `dispatch` or `cancel` resolves the adapter and comes to call it. -/
inductive Invokes [Timestamps] (adapters : AdapterRegistry) (leases : Dict String WorkLease)
    (call : DispatchCall) (adapter : ExecutionAdapter) : Prop
  | dispatch (fabric : ExecutionFabric) (answer : Answer)
      (resolved : resolveAdapter adapters call.adapterKey (bindingType call.provider) = .ok adapter)
      (called : (dispatch adapters fabric leases answer call).calls ≠ [])
  | cancel (supportsCancel : ExecutionAdapter → Bool) (cancelled : CancelIndex)
      (answer : Except String CancelAck)
      (resolved : resolveAdapter adapters call.adapterKey (bindingType call.provider) = .ok adapter)
      (called : (cancel adapters supportsCancel cancelled leases answer call).calls ≠ [])

theorem Invokes.resolved [Timestamps] {adapters : AdapterRegistry}
    {leases : Dict String WorkLease} {call : DispatchCall} {adapter : ExecutionAdapter}
    (invoked : Invokes adapters leases call adapter) :
    resolveAdapter adapters call.adapterKey (bindingType call.provider) = .ok adapter := by
  cases invoked with
  | dispatch _ _ resolved _ => exact resolved
  | cancel _ _ _ resolved _ => exact resolved

/-- The first adapter for the kind of the provider's first binding lists the kind of the
selected one. -/
def FirstKindServes (adapters : AdapterRegistry) (provider : ExecutionProviderCard)
    (binding : Binding) : Prop :=
  ∀ first ∈ provider.bindings.head?, ∀ adapter, FirstFor adapters first.kind.value adapter →
    binding.kind.value ∈ adapter.supportedBindingTypes

theorem invoked_supports_iff [Timestamps] {registry : Registry} {request : ExecutionRequest}
    {binding : Binding} {adapters : AdapterRegistry} {leases : Dict String WorkLease}
    {call : DispatchCall} {adapter : ExecutionAdapter}
    (routed : RoutedCall registry request binding call)
    (invoked : Invokes adapters leases call adapter) :
    binding.kind.value ∈ adapter.supportedBindingTypes ↔
      FirstKindServes adapters call.provider binding := by
  have resolved := invoked.resolved
  rw [routed.unkeyed] at resolved
  -- the selected binding is one of the provider's, so there is a first one
  cases bindings : call.provider.bindings with
  | nil =>
    have inside := select_binding routed.selected
    rw [bindings] at inside
    cases inside
  | cons first rest =>
    have kind : bindingType call.provider = first.kind.value := by
      unfold bindingType
      rw [bindings]
      rfl
    rw [kind] at resolved
    have found := lookup_firstFor.mp resolved
    unfold FirstKindServes
    rw [bindings, List.head?_cons]
    constructor
    · rintro supported _ ⟨rfl⟩ other standing
      have same := resolved.symm.trans (lookup_firstFor.mpr standing)
      cases same
      exact supported
    · intro serves
      exact serves first rfl adapter found

/-! ## A provider of two kinds -/

theorem ipc_named : "ipc" ≠ "" := by decide
theorem chat_named : "chat" ≠ "" := by decide

/-- The local provider with a chat binding behind its first one. -/
def chatProvider : ExecutionProviderCard :=
  { DispatchOnce.localProvider with
    bindings := [
      { kind := .localIpc, endpointRef := "ipc", bindingId := some "bind.ipc", addressed := ipc_named },
      { kind := .chat, endpointRef := "chat", bindingId := some "bind.chat",
        addressed := chat_named }] }

theorem cap_identifier : Source.Runtime.matchesId "cap.1" := by decide

/-- A registry whose capability is served over bindings of one kind. -/
def servedOver (kind : BindingType) : Registry where
  providers := ⟨[("prov.1", chatProvider)], by decide⟩
  capabilities := ⟨[("cap.1", ⟨⟨"cap.1", cap_identifier⟩, "1.0.0", .idempotent, .free, [kind]⟩)],
    List.nodup_singleton _⟩

def ipcBinding : Binding where
  kind := .localIpc
  endpointRef := "ipc"
  bindingId := some "bind.ipc"
  addressed := ipc_named

def chatBinding : Binding where
  kind := .chat
  endpointRef := "chat"
  bindingId := some "bind.chat"
  addressed := chat_named

/-- The call for the route over a binding. -/
def callOver (bindingId : String) (valid : Source.Runtime.matchesId bindingId) : DispatchCall :=
  { DispatchOnce.commandFor DispatchOnce.summarize with
    provider := chatProvider
    receipt := { DispatchOnce.routedReceipt with binding := some ⟨bindingId, valid⟩ } }

def chatCall : DispatchCall := callOver "bind.chat" (by decide)

def ipcCall : DispatchCall := callOver "bind.ipc" (by decide)

def ipcAdapter : ExecutionAdapter := ⟨"fake.1", ["LOCAL_IPC"]⟩

def bothAdapters : AdapterRegistry :=
  ⟨[("fake.1", ipcAdapter), ("chat.1", ⟨"chat.1", ["CHAT"]⟩)], by decide⟩

theorem chatCall_routed : RoutedCall (servedOver .chat) DispatchOnce.summarize chatBinding chatCall :=
  ⟨by decide, ⟨"receipt.1", none, by decide⟩, rfl⟩

theorem ipcCall_routed : RoutedCall (servedOver .localIpc) DispatchOnce.summarize ipcBinding ipcCall :=
  ⟨by decide, ⟨"receipt.1", none, by decide⟩, rfl⟩

theorem chatCall_invokes :
    @Invokes DispatchOnce.unusedClock bothAdapters DispatchOnce.runLeases chatCall ipcAdapter :=
  @Invokes.dispatch DispatchOnce.unusedClock _ _ _ _ {} DispatchOnce.accepting (by decide)
    (by decide)

theorem ipcCall_invokes :
    @Invokes DispatchOnce.unusedClock bothAdapters DispatchOnce.runLeases ipcCall ipcAdapter :=
  @Invokes.dispatch DispatchOnce.unusedClock _ _ _ _ {} DispatchOnce.accepting (by decide)
    (by decide)

/-- The chat binding is selected and the local adapter is called. -/
theorem chat_over_ipc :
    ¬ ∀ (registry : Registry) (request : ExecutionRequest) (binding : Binding)
      (adapters : AdapterRegistry) (leases : Dict String WorkLease) (call : DispatchCall)
      (adapter : ExecutionAdapter), RoutedCall registry request binding call →
        @Invokes DispatchOnce.unusedClock adapters leases call adapter →
          binding.kind.value ∈ adapter.supportedBindingTypes := by
  intro supports
  have served := supports _ _ _ _ _ _ _ chatCall_routed chatCall_invokes
  exact absurd served (by decide)

/-- The local binding is selected and the local adapter is called. -/
theorem invoked_supports_ipc :
    "LOCAL_IPC" ∈ ipcAdapter.supportedBindingTypes ↔
      FirstKindServes bothAdapters chatProvider ipcBinding :=
  @invoked_supports_iff DispatchOnce.unusedClock _ _ _ _ _ _ _ ipcCall_routed ipcCall_invokes

end DwSuperApps.Guarantees.AdapterChoice
