import DwSuperApps.Source.ProviderRegistry
import Mathlib.Data.Set.Finite.Lemmas
import Mathlib.Data.Set.Finite.List

/-!
# The provider that is selected

Selection (`select`) over the registries that can be built (`build_registry`).

* eligibility is the conjunction of its conditions (`providerEligibility_none`);
* the provider that is selected is eligible and of least rank among the eligible ones, the
  second pass is made only where the first has no candidate, and nothing is selected exactly
  where neither has one (`select_choice`);
* the order of registration does not matter exactly where the cards under the best provider's
  id are eligible together (`registration_order`).
-/
namespace DwSuperApps.Guarantees.ProviderChoice

open DwSuperApps.Lib DwSuperApps.Lib.Checked DwSuperApps.Lib.Sorted
open DwSuperApps.Source.Routing DwSuperApps.Source.ProviderRegistry

/-! ## Eligibility -/

/-- The environment of a provider has what the request requires. -/
def EnvironmentFits (provider : ExecutionProviderCard) (requirement : EnvironmentRequirement) : Prop :=
  match provider.environment with
  | none => requiresEnv requirement = false
  | some env =>
    (given requirement.os → env.os = requirement.os) ∧
      (given requirement.runtime → env.runtime = requirement.runtime) ∧
      (given requirement.arch → env.arch = requirement.arch) ∧
      (∀ capability ∈ requirement.capabilities, capability ∈ env.capabilities) ∧
      ∀ required ∈ requirement.minMemoryMb, 0 < required →
        ∃ memory ∈ intOf (Json.get env.metadata "memory_mb"), required ≤ memory

def LocalityFits (provider : ExecutionProviderCard) : Locality → Prop
  | .any => True
  | .local => isLocal provider
  | .remote => ¬ isLocal provider

/-- The registered capability is what the request requires, and the provider has a binding of a
kind it supports. -/
def CapabilityFits (provider : ExecutionProviderCard) (requirement : CapabilityRequirement)
    (card : CapabilityCard) : Prop :=
  (∀ version ∈ requirement.minVersion, satisfiesMinVersion card.version version = .ok true) ∧
    (∀ idempotency ∈ requirement.idempotency, idempotency = card.idempotency) ∧
    (∀ costClass ∈ requirement.costClass, costClass = card.costClass) ∧
    ∃ binding ∈ provider.bindings,
      card.supportedBindingTypes = [] ∨ binding.kind ∈ card.supportedBindingTypes

structure Eligible (registry : Registry) (request : ExecutionRequest)
    (provider : ExecutionProviderCard) : Prop where
  listed : ∃ ref ∈ provider.capabilityRefs, ref.text = request.capabilityRequirements.capabilityId
  capability : ∃ card ∈ registry.getCapability request.capabilityRequirements.capabilityId,
    CapabilityFits provider request.capabilityRequirements card
  environment : EnvironmentFits provider request.environmentRequirements
  locality : LocalityFits provider request.routingPreferences.locality

section Eligibility
variable {registry : Registry} {request : ExecutionRequest} {provider : ExecutionProviderCard}

theorem firstReason_none {reasons : List (Option String)} :
    firstReason reasons = none ↔ ∀ reason ∈ reasons, reason = none := by
  unfold firstReason
  rw [List.findSome?_eq_none_iff]
  rfl

theorem bind_none {α : Type} {x : Option α} {f : α → Option String} :
    x.bind f = none ↔ ∀ a ∈ x, f a = none := by
  cases x <;> simp

theorem checkMinVersion_none {capId : String} {card : CapabilityCard} {version : String} :
    checkMinVersion capId card version = none ↔
      satisfiesMinVersion card.version version = .ok true := by
  unfold checkMinVersion
  split
  · next failed => simp [failed]
  · next below => simp [below]
  · next enough => simp [enough]

theorem checkAttr_none {attr : String} {required provided : Option String} :
    checkAttr attr required provided = none ↔ (given required → provided = required) := by
  unfold checkAttr
  split
  · next differs => simpa using differs
  · next fits => simpa using fits

theorem checkMemory_none {env : EnvironmentInfo} {required : Int} :
    checkMemory provider env required = none ↔
      (0 < required → ∃ memory ∈ intOf (Json.get env.metadata "memory_mb"), required ≤ memory) := by
  unfold checkMemory
  by_cases free : required ≤ 0
  · simp [free, not_lt.mpr free]
  · rw [if_neg free]
    have asked : 0 < required := by omega
    cases intOf (Json.get env.metadata "memory_mb") with
    | none => simp [asked]
    | some memory =>
      by_cases short : memory < required
      · simp [asked, short]
      · simp [asked, short, not_lt.mp short]

theorem checkEnvironment_none {requirement : EnvironmentRequirement} :
    checkEnvironment provider requirement = none ↔ EnvironmentFits provider requirement := by
  unfold checkEnvironment EnvironmentFits
  cases provider.environment with
  | none => simp
  | some env =>
    simp only [firstReason_none, List.forall_mem_cons, List.not_mem_nil, false_imp_iff, implies_true,
      and_true, checkAttr_none, bind_none, checkMemory_none]
    simp [List.filter_eq_nil_iff]

theorem checkLocality_none {pref : RoutingPref} :
    checkLocality provider pref = none ↔ LocalityFits provider pref.locality := by
  unfold checkLocality LocalityFits
  cases pref.locality <;> simp

theorem eligibleBindings_nil {card : CapabilityCard} :
    eligibleBindings provider card = [] ↔ ¬ ∃ binding ∈ provider.bindings,
      card.supportedBindingTypes = [] ∨ binding.kind ∈ card.supportedBindingTypes := by
  rw [List.eq_nil_iff_forall_not_mem]
  simp only [eligibleBindings, mem_sortedBy, List.mem_filter, decide_eq_true_eq, not_exists]

theorem checkCapability_none {requirement : CapabilityRequirement} :
    checkCapability provider requirement registry = none ↔
      (∃ ref ∈ provider.capabilityRefs, ref.text = requirement.capabilityId) ∧
      ∃ card ∈ registry.getCapability requirement.capabilityId,
        (∀ version ∈ requirement.minVersion,
          satisfiesMinVersion card.version version = .ok true) ∧
        (∀ idempotency ∈ requirement.idempotency, idempotency = card.idempotency) ∧
        ∀ costClass ∈ requirement.costClass, costClass = card.costClass := by
  unfold checkCapability
  by_cases absent : ∀ ref ∈ provider.capabilityRefs, ref.text ≠ requirement.capabilityId
  · simp only [if_pos absent, reduceCtorEq, false_iff, not_and]
    rintro ⟨ref, member, same⟩
    exact absurd same (absent ref member)
  · simp only [if_neg absent]
    push Not at absent
    cases registry.getCapability requirement.capabilityId with
    | none => simp
    | some card =>
      simp only [firstReason_none, List.forall_mem_cons, List.not_mem_nil, false_imp_iff, implies_true,
        and_true, bind_none, checkMinVersion_none, absent, true_and, Option.mem_def,
        Option.some.injEq, exists_eq_left', ite_eq_left_iff, reduceCtorEq, imp_false, not_not]

theorem providerEligibility_none :
    providerEligibility provider request registry = none ↔ Eligible registry request provider := by
  unfold providerEligibility
  simp only [firstReason_none, List.forall_mem_cons, List.not_mem_nil, false_imp_iff, implies_true,
    and_true, checkCapability_none, checkEnvironment_none, checkLocality_none, bind_none]
  constructor
  · rintro ⟨⟨listed, card, registered, version, idempotency, cost⟩, environment, locality, bindings⟩
    have bound := bindings card registered
    rw [ite_eq_right_iff, imp_iff_not (Option.some_ne_none _), eligibleBindings_nil, not_not] at bound
    exact ⟨listed, ⟨card, registered, version, idempotency, cost, bound⟩, environment, locality⟩
  · rintro ⟨listed, ⟨card, registered, version, idempotency, cost, bound⟩, environment, locality⟩
    refine ⟨⟨listed, card, registered, version, idempotency, cost⟩, environment, locality, ?_⟩
    intro other found
    obtain rfl := Option.some.inj (registered.symm.trans found)
    exact if_neg fun empty => eligibleBindings_nil.mp empty bound

end Eligibility

/-! ## Candidates -/

section Candidates
variable {registry : Registry} {request pass : ExecutionRequest} {provider : ExecutionProviderCard}
  {binding : Binding}

/-- Every provider is registered under its own id. -/
def Keyed (registry : Registry) : Prop :=
  ∀ id provider, registry.getProvider id = some provider → provider.providerId.text = id

/-- A registered provider that is eligible for the request. -/
def Candidate (registry : Registry) (request : ExecutionRequest) (provider : ExecutionProviderCard) :
    Prop :=
  registry.getProvider provider.providerId.text = some provider ∧ Eligible registry request provider

/-- The first of the eligible bindings, which is the least by kind, id and endpoint. -/
def FirstBinding (registry : Registry) (request : ExecutionRequest)
    (provider : ExecutionProviderCard) (binding : Binding) : Prop :=
  ∃ card ∈ registry.getCapability request.capabilityRequirements.capabilityId,
    binding ∈ (eligibleBindings provider card).head?

theorem mem_providers (keyed : Keyed registry) :
    provider ∈ registry.providerIds.filterMap registry.getProvider ↔
      registry.getProvider provider.providerId.text = some provider := by
  rw [List.mem_filterMap]
  constructor
  · rintro ⟨id, -, found⟩
    rwa [keyed id provider found]
  · intro found
    refine ⟨provider.providerId.text, ?_, found⟩
    rw [Registry.providerIds, List.mem_insertionSort, List.mem_map]
    exact ⟨_, Dict.get?_eq_some.mp found, rfl⟩

theorem eligiblePair_some {pair : ExecutionProviderCard × Binding} :
    eligiblePair registry request provider = some pair ↔
      Eligible registry request provider ∧ pair.1 = provider ∧
        FirstBinding registry request provider pair.2 := by
  unfold eligiblePair FirstBinding
  rw [← providerEligibility_none]
  cases providerEligibility provider request registry with
  | some reason => simp
  | none =>
    obtain ⟨chosen, binding⟩ := pair
    simp only [Option.bind_eq_bind, Option.bind_eq_some_iff, Option.pure_def, Option.some.injEq,
      Prod.mk.injEq, true_and, Option.mem_def]
    constructor
    · rintro ⟨card, registered, first, found, rfl, rfl⟩
      exact ⟨rfl, card, registered, found⟩
    · rintro ⟨rfl, card, registered, found⟩
      exact ⟨card, registered, binding, found, rfl, rfl⟩

/-- The pairs of a pass are the candidates with their first bindings. -/
theorem mem_pairs (keyed : Keyed registry) {pair : ExecutionProviderCard × Binding} :
    pair ∈ eligibleProviderBindingPairs registry request ↔
      Candidate registry request pair.1 ∧ FirstBinding registry request pair.1 pair.2 := by
  unfold eligibleProviderBindingPairs Candidate
  rw [List.mem_filterMap]
  constructor
  · rintro ⟨provider, member, found⟩
    obtain ⟨eligible, rfl, first⟩ := eligiblePair_some.mp found
    exact ⟨⟨(mem_providers keyed).mp member, eligible⟩, first⟩
  · rintro ⟨⟨registered, eligible⟩, first⟩
    exact ⟨pair.1, (mem_providers keyed).mpr registered, eligiblePair_some.mpr ⟨eligible, rfl, first⟩⟩

/-- An eligible provider has a first binding. -/
theorem exists_firstBinding (eligible : Eligible registry request provider) :
    ∃ binding, FirstBinding registry request provider binding := by
  obtain ⟨card, registered, -, -, -, bound⟩ := eligible.capability
  cases bindings : eligibleBindings provider card with
  | nil => exact absurd bound (eligibleBindings_nil.mp bindings)
  | cons first rest => exact ⟨first, card, registered, by rw [bindings]; rfl⟩

theorem pairs_nil (keyed : Keyed registry) :
    eligibleProviderBindingPairs registry request = [] ↔
      ∀ provider, ¬ Candidate registry request provider := by
  rw [List.eq_nil_iff_forall_not_mem]
  constructor
  · intro empty provider candidate
    obtain ⟨binding, first⟩ := exists_firstBinding candidate.2
    exact empty (provider, binding) ((mem_pairs keyed).mpr ⟨candidate, first⟩)
  · intro none pair member
    exact none pair.1 ((mem_pairs keyed).mp member).1

/-- A candidate of least rank, under the preferred kinds of the request. -/
structure Best (registry : Registry) (request pass : ExecutionRequest)
    (provider : ExecutionProviderCard) : Prop where
  candidate : Candidate registry pass provider
  least : ∀ other, Candidate registry pass other →
    rankKey request.routingPreferences.preferredKinds provider ≤
      rankKey request.routingPreferences.preferredKinds other

/-- The first of the ranked pairs has the least rank. -/
theorem head_rankPairs {pairs rest : List (ExecutionProviderCard × Binding)}
    {first : ExecutionProviderCard × Binding} (ranked : rankPairs pairs request = first :: rest) :
    first ∈ pairs ∧ ∀ pair ∈ pairs, rankKey request.routingPreferences.preferredKinds first.1 ≤
      rankKey request.routingPreferences.preferredKinds pair.1 := by
  have sorted : (rankPairs pairs request).Pairwise fun a b =>
      rankKey request.routingPreferences.preferredKinds a.1 ≤
        rankKey request.routingPreferences.preferredKinds b.1 := pairwise_sortedBy
  rw [ranked] at sorted
  have member : ∀ pair, pair ∈ pairs ↔ pair ∈ first :: rest := fun pair => by
    rw [← ranked]
    exact mem_sortedBy.symm
  refine ⟨(member first).mpr List.mem_cons_self, fun pair inside => ?_⟩
  rcases List.mem_cons.mp ((member pair).mp inside) with rfl | later
  · exact le_rfl
  · exact (List.pairwise_cons.mp sorted).1 pair later

/-- The first of the ranked pairs of a pass is the best one. -/
theorem best_of_head (keyed : Keyed registry)
    {pairs rest : List (ExecutionProviderCard × Binding)} {first : ExecutionProviderCard × Binding}
    (all : ∀ pair, pair ∈ pairs ↔ pair ∈ eligibleProviderBindingPairs registry pass)
    (ranked : rankPairs pairs request = first :: rest) :
    Best registry request pass first.1 ∧ FirstBinding registry pass first.1 first.2 := by
  obtain ⟨member, least⟩ := head_rankPairs ranked
  obtain ⟨candidate, binding⟩ := (mem_pairs keyed).mp ((all first).mp member)
  refine ⟨⟨candidate, fun other also => ?_⟩, binding⟩
  obtain ⟨bound, firstBinding⟩ := exists_firstBinding also.2
  exact least (other, bound) ((all _).mpr ((mem_pairs keyed).mpr ⟨also, firstBinding⟩))

theorem rankPairs_nil {pairs : List (ExecutionProviderCard × Binding)} :
    rankPairs pairs request = [] ↔ pairs = [] := by
  rw [List.eq_nil_iff_forall_not_mem, List.eq_nil_iff_forall_not_mem]
  simp only [rankPairs, mem_sortedBy]

/-! ## Selection -/

/-- A second pass is asked for. -/
def FallbackAllowed (request : ExecutionRequest) : Prop :=
  request.routingPreferences.locality = .local ∧ request.routingPreferences.remoteFallback

instance (request : ExecutionRequest) : Decidable (FallbackAllowed request) := by
  unfold FallbackAllowed
  infer_instance

/-- What is selected is the best provider of the pass that serves the request. -/
structure Choice (registry : Registry) (request pass : ExecutionRequest)
    (chosen : ExecutionProviderCard × Binding) : Prop where
  best : Best registry request pass chosen.1
  bound : FirstBinding registry pass chosen.1 chosen.2

theorem mem_fallbackPairs {pair : ExecutionProviderCard × Binding} :
    pair ∈ fallbackPairs registry request ↔ FallbackAllowed request ∧
      pair ∈ eligibleProviderBindingPairs registry (fallbackRequest request) := by
  unfold fallbackPairs
  split
  · next allowed => exact ⟨fun member => ⟨allowed, member⟩, And.right⟩
  · next refused => exact ⟨fun member => absurd member List.not_mem_nil, fun both => absurd both.1 refused⟩

theorem unregistered_capability
    (absent : registry.getCapability request.capabilityRequirements.capabilityId = none)
    (same : pass.capabilityRequirements = request.capabilityRequirements) :
    ¬ Candidate registry pass provider := by
  rintro ⟨-, eligible⟩
  obtain ⟨card, registered, -⟩ := eligible.capability
  rw [same, absent] at registered
  cases registered

/-- Either the first pass has a best candidate, or only the second has one, or nothing is
selected. -/
theorem select_cases (keyed : Keyed registry) (request : ExecutionRequest) :
    (∃ chosen, select registry request = .ok chosen ∧ Choice registry request request chosen) ∨
    ((∀ provider, ¬ Candidate registry request provider) ∧ FallbackAllowed request ∧
      ∃ chosen, select registry request = .ok chosen ∧
        Choice registry request (fallbackRequest request) chosen) ∨
    ((∀ provider, ¬ Candidate registry request provider) ∧
      (FallbackAllowed request → ∀ provider, ¬ Candidate registry (fallbackRequest request) provider) ∧
      ∃ reason, select registry request = .error (routingNoRoute reason)) := by
  unfold select
  dsimp only
  cases capability : registry.getCapability request.capabilityRequirements.capabilityId with
  | none =>
    exact .inr (.inr ⟨fun _ => unregistered_capability capability rfl,
      fun _ _ => unregistered_capability capability rfl, _, rfl⟩)
  | some card =>
    cases primary : rankPairs (eligibleProviderBindingPairs registry request) request with
    | cons first rest =>
      obtain ⟨best, bound⟩ := best_of_head keyed (fun _ => Iff.rfl) primary
      exact .inl ⟨first, rfl, best, bound⟩
    | nil =>
      have none := (pairs_nil keyed).mp (rankPairs_nil.mp primary)
      cases second : rankPairs (rankPairs (fallbackPairs registry request) request) request with
      | cons first rest =>
        have allowed : FallbackAllowed request := by
          have member := (head_rankPairs second).1
          rw [rankPairs, mem_sortedBy] at member
          exact (mem_fallbackPairs.mp member).1
        have all : ∀ pair, pair ∈ rankPairs (fallbackPairs registry request) request ↔
            pair ∈ eligibleProviderBindingPairs registry (fallbackRequest request) := fun pair => by
          rw [rankPairs, mem_sortedBy, mem_fallbackPairs]
          exact and_iff_right allowed
        obtain ⟨best, bound⟩ := best_of_head keyed all second
        exact .inr (.inl ⟨none, allowed, first, rfl, best, bound⟩)
      | nil =>
        refine .inr (.inr ⟨none, fun allowed => ?_, _, rfl⟩)
        rw [← pairs_nil keyed, List.eq_nil_iff_forall_not_mem]
        have empty := rankPairs_nil.mp (rankPairs_nil.mp second)
        exact fun pair member => List.not_mem_nil (empty ▸ mem_fallbackPairs.mpr ⟨allowed, member⟩)

/-- What the selection from one registry promises. -/
structure SelectsBest (registry : Registry) (request : ExecutionRequest) : Prop where
  best : ∀ chosen, select registry request = .ok chosen →
    Choice registry request request chosen ∨
      (∀ provider, ¬ Candidate registry request provider) ∧ FallbackAllowed request ∧
        Choice registry request (fallbackRequest request) chosen
  raises : (∃ failure, select registry request = .error failure) ↔
    (∀ provider, ¬ Candidate registry request provider) ∧
      (FallbackAllowed request → ∀ provider, ¬ Candidate registry (fallbackRequest request) provider)

theorem select_choice (keyed : Keyed registry) (request : ExecutionRequest) :
    SelectsBest registry request := by
  rcases select_cases keyed request with
    ⟨chosen, result, choice⟩ | ⟨none, allowed, chosen, result, choice⟩ | ⟨none, neither, reason, result⟩
  · refine ⟨fun other same => ?_, iff_of_false ?_ fun none => none.1 _ choice.best.candidate⟩
    · obtain rfl := Except.ok.inj (result.symm.trans same)
      exact .inl choice
    · rintro ⟨failure, failed⟩
      rw [result] at failed
      cases failed
  · refine ⟨fun other same => ?_, iff_of_false ?_ fun both => both.2 allowed _ choice.best.candidate⟩
    · obtain rfl := Except.ok.inj (result.symm.trans same)
      exact .inr ⟨none, allowed, choice⟩
    · rintro ⟨failure, failed⟩
      rw [result] at failed
      cases failed
  · refine ⟨fun other same => ?_, iff_of_true ⟨_, result⟩ ⟨none, neither⟩⟩
    rw [result] at same
    cases same

/-! ## The id that is selected -/

/-- The id of the provider that is selected, if one is. -/
def chosenId (registry : Registry) (request : ExecutionRequest) : Option String :=
  match select registry request with
  | .ok chosen => some chosen.1.providerId.text
  | .error _ => none

theorem chosenId_ok {chosen : ExecutionProviderCard × Binding}
    (result : select registry request = .ok chosen) :
    chosenId registry request = some chosen.1.providerId.text := by
  rw [chosenId, result]

theorem id_of_rankKey {preferred : List ProviderKind} {p q : ExecutionProviderCard}
    (same : rankKey preferred p = rankKey preferred q) : p.providerId.text = q.providerId.text := by
  unfold rankKey at same
  simp only [toLex_inj, Prod.mk.injEq] at same
  exact same.2.2.2

theorem best_id {p q : ExecutionProviderCard} (first : Best registry request pass p)
    (second : Best registry request pass q) : p.providerId.text = q.providerId.text :=
  id_of_rankKey (le_antisymm (first.least q second.candidate) (second.least p first.candidate))

theorem chosenId_of_best (keyed : Keyed registry) (best : Best registry request request provider) :
    chosenId registry request = some provider.providerId.text := by
  rcases select_cases keyed request with
    ⟨chosen, result, choice⟩ | ⟨none, -⟩ | ⟨none, -⟩
  · rw [chosenId_ok result, best_id choice.best best]
  · exact absurd best.candidate (none _)
  · exact absurd best.candidate (none _)

theorem chosenId_of_fallback (keyed : Keyed registry)
    (none : ∀ provider, ¬ Candidate registry request provider) (allowed : FallbackAllowed request)
    (best : Best registry request (fallbackRequest request) provider) :
    chosenId registry request = some provider.providerId.text := by
  rcases select_cases keyed request with
    ⟨chosen, -, choice⟩ | ⟨-, -, chosen, result, choice⟩ | ⟨-, neither, -⟩
  · exact absurd choice.best.candidate (none _)
  · rw [chosenId_ok result, best_id choice.best best]
  · exact absurd best.candidate (neither allowed _)

theorem chosenId_none (keyed : Keyed registry)
    (none : ∀ provider, ¬ Candidate registry request provider)
    (neither : FallbackAllowed request →
      ∀ provider, ¬ Candidate registry (fallbackRequest request) provider) :
    chosenId registry request = .none := by
  obtain ⟨failure, failed⟩ := (select_choice keyed request).raises.mpr ⟨none, neither⟩
  rw [chosenId, failed]

/-- The id that is selected is of a registered provider which is eligible in one of the
passes. -/
theorem chosenId_some (keyed : Keyed registry) {id : String}
    (chosen : chosenId registry request = some id) :
    ∃ provider, registry.getProvider id = some provider ∧
      (Eligible registry request provider ∨ Eligible registry (fallbackRequest request) provider) := by
  unfold chosenId at chosen
  cases result : select registry request with
  | error failure =>
    rw [result] at chosen
    cases chosen
  | ok pair =>
    rw [result] at chosen
    cases chosen
    rcases (select_choice keyed request).best pair result with choice | ⟨-, -, choice⟩
    · exact ⟨pair.1, choice.best.candidate.1, .inl choice.best.candidate.2⟩
    · exact ⟨pair.1, choice.best.candidate.1, .inr choice.best.candidate.2⟩

end Candidates

/-! ## Cards that count as the same -/

section Registration
variable [FloatValues]

theorem member_integralMembers (members : List (String × Json)) (name : String) :
    Json.member (integralMembers members) name = (Json.member members name).map integral := by
  induction members with
  | nil => rfl
  | cons first rest ih =>
    obtain ⟨other, value⟩ := first
    rw [integralMembers, Json.member_cons, Json.member_cons, ih]
    split <;> rfl

/-- Only a text counts as the same as it. -/
theorem str_of_integral {value : Json} {text : String} :
    (integral value).sortKeys = .str text ↔ value = .str text := by
  cases value with
  | float shown => cases found : FloatValues.integer shown <;> simp [integral, found, Json.sortKeys]
  | _ => simp [integral, Json.sortKeys]

/-- Objects that count as the same have the same texts. -/
theorem get_str_of_comparable {a b : List (String × Json)}
    (same : comparableMembers a = comparableMembers b) (name text : String) :
    Json.get a name = .str text ↔ Json.get b name = .str text := by
  have members : (Json.member a name).map (fun v => (integral v).sortKeys) =
      (Json.member b name).map fun v => (integral v).sortKeys := by
    have held := congrArg (Json.member · name) same
    simpa only [comparableMembers, Json.member_sortMembers, member_integralMembers,
      Option.map_map, Function.comp_def] using held
  have text_iff : ∀ m : List (String × Json), Json.get m name = .str text ↔
      (Json.member m name).map (fun v => (integral v).sortKeys) = some (.str text) := by
    intro m
    unfold Json.get
    cases Json.member m name with
    | none => simp
    | some value => simp [str_of_integral]
  rw [text_iff, text_iff, members]

variable {a b : ProviderEntry}

theorem sameProvider_card (same : SameProvider a b) :
    a.comparable.card = b.comparable.card := congrArg ProviderEntry.card same

theorem sameProvider_rankKey (same : SameProvider a b) (preferred : List ProviderKind) :
    rankKey preferred a.card = rankKey preferred b.card := by
  have card := sameProvider_card same
  have id := congrArg ExecutionProviderCard.providerId card
  have kind := congrArg ExecutionProviderCard.providerKind card
  have trust := congrArg ExecutionProviderCard.trustTier card
  have cost := congrArg ExecutionProviderCard.costClass card
  simp only [ProviderEntry.comparable] at id kind trust cost
  simp only [rankKey, preferredKindRank, id, kind, trust, cost]

theorem sameProvider_isLocal (same : SameProvider a b) : isLocal a.card ↔ isLocal b.card := by
  have card := sameProvider_card same
  have kind := congrArg ExecutionProviderCard.providerKind card
  have environment := congrArg ExecutionProviderCard.environment card
  simp only [ProviderEntry.comparable] at kind environment
  unfold isLocal
  rw [kind]
  refine or_congr_right ?_
  unfold envLocality
  cases left : a.card.environment with
  | none =>
    rw [left, Option.map_none, eq_comm, Option.map_eq_none_iff] at environment
    rw [environment]
  | some env =>
    rw [left, Option.map_some, eq_comm, Option.map_eq_some_iff] at environment
    obtain ⟨other, right, alike⟩ := environment
    rw [right]
    exact get_str_of_comparable (congrArg EnvironmentInfo.metadata alike).symm _ _

theorem sameProvider_locality (same : SameProvider a b) (locality : Locality) :
    LocalityFits a.card locality ↔ LocalityFits b.card locality := by
  unfold LocalityFits
  cases locality with
  | any => rfl
  | «local» => exact sameProvider_isLocal same
  | remote => exact not_congr (sameProvider_isLocal same)

/-! ## Registries -/

variable {ps ps' : List ProviderEntry} {cs cs' : List CapabilityEntry} {r r' : Registry}

theorem sameProvider_equivalence : Equivalence SameProvider :=
  ⟨fun _ => rfl, Eq.symm, Eq.trans⟩

/-- A registry holds the first card of each id; cards of one id are all the same. -/
structure Built (ps : List ProviderEntry) (cs : List CapabilityEntry) (r : Registry) : Prop where
  provider : ∀ id, r.getProvider id = (ps.find? fun p => providerKey p = id).map (·.card)
  capability : ∀ id, r.getCapability id = (cs.find? fun c => capabilityKey c = id).map (·.card)
  alike : ∀ p ∈ ps, ∀ q ∈ ps, providerKey p = providerKey q → SameProvider p q
  equal : ∀ c ∈ cs, ∀ d ∈ cs, capabilityKey c = capabilityKey d → c = d

theorem buildRegistry_built (built : buildRegistry ps cs = .ok r) : Built ps cs r := by
  obtain ⟨prov, providers, later⟩ := bind_ok.mp built
  obtain ⟨caps, capabilities, made⟩ := bind_ok.mp later
  cases made
  refine ⟨fun id => ?_, fun id => ?_,
    (FirstWins.registerAll_iff sameProvider_equivalence).mp ⟨prov, providers⟩,
    (FirstWins.registerAll_iff eq_equivalence).mp ⟨caps, capabilities⟩⟩
  · rw [Registry.getProvider, Dict.get?_map, FirstWins.get?_registerAll providers, Dict.get?_empty,
      Option.none_or]
  · rw [Registry.getCapability, Dict.get?_map, FirstWins.get?_registerAll capabilities,
      Dict.get?_empty, Option.none_or]

/-- The cards can be registered in every order. -/
theorem buildRegistry_perm (built : buildRegistry ps cs = .ok r) (providers : ps'.Perm ps)
    (capabilities : cs'.Perm cs) : ∃ other, buildRegistry ps' cs' = .ok other := by
  obtain ⟨prov, first, later⟩ := bind_ok.mp built
  obtain ⟨caps, second, -⟩ := bind_ok.mp later
  obtain ⟨prov', first'⟩ := FirstWins.registerAll_perm sameProvider_equivalence providers first
  obtain ⟨caps', second'⟩ := FirstWins.registerAll_perm eq_equivalence capabilities second
  exact ⟨_, bind_ok.mpr ⟨prov', first', bind_ok.mpr ⟨caps', second', rfl⟩⟩⟩

theorem Built.keyed (built : Built ps cs r) : Keyed r := by
  intro id provider found
  rw [built.provider, Option.map_eq_some_iff] at found
  obtain ⟨entry, first, rfl⟩ := found
  have key : providerKey entry = id := by simpa using List.find?_some first
  exact key

/-- What is registered under the id of an entry. -/
theorem Built.getProvider_of_mem (built : Built ps cs r) {p : ProviderEntry} (member : p ∈ ps) :
    ∃ q ∈ ps, providerKey q = providerKey p ∧ r.getProvider (providerKey p) = some q.card := by
  have some : (ps.find? fun q => providerKey q = providerKey p).isSome := by
    rw [List.find?_isSome]
    exact ⟨p, member, by simp⟩
  obtain ⟨q, found⟩ := Option.isSome_iff_exists.mp some
  refine ⟨q, List.mem_of_find?_eq_some found, by simpa using List.find?_some found, ?_⟩
  rw [built.provider, found, Option.map_some]

theorem Built.mem_of_getProvider (built : Built ps cs r) {id : String}
    {provider : ExecutionProviderCard} (found : r.getProvider id = some provider) :
    ∃ p ∈ ps, p.card = provider ∧ providerKey p = id := by
  rw [built.provider, Option.map_eq_some_iff] at found
  obtain ⟨p, first, rfl⟩ := found
  exact ⟨p, List.mem_of_find?_eq_some first, rfl, by simpa using List.find?_some first⟩

/-- Registries of the same cards have the same capabilities. -/
theorem Built.getCapability_perm (built : Built ps cs r) (other : Built ps' cs' r')
    (same : cs'.Perm cs) (id : String) : r'.getCapability id = r.getCapability id := by
  rw [other.capability, built.capability]
  refine congrArg _ (Option.ext fun c => ?_)
  have found : ∀ {l : List CapabilityEntry},
      (∀ c ∈ l, ∀ d ∈ l, capabilityKey c = capabilityKey d → c = d) →
      ((l.find? fun d => capabilityKey d = id) = some c ↔ c ∈ l ∧ capabilityKey c = id) := by
    intro l equal
    constructor
    · intro first
      exact ⟨List.mem_of_find?_eq_some first, by simpa using List.find?_some first⟩
    · rintro ⟨member, rfl⟩
      obtain ⟨d, first⟩ := Option.isSome_iff_exists.mp
        (List.find?_isSome.mpr ⟨c, member, by simp⟩ :
          (l.find? fun d => capabilityKey d = capabilityKey c).isSome)
      have key : capabilityKey d = capabilityKey c := by simpa using List.find?_some first
      rw [first, equal d (List.mem_of_find?_eq_some first) c member key]
  rw [found other.equal, found built.equal, same.mem_iff]

omit [FloatValues] in
theorem eligible_congr {pass : ExecutionRequest} {provider : ExecutionProviderCard}
    (same : ∀ id, r'.getCapability id = r.getCapability id) :
    Eligible r' pass provider ↔ Eligible r pass provider := by
  constructor <;>
  · rintro ⟨listed, capability, environment, locality⟩
    refine ⟨listed, ?_, environment, locality⟩
    simpa only [same] using capability

/-! ## Order of registration -/

/-- An entry that is eligible in a pass, of least rank among the eligible ones. -/
structure BestEntry (r : Registry) (request pass : ExecutionRequest) (ps : List ProviderEntry)
    (p : ProviderEntry) : Prop where
  member : p ∈ ps
  eligible : Eligible r pass p.card
  least : ∀ q ∈ ps, Eligible r pass q.card →
    rankKey request.routingPreferences.preferredKinds p.card ≤
      rankKey request.routingPreferences.preferredKinds q.card

/-- With a best entry all cards of its id are eligible. -/
def Settled (r : Registry) (request pass : ExecutionRequest) (ps : List ProviderEntry) : Prop :=
  ∀ p, BestEntry r request pass ps p → ∀ q ∈ ps, providerKey q = providerKey p →
    Eligible r pass q.card

/-- The pass that serves the request is settled. -/
def OrderFree (r : Registry) (request : ExecutionRequest) (ps : List ProviderEntry) : Prop :=
  Settled r request request ps ∧
    ((∀ p ∈ ps, ¬ Eligible r request p.card) → FallbackAllowed request →
      Settled r request (fallbackRequest request) ps)

/-- Every order of registration is accepted and selects the same id. -/
def OrderIndependent (request : ExecutionRequest) (ps : List ProviderEntry)
    (cs : List CapabilityEntry) (r : Registry) : Prop :=
  ∀ ps' cs', ps'.Perm ps → cs'.Perm cs →
    ∃ r', buildRegistry ps' cs' = .ok r' ∧ chosenId r' request = chosenId r request

variable {request pass : ExecutionRequest} {p : ProviderEntry}

omit [FloatValues] in
theorem exists_bestEntry (some : ∃ p ∈ ps, Eligible r pass p.card) :
    ∃ p, BestEntry r request pass ps p := by
  have finite : {p | p ∈ ps ∧ Eligible r pass p.card}.Finite :=
    (List.finite_toSet ps).subset fun p both => both.1
  obtain ⟨p, ⟨member, eligible⟩, least⟩ := Set.exists_min_image _
    (fun p => rankKey request.routingPreferences.preferredKinds p.card) finite some
  exact ⟨p, member, eligible, fun q inside also => least q ⟨inside, also⟩⟩

section Orders
variable (built : Built ps cs r) (other : Built ps' cs' r') (providers : ps'.Perm ps)
  (capabilities : cs'.Perm cs)
include built other providers capabilities

theorem no_candidate (none : ∀ p ∈ ps, ¬ Eligible r pass p.card) (provider : ExecutionProviderCard) :
    ¬ Candidate r' pass provider := by
  rintro ⟨registered, eligible⟩
  obtain ⟨q, member, rfl, -⟩ := other.mem_of_getProvider registered
  exact none q (providers.mem_iff.mp member)
    ((eligible_congr (built.getCapability_perm other capabilities)).mp eligible)

/-- Where the best entry's cards are all eligible, its id is the best one in every order. -/
theorem best_of_settled (best : BestEntry r request pass ps p)
    (settled : ∀ q ∈ ps, providerKey q = providerKey p → Eligible r pass q.card) :
    ∃ provider, Best r' request pass provider ∧ provider.providerId.text = providerKey p := by
  have same := built.getCapability_perm other capabilities
  obtain ⟨q, member, key, registered⟩ := other.getProvider_of_mem (providers.mem_iff.mpr best.member)
  have inside := providers.mem_iff.mp member
  refine ⟨q.card, ⟨⟨?_, (eligible_congr same).mpr (settled q inside key)⟩, ?_⟩, key⟩
  · rw [← key] at registered
    exact registered
  · rintro provider ⟨held, eligible⟩
    obtain ⟨e, entry, rfl, -⟩ := other.mem_of_getProvider held
    rw [sameProvider_rankKey (built.alike q inside p best.member key)]
    exact best.least e (providers.mem_iff.mp entry) ((eligible_congr same).mp eligible)

/-- In a settled pass the id that is selected is the one of the best entry. -/
theorem chosenId_of_settled (best : BestEntry r request request ps p)
    (settled : Settled r request request ps) : chosenId r' request = some (providerKey p) := by
  obtain ⟨provider, chosen, id⟩ := best_of_settled built other providers capabilities best
    (settled p best)
  rw [chosenId_of_best other.keyed chosen, id]

theorem chosenId_of_settled_fallback (none : ∀ p ∈ ps, ¬ Eligible r request p.card)
    (allowed : FallbackAllowed request) (best : BestEntry r request (fallbackRequest request) ps p)
    (settled : Settled r request (fallbackRequest request) ps) :
    chosenId r' request = some (providerKey p) := by
  obtain ⟨provider, chosen, id⟩ := best_of_settled built other providers capabilities best
    (settled p best)
  rw [chosenId_of_fallback other.keyed (no_candidate built other providers capabilities none) allowed
    chosen, id]

theorem chosenId_of_no_entry (none : ∀ p ∈ ps, ¬ Eligible r request p.card)
    (neither : FallbackAllowed request → ∀ p ∈ ps, ¬ Eligible r (fallbackRequest request) p.card) :
    chosenId r' request = .none :=
  chosenId_none other.keyed (no_candidate built other providers capabilities none) fun allowed =>
    no_candidate built other providers capabilities (neither allowed)

/-- Every order selects the same id where the pass that serves the request is settled. -/
theorem chosenId_eq (free : OrderFree r request ps) : chosenId r' request = chosenId r request := by
  have own := List.Perm.refl ps
  have ownCapabilities := List.Perm.refl cs
  by_cases primary : ∃ p ∈ ps, Eligible r request p.card
  · obtain ⟨p, best⟩ : ∃ p, BestEntry r request request ps p := exists_bestEntry primary
    rw [chosenId_of_settled built other providers capabilities best free.1,
      chosenId_of_settled built built own ownCapabilities best free.1]
  · push Not at primary
    by_cases second : FallbackAllowed request ∧ ∃ p ∈ ps, Eligible r (fallbackRequest request) p.card
    · obtain ⟨allowed, some⟩ := second
      obtain ⟨p, best⟩ : ∃ p, BestEntry r request (fallbackRequest request) ps p :=
        exists_bestEntry some
      have settled := free.2 primary allowed
      rw [chosenId_of_settled_fallback built other providers capabilities primary allowed best settled,
        chosenId_of_settled_fallback built built own ownCapabilities primary allowed best settled]
    · push Not at second
      rw [chosenId_of_no_entry built other providers capabilities primary second,
        chosenId_of_no_entry built built own ownCapabilities primary second]

end Orders

/-! ## An order that matters -/

theorem getProvider_first {rest : List ProviderEntry} (built : Built (p :: rest) cs r) :
    r.getProvider (providerKey p) = some p.card := by
  rw [built.provider, List.find?_cons_of_pos (by simp), Option.map_some]

/-- A best entry that is registered first is the best provider. -/
theorem best_first {rest : List ProviderEntry} (built : Built ps cs r)
    (other : Built (p :: rest) cs' r') (providers : (p :: rest).Perm ps)
    (capabilities : cs'.Perm cs) (best : BestEntry r request pass ps p) :
    Best r' request pass p.card := by
  have same := built.getCapability_perm other capabilities
  refine ⟨⟨getProvider_first other, (eligible_congr same).mpr best.eligible⟩, ?_⟩
  rintro provider ⟨held, eligible⟩
  obtain ⟨e, entry, rfl, -⟩ := other.mem_of_getProvider held
  exact best.least e (providers.mem_iff.mp entry) ((eligible_congr same).mp eligible)

omit [FloatValues] in
/-- The passes differ in the locality alone. -/
theorem eligible_of_fallback {provider : ExecutionProviderCard}
    (eligible : Eligible r (fallbackRequest request) provider)
    (locality : LocalityFits provider request.routingPreferences.locality) :
    Eligible r request provider :=
  ⟨eligible.listed, eligible.capability, eligible.environment, locality⟩

theorem orderFree_of_independent (build : buildRegistry ps cs = .ok r)
    (independent : OrderIndependent request ps cs r) : OrderFree r request ps := by
  have built := buildRegistry_built build
  have front : ∀ p ∈ ps, (p :: ps.erase p).Perm ps := fun p member => (List.perm_cons_erase member).symm
  -- the id is the one of `p` with `p` in front, so `q` in front has to be eligible
  have behind : ∀ p q, q ∈ ps → providerKey q = providerKey p →
      chosenId r request = some (providerKey p) →
      Eligible r request q.card ∨ Eligible r (fallbackRequest request) q.card := by
    intro p q inside key chosen
    obtain ⟨r', build', same⟩ := independent _ cs (front q inside) (.refl cs)
    have other := buildRegistry_built build'
    obtain ⟨provider, held, eligible⟩ := chosenId_some other.keyed (same.trans chosen)
    rw [← key, getProvider_first other] at held
    obtain rfl := Option.some.inj held
    have capabilities := built.getCapability_perm other (.refl cs)
    exact eligible.imp (eligible_congr capabilities).mp (eligible_congr capabilities).mp
  refine ⟨fun p best q inside key => ?_, fun none allowed p best q inside key => ?_⟩
  · obtain ⟨r', build', same⟩ := independent _ cs (front p best.member) (.refl cs)
    have other := buildRegistry_built build'
    have chosen := chosenId_of_best other.keyed
      (best_first built other (front p best.member) (.refl cs) best)
    rcases behind p q inside key (same.symm.trans chosen) with eligible | eligible
    · exact eligible
    · have alike := built.alike q inside p best.member key
      exact eligible_of_fallback eligible
        ((sameProvider_locality alike _).mpr best.eligible.locality)
  · obtain ⟨r', build', same⟩ := independent _ cs (front p best.member) (.refl cs)
    have other := buildRegistry_built build'
    have chosen := chosenId_of_fallback other.keyed
      (no_candidate built other (front p best.member) (.refl cs) none) allowed
      (best_first built other (front p best.member) (.refl cs) best)
    exact (behind p q inside key (same.symm.trans chosen)).resolve_left (none q inside)

/-- The best eligible provider is selected from every registry, and the same one for every order
of registration exactly where the pass that serves the request is settled. -/
theorem registration_order (build : buildRegistry ps cs = .ok r) (request : ExecutionRequest) :
    SelectsBest r request ∧ OrderIndependent request ps cs r ↔ OrderFree r request ps := by
  have built := buildRegistry_built build
  constructor
  · exact fun both => orderFree_of_independent build both.2
  · intro free
    refine ⟨select_choice built.keyed request, fun ps' cs' providers capabilities => ?_⟩
    obtain ⟨r', build'⟩ := buildRegistry_perm build providers capabilities
    exact ⟨r', build', chosenId_eq built (buildRegistry_built build') providers capabilities free⟩

end Registration

/-! ## Eight and eight point zero -/

/-- The integer of a text of digits with a zero behind the point. -/
@[reducible] def pointZero : FloatValues where
  integer text :=
    match text.toList.splitOn '.' with
    | [digits, ['0']] => some (digits.foldl (fun value c => 10 * value + (c.toNat - 48 : Nat)) 0 : Nat)
    | _ => none

/-- A local provider with the memory that is given. -/
def withMemory (memory : Json) : ProviderEntry where
  card := {
    providerId := ⟨"p", by decide⟩, providerKind := .local, capabilityRefs := [⟨"c", by decide⟩]
    environment := some { metadata := [("memory_mb", memory)] }
    bindings := [{ kind := .localIpc, endpointRef := "e" }] }
  channels := [{}]

def capability : CapabilityEntry where
  card := {
    capabilityId := ⟨"c", by decide⟩, version := "1.0.0", idempotency := .idempotent
    costClass := .free }
  name := "c"

theorem first_positive : 1 ≤ 1 := by decide
theorem f_fenced : "f" ≠ "" := by decide

/-- Four megabytes are asked for. -/
def fourMegabytes : ExecutionRequest where
  executionId := ⟨"x", by decide⟩
  contractRef := ⟨"t", by decide⟩
  attempt := 1
  attemptId := ⟨"a", by decide⟩
  fencingToken := "f"
  positive := first_positive
  fenced := f_fenced
  capabilityRequirements := { capabilityId := "c" }
  environmentRequirements := { minMemoryMb := some 4 }

/-- A registry with this provider and the capability. -/
def registryOf (memory : Json) : Registry where
  providers := { entries := [("p", (withMemory memory).card)] }
  capabilities := { entries := [("c", capability.card)] }

theorem registration_order_witness :
    SelectsBest (registryOf (.int 8)) fourMegabytes ∧
        @OrderIndependent pointZero fourMegabytes [withMemory (.int 8)] [capability]
          (registryOf (.int 8)) ↔
      OrderFree (registryOf (.int 8)) fourMegabytes [withMemory (.int 8)] :=
  @registration_order pointZero [withMemory (.int 8)] [capability] (registryOf (.int 8)) rfl
    fourMegabytes

/-- The card that comes first decides whether its provider is eligible. -/
theorem memory_order :
    @buildRegistry pointZero [withMemory (.int 8), withMemory (.float "8.0")] [capability] =
        .ok (registryOf (.int 8)) ∧
      @buildRegistry pointZero [withMemory (.float "8.0"), withMemory (.int 8)] [capability] =
        .ok (registryOf (.float "8.0")) ∧
      chosenId (registryOf (.int 8)) fourMegabytes = some "p" ∧
      chosenId (registryOf (.float "8.0")) fourMegabytes = none ∧
      ¬ ∀ ps cs r request, @buildRegistry pointZero ps cs = .ok r →
        @OrderIndependent pointZero request ps cs r := by
  have first : @buildRegistry pointZero [withMemory (.int 8), withMemory (.float "8.0")]
      [capability] = .ok (registryOf (.int 8)) := rfl
  have second : @buildRegistry pointZero [withMemory (.float "8.0"), withMemory (.int 8)]
      [capability] = .ok (registryOf (.float "8.0")) := rfl
  have chosen : chosenId (registryOf (.int 8)) fourMegabytes = some "p" := by decide
  have missed : chosenId (registryOf (.float "8.0")) fourMegabytes = none := by decide
  refine ⟨first, second, chosen, missed, fun claimed => ?_⟩
  obtain ⟨r', build, same⟩ := claimed _ _ _ fourMegabytes first
    [withMemory (.float "8.0"), withMemory (.int 8)] [capability] (List.Perm.swap _ _ _) (.refl _)
  rw [second, Except.ok.injEq] at build
  rw [← build, chosen, missed] at same
  cases same

end DwSuperApps.Guarantees.ProviderChoice
