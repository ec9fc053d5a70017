import DwSuperApps.Source.Materialization

/-!
# Secrets in materialization requests

Which keys an accepted request (`validate_materialization_request`) cannot hold.

* `HasKey` reaches a key through mappings and sequences at any depth, and each scan passes
  exactly the values whose keys are all allowed (`validateNoRawSecrets_ok`,
  `validateSemanticPayload_ok`);
* binding a raw request keeps its payload (`bindRequest_payload`);
* a payload is free of secret and transport keys at every depth, and the other scanned fields
  of secret keys (`materialization_free`).
-/
namespace DwSuperApps.Guarantees.SecretScan

open DwSuperApps.Lib DwSuperApps.Lib.Checked
open DwSuperApps.Source.Materialization
open DwSuperApps.Source.Envelope (Raised)

/-! ## Keys at any depth -/

/-- The key of a mapping that is reached through mappings and sequences. -/
inductive HasKey (key : Key) : Value → Prop where
  | here {members : Members} {child : Value} (member : (key, child) ∈ members) :
      HasKey key (.mapping members)
  | under {members : Members} {other : Key} {child : Value} (member : (other, child) ∈ members)
      (inner : HasKey key child) : HasKey key (.mapping members)
  | inside {items : List Value} {child : Value} (member : child ∈ items)
      (inner : HasKey key child) : HasKey key (.sequence items)

/-- No key at any depth is of the kind. -/
def Free (kind : Key → Prop) (value : Value) : Prop := ∀ key, HasKey key value → ¬ kind key

variable {kind : Key → Prop}

theorem free_null : Free kind .null := fun _ has => by cases has

theorem free_atom {shown : String} : Free kind (.atom shown) := fun _ has => by cases has

theorem free_mapping {members : Members} :
    Free kind (.mapping members) ↔ ∀ entry ∈ members, ¬ kind entry.1 ∧ Free kind entry.2 := by
  constructor
  · rintro free ⟨key, child⟩ member
    exact ⟨free key (.here member), fun other inner => free other (.under member inner)⟩
  · intro each key has
    cases has with
    | here member => exact (each _ member).1
    | under member inner => exact (each _ member).2 key inner

theorem free_sequence {items : List Value} :
    Free kind (.sequence items) ↔ ∀ child ∈ items, Free kind child := by
  constructor
  · intro free child member key inner
    exact free key (.inside member inner)
  · intro each key has
    cases has with
    | inside member inner => exact each _ member key inner

section Scans
variable [Interpreter]

/-- A key naming a raw secret. -/
def NamesSecret (key : Key) : Prop := isSecretKey (normalizedKey key) = true

/-- A key of the transport records the runtime writes. -/
def NamesTransport (key : Key) : Prop := normalizedKey key ∈ forbiddenTransportKeys

/-! ## The scans -/

mutual
theorem validateNoRawSecrets_ok (value : Value) (path : String) :
    validateNoRawSecrets value path = .ok () ↔ Free NamesSecret value := by
  cases value with
  | null =>
    rw [validateNoRawSecrets]
    exact iff_of_true rfl free_null
  | atom shown =>
    rw [validateNoRawSecrets]
    exact iff_of_true rfl free_atom
  | mapping members =>
    rw [validateNoRawSecrets, free_mapping]
    exact secretFreeMembers_ok members path
  | sequence items =>
    rw [validateNoRawSecrets, free_sequence]
    exact secretFreeItems_ok items path 0
theorem secretFreeMembers_ok (members : Members) (path : String) :
    secretFreeMembers members path = .ok () ↔
      ∀ entry ∈ members, ¬ NamesSecret entry.1 ∧ Free NamesSecret entry.2 := by
  cases members with
  | nil => simp [secretFreeMembers]
  | cons entry rest =>
    obtain ⟨key, child⟩ := entry
    have head := validateNoRawSecrets_ok child (childPath path key)
    have later := secretFreeMembers_ok rest path
    simp only [secretFreeMembers, bind_ok, ensure_ok, exists_const, List.forall_mem_cons, later, head,
      NamesSecret, Bool.not_eq_true, and_assoc]
theorem secretFreeItems_ok (items : List Value) (path : String) (index : Nat) :
    secretFreeItems items path index = .ok () ↔ ∀ child ∈ items, Free NamesSecret child := by
  cases items with
  | nil => simp [secretFreeItems]
  | cons child rest =>
    have head := validateNoRawSecrets_ok child s!"{path}[{index}]"
    have later := secretFreeItems_ok rest path (index + 1)
    simp only [secretFreeItems, bind_ok, exists_const, List.forall_mem_cons, later, head]
end

/-- A key that a payload may not hold. -/
def Forbidden (key : Key) : Prop := NamesTransport key ∨ NamesSecret key

mutual
theorem validateSemanticPayload_ok (value : Value) (path : String) :
    validateSemanticPayload value path = .ok () ↔ Free Forbidden value := by
  cases value with
  | null =>
    rw [validateSemanticPayload]
    exact iff_of_true rfl free_null
  | atom shown =>
    rw [validateSemanticPayload]
    exact iff_of_true rfl free_atom
  | mapping members =>
    rw [validateSemanticPayload, free_mapping]
    exact semanticMembers_ok members path
  | sequence items =>
    rw [validateSemanticPayload, free_sequence]
    exact semanticItems_ok items path 0
theorem semanticMembers_ok (members : Members) (path : String) :
    semanticMembers members path = .ok () ↔
      ∀ entry ∈ members, ¬ Forbidden entry.1 ∧ Free Forbidden entry.2 := by
  cases members with
  | nil => simp [semanticMembers]
  | cons entry rest =>
    obtain ⟨key, child⟩ := entry
    have head := validateSemanticPayload_ok child (childPath path key)
    have secrets := validateNoRawSecrets_ok (.mapping [(key, child)]) path
    have later := semanticMembers_ok rest path
    simp only [free_mapping, List.forall_mem_singleton] at secrets
    simp only [semanticMembers, bind_ok, ensure_ok, exists_const, List.forall_mem_cons, later, head,
      secrets]
    unfold Forbidden
    constructor
    · rintro ⟨transport, ⟨secret, -⟩, inner, others⟩
      exact ⟨⟨not_or.mpr ⟨transport, secret⟩, inner⟩, others⟩
    · rintro ⟨⟨own, inner⟩, others⟩
      obtain ⟨transport, secret⟩ := not_or.mp own
      exact ⟨transport, ⟨secret, fun other has => (not_or.mp (inner other has)).2⟩, inner, others⟩
theorem semanticItems_ok (items : List Value) (path : String) (index : Nat) :
    semanticItems items path index = .ok () ↔ ∀ child ∈ items, Free Forbidden child := by
  cases items with
  | nil => simp [semanticItems]
  | cons child rest =>
    have head := validateSemanticPayload_ok child s!"{path}[{index}]"
    have later := semanticItems_ok rest path (index + 1)
    simp only [semanticItems, bind_ok, exists_const, List.forall_mem_cons, later, head]
end

/-- The scan of one request, by its parts. -/
theorem validate_ok {request : Request} {bound : BoundedMailboxRequest} :
    validateMaterializationRequest request = .ok bound ↔
      bindRequest request = .ok bound ∧ Free Forbidden bound.payload ∧
        Free NamesSecret (.mapping bound.scanned) := by
  unfold validateMaterializationRequest
  constructor
  · intro passed
    obtain ⟨made, bounds, later⟩ := bind_ok.mp passed
    obtain ⟨⟨⟩, payload, later⟩ := bind_ok.mp later
    obtain ⟨⟨⟩, others, same⟩ := bind_ok.mp later
    cases same
    exact ⟨bounds, (validateSemanticPayload_ok _ _).mp payload, (validateNoRawSecrets_ok _ _).mp others⟩
  · rintro ⟨bounds, payload, others⟩
    rw [bind_of bounds, bind_of ((validateSemanticPayload_ok _ _).mpr payload),
      bind_of ((validateNoRawSecrets_ok _ _).mpr others)]
    rfl

/-! ## Binding keeps the payload -/

omit [Interpreter] in
theorem lookup_withoutKey {name other : String} (differ : other ≠ name) (candidate : Members) :
    (withoutKey name candidate).lookup (.text other) = candidate.lookup (.text other) := by
  induction candidate with
  | nil => rfl
  | cons entry rest ih =>
    obtain ⟨key, value⟩ := entry
    unfold withoutKey at ih ⊢
    by_cases own : key = .text name
    · have missed : (Key.text other == key) = false := by
        rw [own]
        simpa using differ
      rw [List.filter_cons_of_neg (by simpa using own), ih, List.lookup_cons, missed]
    · rw [List.filter_cons_of_pos (by simpa using own), List.lookup_cons, List.lookup_cons, ih]

theorem lookup_defaultOrSame {name other : String} (differ : other ≠ name) {value : Value}
    {conflict : Raised} {candidate made : Members}
    (named : defaultOrSame name value conflict candidate = .ok made) :
    made.lookup (.text other) = candidate.lookup (.text other) := by
  unfold defaultOrSame at named
  split at named
  · cases named
    have missed : ([(Key.text name, value)] : Members).lookup (.text other) = none := by
      have apart : (Key.text other == Key.text name) = false := by simpa using differ
      rw [List.lookup_cons, apart]
      rfl
    rw [List.lookup_append, missed, Option.or_none]
  · split at named
    · cases named
      rfl
    · cases named

theorem lookup_applyAliases {other : String} {aliases : List (String × String)}
    (apart : ∀ pair ∈ aliases, other ≠ pair.1 ∧ other ≠ pair.2) {candidate made : Members}
    (renamed : applyAliases aliases candidate = .ok made) :
    made.lookup (.text other) = candidate.lookup (.text other) := by
  induction aliases generalizing candidate with
  | nil =>
    cases renamed
    rfl
  | cons pair rest ih =>
    obtain ⟨alternative, field⟩ := pair
    obtain ⟨⟨first, second⟩, later⟩ := List.forall_mem_cons.mp apart
    rw [applyAliases] at renamed
    split at renamed
    · exact ih later renamed
    · obtain ⟨middle, named, after⟩ := bind_ok.mp renamed
      rw [ih later after, lookup_defaultOrSame second named, lookup_withoutKey first]

theorem lookup_applyRecipient {other : String} {recipient : Members}
    {names : List (String × String)} (apart : ∀ pair ∈ names, other ≠ pair.2)
    {candidate made : Members} (named : applyRecipient recipient names candidate = .ok made) :
    made.lookup (.text other) = candidate.lookup (.text other) := by
  induction names generalizing candidate with
  | nil =>
    cases named
    rfl
  | cons pair rest ih =>
    obtain ⟨source, target⟩ := pair
    obtain ⟨first, later⟩ := List.forall_mem_cons.mp apart
    rw [applyRecipient] at named
    split at named
    · exact ih later named
    · obtain ⟨middle, set, after⟩ := bind_ok.mp named
      rw [ih later after, lookup_defaultOrSame first set]

theorem lookup_bindRecipient {candidate made : Members}
    (named : bindRecipient candidate = .ok made) :
    made.lookup (.text "payload") = candidate.lookup (.text "payload") := by
  have kept := lookup_withoutKey (show "payload" ≠ "recipient" by decide) candidate
  unfold bindRecipient at named
  split at named
  · cases named
    rfl
  · cases named
    exact kept
  · exact (lookup_applyRecipient (by decide) named).trans kept
  · cases named

end Scans

/-- The payload of a request as it was passed. -/
def payloadOf : Request → Option Value
  | .bound request => some request.payload
  | .raw (.mapping values) => some (fieldValue values "payload" (.mapping []))
  | .raw _ => none

section Requests
variable [Interpreter]

theorem bindRequest_payload {request : Request} {bound : BoundedMailboxRequest}
    (bounds : bindRequest request = .ok bound) : payloadOf request = some bound.payload := by
  cases request with
  | bound given =>
    cases bounds
    rfl
  | raw value =>
    cases value with
    | mapping values =>
      obtain ⟨renamed, aliases, later⟩ := bind_ok.mp bounds
      obtain ⟨named, recipient, constructed⟩ := bind_ok.mp later
      have same : named.lookup (.text "payload") = values.lookup (.text "payload") :=
        (lookup_bindRecipient recipient).trans (lookup_applyAliases (by decide) aliases)
      obtain ⟨-, -, made⟩ := bind_ok.mp constructed
      cases made
      simp only [payloadOf, fieldValue, same]
    | null => cases bounds
    | atom shown => cases bounds
    | sequence items => cases bounds

/-! ## Requests -/

/-- A request whose payload holds a secret or a transport key at any depth is rejected; and an
accepted request has a payload without either, its other scanned fields being without secret
keys. -/
theorem materialization_free (request : Request) :
    ((∃ payload ∈ payloadOf request, ∃ key, HasKey key payload ∧
        (NamesTransport key ∨ NamesSecret key)) →
      ∃ failure, validateMaterializationRequest request = .error failure) ∧
    ∀ bound, validateMaterializationRequest request = .ok bound →
      payloadOf request = some bound.payload ∧
      (∀ key, HasKey key bound.payload → ¬ NamesTransport key ∧ ¬ NamesSecret key) ∧
      ∀ field ∈ bound.scanned, ∀ key, HasKey key field.2 → ¬ NamesSecret key := by
  have accepted : ∀ bound, validateMaterializationRequest request = .ok bound →
      payloadOf request = some bound.payload ∧
      (∀ key, HasKey key bound.payload → ¬ NamesTransport key ∧ ¬ NamesSecret key) ∧
      ∀ field ∈ bound.scanned, ∀ key, HasKey key field.2 → ¬ NamesSecret key := by
    intro bound passed
    obtain ⟨bounds, payload, others⟩ := validate_ok.mp passed
    rw [free_mapping] at others
    exact ⟨bindRequest_payload bounds, fun key has => not_or.mp (payload key has),
      fun field member => (others field member).2⟩
  refine ⟨?_, accepted⟩
  rintro ⟨payload, held, key, has, kind⟩
  cases outcome : validateMaterializationRequest request with
  | error failure => exact ⟨failure, rfl⟩
  | ok bound =>
    obtain ⟨same, free, -⟩ := accepted bound outcome
    obtain rfl := Option.some.inj (held.symm.trans same)
    exact absurd kind (not_or.mpr (free key has))

end Requests

/-! ## A standards profile -/

/-- Lower case of the ASCII letters. -/
@[reducible] def asciiInterpreter : Interpreter where
  lower s := String.ofList (s.toList.map Char.toLower)
  same _ _ := true
  callError _ := ""

/-- A request whose standards profile has a digest. -/
def profiled : BoundedMailboxRequest where
  payload := .mapping []
  scope := .mapping []
  sourceRefs := .sequence []
  standardsProfile := .mapping [(.text "digest", .atom "sha256:0")]
  evidenceRefs := .sequence []
  environmentRequirements := .mapping []
  authorityConstraints := .mapping []
  executionBoundary := .null
  others := []

/-- The names of the scanned fields, and the member of the profile. -/
def scannedNames : List String := ["scope", "source_refs", "standards_profile", "evidence_refs",
  "environment_requirements", "authority_constraints", "execution_boundary", "digest"]

theorem scannedNames_normal : ∀ name ∈ scannedNames, @normalizedKey asciiInterpreter (.text name) = name := by
  decide

/-- They are no secrets. -/
theorem scannedNames_plain : ∀ name ∈ scannedNames, ¬ @NamesSecret asciiInterpreter (.text name) := by
  have plain : ∀ name ∈ scannedNames, isSecretKey name = false := by decide +kernel
  intro name member
  unfold NamesSecret
  rw [scannedNames_normal name member, plain name member]
  exact Bool.false_ne_true

theorem digest_transport : @NamesTransport asciiInterpreter (.text "digest") := by
  unfold NamesTransport
  rw [scannedNames_normal "digest" (by decide)]
  decide

theorem profiled_free : Free (@NamesSecret asciiInterpreter) (.mapping profiled.scanned) := by
  have names := scannedNames_plain
  simp only [scannedNames, List.forall_mem_cons] at names
  obtain ⟨scope, sources, standards, evidence, environment, authority, boundary, digest, -⟩ := names
  have profile : Free (@NamesSecret asciiInterpreter) profiled.standardsProfile :=
    free_mapping.mpr (List.forall_mem_singleton.mpr ⟨digest, free_atom⟩)
  have none : Free (@NamesSecret asciiInterpreter) (.mapping []) :=
    free_mapping.mpr fun _ member => absurd member List.not_mem_nil
  have empty : Free (@NamesSecret asciiInterpreter) (.sequence []) :=
    free_sequence.mpr fun _ member => absurd member List.not_mem_nil
  refine free_mapping.mpr ?_
  unfold BoundedMailboxRequest.scanned
  simp only [List.forall_mem_cons]
  exact ⟨⟨scope, none⟩, ⟨sources, empty⟩, ⟨standards, profile⟩, ⟨evidence, empty⟩,
    ⟨environment, none⟩, ⟨authority, none⟩, ⟨boundary, free_null⟩,
    fun _ member => absurd member List.not_mem_nil⟩

/-- The digest that every standards profile has is a transport key outside the payload. -/
theorem profile_accepted :
    @validateMaterializationRequest asciiInterpreter (.bound profiled) = .ok profiled ∧
      ¬ ∀ request bound, @validateMaterializationRequest asciiInterpreter request = .ok bound →
        ∀ field ∈ bound.scanned, ∀ key, HasKey key field.2 →
          ¬ @NamesTransport asciiInterpreter key ∧ ¬ @NamesSecret asciiInterpreter key := by
  have payload : Free (@Forbidden asciiInterpreter) profiled.payload :=
    free_mapping.mpr fun _ member => absurd member List.not_mem_nil
  have accepted : @validateMaterializationRequest asciiInterpreter (.bound profiled) =
      .ok profiled := (@validate_ok asciiInterpreter _ _).mpr ⟨rfl, payload, profiled_free⟩
  refine ⟨accepted, fun claimed => ?_⟩
  have both := claimed _ _ accepted (.text "standards_profile", profiled.standardsProfile)
    (List.mem_cons_of_mem _ (List.mem_cons_of_mem _ List.mem_cons_self)) (.text "digest")
    (.here List.mem_cons_self)
  exact both.1 digest_transport

end DwSuperApps.Guarantees.SecretScan
