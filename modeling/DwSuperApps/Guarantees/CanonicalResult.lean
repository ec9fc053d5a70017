import DwSuperApps.Guarantees.SynthesisCompletion
import DwSuperApps.Lib.Sorted
import DwSuperApps.Source.ParentResult

/-!
# Synthesized results are canonical

A synthesized parent result, as its `to_dict`, is what the normalization of a terminal
result makes of it, apart from the projection of its children:

* `synthesized_canonical`: its arrays are sorted and without repetitions, its texts
  stripped;
* `normalize_carried`: normalization adds `child_provenance` and nothing else, and
  leaves the normalized result alone.
-/
namespace DwSuperApps.Guarantees.CanonicalResult

open DwSuperApps.Lib DwSuperApps.Lib.Checked DwSuperApps.Lib.Grouping DwSuperApps.Lib.Sorted
open DwSuperApps.Source.Findings DwSuperApps.Source.Conflicts DwSuperApps.Source.Synthesis

/-! ## Sets of texts -/

/-- A stripped text without NUL. -/
def Stripped (s : String) : Prop := strip s = s ∧ s ≠ "" ∧ '\x00' ∉ s.toList

/-- `tuple(sorted(set(texts)))` of stripped texts. -/
structure TextSet (items : List String) : Prop where
  sorted : items.Pairwise (· < ·)
  stripped : ∀ s ∈ items, Stripped s

theorem text_stripped {field value t : String} (read : Source.Synthesis.text field value = .ok t) :
    Stripped t := by
  obtain ⟨_, solid, read⟩ := bind_ok.mp read
  obtain ⟨_, noNul, read⟩ := bind_ok.mp read
  cases read
  exact ⟨strip_strip value, ensure_ok.mp solid, ensure_ok.mp noNul⟩

theorem uniqueSortedTexts_ok {field : String} {values items : List String} {allowEmpty : Bool}
    (read : uniqueSortedTexts field values allowEmpty = .ok items) :
    TextSet items ∧ (allowEmpty = false → items ≠ []) := by
  obtain ⟨_, given, read⟩ := bind_ok.mp read
  obtain ⟨found, mapped, read⟩ := bind_ok.mp read
  cases read
  have given := ensure_ok.mp given
  have listed (s : String) : s ∈ found.dedup.insertionSort (· ≤ ·) ↔ s ∈ found := by
    rw [List.mem_insertionSort, List.mem_dedup]
  refine ⟨⟨?_, fun s member => ?_⟩, fun strict empty => ?_⟩
  · have distinct : (found.dedup.map id).Nodup := by
      rw [List.map_id]
      exact List.nodup_dedup found
    exact sortedBy_strict distinct
  · obtain ⟨value, -, own⟩ := mapM_mem mapped ((listed s).mp member)
    exact text_stripped own
  · cases values with
    | nil => exact given.elim (fun some => some rfl) (fun allowed => by simp [strict] at allowed)
    | cons value rest =>
      obtain ⟨s, member, -⟩ := mapM_of_mem mapped (List.mem_cons_self ..)
      rw [← listed, empty] at member
      cases member

/-! ## Decisions -/

/-- A decision as its constructor leaves it. -/
def Constructed (d : ControllerDecision) : Prop :=
  ∃ decisionId runRef decisionType rationale evidenceRefs selectedOption,
    ControllerDecision.make decisionId runRef decisionType rationale evidenceRefs selectedOption = .ok d

theorem constructed_refs {d : ControllerDecision} (constructed : Constructed d) :
    TextSet d.evidenceRefs ∧ d.evidenceRefs ≠ [] := by
  obtain ⟨decisionId, runRef, decisionType, rationale, evidenceRefs, selectedOption, made⟩ := constructed
  obtain ⟨_, -, made⟩ := bind_ok.mp made
  obtain ⟨_, -, made⟩ := bind_ok.mp made
  obtain ⟨_, -, made⟩ := bind_ok.mp made
  obtain ⟨_, -, made⟩ := bind_ok.mp made
  obtain ⟨refs, read, made⟩ := bind_ok.mp made
  obtain ⟨_, -, made⟩ := bind_ok.mp made
  cases made
  obtain ⟨set, some⟩ := uniqueSortedTexts_ok read
  exact ⟨set, some rfl⟩

/-- A decision object comes from its constructor; a mapping is read by it. -/
def InputConstructed : DecisionInput → Prop
  | .decision d => Constructed d
  | .mapping _ => True

/-- The decisions among the arguments of a synthesis are constructed. -/
def OptionsConstructed (options : SynthesisOptions) : Prop :=
  (∀ input ∈ options.controllerDecision, InputConstructed input) ∧
    ∀ input ∈ options.decision, InputConstructed input

theorem controllerDecision_constructed {options : SynthesisOptions} {d : ControllerDecision}
    (constructed : OptionsConstructed options)
    (read : controllerDecision options.controllerDecision options.decision = .ok d) :
    Constructed d := by
  have input : ∀ input, (options.controllerDecision.orElse fun _ => options.decision) = some input →
      InputConstructed input := by
    intro input found
    cases own : options.controllerDecision with
    | some first =>
      rw [own] at found
      exact constructed.1 input (own.trans found)
    | none =>
      rw [own] at found
      exact constructed.2 input found
  unfold controllerDecision at read
  split at read
  · cases read
  · next found =>
    cases read
    exact input _ found
  · unfold ControllerDecision.fromDict at read
    split at read
    · exact ⟨_, _, _, _, _, _, read⟩
    · cases read

/-! ## Synthesized results -/

/-- What the constructor and the synthesis leave of a parent result. -/
structure Canonical (r : ParentSynthesisResult) : Prop where
  findings : r.findings.Pairwise fun a b =>
    a.representative.findingId.value < b.representative.findingId.value
  children : r.childRefs.Pairwise fun a b => a.childId.value < b.childId.value
  someChild : r.childRefs ≠ []
  risks : TextSet r.residualRisks
  questions : TextSet r.unresolvedQuestions
  decision : TextSet r.controllerDecision.evidenceRefs
  someRef : r.controllerDecision.evidenceRefs ≠ []

section Synthesis
variable [Rendering]

/-- The representatives are findings, each its own. -/
theorem representatives_nodup {findings : List NormalizedFinding} {d : FindingDeduplicationResult}
    (made : deduplicateFindings findings = .ok d) :
    (d.findings.map (·.representative)).Nodup ∧
      ∀ f ∈ d.findings, f.representative ∈ findings := by
  obtain ⟨_, -, made⟩ := bind_ok.mp made
  cases made
  have source {key : SemanticKey} {f : DeduplicatedFinding}
      (own : represent ((groupOf semanticKey findings key).insertionSort
        fun a b => sourceSortKey a ≤ sourceSortKey b) = some f) :
      f.representative ∈ findings ∧ semanticKey f.representative = key := by
    obtain ⟨first, head, rfl⟩ := Option.map_eq_some_iff.mp own
    have member := (List.mem_insertionSort _).mp (List.mem_of_mem_head? head)
    exact mem_groupOf.mp member
  constructor
  · rw [List.map_filterMap]
    refine List.Nodup.filterMap ?_ sortedKeys_nodup
    intro key other representative here there
    obtain ⟨f, own, rfl⟩ := Option.map_eq_some_iff.mp here
    obtain ⟨g, others, same⟩ := Option.map_eq_some_iff.mp there
    rw [← (source own).2, ← (source others).2, same]
  · intro f member
    obtain ⟨key, -, own⟩ := List.mem_filterMap.mp member
    exact (source own).1

omit [Rendering] in
theorem values_nodup {α : Type} {n : Nat} {ident : α → Ident n} {items : List α}
    (distinct : (items.map ident).Nodup) : (items.map fun a => (ident a).value).Nodup := by
  have values : items.map (fun a => (ident a).value) = (items.map ident).map Ident.value :=
    List.map_map.symm
  rw [values]
  exact distinct.map fun i j same => Ident.ext same

variable [Sha256]

theorem acceptedChildren_length {seen : List (Ident 128)} {children : List NormalizedChildResult}
    {refs : List ChildEvidenceRef} (made : acceptedChildren seen children = .ok refs) :
    refs.length = children.length := by
  induction children generalizing seen refs with
  | nil =>
    cases made
    rfl
  | cons child rest ih =>
    unfold acceptedChildren at made
    obtain ⟨_, -, made⟩ := bind_ok.mp made
    obtain ⟨_, -, made⟩ := bind_ok.mp made
    obtain ⟨_, -, made⟩ := bind_ok.mp made
    obtain ⟨others, later, made⟩ := bind_ok.mp made
    cases made
    rw [List.length_cons, List.length_cons, ih later]

theorem synthesized_canonical {children : List NormalizedChildResult} {options : SynthesisOptions}
    {r : ParentSynthesisResult} (constructed : OptionsConstructed options)
    (made : synthesizeParentResult children options = .ok r) : Canonical r := by
  unfold synthesizeParentResult at made
  obtain ⟨proposed, -, made⟩ := bind_ok.mp made
  obtain ⟨_, someChildren, made⟩ := bind_ok.mp made
  obtain ⟨childRefs, accepted, made⟩ := bind_ok.mp made
  obtain ⟨findings, collected, made⟩ := bind_ok.mp made
  obtain ⟨deduplicated, represented, made⟩ := bind_ok.mp made
  obtain ⟨evaluation, -, made⟩ := bind_ok.mp made
  obtain ⟨controller, decided, made⟩ := bind_ok.mp made
  obtain ⟨_, -, made⟩ := bind_ok.mp made
  obtain ⟨residualRisks, -, made⟩ := bind_ok.mp made
  obtain ⟨unresolvedQuestions, -, made⟩ := bind_ok.mp made
  unfold ParentSynthesisResult.make at made
  obtain ⟨_, distinct, made⟩ := bind_ok.mp made
  obtain ⟨risks, readRisks, made⟩ := bind_ok.mp made
  obtain ⟨questions, readQuestions, made⟩ := bind_ok.mp made
  obtain ⟨_, -, made⟩ := bind_ok.mp made
  cases made
  have someChildren := ensure_ok.mp someChildren
  have distinct := ensure_ok.mp distinct
  obtain ⟨set, someRef⟩ := constructed_refs (controllerDecision_constructed constructed decided)
  refine ⟨?_, ?_, ?_, (uniqueSortedTexts_ok readRisks).1, (uniqueSortedTexts_ok readQuestions).1, set,
    someRef⟩
  · -- representatives are findings of the children, which have distinct ids
    obtain ⟨own, inside⟩ := representatives_nodup represented
    have ids : (findings.map (·.findingId.value)).Nodup := by
      unfold collectChildFindings at collected
      obtain ⟨byId, gathered, sorted⟩ := bind_ok.mp collected
      cases sorted
      exact ((List.perm_insertionSort _ byId).map _).nodup_iff.mpr
        (values_nodup (collected_unsigned gathered).1)
    refine @sortedBy_strict _ _ _ (fun f : DeduplicatedFinding => f.representative.findingId.value) _ ?_
    have represented : (deduplicated.findings.map (·.representative)).map (·.findingId.value) =
        deduplicated.findings.map fun f => f.representative.findingId.value := List.map_map
    rw [← represented]
    refine own.map_on fun f memberF g memberG same => ?_
    obtain ⟨d, memberD, rfl⟩ := List.mem_map.mp memberF
    obtain ⟨e, memberE, rfl⟩ := List.mem_map.mp memberG
    exact List.inj_on_of_nodup_map ids (inside d memberD) (inside e memberE) same
  · exact @sortedBy_strict _ _ _ (fun c : ChildEvidenceRef => c.childId.value) _
      (values_nodup distinct)
  · intro empty
    have length := congrArg List.length empty
    rw [List.length_insertionSort, acceptedChildren_length accepted] at length
    exact someChildren (List.length_eq_zero_iff.mp length)

end Synthesis

/-! ## Normalizing canonical values -/

open DwSuperApps.Source.TerminalResult
open DwSuperApps.Source.Envelope (texts Raised)

theorem text_of {s : String} (stripped : Stripped s) (field : String) :
    Source.TerminalResult.text (.str s) field = .ok s := by
  obtain ⟨same, solid, noNul⟩ := stripped
  simp [Source.TerminalResult.text, same, ensure_of solid, ensure_of noNul]

theorem ident_stripped {n : Nat} (i : Ident n) : Stripped i.value :=
  ⟨i.stripped, (i.toText (le_refl n)).nonempty, (i.toText (le_refl n)).noNul⟩

theorem identifier_of {n : Nat} (i : Ident n) (field : String) :
    Source.TerminalResult.identifier (.str i.value) field = .ok i.value := by
  rw [Source.TerminalResult.identifier, text_of (ident_stripped i), ok_bind, ensure_of i.identifier]
  rfl

theorem digest_of (d : Digest) (field : String) :
    Source.TerminalResult.digest (.str d.value) field = .ok d.value := by
  have stripped : Stripped d.value := ⟨d.toText.stripped, d.toText.nonempty, d.toText.noNul⟩
  rw [Source.TerminalResult.digest, text_of stripped, ok_bind, ensure_of d.digest]
  rfl

theorem mem_sortedSet {items : List String} {s : String} : s ∈ sortedSet items ↔ s ∈ items := by
  unfold sortedSet
  rw [List.mem_insertionSort, List.mem_dedup]

theorem sortedSet_self {items : List String} (sorted : items.Pairwise (· < ·)) :
    sortedSet items = items := by
  have distinct : items.Nodup := sorted.imp fun before => ne_of_lt before
  unfold sortedSet
  rw [distinct.dedup]
  exact (sorted.imp fun before => le_of_lt before).insertionSort_eq

theorem textTuple_of {items : List String} (set : TextSet items) (field : String)
    {allowEmpty : Bool} (given : allowEmpty = true ∨ items ≠ []) :
    textTuple (texts items) field allowEmpty = .ok items := by
  have some : allowEmpty = true ∨ items.map Json.str ≠ [] :=
    given.imp_right fun other empty => other (List.map_eq_nil_iff.mp empty)
  have each : (items.map Json.str).mapM (fun item => Source.TerminalResult.text item s!"{field} item") =
      Except.ok (ε := Raised) items := by
    rw [mapM_ok, List.forall₂_map_left_iff, List.forall₂_same]
    exact fun s member => text_of (set.stripped s member) _
  unfold textTuple texts
  rw [ok_bind, ensure_of some, ok_bind, each, ok_bind, sortedSet_self set.sorted]
  rfl

/-- A loop over counted items whose result does not depend on the count. -/
theorem mapM_zipIdx {ε α β γ : Type} {f : α × Nat → Except ε β} {h : γ → α} {g : γ → β}
    {items : List γ} (each : ∀ c ∈ items, ∀ i, f (h c, i) = .ok (g c)) (start : Nat) :
    ((items.map h).zipIdx start).mapM f = .ok (items.map g) := by
  induction items generalizing start with
  | nil => rfl
  | cons c rest ih =>
    obtain ⟨first, others⟩ := List.forall_mem_cons.mp each
    rw [List.map_cons, List.zipIdx_cons, List.mapM_cons, first, ok_bind, ih others, ok_bind]
    rfl

/-! ### Findings -/

section Findings
variable [Rendering]

omit [Rendering] in
theorem refs_set (f : NormalizedFinding) :
    TextSet (f.evidenceRefs.map (·.value)) ∧ f.evidenceRefs.map (·.value) ≠ [] := by
  refine ⟨⟨List.pairwise_map.mpr f.sorted, fun s member => ?_⟩, ?_⟩
  · obtain ⟨ref, -, rfl⟩ := List.mem_map.mp member
    exact ⟨ref.stripped, ref.nonempty, ref.noNul⟩
  · exact fun empty => f.referenced (List.map_eq_nil_iff.mp empty)

theorem finding_id (f : DeduplicatedFinding) :
    Json.member (findingMembers f) "finding_id" = some (.str f.representative.findingId.value) := rfl

theorem finding_refs (f : DeduplicatedFinding) : Json.member (findingMembers f) "evidence_refs" =
    some (texts (f.representative.evidenceRefs.map (·.value))) := by
  have same : f.representative.evidenceRefs.map (fun ref => Json.str ref.value) =
      (f.representative.evidenceRefs.map (·.value)).map Json.str := List.map_map.symm
  unfold texts
  rw [← same]
  rfl

theorem normalizeFinding_of (f : DeduplicatedFinding) (index : Nat) :
    normalizeFinding (.obj (findingMembers f), index) = .ok (findingMembers f) := by
  obtain ⟨set, some⟩ := refs_set f.representative
  unfold normalizeFinding
  refine bind_ok.mpr ⟨findingMembers f, rfl, ?_⟩
  rw [Json.get_of (finding_id f), identifier_of, ok_bind, Json.get_of (finding_refs f),
    textTuple_of set _ (.inr some), ok_bind, Json.setMember_self (finding_refs f)]
  rfl

/-- The findings in the order of their ids. -/
theorem normalizeFindings_of {findings : List DeduplicatedFinding}
    (sorted : findings.Pairwise fun a b =>
      a.representative.findingId.value < b.representative.findingId.value) :
    Source.TerminalResult.normalizeFindings (.arr (findings.map fun f => .obj (findingMembers f))) =
      .ok (findings.map findingMembers) := by
  have each : (findings.map fun f => Json.obj (findingMembers f)).zipIdx.mapM normalizeFinding =
      .ok (findings.map findingMembers) :=
    mapM_zipIdx (fun f _ index => normalizeFinding_of f index) 0
  have ordered : (findings.map findingMembers).Pairwise findingLe :=
    List.pairwise_map.mpr (sorted.imp fun before => .inl before)
  refine bind_ok.mpr ⟨findings.map findingMembers, each, ?_⟩
  rw [ordered.insertionSort_eq]
  rfl

end Findings

/-! ### Children -/

theorem normalizeChild_of (c : ChildEvidenceRef) (index : Nat) {seen : List String}
    (fresh : c.childId.value ∉ seen) :
    normalizeChild (.obj c.members) index seen = .ok (c.childId.value, c.members) := by
  have childId : Json.member c.members "child_id" = some (.str c.childId.value) := rfl
  have result : Json.member c.members "result_digest" = some (.str c.resultDigest.value) := rfl
  have normalization : Json.member c.members "normalization_digest" =
      some (.str c.resultDigest.value) := rfl
  have status : Json.member c.members "status" = some (.str c.status.value) := rfl
  have stripped : Stripped c.status.value := by
    rw [c.succeeded]
    exact ⟨by decide, by decide, by decide⟩
  unfold normalizeChild
  refine bind_ok.mpr ⟨c.members, rfl, ?_⟩
  rw [Json.get_of childId, identifier_of, ok_bind, ensure_of fresh, ok_bind, result, Option.getD_some]
  refine bind_ok.mpr ⟨c.resultDigest.value, digest_of _ _, ?_⟩
  rw [Json.setMember_self childId, Json.setMember_self result]
  dsimp only
  rw [normalization]
  refine bind_ok.mpr ⟨c.members, ?_, ?_⟩
  · refine bind_ok.mpr ⟨c.resultDigest.value, digest_of _ _, ?_⟩
    rw [Json.setMember_self normalization]
    rfl
  · rw [Json.get_of status]
    refine bind_ok.mpr ⟨c.status.value, text_of stripped _, ?_⟩
    rw [Json.setMember_self status]
    rfl

theorem normalizeChildren_of {children : List ChildEvidenceRef} (index : Nat) {seen : List String}
    (distinct : (children.map (·.childId.value)).Nodup)
    (fresh : ∀ c ∈ children, c.childId.value ∉ seen) :
    normalizeChildren index seen (children.map fun c => .obj c.members) =
      .ok (children.map fun c => (c.childId.value, c.members)) := by
  induction children generalizing index seen with
  | nil => rfl
  | cons c rest ih =>
    obtain ⟨first, others⟩ := List.forall_mem_cons.mp fresh
    obtain ⟨own, later⟩ := List.nodup_cons.mp distinct
    have apart : ∀ d ∈ rest, d.childId.value ∉ c.childId.value :: seen := by
      intro d member
      rw [List.mem_cons, not_or]
      exact ⟨fun same => own (List.mem_map.mpr ⟨d, member, same⟩), others d member⟩
    rw [List.map_cons, normalizeChildren, normalizeChild_of c index first, ok_bind,
      ih (index + 1) later apart, ok_bind]
    rfl

/-- The children in the order of their ids. -/
theorem normalizeChildProvenance_of {children : List ChildEvidenceRef}
    (sorted : children.Pairwise fun a b => a.childId.value < b.childId.value)
    (someChild : children ≠ []) (allowEmpty : Bool) :
    normalizeChildProvenance (.arr (children.map fun c => .obj c.members)) allowEmpty =
      .ok (children.map fun c => (c.childId.value, c.members)) := by
  have distinct : (children.map (·.childId.value)).Nodup := distinct_of_strict sorted
  have some : (children.map fun c => (c.childId.value, c.members)) ≠ [] ∨ allowEmpty = true :=
    .inl fun empty => someChild (List.map_eq_nil_iff.mp empty)
  have ordered : (children.map fun c => (c.childId.value, c.members)).Pairwise
      fun a b => a.1 ≤ b.1 :=
    List.pairwise_map.mpr (sorted.imp fun before => le_of_lt before)
  refine bind_ok.mpr ⟨_, normalizeChildren_of 0 distinct (fun c _ => List.not_mem_nil), ?_⟩
  rw [ensure_of some, ok_bind, ordered.insertionSort_eq]
  rfl

/-! ### No raw context -/

/-- The value has no forbidden key. -/
def Clean (value : Json) : Prop := ∀ path, rejectRawContext path value = .ok ()

/-- Names of the members of a parent result and of what it contains. -/
def memberNames : List String :=
  ["protocol", "proposed_verdict", "final_verdict", "verdict", "status", "findings", "child_refs",
    "child_result_digests", "residual_risks", "unresolved_questions", "conflicts",
    "controller_decision", "result_digest", "child_provenance", "finding_id", "severity", "category",
    "lens", "claim", "evidence_refs", "recommendation", "reviewer", "disposition", "confidence",
    "conflict_group", "provenance", "provenance_count", "source_finding_id", "child_id",
    "normalization_digest", "raw_output_digest", "child_contract_digest", "source_digest",
    "conflict_id", "finding_ids", "reviewers", "severities", "material", "resolution_evidence_refs",
    "rationale", "residual_risk", "decision_id", "run_ref", "decision_type", "selected_option"]

theorem memberNames_allowed : ∀ name ∈ memberNames, casefold name ∉ forbiddenContextKeys := by
  decide +kernel

theorem clean_obj {members : List (String × Json)}
    (clean : ∀ m ∈ members, m.1 ∈ memberNames ∧ Clean m.2) : Clean (.obj members) := by
  intro path
  rw [rejectRawContext]
  induction members with
  | nil => rfl
  | cons first rest ih =>
    obtain ⟨⟨named, own⟩, others⟩ := List.forall_mem_cons.mp clean
    obtain ⟨key, value⟩ := first
    rw [rejectRawMembers, ensure_of (memberNames_allowed key named), ok_bind, own, ok_bind, ih others]

theorem clean_arr {items : List Json} (clean : ∀ item ∈ items, Clean item) : Clean (.arr items) := by
  intro path
  rw [rejectRawContext]
  have each : ∀ index, rejectRawItems path index items = .ok () := by
    induction items with
    | nil => exact fun _ => rfl
    | cons first rest ih =>
      obtain ⟨own, others⟩ := List.forall_mem_cons.mp clean
      intro index
      rw [rejectRawItems, own, ok_bind, ih others]
  exact each 0

@[simp] theorem clean_str (s : String) : Clean (.str s) := fun _ => rfl

@[simp] theorem clean_int (n : Int) : Clean (.int n) := fun _ => rfl

@[simp] theorem clean_bool (b : Bool) : Clean (.bool b) := fun _ => rfl

@[simp] theorem clean_float (text : String) : Clean (.float text) := fun _ => rfl

@[simp] theorem clean_ofOption (value : Option String) : Clean (.ofOption value) := by
  cases value <;> exact fun _ => rfl

@[simp] theorem clean_texts (items : List String) : Clean (texts items) := by
  refine clean_arr fun item member => ?_
  obtain ⟨s, -, rfl⟩ := List.mem_map.mp member
  exact clean_str s

theorem clean_given {name : String} (named : name ∈ memberNames) (value : Option String) :
    ∀ m ∈ given name value, m.1 ∈ memberNames ∧ Clean m.2 := by
  cases value with
  | none => exact fun m member => absurd member List.not_mem_nil
  | some s => exact List.forall_mem_cons.mpr ⟨⟨named, clean_str s⟩, by simp⟩

theorem clean_provenance (p : FindingProvenance) : Clean (provenanceDict p) := by
  refine clean_obj (List.forall_mem_append.mpr ⟨?_, clean_given (by decide) _⟩)
  simp [memberNames]

theorem clean_child (c : ChildEvidenceRef) : Clean (.obj c.members) := by
  refine clean_obj ?_
  simp [ChildEvidenceRef.members, nullable, memberNames]

theorem clean_conflict (g : ConflictGroup) : Clean (conflictDict g) := by
  refine clean_obj (List.forall_mem_append.mpr ⟨List.forall_mem_append.mpr ⟨?_, ?_⟩, ?_⟩)
  · simp [memberNames]
  · exact clean_given (by decide) _
  · exact clean_given (by decide) _

theorem clean_decision (d : ControllerDecision) : Clean (.obj d.members) := by
  refine clean_obj (List.forall_mem_append.mpr ⟨?_, clean_given (by decide) _⟩)
  simp [memberNames]

theorem clean_map {α : Type} {items : List α} {value : α → Json} (clean : ∀ a, Clean (value a)) :
    Clean (.arr (items.map value)) := by
  refine clean_arr fun item member => ?_
  obtain ⟨a, -, rfl⟩ := List.mem_map.mp member
  exact clean a

section Results
variable [Rendering]

theorem clean_finding (f : DeduplicatedFinding) : Clean (.obj (findingMembers f)) := by
  have refs : Clean (.arr (f.representative.evidenceRefs.map fun ref => Json.str ref.value)) :=
    clean_map fun ref => clean_str ref.value
  refine clean_obj (List.forall_mem_append.mpr ⟨?_, ?_⟩)
  · refine List.forall_mem_append.mpr ⟨List.forall_mem_append.mpr ⟨?_, ?_⟩, ?_⟩
    · simp [memberNames, refs]
    · cases f.representative.confidence <;> simp [memberNames]
    · cases f.representative.conflictGroup <;> simp [memberNames]
  · simp [provenanceMembers, memberNames, clean_map clean_provenance]

theorem clean_payload (r : ParentSynthesisResult) :
    ∀ m ∈ r.canonicalPayload, m.1 ∈ memberNames ∧ Clean m.2 := by
  simp [ParentSynthesisResult.canonicalPayload, memberNames, clean_map clean_finding,
    clean_map clean_child, clean_map clean_conflict, clean_decision]

variable [Sha256]

/-! ### The parent result -/

/-- The projection of the children. -/
def childProvenance (r : ParentSynthesisResult) : Json := .arr (r.childRefs.map fun c => .obj c.members)

/-- A parent result as the terminal envelope carries it. -/
def carried (r : ParentSynthesisResult) : List (String × Json) :=
  r.toDict ++ [("child_provenance", childProvenance r)]

theorem clean_carried (r : ParentSynthesisResult) : Clean (.obj (carried r)) := by
  refine clean_obj (List.forall_mem_append.mpr ⟨List.forall_mem_append.mpr ⟨clean_payload r, ?_⟩, ?_⟩)
  · simp [memberNames]
  · simp [memberNames, childProvenance, clean_map clean_child]

theorem clean_toDict (r : ParentSynthesisResult) : Clean (.obj r.toDict) := by
  refine clean_obj (List.forall_mem_append.mpr ⟨clean_payload r, ?_⟩)
  simp [memberNames]

theorem carried_drop (r : ParentSynthesisResult) :
    Json.dropMember "child_provenance" (carried r) = r.toDict := rfl

theorem toDict_drop (r : ParentSynthesisResult) :
    Json.dropMember "result_digest" r.toDict = r.canonicalPayload := rfl

/-- Normalization adds the projection of the children, once. -/
theorem normalize_carried {r : ParentSynthesisResult} (canonical : Canonical r) (allowEmpty : Bool)
    {members : List (String × Json)} (shape : members = r.toDict ∨ members = carried r) :
    normalizeParentResult (.obj members) allowEmpty = .ok (carried r) := by
  have clean : Clean (.obj members) := by
    rcases shape with rfl | rfl
    · exact clean_toDict r
    · exact clean_carried r
  have findings : Json.member members "findings" =
      some (.arr (r.findings.map fun f => .obj (findingMembers f))) := by
    rcases shape with rfl | rfl <;> rfl
  have children : Json.member members "child_refs" = some (childProvenance r) := by
    rcases shape with rfl | rfl <;> rfl
  have projected : Json.setMember "child_provenance" (childProvenance r) members = carried r := by
    rcases shape with rfl | rfl
    · exact Json.setMember_new (by simp [ParentSynthesisResult.toDict,
        ParentSynthesisResult.canonicalPayload]) _
    · exact Json.setMember_self rfl
  unfold normalizeParentResult
  refine bind_ok.mpr ⟨members, rfl, ?_⟩
  refine bind_ok.mpr ⟨(), clean _, ?_⟩
  refine bind_ok.mpr ⟨r.findings.map findingMembers, ?_, ?_⟩
  · rw [Json.get_of findings]
    exact normalizeFindings_of canonical.findings
  refine bind_ok.mpr ⟨r.childRefs.map fun c => (c.childId.value, c.members), ?_, ?_⟩
  · rw [children]
    exact normalizeChildProvenance_of canonical.children canonical.someChild allowEmpty
  have sameFindings : Json.arr ((r.findings.map findingMembers).map .obj) =
      .arr (r.findings.map fun f => .obj (findingMembers f)) := congrArg Json.arr List.map_map
  have sameChildren : Json.arr ((r.childRefs.map fun c => (c.childId.value, c.members)).map
      fun c => .obj c.2) = childProvenance r := congrArg Json.arr List.map_map
  have sameDigests : Json.arr ((r.childRefs.map fun c => (c.childId.value, c.members)).map
      fun c => Json.get c.2 "result_digest") = texts (r.childRefs.map (·.resultDigest.value)) := by
    unfold texts
    rw [List.map_map, List.map_map]
    rfl
  have digests : Json.setMember "child_result_digests"
      (texts (r.childRefs.map (·.resultDigest.value))) (carried r) = carried r :=
    Json.setMember_self rfl
  have risks : Json.member (carried r) "residual_risks" = some (texts r.residualRisks) := rfl
  have questions : Json.member (carried r) "unresolved_questions" =
      some (texts r.unresolvedQuestions) := rfl
  have decision : Json.member (carried r) "controller_decision" =
      some (.obj r.controllerDecision.members) := rfl
  have refs : Json.member r.controllerDecision.members "evidence_refs" =
      some (texts r.controllerDecision.evidenceRefs) := rfl
  have digest : Json.member (carried r) "result_digest" = some (.str r.resultDigest.value) := rfl
  dsimp only
  rw [sameFindings, Json.setMember_self findings, sameChildren, Json.setMember_self children, projected,
    sameDigests, digests]
  refine bind_ok.mpr ⟨r.residualRisks, ?_, ?_⟩
  · rw [Json.get_of risks]
    exact textTuple_of canonical.risks _ (.inl rfl)
  refine bind_ok.mpr ⟨r.unresolvedQuestions, ?_, ?_⟩
  · rw [Json.get_of questions]
    exact textTuple_of canonical.questions _ (.inl rfl)
  rw [Json.setMember_self risks, Json.setMember_self questions]
  refine bind_ok.mpr ⟨r.controllerDecision.members, ?_, ?_⟩
  · rw [Json.get_of decision]
    rfl
  refine bind_ok.mpr ⟨r.controllerDecision.evidenceRefs, ?_, ?_⟩
  · rw [Json.get_of refs]
    exact textTuple_of canonical.decision _ (.inr canonical.someRef)
  rw [Json.setMember_self refs, Json.setMember_self decision, carried_drop, Json.get_of digest]
  have computed : canonicalResultDigest r.toDict = r.resultDigest := by
    unfold canonicalResultDigest
    rw [toDict_drop]
    rfl
  rw [computed]
  refine bind_ok.mpr ⟨(), ?_, ?_⟩
  · refine bind_ok.mpr ⟨r.resultDigest.value, digest_of _ _, ?_⟩
    exact ensure_of rfl _
  · rw [Json.setMember_self digest]
    rfl

end Results

end DwSuperApps.Guarantees.CanonicalResult
