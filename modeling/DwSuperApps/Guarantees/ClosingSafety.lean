import DwSuperApps.Guarantees.TerminalCarries
import DwSuperApps.Source.Acceptance

/-!
# Closing a node

A terminal result that is accepted under a contract and mapped to a decision that can
close. The final verdict of the result is read only through the status the builder
gives the envelope:

* `accepts_iff`: what the acceptance reads off the result;
* `canClose_iff`: what the decision mapping reads off it;
* `closing_safe`: closing needs a requested `COMPLETE`, an envelope that is `SUCCEEDED`,
  every criterion and evidence item of the contract and no human signal, and an accepted
  result stays accepted when evidence is added.
-/
namespace DwSuperApps.Guarantees.ClosingSafety

open DwSuperApps.Lib DwSuperApps.Lib.Checked
open DwSuperApps.Source.Envelope DwSuperApps.Source.TerminalResult DwSuperApps.Source.Acceptance
open DwSuperApps.Guarantees.CanonicalResult (mem_sortedSet)
open DwSuperApps.Guarantees.TerminalCarries (stringsOf_texts reviewRequest reviewMessage)

/-! ## Text arrays -/

/-- The text is in the array once stripped. -/
def Listed (value : Json) (s : String) : Prop := s ∈ (stringsOf value).map strip

/-- Null, or an array of solid texts. -/
def Readable (value : Json) : Prop :=
  value = .null ∨ ∃ items : List String, value = .arr (items.map .str) ∧ ∀ s ∈ items, Solid s

theorem semanticText_ok {value : Json} {field t : String} :
    semanticText value field = .ok t ↔ ∃ s, value = .str s ∧ Solid s ∧ strip s = t := by
  cases value with
  | str s =>
    simp only [semanticText, bind_ok, ensure_ok, Json.str.injEq]
    constructor
    · rintro ⟨_, solid, _, noNul, made⟩
      exact ⟨s, rfl, ⟨solid, noNul⟩, Except.ok.inj made⟩
    · rintro ⟨_, rfl, ⟨solid, noNul⟩, rfl⟩
      exact ⟨(), solid, (), noNul, rfl⟩
  | _ => simp [semanticText]

theorem semanticText_of {s : String} (solid : Solid s) (field : String) :
    semanticText (.str s) field = .ok (strip s) :=
  semanticText_ok.mpr ⟨s, rfl, solid, rfl⟩

theorem semanticTexts_of {items : List String} (solid : ∀ s ∈ items, Solid s)
    (field : String) : (items.map Json.str).mapM (fun item => semanticText item field) =
      Except.ok (ε := Raised) (items.map strip) := by
  rw [mapM_ok, List.forall₂_map_left_iff, List.forall₂_map_right_iff, List.forall₂_same]
  exact fun s member => semanticText_of (solid s member) field

theorem textValues_of {value : Json} (readable : Readable value) (field : String) :
    textValues value field = .ok (sortedSet ((stringsOf value).map strip)) := by
  rcases readable with rfl | ⟨items, rfl, solid⟩
  · rfl
  · have strings : stringsOf (.arr (items.map .str)) = items := stringsOf_texts items
    rw [strings]
    simp only [textValues, semanticTexts_of solid, ok_bind]
    rfl

theorem textValues_ok {value : Json} {field : String} {texts : List String}
    (read : textValues value field = .ok texts) :
    Readable value ∧ ∀ s, s ∈ texts ↔ Listed value s := by
  have readable : Readable value := by
    cases value with
    | null => exact .inl rfl
    | arr items =>
      refine .inr ?_
      obtain ⟨found, mapped, -⟩ := bind_ok.mp read
      have each := mapM_ok.mp mapped
      clear mapped read
      induction each with
      | nil => exact ⟨[], rfl, fun s member => absurd member List.not_mem_nil⟩
      | cons first _ ih =>
        obtain ⟨s, rfl, solid, -⟩ := semanticText_ok.mp first
        obtain ⟨rest, shape, others⟩ := ih
        refine ⟨s :: rest, ?_, List.forall_mem_cons.mpr ⟨solid, others⟩⟩
        rw [Json.arr.inj shape]
        rfl
    | _ => cases read
  refine ⟨readable, fun s => ?_⟩
  rw [textValues_of readable field] at read
  rw [← Except.ok.inj read, mem_sortedSet]
  rfl

/-! ## Normalized results -/

section
variable [Sha256]

/-- What a normalized result is sure to have. -/
structure Normalized (n : List (String × Json)) : Prop where
  decision : ∃ members, Json.get n "controller_decision" = .obj members
  findings : ∃ items : List (List (String × Json)), Json.member n "findings" = some (.arr (items.map .obj))

theorem normalizeParentResult_normalized {value : Json} {allowEmpty : Bool}
    {n : List (String × Json)} (made : normalizeParentResult value allowEmpty = .ok n) :
    Normalized n := by
  unfold normalizeParentResult at made
  obtain ⟨candidate, -, made⟩ := bind_ok.mp made
  obtain ⟨_, -, made⟩ := bind_ok.mp made
  obtain ⟨findings, -, made⟩ := bind_ok.mp made
  obtain ⟨children, -, made⟩ := bind_ok.mp made
  obtain ⟨risks, -, made⟩ := bind_ok.mp made
  obtain ⟨questions, -, made⟩ := bind_ok.mp made
  obtain ⟨decision, -, made⟩ := bind_ok.mp made
  obtain ⟨refs, -, made⟩ := bind_ok.mp made
  obtain ⟨_, -, made⟩ := bind_ok.mp made
  cases made
  constructor
  · exact ⟨_, Json.get_of (by simp only [Json.member_setMember]; rfl)⟩
  · exact ⟨findings, by simp only [Json.member_setMember]; rfl⟩

/-- The normalized result of a terminal result is read from its payload. -/
theorem terminal_normalizes (t : TerminalParentResult) :
    normalizeParentResult (Json.get t.envelope.payload "normalized_parent_result")
      (t.envelope.logicalContract.scope.maxChildren = 0) = .ok t.normalizedResult := by
  have checked := t.checked
  unfold readNormalized at checked
  obtain ⟨n, made, checked⟩ := bind_ok.mp checked
  obtain ⟨_, -, checked⟩ := bind_ok.mp checked
  obtain ⟨_, -, checked⟩ := bind_ok.mp checked
  obtain ⟨_, -, checked⟩ := bind_ok.mp checked
  obtain ⟨_, -, checked⟩ := bind_ok.mp checked
  obtain ⟨_, -, checked⟩ := bind_ok.mp checked
  obtain ⟨_, -, checked⟩ := bind_ok.mp checked
  cases checked
  exact made

theorem terminal_normalized (t : TerminalParentResult) : Normalized t.normalizedResult :=
  normalizeParentResult_normalized (terminal_normalizes t)

/-- The members of the decision of a result. -/
def decisionOf (n : List (String × Json)) : List (String × Json) :=
  membersOf (Json.get n "controller_decision")

/-- The findings of a result. -/
def findingsOf (n : List (String × Json)) : List Json := itemsOf (Json.get n "findings")

/-- The reported artifacts of the envelope. -/
def reportedArtifacts (t : TerminalParentResult) : Json :=
  Json.get (membersOf (t.envelope.result.getD .null)) "artifact_refs"

/-- A result names a criterion in one of its four lists. -/
def Claims (n : List (String × Json)) (s : String) : Prop :=
  Listed (Json.get n "accepted_criteria") s ∨ Listed (Json.get n "criteria") s ∨
    Listed (Json.get (decisionOf n) "accepted_criteria") s ∨ Listed (Json.get (decisionOf n) "criteria") s

/-- A terminal result names an evidence reference somewhere. -/
def Cites (t : TerminalParentResult) (s : String) : Prop :=
  Listed (Json.get t.normalizedResult "evidence_refs") s ∨
    Listed (Json.get t.normalizedResult "artifact_refs") s ∨
    Listed (Json.get (decisionOf t.normalizedResult) "evidence_refs") s ∨
    (∃ f ∈ findingsOf t.normalizedResult, Listed (Json.get (membersOf f) "evidence_refs") s) ∨
    Listed (reportedArtifacts t) s

/-- Every list of criteria can be read. -/
structure CriteriaReadable (n : List (String × Json)) : Prop where
  accepted : Readable (Json.get n "accepted_criteria")
  criteria : Readable (Json.get n "criteria")
  decisionAccepted : Readable (Json.get (decisionOf n) "accepted_criteria")
  decisionCriteria : Readable (Json.get (decisionOf n) "criteria")

/-- Every list of evidence references can be read. -/
structure EvidenceReadable (t : TerminalParentResult) : Prop where
  evidence : Readable (Json.get t.normalizedResult "evidence_refs")
  artifacts : Readable (Json.get t.normalizedResult "artifact_refs")
  decision : Readable (Json.get (decisionOf t.normalizedResult) "evidence_refs")
  findings : ∀ f ∈ findingsOf t.normalizedResult, Readable (Json.get (membersOf f) "evidence_refs")
  reported : Readable (reportedArtifacts t)

omit [Sha256] in
theorem decisionTexts_eq {n : List (String × Json)} (normalized : Normalized n) (name : String) :
    decisionTexts n name = textValues (Json.get (decisionOf n) name) s!"controller_decision.{name}" := by
  obtain ⟨members, shape⟩ := normalized.decision
  unfold decisionTexts decisionOf
  rw [shape]
  rfl

omit [Sha256] in
theorem resultCriteria_ok {n : List (String × Json)} (normalized : Normalized n) :
    (∀ covered, resultCriteria n = .ok covered → CriteriaReadable n ∧ ∀ s, s ∈ covered ↔ Claims n s) ∧
      (CriteriaReadable n → ∃ covered, resultCriteria n = .ok covered) := by
  unfold resultCriteria
  simp only [decisionTexts_eq normalized]
  constructor
  · intro covered read
    obtain ⟨accepted, first, read⟩ := bind_ok.mp read
    obtain ⟨criteria, second, read⟩ := bind_ok.mp read
    obtain ⟨decisionAccepted, third, read⟩ := bind_ok.mp read
    obtain ⟨decisionCriteria, fourth, read⟩ := bind_ok.mp read
    cases read
    have first := textValues_ok first
    have second := textValues_ok second
    have third := textValues_ok third
    have fourth := textValues_ok fourth
    refine ⟨⟨first.1, second.1, third.1, fourth.1⟩, fun s => ?_⟩
    simp only [mem_sortedSet, List.mem_append, first.2, second.2, third.2, fourth.2, or_assoc, Claims]
  · intro readable
    simp only [textValues_of readable.accepted, textValues_of readable.criteria,
      textValues_of readable.decisionAccepted, textValues_of readable.decisionCriteria, ok_bind]
    exact ⟨_, rfl⟩

omit [Sha256] in
theorem findingItems_eq {n : List (String × Json)} (normalized : Normalized n) :
    findingItems n = .ok (findingsOf n) ∧ ∀ f ∈ findingsOf n, ∃ members, f = .obj members := by
  obtain ⟨items, shape⟩ := normalized.findings
  have found : findingsOf n = items.map .obj := by
    unfold findingsOf
    rw [Json.get_of shape]
    rfl
  constructor
  · unfold findingItems
    rw [shape, found]
  · intro f member
    rw [found] at member
    obtain ⟨members, -, rfl⟩ := List.mem_map.mp member
    exact ⟨members, rfl⟩

omit [Sha256] in
/-- The references of objects, read one by one. -/
theorem findingRefs_ok {found : List (Json × Nat)} {cited : List (List String)}
    (read : found.mapM findingRefs = .ok cited) :
    (∀ f ∈ found.map Prod.fst, Readable (Json.get (membersOf f) "evidence_refs")) ∧
      ∀ s, s ∈ cited.flatten ↔
        ∃ f ∈ found.map Prod.fst, Listed (Json.get (membersOf f) "evidence_refs") s := by
  have each := mapM_ok.mp read
  clear read
  induction each with
  | nil => simp
  | @cons entry refs rest others first _ ih =>
    obtain ⟨finding, index⟩ := entry
    obtain ⟨members, object, first⟩ := bind_ok.mp first
    have shape : finding = .obj members := by
      cases finding with
      | obj _ =>
        cases object
        rfl
      | _ => cases object
    subst shape
    have first := textValues_ok first
    constructor
    · exact List.forall_mem_cons.mpr ⟨first.1, ih.1⟩
    · intro s
      rw [List.flatten_cons, List.mem_append, ih.2, first.2, List.map_cons, List.exists_mem_cons_iff]
      rfl

omit [Sha256] in
theorem findingRefs_of {found : List (Json × Nat)}
    (objects : ∀ entry ∈ found, ∃ members, entry.1 = .obj members)
    (readable : ∀ entry ∈ found, Readable (Json.get (membersOf entry.1) "evidence_refs")) :
    ∃ cited, found.mapM findingRefs = .ok cited := by
  refine exists_mapM_ok fun entry member => ?_
  obtain ⟨members, object⟩ := objects entry member
  have readable := readable entry member
  obtain ⟨finding, index⟩ := entry
  subst object
  exact ⟨_, textValues_of readable _⟩

/-- The result object of the envelope. -/
def resultOf (t : TerminalParentResult) : List (String × Json) :=
  membersOf (t.envelope.result.getD .null)

omit [Sha256] in
theorem isResult_status {members : List (String × Json)} (shape : isResult (.obj members) = true) :
    ∃ s ∈ ["SUCCEEDED", "FAILED", "NEEDS_CLARIFICATION", "STALE", "REJECTED"],
      Json.get members "status" = .str s := by
  unfold isResult isRecord at shape
  have required := (Bool.and_eq_true_iff.mp (Bool.and_eq_true_iff.mp shape).1).1
  have status := List.all_eq_true.mp required _ List.mem_cons_self
  cases found : Json.member members "status" with
  | none =>
    rw [found] at status
    cases status
  | some value =>
    rw [found] at status
    cases value with
    | str s => exact ⟨s, of_decide_eq_true status, Json.get_of found⟩
    | _ => cases status

/-- The envelope of a terminal result carries a result object of the schema. -/
theorem terminal_result (t : TerminalParentResult) :
    resultMapping t = .ok (resultOf t) ∧
      ∃ s ∈ ["SUCCEEDED", "FAILED", "NEEDS_CLARIFICATION", "STALE", "REJECTED"],
        Json.get (resultOf t) "status" = .str s := by
  have kind := TerminalOnce.terminal_type t
  have conforming := (envelope_sound t.envelope).1
  unfold EnvelopeFields.conforms at conforming
  have shape := (Bool.and_eq_true_iff.mp conforming).2
  rw [kind, MessageType.carriesResult, if_pos rfl] at shape
  unfold resultMapping resultOf
  cases found : t.envelope.result with
  | none =>
    rw [found] at shape
    cases shape
  | some result =>
    rw [found] at shape
    cases result with
    | obj members => exact ⟨rfl, isResult_status shape⟩
    | _ => cases shape

/-- The texts of the evidence lists are the cited references. -/
theorem resultEvidenceRefs_ok (t : TerminalParentResult) :
    (∀ refs, resultEvidenceRefs t.normalizedResult t = .ok refs →
      EvidenceReadable t ∧ ∀ s, s ∈ refs ↔ Cites t s) ∧
      (EvidenceReadable t → ∃ refs, resultEvidenceRefs t.normalizedResult t = .ok refs) := by
  have normalized := terminal_normalized t
  obtain ⟨listed, objects⟩ := findingItems_eq normalized
  have reported := (terminal_result t).1
  unfold resultEvidenceRefs
  simp only [decisionTexts_eq normalized, listed, reported, ok_bind]
  constructor
  · intro refs read
    obtain ⟨evidence, first, read⟩ := bind_ok.mp read
    obtain ⟨artifacts, second, read⟩ := bind_ok.mp read
    obtain ⟨decision, third, read⟩ := bind_ok.mp read
    obtain ⟨cited, fourth, read⟩ := bind_ok.mp read
    obtain ⟨own, fifth, read⟩ := bind_ok.mp read
    cases read
    have first := textValues_ok first
    have second := textValues_ok second
    have third := textValues_ok third
    have fourth := findingRefs_ok fourth
    have fifth := textValues_ok fifth
    rw [List.zipIdx_map_fst] at fourth
    refine ⟨⟨first.1, second.1, third.1, fourth.1, fifth.1⟩, fun s => ?_⟩
    simp only [mem_sortedSet, List.mem_append, first.2, second.2, third.2, fourth.2, fifth.2,
      or_assoc, Cites]
    rfl
  · intro readable
    obtain ⟨cited, read⟩ := findingRefs_of
      (fun entry (member : entry ∈ (findingsOf t.normalizedResult).zipIdx) =>
        objects _ (List.fst_mem_of_mem_zipIdx member))
      (fun entry member => readable.findings _ (List.fst_mem_of_mem_zipIdx member))
    simp only [textValues_of readable.evidence, textValues_of readable.artifacts,
      textValues_of readable.decision, read, ok_bind]
    have last := textValues_of readable.reported "terminal.result.artifact_refs"
    exact ⟨_, bind_of last _⟩

/-! ## Acceptance -/

/-- The item or its artifact is among the references. -/
def Covered (t : TerminalParentResult) (spec : EvidenceSpec) : Prop :=
  Cites t (strip spec.evidenceId) ∨ ∃ ref, spec.artifactRef = some ref ∧ Cites t (strip ref)

/-- The texts of an evidence item are solid. -/
def SpecSolid (spec : EvidenceSpec) : Prop :=
  Solid spec.evidenceId ∧ ∀ ref, spec.artifactRef = some ref → Solid ref

/-- What the acceptance of a terminal result under a contract asks. -/
structure Accepts (contract : TaskContract) (t : TerminalParentResult)
    (expectedDigest : Option String) : Prop where
  bound : contractIdentity contract t expectedDigest = .ok ()
  succeeded : Json.get (resultOf t) "status" = .str "SUCCEEDED"
  criteriaReadable : CriteriaReadable t.normalizedResult
  evidenceReadable : EvidenceReadable t
  criteria : ∀ c ∈ contract.acceptanceCriteria, Solid c ∧ Claims t.normalizedResult (strip c)
  evidence : ∀ spec ∈ contract.requiredEvidence, SpecSolid spec ∧ Covered t spec

/-- The names that satisfy an evidence item. -/
def tokensOf (spec : EvidenceSpec) : List String :=
  strip spec.evidenceId :: (spec.artifactRef.map strip).toList

omit [Sha256] in
theorem evidenceSpecTokens_ok {spec : EvidenceSpec} {index : Nat} {found : String × List String}
    (read : evidenceSpecTokens spec index = .ok found) :
    SpecSolid spec ∧ ∀ token, token ∈ found.2 ↔ token ∈ tokensOf spec := by
  obtain ⟨evidenceId, first, read⟩ := bind_ok.mp read
  obtain ⟨_, same, solid, rfl⟩ := semanticText_ok.mp first
  cases same
  cases artifact : spec.artifactRef with
  | none =>
    rw [artifact] at read
    rw [← Except.ok.inj read]
    refine ⟨⟨solid, fun ref given => ?_⟩, fun token => ?_⟩
    · rw [artifact] at given
      cases given
    · simp [tokensOf, artifact]
  | some ref =>
    rw [artifact] at read
    obtain ⟨artifactRef, second, read⟩ := bind_ok.mp read
    obtain ⟨_, same, own, rfl⟩ := semanticText_ok.mp second
    cases same
    rw [← Except.ok.inj read]
    refine ⟨⟨solid, fun other given => ?_⟩, fun token => ?_⟩
    · rw [artifact, Option.some_inj] at given
      rwa [← given]
    · simp [tokensOf, artifact, mem_sortedSet]

omit [Sha256] in
theorem evidenceSpecTokens_of {spec : EvidenceSpec} (solid : SpecSolid spec) (index : Nat) :
    ∃ found, evidenceSpecTokens spec index = .ok found := by
  unfold evidenceSpecTokens
  rw [semanticText_of solid.1, ok_bind]
  cases artifact : spec.artifactRef with
  | none => exact ⟨_, rfl⟩
  | some ref => exact ⟨_, bind_of (semanticText_of (solid.2 ref artifact) _) _⟩

theorem tokens_covered {t : TerminalParentResult} {refs : List String}
    (cited : ∀ s, s ∈ refs ↔ Cites t s) {spec : EvidenceSpec} {index : Nat}
    {found : String × List String} (read : evidenceSpecTokens spec index = .ok found) :
    (∃ token ∈ found.2, token ∈ refs) ↔ Covered t spec := by
  obtain ⟨-, tokens⟩ := evidenceSpecTokens_ok read
  simp only [tokens, cited, tokensOf, List.exists_mem_cons_iff]
  unfold Covered
  cases spec.artifactRef <;> simp

/-- No evidence is missing among references that are the cited ones. -/
theorem missingEvidence_nil {t : TerminalParentResult} {refs : List String}
    (cited : ∀ s, s ∈ refs ↔ Cites t s) (specs : List EvidenceSpec) :
    missingEvidence refs specs = .ok [] ↔ ∀ spec ∈ specs, SpecSolid spec ∧ Covered t spec := by
  unfold missingEvidence
  constructor
  · intro complete spec member
    obtain ⟨tokens, read, complete⟩ := bind_ok.mp complete
    have none := List.filter_eq_nil_iff.mp (List.map_eq_nil_iff.mp (Except.ok.inj complete))
    have inside : spec ∈ specs.zipIdx.map Prod.fst := by rwa [List.zipIdx_map_fst]
    obtain ⟨⟨_, index⟩, entry, rfl⟩ := List.mem_map.mp inside
    obtain ⟨found, listed, own⟩ := mapM_of_mem read entry
    refine ⟨(evidenceSpecTokens_ok own).1, (tokens_covered cited own).mp ?_⟩
    by_contra absent
    refine none found listed (decide_eq_true fun token among => ?_)
    exact fun named => absent ⟨token, among, named⟩
  · intro complete
    obtain ⟨tokens, read⟩ : ∃ tokens, (specs.zipIdx.mapM fun entry =>
        evidenceSpecTokens entry.1 entry.2) = .ok tokens :=
      exists_mapM_ok fun entry member =>
        evidenceSpecTokens_of (complete _ (List.fst_mem_of_mem_zipIdx member)).1 entry.2
    rw [read, ok_bind]
    refine congrArg Except.ok (List.map_eq_nil_iff.mpr (List.filter_eq_nil_iff.mpr ?_))
    intro found listed absent
    obtain ⟨entry, member, own⟩ := mapM_mem read listed
    obtain ⟨token, among, named⟩ := (tokens_covered cited own).mpr
      (complete _ (List.fst_mem_of_mem_zipIdx member)).2
    exact of_decide_eq_true absent token among named

omit [Sha256] in
theorem upper_status {s : String}
    (known : s ∈ ["SUCCEEDED", "FAILED", "NEEDS_CLARIFICATION", "STALE", "REJECTED"]) :
    Solid s ∧ upper (strip s) = s := by
  revert s
  decide

omit [Sha256] in
theorem reasonsAgainst_nil {status : String} {criteria evidence : List String} :
    reasonsAgainst status criteria evidence = [] ↔
      status = "SUCCEEDED" ∧ criteria = [] ∧ evidence = [] := by
  unfold reasonsAgainst
  by_cases first : status = "SUCCEEDED" <;> by_cases second : criteria = [] <;>
    by_cases third : evidence = [] <;> simp [first, second, third]

/-- A result is accepted exactly when the contract, the status, the criteria and the
evidence say so. -/
theorem accepts_iff (contract : TaskContract) (t : TerminalParentResult)
    (expectedDigest : Option String) :
    (∃ a, evaluateTerminalAcceptance contract t expectedDigest = .ok a ∧ a.accepted = true) ↔
      Accepts contract t expectedDigest := by
  obtain ⟨reported, status, known, shown⟩ := terminal_result t
  obtain ⟨solid, same⟩ := upper_status known
  obtain ⟨readCriteria, someCriteria⟩ := resultCriteria_ok (terminal_normalized t)
  obtain ⟨readEvidence, someEvidence⟩ := resultEvidenceRefs_ok t
  unfold evaluateTerminalAcceptance
  constructor
  · rintro ⟨a, made, accepted⟩
    obtain ⟨_, bound, made⟩ := bind_ok.mp made
    rw [reported, ok_bind, shown, semanticText_of solid, ok_bind, same] at made
    obtain ⟨covered, criteria, made⟩ := bind_ok.mp made
    obtain ⟨refs, evidence, made⟩ := bind_ok.mp made
    obtain ⟨required, texts, made⟩ := bind_ok.mp made
    obtain ⟨missing, absent, made⟩ := bind_ok.mp made
    cases made
    obtain ⟨succeeded, complete, none⟩ := reasonsAgainst_nil.mp (of_decide_eq_true accepted)
    subst none succeeded
    obtain ⟨criteriaReadable, claims⟩ := readCriteria covered criteria
    obtain ⟨evidenceReadable, cites⟩ := readEvidence refs evidence
    refine ⟨bound, shown, criteriaReadable, evidenceReadable, fun c member => ?_,
      (missingEvidence_nil cites _).mp absent⟩
    obtain ⟨text, listed, own⟩ := mapM_of_mem texts member
    obtain ⟨_, named, solidText, rfl⟩ := semanticText_ok.mp own
    cases named
    refine ⟨solidText, (claims _).mp ?_⟩
    have kept := List.filter_eq_nil_iff.mp complete _ (mem_sortedSet.mpr listed)
    exact not_not.mp fun out => kept (decide_eq_true out)
  · intro accepts
    obtain ⟨covered, criteria⟩ := someCriteria accepts.criteriaReadable
    obtain ⟨refs, evidence⟩ := someEvidence accepts.evidenceReadable
    have claims := (readCriteria covered criteria).2
    have none := (missingEvidence_nil (readEvidence refs evidence).2 _).mpr accepts.evidence
    obtain ⟨required, texts⟩ : ∃ required, (contract.acceptanceCriteria.mapM fun item =>
        semanticText (.str item) "contract.acceptance_criteria[]") = .ok required :=
      exists_mapM_ok fun c member => ⟨_, semanticText_of (accepts.criteria c member).1 _⟩
    have complete : (sortedSet required).filter (· ∉ covered) = [] := by
      refine List.filter_eq_nil_iff.mpr fun text listed out => ?_
      obtain ⟨c, member, own⟩ := mapM_mem texts (mem_sortedSet.mp listed)
      obtain ⟨_, named, -, rfl⟩ := semanticText_ok.mp own
      cases named
      exact of_decide_eq_true out ((claims _).mpr (accepts.criteria c member).2)
    rw [accepts.bound, ok_bind, reported, ok_bind, shown, semanticText_of solid, ok_bind, same,
      criteria, ok_bind, evidence, ok_bind, texts, ok_bind, none, ok_bind]
    refine ⟨_, rfl, decide_eq_true (reasonsAgainst_nil.mpr ⟨?_, complete, rfl⟩)⟩
    exact Json.str.inj (shown.symm.trans accepts.succeeded)

/-! ## More evidence -/

/-- The array keeps its texts and can still be read. -/
def Extends (before after : Json) : Prop :=
  (∀ s, Listed before s → Listed after s) ∧ (Readable before → Readable after)

/-- The same result with more evidence: identity, status and criteria are kept, and
every list of evidence references keeps its texts. -/
structure AddsEvidence (t t' : TerminalParentResult) : Prop where
  runId : t'.envelope.runId = t.envelope.runId
  nodeId : t'.envelope.nodeId = t.envelope.nodeId
  identity : t'.envelope.executionIdentity = t.envelope.executionIdentity
  contract : t'.envelope.logicalContract = t.envelope.logicalContract
  status : Json.get (resultOf t') "status" = Json.get (resultOf t) "status"
  criteria : ∀ name ∈ ["accepted_criteria", "criteria"],
    Json.get t'.normalizedResult name = Json.get t.normalizedResult name ∧
      Json.get (decisionOf t'.normalizedResult) name = Json.get (decisionOf t.normalizedResult) name
  evidence : ∀ name ∈ ["evidence_refs", "artifact_refs"],
    Extends (Json.get t.normalizedResult name) (Json.get t'.normalizedResult name)
  decision : Extends (Json.get (decisionOf t.normalizedResult) "evidence_refs")
    (Json.get (decisionOf t'.normalizedResult) "evidence_refs")
  reported : Extends (reportedArtifacts t) (reportedArtifacts t')
  findings : ∀ f ∈ findingsOf t.normalizedResult, ∃ f' ∈ findingsOf t'.normalizedResult,
    ∀ s, Listed (Json.get (membersOf f) "evidence_refs") s →
      Listed (Json.get (membersOf f') "evidence_refs") s
  readable : ∀ f' ∈ findingsOf t'.normalizedResult,
    Readable (Json.get (membersOf f') "evidence_refs")

theorem AddsEvidence.cites {t t' : TerminalParentResult} (adds : AddsEvidence t t') {s : String}
    (cited : Cites t s) : Cites t' s := by
  rcases cited with own | own | own | ⟨f, member, own⟩ | own
  · exact .inl ((adds.evidence _ (by decide)).1 s own)
  · exact .inr (.inl ((adds.evidence _ (by decide)).1 s own))
  · exact .inr (.inr (.inl (adds.decision.1 s own)))
  · obtain ⟨f', later, kept⟩ := adds.findings f member
    exact .inr (.inr (.inr (.inl ⟨f', later, kept s own⟩)))
  · exact .inr (.inr (.inr (.inr (adds.reported.1 s own))))

theorem AddsEvidence.accepts {contract : TaskContract} {t t' : TerminalParentResult}
    {expectedDigest : Option String} (adds : AddsEvidence t t')
    (accepts : Accepts contract t expectedDigest) : Accepts contract t' expectedDigest where
  bound := by
    have bound := accepts.bound
    simp only [contractIdentity] at bound ⊢
    rw [adds.runId, adds.nodeId, adds.identity, adds.contract]
    exact bound
  succeeded := adds.status.trans accepts.succeeded
  criteriaReadable := by
    obtain ⟨accepted, criteria, decisionAccepted, decisionCriteria⟩ := accepts.criteriaReadable
    have first := adds.criteria "accepted_criteria" (by decide)
    have second := adds.criteria "criteria" (by decide)
    constructor
    · rwa [first.1]
    · rwa [second.1]
    · rwa [first.2]
    · rwa [second.2]
  evidenceReadable := {
    evidence := (adds.evidence _ (by decide)).2 accepts.evidenceReadable.evidence
    artifacts := (adds.evidence _ (by decide)).2 accepts.evidenceReadable.artifacts
    decision := adds.decision.2 accepts.evidenceReadable.decision
    findings := adds.readable
    reported := adds.reported.2 accepts.evidenceReadable.reported }
  criteria := by
    intro c member
    obtain ⟨solid, claims⟩ := accepts.criteria c member
    have first := adds.criteria "accepted_criteria" (by decide)
    have second := adds.criteria "criteria" (by decide)
    refine ⟨solid, ?_⟩
    unfold Claims at claims ⊢
    rwa [first.1, second.1, first.2, second.2]
  evidence := by
    intro spec member
    obtain ⟨solid, covered⟩ := accepts.evidence spec member
    refine ⟨solid, ?_⟩
    rcases covered with own | ⟨ref, artifact, own⟩
    · exact .inl (adds.cites own)
    · exact .inr ⟨ref, artifact, adds.cites own⟩

/-! ## Closing -/

/-- No signal, or a false one. -/
def Unset (value : Json) : Prop := value = .null ∨ value = .bool false

/-- Neither the result nor its decision calls for a human. -/
def Unsignalled (n : List (String × Json)) : Prop :=
  ∀ name ∈ humanSignals, Unset (Json.get n name) ∧ Unset (Json.get (decisionOf n) name)

/-- The result asks for the decision. -/
def Requests (n : List (String × Json)) (decision : String) : Prop :=
  ∃ s, Json.get (decisionOf n) "decision_type" = .str s ∧ upper (strip s) = decision

omit [Sha256] in
theorem truthSignal_false {value : Json} {field : String} :
    truthSignal value field = .ok false ↔ Unset value := by
  cases value <;> simp [truthSignal, Unset]

omit [Sha256] in
theorem anySignal_false {members : List (String × Json)} {owner : String} (names : List String) :
    anySignal members owner names = .ok false ↔ ∀ name ∈ names, Unset (Json.get members name) := by
  induction names with
  | nil => simp [anySignal]
  | cons name rest ih =>
    rw [List.forall_mem_cons, ← ih, ← @truthSignal_false _ s!"{owner}.{name}", anySignal]
    cases truthSignal (Json.get members name) s!"{owner}.{name}" with
    | error e => simp
    | ok signal => cases signal <;> simp [pure, Except.pure]

omit [Sha256] in
theorem humanSignal_false {n : List (String × Json)} :
    humanSignal n (decisionOf n) = .ok false ↔ Unsignalled n := by
  have own := @anySignal_false n "normalized_parent_result" humanSignals
  have decided := @anySignal_false (decisionOf n) "controller_decision"
    humanSignals
  unfold humanSignal Unsignalled
  rw [forall₂_and, ← own, ← decided]
  cases anySignal n "normalized_parent_result" humanSignals with
  | error e => simp
  | ok signal => cases signal <;> simp [pure, Except.pure]

omit [Sha256] in
theorem decisionText_str {value : Json} {field t : String}
    (read : decisionText value field = .ok t) : ∃ s, value = .str s ∧ strip s = t := by
  cases value with
  | str s =>
    obtain ⟨_, -, read⟩ := bind_ok.mp read
    obtain ⟨_, -, read⟩ := bind_ok.mp read
    exact ⟨s, rfl, Except.ok.inj read⟩
  | _ => cases read

omit [Sha256] in
/-- Only an accepted request for completion without a signal is mapped to completion. -/
theorem mappedDecision_complete {requested : String} {accepted signal : Bool} :
    mappedDecision requested accepted signal = "COMPLETE" ↔
      requested = "COMPLETE" ∧ accepted = true ∧ signal = false := by
  unfold mappedDecision completionBlocked
  by_cases complete : requested = "COMPLETE"
  · subst complete
    cases accepted <;> cases signal <;> decide
  · split
    · simp [complete]
    · split <;> simp [complete]

/-- A mapped decision closes exactly when completion was asked for and accepted and no
human is called for. -/
theorem canClose_iff {t : TerminalParentResult} {a : SemanticAcceptance} {m : DecisionMapping}
    (mapped : mapTerminalDecision t a = .ok m) :
    m.canClose = true ↔
      Requests t.normalizedResult "COMPLETE" ∧ a.accepted = true ∧ Unsignalled t.normalizedResult := by
  obtain ⟨members, shape⟩ := (terminal_normalized t).decision
  have own : decisionOf t.normalizedResult = members := by
    unfold decisionOf
    rw [shape]
    rfl
  simp only [mapTerminalDecision, shape, ok_bind] at mapped
  obtain ⟨_, -, mapped⟩ := bind_ok.mp mapped
  obtain ⟨requested, asked, mapped⟩ := bind_ok.mp mapped
  obtain ⟨_, -, mapped⟩ := bind_ok.mp mapped
  obtain ⟨decisionId, -, mapped⟩ := bind_ok.mp mapped
  obtain ⟨rationale, -, mapped⟩ := bind_ok.mp mapped
  obtain ⟨refs, -, mapped⟩ := bind_ok.mp mapped
  obtain ⟨_, -, mapped⟩ := bind_ok.mp mapped
  obtain ⟨_, -, mapped⟩ := bind_ok.mp mapped
  obtain ⟨signal, signalled, mapped⟩ := bind_ok.mp mapped
  cases mapped
  have unsignalled : signal = false ↔ Unsignalled t.normalizedResult := by
    rw [← humanSignal_false, own, signalled, Except.ok.injEq]
  have complete : upper requested = "COMPLETE" ↔ Requests t.normalizedResult "COMPLETE" := by
    obtain ⟨s, text, rfl⟩ := decisionText_str asked
    unfold Requests
    rw [own, text]
    constructor
    · exact fun same => ⟨s, rfl, same⟩
    · rintro ⟨_, ⟨⟩, same⟩
      exact same
  rw [← unsignalled, ← complete]
  unfold DecisionMapping.canClose
  rw [decide_eq_true_iff, mappedDecision_complete]
  constructor
  · exact fun closes => closes.1
  · rintro ⟨requests, accepted, rfl⟩
    refine ⟨⟨requests, accepted, rfl⟩, ?_, ?_, rfl⟩
    · simp [completionBlocked, accepted]
    · simp [requests]

/-! ## Final verdicts -/

/-- A result `build_terminal_parent_result` made. -/
def Built (t : TerminalParentResult) : Prop :=
  ∃ request raw message, buildTerminalParentResult request raw message = .ok t

/-- Where there is a verdict, it is a passing one. -/
def Passing (value : Option Json) : Prop :=
  ∀ v ∈ value, ∃ s, v = .str s ∧ upper (strip s) ∈ ["PASS", "SUCCEEDED"]

omit [Sha256] in
theorem statusOf_succeeded {candidate : String} (succeeded : statusOf candidate = .succeeded) :
    candidate ∈ ["PASS", "SUCCEEDED"] := by
  unfold statusOf at succeeded
  split at succeeded
  · next status found =>
    subst succeeded
    have named := List.find?_some found
    rw [← of_decide_eq_true named]
    decide
  · split at succeeded
    · next pass =>
      rw [pass]
      decide
    · split at succeeded <;> cases succeeded

/-- Normalization sets its own members only. -/
theorem normalizeParentResult_member {value : Json} {allowEmpty : Bool}
    {n : List (String × Json)} (made : normalizeParentResult value allowEmpty = .ok n)
    {name : String} (other : name ∉ ["findings", "child_refs", "child_provenance",
      "child_result_digests", "residual_risks", "unresolved_questions", "controller_decision",
      "result_digest"]) : Json.member n name = Json.member (membersOf value) name := by
  simp only [List.mem_cons, List.not_mem_nil, or_false, not_or] at other
  obtain ⟨findings, children, provenance, digests, risks, questions, decision, digest⟩ := other
  unfold normalizeParentResult at made
  obtain ⟨candidate, object, made⟩ := bind_ok.mp made
  obtain ⟨_, -, made⟩ := bind_ok.mp made
  obtain ⟨_, -, made⟩ := bind_ok.mp made
  obtain ⟨_, -, made⟩ := bind_ok.mp made
  obtain ⟨_, -, made⟩ := bind_ok.mp made
  obtain ⟨_, -, made⟩ := bind_ok.mp made
  obtain ⟨_, -, made⟩ := bind_ok.mp made
  obtain ⟨_, -, made⟩ := bind_ok.mp made
  obtain ⟨_, -, made⟩ := bind_ok.mp made
  cases made
  have same : membersOf value = candidate := by
    cases value with
    | obj members => exact Except.ok.inj object
    | _ => cases object
  simp only [Json.member_setMember, same, findings, children, provenance, digests, risks, questions,
    decision, digest, if_false]

omit [Sha256] in
theorem text_str {value : Json} {field t : String}
    (read : text value field = .ok t) : ∃ s, value = .str s ∧ strip s = t := by
  cases value with
  | str s =>
    obtain ⟨_, -, read⟩ := bind_ok.mp read
    obtain ⟨_, -, read⟩ := bind_ok.mp read
    exact ⟨s, rfl, Except.ok.inj read⟩
  | _ => cases read

/-- The status of a built envelope is the operational status of its result. -/
theorem built_status {t : TerminalParentResult} (built : Built t) :
    ∃ s, reportedStatus t.normalizedResult = .str s ∧
      Json.get (resultOf t) "status" = .str (statusOf (upper (strip s))).value := by
  obtain ⟨request, raw, message, made⟩ := built
  obtain ⟨normalized, -, made⟩ := bind_ok.mp made
  obtain ⟨fields, filled, made⟩ := bind_ok.mp made
  obtain ⟨envelope, accepted, made⟩ := bind_ok.mp made
  have own := terminalEnvelope_ok.mp accepted
  have read := TerminalOnce.fromEnvelope_ok made
  unfold terminalFields at filled
  obtain ⟨_, -, filled⟩ := bind_ok.mp filled
  obtain ⟨capability, -, filled⟩ := bind_ok.mp filled
  obtain ⟨agentInstance, -, filled⟩ := bind_ok.mp filled
  obtain ⟨sources, -, filled⟩ := bind_ok.mp filled
  obtain ⟨status, operational, filled⟩ := bind_ok.mp filled
  obtain ⟨artifactRefs, -, filled⟩ := bind_ok.mp filled
  obtain ⟨findings, -, filled⟩ := bind_ok.mp filled
  obtain ⟨messageId, -, filled⟩ := bind_ok.mp filled
  obtain ⟨namespaceName, -, filled⟩ := bind_ok.mp filled
  obtain ⟨actorId, -, filled⟩ := bind_ok.mp filled
  obtain ⟨idempotencyKey, -, filled⟩ := bind_ok.mp filled
  obtain ⟨seq, -, filled⟩ := bind_ok.mp filled
  cases filled
  obtain ⟨candidate, reported, operational⟩ := bind_ok.mp operational
  cases operational
  obtain ⟨s, shown, rfl⟩ := text_str reported
  have payload : t.envelope.payload = terminalPayload request normalized := by
    rw [read, own]
  have again := terminal_normalizes t
  rw [payload] at again
  have kept (name : String) (other : name ∉ ["findings", "child_refs", "child_provenance",
      "child_result_digests", "residual_risks", "unresolved_questions", "controller_decision",
      "result_digest"]) : Json.member t.normalizedResult name = Json.member normalized name :=
    normalizeParentResult_member again other
  refine ⟨s, ?_, ?_⟩
  · rw [← shown]
    unfold reportedStatus Json.get
    rw [kept "status" (by decide), kept "final_verdict" (by decide), kept "verdict" (by decide)]
  · unfold resultOf
    rw [read, own]
    rfl

omit [Sha256] in
theorem value_succeeded {status : ProvenanceStatus} (named : status.value = "SUCCEEDED") :
    status = .succeeded := by
  revert named
  cases status <;> decide

/-- A built result whose own status is missing or repeats its final verdict succeeds
only with a passing verdict. -/
theorem built_passing {t : TerminalParentResult} (built : Built t)
    (succeeded : Json.get (resultOf t) "status" = .str "SUCCEEDED")
    (own : Json.member t.normalizedResult "status" ∈
      [none, Json.member t.normalizedResult "final_verdict"]) :
    Passing (Json.member t.normalizedResult "final_verdict") := by
  obtain ⟨s, reported, status⟩ := built_status built
  have passing := statusOf_succeeded
    (value_succeeded (Json.str.inj (status.symm.trans succeeded)))
  intro v verdict
  have verdict : Json.member t.normalizedResult "final_verdict" = some v := verdict
  refine ⟨s, ?_, passing⟩
  rw [← reported, reportedStatus]
  simp only [List.mem_cons, List.not_mem_nil, or_false] at own
  rcases own with missing | same
  · rw [missing, verdict]
    rfl
  · rw [same, verdict]
    rfl

/-- What closing a node rests on. -/
structure ClosingSafe (contract : TaskContract) (t : TerminalParentResult) : Prop where
  requested : Requests t.normalizedResult "COMPLETE"
  succeeded : Json.get (resultOf t) "status" = .str "SUCCEEDED"
  criteria : ∀ c ∈ contract.acceptanceCriteria, Claims t.normalizedResult (strip c)
  evidence : ∀ spec ∈ contract.requiredEvidence, Covered t spec
  unsignalled : Unsignalled t.normalizedResult
  verdict : Built t → Json.member t.normalizedResult "status" ∈
      [none, Json.member t.normalizedResult "final_verdict"] →
    Passing (Json.member t.normalizedResult "final_verdict")

/-- An accepted result whose decision can close is safe to close, and it stays accepted
with more evidence. -/
theorem closing_safe {contract : TaskContract} {t : TerminalParentResult}
    {expectedDigest : Option String} {a : SemanticAcceptance}
    (evaluated : evaluateTerminalAcceptance contract t expectedDigest = .ok a)
    (accepted : a.accepted = true) :
    (∀ m, mapTerminalDecision t a = .ok m → m.canClose = true → ClosingSafe contract t) ∧
      ∀ t', AddsEvidence t t' →
        ∃ a', evaluateTerminalAcceptance contract t' expectedDigest = .ok a' ∧ a'.accepted = true := by
  have accepts := (accepts_iff contract t expectedDigest).mp ⟨a, evaluated, accepted⟩
  constructor
  · intro m mapped closes
    obtain ⟨requested, -, unsignalled⟩ := (canClose_iff mapped).mp closes
    exact {
      requested, unsignalled
      succeeded := accepts.succeeded
      criteria := fun c member => (accepts.criteria c member).2
      evidence := fun spec member => (accepts.evidence spec member).2
      verdict := fun built own => built_passing built accepts.succeeded own }
  · intro t' adds
    exact (accepts_iff contract t' expectedDigest).mpr (adds.accepts accepts)

end

/-! ## A failing verdict under a successful status -/

open DwSuperApps.Guarantees.MailboxLog (zeroDigest isDigestText_value)

/-- A canonical result that calls itself successful under a failing verdict. -/
def closingResult : List (String × Json) :=
  [("status", .str "SUCCEEDED"), ("final_verdict", .str "FAIL"),
    ("accepted_criteria", .arr [.str "reviewed"]), ("findings", .arr []), ("child_refs", .arr []),
    ("child_provenance", .arr []), ("child_result_digests", .arr []), ("residual_risks", .arr []),
    ("unresolved_questions", .arr []),
    ("controller_decision", .obj [("decision_id", .str "decision"),
      ("decision_type", .str "COMPLETE"), ("rationale", .str "reviewed"),
      ("evidence_refs", .arr [.str "evidence"])]),
    ("result_digest", .str zeroDigest.value)]

theorem run_identifier : Source.Runtime.matchesId "run" := by decide
theorem node_identifier : Source.Runtime.matchesId "node" := by decide
theorem reviewed_demanding : ["reviewed"] ≠ [] := by decide

def closingContract : TaskContract where
  contractId := ⟨"contract", by decide⟩
  runId := ⟨"run", run_identifier⟩
  nodeId := ⟨"node", node_identifier⟩
  acceptanceCriteria := ["reviewed"]
  requiredEvidence := [⟨"evidence", none⟩]
  planVersion := "v1"
  demanding := reviewed_demanding

/-- The envelope of the answer that carries it. -/
def closingFields : EnvelopeFields :=
  { reviewRequest.toEnvelopeFields with
    messageId := "result"
    direction := .executorToController
    messageType := .terminalResult
    payload := terminalPayload reviewRequest closingResult
    provenance := {
      origin := .executor
      parentMessageId := some (some "request")
      childId := some none
      lens := some (some "parent-synthesis")
      agentInstance := reviewRequest.attempt.agentInstance
      status := .succeeded
      sourceRefs := sortedSet (reviewRequest.sourceManifest.sources.map TerminalCarries.refOf)
      evidenceRefs := ["evidence"]
      resultDigest := some zeroDigest.value }
    result := some (resultObject reviewRequest.executionIdentity .succeeded
      (.str zeroDigest.value) (.arr []) (.arr [])) }

theorem closingResult_raw :
    rejectRawContext "normalized_parent_result" (.obj closingResult) = .ok () := by
  have allowed : ∀ key ∈ ["status", "final_verdict", "accepted_criteria", "findings", "child_refs",
      "child_provenance", "child_result_digests", "residual_risks", "unresolved_questions",
      "controller_decision", "decision_id", "decision_type", "rationale", "evidence_refs",
      "result_digest"], casefold key ∉ forbiddenContextKeys := by
    decide
  simp only [List.forall_mem_cons] at allowed
  simp [closingResult, rejectRawContext, rejectRawMembers, rejectRawItems, allowed, ensure_of]

theorem closingResult_normal :
    @normalizeParentResult TerminalOnce.messageHash (.obj closingResult) true = .ok closingResult := by
  have computed : @canonicalResultDigest TerminalOnce.messageHash
      (Json.dropMember "child_provenance" closingResult) = zeroDigest := by
    unfold canonicalResultDigest
    rw [TerminalOnce.messageHash_digest]
    rfl
  unfold normalizeParentResult
  refine bind_ok.mpr ⟨_, TerminalOnce.mapping_obj _ _, ?_⟩
  refine bind_ok.mpr ⟨_, closingResult_raw, ?_⟩
  refine bind_ok.mpr ⟨[], rfl, ?_⟩
  refine bind_ok.mpr ⟨[], rfl, ?_⟩
  refine bind_ok.mpr ⟨[], rfl, ?_⟩
  refine bind_ok.mpr ⟨[], rfl, ?_⟩
  refine bind_ok.mpr ⟨_, TerminalOnce.mapping_obj _ _, ?_⟩
  refine bind_ok.mpr ⟨["evidence"], rfl, ?_⟩
  refine bind_ok.mpr ⟨(), ?_, ?_⟩
  · change (Source.TerminalResult.digest (.str zeroDigest.value) "result_digest" >>= fun supplied =>
      ensure (supplied = (@canonicalResultDigest TerminalOnce.messageHash
        (Json.dropMember "child_provenance" closingResult)).value) _) = .ok ()
    rw [TerminalOnce.digest_zero, ok_bind, computed, ensure_of rfl]
  · change Except.ok (Json.setMember "result_digest" (.str (@canonicalResultDigest
      TerminalOnce.messageHash (Json.dropMember "child_provenance" closingResult)).value)
        closingResult) = .ok closingResult
    rw [computed]
    rfl

theorem closingFields_filled :
    terminalFields reviewRequest closingResult reviewMessage = .ok closingFields := by
  have sources : sourceRefs reviewRequest.sourceManifest =
      .ok (sortedSet (reviewRequest.sourceManifest.sources.map TerminalCarries.refOf)) :=
    TerminalCarries.sourceRefs_ok.mpr
      ⟨List.forall_mem_singleton.mpr ⟨by decide, by decide, by decide⟩, List.cons_ne_nil _ _, rfl⟩
  unfold terminalFields
  refine bind_ok.mpr ⟨(), rfl, ?_⟩
  refine bind_ok.mpr ⟨"control", by decide, ?_⟩
  refine bind_ok.mpr ⟨"controller", by decide, ?_⟩
  refine bind_ok.mpr ⟨_, sources, ?_⟩
  refine bind_ok.mpr ⟨.succeeded, by decide, ?_⟩
  refine bind_ok.mpr ⟨[], rfl, ?_⟩
  refine bind_ok.mpr ⟨[], rfl, ?_⟩
  refine bind_ok.mpr ⟨"result", by decide, ?_⟩
  refine bind_ok.mpr ⟨"executor", by decide, ?_⟩
  refine bind_ok.mpr ⟨"executor", by decide, ?_⟩
  refine bind_ok.mpr ⟨"key", by decide, ?_⟩
  exact bind_ok.mpr ⟨0, rfl, rfl⟩

theorem closingFields_accepted : closingFields.problem = none := by
  have sources : isRefList closingFields.provenance.sourceRefs = true :=
    (TerminalCarries.isRefList_sources reviewRequest).mpr (List.forall_mem_singleton.mpr (by decide))
  refine (@TerminalCarries.problem_none_iff reviewRequest closingFields
    ⟨rfl, rfl, rfl, rfl, rfl, rfl, rfl, rfl⟩ rfl (by decide) rfl).mpr ⟨?_, ?_⟩
  · simp only [Provenance.conforms, sources, Bool.and_true]
    simp only [closingFields, Option.all_some, isDigestText_value]
    decide
  · simp only [closingFields, Option.any_some, isResult, isRecord, resultObject, List.all_cons,
      List.all_nil, Json.member_cons]
    have boundary := (TerminalCarries.request_sound reviewRequest).2.2.1
    simp [isText, boundary, isDigestText_value, isTextArray, isFindings, ProvenanceStatus.value]

def closingEnvelope : V2MailboxEnvelope := ⟨closingFields, closingFields_accepted⟩

theorem closingEnvelope_read :
    @readNormalized TerminalOnce.messageHash closingEnvelope = .ok closingResult := by
  unfold readNormalized
  refine bind_ok.mpr ⟨closingResult, closingResult_normal, ?_⟩
  refine bind_ok.mpr ⟨(), ensure_of rfl _, ?_⟩
  refine bind_ok.mpr ⟨(), ensure_of rfl _, ?_⟩
  refine bind_ok.mpr ⟨(), ensure_of rfl _, ?_⟩
  refine bind_ok.mpr ⟨(), ensure_of rfl _, ?_⟩
  refine bind_ok.mpr ⟨(), ensure_of (Json.same_refl _) _, ?_⟩
  exact bind_ok.mpr ⟨(), ensure_of (Json.same_refl _) _, rfl⟩

def closing : @TerminalParentResult TerminalOnce.messageHash :=
  @TerminalParentResult.mk TerminalOnce.messageHash closingEnvelope closingResult closingEnvelope_read

theorem closing_built : @Built TerminalOnce.messageHash closing := by
  refine ⟨reviewRequest, .obj closingResult, reviewMessage, ?_⟩
  unfold buildTerminalParentResult
  refine bind_ok.mpr ⟨closingResult, closingResult_normal, ?_⟩
  refine bind_ok.mpr ⟨closingFields, closingFields_filled, ?_⟩
  exact bind_ok.mpr ⟨closingEnvelope, terminalEnvelope_ok.mpr rfl,
    @TerminalOnce.fromEnvelope_self TerminalOnce.messageHash closing⟩

/-- It is accepted and can close. -/
theorem closing_closes :
    letI := TerminalOnce.messageHash
    ∃ a m, evaluateTerminalAcceptance closingContract closing = .ok a ∧ a.accepted = true ∧
      mapTerminalDecision closing a = .ok m ∧ m.canClose = true := by
  let _ := TerminalOnce.messageHash
  have accepted : (evaluateTerminalAcceptance closingContract closing).toOption.any (·.accepted) = true := by
    decide
  have closes : (evaluateTerminalAcceptance closingContract closing).toOption.any (fun a =>
      (mapTerminalDecision closing a).toOption.any (·.canClose)) = true := by
    decide
  cases evaluated : evaluateTerminalAcceptance closingContract closing with
  | error e =>
    rw [evaluated] at accepted
    cases accepted
  | ok a =>
    rw [evaluated] at accepted closes
    cases mapped : mapTerminalDecision closing a with
    | error e =>
      rw [Except.toOption, Option.any_some, mapped] at closes
      cases closes
    | ok m =>
      rw [Except.toOption, Option.any_some, mapped] at closes
      exact ⟨a, m, rfl, accepted, mapped, closes⟩

/-- A built result with the verdict `FAIL` is accepted and can close. -/
theorem failing_verdict_closes :
    letI := TerminalOnce.messageHash
    ∃ t a m, Built t ∧ evaluateTerminalAcceptance closingContract t = .ok a ∧
      a.accepted = true ∧ mapTerminalDecision t a = .ok m ∧ m.canClose = true ∧
      Json.member t.normalizedResult "final_verdict" = some (.str "FAIL") := by
  obtain ⟨a, m, evaluated, accepted, mapped, closes⟩ := closing_closes
  exact ⟨closing, a, m, closing_built, evaluated, accepted, mapped, closes, rfl⟩

/-- The same result with everything else closing rests on. -/
theorem closing_safe_built :
    letI := TerminalOnce.messageHash
    ∃ t a, evaluateTerminalAcceptance closingContract t = .ok a ∧ a.accepted = true ∧
      (∃ m, mapTerminalDecision t a = .ok m ∧ m.canClose = true) ∧
      (∀ m, mapTerminalDecision t a = .ok m → m.canClose = true → ClosingSafe closingContract t) ∧
      ∀ t', AddsEvidence t t' →
        ∃ a', evaluateTerminalAcceptance closingContract t' = .ok a' ∧ a'.accepted = true := by
  obtain ⟨a, m, evaluated, accepted, mapped, closes⟩ := closing_closes
  obtain ⟨safe, more⟩ := @closing_safe TerminalOnce.messageHash _ _ _ _ evaluated accepted
  exact ⟨closing, a, evaluated, accepted, ⟨m, mapped, closes⟩, safe, more⟩

end DwSuperApps.Guarantees.ClosingSafety
