import DwSuperApps.Source.MixerInput

/-!
# Receipts and Mixer inputs in any order

The ledger takes one receipt per reviewer, the first bound one, and the manifest reads
outcomes by reviewer. So which receipts and outcomes there are decides both, not their
order or how often they come, as long as no reviewer sends two different bound receipts.

* `appendAll_congr`: the ledger after any series of appends.
* `fromReceiptLedger_perm`: the manifest for any order of the outcomes.
* `manifest_order_free`: both together, readiness and retained evidence.
* `first_receipt_kept`: of two different receipts of a reviewer the first one stays.
-/
namespace DwSuperApps.Guarantees.MixerInputs

open DwSuperApps.Lib DwSuperApps.Lib.Checked DwSuperApps.Lib.Sorted
open DwSuperApps.Source.Findings (NormalizedFinding Rendering)
open DwSuperApps.Source.Conflicts (ReviewVerdict)
open DwSuperApps.Source.FindingReceipts DwSuperApps.Source.FindingReceipts.InitialFindingReceiptLedger
open DwSuperApps.Source.MixerInput DwSuperApps.Source.MixerInput.MixerInputManifest

/-! ## The ledger -/

/-- The receipt is bound to a session the ledger requires. -/
def Bound (l : InitialFindingReceiptLedger) (r : InitialFindingReceipt) : Prop :=
  r.toReviewerReceiptRequirement ∈ l.requiredSessions

theorem ledger_ext {l k : InitialFindingReceiptLedger} (required : l.requiredSessions = k.requiredSessions)
    (receipts : l.receipts = k.receipts) (sealing : l.isSealed = k.isSealed) : l = k := by
  cases l
  cases k
  cases required
  cases receipts
  cases sealing
  rfl

theorem required_distinct (l : InitialFindingReceiptLedger) : (l.requiredSessions.map reviewerOf).Nodup :=
  distinct_of_strict l.requiredSorted

/-- At most one receipt of each reviewer. -/
theorem one_receipt_each (l : InitialFindingReceiptLedger) : l.receivedReviewerIds.Nodup :=
  distinct_of_strict l.receiptsSorted

section Appending
variable [Sha256] {l : InitialFindingReceiptLedger} {r : InitialFindingReceipt}

omit [Sha256] in
/-- A ledger can be constructed with one more receipt of a new reviewer. -/
theorem create_new (unsealed : l.isSealed = false) (bound : Bound l r)
    (new : ∀ y ∈ l.receipts, receiptReviewer y ≠ receiptReviewer r) :
    ∃ k, InitialFindingReceiptLedger.create l.requiredSessions (l.receipts ++ [r]) l.isSealed = .ok k ∧
      k.requiredSessions = l.requiredSessions ∧ k.isSealed = false ∧
      ∀ x, x ∈ k.receipts ↔ x ∈ l.receipts ∨ x = r := by
  have distinct := required_distinct l
  have once : ((l.receipts ++ [r]).map receiptReviewer).Nodup := by
    rw [List.map_append]
    refine (one_receipt_each l).append (List.nodup_singleton _) ?_
    intro reviewer held own
    obtain ⟨y, member, rfl⟩ := List.mem_map.mp held
    exact new y member (List.mem_singleton.mp own)
  have checked : checkReceipts l.requiredSessions [] (l.receipts ++ [r]) = .ok () := by
    refine (checkReceipts_ok distinct).mpr ⟨once, fun _ _ => List.not_mem_nil, fun x member => ?_⟩
    rcases List.mem_append.mp member with held | own
    · exact l.bound x held
    · rw [List.mem_singleton.mp own]
      exact bound
  have sorted : sortedBy reviewerOf l.requiredSessions = l.requiredSessions :=
    eq_of_strict (sortedBy_strict distinct) l.requiredSorted fun _ => mem_sortedBy
  unfold InitialFindingReceiptLedger.create
  rw [dif_pos l.required, dif_pos distinct]
  split
  · next e failed =>
    rw [checked] at failed
    cases failed
  · rw [dif_pos fun on => by rw [unsealed] at on; cases on]
    exact ⟨_, rfl, sorted, unsealed, fun x => by simp⟩

/-- The ledger after one call of `append`. -/
def next (l : InitialFindingReceiptLedger) (r : InitialFindingReceipt) : InitialFindingReceiptLedger :=
  (l.append r).toOption.getD l

omit [Sha256] in
/-- The receipt is the first of its reviewer in an open ledger that requires it. -/
def Taken (l : InitialFindingReceiptLedger) (r : InitialFindingReceipt) : Prop :=
  l.isSealed = false ∧ Bound l r ∧ ∀ y ∈ l.receipts, receiptReviewer y ≠ receiptReviewer r

theorem append_taken (taken : Taken l r) : ∃ k, l.append r = .ok k ∧
    k.requiredSessions = l.requiredSessions ∧ k.isSealed = false ∧
      ∀ x, x ∈ k.receipts ↔ x ∈ l.receipts ∨ x = r := by
  obtain ⟨unsealed, bound, new⟩ := taken
  obtain ⟨k, made, spec⟩ := create_new unsealed bound new
  have first : l.receipts.find? (receiptReviewer · = receiptReviewer r) = none :=
    List.find?_eq_none.mpr fun y held => by simpa using new y held
  refine ⟨k, ?_, spec⟩
  unfold append
  rw [ensure_of unsealed, ok_bind, (validateBinding_ok (required_distinct l)).mpr bound, ok_bind, first]
  exact made

/-- Any other call leaves the ledger as it is. -/
theorem next_kept (refused : ¬ Taken l r) : next l r = l := by
  unfold next append
  by_cases unsealed : l.isSealed = false
  · rw [ensure_of unsealed, ok_bind]
    by_cases bound : Bound l r
    · rw [(validateBinding_ok (required_distinct l)).mpr bound, ok_bind]
      cases found : l.receipts.find? (receiptReviewer · = receiptReviewer r) with
      | some existing =>
        dsimp only
        split <;> rfl
      | none => exact absurd ⟨unsealed, bound, Keyed.find_none found⟩ refused
    · cases checked : validateBinding l.requiredSessions r with
      | ok u => exact absurd ((validateBinding_ok (required_distinct l)).mp checked) bound
      | error e => rfl
  · rw [ensure_error unsealed]
    rfl

theorem next_spec (l : InitialFindingReceiptLedger) (r : InitialFindingReceipt) :
    (next l r).requiredSessions = l.requiredSessions ∧ (next l r).isSealed = l.isSealed ∧
      ∀ x, x ∈ (next l r).receipts ↔ x ∈ l.receipts ∨ (x = r ∧ Taken l r) := by
  by_cases taken : Taken l r
  · obtain ⟨k, made, required, unsealed, members⟩ := append_taken taken
    have same : next l r = k := by
      unfold next
      rw [made]
      rfl
    rw [same]
    exact ⟨required, unsealed.trans taken.1.symm, fun x => by simp [members x, taken]⟩
  · rw [next_kept taken]
    exact ⟨rfl, rfl, fun x => by simp [taken]⟩

/-- No reviewer has two different bound receipts. -/
def Agrees (l : InitialFindingReceiptLedger) (receipts : List InitialFindingReceipt) : Prop :=
  ∀ a ∈ receipts, Bound l a → ∀ b, b ∈ l.receipts ∨ (b ∈ receipts ∧ Bound l b) →
    receiptReviewer a = receiptReviewer b → a = b

theorem appendAll_spec {receipts : List InitialFindingReceipt} (agrees : Agrees l receipts) :
    (appendAll l receipts).requiredSessions = l.requiredSessions ∧
      (appendAll l receipts).isSealed = l.isSealed ∧
      ∀ x, x ∈ (appendAll l receipts).receipts ↔
        x ∈ l.receipts ∨ (l.isSealed = false ∧ x ∈ receipts ∧ Bound l x) := by
  induction receipts generalizing l with
  | nil => exact ⟨rfl, rfl, fun x => by simp [appendAll]⟩
  | cons r rest ih =>
    obtain ⟨required, sealing, members⟩ := next_spec l r
    have bound (x : InitialFindingReceipt) : Bound (next l r) x ↔ Bound l x := by
      unfold Bound
      rw [required]
    have later : Agrees (next l r) rest := by
      intro a inside own b other same
      refine agrees a (List.mem_cons_of_mem r inside) ((bound a).mp own) b ?_ same
      rcases other with held | ⟨member, also⟩
      · rcases (members b).mp held with old | ⟨rfl, taken⟩
        · exact .inl old
        · exact .inr ⟨List.mem_cons_self, taken.2.1⟩
      · exact .inr ⟨List.mem_cons_of_mem r member, (bound b).mp also⟩
    obtain ⟨requiredLater, sealingLater, membersLater⟩ := ih later
    refine ⟨requiredLater.trans required, sealingLater.trans sealing, fun x => ?_⟩
    change x ∈ (appendAll (next l r) rest).receipts ↔ _
    rw [membersLater x, members x, sealing, bound x, List.mem_cons]
    constructor
    · rintro ((old | ⟨rfl, unsealed, taken, _⟩) | ⟨unsealed, inside, own⟩)
      · exact .inl old
      · exact .inr ⟨unsealed, .inl rfl, taken⟩
      · exact .inr ⟨unsealed, .inr inside, own⟩
    · rintro (old | ⟨unsealed, rfl | inside, own⟩)
      · exact .inl (.inl old)
      · -- the receipt is there already, or it is the first of its reviewer
        by_cases new : ∀ y ∈ l.receipts, receiptReviewer y ≠ receiptReviewer x
        · exact .inl (.inr ⟨rfl, unsealed, own, new⟩)
        · push Not at new
          obtain ⟨y, held, same⟩ := new
          rw [agrees x List.mem_cons_self own y (.inl held) same.symm]
          exact .inl (.inl held)
      · exact .inr ⟨unsealed, inside, own⟩

/-- Which receipts are appended decides the ledger, not their order or number. -/
theorem appendAll_congr {receipts others : List InitialFindingReceipt} (agrees : Agrees l receipts)
    (same : ∀ r, r ∈ receipts ↔ r ∈ others) : appendAll l receipts = appendAll l others := by
  have also : Agrees l others := by
    intro a inside own b other eq
    refine agrees a ((same a).mpr inside) own b ?_ eq
    rcases other with held | ⟨member, bound⟩
    · exact .inl held
    · exact .inr ⟨(same b).mpr member, bound⟩
  obtain ⟨required, sealing, members⟩ := appendAll_spec agrees
  obtain ⟨requiredOthers, sealingOthers, membersOthers⟩ := appendAll_spec also
  refine ledger_ext (required.trans requiredOthers.symm) ?_ (sealing.trans sealingOthers.symm)
  refine eq_of_strict (appendAll l receipts).receiptsSorted (appendAll l others).receiptsSorted fun x => ?_
  rw [members x, membersOthers x, same x]

end Appending

/-! ## Outcomes by reviewer -/

section Outcomes
variable {outcomes others : List ReviewerOutcome} {found : Dict String ReviewerOutcome}

theorem contains_set (found : Dict String ReviewerOutcome) (k l : String) (o : ReviewerOutcome) :
    (found.set k o).contains l ↔ l = k ∨ found.contains l := by
  unfold Dict.contains
  rw [Dict.get?_set]
  by_cases same : l = k
  · simp [same]
  · simp [same]

/-- The loop succeeds when every reviewer has one outcome. -/
theorem collectFrom_ok : (∃ all, collectFrom found outcomes = .ok all) ↔
    (outcomes.map (·.reviewer)).Nodup ∧ ∀ o ∈ outcomes, ¬ found.contains o.reviewer := by
  induction outcomes generalizing found with
  | nil => simp [collectFrom]
  | cons o rest ih =>
    rw [collectFrom, List.map_cons, List.nodup_cons, List.forall_mem_cons]
    by_cases new : ¬ found.contains o.reviewer
    · rw [ensure_of new, ok_bind, ih]
      simp only [contains_set, not_or]
      constructor
      · rintro ⟨once, apart⟩
        refine ⟨⟨?_, once⟩, new, fun x member => (apart x member).2⟩
        intro again
        obtain ⟨x, member, same⟩ := List.mem_map.mp again
        exact (apart x member).1 same
      · rintro ⟨⟨first, once⟩, -, apart⟩
        refine ⟨once, fun x member => ⟨fun same => ?_, apart x member⟩⟩
        exact first (List.mem_map.mpr ⟨x, member, same⟩)
    · rw [ensure_error new]
      simp only [error_bind, reduceCtorEq, exists_false, false_iff, not_and]
      exact fun _ absent => absurd absent new

theorem collectFrom_get? {all : Dict String ReviewerOutcome}
    (collected : collectFrom found outcomes = .ok all) (k : String) :
    all.get? k = (outcomes.find? (·.reviewer = k)).or (found.get? k) := by
  induction outcomes generalizing found with
  | nil =>
    cases collected
    rfl
  | cons o rest ih =>
    have spec := collectFrom_ok.mp ⟨all, collected⟩
    rw [collectFrom] at collected
    obtain ⟨_, new, later⟩ := bind_ok.mp collected
    rw [ih later, Dict.get?_set, List.find?_cons]
    by_cases own : o.reviewer = k
    · subst own
      have absent : rest.find? (·.reviewer = o.reviewer) = none := by
        refine List.find?_eq_none.mpr fun x member => ?_
        have apart := (List.nodup_cons.mp spec.1).1
        simpa using fun same => apart (List.mem_map.mpr ⟨x, member, same⟩)
      rw [absent, if_pos rfl, decide_eq_true rfl]
      rfl
    · rw [if_neg fun same => own same.symm, decide_eq_false own]

theorem collectOutcomes_ok : (∃ all, collectOutcomes outcomes = .ok all) ↔
    (outcomes.map (·.reviewer)).Nodup := by
  change (∃ all, collectFrom {} outcomes = .ok all) ↔ _
  rw [collectFrom_ok]
  exact and_iff_left fun _ _ => by simp [Dict.contains]

theorem collectOutcomes_get? (collected : collectOutcomes outcomes = .ok found) (k : String) :
    found.get? k = outcomes.find? (·.reviewer = k) := by
  rw [collectFrom_get? (show collectFrom {} outcomes = .ok found from collected)]
  simp

/-- The order of the outcomes changes no lookup. -/
theorem collected_perm {all : Dict String ReviewerOutcome} (perm : outcomes.Perm others)
    (collected : collectOutcomes outcomes = .ok found) (again : collectOutcomes others = .ok all)
    (k : String) : found.get? k = all.get? k := by
  rw [collectOutcomes_get? collected, collectOutcomes_get? again]
  exact Keyed.find_perm (collectOutcomes_ok.mp ⟨found, collected⟩) perm k

/-- Only reviewers with an outcome are known or unknown. -/
theorem unknownOutcomes_nil {required : List String} :
    unknownOutcomes required found = [] ↔ ∀ k o, found.get? k = some o → k ∈ required := by
  unfold unknownOutcomes
  rw [List.eq_nil_iff_forall_not_mem]
  constructor
  · intro none k o held
    by_contra unknown
    refine none k ((List.mem_insertionSort _).mpr (List.mem_filter.mpr ⟨?_, by simpa using unknown⟩))
    exact List.mem_map.mpr ⟨(k, o), Dict.get?_eq_some.mp held, rfl⟩
  · intro known k member
    obtain ⟨listed, unknown⟩ := List.mem_filter.mp ((List.mem_insertionSort _).mp member)
    obtain ⟨entry, inside, rfl⟩ := List.mem_map.mp listed
    exact of_decide_eq_true unknown (known entry.1 entry.2 (Dict.get?_eq_some.mpr inside))

end Outcomes

/-! ## The manifest -/

section Manifest
variable [Rendering] [Sha256] {l : InitialFindingReceiptLedger} {outcomes others : List ReviewerOutcome}
  {options : Options} {m : MixerInputManifest}

theorem inputOf_congr {found all : Dict String ReviewerOutcome} (same : ∀ k, found.get? k = all.get? k)
    (raw : Dict String Digest) : inputOf found raw = inputOf all raw := by
  funext receipt
  unfold inputOf
  rw [same]

/-- The order of the outcomes decides neither the manifest nor whether there is one. -/
theorem fromReceiptLedger_perm (perm : outcomes.Perm others) :
    (fromReceiptLedger l outcomes options).toOption = (fromReceiptLedger l others options).toOption := by
  unfold fromReceiptLedger
  dsimp only
  by_cases shared : ∀ r ∈ l.requiredSessions,
      sharedIdentity r = sharedIdentity (l.requiredSessions.head l.required)
  · rw [ensure_of shared, ok_bind, ok_bind]
    cases collected : collectOutcomes outcomes with
    | error e =>
      cases again : collectOutcomes others with
      | error f => rfl
      | ok all =>
        have once := (perm.map (·.reviewer)).nodup_iff.mpr (collectOutcomes_ok.mp ⟨all, again⟩)
        obtain ⟨found, ok⟩ := collectOutcomes_ok.mpr once
        rw [collected] at ok
        cases ok
    | ok found =>
      have once := (perm.map (·.reviewer)).nodup_iff.mp (collectOutcomes_ok.mp ⟨found, collected⟩)
      obtain ⟨all, again⟩ := collectOutcomes_ok.mpr once
      have same := collected_perm perm collected again
      have known : unknownOutcomes l.requiredReviewerIds found = [] ↔
          unknownOutcomes l.requiredReviewerIds all = [] := by
        rw [unknownOutcomes_nil, unknownOutcomes_nil]
        simp only [same]
      rw [again, ok_bind, ok_bind]
      by_cases none : unknownOutcomes l.requiredReviewerIds found = []
      · rw [ensure_of none, ensure_of (known.mp none), ok_bind, ok_bind]
        simp only [inputOf_congr same]
      · rw [ensure_error none, ensure_error fun also => none (known.mpr also)]
        rfl
  · rw [ensure_error shared]
    rfl

theorem create_ok {identity : SharedIdentity} {required : List (Ident 128)}
    {inputs : List MixerReviewerInput}
    (made : MixerInputManifest.create identity required inputs options = .ok m) :
    m.requiredReviewerIds = required ∧ ∀ i, i ∈ m.reviewerInputs ↔ i ∈ inputs := by
  unfold MixerInputManifest.create at made
  obtain ⟨_, _, made⟩ := bind_ok.mp made
  obtain ⟨token, _, made⟩ := bind_ok.mp made
  split at made
  · split at made
    · obtain ⟨_, _, made⟩ := bind_ok.mp made
      obtain ⟨_, _, made⟩ := bind_ok.mp made
      obtain ⟨_, _, made⟩ := bind_ok.mp made
      cases made
      exact ⟨rfl, fun i => mem_sortedBy⟩
    · cases made
  · cases made

/-- The inputs of a manifest are those of the receipts. -/
theorem fromReceiptLedger_ok (made : fromReceiptLedger l outcomes options = .ok m) :
    ∃ found raw, collectOutcomes outcomes = .ok found ∧
      m.requiredReviewerIds = l.requiredSessions.map (·.reviewerId) ∧
      (∀ i ∈ m.reviewerInputs, ∃ r ∈ l.receipts, inputOf found raw r = .ok i) ∧
      ∀ r ∈ l.receipts, ∃ i ∈ m.reviewerInputs, inputOf found raw r = .ok i := by
  unfold fromReceiptLedger at made
  dsimp only at made
  obtain ⟨_, _, made⟩ := bind_ok.mp made
  obtain ⟨found, collected, made⟩ := bind_ok.mp made
  obtain ⟨_, _, made⟩ := bind_ok.mp made
  obtain ⟨raw, _, made⟩ := bind_ok.mp made
  obtain ⟨inputs, each, made⟩ := bind_ok.mp made
  obtain ⟨_, _, made⟩ := bind_ok.mp made
  obtain ⟨required, members⟩ := create_ok made
  refine ⟨found, raw, collected, required, fun i member => ?_, fun r member => ?_⟩
  · exact mapM_mem each ((members i).mp member)
  · obtain ⟨i, inside, own⟩ := mapM_of_mem each member
    exact ⟨i, (members i).mpr inside, own⟩

/-- What a reviewer input was made of. -/
theorem inputOf_ok {found : Dict String ReviewerOutcome} {raw : Dict String Digest}
    {r : InitialFindingReceipt} {i : MixerReviewerInput} (made : inputOf found raw r = .ok i) :
    ∃ o evidence, found.get? (receiptReviewer r) = some o ∧ r.reviewerId.value = o.reviewer ∧
      digestFindings o.findings = r.findingDigest ∧ i.reviewerId = r.reviewerId ∧
      MixerReviewerInput.evidenceOf o (raw.get? (receiptReviewer r)) = .ok evidence ∧
      ∀ e, e ∈ i.retainedEvidence ↔ e ∈ evidence := by
  unfold inputOf at made
  split at made
  · cases made
  · next o held =>
    unfold MixerReviewerInput.fromReceiptAndOutcome at made
    obtain ⟨_, own, made⟩ := bind_ok.mp made
    obtain ⟨_, digest, made⟩ := bind_ok.mp made
    obtain ⟨evidence, collected, made⟩ := bind_ok.mp made
    unfold MixerReviewerInput.create at made
    obtain ⟨_, _, made⟩ := bind_ok.mp made
    split at made
    · split at made
      · split at made
        · split at made
          · split at made
            · cases made
            · split at made
              · cases made
                exact ⟨o, evidence, held, ensure_ok.mp own, ensure_ok.mp digest, rfl, collected,
                  fun e => mem_sortedBy⟩
              · cases made
          · cases made
        · cases made
      · cases made
    · cases made

omit [Rendering] [Sha256] in
/-- Every ref is kept under the reviewer, the refs of a finding with its id. -/
theorem evidenceOf_kept {o : ReviewerOutcome} {raw : Option Digest} {evidence : List RetainedEvidenceRef}
    (collected : MixerReviewerInput.evidenceOf o raw = .ok evidence) :
    (∀ ref ∈ o.evidenceRefs, ∃ e ∈ evidence, e.kind = .reviewEvidence ∧
      e.reviewerId.value = strip o.reviewer ∧ e.reference.value = ref) ∧
    ∀ f ∈ o.findings, ∀ ref ∈ f.evidenceRefs, ∃ e ∈ evidence, e.kind = .findingEvidence ∧
      e.reviewerId.value = strip o.reviewer ∧ e.findingId = some f.findingId ∧ e.reference = ref := by
  have created {reference : String} {kind : EvidenceKind} {id : Option (Ident 128)}
      {e : RetainedEvidenceRef}
      (made : RetainedEvidenceRef.create reference o.reviewer kind (id.map (·.value)) = .ok e) :
      e.kind = kind ∧ e.reviewerId.value = strip o.reviewer ∧ e.findingId = id ∧
        e.reference.value = strip reference := by
    unfold RetainedEvidenceRef.create at made
    obtain ⟨ref, text, made⟩ := bind_ok.mp made
    obtain ⟨reviewer, name, made⟩ := bind_ok.mp made
    obtain ⟨finding, own, made⟩ := bind_ok.mp made
    have same : finding = id := by
      cases id with
      | none =>
        cases own
        rfl
      | some i =>
        unfold ifGiven at own
        dsimp only [Option.map] at own
        rw [Ident.parse_value] at own
        cases own
        rfl
    split at made
    · split at made
      · cases made
        exact ⟨rfl, Ident.parse_ok (named_ok.mp name), same, BoundedText.parse_ok (named_ok.mp text)⟩
      · cases made
    · cases made
  unfold MixerReviewerInput.evidenceOf at collected
  obtain ⟨review, reviews, collected⟩ := bind_ok.mp collected
  obtain ⟨finding, findings, collected⟩ := bind_ok.mp collected
  obtain ⟨output, _, collected⟩ := bind_ok.mp collected
  cases collected
  constructor
  · intro ref member
    obtain ⟨e, inside, made⟩ := mapM_of_mem reviews member
    obtain ⟨kind, reviewer, -, reference⟩ := @created _ _ none _ made
    refine ⟨e, List.mem_append_left _ (List.mem_append_left _ inside), kind, reviewer, ?_⟩
    rw [reference, (o.stripped ref member).1]
  · intro f listed ref member
    obtain ⟨es, inside, each⟩ := mapM_of_mem findings listed
    obtain ⟨e, own, made⟩ := mapM_of_mem each member
    obtain ⟨kind, reviewer, id, reference⟩ := @created _ _ (some f.findingId) _ made
    have held : e ∈ finding.flatten := List.mem_flatten.mpr ⟨es, inside, own⟩
    refine ⟨e, List.mem_append_left _ (List.mem_append_right _ held), kind, reviewer, id, ?_⟩
    exact BoundedText.ext (reference.trans ref.stripped)

/-- A manifest is ready only with a bound receipt and a matching outcome of every
required reviewer. -/
theorem ready_received (made : fromReceiptLedger l outcomes options = .ok m)
    (ready : m.readyForMixer = true) {q : ReviewerReceiptRequirement} (required : q ∈ l.requiredSessions) :
    ∃ r ∈ l.receipts, r.toReviewerReceiptRequirement = q ∧ ∃ o ∈ outcomes,
      o.reviewer = q.reviewerId.value ∧ digestFindings o.findings = r.findingDigest := by
  obtain ⟨found, raw, collected, ids, inputs, -⟩ := fromReceiptLedger_ok made
  have received : q.reviewerId ∈ m.receivedReviewerIds := by
    by_contra missing
    have none : m.missingReviewerIds = [] := of_decide_eq_true ready
    have listed : q.reviewerId ∈ m.missingReviewerIds := by
      refine List.mem_filter.mpr ⟨?_, by simpa using missing⟩
      rw [ids]
      exact List.mem_map.mpr ⟨q, required, rfl⟩
    rw [none] at listed
    cases listed
  obtain ⟨i, member, own⟩ := List.mem_map.mp received
  obtain ⟨r, held, from_⟩ := inputs i member
  obtain ⟨o, _, lookup, reviewer, digest, id, -, -⟩ := inputOf_ok from_
  rw [collectOutcomes_get? collected] at lookup
  have sameReviewer : r.reviewerId = q.reviewerId := id.symm.trans own
  refine ⟨r, held, ?_, o, List.mem_of_find?_eq_some lookup, ?_, digest⟩
  · refine List.inj_on_of_nodup_map (required_distinct l) (l.bound r held) required ?_
    exact congrArg Ident.value sameReviewer
  · rw [← reviewer, sameReviewer]

/-- The outcome's own refs and the refs of its findings are all in the manifest. -/
def RetainsOutcome (m : MixerInputManifest) (o : ReviewerOutcome) : Prop :=
  (∀ ref ∈ o.evidenceRefs, ∃ e ∈ retainedEvidenceRefs m.reviewerInputs, e.kind = .reviewEvidence ∧
    e.reviewerId.value = o.reviewer ∧ e.reference.value = ref) ∧
  ∀ f ∈ o.findings, ∀ ref ∈ f.evidenceRefs, ∃ e ∈ retainedEvidenceRefs m.reviewerInputs,
    e.kind = .findingEvidence ∧ e.reviewerId.value = o.reviewer ∧ e.findingId = some f.findingId ∧
      e.reference = ref

/-- The manifest keeps all evidence of the outcome of every reviewer with a receipt. -/
theorem evidence_retained (made : fromReceiptLedger l outcomes options = .ok m) {o : ReviewerOutcome}
    (given : o ∈ outcomes) {r : InitialFindingReceipt} (held : r ∈ l.receipts)
    (own : r.reviewerId.value = o.reviewer) : RetainsOutcome m o := by
  obtain ⟨found, raw, collected, -, -, inputs⟩ := fromReceiptLedger_ok made
  obtain ⟨i, member, from_⟩ := inputs r held
  obtain ⟨o', evidence, lookup, -, -, -, all, members⟩ := inputOf_ok from_
  have once := collectOutcomes_ok.mp ⟨found, collected⟩
  have same : o' = o := by
    rw [collectOutcomes_get? collected] at lookup
    unfold receiptReviewer at lookup
    rw [own, Keyed.find_of_mem once given] at lookup
    exact (Option.some.inj lookup).symm
  subst same
  have reviewer : strip o'.reviewer = o'.reviewer := by rw [← own, r.reviewerId.stripped]
  obtain ⟨review, finding⟩ := evidenceOf_kept all
  rw [reviewer] at review finding
  have kept (e : RetainedEvidenceRef) (inside : e ∈ evidence) :
      e ∈ retainedEvidenceRefs m.reviewerInputs :=
    mem_sortedBy.mpr (List.mem_flatMap.mpr ⟨i, member, (members e).mpr inside⟩)
  constructor
  · intro ref listed
    obtain ⟨e, inside, spec⟩ := review ref listed
    exact ⟨e, kept e inside, spec⟩
  · intro f listed ref inside
    obtain ⟨e, held, spec⟩ := finding f listed ref inside
    exact ⟨e, kept e held, spec⟩

/-- Whatever the order of the appends and of the outcomes: one receipt for each reviewer
at most, readiness only with a bound receipt and a matching outcome of every required
reviewer, all evidence retained; and, unless a reviewer sends two different bound
receipts, one ledger digest and one manifest digest. -/
theorem manifest_order_free {receipts again : List InitialFindingReceipt}
    (same : ∀ r, r ∈ receipts ↔ r ∈ again) (perm : outcomes.Perm others) :
    (appendAll l receipts).receivedReviewerIds.Nodup ∧
    (Agrees l receipts →
      (appendAll l receipts).manifestDigest = (appendAll l again).manifestDigest ∧
      (fromReceiptLedger (appendAll l receipts) outcomes options).toOption.map (·.manifestDigest) =
        (fromReceiptLedger (appendAll l again) others options).toOption.map (·.manifestDigest)) ∧
    ∀ m, fromReceiptLedger (appendAll l receipts) outcomes options = .ok m →
      (m.readyForMixer = true → ∀ q ∈ (appendAll l receipts).requiredSessions,
        ∃ r ∈ (appendAll l receipts).receipts, r.toReviewerReceiptRequirement = q ∧
          ∃ o ∈ outcomes, o.reviewer = q.reviewerId.value ∧
            digestFindings o.findings = r.findingDigest) ∧
      ∀ o ∈ outcomes, o.reviewer ∈ (appendAll l receipts).receivedReviewerIds → RetainsOutcome m o := by
  refine ⟨one_receipt_each _, fun agrees => ?_, fun m made => ⟨fun ready q required => ?_, ?_⟩⟩
  · rw [← appendAll_congr agrees same, fromReceiptLedger_perm perm]
    exact ⟨rfl, rfl⟩
  · exact ready_received made ready required
  · intro o given received
    obtain ⟨r, held, own⟩ := List.mem_map.mp received
    exact evidence_retained made given held own

end Manifest

/-! ## One reviewer, two receipts -/

section OneReviewer

def lateTime : Json := .str "2026-01-01T00:00:00.5Z"

/-- A hash that tells the late receipt from others, and a ledger of it. -/
def lateness : Json → Nat
  | .obj members =>
    if Json.get members "recorded_at" = lateTime then 1
    else
      match Json.get members "receipts" with
      | .arr [.obj receipt] => if Json.get receipt "recorded_at" = lateTime then 1 else 0
      | _ => 0
  | _ => 0

@[reducible] def latenessHash : Sha256 := ⟨lateness⟩

theorem run_identifier : isIdentifier "run" := by decide
theorem context_bounded : utf8Bytes "context" ≤ 128 := by decide

def session : ReviewerReceiptRequirement where
  runId := ⟨"run", run_identifier, by decide⟩
  nodeId := ⟨"node", by decide, by decide⟩
  attemptId := ⟨"attempt", by decide, by decide⟩
  reviewerId := ⟨"alice", by decide, by decide⟩
  sessionId := ⟨"session", by decide, by decide⟩
  contextId := ⟨"context", by decide, context_bounded⟩
  sourceDigest := Digest.ofNat 1
  standardsProfileDigest := Digest.ofNat 2
  standardsContextDigest := Digest.ofNat 3

def ledger : InitialFindingReceiptLedger where
  requiredSessions := [session]
  required := by simp
  requiredSorted := by simp
  receiptsSorted := by simp
  bound := by simp
  complete := fun on => by cases on

def recorded (timestamp : String) : InitialFindingReceipt :=
  { session with findingDigest := Digest.ofNat 0, recordedAt := timestamp }

def early : InitialFindingReceipt := recorded "2026-01-01T00:00:00Z"

def late : InitialFindingReceipt := recorded "2026-01-01T00:00:00.5Z"

/-- Of two receipts of one session the first appended is kept, and the digest of the
ledger tells which it was. -/
theorem first_receipt_kept :
    (@appendAll latenessHash ledger [early, late]).receipts = [early] ∧
    (@appendAll latenessHash ledger [late, early]).receipts = [late] ∧
    @manifestDigest latenessHash (@appendAll latenessHash ledger [early, late]) ≠
      @manifestDigest latenessHash (@appendAll latenessHash ledger [late, early]) := by
  refine ⟨?_, ?_, ?_⟩ <;> decide

theorem half_unsigned : "0.5".toList.head? ≠ some '-' := by decide

@[reducible] def plainRendering : Rendering where
  semanticText := id
  float _ := "0.5"
  unsigned _ := half_unsigned

def outcome : ReviewerOutcome where
  reviewId := "review"
  reviewer := "alice"
  verdict := .pass
  targetRef := "pull/1"
  evidenceRefs := ["log"]
  stripped := by decide

/-- The digest of the manifest after a series of appends. -/
def mixed (receipts : List InitialFindingReceipt) : Option Digest :=
  (@fromReceiptLedger plainRendering latenessHash (@appendAll latenessHash ledger receipts)
    [outcome] {}).toOption.map (@MixerInputManifest.manifestDigest plainRendering latenessHash)

/-- A receipt that is sent twice. -/
theorem manifest_order_free_retransmitted :
    @manifestDigest latenessHash (@appendAll latenessHash ledger [early, early]) =
      @manifestDigest latenessHash (@appendAll latenessHash ledger [early]) ∧
    mixed [early, early] = mixed [early] := by
  have only : ∀ r, r ∈ [early, early] → r = early := by
    intro r member
    rcases List.mem_cons.mp member with rfl | later
    · rfl
    · exact List.mem_singleton.mp later
  have agrees : Agrees ledger [early, early] := by
    intro a inside _ b other _
    rcases other with held | ⟨member, -⟩
    · cases held
    · rw [only a inside, only b member]
  have same : ∀ r, r ∈ [early, early] ↔ r ∈ [early] := fun r => by simp
  exact (@manifest_order_free plainRendering latenessHash ledger [outcome] [outcome] {} _ _ same
    (List.Perm.refl _)).2.1 agrees

end OneReviewer

end DwSuperApps.Guarantees.MixerInputs
