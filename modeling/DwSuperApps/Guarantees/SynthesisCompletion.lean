import DwSuperApps.Guarantees.FindingGroups
import DwSuperApps.Lib.JsonText
import DwSuperApps.Source.Synthesis

/-!
# What COMPLETE says of the evidence

A synthesized result whose Controller decision is COMPLETE has the verdict PASS.
PASS leaves no room: every child succeeded, no finding of any child is critical
or major, no material conflict is open, and PASS is what was proposed.
-/
namespace DwSuperApps.Guarantees.SynthesisCompletion

open DwSuperApps.Lib DwSuperApps.Lib.Checked DwSuperApps.Lib.Grouping
open DwSuperApps.Source.Findings DwSuperApps.Source.Conflicts DwSuperApps.Source.Synthesis

/-! ## Evidence of the children -/

section Children
variable [Rendering] [Sha256]

theorem acceptedChildren_succeeded {seen : List (Ident 128)} {children : List NormalizedChildResult}
    {refs : List ChildEvidenceRef} (made : acceptedChildren seen children = .ok refs) :
    ∀ child ∈ children, child.status = .succeeded := by
  induction children generalizing seen refs with
  | nil => simp
  | cons child rest ih =>
    unfold acceptedChildren at made
    obtain ⟨_, _, made⟩ := bind_ok.mp made
    obtain ⟨_, succeeded, made⟩ := bind_ok.mp made
    obtain ⟨_, _, made⟩ := bind_ok.mp made
    obtain ⟨others, later, _⟩ := bind_ok.mp made
    exact List.forall_mem_cons.mpr ⟨ensure_ok.mp succeeded, ih later⟩

omit [Rendering] [Sha256] in
/-- Nothing is lost or added by collecting the findings of the children, up to the sign
of a confidence. -/
theorem mem_collectChildFindings {children : List NormalizedChildResult}
    {findings : List NormalizedFinding} (made : collectChildFindings children = .ok findings)
    (u : NormalizedFinding) :
    u ∈ findings.map (·.unsigned) ↔ u ∈ (children.flatMap (·.findings)).map (·.unsigned) := by
  unfold collectChildFindings at made
  obtain ⟨out, collected, made⟩ := bind_ok.mp made
  cases made
  rw [((List.perm_insertionSort _ _).map _).mem_iff, (collected_unsigned collected).2]

end Children

/-! ## Deduplication keeps the severities -/

section Deduplication
variable [Rendering]

theorem semanticKey_severity {f g : NormalizedFinding} (same : semanticKey f = semanticKey g) :
    f.severity = g.severity := by
  have texts := congrArg SemanticKey.texts same
  exact Severity.value_inj (List.cons.inj texts).1

/-- Every finding is represented by one of its own severity. -/
theorem deduplicated_severity {findings : List NormalizedFinding}
    {result : FindingDeduplicationResult} (made : deduplicateFindings findings = .ok result)
    {f : NormalizedFinding} (member : f ∈ findings) :
    ∃ d ∈ result.findings, d.representative.severity = f.severity := by
  unfold deduplicateFindings at made
  obtain ⟨_, _, made⟩ := bind_ok.mp made
  cases made
  have key : semanticKey f ∈ sortedKeys SemanticKey.le semanticKey findings :=
    mem_sortedKeys.mpr ⟨f, member, rfl⟩
  set sources := (groupOf semanticKey findings (semanticKey f)).insertionSort
    fun a b => sourceSortKey a ≤ sourceSortKey b with named
  have perm : sources.Perm (groupOf semanticKey findings (semanticKey f)) :=
    List.perm_insertionSort _ _
  have inside : f ∈ sources := perm.mem_iff.mpr (mem_groupOf.mpr ⟨member, rfl⟩)
  cases shape : sources with
  | nil =>
    rw [shape] at inside
    cases inside
  | cons first rest =>
    have ofFirst := mem_groupOf.mp (perm.mem_iff.mp (shape ▸ List.mem_cons_self))
    obtain ⟨d, represented, same⟩ : ∃ d, represent sources = some d ∧ d.representative = first := by
      rw [shape]
      exact ⟨_, rfl, rfl⟩
    exact ⟨d, List.mem_filterMap.mpr ⟨_, key, represented⟩, same ▸ semanticKey_severity ofFirst.2⟩

end Deduplication

/-! ## The verdict -/

section Verdict

/-- The worse of two verdicts is PASS only where both are. -/
theorem worse_pass {p q : ReviewVerdict} :
    (if verdictOrder p < verdictOrder q then q else p) = .pass ↔ p = .pass ∧ q = .pass := by
  cases p <;> cases q <;> decide

/-- PASS is reached only from PASS on both sides, over nothing open. -/
theorem effectiveVerdict_pass {proposed : ReviewVerdict} {evaluation : ConflictEvaluation}
    {findings : List DeduplicatedFinding}
    (passed : effectiveVerdict proposed evaluation findings = .pass) :
    proposed = .pass ∧ evaluation.finalVerdict = .pass ∧
      (∀ g ∈ evaluation.conflicts, g.unresolvedMaterial = false) ∧
      ∀ d ∈ findings, d.representative.severity.isHigh = false := by
  unfold effectiveVerdict at passed
  split at passed
  · cases passed
  · next settled =>
    extract_lets candidate hasHigh at passed
    split at passed
    · cases passed
    · next low =>
      obtain ⟨proposedPass, finalPass⟩ := worse_pass.mp passed
      have noHigh : ¬ hasHigh = true := fun high => low ⟨high, passed⟩
      refine ⟨proposedPass, finalPass, ?_, ?_⟩
      · simpa using settled
      · simpa [hasHigh] using noHigh

/-- A decision to complete passes only under PASS. -/
theorem compatible_complete {decision : ControllerDecision} {verdict : ReviewVerdict}
    (compatible : validateControllerCompatibility decision verdict = .ok ())
    (complete : decision.decisionType = .complete) : verdict = .pass := by
  unfold validateControllerCompatibility at compatible
  obtain ⟨_, clarified, compatible⟩ := bind_ok.mp compatible
  have clarified := ensure_ok.mp clarified
  have settled := ensure_ok.mp compatible
  rw [complete] at clarified settled
  cases verdict with
  | pass => rfl
  | fail => exact absurd rfl (settled (.inr rfl))
  | needsFix => exact absurd rfl (settled (.inl rfl))
  | needsClarification => exact absurd (clarified rfl) (by decide)

end Verdict

/-! ## Conflicts of the findings -/

theorem dedup_length_congr {α : Type} [DecidableEq α] {l m : List α} (same : ∀ a, a ∈ l ↔ a ∈ m) :
    l.dedup.length = m.dedup.length := by
  refine ((List.perm_ext_iff_of_nodup l.nodup_dedup m.nodup_dedup).mpr fun a => ?_).length_eq
  rw [List.mem_dedup, List.mem_dedup, same]

section Conflicts
variable [Rendering] {findings others : List NormalizedFinding} {id : String}

/-- A conflict group of the findings that is material. -/
def MaterialConflict (findings : List NormalizedFinding) (id : String) : Prop :=
  disagree (groupFindings findings id) = true ∧ isMaterial (groupFindings findings id) = true

omit [Rendering] in
theorem map_congr {β : Type} (f : NormalizedFinding → β) (same : ∀ a, a ∈ findings ↔ a ∈ others)
    (b : β) : b ∈ findings.map f ↔ b ∈ others.map f := by
  simp only [List.mem_map, same]

omit [Rendering] in
theorem groupFindings_congr (same : ∀ a, a ∈ findings ↔ a ∈ others) (id : String)
    (a : NormalizedFinding) : a ∈ groupFindings findings id ↔ a ∈ groupFindings others id := by
  unfold groupFindings
  rw [List.mem_filter, List.mem_filter, same]

/-- Only the set of findings decides what is material. -/
theorem isMaterial_congr (same : ∀ a, a ∈ findings ↔ a ∈ others) :
    isMaterial findings = isMaterial others := by
  have high : findings.any (·.severity.isHigh) = others.any (·.severity.isHigh) := by
    rw [Bool.eq_iff_iff, List.any_eq_true, List.any_eq_true]
    simp only [same]
  unfold isMaterial
  dsimp only
  rw [high, dedup_length_congr (map_congr _ same), dedup_length_congr (map_congr _ same),
    dedup_length_congr (map_congr _ same)]

theorem disagree_iff : disagree findings = true ↔ 2 ≤ (findings.map stance).dedup.length := by
  unfold disagree
  rw [decide_eq_true_iff, and_iff_right_iff_imp]
  intro two
  have shorter := (List.dedup_sublist (findings.map stance)).length_le
  rw [List.length_map] at shorter
  exact two.trans shorter

theorem MaterialConflict.congr (same : ∀ a, a ∈ findings ↔ a ∈ others)
    (conflict : MaterialConflict findings id) : MaterialConflict others id := by
  have group := groupFindings_congr same id
  refine ⟨?_, (isMaterial_congr group) ▸ conflict.2⟩
  rw [disagree_iff, ← dedup_length_congr (map_congr stance group)]
  exact disagree_iff.mp conflict.1

/-- No conflict looks at the sign of a confidence. -/
theorem materialConflict_unsigned :
    MaterialConflict (findings.map (·.unsigned)) id ↔ MaterialConflict findings id := by
  have group : groupFindings (findings.map (·.unsigned)) id =
      (groupFindings findings id).map (·.unsigned) := List.filter_map
  unfold MaterialConflict isMaterial
  rw [group, disagree_iff, disagree_iff, List.map_map, List.any_map, List.map_map, List.map_map,
    List.map_map]
  rfl

/-- Findings that are the same up to the sign of a confidence have the same conflicts. -/
theorem MaterialConflict.unsigned_congr
    (same : ∀ u, u ∈ findings.map (·.unsigned) ↔ u ∈ others.map (·.unsigned))
    (conflict : MaterialConflict findings id) : MaterialConflict others id :=
  materialConflict_unsigned.mp ((materialConflict_unsigned.mpr conflict).congr same)

/-- The id of a group that disagrees is one of those gone through. -/
theorem mem_conflictIds (disagrees : disagree (groupFindings findings id) = true) :
    id ∈ conflictIds findings := by
  have two := disagree_iff.mp disagrees
  obtain ⟨f, member⟩ : ∃ f, f ∈ groupFindings findings id := by
    refine List.exists_mem_of_ne_nil _ fun empty => ?_
    rw [empty] at two
    cases two
  unfold groupFindings at member
  obtain ⟨inside, named⟩ := List.mem_filter.mp member
  have named := of_decide_eq_true named
  refine mem_sortedKeys.mpr ⟨f, List.mem_filter.mpr ⟨inside, ?_⟩, by rw [named]; rfl⟩
  rw [decide_eq_true_iff]
  intro none
  rw [none] at named
  cases named

/-! ### What the constructors keep -/

omit [Rendering] in
theorem parentConflictGroup_kept {g p : ConflictGroup} (made : parentConflictGroup g = .ok p) :
    p.material = g.material ∧ p.disposition = g.disposition ∧ p.conflictId = strip g.conflictId ∧
      (g.material = true → g.disposition = .resolved → p.resolutionEvidenceRefs ≠ []) := by
  unfold parentConflictGroup at made
  obtain ⟨conflictId, named, made⟩ := bind_ok.mp made
  obtain ⟨_, _, made⟩ := bind_ok.mp made
  obtain ⟨_, _, made⟩ := bind_ok.mp made
  obtain ⟨_, _, made⟩ := bind_ok.mp made
  obtain ⟨_, _, made⟩ := bind_ok.mp made
  obtain ⟨_, _, made⟩ := bind_ok.mp made
  obtain ⟨evidence, _, made⟩ := bind_ok.mp made
  obtain ⟨_, _, made⟩ := bind_ok.mp made
  obtain ⟨_, _, made⟩ := bind_ok.mp made
  obtain ⟨_, resolved, made⟩ := bind_ok.mp made
  cases made
  unfold identifier Source.Synthesis.text at named
  obtain ⟨stripped, texted, named⟩ := bind_ok.mp named
  obtain ⟨_, _, texted⟩ := bind_ok.mp texted
  obtain ⟨_, _, texted⟩ := bind_ok.mp texted
  obtain ⟨_, _, named⟩ := bind_ok.mp named
  cases texted
  cases named
  exact ⟨rfl, rfl, rfl, fun material disposed empty =>
    ensure_ok.mp resolved ⟨material, .inl disposed, empty⟩⟩

omit [Rendering] in
theorem conflictGroup_make_kept {g p : ConflictGroup} (made : g.make = .ok p) :
    p.material = g.material ∧ p.disposition = g.disposition ∧ p.conflictId = strip g.conflictId := by
  unfold ConflictGroup.make at made
  obtain ⟨conflictId, named, made⟩ := bind_ok.mp made
  obtain ⟨_, _, made⟩ := bind_ok.mp made
  obtain ⟨_, _, made⟩ := bind_ok.mp made
  obtain ⟨_, _, made⟩ := bind_ok.mp made
  obtain ⟨_, _, made⟩ := bind_ok.mp made
  obtain ⟨_, _, made⟩ := bind_ok.mp made
  obtain ⟨_, _, made⟩ := bind_ok.mp made
  obtain ⟨_, _, made⟩ := bind_ok.mp made
  obtain ⟨_, _, made⟩ := bind_ok.mp made
  obtain ⟨_, _, made⟩ := bind_ok.mp made
  obtain ⟨_, _, made⟩ := bind_ok.mp made
  obtain ⟨_, _, made⟩ := bind_ok.mp made
  obtain ⟨_, _, made⟩ := bind_ok.mp made
  cases made
  unfold Source.Conflicts.text at named
  obtain ⟨_, _, named⟩ := bind_ok.mp named
  cases named
  exact ⟨rfl, rfl, rfl⟩

/-- A material conflict is never declared immaterial. -/
theorem conflictGroup_kept {resolution : Option ConflictResolution} {g : ConflictGroup}
    (made : conflictGroup id findings resolution = .ok g) :
    g.material = isMaterial findings ∧ g.conflictId = strip id ∧
      (g.material = true → g.disposition ≠ .notMaterial) := by
  unfold conflictGroup at made
  extract_lets material group at made
  cases resolution with
  | none =>
    obtain ⟨kept, disposition, named⟩ := conflictGroup_make_kept made
    refine ⟨kept, named, fun isMaterial => ?_⟩
    rw [disposition]
    have : material = true := kept.symm.trans isMaterial
    simp [group, this]
  | some r =>
    dsimp only at made
    split at made
    · cases made
    · next allowed =>
      obtain ⟨kept, disposition, named⟩ := conflictGroup_make_kept made
      refine ⟨kept, named, fun isMaterial notMaterial => allowed ⟨?_, ?_⟩⟩
      · exact kept.symm.trans isMaterial
      · exact disposition.symm.trans notMaterial

/-! ### Detected and adjudicated conflicts -/

/-- A material conflict detected without an adjudication is open. -/
theorem detectConflicts_open {proposed : ReviewVerdict} {evaluation : ConflictEvaluation}
    (made : detectConflicts findings proposed = .ok evaluation)
    (conflict : MaterialConflict findings id) :
    ∃ g ∈ evaluation.conflicts, g.unresolvedMaterial = true := by
  unfold detectConflicts at made
  obtain ⟨conflicts, detected, made⟩ := bind_ok.mp made
  cases made
  have listed : id ∈ (conflictIds findings).filter fun id => disagree (groupFindings findings id) :=
    List.mem_filter.mpr ⟨mem_conflictIds conflict.1, conflict.1⟩
  obtain ⟨g, member, group⟩ := mapM_of_mem detected listed
  refine ⟨g, (List.perm_insertionSort _ _).mem_iff.mpr member, ?_⟩
  unfold detectedGroup at group
  extract_lets sorted material at group
  obtain ⟨kept, disposition, _⟩ := parentConflictGroup_kept group
  have isMaterial : material = true :=
    (isMaterial_congr fun a => (List.perm_insertionSort _ _).mem_iff).trans conflict.2
  unfold ConflictGroup.unresolvedMaterial
  rw [kept, disposition]
  simp [isMaterial, ConflictDisposition.isOpen]

/-- An adjudication settles no material conflict as immaterial. -/
theorem adjudicateConflicts_listed {proposed : ReviewVerdict}
    {resolutions : List (String × ConflictResolution)} {result : ConflictAdjudicationResult}
    (made : adjudicateConflicts findings proposed resolutions = .ok result)
    (conflict : MaterialConflict findings id) :
    ∃ g ∈ result.conflicts, g.conflictId = strip id ∧ g.material = true ∧
      g.disposition ≠ .notMaterial := by
  unfold adjudicateConflicts at made
  obtain ⟨normalized, collected, made⟩ := bind_ok.mp made
  obtain ⟨_, _, made⟩ := bind_ok.mp made
  obtain ⟨conflicts, detected, made⟩ := bind_ok.mp made
  obtain ⟨_, _, made⟩ := bind_ok.mp made
  unfold ConflictAdjudicationResult.make at made
  obtain ⟨_, _, made⟩ := bind_ok.mp made
  obtain ⟨_, _, made⟩ := bind_ok.mp made
  cases made
  have same : ∀ u, u ∈ findings.map (·.unsigned) ↔ u ∈ normalized.map (·.unsigned) := by
    intro u
    unfold normalizeFindings at collected
    obtain ⟨byId, distinct, collected⟩ := bind_ok.mp collected
    cases collected
    rw [((List.perm_insertionSort _ _).map _).mem_iff, (collected_unsigned distinct).2]
  have conflict := conflict.unsigned_congr same
  have listed : id ∈ (conflictIds normalized).filter fun id => disagree (groupFindings normalized id) :=
    List.mem_filter.mpr ⟨mem_conflictIds conflict.1, conflict.1⟩
  obtain ⟨g, member, group⟩ := mapM_of_mem detected listed
  obtain ⟨kept, named, disposed⟩ := conflictGroup_kept group
  have material := kept.trans conflict.2
  exact ⟨g, (List.perm_insertionSort _ _).mem_iff.mpr member, named, material, disposed material⟩

end Conflicts

/-! ## Completion -/

section Completion
variable [Rendering] [Sha256]

/-- The findings of all children. -/
def evidence (children : List NormalizedChildResult) : List NormalizedFinding :=
  children.flatMap (·.findings)

/-- Every material conflict of the findings is settled: there is none where they were
not adjudicated, and each is resolved on evidence where they were. -/
def Settled (children : List NormalizedChildResult) (options : SynthesisOptions)
    (conflicts : List ConflictGroup) : Prop :=
  (options.conflictResult = none → ∀ id, ¬ MaterialConflict (evidence children) id) ∧
    ∀ proposed resolutions result, options.conflictResult = some result →
      adjudicateConflicts (evidence children) proposed resolutions = .ok result →
      ∀ id, MaterialConflict (evidence children) id → ∃ g ∈ conflicts,
        g.conflictId = strip id ∧ g.disposition = .resolved ∧ g.resolutionEvidenceRefs ≠ []

omit [Sha256] in
/-- An adjudication is taken over with its verdict and its groups. -/
theorem external_ok {findings : List NormalizedFinding} {proposed : ReviewVerdict}
    {result : ConflictAdjudicationResult} {evaluation : ConflictEvaluation}
    (made : evaluateConflicts findings proposed (some result) = .ok evaluation) :
    evaluation.finalVerdict = result.finalVerdict ∧
      result.conflicts.mapM parentConflictGroup = .ok evaluation.conflicts := by
  unfold evaluateConflicts externalConflictEvaluation at made
  obtain ⟨_, _, made⟩ := bind_ok.mp made
  obtain ⟨conflicts, groups, made⟩ := bind_ok.mp made
  cases made
  exact ⟨rfl, groups⟩

omit [Rendering] [Sha256] in
theorem asVerdict_value {field value : String} {verdict : ReviewVerdict}
    (made : asVerdict field value = .ok verdict) : value = verdict.value := by
  unfold asVerdict at made
  split at made
  · next found =>
    cases made
    unfold ReviewVerdict.ofValue? at found
    have same := List.find?_some found
    exact (of_decide_eq_true same).symm
  · cases made

end Completion

/-! ## A completed review -/

section OneChild
variable [Rendering] [Sha256] {child : NormalizedChildResult}

/-- The evidence of a child that succeeded. -/
def evidenceRef (child : NormalizedChildResult) (succeeded : child.status = .succeeded) :
    ChildEvidenceRef where
  childId := child.childId
  status := child.status
  resultDigest := canonicalDigest child.canonicalPayload
  rawOutputDigest := child.rawOutputDigest
  childContractDigest := child.childContractDigest
  sourceDigest := child.sourceDigest
  lens := child.lens
  reviewer := child.reviewer
  succeeded

theorem acceptedChildren_single (succeeded : child.status = .succeeded)
    (bounded : utf8Bytes child.canonicalPayload.canonicalText ≤
      NormalizedChildResult.maxRawOutputBytes) :
    acceptedChildren [] [child] = .ok [evidenceRef child succeeded] := by
  unfold acceptedChildren ChildEvidenceRef.fromResult NormalizedChildResult.normalizationDigest
  rw [ensure_of List.not_mem_nil, ok_bind, ensure_of succeeded, ok_bind, ensure_of bounded, ok_bind]
  dsimp only [pure, Except.pure]
  rw [ok_bind, dif_pos succeeded]
  rfl

end OneChild

section Review

@[reducible] def constantHash : Sha256 where
  bits _ := 7

/-- The one finding of the review: its texts are lower case with single spaces. -/
def unclearName : NormalizedFinding := FindingGroups.remark none

def reviewed : NormalizedChildResult where
  childId := ⟨"child-1", by decide, by decide⟩
  status := .succeeded
  rawOutputDigest := none
  findings := [unclearName]
  protocol := ⟨"dw.taskcontroller.child-result-normalizer/v1", by decide, by decide, by decide, by decide⟩
  bounded := by decide
  artifactIds := .nil
  findingIds := List.pairwise_singleton _ _
  outcome := by decide

/-- The text functions on the texts of the review. -/
@[reducible] def reviewText : Rendering where
  semanticText text := text
  float _ := "0.0"
  unsigned _ := by decide

def completing : SynthesisOptions where
  controllerDecision := some (.mapping {
    decisionId := some "decision-1"
    runRef := some "run-1"
    decisionType := some "COMPLETE"
    rationale := some "review accepted"
    evidenceRefs := some ["src/a.py"] })

theorem reviewed_bounded :
    utf8Bytes (@NormalizedChildResult.canonicalPayload reviewText reviewed).canonicalText ≤
      NormalizedChildResult.maxRawOutputBytes := by
  unfold utf8Bytes Json.canonicalText
  rw [JsonText.toList_dumps]
  decide +kernel

theorem reviewed_accepted : @acceptedChildren reviewText constantHash [] [reviewed] =
    .ok [@evidenceRef reviewText constantHash reviewed rfl] :=
  @acceptedChildren_single reviewText constantHash reviewed rfl reviewed_bounded

/-- The synthesis succeeds, with the decision to complete. -/
def completes (made : Except Failure ParentSynthesisResult) : Bool :=
  match made with
  | .ok result => result.controllerDecision.decisionType = .complete
  | .error _ => false

theorem reviewed_completes :
    completes (@synthesizeParentResult reviewText constantHash [reviewed] completing) = true := by
  unfold synthesizeParentResult
  rw [ensure_of (List.cons_ne_nil _ _), reviewed_accepted]
  decide

theorem completed_decision {made : Except Failure ParentSynthesisResult}
    (completed : completes made = true) :
    ∃ result, made = .ok result ∧ result.controllerDecision.decisionType = .complete := by
  cases made with
  | error _ => cases completed
  | ok result => exact ⟨result, rfl, of_decide_eq_true completed⟩

end Review

end DwSuperApps.Guarantees.SynthesisCompletion
