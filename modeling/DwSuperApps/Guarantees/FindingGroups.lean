import Mathlib.Order.WithBot
import DwSuperApps.Lib.Sorted
import DwSuperApps.Source.Findings

/-!
# Deduplication groups the findings

Where no two findings agree in every compared text while only one of them has a
confidence, `deduplicate_findings` returns, its groups are the findings under one key
each, and the order of the findings changes nothing (`deduplicates_iff`). Where two do,
sorting the keys compares `None` with a float and raises (`confidence_missing_raises`).

The order of the sources of one group rests on the texts: findings of one key with the
same sort key are the same finding (`sourceSortKey_inj`).
-/
namespace DwSuperApps.Guarantees.FindingGroups

open DwSuperApps.Lib DwSuperApps.Lib.Checked DwSuperApps.Lib.Grouping DwSuperApps.Lib.JsonText
open DwSuperApps.Source.Findings

section Texts
variable [Rendering]

/-! ## The text of a finding -/

omit [Rendering] in
theorem sortItems_str {α : Type} (value : α → String) (items : List α) :
    Json.sortItems (items.map fun a => .str (value a)) = items.map fun a => Json.str (value a) := by
  induction items with
  | nil => rfl
  | cons a rest ih =>
    rw [List.map_cons, Json.sortItems, ih]
    rfl

/-- The members in the order `sort_keys=True` writes them. -/
theorem sortKeys_toDict (f : NormalizedFinding) : f.toDict.sortKeys =
    .obj ([("category", .str f.category.value), ("claim", .str f.claim.value)] ++
      (f.confidence.map fun c => ("confidence", Json.float c.repr)).toList ++
      (f.conflictGroup.map fun group => ("conflict_group", Json.str group.value)).toList ++
      [("disposition", .str f.disposition.value),
        ("evidence_refs", .arr (f.evidenceRefs.map (.str ·.value))),
        ("finding_id", .str f.findingId.value), ("lens", .str f.lens.value),
        ("recommendation", .str f.recommendation.value), ("reviewer", .str f.reviewer.value),
        ("severity", .str f.severity.value)]) := by
  unfold NormalizedFinding.toDict
  cases f.confidence <;> cases f.conflictGroup <;>
    simp [Json.sortKeys, Json.sortMembers, Json.insertMember, sortItems_str]

/-- One member as it is written. -/
def memberText (name : String) (value : Json) : List Char :=
  literal true name.toList ++ ':' :: render true value

/-- The members behind the group of conflicts. -/
def lastMembers (f : NormalizedFinding) : List (List Char) :=
  [memberText "disposition" (.str f.disposition.value),
    memberText "evidence_refs" (.arr (f.evidenceRefs.map (.str ·.value))),
    memberText "finding_id" (.str f.findingId.value),
    memberText "lens" (.str f.lens.value),
    memberText "recommendation" (.str f.recommendation.value),
    memberText "reviewer" (.str f.reviewer.value),
    memberText "severity" (.str f.severity.value)]

def groupMember (f : NormalizedFinding) : List (List Char) :=
  (f.conflictGroup.map fun group => memberText "conflict_group" (.str group.value)).toList

def confidenceMember (f : NormalizedFinding) : List (List Char) :=
  (f.confidence.map fun c => memberText "confidence" (.float c.repr)).toList

theorem dumps_toDict (f : NormalizedFinding) : (dumps f.toDict).toList =
    '\x7b' :: joined '\x7d' (memberText "category" (.str f.category.value) ::
      memberText "claim" (.str f.claim.value) ::
        (confidenceMember f ++ groupMember f ++ lastMembers f)) := by
  unfold dumps confidenceMember groupMember
  rw [String.toList_ofList, sortKeys_toDict]
  cases f.confidence <;> cases f.conflictGroup <;> rfl

omit [Rendering] in
/-- Texts that start with one string member agree in the string and go on the same. -/
theorem joined_member {name s t : String} {next other : List Char} {rest more : List (List Char)}
    (same : joined '\x7d' (memberText name (.str s) :: next :: rest) =
      joined '\x7d' (memberText name (.str t) :: other :: more)) :
    s = t ∧ joined '\x7d' (next :: rest) = joined '\x7d' (other :: more) := by
  obtain ⟨text, behind⟩ := joined_literal same
  exact ⟨String.toList_inj.mp text, behind⟩

omit [Rendering] in
theorem lastMembers_inj {f g : NormalizedFinding} (disposition : f.disposition = g.disposition)
    (evidenceRefs : f.evidenceRefs = g.evidenceRefs) (findingId : f.findingId = g.findingId)
    (same : joined '\x7d' (lastMembers f) = joined '\x7d' (lastMembers g)) :
    f.lens.value = g.lens.value ∧ f.recommendation.value = g.recommendation.value := by
  unfold lastMembers at same
  rw [disposition, evidenceRefs, findingId] at same
  obtain ⟨lens, behind⟩ := joined_member (joined_same (joined_same (joined_same same)))
  exact ⟨lens, (joined_member behind).1⟩

/-- A sign in front of the text of a float shows. -/
theorem signed_text {value : ℚ} {rest more : List Char} (stop : rest.head? ≠ some '-')
    (same : (Rendering.float value).toList ++ rest = '-' :: more) : False := by
  have unsigned := Rendering.unsigned value
  cases shape : (Rendering.float value).toList with
  | nil =>
    rw [shape, List.nil_append] at same
    exact stop (by rw [same]; rfl)
  | cons c tail =>
    rw [shape, List.cons_append] at same
    rw [shape] at unsigned
    exact unsigned (congrArg some (List.cons.inj same).1)

/-- Floats of one value are told apart by their texts. -/
theorem repr_inj {c d : Confidence} {rest more : List Char} (value : c.value = d.value)
    (stop : rest.head? ≠ some '-') (stop' : more.head? ≠ some '-')
    (same : c.repr.toList ++ rest = d.repr.toList ++ more) : c = d ∧ rest = more := by
  obtain ⟨v, negative, nonneg, le_one, zero⟩ := c
  obtain ⟨w, negative', nonneg', le_one', zero'⟩ := d
  obtain rfl : v = w := value
  unfold Confidence.repr at same
  cases negative <;> cases negative'
  · exact ⟨rfl, List.append_cancel_left same⟩
  · simp only [Bool.false_eq_true, if_false, if_true, String.toList_append] at same
    exact (signed_text stop same).elim
  · simp only [Bool.false_eq_true, if_false, if_true, String.toList_append] at same
    exact (signed_text stop' same.symm).elim
  · exact ⟨rfl, List.append_cancel_left same⟩

/-- Texts that start with the confidences of one value have the confidence in common,
and go on the same. -/
theorem joined_confidence {c d : Confidence} {next other : List Char} {rest more : List (List Char)}
    (value : c.value = d.value)
    (same : joined '\x7d' (memberText "confidence" (.float c.repr) :: next :: rest) =
      joined '\x7d' (memberText "confidence" (.float d.repr) :: other :: more)) :
    c = d ∧ joined '\x7d' (next :: rest) = joined '\x7d' (other :: more) := by
  unfold memberText at same
  simp only [render] at same
  rw [joined_cons, joined_cons, List.append_assoc, List.append_assoc, List.cons_append,
    List.cons_append] at same
  have behind := (List.cons.inj (List.append_cancel_left same)).2
  obtain ⟨confidence, behind⟩ := repr_inj value (by simp) (by simp) behind
  exact ⟨confidence, (List.cons.inj behind).2⟩

/-- The members from the confidence on. -/
theorem tail_inj {f g : NormalizedFinding} (group : f.conflictGroup = g.conflictGroup)
    (confidence : f.confidence.map (·.value) = g.confidence.map (·.value))
    (same : joined '\x7d' (confidenceMember f ++ groupMember f ++ lastMembers f) =
      joined '\x7d' (confidenceMember g ++ groupMember g ++ lastMembers g)) :
    f.confidence = g.confidence ∧ joined '\x7d' (lastMembers f) = joined '\x7d' (lastMembers g) := by
  have groups (f g : NormalizedFinding) (group : f.conflictGroup = g.conflictGroup)
      (same : joined '\x7d' (groupMember f ++ lastMembers f) =
        joined '\x7d' (groupMember g ++ lastMembers g)) :
      joined '\x7d' (lastMembers f) = joined '\x7d' (lastMembers g) := by
    unfold groupMember at same
    rw [group] at same
    cases shape : g.conflictGroup with
    | none =>
      rw [shape] at same
      exact same
    | some id =>
      rw [shape] at same
      exact joined_same same
  rw [List.append_assoc, List.append_assoc] at same
  unfold confidenceMember at same
  cases first : f.confidence with
  | none =>
    cases second : g.confidence with
    | none =>
      rw [first, second] at same
      exact ⟨rfl, groups f g group same⟩
    | some d =>
      rw [first, second] at confidence
      cases confidence
  | some c =>
    cases second : g.confidence with
    | none =>
      rw [first, second] at confidence
      cases confidence
    | some d =>
      rw [first, second] at confidence same
      obtain ⟨next, rest, shape⟩ : ∃ next rest, groupMember f ++ lastMembers f = next :: rest :=
        List.exists_cons_of_ne_nil (by simp [lastMembers])
      obtain ⟨other, more, shape'⟩ : ∃ other more, groupMember g ++ lastMembers g = other :: more :=
        List.exists_cons_of_ne_nil (by simp [lastMembers])
      rw [shape, shape'] at same
      obtain ⟨equal, behind⟩ := joined_confidence (Option.some.inj confidence) same
      rw [← shape, ← shape'] at behind
      exact ⟨congrArg some equal, groups f g group behind⟩

/-- Findings with the same identity fields and texts are the same finding. -/
theorem dumps_inj {f g : NormalizedFinding} (findingId : f.findingId = g.findingId)
    (severity : f.severity = g.severity) (evidenceRefs : f.evidenceRefs = g.evidenceRefs)
    (reviewer : f.reviewer = g.reviewer) (disposition : f.disposition = g.disposition)
    (group : f.conflictGroup = g.conflictGroup)
    (confidence : f.confidence.map (·.value) = g.confidence.map (·.value))
    (same : dumps f.toDict = dumps g.toDict) : f = g := by
  have texts := congrArg String.toList same
  rw [dumps_toDict, dumps_toDict] at texts
  obtain ⟨category, behind⟩ := joined_member (List.cons.inj texts).2
  obtain ⟨next, rest, shape⟩ : ∃ next rest,
      confidenceMember f ++ groupMember f ++ lastMembers f = next :: rest :=
    List.exists_cons_of_ne_nil (by simp [lastMembers])
  obtain ⟨other, more, shape'⟩ : ∃ other more,
      confidenceMember g ++ groupMember g ++ lastMembers g = other :: more :=
    List.exists_cons_of_ne_nil (by simp [lastMembers])
  rw [shape, shape'] at behind
  obtain ⟨claim, behind⟩ := joined_member behind
  rw [← shape, ← shape'] at behind
  obtain ⟨confidence, behind⟩ := tail_inj group confidence behind
  obtain ⟨lens, recommendation⟩ := lastMembers_inj disposition evidenceRefs findingId behind
  cases f
  cases g
  simp only [NormalizedFinding.mk.injEq]
  exact ⟨findingId, severity, BoundedText.ext category, BoundedText.ext lens, BoundedText.ext claim,
    evidenceRefs, BoundedText.ext recommendation, reviewer, disposition, confidence, group⟩

/-! ## The order of the sources -/

omit [Rendering] in
/-- A group of conflicts is not the text that stands for none. -/
theorem groupText_inj {f g : NormalizedFinding}
    (same : (f.conflictGroup.map (·.value)).getD "" = (g.conflictGroup.map (·.value)).getD "") :
    f.conflictGroup = g.conflictGroup := by
  cases first : f.conflictGroup with
  | none =>
    cases second : g.conflictGroup with
    | none => rfl
    | some t =>
      rw [first, second] at same
      exact absurd same.symm t.nonempty
  | some s =>
    cases second : g.conflictGroup with
    | none =>
      rw [first, second] at same
      exact absurd same s.nonempty
    | some t =>
      rw [first, second] at same
      exact congrArg some (BoundedText.ext same)

/-- In one group the sort key tells the findings apart. -/
theorem sourceSortKey_inj {f g : NormalizedFinding} (key : semanticKey f = semanticKey g)
    (same : sourceSortKey f = sourceSortKey g) : f = g := by
  have texts := congrArg SemanticKey.texts key
  simp only [semanticKey, List.cons.injEq, and_true] at texts
  obtain ⟨severity, -, -, -, -, disposition⟩ := texts
  simp only [sourceSortKey, toLex_inj, Prod.mk.injEq] at same
  obtain ⟨findingId, reviewer, evidenceRefs, group, text⟩ := same
  have refs : f.evidenceRefs = g.evidenceRefs :=
    List.map_injective_iff.mpr (fun s t => BoundedText.ext) evidenceRefs
  exact dumps_inj (Ident.ext findingId) (Severity.value_inj severity) refs (Ident.ext reviewer)
    (FindingDisposition.value_inj disposition) (groupText_inj group) (congrArg SemanticKey.confidence key) text

end Texts

section Groups
variable [Rendering]

/-! ## The order of the keys -/

/-- Two of the findings agree in every compared text and only one has a confidence. -/
def MixedConfidence (findings : List NormalizedFinding) : Prop :=
  ∃ f ∈ findings, ∃ g ∈ findings, (semanticKey f).texts = (semanticKey g).texts ∧
    f.confidence = none ∧ g.confidence ≠ none

instance (findings : List NormalizedFinding) : Decidable (MixedConfidence findings) := by
  unfold MixedConfidence; infer_instance

omit [Rendering] in
/-- A linear order of the keys that agrees with the one of the code where that compares
numbers. -/
def keyOrder (key : SemanticKey) : List String ×ₗ WithBot ℚ := toLex (key.texts, key.confidence)

omit [Rendering] in
theorem keyOrder_inj {a b : SemanticKey} (same : keyOrder a = keyOrder b) : a = b := by
  obtain ⟨texts, confidence⟩ := Prod.mk.inj (toLex_inj.mp same)
  cases a
  cases b
  cases texts
  cases confidence
  rfl

omit [Rendering] in
theorem le_iff_keyOrder {a b : SemanticKey}
    (comparable : a.texts = b.texts → (a.confidence = none ↔ b.confidence = none)) :
    a.le b ↔ keyOrder a ≤ keyOrder b := by
  unfold SemanticKey.le keyOrder
  rw [Prod.Lex.toLex_le_toLex]
  refine or_congr Iff.rfl (and_congr_right fun texts => ?_)
  have both := comparable texts
  cases first : a.confidence with
  | none =>
    rw [both.mp first]
    exact ⟨fun _ => le_refl (⊥ : WithBot ℚ), fun _ => by simp⟩
  | some x =>
    cases second : b.confidence with
    | none =>
      rw [both.mpr second] at first
      cases first
    | some y =>
      change (∀ u ∈ some x, ∀ v ∈ some y, u ≤ v) ↔ ((x : WithBot ℚ) ≤ (y : WithBot ℚ))
      simp

/-- The check of the code before it sorts. -/
theorem mixedConfidence_iff {findings : List NormalizedFinding} : MixedConfidence findings ↔
    ¬ ∀ a ∈ sortedKeys SemanticKey.le semanticKey findings,
      ∀ b ∈ sortedKeys SemanticKey.le semanticKey findings,
        a.texts = b.texts → (a.confidence = none ↔ b.confidence = none) := by
  have unconfident (f : NormalizedFinding) : (semanticKey f).confidence = none ↔ f.confidence = none :=
    Option.map_eq_none_iff
  constructor
  · rintro ⟨f, memberF, g, memberG, texts, without, with_⟩ comparable
    have both := comparable _ (mem_sortedKeys.mpr ⟨f, memberF, rfl⟩) _
      (mem_sortedKeys.mpr ⟨g, memberG, rfl⟩) texts
    rw [unconfident, unconfident] at both
    exact with_ (both.mp without)
  · intro incomparable
    by_contra unmixed
    refine incomparable fun a memberA b memberB texts => ?_
    obtain ⟨f, memberF, rfl⟩ := mem_sortedKeys.mp memberA
    obtain ⟨g, memberG, rfl⟩ := mem_sortedKeys.mp memberB
    rw [unconfident, unconfident]
    constructor
    · intro without
      by_contra with_
      exact unmixed ⟨f, memberF, g, memberG, texts, without, with_⟩
    · intro without
      by_contra with_
      exact unmixed ⟨g, memberG, f, memberF, texts.symm, without, with_⟩

/-- The keys are sorted by the linear order, so that their order is decided by which
findings there are. -/
theorem sortedKeys_perm {findings others : List NormalizedFinding} (same : findings.Perm others)
    (comparable : ∀ a ∈ sortedKeys SemanticKey.le semanticKey findings,
      ∀ b ∈ sortedKeys SemanticKey.le semanticKey findings,
        a.texts = b.texts → (a.confidence = none ↔ b.confidence = none)) :
    sortedKeys SemanticKey.le semanticKey findings =
      sortedKeys SemanticKey.le semanticKey others := by
  have linear (items : List NormalizedFinding)
      (comparable : ∀ a ∈ sortedKeys SemanticKey.le semanticKey items,
        ∀ b ∈ sortedKeys SemanticKey.le semanticKey items,
          a.texts = b.texts → (a.confidence = none ↔ b.confidence = none)) :
      (sortedKeys SemanticKey.le semanticKey items).Pairwise fun a b => keyOrder a < keyOrder b := by
    have sorted : sortedKeys SemanticKey.le semanticKey items =
        Sorted.sortedBy keyOrder (items.map semanticKey).dedup := by
      have keys : ∀ a ∈ (items.map semanticKey).dedup,
          a ∈ sortedKeys SemanticKey.le semanticKey items := fun a member =>
        (List.perm_insertionSort _ _).mem_iff.mpr member
      have mapped := List.map_insertionSort SemanticKey.le (fun a b => keyOrder a ≤ keyOrder b) id
        (items.map semanticKey).dedup fun a memberA b memberB =>
          le_iff_keyOrder (comparable a (keys a memberA) b (keys b memberB))
      rw [List.map_id, List.map_id] at mapped
      exact mapped
    rw [sorted]
    refine Sorted.sortedBy_strict (List.Nodup.map_on ?_ (List.nodup_dedup _))
    exact fun a _ b _ equal => keyOrder_inj equal
  have inside : ∀ a, a ∈ sortedKeys SemanticKey.le semanticKey findings ↔
      a ∈ sortedKeys SemanticKey.le semanticKey others := by
    intro a
    rw [mem_sortedKeys, mem_sortedKeys]
    simp only [same.mem_iff]
  refine Sorted.eq_of_strict (linear findings comparable) (linear others fun a memberA b memberB => ?_)
    inside
  exact comparable a ((inside a).mpr memberA) b ((inside b).mpr memberB)

/-! ## The groups -/

/-- The sources of one key in the order of the code. -/
def sources (findings : List NormalizedFinding) (key : SemanticKey) : List NormalizedFinding :=
  (groupOf semanticKey findings key).insertionSort fun a b => sourceSortKey a ≤ sourceSortKey b

theorem sources_perm {findings others : List NormalizedFinding} (same : findings.Perm others)
    (key : SemanticKey) : sources findings key = sources others key := by
  have total : Std.Total fun a b : NormalizedFinding => sourceSortKey a ≤ sourceSortKey b :=
    ⟨fun a b => le_total _ _⟩
  have trans : IsTrans NormalizedFinding fun a b => sourceSortKey a ≤ sourceSortKey b :=
    ⟨fun _ _ _ => le_trans⟩
  have member (items : List NormalizedFinding) (f : NormalizedFinding) :
      f ∈ sources items key ↔ f ∈ items ∧ semanticKey f = key :=
    (List.perm_insertionSort _ _).mem_iff.trans mem_groupOf
  have perm : (sources findings key).Perm (sources others key) :=
    (List.perm_insertionSort _ _).trans
      ((groupOf_perm same key).trans (List.perm_insertionSort _ _).symm)
  refine perm.eq_of_pairwise (fun a b inFirst inSecond ab ba => ?_)
    (List.pairwise_insertionSort _ _) (List.pairwise_insertionSort _ _)
  have keys := ((member findings a).mp inFirst).2.trans ((member others b).mp inSecond).2.symm
  exact sourceSortKey_inj keys (le_antisymm ab ba)

/-- The provenance of one source. -/
def provenanceOf (f : NormalizedFinding) : FindingProvenance where
  sourceFindingId := f.findingId
  reviewer := f.reviewer
  evidenceRefs := f.evidenceRefs
  conflictGroup := f.conflictGroup

/-- A group and what it is collapsed to. Its severity is the one of every member, so
the largest in every ranking. -/
structure Represents (d : DeduplicatedFinding) (group : List NormalizedFinding) : Prop where
  representative : d.representative ∈ group
  provenance : d.provenance = group.map provenanceOf
  severity : ∀ f ∈ group, f.severity = d.representative.severity
  oneKey : ∀ f ∈ group, ∀ g ∈ group, semanticKey f = semanticKey g

/-- The groups of the result have every finding exactly once, under its own key. -/
def Partitions (findings : List NormalizedFinding) (result : FindingDeduplicationResult) : Prop :=
  ∃ groups : List (List NormalizedFinding), groups.flatten.Perm findings ∧
    List.Forall₂ Represents result.findings groups ∧
    (groups.Pairwise fun group other => ∀ f ∈ group, ∀ g ∈ other, semanticKey f ≠ semanticKey g) ∧
    result.sourceCount = findings.length

/-- Deduplication of the findings as it is meant. -/
def Deduplicates (findings : List NormalizedFinding) : Prop :=
  ∃ result, deduplicateFindings findings = .ok result ∧ Partitions findings result ∧
    ∀ others, others.Perm findings → deduplicateFindings others = .ok result

/-- Two findings under one key but for a missing confidence make the sort raise. -/
theorem confidence_missing_raises {findings : List NormalizedFinding}
    (mixed : MixedConfidence findings) : deduplicateFindings findings =
      .error ⟨.typeError, "'<' not supported between instances of 'NoneType' and 'float'"⟩ := by
  unfold deduplicateFindings
  dsimp only
  rw [ensure_error (mixedConfidence_iff.mp mixed), error_bind]

/-- The result in terms of the sources of each key. -/
theorem deduplicateFindings_ok {findings : List NormalizedFinding}
    (unmixed : ¬ MixedConfidence findings) : deduplicateFindings findings = .ok {
      findings := (sortedKeys SemanticKey.le semanticKey findings).filterMap fun key =>
        represent (sources findings key)
      sourceCount := findings.length } := by
  unfold deduplicateFindings
  dsimp only
  rw [ensure_of (not_not.mp (mixedConfidence_iff.not.mp unmixed)), ok_bind]
  rfl

theorem MixedConfidence.perm {findings others : List NormalizedFinding}
    (same : findings.Perm others) (mixed : MixedConfidence findings) : MixedConfidence others := by
  obtain ⟨f, memberF, g, memberG, rest⟩ := mixed
  exact ⟨f, same.mem_iff.mp memberF, g, same.mem_iff.mp memberG, rest⟩

theorem mem_sources {findings : List NormalizedFinding} {key : SemanticKey} {f : NormalizedFinding} :
    f ∈ sources findings key ↔ f ∈ findings ∧ semanticKey f = key :=
  (List.perm_insertionSort _ _).mem_iff.trans mem_groupOf

/-- Each group is represented by one of its members. -/
theorem represent_sources {findings : List NormalizedFinding} {key : SemanticKey}
    (listed : key ∈ sortedKeys SemanticKey.le semanticKey findings) :
    ∃ d, represent (sources findings key) = some d ∧ Represents d (sources findings key) := by
  obtain ⟨f, member, named⟩ := mem_sortedKeys.mp listed
  have inside : f ∈ sources findings key := mem_sources.mpr ⟨member, named⟩
  have one : ∀ f ∈ sources findings key, ∀ g ∈ sources findings key,
      semanticKey f = semanticKey g := fun f first g second =>
    (mem_sources.mp first).2.trans (mem_sources.mp second).2.symm
  cases shape : sources findings key with
  | nil =>
    rw [shape] at inside
    cases inside
  | cons first rest =>
    refine ⟨_, rfl, List.mem_cons_self, rfl, fun f member => ?_, shape ▸ one⟩
    have texts := congrArg SemanticKey.texts ((shape ▸ one) f member first List.mem_cons_self)
    exact Severity.value_inj (List.cons.inj texts).1

theorem partitions_sources (findings : List NormalizedFinding) : Partitions findings {
    findings := (sortedKeys SemanticKey.le semanticKey findings).filterMap fun key =>
      represent (sources findings key)
    sourceCount := findings.length } := by
  set keys := sortedKeys SemanticKey.le semanticKey findings with named
  have distinct : keys.Nodup := sortedKeys_nodup
  have represented : ∀ key ∈ keys,
      ∃ d, represent (sources findings key) = some d ∧ Represents d (sources findings key) :=
    fun key listed => represent_sources listed
  have each (some : List SemanticKey) (inside : ∀ key ∈ some, key ∈ keys) :
      List.Forall₂ Represents (some.filterMap fun key => represent (sources findings key))
        (some.map (sources findings)) := by
    induction some with
    | nil => exact .nil
    | cons key rest ih =>
      obtain ⟨d, same, represents⟩ := represented key (inside key List.mem_cons_self)
      rw [List.filterMap_cons, same, List.map_cons]
      exact .cons represents (ih fun k member => inside k (List.mem_cons_of_mem key member))
  refine ⟨keys.map (sources findings), ?_, each keys fun _ member => member, ?_, rfl⟩
  · have groups := flatten_groups distinct fun f member => mem_sortedKeys.mpr ⟨f, member, rfl⟩
    refine List.Perm.trans ?_ groups
    refine List.Perm.flatten_congr ?_
    rw [List.forall₂_map_left_iff, List.forall₂_map_right_iff]
    exact List.forall₂_same.mpr fun key _ => List.perm_insertionSort _ _
  · rw [List.pairwise_map]
    refine distinct.imp fun different f first g second same => different ?_
    rw [← (mem_sources.mp first).2, ← (mem_sources.mp second).2, same]

/-- Deduplication is as meant exactly where no confidence is missing. -/
theorem deduplicates_iff (findings : List NormalizedFinding) :
    Deduplicates findings ↔ ¬ MixedConfidence findings := by
  constructor
  · rintro ⟨result, made, -⟩ mixed
    rw [confidence_missing_raises mixed] at made
    cases made
  · intro unmixed
    refine ⟨_, deduplicateFindings_ok unmixed, partitions_sources findings, fun others same => ?_⟩
    have unmixed' : ¬ MixedConfidence others := fun mixed => unmixed (mixed.perm same)
    have keys := sortedKeys_perm same
      (not_not.mp (mixedConfidence_iff.not.mp unmixed'))
    rw [deduplicateFindings_ok unmixed', keys, same.length_eq]
    simp only [sources_perm same]

end Groups

/-! ## A finding reported with and without a confidence -/

section Remark

@[reducible] def plainText : Rendering where
  semanticText := id
  float _ := "0.5"
  unsigned _ := by decide

def remark (confidence : Option Confidence) : NormalizedFinding where
  findingId := ⟨"finding-1", by decide, by decide⟩
  severity := .minor
  category := ⟨"style", by decide, by decide, by decide, by decide⟩
  lens := ⟨"architecture", by decide, by decide, by decide, by decide⟩
  claim := ⟨"name is unclear", by decide, by decide, by decide, by decide⟩
  evidenceRefs := [⟨"src/a.py", by decide, by decide, by decide, by decide⟩]
  recommendation := ⟨"rename it", by decide, by decide, by decide, by decide⟩
  reviewer := ⟨"reviewer-1", by decide, by decide⟩
  confidence
  referenced := by decide
  bounded := by decide
  sorted := List.pairwise_singleton _ _

def certain : Confidence where
  value := 1
  nonneg := by decide
  le_one := le_refl 1

theorem remark_raises : ¬ @Deduplicates plainText [remark none, remark (some certain)] := by
  rintro ⟨result, made, -⟩
  have mixed : @MixedConfidence plainText [remark none, remark (some certain)] :=
    ⟨remark none, by simp, remark (some certain), by simp, rfl, rfl, by simp [remark]⟩
  rw [@confidence_missing_raises plainText _ mixed] at made
  cases made

end Remark

end DwSuperApps.Guarantees.FindingGroups
