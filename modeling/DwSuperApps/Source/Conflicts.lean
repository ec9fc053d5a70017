import DwSuperApps.Lib.Keyed
import DwSuperApps.Source.Findings

/-!
# Conflict adjudication

`taskcontroller/execution/conflict_adjudicator.py`. Conflict groups are detected
among the normalized findings and only explicit resolutions are applied.
-/
namespace DwSuperApps.Source.Conflicts

open DwSuperApps.Lib DwSuperApps.Lib.Checked DwSuperApps.Lib.Grouping
open DwSuperApps.Source.Findings

/-! ## Vocabulary -/

inductive ReviewVerdict where
  | pass | fail | needsFix | needsClarification
  deriving DecidableEq

namespace ReviewVerdict

def value : ReviewVerdict → String
  | pass => "PASS"
  | fail => "FAIL"
  | needsFix => "NEEDS_FIX"
  | needsClarification => "NEEDS_CLARIFICATION"

def ofValue? (s : String) : Option ReviewVerdict :=
  [pass, fail, needsFix, needsClarification].find? (·.value = s)

@[simp] theorem ofValue_value (v : ReviewVerdict) : ofValue? v.value = some v := by
  cases v <;> decide

end ReviewVerdict

inductive DecisionType where
  | continueRun | wait | retry | replan | cancel | complete | escalate
  deriving DecidableEq

namespace DecisionType

def value : DecisionType → String
  | continueRun => "CONTINUE"
  | wait => "WAIT"
  | retry => "RETRY"
  | replan => "REPLAN"
  | cancel => "CANCEL"
  | complete => "COMPLETE"
  | escalate => "ESCALATE"

def ofValue? (s : String) : Option DecisionType :=
  [continueRun, wait, retry, replan, cancel, complete, escalate].find? (·.value = s)

end DecisionType

/-- `ConflictDisposition`. -/
inductive ConflictDisposition where
  | unresolved | resolved | escalated | notMaterial
  deriving DecidableEq

/-- Neither settled nor immaterial. -/
def ConflictDisposition.isOpen (d : ConflictDisposition) : Bool := d = .unresolved ∨ d = .escalated

/-! ## Checked texts -/

/-- `_text`. -/
def text (field value : String) : Except Failure String := do
  ensure (strip value ≠ "") ⟨.adjudicationInvalid, s!"{field} must be a non-empty string"⟩
  return strip value

def optionalText (field : String) : Option String → Except Failure (Option String)
  | none => .ok none
  | some value => (text field value).map some

/-- `_refs`. -/
def refs (field : String) (values : List String) : Except Failure (List String) := do
  let items ← values.mapM (text s!"{field} item")
  ensure items.Nodup ⟨.adjudicationInvalid, s!"{field} must not contain duplicates"⟩
  return items.insertionSort (· ≤ ·)

/-! ## Records -/

/-- `ConflictResolution` as its constructor leaves it. -/
structure ConflictResolution where
  disposition : ConflictDisposition
  evidenceRefs : List String := []
  rationale : Option String := none
  residualRisk : Option String := none
  evidenced : disposition = .resolved ∨ disposition = .escalated → evidenceRefs ≠ [] ∧ rationale ≠ none

/-- Fields of `ConflictGroup`. -/
structure ConflictGroup where
  conflictId : String
  findingIds : List String
  reviewers : List String
  severities : List String
  evidenceRefs : List String
  material : Bool
  disposition : ConflictDisposition
  resolutionEvidenceRefs : List String := []
  rationale : Option String := none
  residualRisk : Option String := none
  deriving DecidableEq

/-- A material conflict that is neither resolved nor declared immaterial. -/
def ConflictGroup.unresolvedMaterial (g : ConflictGroup) : Bool := g.material && g.disposition.isOpen

/-- `ConflictGroup.__post_init__`. -/
def ConflictGroup.make (g : ConflictGroup) : Except Failure ConflictGroup := do
  let conflictId ← text "conflict_id" g.conflictId
  let findingIds ← refs "finding_ids" g.findingIds
  let reviewers ← refs "reviewers" g.reviewers
  let severities ← refs "severities" g.severities
  let evidenceRefs ← refs "evidence_refs" g.evidenceRefs
  ensure (2 ≤ findingIds.length)
    ⟨.adjudicationInvalid, "finding_ids must contain at least two findings"⟩
  ensure (reviewers ≠ []) ⟨.adjudicationInvalid, "reviewers must not be empty"⟩
  ensure (severities ≠ []) ⟨.adjudicationInvalid, "severities must not be empty"⟩
  ensure (evidenceRefs ≠ []) ⟨.adjudicationInvalid, "evidence_refs must not be empty"⟩
  let resolutionEvidenceRefs ← refs "resolution_evidence_refs" g.resolutionEvidenceRefs
  let rationale ← optionalText "rationale" g.rationale
  let residualRisk ← optionalText "residual_risk" g.residualRisk
  ensure (¬ (g.material ∧ (g.disposition = .resolved ∨ g.disposition = .escalated) ∧
      resolutionEvidenceRefs = []))
    ⟨.adjudicationInvalid, "resolution evidence_refs are required for material conflict disposition"⟩
  return { g with conflictId, findingIds, reviewers, severities, evidenceRefs,
                  resolutionEvidenceRefs, rationale, residualRisk }

/-- `ConflictAdjudicationResult`. -/
structure ConflictAdjudicationResult where
  proposedVerdict : ReviewVerdict
  finalVerdict : ReviewVerdict
  decision : DecisionType
  activeFindingIds : List String
  conflicts : List ConflictGroup
  residualRisks : List String := []

/-- `ConflictAdjudicationResult.__post_init__`. -/
def ConflictAdjudicationResult.make (r : ConflictAdjudicationResult) :
    Except Failure ConflictAdjudicationResult := do
  let activeFindingIds ← refs "active_finding_ids" r.activeFindingIds
  let residualRisks ← refs "residual_risks" r.residualRisks
  return { r with
    activeFindingIds
    conflicts := r.conflicts.insertionSort fun a b => a.conflictId ≤ b.conflictId
    residualRisks }

/-! ## Findings by identity -/

/-- `by_id[finding.finding_id] = finding`, refusing another finding under the id. The
last of equal findings stays, at the place of the first. -/
def collectFindings (conflicting : Ident 128 → Failure) :
    List NormalizedFinding → List NormalizedFinding → Except Failure (List NormalizedFinding)
  | collected, [] => .ok collected
  | collected, finding :: rest =>
    match collected.find? (·.findingId = finding.findingId) with
    | none => collectFindings conflicting (collected ++ [finding]) rest
    | some previous =>
      if previous.pyEq finding then
        collectFindings conflicting
          (collected.map fun kept => if kept.findingId = finding.findingId then finding else kept) rest
      else .error (conflicting finding.findingId)

/-- An equal finding at the place of the first one changes the findings at most in the
sign of a confidence. -/
theorem unsigned_replaced {collected : List NormalizedFinding} {previous finding : NormalizedFinding}
    (distinct : (collected.map (·.findingId)).Nodup)
    (found : collected.find? (·.findingId = finding.findingId) = some previous)
    (same : previous.pyEq finding) :
    (collected.map fun kept => if kept.findingId = finding.findingId then finding else kept).map
      (·.unsigned) = collected.map (·.unsigned) := by
  obtain ⟨held, named⟩ := Keyed.find_some found
  rw [List.map_map]
  refine List.map_congr_left fun kept member => ?_
  change (if kept.findingId = finding.findingId then finding else kept).unsigned = kept.unsigned
  split
  · next here =>
    obtain rfl := List.inj_on_of_nodup_map distinct member held (here.trans named.symm)
    exact same.symm
  · rfl

theorem findingIds_replaced (collected : List NormalizedFinding) (finding : NormalizedFinding) :
    (collected.map fun kept => if kept.findingId = finding.findingId then finding else kept).map
      (·.findingId) = collected.map (·.findingId) := by
  rw [List.map_map]
  refine List.map_congr_left fun kept _ => ?_
  change (if kept.findingId = finding.findingId then finding else kept).findingId = kept.findingId
  split
  · next here => exact here.symm
  · rfl

/-- Collecting keeps one finding under each id; up to the sign of a confidence none is
lost or added. -/
theorem collectFindings_unsigned {conflicting : Ident 128 → Failure}
    {collected items out : List NormalizedFinding} (distinct : (collected.map (·.findingId)).Nodup)
    (made : collectFindings conflicting collected items = .ok out) :
    (out.map (·.findingId)).Nodup ∧ ∀ u, u ∈ out.map (·.unsigned) ↔
      u ∈ collected.map (·.unsigned) ∨ u ∈ items.map (·.unsigned) := by
  induction items generalizing collected with
  | nil =>
    cases made
    exact ⟨distinct, fun u => by simp⟩
  | cons item rest ih =>
    unfold collectFindings at made
    split at made
    · next absent =>
      have fresh : item.findingId ∉ collected.map (·.findingId) := by
        intro member
        obtain ⟨other, inside, same⟩ := List.mem_map.mp member
        exact Keyed.find_none absent other inside same
      have longer : ((collected ++ [item]).map (·.findingId)).Nodup := by
        rw [List.map_append]
        exact distinct.append (List.nodup_singleton _) (by simpa using fresh)
      obtain ⟨ids, kept⟩ := ih longer made
      refine ⟨ids, fun u => (kept u).trans ?_⟩
      rw [List.map_append, List.mem_append, List.map_cons, List.map_nil, List.mem_singleton,
        List.map_cons, List.mem_cons, or_assoc]
    · next previous found =>
      split at made
      · next same =>
        have replaced := unsigned_replaced distinct found same
        obtain ⟨ids, kept⟩ := ih ((findingIds_replaced collected item).symm ▸ distinct) made
        refine ⟨ids, fun u => (kept u).trans ?_⟩
        have held : item.unsigned ∈ collected.map (·.unsigned) :=
          List.mem_map.mpr ⟨previous, List.mem_of_find?_eq_some found, same⟩
        rw [replaced, List.map_cons, List.mem_cons]
        constructor
        · exact Or.imp_right .inr
        · rintro (old | rfl | later)
          · exact .inl old
          · exact .inl held
          · exact .inr later
      · cases made

/-- Collecting from nothing. -/
theorem collected_unsigned {conflicting : Ident 128 → Failure} {items out : List NormalizedFinding}
    (made : collectFindings conflicting [] items = .ok out) :
    (out.map (·.findingId)).Nodup ∧
      ∀ u, u ∈ out.map (·.unsigned) ↔ u ∈ items.map (·.unsigned) := by
  have empty : (([] : List NormalizedFinding).map (·.findingId)).Nodup := List.nodup_nil
  obtain ⟨ids, kept⟩ := collectFindings_unsigned empty made
  exact ⟨ids, fun u => by simpa using kept u⟩

/-- Findings under one id are equal. -/
def Consistent (findings : List NormalizedFinding) : Prop :=
  ∀ u ∈ findings.map (·.unsigned), ∀ v ∈ findings.map (·.unsigned), u.findingId = v.findingId → u = v

instance (findings : List NormalizedFinding) : Decidable (Consistent findings) := by
  unfold Consistent; infer_instance

theorem Consistent.mono {findings others : List NormalizedFinding} (consistent : Consistent others)
    (inside : ∀ u ∈ findings.map (·.unsigned), u ∈ others.map (·.unsigned)) : Consistent findings :=
  fun u memberU v memberV same => consistent u (inside u memberU) v (inside v memberV) same

/-- Collecting succeeds exactly where the findings under one id are equal. -/
theorem collectFindings_ok {conflicting : Ident 128 → Failure}
    {collected items : List NormalizedFinding} (distinct : (collected.map (·.findingId)).Nodup) :
    (∃ out, collectFindings conflicting collected items = .ok out) ↔ Consistent (collected ++ items) := by
  induction items generalizing collected with
  | nil =>
    refine ⟨fun _ => ?_, fun _ => ⟨collected, rfl⟩⟩
    intro u memberU v memberV same
    rw [List.append_nil] at memberU memberV
    obtain ⟨f, inF, rfl⟩ := List.mem_map.mp memberU
    obtain ⟨g, inG, rfl⟩ := List.mem_map.mp memberV
    rw [List.inj_on_of_nodup_map distinct inF inG same]
  | cons item rest ih =>
    unfold collectFindings
    split
    · next absent =>
      have fresh : item.findingId ∉ collected.map (·.findingId) := by
        intro member
        obtain ⟨other, inside, same⟩ := List.mem_map.mp member
        exact Keyed.find_none absent other inside same
      have longer : ((collected ++ [item]).map (·.findingId)).Nodup := by
        rw [List.map_append]
        exact distinct.append (List.nodup_singleton _) (by simpa using fresh)
      rw [ih longer, List.append_assoc, List.singleton_append]
    · next previous found =>
      obtain ⟨held, named⟩ := Keyed.find_some found
      split
      · next same =>
        rw [ih ((findingIds_replaced collected item).symm ▸ distinct)]
        have unsigned : ∀ u, u ∈ ((collected.map fun kept =>
            if kept.findingId = item.findingId then item else kept) ++ rest).map (·.unsigned) ↔
            u ∈ (collected ++ item :: rest).map (·.unsigned) := by
          intro u
          have inside : item.unsigned ∈ collected.map (·.unsigned) :=
            List.mem_map.mpr ⟨previous, held, same⟩
          rw [List.map_append, List.map_append, unsigned_replaced distinct found same, List.map_cons,
            List.mem_append, List.mem_append, List.mem_cons]
          constructor
          · exact Or.imp_right .inr
          · rintro (old | rfl | later)
            · exact .inl old
            · exact .inl inside
            · exact .inr later
        exact ⟨fun consistent => consistent.mono fun u => (unsigned u).mpr,
          fun consistent => consistent.mono fun u => (unsigned u).mp⟩
      · next different =>
        constructor
        · rintro ⟨out, made⟩
          cases made
        intro consistent
        refine absurd (consistent previous.unsigned ?_ item.unsigned ?_ named) different
        · exact List.mem_map.mpr ⟨previous, List.mem_append_left _ held, rfl⟩
        · exact List.mem_map.mpr ⟨item, List.mem_append_right _ List.mem_cons_self, rfl⟩

def byFindingId (a b : NormalizedFinding) : Prop := a.findingId.value ≤ b.findingId.value

instance : DecidableRel byFindingId := fun a b => by unfold byFindingId; infer_instance

/-- `_normalize_findings`. -/
def normalizeFindings (values : List NormalizedFinding) : Except Failure (List NormalizedFinding) := do
  let byId ← collectFindings (fun id =>
    ⟨.adjudicationInvalid, s!"conflicting finding evidence for finding_id={id.value}"⟩) [] values
  return byId.insertionSort byFindingId

/-! ## Detection -/

section Detection
variable [Rendering]

/-- `_stance`. -/
def stance (f : NormalizedFinding) : String × Severity × String × FindingDisposition :=
  (Rendering.semanticText f.claim.value, f.severity,
    Rendering.semanticText f.recommendation.value, f.disposition)

/-- `_is_material`; every disposition is one of `_INCOMPATIBLE_DISPOSITIONS`. -/
def isMaterial (findings : List NormalizedFinding) : Bool :=
  let distinct (values : List String) := 1 < values.dedup.length
  findings.any (·.severity.isHigh) ||
    decide (distinct (findings.map fun f => Rendering.semanticText f.claim.value)) ||
    decide (distinct (findings.map fun f => Rendering.semanticText f.recommendation.value)) ||
    decide (1 < (findings.map (·.disposition)).dedup.length)

/-- Findings of one group that do not all take the same stance. -/
def disagree (findings : List NormalizedFinding) : Bool :=
  2 ≤ findings.length ∧ 2 ≤ (findings.map stance).dedup.length

/-- Group ids of the findings that name one, sorted. -/
def conflictIds (findings : List NormalizedFinding) : List String :=
  (sortedKeys (· ≤ ·) (fun f : NormalizedFinding => (f.conflictGroup.map (·.value)).getD "")
    (findings.filter (·.conflictGroup ≠ none)))

/-- The findings of one conflict group. -/
def groupFindings (findings : List NormalizedFinding) (conflictId : String) : List NormalizedFinding :=
  findings.filter fun f => f.conflictGroup.map (·.value) = some conflictId

def unresolvedRisk : String :=
  "Material conflict remains unresolved and requires Controller/Human adjudication"

/-- `_conflict_group`. -/
def conflictGroup (conflictId : String) (findings : List NormalizedFinding)
    (resolution : Option ConflictResolution) : Except Failure ConflictGroup :=
  let material := isMaterial findings
  let group : ConflictGroup :=
    { conflictId
      findingIds := findings.map (·.findingId.value)
      reviewers := findings.map (·.reviewer.value)
      severities := findings.map (·.severity.value)
      evidenceRefs := findings.flatMap fun f => f.evidenceRefs.map (·.value)
      material
      disposition := if material then .unresolved else .notMaterial
      residualRisk := if material then some unresolvedRisk else none }
  match resolution with
  | none => group.make
  | some r =>
    if material ∧ r.disposition = .notMaterial then
      .error ⟨.adjudicationInvalid,
        s!"material conflict cannot use NOT_MATERIAL disposition: {conflictId}"⟩
    else
      { group with
        disposition := r.disposition
        resolutionEvidenceRefs := r.evidenceRefs
        rationale := r.rationale
        residualRisk :=
          if material ∧ r.disposition.isOpen ∧ r.residualRisk = none then some unresolvedRisk
          else r.residualRisk }.make

/-- `adjudicate_conflicts` over the findings and the resolutions by group id. -/
def adjudicateConflicts (findings : List NormalizedFinding) (proposedVerdict : ReviewVerdict)
    (resolutions : List (String × ConflictResolution)) :
    Except Failure ConflictAdjudicationResult := do
  let normalized ← normalizeFindings findings
  ensure (∀ r ∈ resolutions, r.1 ≠ "")
    ⟨.adjudicationInvalid, "resolution keys must be non-empty strings"⟩
  let ids := (conflictIds normalized).filter fun id => disagree (groupFindings normalized id)
  let conflicts ← ids.mapM fun id =>
    conflictGroup id (groupFindings normalized id) (resolutions.lookup id)
  let unknown := (resolutions.map Prod.fst).filter (· ∉ conflicts.map (·.conflictId))
  ensure (unknown = [])
    ⟨.adjudicationInvalid, "unknown conflict resolution group(s): " ++
      ", ".intercalate (unknown.insertionSort (· ≤ ·))⟩
  let unresolved := conflicts.any (·.unresolvedMaterial)
  ConflictAdjudicationResult.make
    { proposedVerdict
      finalVerdict := if unresolved then .needsClarification else proposedVerdict
      decision := if unresolved then .escalate else .continueRun
      activeFindingIds := normalized.map (·.findingId.value)
      conflicts
      residualRisks := conflicts.filterMap (·.residualRisk) }

end Detection

end DwSuperApps.Source.Conflicts
