import Mathlib.Algebra.Order.BigOperators.Group.List
import DwSuperApps.Source.ContextPack

/-!
# What fits in a context pack

Every size of the builder goes through one check against both limits, the running total
included, and the limit of a single item is the smaller one: a pack is built exactly when all
its items together fit in a single one (`build_iff`). So items that fit one by one and in total
are refused when their total is over the single limit, and for these only the two limits do
not decide (`limits_iff`). The order of the references never matters (`build_perm`).
-/
namespace DwSuperApps.Guarantees.PackLimits

open DwSuperApps.Lib DwSuperApps.Lib.Checked DwSuperApps.Lib.Sorted
open DwSuperApps.Source.ContextPack
open DwSuperApps.Source.Chunking (Bytes ByteHash rawDigest StandardsSourceRef Reading)

/-! ## The loops -/

theorem checkSize_ok {size : Nat} {limits : ContextPackLimits} {ref : String} {u : Unit} :
    checkSize size limits ref = .ok u ↔ size ≤ limits.maxSingleBytes := by
  unfold checkSize
  rw [bind_ok]
  constructor
  · rintro ⟨_, single, -⟩
    exact ensure_ok.mp single
  · intro single
    exact ⟨(), ensure_of single _, ensure_of (le_trans single limits.bounded) _⟩

/-- A loop whose rounds add what they take, as long as it fits. -/
theorem rounds_ok {ρ μ : Type} {materialize : Nat → ρ → Except ContextPackError (μ × Nat)}
    {size : ρ → Nat} {limit : Nat} {refs : List ρ}
    (each : ∀ ref ∈ refs, ∀ total n,
      (∃ item, materialize total ref = .ok (item, n)) ↔ n = total + size ref ∧ n ≤ limit)
    {total n : Nat} (start : total ≤ limit) :
    (∃ items, rounds materialize total refs = .ok (items, n)) ↔
      n = total + (refs.map size).sum ∧ n ≤ limit := by
  induction refs generalizing total with
  | nil =>
    constructor
    · rintro ⟨items, done⟩
      cases done
      exact ⟨rfl, start⟩
    · rintro ⟨rfl, -⟩
      exact ⟨[], rfl⟩
  | cons ref rest ih =>
    have first := each ref List.mem_cons_self
    have others := fun other member => each other (List.mem_cons_of_mem ref member)
    rw [List.map_cons, List.sum_cons]
    constructor
    · rintro ⟨items, done⟩
      unfold rounds at done
      obtain ⟨made, taken, done⟩ := bind_ok.mp done
      obtain ⟨later, followed, done⟩ := bind_ok.mp done
      simp only [Except.ok.injEq, Prod.mk.injEq] at done
      obtain ⟨-, rfl⟩ := done
      obtain ⟨next, fits⟩ := (first total made.2).mp ⟨made.1, taken⟩
      obtain ⟨reached, within⟩ := (ih others fits).mp ⟨later.1, followed⟩
      exact ⟨by rw [reached, next, Nat.add_assoc], within⟩
    · rintro ⟨reached, within⟩
      have fits : total + size ref ≤ limit := by omega
      obtain ⟨item, taken⟩ := (first total (total + size ref)).mpr ⟨rfl, fits⟩
      obtain ⟨items, followed⟩ := (ih others fits).mpr ⟨by rw [reached, Nat.add_assoc], within⟩
      exact ⟨item :: items, by unfold rounds; rw [taken, ok_bind, followed, ok_bind]⟩

/-! ## What is given -/

section
variable [ByteHash]

/-- A standards context as its resolver leaves it. -/
structure Resolved (context : StandardsSessionContext) : Prop where
  sources : context.instructions.map (·.source) = context.receipt.sources
  contents : ∀ item ∈ context.instructions, rawDigest (encode item.content) = item.source.blobDigest

/-- A file of a commit has one content. -/
def Immutable (sources : List StandardsSourceRef) : Prop :=
  ∀ a ∈ sources, ∀ b ∈ sources, sourceKey a = sourceKey b → a.blobDigest = b.blobDigest

/-- The sources are read as UTF-8 bytes of their digest. -/
def SourcesRead (reader : StandardsSourceRef → Answer) (sources : List StandardsSourceRef) : Prop :=
  ∀ source ∈ sources, ∃ raw, reader source = .bytes raw ∧ rawDigest raw = source.blobDigest ∧
    (decode raw).isSome

/-- The evidence is read as bytes of its digest. -/
def EvidenceRead (reader : EvidenceRef → Answer) (evidence : List EvidenceRef) : Prop :=
  ∀ reference ∈ evidence, ∃ raw, reader reference = .bytes raw ∧ rawDigest raw = reference.digest

end

def sizeOf (read : Except ContextPackError Bytes) : Nat :=
  match read with
  | .ok raw => raw.length
  | .error _ => 0

def sourceSize (builder : ContextPackBuilder) (context : StandardsSessionContext)
    (source : StandardsSourceRef) : Nat :=
  sizeOf (sourceBytes context.instructions builder.sourceReader source)

def evidenceSize (builder : ContextPackBuilder) (reference : EvidenceRef) : Nat :=
  sizeOf (readEvidence builder.evidenceReader reference)

/-- The sizes of the standards instructions, the sources and the evidence. -/
def itemSizes (builder : ContextPackBuilder) (context : StandardsSessionContext)
    (sources : List StandardsSourceRef) (evidence : List EvidenceRef) : List Nat :=
  (context.instructions.map fun item => (encode item.content).length) ++
    sources.map (sourceSize builder context) ++ evidence.map (evidenceSize builder)

theorem decode_encode (text : String) : decode (encode text) = some text := by
  have bytes : (encode text).toByteArray = text.toByteArray := String.utf8Encode_toList
  unfold decode String.fromUTF8?
  rw [bytes, dif_pos text.isValidUTF8]
  rfl

/-! ## One round -/

theorem mem_of_lookup {κ α : Type} [DecidableEq κ] {pairs : List (κ × α)} {k : κ} {a : α}
    (held : pairs.lookup k = some a) : (k, a) ∈ pairs := by
  obtain ⟨before, after, rfl, -⟩ := List.lookup_eq_some_iff.mp held
  exact List.mem_append_right _ List.mem_cons_self

section
variable [ByteHash] {builder : ContextPackBuilder} {context : StandardsSessionContext}
  {sources : List StandardsSourceRef} {evidence : List EvidenceRef}

/-- The bytes of every source are there, have its digest and are UTF-8. -/
theorem source_bytes (resolved : Resolved context)
    (immutable : Immutable (sources ++ context.receipt.sources))
    (read : SourcesRead builder.sourceReader sources) {source : StandardsSourceRef} (member : source ∈ sources) :
    ∃ raw, sourceBytes context.instructions builder.sourceReader source = .ok raw ∧
      rawDigest raw = source.blobDigest ∧ (decode raw).isSome := by
  unfold sourceBytes
  dsimp only
  split
  · next instruction held =>
    rw [Dict.get?_update, Dict.get?_empty, Option.or_none] at held
    obtain ⟨item, inside, same⟩ := List.mem_map.mp (List.mem_reverse.mp (mem_of_lookup held))
    simp only [Prod.mk.injEq] at same
    obtain ⟨key, rfl⟩ := same
    have listed : item.source ∈ context.receipt.sources := by
      rw [← resolved.sources]
      exact List.mem_map_of_mem inside
    have digest := immutable _ (List.mem_append_right _ listed) _ (List.mem_append_left _ member) key
    exact ⟨_, rfl, (resolved.contents item inside).trans digest, by rw [decode_encode]; rfl⟩
  · obtain ⟨raw, answered, digest, text⟩ := read source member
    exact ⟨raw, by unfold readSource; rw [answered], digest, text⟩

theorem source_round (resolved : Resolved context)
    (immutable : Immutable (sources ++ context.receipt.sources))
    (read : SourcesRead builder.sourceReader sources) {source : StandardsSourceRef} (member : source ∈ sources)
    (total n : Nat) :
    (∃ item, materializeSource context.instructions builder.sourceReader builder.limits total source =
      .ok (item, n)) ↔
      n = total + sourceSize builder context source ∧ n ≤ builder.limits.maxSingleBytes := by
  obtain ⟨raw, found, digest, text⟩ := source_bytes resolved immutable read member
  obtain ⟨content, decoded⟩ := Option.isSome_iff_exists.mp text
  have size : sourceSize builder context source = raw.length := by
    unfold sourceSize
    rw [found]
    rfl
  unfold materializeSource checkContentDigest
  rw [found, ok_bind, ensure_of digest, ok_bind, size, decoded]
  simp only [bind_ok, checkSize_ok, Unique.exists_iff, Except.ok.injEq, Prod.mk.injEq]
  constructor
  · rintro ⟨item, -, within, -, rfl⟩
    exact ⟨rfl, within⟩
  · rintro ⟨rfl, within⟩
    exact ⟨_, le_trans (Nat.le_add_left ..) within, within, rfl, rfl⟩

theorem evidence_round (read : EvidenceRead builder.evidenceReader evidence) {reference : EvidenceRef}
    (member : reference ∈ evidence) (total n : Nat) :
    (∃ item, materializeEvidence builder.evidenceReader builder.limits total reference = .ok (item, n)) ↔
      n = total + evidenceSize builder reference ∧ n ≤ builder.limits.maxSingleBytes := by
  obtain ⟨raw, answered, digest⟩ := read reference member
  have found : readEvidence builder.evidenceReader reference = .ok raw := by
    unfold readEvidence
    rw [answered]
  have size : evidenceSize builder reference = raw.length := by
    unfold evidenceSize
    rw [found]
    rfl
  unfold materializeEvidence checkContentDigest
  rw [found, ok_bind, ensure_of digest, ok_bind, size]
  simp only [bind_ok, checkSize_ok, Unique.exists_iff, Except.ok.injEq, Prod.mk.injEq]
  constructor
  · rintro ⟨item, -, within, -, rfl⟩
    exact ⟨rfl, within⟩
  · rintro ⟨rfl, within⟩
    exact ⟨_, le_trans (Nat.le_add_left ..) within, within, rfl, rfl⟩

/-! ## The references in order -/

omit [ByteHash] in
theorem sourceKeys_nodup {declared : List StandardsSourceRef} (distinct : sources.Nodup)
    (immutable : Immutable (sources ++ declared)) : (sources.map sourceKey).Nodup := by
  refine (List.nodup_map_iff_inj_on distinct).mpr ?_
  intro a inside b other same
  have digest := immutable a (List.mem_append_left _ inside) b (List.mem_append_left _ other) same
  cases a
  cases b
  simp only [sourceKey, List.cons.injEq] at same
  simp_all

omit [ByteHash] in
theorem sortKey_injective : Function.Injective EvidenceRef.sortKey := by
  intro a b same
  cases a
  cases b
  simp only [EvidenceRef.sortKey, List.cons.injEq] at same
  simp only [EvidenceRef.mk.injEq]
  exact ⟨same.1, Digest.ext same.2.1, same.2.2.1⟩

omit [ByteHash] in
theorem ordered_of {ρ : Type} {key : ρ → List String} {refs : List ρ} (distinct : (refs.map key).Nodup)
    (name : String) : ordered key name refs = .ok (sortedBy key refs) := by
  have kept : ((sortedBy key refs).map key).Nodup := (perm_sortedBy.map key).nodup_iff.mpr distinct
  unfold ordered
  rw [ensure_of kept, ok_bind]

omit [ByteHash] in
theorem normalize_sources {declared : List StandardsSourceRef} (distinct : sources.Nodup)
    (immutable : Immutable (sources ++ declared)) :
    normalizeSources (.array (sources.map .read)) = .ok (sortedBy sourceKey sources) := by
  have read : (sources.map Reading.read).mapM sourceOf = .ok sources := by
    rw [mapM_ok, List.forall₂_map_left_iff]
    exact List.forall₂_same.mpr fun _ _ => rfl
  unfold normalizeSources
  dsimp only
  rw [bind_of read, ordered_of (sourceKeys_nodup distinct immutable)]

omit [ByteHash] in
theorem normalize_evidence (distinct : evidence.Nodup) :
    normalizeEvidence (.array (evidence.map .read)) = .ok (sortedBy EvidenceRef.sortKey evidence) := by
  have read : (evidence.map Reading.read).mapM evidenceOf = .ok evidence := by
    rw [mapM_ok, List.forall₂_map_left_iff]
    exact List.forall₂_same.mpr fun _ _ => rfl
  unfold normalizeEvidence
  dsimp only
  rw [bind_of read, ordered_of (distinct.map sortKey_injective)]

/-! ## The whole pack -/

/-- What is given: a resolved standards context, distinct references within the count limits,
one content for every committed file, and readers that return the bytes of the digests. -/
structure Offered (builder : ContextPackBuilder) (context : StandardsSessionContext)
    (sources : List StandardsSourceRef) (evidence : List EvidenceRef) : Prop where
  resolved : Resolved context
  distinct : sources.Nodup
  distinctEvidence : evidence.Nodup
  few : sources.length ≤ builder.limits.maxSources
  fewEvidence : evidence.length ≤ builder.limits.maxEvidence
  immutable : Immutable (sources ++ context.receipt.sources)
  read : SourcesRead builder.sourceReader sources
  proven : EvidenceRead builder.evidenceReader evidence

theorem standards_given (offered : Offered builder context sources evidence) :
    standardsContext (some context) = .ok context := by
  have declared : context.receipt.sources ≠ [] := by
    rw [← context.receipt.declared]
    exact fun none => context.receipt.required (List.map_eq_nil_iff.mp none)
  have instructed : context.instructions ≠ [] := by
    intro none
    have sources := offered.resolved.sources
    rw [none] at sources
    exact declared sources.symm
  unfold standardsContext
  dsimp only
  rw [ensure_of ⟨instructed, declared⟩, ok_bind, ensure_of offered.resolved.sources, ok_bind]

/-- A pack is built exactly when all its items together fit in a single one. -/
theorem build_iff (offered : Offered builder context sources evidence) :
    (∃ pack, builder.build (.array (sources.map .read)) (.array (evidence.map .read)) (some context) =
      .ok pack) ↔ (itemSizes builder context sources evidence).sum ≤ builder.limits.maxSingleBytes := by
  have total : (itemSizes builder context sources evidence).sum = standardsBytes context +
      ((sortedBy sourceKey sources).map (sourceSize builder context)).sum +
      ((sortedBy EvidenceRef.sortKey evidence).map (evidenceSize builder)).sum := by
    unfold itemSizes standardsBytes
    rw [List.sum_append, List.sum_append, (perm_sortedBy.map (sourceSize builder context)).sum_nat,
      (perm_sortedBy.map (evidenceSize builder)).sum_nat]
  have few : (sortedBy sourceKey sources).length ≤ builder.limits.maxSources := by
    rw [perm_sortedBy.length_eq]
    exact offered.few
  have fewEvidence : (sortedBy EvidenceRef.sortKey evidence).length ≤ builder.limits.maxEvidence := by
    rw [perm_sortedBy.length_eq]
    exact offered.fewEvidence
  have source := fun ref (member : ref ∈ sortedBy sourceKey sources) =>
    source_round offered.resolved offered.immutable offered.read (mem_sortedBy.mp member)
  have proof := fun ref (member : ref ∈ sortedBy EvidenceRef.sortKey evidence) =>
    evidence_round offered.proven (mem_sortedBy.mp member)
  unfold ContextPackBuilder.build
  rw [standards_given offered, ok_bind, normalize_sources offered.distinct offered.immutable, ok_bind,
    normalize_evidence offered.distinctEvidence, ok_bind, ensure_of few, ok_bind, ensure_of fewEvidence, ok_bind,
    total]
  simp only [bind_ok, checkSize_ok]
  constructor
  · rintro ⟨pack, _, standards, ⟨items, n⟩, read, ⟨proofs, m⟩, proven, -⟩
    obtain ⟨reached, within⟩ := (rounds_ok source standards).mp ⟨items, read⟩
    obtain ⟨finish, fits⟩ := (rounds_ok proof within).mp ⟨proofs, proven⟩
    rw [← reached, ← finish]
    exact fits
  · intro fits
    have standards : standardsBytes context ≤ builder.limits.maxSingleBytes := by omega
    have within : standardsBytes context + ((sortedBy sourceKey sources).map (sourceSize builder context)).sum ≤
        builder.limits.maxSingleBytes := by omega
    obtain ⟨items, read⟩ := (rounds_ok source standards).mpr ⟨rfl, within⟩
    obtain ⟨proofs, proven⟩ := (rounds_ok proof within).mpr ⟨rfl, fits⟩
    exact ⟨_, (), standards, _, read, _, proven, rfl⟩

/-- The order of the references does not matter. -/
theorem build_perm (offered : Offered builder context sources evidence)
    {otherSources : List StandardsSourceRef} {otherEvidence : List EvidenceRef}
    (reordered : otherSources.Perm sources) (reorderedEvidence : otherEvidence.Perm evidence) :
    builder.build (.array (otherSources.map .read)) (.array (otherEvidence.map .read)) (some context) =
      builder.build (.array (sources.map .read)) (.array (evidence.map .read)) (some context) := by
  have immutable : Immutable (otherSources ++ context.receipt.sources) := by
    have same : ∀ s, s ∈ otherSources ++ context.receipt.sources ↔ s ∈ sources ++ context.receipt.sources :=
      fun s => (reordered.append_right _).mem_iff
    exact fun a inside b other => offered.immutable a ((same a).mp inside) b ((same b).mp other)
  have keys := List.inj_on_of_nodup_map (sourceKeys_nodup offered.distinct offered.immutable)
  have sorted : sortedBy sourceKey otherSources = sortedBy sourceKey sources :=
    (sortedBy_eq_of_perm reordered.symm fun a inside b other same => keys inside other same).symm
  have sortedEvidence : sortedBy EvidenceRef.sortKey otherEvidence = sortedBy EvidenceRef.sortKey evidence :=
    (sortedBy_eq_of_perm reorderedEvidence.symm fun a _ b _ same => sortKey_injective same).symm
  unfold ContextPackBuilder.build
  rw [normalize_sources offered.distinct offered.immutable, normalize_evidence offered.distinctEvidence,
    normalize_sources (reordered.nodup_iff.mpr offered.distinct) immutable,
    normalize_evidence (reorderedEvidence.nodup_iff.mpr offered.distinctEvidence), sorted, sortedEvidence]

end

/-- The two limits decide, and the order does not matter, exactly when the items do not fit
one by one and in total while their total is over the single limit. -/
theorem limits_iff [ByteHash] (builder : ContextPackBuilder) (context : StandardsSessionContext)
    (sources : List StandardsSourceRef) (evidence : List EvidenceRef)
    (offered : Offered builder context sources evidence) :
    (((∃ pack, builder.build (.array (sources.map .read)) (.array (evidence.map .read)) (some context) =
        .ok pack) ↔
      (∀ size ∈ itemSizes builder context sources evidence, size ≤ builder.limits.maxSingleBytes) ∧
        (itemSizes builder context sources evidence).sum ≤ builder.limits.maxTotalBytes) ∧
      ∀ (otherSources : List StandardsSourceRef) (otherEvidence : List EvidenceRef),
        otherSources.Perm sources → otherEvidence.Perm evidence →
        builder.build (.array (otherSources.map .read)) (.array (otherEvidence.map .read)) (some context) =
          builder.build (.array (sources.map .read)) (.array (evidence.map .read)) (some context)) ↔
      ((itemSizes builder context sources evidence).sum ≤ builder.limits.maxSingleBytes ∨
        (∃ size ∈ itemSizes builder context sources evidence, builder.limits.maxSingleBytes < size) ∨
        builder.limits.maxTotalBytes < (itemSizes builder context sources evidence).sum) := by
  rw [build_iff offered, and_iff_left fun _ _ => build_perm offered]
  have bounded := builder.limits.bounded
  have each : ∀ size ∈ itemSizes builder context sources evidence,
      size ≤ (itemSizes builder context sources evidence).sum := fun size => List.le_sum_of_mem
  generalize itemSizes builder context sources evidence = sizes at each ⊢
  constructor
  · intro decides
    by_cases single : sizes.sum ≤ builder.limits.maxSingleBytes
    · exact .inl single
    · refine .inr ?_
      by_contra fits
      push Not at fits
      exact single (decides.mpr fits)
  · rintro (single | ⟨size, member, large⟩ | beyond)
    · exact iff_of_true single ⟨fun size member => le_trans (each size member) single, le_trans single bounded⟩
    · exact iff_of_false (fun single => absurd (le_trans (each size member) single) (not_le.mpr large))
        fun fits => absurd (fits.1 size member) (not_le.mpr large)
    · exact iff_of_false (fun single => absurd (le_trans single bounded) (not_le.mpr beyond))
        fun fits => absurd fits.2 (not_le.mpr beyond)

/-! ## Two items of one byte, two bytes in total -/

@[reducible] def lengthHash : ByteHash := ⟨List.length⟩

def sampleSource : StandardsSourceRef where
  repository := "o"
  commitSha := String.ofList (List.replicate 40 'a')
  path := "p"
  blobDigest := @rawDigest lengthHash [97]
  identified := by decide
  commit := by decide
  safe := by decide

def sampleContext : StandardsSessionContext where
  receipt :=
    { profileId := "e", version := "1", digest := Digest.ofNat 0, sources := [sampleSource]
      contextDigest := Digest.ofNat 0, materializedSources := [⟨sampleSource, 1⟩]
      materializationDigest := Digest.ofNat 0, required := by simp, declared := rfl }
  instructions := [⟨sampleSource, "a"⟩]

def sampleEvidence : EvidenceRef where
  ref := "x"
  digest := @rawDigest lengthHash [98]
  named := by decide
  typed := by decide

def sampleBuilder : ContextPackBuilder where
  sourceReader := fun _ => .raised
  evidenceReader := fun _ => .bytes [98]
  limits := { maxTotalBytes := 2, maxSingleBytes := 1, bounded := by decide }

theorem sample_offered : @Offered lengthHash sampleBuilder sampleContext [] [sampleEvidence] := by
  let hash : ByteHash := lengthHash
  refine ⟨⟨rfl, ?_⟩, List.nodup_nil, List.nodup_singleton _, by decide, by decide, ?_, ?_, ?_⟩
  · intro item member
    rw [List.mem_singleton.mp member]
    rfl
  · intro a inside b other _
    rw [List.mem_singleton.mp inside, List.mem_singleton.mp other]
  · exact fun source member => absurd member List.not_mem_nil
  · intro reference member
    rw [List.mem_singleton.mp member]
    exact ⟨[98], rfl, rfl⟩

/-- The items fit one by one and in total, and the total is over the single limit. -/
theorem limits_sample :
    ¬ (((∃ pack, @ContextPackBuilder.build lengthHash sampleBuilder (.array [])
        (.array [.read sampleEvidence]) (some sampleContext) = .ok pack) ↔
      (∀ size ∈ itemSizes sampleBuilder sampleContext [] [sampleEvidence],
        size ≤ sampleBuilder.limits.maxSingleBytes) ∧
        (itemSizes sampleBuilder sampleContext [] [sampleEvidence]).sum ≤
          sampleBuilder.limits.maxTotalBytes) ∧
      ∀ (otherSources : List StandardsSourceRef) (otherEvidence : List EvidenceRef),
        otherSources.Perm [] → otherEvidence.Perm [sampleEvidence] →
        @ContextPackBuilder.build lengthHash sampleBuilder (.array (otherSources.map .read))
          (.array (otherEvidence.map .read)) (some sampleContext) =
          @ContextPackBuilder.build lengthHash sampleBuilder (.array []) (.array [.read sampleEvidence])
            (some sampleContext)) :=
  fun decides => absurd ((@limits_iff lengthHash sampleBuilder sampleContext [] [sampleEvidence]
    sample_offered).mp decides) (by decide)

/-- Items within both limits of which no pack is built. -/
theorem within_refused :
    ¬ ∀ [ByteHash] (builder : ContextPackBuilder) (context : StandardsSessionContext)
        (sources : List StandardsSourceRef) (evidence : List EvidenceRef),
        Offered builder context sources evidence →
        ((∃ pack, builder.build (.array (sources.map .read)) (.array (evidence.map .read)) (some context) =
            .ok pack) ↔
          (∀ size ∈ itemSizes builder context sources evidence, size ≤ builder.limits.maxSingleBytes) ∧
            (itemSizes builder context sources evidence).sum ≤ builder.limits.maxTotalBytes) := by
  intro decides
  have built := (@decides lengthHash sampleBuilder sampleContext [] [sampleEvidence] sample_offered).mpr (by decide)
  exact absurd ((@build_iff lengthHash _ _ _ _ sample_offered).mp built) (by decide)

end DwSuperApps.Guarantees.PackLimits
