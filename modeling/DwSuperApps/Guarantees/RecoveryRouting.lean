import DwSuperApps.Guarantees.EventReplay
import DwSuperApps.Guarantees.RecoveryFrame

/-!
# Routing after a recovery

A checkpoint carries the watermarks and the fingerprints of the dedupe dictionary,
the journal tail those of the events after it. `Mirrors` says that the sidecars of
a run determine the dictionary; a store rebuilt from them then routes as the store
they came from.
-/
namespace DwSuperApps.Guarantees.RecoveryRouting

open DwSuperApps.Lib DwSuperApps.Lib.Checked
open DwSuperApps.Source.Runtime
open DwSuperApps.Guarantees.RuntimeCommits DwSuperApps.Guarantees.LeaseHolding
open DwSuperApps.Guarantees.JournalReplay DwSuperApps.Guarantees.RoutedEvents
open DwSuperApps.Guarantees.EventReplay DwSuperApps.Guarantees.RecoveryFrame

/-! ## The stream entries -/

theorem isStreamKey_streamKey (e a : String) : isStreamKey (streamKey e a) = true := by
  unfold isStreamKey
  rw [List.isPrefixOf_iff_prefix, streamKey_chars]
  exact List.prefix_append ..

theorem isStreamKey_id (i : Identifier) : isStreamKey i.text = false := by
  by_contra stream
  obtain ⟨rest, whole⟩ := List.isPrefixOf_iff_prefix.mp (Bool.not_eq_false _ ▸ stream)
  apply i.noColon
  rw [← whole]
  simp

theorem isStreamKey_idempotencyKey (key : String) : isStreamKey (idempotencyKey key) = false := by
  by_contra stream
  obtain ⟨rest, whole⟩ := List.isPrefixOf_iff_prefix.mp (Bool.not_eq_false _ ▸ stream)
  rw [idempotencyKey, String.toList_append] at whole
  simp at whole

theorem isStreamKey_dedupeKeys {event : AgentEvent} {key : String} (member : key ∈ dedupeKeys event) :
    isStreamKey key = false := by
  rcases List.mem_cons.mp member with rfl | idem
  · exact isStreamKey_id event.eventId
  · obtain ⟨key', -, rfl⟩ := Option.map_eq_some_iff.mp (Option.mem_toList.mp idem)
    exact isStreamKey_idempotencyKey key'

/-- A `stream:` key names a stream and holds its watermark, as the router writes it. -/
def WellKeyed (dedupe : Dict String DedupeEntry) : Prop :=
  ∀ key entry, dedupe.get? key = some entry → isStreamKey key = true →
    ∃ e a watermark, ':' ∉ e.toList ∧ key = streamKey e a ∧ entry = .stream watermark

/-- Under a `stream:` key the stored watermark says what is held. -/
theorem WellKeyed.stored {dedupe : Dict String DedupeEntry} (wellKeyed : WellKeyed dedupe)
    (e a : String) :
    dedupe.get? (streamKey e a) = (storedWatermark dedupe e a).map .stream := by
  unfold storedWatermark
  cases held : dedupe.get? (streamKey e a) with
  | none => rfl
  | some entry =>
    obtain ⟨_, _, watermark, -, -, rfl⟩ := wellKeyed _ _ held (isStreamKey_streamKey e a)
    rfl

theorem collect_ok {dedupe : Dict String DedupeEntry} (wellKeyed : WellKeyed dedupe)
    (start : Dict (String × String) StreamWatermark) :
    ∃ watermarks, collectWatermarks start dedupe = .ok watermarks := by
  have all := Dict.forall_get?.mp wellKeyed
  unfold collectWatermarks
  revert all
  generalize dedupe.entries = entries
  intro all
  induction entries generalizing start with
  | nil => exact ⟨start, rfl⟩
  | cons entry rest ih =>
    obtain ⟨key, held⟩ := entry
    have later : ∀ entry ∈ rest, isStreamKey entry.1 = true → _ :=
      fun entry member => all entry (List.mem_cons_of_mem _ member)
    rw [List.foldlM_cons]
    cases parsed : parseStreamKey key with
    | none => exact ih start later
    | some stream =>
      have stream_key : isStreamKey key = true := by
        rw [(parseStreamKey_iff.mp parsed).1]
        exact isStreamKey_streamKey ..
      obtain ⟨_, _, watermark, -, -, same⟩ := all (key, held) (List.mem_cons_self ..) stream_key
      change held = .stream watermark at same
      subst same
      exact ih (start.set stream watermark) later

theorem wellKeyed_accept {s : Store} (wellKeyed : WellKeyed s.dedupe) (event : AgentEvent)
    (value : VersionedRunState) : WellKeyed (acceptStore s event value).dedupe := by
  intro key entry held stream
  rw [accepted_get] at held
  split at held
  · next same =>
    cases held
    exact ⟨_, _, _, event.executionId.noColon, same, rfl⟩
  · split at held
    · next member =>
      rw [isStreamKey_dedupeKeys member] at stream
      cases stream
    · exact wellKeyed key entry held stream

/-! ## Sidecars that determine the dictionary -/

/-- What is recorded with a run is in the dictionary, if maybe newer. -/
structure Recorded (dedupe : Dict String DedupeEntry) (metadata : RuntimeSnapshotMeta) : Prop where
  streams : ∀ e a watermark, metadata.streamWatermarks.get? (e, a) = some watermark →
    ':' ∉ e.toList ∧ (dedupe.get? (streamKey e a)).isSome
  keys : ∀ key entry, metadata.dedupeFingerprints.get? key = some entry → (dedupe.get? key).isSome

/-- What is recorded with a run is what the dictionary holds; a `stream:` entry
among the fingerprints may be old. -/
structure Mirrors (dedupe : Dict String DedupeEntry) (metadata : RuntimeSnapshotMeta) : Prop where
  streams : ∀ e a, metadata.streamWatermarks.get? (e, a) =
    if ':' ∈ e.toList then none else storedWatermark dedupe e a
  keys : ∀ key, isStreamKey key = false →
    metadata.dedupeFingerprints.get? key = dedupe.get? key
  stale : ∀ key entry, isStreamKey key = true →
    metadata.dedupeFingerprints.get? key = some entry → (dedupe.get? key).isSome

theorem merged_get (recorded dedupe : Dict String DedupeEntry) (key : String) :
    (mergedFingerprints recorded dedupe).get? key =
      (if isStreamKey key = false then dedupe.get? key else none).or (recorded.get? key) := by
  unfold mergedFingerprints
  rw [Dict.get?_update_entries]
  · exact congrArg (Option.or · _) (Dict.lookup_filter (fun key => isStreamKey key = false) key)
  · exact dedupe.distinct.sublist (List.filter_sublist.map _)

/-- A checkpoint mirrors the dictionary it was built from. -/
theorem snapshot_mirrors {s : Store} {r : String} {v : VersionedRunState}
    (held : s.runs.get? r = some v) (wellKeyed : WellKeyed s.dedupe)
    (recorded : Recorded s.dedupe v.metadata) :
    ∃ snap, buildCheckpointSnapshot s r = .ok snap ∧ snap.state = v.state ∧
      snap.version = v.version ∧ snap.metadata.attemptRegistry = v.metadata.attemptRegistry ∧
      snap.metadata.leases = v.metadata.leases ∧
      snap.metadata.journalPosition = (s.journal r).lastRecordIndex ∧
      Mirrors s.dedupe snap.metadata := by
  obtain ⟨watermarks, collected⟩ := collect_ok wellKeyed v.metadata.streamWatermarks
  unfold buildCheckpointSnapshot
  rw [held]
  simp only [collected]
  refine ⟨_, rfl, rfl, rfl, rfl, rfl, rfl, ?_, ?_, ?_⟩
  · intro e a
    change watermarks.get? (e, a) = _
    rw [collect_get collected]
    cases start : v.metadata.streamWatermarks.get? (e, a) with
    | none => rw [Option.or_none]
    | some watermark =>
      obtain ⟨noColon, present⟩ := recorded.streams e a watermark start
      rw [wellKeyed.stored, Option.isSome_map] at present
      rw [if_neg noColon, Option.or_of_isSome present]
  · intro key other
    change (mergedFingerprints _ _).get? key = _
    rw [merged_get, if_pos other]
    cases start : v.metadata.dedupeFingerprints.get? key with
    | none => rw [Option.or_none]
    | some entry => rw [Option.or_of_isSome (recorded.keys key entry start)]
  · intro key entry stream found
    change (mergedFingerprints _ _).get? key = _ at found
    rw [merged_get, if_neg (by simp [stream]), Option.none_or] at found
    exact recorded.keys key entry found

/-- The value all pairs under a key agree on. -/
theorem lookup_of_mem {pairs : List (String × DedupeEntry)} {key : String} {entry : DedupeEntry}
    (member : (key, entry) ∈ pairs) (only : ∀ other, (key, other) ∈ pairs → other = entry) :
    pairs.lookup key = some entry := by
  induction pairs with
  | nil => cases member
  | cons first rest ih =>
    obtain ⟨key', entry'⟩ := first
    rw [List.lookup_cons]
    by_cases same : key = key'
    · subst same
      rw [beq_self_eq_true, only entry' (List.mem_cons_self ..)]
    · rw [beq_false_of_ne same]
      refine ih ?_ fun other later => only other (List.mem_cons_of_mem _ later)
      rcases List.mem_cons.mp member with here | later
      · exact absurd (Prod.mk.inj here).1 same
      · exact later

/-- Sidecars that mirror a dictionary rebuild it. -/
theorem rebuilt_get {dedupe : Dict String DedupeEntry} {metadata : RuntimeSnapshotMeta}
    (wellKeyed : WellKeyed dedupe) (mirrors : Mirrors dedupe metadata) (key : String) :
    (rebuiltDedupe metadata).get? key = dedupe.get? key := by
  let pairs := metadata.streamWatermarks.entries.map fun entry =>
    (streamKey entry.1.1 entry.1.2, DedupeEntry.stream entry.2)
  have inside {e a : String} {watermark : StreamWatermark} :
      metadata.streamWatermarks.get? (e, a) = some watermark →
        ':' ∉ e.toList ∧ storedWatermark dedupe e a = some watermark := by
    rw [mirrors.streams]
    intro found
    split at found
    · cases found
    · next noColon => exact ⟨noColon, found⟩
  have pair {key : String} {entry : DedupeEntry} (member : (key, entry) ∈ pairs.reverse) :
      ∃ e a watermark, ':' ∉ e.toList ∧ key = streamKey e a ∧ entry = .stream watermark ∧
        storedWatermark dedupe e a = some watermark := by
    obtain ⟨⟨⟨e, a⟩, watermark⟩, present, same⟩ := List.mem_map.mp (List.mem_reverse.mp member)
    obtain ⟨rfl, rfl⟩ := Prod.mk.inj same
    obtain ⟨noColon, stored⟩ := inside (Dict.get?_eq_some.mpr present)
    exact ⟨e, a, watermark, noColon, rfl, rfl, stored⟩
  change ((({} : Dict String DedupeEntry).update _).update pairs).get? key = _
  rw [Dict.get?_update, Dict.get?_copy]
  cases held : dedupe.get? key with
  | none =>
    have absent : pairs.reverse.lookup key = none := by
      rw [List.lookup_eq_none_iff]
      rintro ⟨key', entry⟩ member
      refine bne_iff_ne.mpr fun same => ?_
      change key = key' at same
      obtain ⟨e, a, watermark, -, named, -, stored⟩ := pair member
      rw [same, named, wellKeyed.stored, stored] at held
      cases held
    rw [absent, Option.none_or]
    cases stream : isStreamKey key with
    | false => rw [mirrors.keys key stream, held]
    | true =>
      by_contra present
      obtain ⟨entry, found⟩ := Option.ne_none_iff_exists'.mp present
      have kept := mirrors.stale key entry stream found
      rw [held] at kept
      cases kept
  | some entry =>
    cases stream : isStreamKey key with
    | false =>
      have absent : pairs.reverse.lookup key = none := by
        rw [List.lookup_eq_none_iff]
        rintro ⟨key', entry⟩ member
        refine bne_iff_ne.mpr fun same => ?_
        change key = key' at same
        obtain ⟨e, a, watermark, -, named, -, -⟩ := pair member
        rw [same, named, isStreamKey_streamKey] at stream
        cases stream
      rw [absent, Option.none_or, mirrors.keys key stream, held]
    | true =>
      obtain ⟨e, a, watermark, noColon, rfl, rfl⟩ := wellKeyed key entry held stream
      have stored : storedWatermark dedupe e a = some watermark := by
        unfold storedWatermark
        rw [held]
        rfl
      have found : pairs.reverse.lookup (streamKey e a) = some (.stream watermark) := by
        apply lookup_of_mem
        · refine List.mem_reverse.mpr (List.mem_map.mpr ⟨((e, a), watermark), ?_, rfl⟩)
          rw [← Dict.get?_eq_some, mirrors.streams, if_neg noColon, stored]
        · intro other member
          obtain ⟨e', a', watermark', noColon', same, rfl, stored'⟩ := pair member
          obtain ⟨rfl, rfl⟩ := streamKey_inj noColon noColon' same
          rw [Option.some.inj (stored'.symm.trans stored)]
      rw [found, Option.some_or]

/-! ## Events after the checkpoint -/

/-- The parts of two versions of a run that routing reads are the same. -/
structure SameCore (v w : VersionedRunState) : Prop where
  state : v.state = w.state
  version : v.version = w.version
  attempts : v.metadata.attemptRegistry = w.metadata.attemptRegistry
  leases : v.metadata.leases = w.metadata.leases

theorem replayedKeys_eq {event : AgentEvent} (nonempty : event.idempotencyKey ≠ some "") :
    replayedKeys event = dedupeKeys event := by
  unfold replayedKeys dedupeKeys
  cases held : event.idempotencyKey with
  | none => rfl
  | some key =>
    have kept : key ≠ "" := fun empty => nonempty (held.trans (congrArg some empty))
    simp [Option.filter, kept]

/-- The record of an accepted event mirrors it. -/
theorem mirrors_accept {s : Store} {metadata : RuntimeSnapshotMeta} {event : AgentEvent}
    (mirrors : Mirrors s.dedupe metadata) (nonempty : event.idempotencyKey ≠ some "")
    (value : VersionedRunState) {cursor : Option EventCursor} {position : Int} :
    Mirrors (acceptStore s event value).dedupe { metadata with
      eventCursor := cursor
      dedupeFingerprints := metadata.dedupeFingerprints.update
        ((replayedKeys event).map fun key => (key, .event (canonicalFingerprint event)))
      streamWatermarks := metadata.streamWatermarks.set
        (event.executionId, event.attemptId) (nextWatermark event)
      journalPosition := position } := by
  refine ⟨?_, ?_, ?_⟩
  · intro e a
    simp only
    rw [Dict.get?_set, mirrors.streams]
    by_cases colon : ':' ∈ e.toList
    · have other : (e, a) ≠ (event.executionId.text, event.attemptId.text) :=
        fun same => event.executionId.noColon ((Prod.mk.inj same).1 ▸ colon)
      rw [if_neg other, if_pos colon, if_pos colon]
    · rw [if_neg colon, if_neg colon, accepted_watermark _ _ _ colon]
  · intro key other
    have notStream : key ≠ streamKey event.executionId event.attemptId := by
      rintro rfl
      rw [isStreamKey_streamKey] at other
      cases other
    simp only
    rw [replayedKeys_eq nonempty, Dict.get?_update_const, accepted_get, if_neg notStream,
      mirrors.keys key other]
  · intro key entry stream found
    have absent : key ∉ dedupeKeys event := by
      intro member
      rw [isStreamKey_dedupeKeys member] at stream
      cases stream
    simp only at found
    rw [replayedKeys_eq nonempty, Dict.get?_update_const, if_neg absent] at found
    rw [accepted_get, if_neg absent]
    split
    · rfl
    · exact mirrors.stale key entry stream found

theorem accepted_isSome {s : Store} {key : String} (present : (s.dedupe.get? key).isSome)
    (event : AgentEvent) (value : VersionedRunState) :
    ((acceptStore s event value).dedupe.get? key).isSome := by
  rw [accepted_get]
  split
  · rfl
  · split
    · rfl
    · exact present

/-- A store a run is routed in. -/
structure Fit (r : String) (s : Store) : Prop where
  wellKeyed : WellKeyed s.dedupe
  registered : ∃ v, s.runs.get? r = some v
  recorded : ∀ v, s.runs.get? r = some v → Recorded s.dedupe v.metadata

/-- The sidecars an accepted event leaves are in the dictionary. -/
theorem recorded_accept {s : Store} {current value : VersionedRunState} {event : AgentEvent}
    (wellKeyed : WellKeyed s.dedupe) (planned : plannedRoute s current event = .ok (some value))
    (position : Int) :
    Recorded (acceptStore s event value).dedupe (value.atPosition position).metadata := by
  obtain ⟨-, -, -, state, watermarks, -, collected, same⟩ := plannedRoute_some planned
  have streams : value.metadata.streamWatermarks =
      watermarks.set (event.executionId, event.attemptId) (nextWatermark event) := by rw [same]; rfl
  have keys : value.metadata.dedupeFingerprints = s.dedupe.update
      ((dedupeKeys event).map fun key => (key, .event (canonicalFingerprint event))) := by
    rw [same]
    rfl
  refine ⟨?_, ?_⟩
  · intro e a watermark found
    change value.metadata.streamWatermarks.get? (e, a) = _ at found
    rw [streams, Dict.get?_set] at found
    split at found
    · next own =>
      obtain ⟨rfl, rfl⟩ := Prod.mk.inj own
      refine ⟨event.executionId.noColon, ?_⟩
      rw [accepted_get, if_pos rfl]
      rfl
    · rw [collect_get collected, Dict.get?_empty, Option.or_none] at found
      split at found
      · cases found
      · next noColon =>
        refine ⟨noColon, accepted_isSome ?_ event value⟩
        rw [wellKeyed.stored, found]
        rfl
  · intro key entry found
    change value.metadata.dedupeFingerprints.get? key = _ at found
    rw [keys, Dict.get?_update_const] at found
    split at found
    · next member =>
      have notStream : key ≠ streamKey event.executionId event.attemptId :=
        fun same => streamKey_not_mem_dedupeKeys event _ _ (same ▸ member)
      rw [accepted_get, if_neg notStream, if_pos member]
      rfl
    · exact accepted_isSome (Option.isSome_of_eq_some found) event value

theorem fit_accept {s : Store} {r : String} {current value : VersionedRunState} {event : AgentEvent}
    (fit : Fit r s) (planned : plannedRoute s current event = .ok (some value)) :
    Fit r (acceptStore s event value) := by
  have runs (w : VersionedRunState) :
      (acceptStore s event value).runs.get? r = some w ↔
        if r = event.runId.text then
          value.atPosition (s.journal event.runId).records.length = w
        else s.runs.get? r = some w := by
    change (s.runs.set _ _).get? r = some w ↔ _
    rw [Dict.get?_set]
    split <;> simp
  refine ⟨wellKeyed_accept fit.wellKeyed event value, ?_, ?_⟩
  · simp only [runs]
    split
    · exact ⟨_, rfl⟩
    · exact fit.registered
  · intro w held
    rw [runs] at held
    split at held
    · subst held
      exact recorded_accept fit.wellKeyed planned _
    · have recorded := fit.recorded w held
      exact ⟨fun e a watermark found =>
          ⟨(recorded.streams e a watermark found).1,
            accepted_isSome (recorded.streams e a watermark found).2 event value⟩,
        fun key entry found => accepted_isSome (recorded.keys key entry found) event value⟩

section Tail
variable [Timestamps] {r : String} {base : VersionedRunState} {n : Nat} {S : System} {c : Call}

def IsRoute (c : Call) : Prop := ∃ event, c.request = .route event

/-- An event that is accepted is one of the run and carries no empty idempotency key. -/
def KeptOn (r : String) (S : System) (c : Call) : Prop :=
  ∀ event v value, c.request = .route event → Fresh S c v →
    plannedRoute S.store v event = .ok (some value) →
      event.runId.text = r ∧ event.idempotencyKey ≠ some ""

/-- Every store so far is one the run is routed in. -/
structure Routing (r : String) (S : System) : Prop where
  coherent : Coherent S
  fit : ∀ read ∈ S.store :: S.past, Fit r read

theorem routing_step (isRoute : IsRoute c) (routing : Routing r S) : Routing r (S.step c) := by
  obtain ⟨event, isRoute⟩ := isRoute
  have current := routing.fit S.store (List.mem_cons_self ..)
  refine ⟨coherent_route routing.coherent isRoute, ?_⟩
  intro read member
  rcases List.mem_cons.mp member with rfl | old
  · rcases route_cases routing.coherent isRoute with stays | ⟨v, value, -, planned, accepted⟩
    · rw [stays]
      exact current
    · rw [accepted]
      exact fit_accept current planned
  · exact routing.fit read old

/-- The records after the first `n` replay to the run and the sidecars that mirror
the dictionary. -/
structure Caught (base : VersionedRunState) (r : String) (n : Nat) (s : Store) : Prop where
  past : n ≤ (s.journal r).records.length
  replays : ∃ live st, s.runs.get? r = some live ∧ replayed base n (s.journal r) = .ok st ∧
    st.sidecars = st.state.metadata ∧ SameCore live st.state ∧ Mirrors s.dedupe st.state.metadata

theorem caught_step (isRoute : IsRoute c) (kept : KeptOn r S c) (coherent : Coherent S)
    (caught : Caught base r n S.store) : Caught base r n (S.step c).store := by
  obtain ⟨event, isRoute⟩ := isRoute
  rcases route_cases coherent isRoute with stays | ⟨v, value, fresh, planned, accepted⟩
  · rw [stays]
    exact caught
  obtain ⟨mine, nonempty⟩ := kept event v value isRoute fresh planned
  subst mine
  obtain ⟨past, live, st, held, replay, own, core, mirrors⟩ := caught
  have stored := fresh.2
  rw [isRoute] at stored
  cases held.symm.trans stored
  obtain ⟨-, -, -, state, watermarks, applied, -, same⟩ := plannedRoute_some planned
  have journal := accepted_journal S.store event value
  rw [accepted]
  refine ⟨?_, value.atPosition _, applyEventRecord st
    { event, version := value.version, fingerprint := canonicalFingerprint event }
    (S.store.journal event.runId).records.length, Dict.get?_set_self .., ?_, rfl, ?_, ?_⟩
  · rw [journal, Journal.append_records, List.length_append]
    omega
  · rw [journal, replayed_append past, replay]
    rfl
  · subst same
    refine ⟨?_, ?_, ?_, ?_⟩
    · change state = replayToRun st.state.state event
      rw [← core.state, replayToRun_applied applied]
    · exact (replayedVersion_next core.version.symm).symm
    · change v.metadata.attemptRegistry = st.sidecars.attemptRegistry
      rw [own, core.attempts]
    · change v.metadata.leases = st.sidecars.leases
      rw [own, core.leases]
  · rw [← own] at mirrors
    exact mirrors_accept mirrors nonempty value

end Tail

/-! ## Two stores that route alike -/

/-- Two stores with the same run and the same dictionary. -/
structure Related (r : String) (s t : Store) : Prop where
  runs : ∃ v w, s.runs.get? r = some v ∧ t.runs.get? r = some w ∧ SameCore v w ∧
    v.state.runId.text = r
  dedupe : ∀ key, s.dedupe.get? key = t.dedupe.get? key
  wellKeyed : WellKeyed s.dedupe

theorem Related.refl {r : String} {s : Store} (fit : Fit r s) (keyed : StoreKeyed s) :
    Related r s s := by
  obtain ⟨v, held⟩ := fit.registered
  exact ⟨⟨v, v, held, held, ⟨rfl, rfl, rfl, rfl⟩, keyed.run r v held⟩, fun _ => rfl, fit.wellKeyed⟩

section Congruence
variable {d d' : Dict String DedupeEntry}

theorem checkDuplicate_congr (fingerprint : List (String × Json)) {keys : List String}
    (same : ∀ key ∈ keys, d.get? key = d'.get? key) :
    checkDuplicate d fingerprint keys = checkDuplicate d' fingerprint keys := by
  induction keys with
  | nil => rfl
  | cons key rest ih =>
    rw [checkDuplicate, checkDuplicate, same key (List.mem_cons_self ..),
      ih fun key member => same key (List.mem_cons_of_mem _ member)]

theorem checkSequence_congr {event : AgentEvent}
    (same : d.get? (streamKey event.executionId event.attemptId) =
      d'.get? (streamKey event.executionId event.attemptId)) :
    checkSequence event d = checkSequence event d' := by
  unfold checkSequence expectedSequence
  rw [same]

theorem wellKeyed_congr (same : ∀ key, d.get? key = d'.get? key) (wellKeyed : WellKeyed d) :
    WellKeyed d' :=
  fun key entry held => wellKeyed key entry ((same key).trans held)

end Congruence

theorem validateCorrelation_congr {v w : VersionedRunState} (core : SameCore v w)
    (event : AgentEvent) : validateCorrelation event v = validateCorrelation event w := by
  unfold validateCorrelation
  rw [core.attempts, core.leases]

section Step
variable {r : String} {s t : Store} {v w : VersionedRunState}

/-- Stores that agree under the keys of an event both fail alike, find it accepted
before, or accept it. -/
theorem planned_alike (wellKeyed : WellKeyed s.dedupe) (wellKeyed' : WellKeyed t.dedupe)
    {event : AgentEvent} (keys : ∀ key ∈ dedupeKeys event, s.dedupe.get? key = t.dedupe.get? key)
    (stream : s.dedupe.get? (streamKey event.executionId event.attemptId) =
      t.dedupe.get? (streamKey event.executionId event.attemptId)) (core : SameCore v w) :
    (∃ e, plannedRoute s v event = .error e ∧ plannedRoute t w event = .error e) ∨
    (plannedRoute s v event = .ok none ∧ plannedRoute t w event = .ok none) ∨
    ∃ x y, plannedRoute s v event = .ok (some x) ∧ plannedRoute t w event = .ok (some y) ∧
      SameCore x y := by
  obtain ⟨watermarks, collected⟩ := collect_ok wellKeyed {}
  obtain ⟨watermarks', collected'⟩ := collect_ok wellKeyed' {}
  unfold plannedRoute
  rw [checkDuplicate_congr _ keys, checkSequence_congr stream, validateCorrelation_congr core,
    core.state, collected, collected']
  cases checkDuplicate t.dedupe (canonicalFingerprint event) (dedupeKeys event) with
  | error e => exact .inl ⟨e, rfl, rfl⟩
  | ok duplicate =>
    cases duplicate with
    | true => exact .inr (.inl ⟨rfl, rfl⟩)
    | false =>
      simp only [ok_bind, Bool.false_eq_true, if_false]
      cases validateCorrelation event w with
      | error e => exact .inl ⟨e, rfl, rfl⟩
      | ok _ =>
        cases checkSequence event t.dedupe with
        | error e => exact .inl ⟨e, rfl, rfl⟩
        | ok _ =>
          cases applyToRun w.state event with
          | error e => exact .inl ⟨e, rfl, rfl⟩
          | ok state =>
            refine .inr (.inr ⟨_, _, rfl, rfl, rfl, ?_, core.attempts, core.leases⟩)
            exact congrArg (· + 1) core.version

theorem planned_related (related : Related r s t) (core : SameCore v w) (event : AgentEvent) :
    (∃ e, plannedRoute s v event = .error e ∧ plannedRoute t w event = .error e) ∨
    (plannedRoute s v event = .ok none ∧ plannedRoute t w event = .ok none) ∨
    ∃ x y, plannedRoute s v event = .ok (some x) ∧ plannedRoute t w event = .ok (some y) ∧
      SameCore x y :=
  planned_alike related.wellKeyed (wellKeyed_congr related.dedupe related.wellKeyed)
    (fun key _ => related.dedupe key) (related.dedupe _) core

/-- Run state and version of what a call returns. -/
def seen (v : VersionedRunState) : TeamRunState × Int := (v.state, v.version)

theorem SameCore.seen_eq (core : SameCore v w) : seen v = seen w :=
  Prod.ext core.state core.version

theorem Related.versionOf (related : Related r s t) {runId : Identifier} (mine : runId.text = r) :
    s.versionOf runId = t.versionOf runId := by
  obtain ⟨v, w, held, held', core, -⟩ := related.runs
  unfold Store.versionOf
  rw [mine, held, held']
  exact core.version

theorem accept_related (related : Related r s t) {event : AgentEvent} (mine : event.runId.text = r)
    {x y : VersionedRunState} (core : SameCore x y) (own : x.state.runId.text = r) :
    Related r (acceptStore s event x) (acceptStore t event y) := by
  subst mine
  refine ⟨⟨_, _, Dict.get?_set_self .., Dict.get?_set_self .., ?_, own⟩, ?_, ?_⟩
  · exact ⟨core.state, core.version, core.attempts, core.leases⟩
  · intro key
    rw [accepted_get, accepted_get, related.dedupe]
  · exact wellKeyed_accept related.wellKeyed event x

theorem routed_related (related : Related r s t) (core : SameCore v w)
    (own : v.state.runId.text = r) {event : AgentEvent} (mine : event.runId.text = r) :
    (routed s v event v.version).1.map seen = (routed t w event w.version).1.map seen ∧
      Related r (routed s v event v.version).2 (routed t w event w.version).2 := by
  unfold routed
  rcases planned_related related core event with
    ⟨e, planned, planned'⟩ | ⟨planned, planned'⟩ | ⟨x, y, planned, planned', core'⟩
  · rw [planned, planned']
    exact ⟨rfl, related⟩
  · rw [planned, planned']
    exact ⟨congrArg Except.ok core.seen_eq, related⟩
  · have run : x.state.runId.text = r := by rw [plannedRoute_run planned, own]
    have version : t.versionOf y.state.runId = s.versionOf x.state.runId := by
      rw [← core'.state]
      exact (related.versionOf run).symm
    rw [planned, planned']
    unfold Store.putRun
    simp only
    rw [version, ← core'.state, ← core.version]
    by_cases current : s.versionOf x.state.runId = v.version
    · rw [if_neg (not_not.mpr current), if_neg (not_not.mpr current)]
      exact ⟨congrArg Except.ok core'.seen_eq, accept_related related mine core' run⟩
    · rw [if_pos current, if_pos current]
      exact ⟨rfl, related⟩

/-- The same run state and version and the same sequence watermarks. -/
structure SameRun (r : String) (s t : Store) : Prop where
  run : (s.runs.get? r).map seen = (t.runs.get? r).map seen
  watermarks : ∀ e a, storedWatermark s.dedupe e a = storedWatermark t.dedupe e a

theorem Related.sameRun (related : Related r s t) : SameRun r s t := by
  obtain ⟨v, w, held, held', core, -⟩ := related.runs
  refine ⟨?_, ?_⟩
  · rw [held, held']
    exact congrArg some core.seen_eq
  · intro e a
    unfold storedWatermark
    rw [related.dedupe]

end Step

/-! ## Calls on both -/

theorem forall₂_getElem? {α β : Type} {R : α → β → Prop} {as : List α} {bs : List β}
    (all : List.Forall₂ R as bs) (i : Nat) :
    (as[i]? = none ∧ bs[i]? = none) ∨ ∃ a b, as[i]? = some a ∧ bs[i]? = some b ∧ R a b := by
  induction all generalizing i with
  | nil => exact .inl ⟨rfl, rfl⟩
  | cons first _ ih =>
    cases i with
    | zero => exact .inr ⟨_, _, rfl, rfl, first⟩
    | succ i => exact ih i

section Calls
variable [Timestamps] {r : String} {S T : System} {c : Call}

/-- What a call answers: state and version that it returns, or its error. An event
that is accepted gives the version after that of the snapshot, a duplicate the
version of the snapshot. -/
def answer (S : System) (c : Call) : Except Raised (Option (TeamRunState × Int)) :=
  (S.result c).1.map (Option.map seen)

/-- The stores so far of the one are related to those of the other. -/
def Paired (r : String) (S T : System) : Prop :=
  List.Forall₂ (Related r) (S.store :: S.past) (T.store :: T.past)

omit [Timestamps] in
theorem snapshots_related (paired : Paired r S T) (mine : c.request.runId.text = r) :
    (S.snapshot c = none ∧ T.snapshot c = none) ∨
      ∃ v w, S.snapshot c = some v ∧ T.snapshot c = some w ∧ SameCore v w ∧
        v.state.runId.text = r := by
  unfold System.snapshot
  rw [mine]
  rcases forall₂_getElem? paired c.age with ⟨none, none'⟩ | ⟨s, t, read, read', related⟩
  · rw [none, none']
    exact .inl ⟨rfl, rfl⟩
  · obtain ⟨v, w, held, held', core, own⟩ := related.runs
    rw [read, read']
    exact .inr ⟨v, w, held, held', core, own⟩

/-- One call on the run answers the same in both and leaves them related. -/
theorem paired_step (paired : Paired r S T) (routes : RoutesOn r c) :
    answer S c = answer T c ∧ Paired r (S.step c) (T.step c) := by
  obtain ⟨event, isRoute, mine⟩ := routes
  have run : c.request.runId.text = r := by rw [isRoute]; exact mine
  have related : Related r S.store T.store := (List.forall₂_cons.mp paired).1
  rcases snapshots_related paired run with ⟨absent, absent'⟩ | ⟨v, w, read, read', core, own⟩
  · have result : S.result c = (.ok none, S.store) := by
      unfold System.result
      rw [absent]
    have result' : T.result c = (.ok none, T.store) := by
      unfold System.result
      rw [absent']
    unfold answer Paired System.step
    rw [result, result']
    exact ⟨rfl, List.forall₂_cons.mpr ⟨related, paired⟩⟩
  · have own' : w.state.runId.text = r := by rw [← core.state]; exact own
    have routes := routed_related related core own mine
    have result := route_result isRoute read (own.trans mine.symm)
    have result' := route_result isRoute read' (own'.trans mine.symm)
    unfold answer Paired System.step
    rw [result, result']
    revert routes
    generalize routed S.store v event v.version = out
    generalize routed T.store w event w.version = out'
    obtain ⟨given, left⟩ := out
    obtain ⟨given', left'⟩ := out'
    rintro ⟨answers, stores⟩
    refine ⟨?_, List.forall₂_cons.mpr ⟨?_, paired⟩⟩
    · cases given with
      | error e =>
        cases given' with
        | error e' => cases answers; rfl
        | ok y => cases answers
      | ok x =>
        cases given' with
        | error e' => cases answers
        | ok y => exact congrArg (Except.map some) answers
    · cases given <;> cases given' <;> exact stores

/-- After any routes on the run both stores agree on it, and the next one answers
the same. -/
def RoutesAlike (r : String) (S T : System) : Prop :=
  ∀ calls, (∀ c ∈ calls, RoutesOn r c) →
    SameRun r (Runs.run System.step S calls).store (Runs.run System.step T calls).store ∧
      ∀ c, RoutesOn r c → answer (Runs.run System.step S calls) c =
        answer (Runs.run System.step T calls) c

theorem Paired.alike (paired : Paired r S T) : RoutesAlike r S T := by
  intro calls routes
  induction calls generalizing S T with
  | nil => exact ⟨(List.forall₂_cons.mp paired).1.sameRun, fun c mine => (paired_step paired mine).1⟩
  | cons c rest ih =>
    have first := routes c (List.mem_cons_self ..)
    exact ih (paired_step paired first).2 fun c member => routes c (List.mem_cons_of_mem _ member)

end Calls

/-! ## Recoveries -/

section Recoveries
variable [Timestamps] {r : String} {S : System} {final : VersionedRunState}

omit [Timestamps] in
/-- A store that only holds a run whose sidecars mirror the dictionary. -/
theorem recovered_related {s : Store} (keyed : StoreKeyed s) (fit : Fit r s) {live : VersionedRunState}
    (held : s.runs.get? r = some live) (core : SameCore live final)
    (mirrors : Mirrors s.dedupe final.metadata) : Related r s (onlyRun r final) := by
  refine ⟨⟨live, final, held, Dict.get?_set_self .., core, keyed.run r live held⟩, ?_, fit.wellKeyed⟩
  intro key
  exact (rebuilt_get fit.wellKeyed mirrors key).symm

omit [Timestamps] in
theorem Routing.paired (routing : Routing r S) {t : Store} (related : Related r S.store t) :
    Paired r S ⟨t, S.past⟩ := by
  refine List.forall₂_cons.mpr ⟨related, List.forall₂_same.mpr fun read member => ?_⟩
  exact Related.refl (routing.fit read (List.mem_cons_of_mem _ member))
    (routing.coherent.past read member).1

omit [Timestamps] in
/-- At the checkpoint nothing is to be replayed yet. -/
theorem caught_start (routing : Routing r S) :
    ∃ snap, buildCheckpointSnapshot S.store r = .ok snap ∧ CheckpointOf snap r ∧
      snap.metadata.journalPosition = (S.store.journal r).lastRecordIndex ∧
      Caught snap.restored r (S.store.journal r).records.length S.store := by
  have fit := routing.fit S.store (List.mem_cons_self ..)
  obtain ⟨live, held⟩ := fit.registered
  obtain ⟨snap, built, state, version, attempts, leases, position, mirrors⟩ :=
    snapshot_mirrors held fit.wellKeyed (fit.recorded live held)
  refine ⟨snap, built, checkpoint_of routing.coherent.keyed built, position, le_refl _, live,
    Replay.start snap.restored, held, replayed_start _ _, rfl, ?_, mirrors⟩
  exact ⟨state.symm, version.symm, attempts.symm, leases.symm⟩

/-- Restoring the checkpoint and replaying the tail gives a store related to the
source. -/
theorem tail_recovers {snap : CheckpointSnapshot} {n : Nat} (checkpoint : CheckpointOf snap r)
    (position : snap.metadata.journalPosition = (n : Int) - 1) (routing : Routing r S)
    (caught : Caught snap.restored r n S.store) (target : Store) :
    ∃ recovered t, recoverSnapshot target snap r true
        ((S.store.journal r).since snap.metadata.journalPosition) = (.ok (some recovered), t) ∧
      RoutesAlike r S ⟨t, S.past⟩ := by
  obtain ⟨past, live, st, held, replay, -, core, mirrors⟩ := caught
  have replays : replayRecords snap.restored
      (sortRecords ((S.store.journal r).since snap.metadata.journalPosition)) = .ok st.state := by
    rw [position, Journal.since_eq_drop, sortRecords_drop]
    exact replayRecords_ok.mpr ⟨st, replay, rfl⟩
  refine ⟨st.state, onlyRun r st.state, recoverSnapshot_ok target _ checkpoint replays, ?_⟩
  have fit := routing.fit S.store (List.mem_cons_self ..)
  exact (routing.paired (recovered_related routing.coherent.keyed fit held core mirrors)).alike

omit [Timestamps] in
/-- `recover_from_checkpoint` builds the checkpoint it restores, so its tail is empty. -/
theorem recoverFromCheckpoint_eq {source : Store} {snap : CheckpointSnapshot}
    (checkpoint : CheckpointOf snap r) (built : buildCheckpointSnapshot source r = .ok snap)
    (position : snap.metadata.journalPosition = (source.journal r).lastRecordIndex)
    (target : RecoveryTarget) :
    recoverFromCheckpoint source r target = recoverSnapshot (target.store source) snap r true
      ((source.journal r).since snap.metadata.journalPosition) := by
  have empty : (source.journal r).since snap.metadata.journalPosition = [] := by
    rw [position]
    exact since_last _
  unfold recoverFromCheckpoint
  rw [built]
  simp only
  cases target with
  | fresh => rfl
  | other store => rfl
  | source =>
    rw [empty, restore_only _ checkpoint]
    exact congrArg (recoverSnapshot _ snap r true) (since_empty _)

theorem routing_run {calls : List Call} (routing : Routing r S) (routes : ∀ c ∈ calls, IsRoute c) :
    Routing r (Runs.run System.step S calls) :=
  Runs.run_invariant (fun _ _ routing isRoute => routing_step isRoute routing) routing
    (Runs.along_of_mem routes)

/-- The store recovered from a checkpoint and the journal tail answers every later
route on the run as the source does where no event of the tail carries the empty
idempotency key; `recover_from_checkpoint` never has a tail. -/
theorem recovered_routes_alike (s : Store) (keyed : StoreKeyed s) (r : String) (fit : Fit r s)
    (before later : List Call) (routesBefore : ∀ c ∈ before, IsRoute c)
    (routesLater : ∀ c ∈ later, IsRoute c) :
    let S := Runs.run System.step ⟨s, []⟩ before
    let S' := Runs.run System.step S later
    ∃ snap, buildCheckpointSnapshot S.store r = .ok snap ∧
      (Runs.Along System.step (KeptOn r) S later → ∀ target : Store,
        ∃ recovered t, recoverSnapshot target snap r true
            ((S'.store.journal r).since snap.metadata.journalPosition) = (.ok (some recovered), t) ∧
          RoutesAlike r S' ⟨t, S'.past⟩) ∧
      ∀ target : RecoveryTarget,
        ∃ recovered t, recoverFromCheckpoint S.store r target = (.ok (some recovered), t) ∧
          RoutesAlike r S ⟨t, S.past⟩ := by
  intro S S'
  have start : Routing r ⟨s, []⟩ := by
    refine ⟨coherent_start keyed, fun read member => ?_⟩
    cases List.mem_singleton.mp member
    exact fit
  have routing : Routing r S := routing_run start routesBefore
  obtain ⟨snap, built, checkpoint, position, caught⟩ := caught_start routing
  have position' := position.trans (Journal.lastRecordIndex_eq _)
  generalize (S.store.journal r).records.length = n at caught position'
  refine ⟨snap, built, ?_, ?_⟩
  · intro admitted target
    have kept : ∀ S c,
        Routing r S ∧ Caught snap.restored r n S.store → IsRoute c ∧ KeptOn r S c →
          Routing r (S.step c) ∧ Caught snap.restored r n (S.step c).store :=
      fun S c held admitted => ⟨routing_step admitted.1 held.1,
        caught_step admitted.1 admitted.2 held.1.coherent held.2⟩
    obtain ⟨routing', caught'⟩ := Runs.run_invariant kept ⟨routing, caught⟩
      ((Runs.along_of_mem routesLater).and admitted)
    exact tail_recovers checkpoint position' routing' caught' target
  · intro target
    rw [recoverFromCheckpoint_eq checkpoint built position target]
    exact tail_recovers checkpoint position' routing caught (target.store S.store)

end Recoveries

/-! ## Recoveries of the seeded run -/

theorem seeded_fit : Fit "run.1" seededStore := by
  refine ⟨fun key entry held => ?_, ⟨seededRun, rfl⟩, fun v held => ?_⟩
  · cases held
  · cases held
    exact ⟨fun e a watermark found => (nomatch found), fun key entry found => (nomatch found)⟩

/-- An event before the checkpoint, and one and a duplicate after it. -/
theorem recovered_routes_alike_seeded :
    ∃ snap : CheckpointSnapshot, ∀ target, ∃ recovered t,
      recoverSnapshot target snap "run.1" true
        (((Runs.run (@System.step fixtureTimes) ⟨seededStore, []⟩
          [⟨.route event0, 0⟩, ⟨.route event1, 0⟩, ⟨.route event0, 0⟩]).store.journal "run.1").since
            snap.metadata.journalPosition) = (.ok (some recovered), t) ∧
        @RoutesAlike fixtureTimes "run.1"
          (Runs.run (@System.step fixtureTimes) ⟨seededStore, []⟩
            [⟨.route event0, 0⟩, ⟨.route event1, 0⟩, ⟨.route event0, 0⟩])
          ⟨t, (Runs.run (@System.step fixtureTimes) ⟨seededStore, []⟩
            [⟨.route event0, 0⟩, ⟨.route event1, 0⟩, ⟨.route event0, 0⟩]).past⟩ := by
  have routes : ∀ event : AgentEvent, IsRoute ⟨.route event, 0⟩ := fun event => ⟨event, rfl⟩
  obtain ⟨snap, -, tail, -⟩ := @recovered_routes_alike fixtureTimes seededStore seeded_keyed "run.1"
    seeded_fit [⟨.route event0, 0⟩] [⟨.route event1, 0⟩, ⟨.route event0, 0⟩]
    (by simp [routes]) (by simp [routes])
  refine ⟨snap, tail ⟨?_, ?_, trivial⟩⟩
  all_goals
    intro event v value same _ _
    cases same
    decide

theorem e1_identifier : matchesId "e1" := by decide

/-- Another event that takes the empty idempotency key. -/
def emptyKeyEvent1 : AgentEvent := fixtureEvent ⟨"e1", e1_identifier⟩ 1 .progress (some "")

/-- The seeded run after the event with the empty key. -/
def emptyKeySystem : System :=
  Runs.run (@System.step fixtureTimes) ⟨seededStore, []⟩ [⟨.route emptyKeyEvent, 0⟩]

/-- What is recovered from the checkpoint before that event and its record. -/
def recoveredEmptyKey : System where
  store := (recoverSnapshot {} seededSnapshot "run.1" true
    ((emptyKeySystem.store.journal "run.1").since (-1))).2
  past := emptyKeySystem.past

/-- The key conflicts in the source and is free in the recovered store. -/
theorem empty_key_free_again :
    buildCheckpointSnapshot seededStore "run.1" = .ok seededSnapshot ∧
      ¬ @RoutesAlike fixtureTimes "run.1" emptyKeySystem recoveredEmptyKey := by
  refine ⟨rfl, fun alike => ?_⟩
  have answers := (alike [] (fun c member => nomatch member)).2 ⟨.route emptyKeyEvent1, 0⟩
    ⟨emptyKeyEvent1, rfl, rfl⟩
  have source : (@answer fixtureTimes emptyKeySystem ⟨.route emptyKeyEvent1, 0⟩).toOption = none := by
    decide
  have recovered : (@answer fixtureTimes recoveredEmptyKey
      ⟨.route emptyKeyEvent1, 0⟩).toOption.isSome = true := by decide
  have same : (@answer fixtureTimes emptyKeySystem ⟨.route emptyKeyEvent1, 0⟩).toOption =
      (@answer fixtureTimes recoveredEmptyKey ⟨.route emptyKeyEvent1, 0⟩).toOption :=
    congrArg Except.toOption answers
  rw [← same, source] at recovered
  cases recovered

end DwSuperApps.Guarantees.RecoveryRouting
