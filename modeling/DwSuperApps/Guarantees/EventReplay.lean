import DwSuperApps.Guarantees.JournalReplay
import DwSuperApps.Guarantees.LeaseHolding
import DwSuperApps.Guarantees.RoutedEvents

/-!
# Replaying event records

`EventRouter.route` reduces an event into the run, its watermarks and the dedupe
dictionary; `apply_event_record` reduces the record of the event again. Run,
version, position and watermarks come out the same. The keys part on the empty
idempotency key, which the router stores and replay takes for an absent one.
-/
namespace DwSuperApps.Guarantees.EventReplay

open DwSuperApps.Lib DwSuperApps.Lib.Checked
open DwSuperApps.Lib.Programs.Prog (run_bind)
open DwSuperApps.Source.Runtime
open DwSuperApps.Guarantees.RuntimeCommits DwSuperApps.Guarantees.LeaseHolding
open DwSuperApps.Guarantees.JournalReplay DwSuperApps.Guarantees.RoutedEvents

/-! ## One event -/

/-- Replay moves a node where live acceptance did, and not otherwise. -/
theorem replayToRun_applied {state next : TeamRunState} {event : AgentEvent}
    (applied : applyToRun state event = .ok next) : replayToRun state event = next := by
  unfold applyToRun at applied
  unfold replayToRun
  split at applied
  · next kind =>
    unfold applyCompleted at applied
    rw [kind]
    split at applied
    · next terminal =>
      cases applied
      cases state.nodes.get? event.nodeId with
      | none => rfl
      | some node => simp [terminal]
    · next running =>
      split at applied
      · next absent =>
        cases applied
        rw [absent]
      · next node held =>
        obtain ⟨_, allowed, same⟩ := bind_ok.mp applied
        cases same
        have status : node.status = .running := by
          have moved := ensure_ok.mp allowed
          revert moved
          cases node.status <;> decide
        rw [held]
        simp [running, status]
  · next kind =>
    unfold applyStatusChange at applied
    rw [kind]
    split at applied
    · next unset =>
      cases applied
      cases state.nodes.get? event.nodeId with
      | none => rfl
      | some node => simp [unset]
    · next proposes =>
      split at applied
      · cases applied
      · next undone =>
        split at applied
        · next absent =>
          cases applied
          rw [absent]
        · next node held =>
          obtain ⟨proposed, read, applied⟩ := bind_ok.mp applied
          obtain ⟨_, allowed, same⟩ := bind_ok.mp applied
          cases same
          have moved := ensure_ok.mp allowed
          rw [held]
          simp [proposes, undone, read, moved]
  · next other completed =>
    cases applied
    split
    · next kind _ => exact absurd kind other
    · next kind _ => exact absurd kind completed
    · rfl

/-! ## Agreement -/

/-- A replayed run agrees with the live one and with the dedupe dictionary. -/
structure Agrees (s : Store) (live replayed : VersionedRunState) : Prop where
  state : replayed.state = live.state
  version : replayed.version = live.version
  position : replayed.metadata.journalPosition = live.metadata.journalPosition
  watermarks : ∀ e a : Identifier, replayed.metadata.streamWatermarks.get? (e.text, a.text) =
    live.metadata.streamWatermarks.get? (e.text, a.text)
  sequences : ∀ e a : Identifier, replayed.metadata.streamWatermarks.get? (e.text, a.text) =
    storedWatermark s.dedupe e a
  fingerprints : ∀ i : Identifier,
    replayed.metadata.dedupeFingerprints.get? i.text = s.dedupe.get? i.text
  keys : ∀ key, replayed.metadata.dedupeFingerprints.get? (idempotencyKey key) =
    s.dedupe.get? (idempotencyKey key)

/-- The sidecars recorded with a run are those of the store. -/
structure Mirrored (s : Store) (v : VersionedRunState) : Prop where
  sequences : ∀ e a : Identifier, v.metadata.streamWatermarks.get? (e.text, a.text) =
    storedWatermark s.dedupe e a
  fingerprints : ∀ i : Identifier, v.metadata.dedupeFingerprints.get? i.text = s.dedupe.get? i.text
  keys : ∀ key, v.metadata.dedupeFingerprints.get? (idempotencyKey key) =
    s.dedupe.get? (idempotencyKey key)

theorem agrees_start {s : Store} {v : VersionedRunState} : Agrees s v v ↔ Mirrored s v :=
  ⟨fun h => ⟨h.sequences, h.fingerprints, h.keys⟩,
    fun h => ⟨rfl, rfl, rfl, fun _ _ => rfl, h.sequences, h.fingerprints, h.keys⟩⟩

theorem id_mem_dedupeKeys {event : AgentEvent} {i : Identifier} :
    i.text ∈ dedupeKeys event ↔ i.text = event.eventId.text := by
  unfold dedupeKeys
  constructor
  · intro member
    rcases List.mem_cons.mp member with same | idem
    · exact same
    · obtain ⟨key, -, same⟩ := Option.map_eq_some_iff.mp (Option.mem_toList.mp idem)
      exact absurd same.symm (id_ne_idempotencyKey i key)
  · intro same
    exact List.mem_cons.mpr (.inl same)

theorem id_mem_replayedKeys {event : AgentEvent} {i : Identifier} :
    i.text ∈ replayedKeys event ↔ i.text = event.eventId.text := by
  unfold replayedKeys
  constructor
  · intro member
    rcases List.mem_cons.mp member with same | idem
    · exact same
    · obtain ⟨key, -, same⟩ := Option.map_eq_some_iff.mp (Option.mem_toList.mp idem)
      exact absurd same.symm (id_ne_idempotencyKey i key)
  · intro same
    exact List.mem_cons.mpr (.inl same)

theorem key_mem_dedupeKeys {event : AgentEvent} {key : String} :
    idempotencyKey key ∈ dedupeKeys event ↔ event.idempotencyKey = some key := by
  unfold dedupeKeys
  constructor
  · intro member
    rcases List.mem_cons.mp member with same | idem
    · exact absurd same.symm (id_ne_idempotencyKey event.eventId key)
    · obtain ⟨key', held, same⟩ := Option.map_eq_some_iff.mp (Option.mem_toList.mp idem)
      rw [held, idempotencyKey_inj same]
  · intro held
    rw [held]
    exact List.mem_cons.mpr (.inr (List.mem_singleton.mpr rfl))

/-- An empty key is not among those a record restores. -/
theorem key_mem_replayedKeys {event : AgentEvent} {key : String} :
    idempotencyKey key ∈ replayedKeys event ↔ event.idempotencyKey = some key ∧ key ≠ "" := by
  unfold replayedKeys
  constructor
  · intro member
    rcases List.mem_cons.mp member with same | idem
    · exact absurd same.symm (id_ne_idempotencyKey event.eventId key)
    · obtain ⟨key', held, same⟩ := Option.map_eq_some_iff.mp (Option.mem_toList.mp idem)
      obtain ⟨held, nonempty⟩ := Option.filter_eq_some_iff.mp held
      cases idempotencyKey_inj same
      exact ⟨held, of_decide_eq_true nonempty⟩
  · rintro ⟨held, nonempty⟩
    refine List.mem_cons.mpr (.inr (Option.mem_toList.mpr ?_))
    simp [held, Option.filter, nonempty]

theorem accepted_key (s : Store) (event : AgentEvent) (value : VersionedRunState) (key : String) :
    (acceptStore s event value).dedupe.get? (idempotencyKey key) =
      if event.idempotencyKey = some key then some (.event (canonicalFingerprint event))
      else s.dedupe.get? (idempotencyKey key) := by
  rw [accepted_get, if_neg (idempotencyKey_ne_streamKey key _ _)]
  simp only [key_mem_dedupeKeys]

section Event
variable {s : Store} {live value : VersionedRunState} {st : Replay} {event : AgentEvent}

/-- An accepted event and its record. -/
theorem event_agrees_iff (agrees : Agrees s live st.state) (mirrored : st.sidecars = st.state.metadata)
    (planned : plannedRoute s live event = .ok (some value)) (index : Nat) :
    Agrees (acceptStore s event value) (value.atPosition index)
        (applyEventRecord st
          { event, version := value.version, fingerprint := canonicalFingerprint event } index).state ↔
      event.idempotencyKey ≠ some "" := by
  obtain ⟨fresh, -, -, state, watermarks, applied, collected, rfl⟩ := plannedRoute_some planned
  let record : EventRecord :=
    { event, version := live.version + 1, fingerprint := canonicalFingerprint event }
  have keys (key : String) : (applyEventRecord st record
      index).state.metadata.dedupeFingerprints.get? (idempotencyKey key) =
      if event.idempotencyKey = some key ∧ key ≠ "" then some (.event (canonicalFingerprint event))
      else s.dedupe.get? (idempotencyKey key) := by
    change (st.sidecars.dedupeFingerprints.update _).get? _ = _
    rw [mirrored, Dict.get?_update_const, agrees.keys]
    simp only [key_mem_replayedKeys]
    rfl
  constructor
  · intro agrees' empty
    have here := agrees'.keys ""
    rw [keys, accepted_key, if_neg (fun both => both.2 rfl), if_pos empty,
      checkDuplicate_false fresh _ (key_mem_dedupeKeys.mpr empty)] at here
    cases here
  · intro nonempty
    refine ⟨?_, ?_, rfl, ?_, ?_, ?_, ?_⟩
    · change replayToRun st.state.state event = state
      rw [agrees.state]
      exact replayToRun_applied applied
    · exact replayedVersion_next agrees.version
    · intro e a
      change (st.sidecars.streamWatermarks.set _ _).get? _ = (watermarks.set _ _).get? _
      rw [Dict.get?_set, Dict.get?_set, mirrored, agrees.sequences, collect_get collected,
        if_neg e.noColon, Dict.get?_empty, Option.or_none]
    · intro e a
      change (st.sidecars.streamWatermarks.set _ _).get? _ = _
      rw [Dict.get?_set, mirrored, agrees.sequences, accepted_watermark _ _ _ e.noColon]
    · intro i
      change (st.sidecars.dedupeFingerprints.update _).get? _ = _
      rw [mirrored, Dict.get?_update_const, agrees.fingerprints, accepted_get,
        if_neg (id_ne_streamKey i _ _)]
      simp only [id_mem_replayedKeys, id_mem_dedupeKeys]
    · intro key
      rw [keys, accepted_key]
      by_cases own : event.idempotencyKey = some key
      · have nonempty' : key ≠ "" := fun empty => nonempty (empty ▸ own)
        rw [if_pos ⟨own, nonempty'⟩, if_pos own]
      · rw [if_neg (fun both => own both.1), if_neg own]

end Event

/-! ## Runs of calls -/

/-- Replaying what was journaled after the first `n` records gives the live run and
the entries of the dedupe dictionary. -/
def Reproduced (base : VersionedRunState) (r : String) (n : Nat) (s : Store) : Prop :=
  ∃ live final, s.runs.get? r = some live ∧
    replayRecords base ((s.journal r).records.drop n) = .ok final ∧ Agrees s live final

theorem reproduced_start {s : Store} {r : String} {base : VersionedRunState}
    (registered : s.runs.get? r = some base) :
    Reproduced base r (s.journal r).records.length s ↔ Mirrored s base := by
  rw [← agrees_start]
  constructor
  · rintro ⟨live, final, held, done, agrees⟩
    obtain ⟨st, replay, rfl⟩ := replayRecords_ok.mp done
    cases registered.symm.trans held
    cases (replayed_start base _).symm.trans replay
    exact agrees
  · intro agrees
    exact ⟨base, base, registered, replayRecords_ok.mpr ⟨_, replayed_start base _, rfl⟩, agrees⟩

/-- A route of an event of the run. -/
def RoutesOn (r : String) (c : Call) : Prop := ∃ event, c.request = .route event ∧ event.runId.text = r

/-- What holds between routes on the run. -/
structure Journaled (base : VersionedRunState) (r : String) (n : Nat) (S : System) : Prop where
  coherent : Coherent S
  past : n ≤ (S.store.journal r).records.length
  mirrored : ∀ st, replayed base n (S.store.journal r) = .ok st → st.sidecars = st.state.metadata

section Runs
variable [Timestamps] {base : VersionedRunState} {r : String} {n : Nat} {S : System} {c : Call}

/-- An event that is accepted carries no empty idempotency key. -/
def KeyKept (S : System) (c : Call) : Prop :=
  ∀ event v value, c.request = .route event → Fresh S c v →
    plannedRoute S.store v event = .ok (some value) → event.idempotencyKey ≠ some ""

omit [Timestamps] in
theorem accepted_journal (s : Store) (event : AgentEvent) (value : VersionedRunState) :
    (acceptStore s event value).journal event.runId = (s.journal event.runId).append
      (.event { event, version := value.version, fingerprint := canonicalFingerprint event }) := by
  change ((s.journals.set event.runId.text _).get? event.runId.text).getD {} = _
  rw [Dict.get?_set_self]
  rfl

theorem journaled_step (routes : RoutesOn r c) (journaled : Journaled base r n S) :
    Journaled base r n (S.step c) := by
  obtain ⟨event, isRoute, mine⟩ := routes
  have coherent := coherent_route journaled.coherent isRoute
  rcases route_cases journaled.coherent isRoute with stays | ⟨v, value, -, -, accepted⟩
  · refine ⟨coherent, ?_, ?_⟩
    · rw [stays]; exact journaled.past
    · rw [stays]; exact journaled.mirrored
  subst mine
  have journal := accepted_journal S.store event value
  rw [← accepted] at journal
  refine ⟨coherent, ?_, ?_⟩
  · have past := journaled.past
    rw [journal, Journal.append_records, List.length_append]
    omega
  · intro st replay
    rw [journal, replayed_append journaled.past] at replay
    obtain ⟨before, -, applied⟩ := bind_ok.mp replay
    cases applied
    rfl

theorem reproduced_step (routes : RoutesOn r c) (journaled : Journaled base r n S)
    (reproduced : Reproduced base r n S.store) :
    Reproduced base r n (S.step c).store ↔ KeyKept S c := by
  obtain ⟨event, isRoute, mine⟩ := routes
  by_cases accepts : ∃ v value, Fresh S c v ∧ plannedRoute S.store v event = .ok (some value)
  · obtain ⟨v, value, fresh, planned⟩ := accepts
    subst mine
    have store : (S.step c).store = acceptStore S.store event value :=
      congrArg Prod.snd (route_accepted journaled.coherent isRoute fresh planned)
    have held : S.store.runs.get? event.runId = some v := by
      have stored := fresh.2
      rw [isRoute] at stored
      exact stored
    obtain ⟨live, final, stored, done, agrees⟩ := reproduced
    cases held.symm.trans stored
    obtain ⟨st, replay, rfl⟩ := replayRecords_ok.mp done
    have mirrored := journaled.mirrored st replay
    have journal := accepted_journal S.store event value
    have stored' : (acceptStore S.store event value).runs.get? event.runId =
        some (value.atPosition (S.store.journal event.runId).records.length) := Dict.get?_set_self ..
    have replay' : replayed base n ((acceptStore S.store event value).journal event.runId) =
        .ok (applyEventRecord st
          { event, version := value.version, fingerprint := canonicalFingerprint event }
          (S.store.journal event.runId).records.length) := by
      rw [journal, replayed_append journaled.past, replay]
      rfl
    have only : KeyKept S c ↔ event.idempotencyKey ≠ some "" := by
      constructor
      · exact fun kept => kept event v value isRoute fresh planned
      · intro nonempty other w value' same _ _
        cases isRoute.symm.trans same
        exact nonempty
    rw [only, store, ← event_agrees_iff agrees mirrored planned
      (S.store.journal event.runId).records.length]
    constructor
    · rintro ⟨live, final, found, done', agrees'⟩
      obtain ⟨other, again, rfl⟩ := replayRecords_ok.mp done'
      cases stored'.symm.trans found
      cases replay'.symm.trans again
      exact agrees'
    · intro agrees'
      exact ⟨_, _, stored', replayRecords_ok.mpr ⟨_, replay', rfl⟩, agrees'⟩
  · have stays : (S.step c).store = S.store := by
      rcases route_cases journaled.coherent isRoute with stays | ⟨v, value, fresh, planned, -⟩
      · exact stays
      · exact absurd ⟨v, value, fresh, planned⟩ accepts
    rw [stays]
    refine ⟨fun _ other v value same fresh planned => ?_, fun _ => reproduced⟩
    cases isRoute.symm.trans same
    exact absurd ⟨v, value, fresh, planned⟩ accepts

/-- Replay reproduces the run and its entries after every route exactly when the
sidecars recorded at the start are those of the store and no accepted event
carries the empty idempotency key. -/
theorem event_replay_agrees_iff (s : Store) (keyed : StoreKeyed s) (r : String)
    (base : VersionedRunState) (registered : s.runs.get? r = some base) (calls : List Call)
    (routes : ∀ c ∈ calls, RoutesOn r c) :
    Runs.Always System.step
        (fun S => Reproduced base r (s.journal r).records.length S.store) ⟨s, []⟩ calls ↔
      Mirrored s base ∧ Runs.Along System.step KeyKept ⟨s, []⟩ calls := by
  have kept : ∀ S c, RoutesOn r c → Journaled base r (s.journal r).records.length S →
      Journaled base r (s.journal r).records.length (S.step c) :=
    fun _ _ routes journaled => journaled_step routes journaled
  have exact : ∀ S c, RoutesOn r c → Journaled base r (s.journal r).records.length S →
      Reproduced base r (s.journal r).records.length S.store →
      (Reproduced base r (s.journal r).records.length (S.step c).store ↔ KeyKept S c) :=
    fun _ _ routes journaled reproduced => reproduced_step routes journaled reproduced
  have start : Journaled base r (s.journal r).records.length ⟨s, []⟩ := by
    refine ⟨coherent_start keyed, le_refl _, ?_⟩
    intro st replay
    cases (replayed_start base _).symm.trans replay
    rfl
  have along := fun holds => Runs.always_iff_along kept exact routes start holds
  constructor
  · intro always
    have holds : Reproduced base r (s.journal r).records.length s :=
      Runs.always_iff.mp always [] calls rfl
    exact ⟨(reproduced_start registered).mp holds, (along holds).mp always⟩
  · rintro ⟨mirrored, admitted⟩
    exact (along ((reproduced_start registered).mpr mirrored)).mpr admitted

end Runs

/-! ## Events of the recovery tests -/

def fixtureEvent (eventId : Identifier) (sequence : Nat) (eventType : EventType)
    (idempotencyKey : Option String) : AgentEvent where
  eventId := eventId
  runId := lease1.runId
  nodeId := lease1.nodeId
  executionId := lease1.executionId
  attemptId := lease1.attemptId
  fencingToken := "ft-1"
  sequence := sequence
  eventType := eventType
  producer := ⟨"p1", by decide⟩
  timestamp := "2026-08-14T00:00:00Z"
  idempotencyKey := idempotencyKey

def event0 : AgentEvent := fixtureEvent ⟨"e0", by decide⟩ 0 .progress none
def event1 : AgentEvent := fixtureEvent ⟨"e1", by decide⟩ 1 .completed (some "key")

/-- An event with the empty idempotency key. -/
def emptyKeyEvent : AgentEvent := fixtureEvent ⟨"e0", by decide⟩ 0 .progress (some "")

theorem seeded_mirrored : Mirrored seededStore seededRun :=
  ⟨fun _ _ => rfl, fun _ => rfl, fun _ => rfl⟩

/-- Two accepted events and a duplicate of the first. -/
theorem event_replay_agrees_completed :
    Runs.Always (@System.step fixtureTimes)
      (fun S => Reproduced seededRun "run.1" (seededStore.journal "run.1").records.length S.store)
      ⟨seededStore, []⟩ [⟨.route event0, 0⟩, ⟨.route event1, 0⟩, ⟨.route event0, 0⟩] := by
  refine (@event_replay_agrees_iff fixtureTimes seededStore seeded_keyed "run.1" seededRun rfl _
    ?_).mpr ⟨seeded_mirrored, ?_, ?_, ?_, trivial⟩
  · intro c member
    simp only [List.mem_cons, List.not_mem_nil, or_false] at member
    rcases member with rfl | rfl | rfl <;> exact ⟨_, rfl, rfl⟩
  all_goals
    intro event v value same _ _
    cases same
    decide

/-- The store after the event with the empty key was routed. -/
def emptyKeyStore : Store :=
  (Runs.run (@System.step fixtureTimes) ⟨seededStore, []⟩ [⟨.route emptyKeyEvent, 0⟩]).store

/-- The router stores a fingerprint under the empty key, replay does not. -/
theorem empty_key_lost :
    Mirrored seededStore seededRun ∧ ¬ Reproduced seededRun "run.1" 0 emptyKeyStore := by
  refine ⟨seeded_mirrored, ?_⟩
  rintro ⟨live, final, -, replay, agrees⟩
  have stored : (emptyKeyStore.dedupe.get? (idempotencyKey "")).isSome = true := by decide
  have replayed : (replayRecords seededRun
      ((emptyKeyStore.journal "run.1").records.drop 0)).toOption.bind
      (fun v => v.metadata.dedupeFingerprints.get? (idempotencyKey "")) = none := by decide
  rw [replay] at replayed
  have same := agrees.keys ""
  rw [← same, show final.metadata.dedupeFingerprints.get? _ = none from replayed] at stored
  cases stored

end DwSuperApps.Guarantees.EventReplay
