import DwSuperApps.Guarantees.RecoveryRouting
import DwSuperApps.Guarantees.RoutedOnce

/-!
# Runs that share a store

The dedupe dictionary is one for all runs: an event id, an idempotency key or a
stream that one run has used is used for all. Taking the calls of one run out of a
sequence changes nothing the other runs see, provided that the events it had
accepted use none of their keys.
-/
namespace DwSuperApps.Guarantees.RunIsolation

open DwSuperApps.Lib DwSuperApps.Lib.Checked
open DwSuperApps.Source.Runtime
open DwSuperApps.Guarantees.RuntimeCommits DwSuperApps.Guarantees.LeaseHolding
open DwSuperApps.Guarantees.RoutedEvents DwSuperApps.Guarantees.EventReplay
open DwSuperApps.Guarantees.RecoveryRouting DwSuperApps.Guarantees.RoutedOnce

/-! ## Calls on several runs -/

/-- A call, and how many calls on its run ago its caller read the run. -/
structure Turn where
  event : AgentEvent
  age : Nat := 0

/-- The store, and the run of each call so far with the store before it, newest
first. -/
structure Shared where
  store : Store
  past : List (String × Store) := []

namespace Shared

/-- The stores a caller on the run may have read. -/
def reads (S : Shared) (r : String) : List Store :=
  S.store :: (S.past.filter (·.1 = r)).map (·.2)

def snapshot (S : Shared) (t : Turn) : Option VersionedRunState :=
  ((S.reads t.event.runId)[t.age]?).bind fun read => read.runs.get? t.event.runId

/-- What the call answers and the store it leaves; there is nothing to call for an
absent run. -/
def result (S : Shared) (t : Turn) : Option (Except Raised VersionedRunState) × Store :=
  match S.snapshot t with
  | none => (none, S.store)
  | some current =>
    let routed := (route t.event current current.version).run S.store
    (some routed.1, routed.2)

def step (S : Shared) (t : Turn) : Shared where
  store := (S.result t).2
  past := (t.event.runId.text, S.store) :: S.past

theorem reads_step (S : Shared) (t : Turn) (r : String) :
    (S.step t).reads r =
      (S.step t).store :: if t.event.runId.text = r then S.reads r else (S.reads r).tail := by
  unfold reads step
  rw [List.filter_cons]
  by_cases own : t.event.runId.text = r <;> simp [own]

end Shared

/-- Run state and version a call returns, or its error, for each call on another
run than `hidden`. -/
def answersOf (hidden : String) :
    Shared → List Turn → List (Option (Except Raised (TeamRunState × Int)))
  | _, [] => []
  | S, t :: rest =>
    (if t.event.runId.text = hidden then [] else [(S.result t).1.map fun out => out.map seen]) ++
      answersOf hidden (S.step t) rest

def others (hidden : String) (turns : List Turn) : List Turn :=
  turns.filter fun t => t.event.runId.text ≠ hidden

/-- Two events that use no key in common. -/
structure Apart (e f : AgentEvent) : Prop where
  ids : e.eventId ≠ f.eventId
  idempotencyKeys : ∀ key, e.idempotencyKey = some key → f.idempotencyKey ≠ some key
  streams : ¬ (e.executionId = f.executionId ∧ e.attemptId = f.attemptId)

/-- A call on the hidden run that changes the store uses no key of the events. -/
def KeepsApart (hidden : String) (events : List AgentEvent) (S : Shared) (t : Turn) : Prop :=
  t.event.runId.text = hidden → (S.step t).store ≠ S.store → ∀ f ∈ events, Apart t.event f

/-! ## What the other runs see -/

/-- Two versions of a run that differ at most in mirrored entries under keys the
events do not use. -/
structure View (events : List AgentEvent) (v w : VersionedRunState) : Prop extends
    SameCore v w where
  cursor : v.metadata.eventCursor = w.metadata.eventCursor
  position : v.metadata.journalPosition = w.metadata.journalPosition
  watermarks : ∀ f ∈ events,
    v.metadata.streamWatermarks.get? (f.executionId, f.attemptId) =
      w.metadata.streamWatermarks.get? (f.executionId, f.attemptId)
  fingerprints : ∀ f ∈ events, ∀ key ∈ dedupeKeys f,
    v.metadata.dedupeFingerprints.get? key = w.metadata.dedupeFingerprints.get? key

theorem View.refl (events : List AgentEvent) (v : VersionedRunState) : View events v v :=
  ⟨⟨rfl, rfl, rfl, rfl⟩, rfl, rfl, fun _ _ => rfl, fun _ _ _ _ => rfl⟩

def ViewAt (events : List AgentEvent) (r : String) (s t : Store) : Prop :=
  Option.Rel (View events) (s.runs.get? r) (t.runs.get? r)

theorem ViewAt.version {events : List AgentEvent} {r : String} {s t : Store}
    (view : ViewAt events r s t) {i : Identifier} (named : i.text = r) :
    t.versionOf i = s.versionOf i := by
  unfold ViewAt at view
  unfold Store.versionOf
  rw [named]
  generalize s.runs.get? r = held at view ⊢
  generalize t.runs.get? r = held' at view ⊢
  cases view with
  | some same => exact same.version.symm
  | none => rfl

def RunsKeyed (s : Store) : Prop := ∀ r v, s.runs.get? r = some v → v.state.runId.text = r

/-- The dictionaries agree under the keys of the events. -/
structure KeysAlike (events : List AgentEvent) (s t : Store) : Prop where
  keys : ∀ f ∈ events, ∀ key ∈ dedupeKeys f, s.dedupe.get? key = t.dedupe.get? key
  streams : ∀ f ∈ events, s.dedupe.get? (streamKey f.executionId f.attemptId) =
    t.dedupe.get? (streamKey f.executionId f.attemptId)
  wellKeyed : WellKeyed s.dedupe
  wellKeyed' : WellKeyed t.dedupe

/-- The other runs cannot tell the two apart. -/
structure Alike (hidden : String) (events : List AgentEvent) (S T : Shared) : Prop where
  keyed : ∀ r, ∀ s ∈ S.reads r, RunsKeyed s
  keyed' : ∀ r, ∀ t ∈ T.reads r, RunsKeyed t
  reads : ∀ r, r ≠ hidden → List.Forall₂ (ViewAt events r) (S.reads r) (T.reads r)
  journals : ∀ r, r ≠ hidden → S.store.journal r = T.store.journal r
  dedupe : KeysAlike events S.store T.store

theorem Alike.view {hidden : String} {events : List AgentEvent} {S T : Shared}
    (alike : Alike hidden events S T) {r : String} (other : r ≠ hidden) :
    ViewAt events r S.store T.store := by
  cases alike.reads r other with
  | cons first _ => exact first

/-! ## Accepting an event -/

theorem accepted_runs (s : Store) (event : AgentEvent) (value : VersionedRunState) (r : String) :
    (acceptStore s event value).runs.get? r =
      if r = event.runId.text then
        some (value.atPosition (s.journal event.runId).records.length)
      else s.runs.get? r :=
  Dict.get?_set ..

theorem accepted_journal_of_ne (s : Store) (event : AgentEvent) (value : VersionedRunState)
    {r : String} (other : r ≠ event.runId.text) :
    (acceptStore s event value).journal r = s.journal r := by
  change ((s.journals.set event.runId.text _).get? r).getD {} = (s.journals.get? r).getD {}
  rw [Dict.get?_set_of_ne _ other]

theorem keyed_accept {s : Store} (keyed : RunsKeyed s) {event : AgentEvent}
    {value : VersionedRunState} (own : value.state.runId.text = event.runId) :
    RunsKeyed (acceptStore s event value) := by
  intro r v held
  rw [accepted_runs] at held
  split at held
  · next same =>
    cases held
    exact own.trans same.symm
  · exact keyed r v held

/-- A key of another event is not touched. -/
theorem Apart.keys {e f : AgentEvent} (apart : Apart e f) {key : String}
    (member : key ∈ dedupeKeys f) : key ∉ dedupeKeys e := by
  intro reused
  rcases List.mem_cons.mp member with rfl | idem
  · rcases List.mem_cons.mp reused with same | idem
    · exact apart.ids (Identifier.ext same).symm
    · obtain ⟨key, -, same⟩ := Option.map_eq_some_iff.mp (Option.mem_toList.mp idem)
      exact id_ne_idempotencyKey f.eventId key same.symm
  · obtain ⟨key', given, rfl⟩ := Option.map_eq_some_iff.mp (Option.mem_toList.mp idem)
    rcases List.mem_cons.mp reused with same | idem
    · exact id_ne_idempotencyKey e.eventId key' same.symm
    · obtain ⟨key, given', same⟩ := Option.map_eq_some_iff.mp (Option.mem_toList.mp idem)
      rw [idempotencyKey_inj same] at given'
      exact apart.idempotencyKeys key' given' given

theorem Apart.stream {e f : AgentEvent} (apart : Apart e f) :
    streamKey f.executionId f.attemptId ≠ streamKey e.executionId e.attemptId := by
  intro same
  obtain ⟨same, same'⟩ := streamKey_inj f.executionId.noColon e.executionId.noColon same
  exact apart.streams ⟨(Identifier.ext same).symm, (Identifier.ext same').symm⟩

theorem keysAlike_hidden {events : List AgentEvent} {s t : Store} (alike : KeysAlike events s t)
    {e : AgentEvent} (apart : ∀ f ∈ events, Apart e f) (value : VersionedRunState) :
    KeysAlike events (acceptStore s e value) t := by
  refine ⟨?_, ?_, wellKeyed_accept alike.wellKeyed e value, alike.wellKeyed'⟩
  · intro f member key inside
    have notStream : key ≠ streamKey e.executionId e.attemptId :=
      fun same => streamKey_not_mem_dedupeKeys f _ _ (same ▸ inside)
    rw [accepted_get, if_neg notStream, if_neg ((apart f member).keys inside)]
    exact alike.keys f member key inside
  · intro f member
    rw [accepted_get, if_neg (apart f member).stream,
      if_neg (streamKey_not_mem_dedupeKeys e _ _)]
    exact alike.streams f member

theorem keysAlike_both {events : List AgentEvent} {s t : Store} (alike : KeysAlike events s t)
    (e : AgentEvent) (x y : VersionedRunState) :
    KeysAlike events (acceptStore s e x) (acceptStore t e y) := by
  refine ⟨?_, ?_, wellKeyed_accept alike.wellKeyed e x, wellKeyed_accept alike.wellKeyed' e y⟩
  · intro f member key inside
    rw [accepted_get, accepted_get, alike.keys f member key inside]
  · intro f member
    rw [accepted_get, accepted_get, alike.streams f member]

/-- The versions two stores accept for one event look alike. -/
theorem view_accept {events : List AgentEvent} {s t : Store} (alike : KeysAlike events s t)
    {v w x y : VersionedRunState} {event : AgentEvent} (core : SameCore x y)
    (planned : plannedRoute s v event = .ok (some x))
    (planned' : plannedRoute t w event = .ok (some y)) (position : Int) :
    View events (x.atPosition position) (y.atPosition position) := by
  obtain ⟨-, -, -, state, watermarks, -, collected, rfl⟩ := plannedRoute_some planned
  obtain ⟨-, -, -, state', watermarks', -, collected', rfl⟩ := plannedRoute_some planned'
  refine ⟨⟨core.state, core.version, core.attempts, core.leases⟩, rfl, rfl, ?_, ?_⟩
  · intro f member
    change (watermarks.set _ _).get? _ = (watermarks'.set _ _).get? _
    rw [Dict.get?_set, Dict.get?_set, collect_get collected, collect_get collected']
    unfold storedWatermark
    rw [alike.streams f member]
  · intro f member key inside
    change (s.dedupe.update _).get? key = (t.dedupe.update _).get? key
    rw [Dict.get?_update_const, Dict.get?_update_const, alike.keys f member key inside]

/-! ## One call -/

section Step
variable {hidden : String} {events : List AgentEvent} {S T : Shared} {t : Turn}

theorem snapshot_keyed (keyed : ∀ r, ∀ s ∈ S.reads r, RunsKeyed s) {v : VersionedRunState}
    (read : S.snapshot t = some v) : v.state.runId.text = t.event.runId.text := by
  obtain ⟨s, found, held⟩ := Option.bind_eq_some_iff.mp read
  exact keyed _ s (List.mem_of_getElem? found) _ v held

theorem result_routed (keyed : ∀ r, ∀ s ∈ S.reads r, RunsKeyed s) {v : VersionedRunState}
    (read : S.snapshot t = some v) :
    S.result t = (some (routed S.store v t.event v.version).1,
      (routed S.store v t.event v.version).2) := by
  unfold Shared.result
  rw [read]
  simp only
  rw [route_run S.store v.version (snapshot_keyed keyed read)]

/-- A call leaves the store or accepts its event. -/
theorem step_cases (keyed : ∀ r, ∀ s ∈ S.reads r, RunsKeyed s) :
    (S.step t).store = S.store ∨ ∃ value, value.state.runId.text = t.event.runId.text ∧
      (S.step t).store = acceptStore S.store t.event value := by
  unfold Shared.step
  cases read : S.snapshot t with
  | none =>
    left
    unfold Shared.result
    rw [read]
  | some v =>
    have own := snapshot_keyed keyed read
    let a : Arrival := ⟨t.event, v, v.version, own⟩
    have left : (S.result t).2 = (a.outcome S.store).2 := by
      unfold Shared.result
      rw [read]
      rfl
    rw [left]
    rcases a.outcome_cases S.store with ⟨_, raised, -⟩ | ⟨-, returned, -⟩ | ⟨value, planned, -, stored, -⟩
    · exact .inl (congrArg Prod.snd raised)
    · exact .inl (congrArg Prod.snd returned)
    · exact .inr ⟨value, by rw [plannedRoute_run planned, own], congrArg Prod.snd stored⟩

theorem keyed_step (keyed : ∀ r, ∀ s ∈ S.reads r, RunsKeyed s) :
    ∀ r, ∀ s ∈ (S.step t).reads r, RunsKeyed s := by
  have current := keyed t.event.runId S.store (List.mem_cons_self ..)
  have next : RunsKeyed (S.step t).store := by
    rcases step_cases keyed with stays | ⟨value, own, accepted⟩
    · rw [stays]
      exact current
    · rw [accepted]
      exact keyed_accept current own
  intro r s member
  rw [Shared.reads_step] at member
  rcases List.mem_cons.mp member with rfl | old
  · exact next
  · split at old
    · exact keyed r s old
    · exact keyed r s (List.mem_of_mem_tail old)

/-- A call on the hidden run. -/
theorem alike_hidden (alike : Alike hidden events S T) (mine : t.event.runId.text = hidden)
    (apart : KeepsApart hidden events S t) : Alike hidden events (S.step t) T := by
  have kept : (∀ r, r ≠ hidden → (S.step t).store.runs.get? r = S.store.runs.get? r) ∧
      (∀ r, r ≠ hidden → (S.step t).store.journal r = S.store.journal r) ∧
      KeysAlike events (S.step t).store T.store := by
    by_cases stays : (S.step t).store = S.store
    · rw [stays]
      exact ⟨fun _ _ => rfl, fun _ _ => rfl, alike.dedupe⟩
    · obtain ⟨value, own, accepted⟩ := (step_cases alike.keyed).resolve_left stays
      have apart := apart mine stays
      rw [accepted]
      refine ⟨?_, ?_, keysAlike_hidden alike.dedupe apart value⟩
      · intro r other
        rw [accepted_runs, if_neg (fun same => other (same.trans mine))]
      · exact fun r other => accepted_journal_of_ne _ _ _ fun same => other (same.trans mine)
  obtain ⟨runs, journals, dedupe⟩ := kept
  refine ⟨keyed_step alike.keyed, alike.keyed', ?_, ?_, dedupe⟩
  · intro r other
    rw [Shared.reads_step, if_neg (fun same => other (same.symm.trans mine))]
    have reads := alike.reads r other
    cases reads with
    | cons first rest =>
      refine List.Forall₂.cons ?_ rest
      unfold ViewAt
      rw [runs r other]
      exact first
  · intro r other
    rw [journals r other]
    exact alike.journals r other

/-- Snapshots both callers hold look alike. -/
theorem snapshot_alike (alike : Alike hidden events S T) (other : t.event.runId.text ≠ hidden) :
    Option.Rel (View events) (S.snapshot t) (T.snapshot t) := by
  unfold Shared.snapshot
  rcases forall₂_getElem? (alike.reads t.event.runId other) t.age with
    ⟨absent, absent'⟩ | ⟨s, s', found, found', view⟩
  · rw [absent, absent']
    exact Option.Rel.none
  · rw [found, found']
    exact view

/-- Both stores fail alike, find the event accepted before, or accept it. -/
theorem routed_alike (alike : Alike hidden events S T) (other : t.event.runId.text ≠ hidden)
    (listed : t.event ∈ events) {v w : VersionedRunState} (core : SameCore v w)
    (own : v.state.runId.text = t.event.runId.text) :
    (routed S.store v t.event v.version).1.map seen =
      (routed T.store w t.event w.version).1.map seen ∧
    (((routed S.store v t.event v.version).2 = S.store ∧
        (routed T.store w t.event w.version).2 = T.store) ∨
      ∃ x y, SameCore x y ∧ plannedRoute S.store v t.event = .ok (some x) ∧
        plannedRoute T.store w t.event = .ok (some y) ∧
        (routed S.store v t.event v.version).2 = acceptStore S.store t.event x ∧
        (routed T.store w t.event w.version).2 = acceptStore T.store t.event y) := by
  have dedupe := alike.dedupe
  unfold routed
  rcases planned_alike dedupe.wellKeyed dedupe.wellKeyed' (dedupe.keys _ listed)
      (dedupe.streams _ listed) core with
    ⟨e, planned, planned'⟩ | ⟨planned, planned'⟩ | ⟨x, y, planned, planned', core'⟩
  · rw [planned, planned']
    exact ⟨rfl, .inl ⟨rfl, rfl⟩⟩
  · rw [planned, planned']
    exact ⟨congrArg Except.ok core.seen_eq, .inl ⟨rfl, rfl⟩⟩
  · have run : x.state.runId.text = t.event.runId := by rw [plannedRoute_run planned, own]
    rw [planned, planned']
    unfold Store.putRun
    simp only
    rw [← core'.state, (alike.view other).version run, ← core.version]
    by_cases stored : S.store.versionOf x.state.runId = v.version
    · rw [if_neg (not_not.mpr stored), if_neg (not_not.mpr stored)]
      exact ⟨congrArg Except.ok core'.seen_eq, .inr ⟨x, y, core', rfl, rfl, rfl, rfl⟩⟩
    · rw [if_pos stored, if_pos stored]
      exact ⟨rfl, .inl ⟨rfl, rfl⟩⟩

/-- A call on another run. -/
theorem alike_both (alike : Alike hidden events S T) (other : t.event.runId.text ≠ hidden)
    (listed : t.event ∈ events) :
    (S.result t).1.map (fun out => out.map seen) = (T.result t).1.map (fun out => out.map seen) ∧
      Alike hidden events (S.step t) (T.step t) := by
  have moved : ((S.result t).1.map fun out => out.map seen) =
        ((T.result t).1.map fun out => out.map seen) ∧
      (((S.step t).store = S.store ∧ (T.step t).store = T.store) ∨
        ∃ v w x y, SameCore x y ∧ plannedRoute S.store v t.event = .ok (some x) ∧
          plannedRoute T.store w t.event = .ok (some y) ∧
          (S.step t).store = acceptStore S.store t.event x ∧
          (T.step t).store = acceptStore T.store t.event y) := by
    change _ ∧ (((S.result t).2 = _ ∧ (T.result t).2 = _) ∨
      ∃ v w x y, _ ∧ _ ∧ _ ∧ (S.result t).2 = _ ∧ (T.result t).2 = _)
    have snapshots := snapshot_alike alike other
    cases read : S.snapshot t with
    | none =>
      rw [read] at snapshots
      have read' : T.snapshot t = none := by
        cases same : T.snapshot t with
        | none => rfl
        | some w =>
          rw [same] at snapshots
          cases snapshots
      unfold Shared.result
      rw [read, read']
      exact ⟨rfl, .inl ⟨rfl, rfl⟩⟩
    | some v =>
      cases read' : T.snapshot t with
      | none =>
        rw [read, read'] at snapshots
        cases snapshots
      | some w =>
        rw [read, read'] at snapshots
        cases snapshots with
        | some view =>
          obtain ⟨same, moves⟩ :=
            routed_alike alike other listed view.toSameCore (snapshot_keyed alike.keyed read)
          rw [result_routed alike.keyed read, result_routed alike.keyed' read']
          refine ⟨congrArg some same, ?_⟩
          rcases moves with stays | ⟨x, y, accepted⟩
          · exact .inl stays
          · exact .inr ⟨v, w, x, y, accepted⟩
  obtain ⟨same, moves⟩ := moved
  refine ⟨same, ?_⟩
  have kept : (∀ r, r ≠ hidden → ViewAt events r (S.step t).store (T.step t).store) ∧
      (∀ r, r ≠ hidden → (S.step t).store.journal r = (T.step t).store.journal r) ∧
      KeysAlike events (S.step t).store (T.step t).store := by
    rcases moves with ⟨stays, stays'⟩ | ⟨v, w, x, y, core, planned, planned', accepted, accepted'⟩
    · rw [stays, stays']
      exact ⟨fun r apart => alike.view apart, alike.journals, alike.dedupe⟩
    · rw [accepted, accepted']
      have journal := alike.journals _ other
      refine ⟨?_, ?_, keysAlike_both alike.dedupe t.event x y⟩
      · intro r apart
        unfold ViewAt
        rw [accepted_runs, accepted_runs]
        by_cases own : r = t.event.runId.text
        · rw [if_pos own, if_pos own, ← journal]
          exact Option.Rel.some (view_accept alike.dedupe core planned planned' _)
        · rw [if_neg own, if_neg own]
          exact alike.view apart
      · intro r apart
        by_cases own : r = t.event.runId.text
        · rw [own, accepted_journal, accepted_journal, journal, core.version]
        · rw [accepted_journal_of_ne _ _ _ own, accepted_journal_of_ne _ _ _ own]
          exact alike.journals r apart
  obtain ⟨views, journals, dedupe⟩ := kept
  refine ⟨keyed_step alike.keyed, keyed_step alike.keyed', ?_, journals, dedupe⟩
  intro r apart
  rw [Shared.reads_step, Shared.reads_step]
  refine List.Forall₂.cons (views r apart) ?_
  have reads := alike.reads r apart
  split
  · exact reads
  · cases reads with
    | cons _ rest => exact rest

end Step

/-! ## Every sequence of calls -/

theorem alike_run {hidden : String} {events : List AgentEvent} {S T : Shared} {turns : List Turn}
    (alike : Alike hidden events S T) (apart : Runs.Along Shared.step (KeepsApart hidden events) S turns)
    (listed : ∀ t ∈ turns, t.event.runId.text ≠ hidden → t.event ∈ events) :
    answersOf hidden S turns = answersOf hidden T (others hidden turns) ∧
      Alike hidden events (Runs.run Shared.step S turns)
        (Runs.run Shared.step T (others hidden turns)) := by
  induction turns generalizing S T with
  | nil => exact ⟨rfl, alike⟩
  | cons t rest ih =>
    obtain ⟨first, later⟩ := apart
    have listed' := fun u member => listed u (List.mem_cons_of_mem t member)
    unfold others
    rw [List.filter_cons, answersOf]
    by_cases mine : t.event.runId.text = hidden
    · have keeps : decide (t.event.runId.text ≠ hidden) = false := decide_eq_false (not_not.mpr mine)
      rw [keeps, if_pos mine, List.nil_append]
      exact ih (alike_hidden alike mine first) later listed'
    · obtain ⟨same, alike'⟩ := alike_both alike mine (listed t (List.mem_cons_self ..) mine)
      obtain ⟨answers, final⟩ := ih alike' later listed'
      have keeps : decide (t.event.runId.text ≠ hidden) = true := decide_eq_true mine
      rw [keeps, if_pos rfl, if_neg mine, answersOf, if_neg mine, same, answers]
      exact ⟨rfl, final⟩

/-- Taking the calls of one run out of a sequence changes no answer of the calls on
other runs, and leaves those runs with the same state, version, attempts, leases,
cursor and journal, provided that no event accepted for the run uses an id, an
idempotency key or a stream of their events. -/
theorem hidden_run_unseen (start : Store) (keyed : RunsKeyed start)
    (wellKeyed : WellKeyed start.dedupe) (hidden : String) (turns : List Turn)
    (apart : Runs.Along Shared.step
      (KeepsApart hidden ((others hidden turns).map (·.event))) ⟨start, []⟩ turns) :
    answersOf hidden ⟨start, []⟩ turns = answersOf hidden ⟨start, []⟩ (others hidden turns) ∧
    ∀ r, r ≠ hidden →
      ViewAt ((others hidden turns).map (·.event)) r (Runs.run Shared.step ⟨start, []⟩ turns).store
        (Runs.run Shared.step ⟨start, []⟩ (others hidden turns)).store ∧
      (Runs.run Shared.step ⟨start, []⟩ turns).store.journal r =
        (Runs.run Shared.step ⟨start, []⟩ (others hidden turns)).store.journal r := by
  have same : ∀ r, ∀ s ∈ (Shared.mk start []).reads r, RunsKeyed s := by
    intro r s member
    obtain rfl := List.mem_singleton.mp member
    exact keyed
  have alike : Alike hidden ((others hidden turns).map (·.event)) ⟨start, []⟩ ⟨start, []⟩ := by
    refine ⟨same, same, ?_, fun _ _ => rfl, fun _ _ _ _ => rfl, fun _ _ => rfl, wellKeyed, wellKeyed⟩
    intro r _
    refine List.Forall₂.cons ?_ List.Forall₂.nil
    unfold ViewAt
    cases start.runs.get? r with
    | none => exact Option.Rel.none
    | some v => exact Option.Rel.some (View.refl _ v)
  have listed : ∀ t ∈ turns, t.event.runId.text ≠ hidden →
      t.event ∈ (others hidden turns).map (·.event) := fun t member other =>
    List.mem_map.mpr ⟨t, List.mem_filter.mpr ⟨member, decide_eq_true other⟩, rfl⟩
  obtain ⟨answers, final⟩ := alike_run alike apart listed
  exact ⟨answers, fun r other => ⟨final.view other, final.journals r other⟩⟩

/-! ## A second run -/

theorem lease2_identifier : matchesId "lease.2" := by decide
theorem run2_identifier : matchesId "run.2" := by decide
theorem exec2_identifier : matchesId "exec.2" := by decide
theorem att2_identifier : matchesId "att.2" := by decide

def foreignLease : WorkLease :=
  { fixtureLease ⟨"lease.2", lease2_identifier⟩ "ft-2" with
    runId := ⟨"run.2", run2_identifier⟩
    executionId := ⟨"exec.2", exec2_identifier⟩
    attemptId := ⟨"att.2", att2_identifier⟩ }

/-- run.2 with its ACTIVE lease.2. -/
def foreignRun : VersionedRunState where
  state := { runId := foreignLease.runId, status := .running }
  version := 1
  metadata := {
    attemptRegistry := ⟨[("att.2", {
      attemptId := "att.2", runId := "run.2", nodeId := "n1", executionId := "exec.2"
      currentLeaseId := some "lease.2", fencingToken := "ft-2", status := "PENDING"
      currentAttemptNumber := 1 })], by simp⟩
    leases := ⟨[("lease.2", foreignLease)], by simp⟩
    journalPosition := 0 }

def twoRuns : Store where
  runs := ⟨[("run.1", seededRun), ("run.2", foreignRun)], by simp⟩

/-- The first event of run.2. -/
def foreignEvent (eventId : Identifier) : AgentEvent :=
  { fixtureEvent eventId 0 .progress none with
    runId := foreignLease.runId
    executionId := foreignLease.executionId
    attemptId := foreignLease.attemptId
    fencingToken := "ft-2" }

theorem twoRuns_keyed : RunsKeyed twoRuns := Dict.forall_get?.mpr (by decide)

/-- An event of run.2 between two of run.1. -/
theorem hidden_run_unseen_two_runs :
    let turns : List Turn := [⟨event0, 0⟩, ⟨foreignEvent ⟨"f0", by decide⟩, 0⟩, ⟨event1, 0⟩]
    answersOf "run.2" ⟨twoRuns, []⟩ turns =
      answersOf "run.2" ⟨twoRuns, []⟩ (others "run.2" turns) := by
  intro turns
  refine (hidden_run_unseen twoRuns twoRuns_keyed ?_ "run.2" turns ⟨?_, ?_, ?_, trivial⟩).1
  · exact fun key entry held => nomatch held
  · exact fun mine => absurd mine (by decide)
  · intro _ _ f member
    have kept : (others "run.2" turns).map (·.event) = [event0, event1] := rfl
    rw [kept, List.mem_cons, List.mem_singleton] at member
    rcases member with rfl | rfl
    · exact ⟨by decide, (fun _ given => nomatch given), by decide⟩
    · exact ⟨by decide, (fun _ given => nomatch given), by decide⟩
  · exact fun mine => absurd mine (by decide)

/-- The event of run.1 is accepted alone and refused after one of run.2 with its id. -/
theorem shared_event_id_refused :
    answersOf "run.2" ⟨twoRuns, []⟩ [⟨foreignEvent ⟨"e0", by decide⟩, 0⟩, ⟨event0, 0⟩] ≠
      answersOf "run.2" ⟨twoRuns, []⟩ (others "run.2"
        [⟨foreignEvent ⟨"e0", by decide⟩, 0⟩, ⟨event0, 0⟩]) := by
  intro same
  have accepted := congrArg (List.map fun answer => answer.map fun out => out.isOk) same
  revert accepted
  decide

end DwSuperApps.Guarantees.RunIsolation
