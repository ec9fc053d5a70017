import DwSuperApps.Guarantees.EventReplay

/-!
# Events are routed once

Any sequence of `route` calls on one store, with whatever versions the callers
hand over. A call raises and leaves the store, finds its event accepted before and
leaves the store, or accepts it. The accepted events of a stream are numbered from
0 without a gap and no id and no idempotency key is accepted twice.
-/
namespace DwSuperApps.Guarantees.RoutedOnce

open DwSuperApps.Lib DwSuperApps.Lib.Checked
open DwSuperApps.Source.Runtime
open DwSuperApps.Guarantees.RuntimeCommits DwSuperApps.Guarantees.LeaseHolding
open DwSuperApps.Guarantees.RoutedEvents DwSuperApps.Guarantees.EventReplay

/-! ## Calls -/

/-- One call of `route`: the caller hands over some state of the run the event
names. -/
structure Arrival where
  event : AgentEvent
  current : VersionedRunState
  expected : Int
  own : current.state.runId.text = event.runId

namespace Arrival

def outcome (s : Store) (a : Arrival) : Except Raised VersionedRunState × Store :=
  (route a.event a.current a.expected).run s

/-- The store after the call. -/
def deliver (s : Store) (a : Arrival) : Store := (a.outcome s).2

/-- The call returns and its event was not accepted before. -/
def accepted (s : Store) (a : Arrival) : Bool :=
  match checkDuplicate s.dedupe (canonicalFingerprint a.event) (dedupeKeys a.event),
      (a.outcome s).1 with
  | .ok false, .ok _ => true
  | _, _ => false

/-- A call raises, is a duplicate, or stores the planned version. -/
theorem outcome_cases (s : Store) (a : Arrival) :
    (∃ e, a.outcome s = (.error e, s) ∧ a.accepted s = false) ∨
    (checkDuplicate s.dedupe (canonicalFingerprint a.event) (dedupeKeys a.event) = .ok true ∧
      a.outcome s = (.ok a.current, s) ∧ a.accepted s = false) ∨
    ∃ value, plannedRoute s a.current a.event = .ok (some value) ∧
      s.versionOf value.state.runId = a.expected ∧
      a.outcome s = (.ok value, acceptStore s a.event value) ∧ a.accepted s = true := by
  have run : a.outcome s = routed s a.current a.event a.expected := route_run s a.expected a.own
  have raises {e : Raised} (same : a.outcome s = (.error e, s)) : a.accepted s = false := by
    unfold accepted
    rw [same]
    split
    · next raised => cases raised
    · rfl
  unfold routed at run
  cases planned : plannedRoute s a.current a.event with
  | error e =>
    rw [planned] at run
    exact .inl ⟨e, run, raises run⟩
  | ok outcome =>
    rw [planned] at run
    cases outcome with
    | none =>
      obtain ⟨duplicate, checked, rest⟩ := bind_ok.mp planned
      cases duplicate with
      | true =>
        refine .inr (.inl ⟨checked, run, ?_⟩)
        unfold accepted
        rw [checked]
      | false =>
        simp only [Bool.false_eq_true, if_false] at rest
        obtain ⟨_, -, rest⟩ := bind_ok.mp rest
        obtain ⟨_, -, rest⟩ := bind_ok.mp rest
        obtain ⟨_, -, rest⟩ := bind_ok.mp rest
        obtain ⟨_, -, rest⟩ := bind_ok.mp rest
        cases rest
    | some value =>
      by_cases same : s.versionOf value.state.runId = a.expected
      · simp only [putRun_matching same] at run
        refine .inr (.inr ⟨value, rfl, same, run, ?_⟩)
        unfold accepted
        rw [(plannedRoute_some planned).1, run]
      · obtain ⟨e, refused⟩ := putRun_mismatching same
        simp only [refused] at run
        exact .inl ⟨e, run, raises run⟩

end Arrival

/-- The events accepted along some calls, in order. -/
def acceptedEvents : Store → List Arrival → List AgentEvent
  | _, [] => []
  | s, a :: rest =>
    (if a.accepted s then [a.event] else []) ++ acceptedEvents (a.deliver s) rest

/-! ## Numbers and keys of the accepted events -/

def onStream (e a : String) (event : AgentEvent) : Bool :=
  event.executionId.text = e ∧ event.attemptId.text = a

/-- The events a journal records. -/
def journaledEvents (j : Journal) : List AgentEvent :=
  j.records.filterMap fun r =>
    match r.body with
    | .event payload => some payload.event
    | _ => none

/-- The store is that of the start with the events of the log accepted. -/
structure Tracks (start s : Store) (log : List AgentEvent) : Prop where
  next : ∀ e a, ':' ∉ e.toList → s.dedupe.get? (streamKey e a) =
    if log.filter (onStream e a) = [] then none
    else some (.stream ⟨e, a, (log.filter (onStream e a)).length⟩)
  numbered : ∀ e a, (log.filter (onStream e a)).map (·.sequence) =
    List.range (log.filter (onStream e a)).length
  held : ∀ event ∈ log, ∀ key ∈ dedupeKeys event,
    s.dedupe.get? key = some (.event (canonicalFingerprint event))
  distinct : (log.flatMap dedupeKeys).Nodup
  journaled : ∀ r, journaledEvents (s.journal r) =
    journaledEvents (start.journal r) ++ log.filter fun event => event.runId.text = r

theorem tracks_start {start : Store}
    (unrouted : ∀ e a, start.dedupe.get? (streamKey e a) = none) : Tracks start start [] where
  next e a _ := unrouted e a
  numbered _ _ := rfl
  held _ member := absurd member List.not_mem_nil
  distinct := List.nodup_nil
  journaled _ := (List.append_nil _).symm

theorem dedupeKeys_nodup (event : AgentEvent) : (dedupeKeys event).Nodup := by
  unfold dedupeKeys
  cases event.idempotencyKey with
  | none => exact List.nodup_singleton _
  | some key =>
    have apart : event.eventId.text ≠ idempotencyKey key := id_ne_idempotencyKey event.eventId key
    simpa using apart

theorem accepted_journals (s : Store) (event : AgentEvent) (value : VersionedRunState)
    (r : String) :
    journaledEvents ((acceptStore s event value).journal r) =
      journaledEvents (s.journal r) ++ if event.runId.text = r then [event] else [] := by
  by_cases own : event.runId.text = r
  · subst own
    rw [accepted_journal, if_pos rfl]
    unfold journaledEvents
    rw [Journal.append_records, List.filterMap_append]
    rfl
  · have other : (acceptStore s event value).journal r = s.journal r := by
      change ((s.journals.set event.runId.text _).get? r).getD {} = (s.journals.get? r).getD {}
      rw [Dict.get?_set_of_ne _ (Ne.symm own)]
    rw [other, if_neg own, List.append_nil]

/-- The number an accepted event carries is the number of events of its stream. -/
theorem accepted_sequence {start s : Store} {log : List AgentEvent} (tracks : Tracks start s log)
    {event : AgentEvent} (ordered : checkSequence event s.dedupe = .ok ()) :
    event.sequence = (log.filter (onStream event.executionId event.attemptId)).length := by
  obtain ⟨expected, read, ordered⟩ := bind_ok.mp ordered
  have same : event.sequence = expected := (ensure_ok.mp ordered)
  unfold expectedSequence at read
  rw [tracks.next _ _ event.executionId.noColon] at read
  rw [same]
  by_cases first : log.filter (onStream event.executionId event.attemptId) = []
  · rw [if_pos first] at read
    rw [first]
    exact (Except.ok.inj read).symm
  · rw [if_neg first] at read
    exact (Except.ok.inj read).symm

theorem tracks_accept {start s : Store} {log : List AgentEvent} (tracks : Tracks start s log)
    {event : AgentEvent} {value : VersionedRunState}
    (fresh : ∀ key ∈ dedupeKeys event, s.dedupe.get? key = none)
    (ordered : checkSequence event s.dedupe = .ok ()) :
    Tracks start (acceptStore s event value) (log ++ [event]) := by
  have number := accepted_sequence tracks ordered
  have grown (e a : String) : (log ++ [event]).filter (onStream e a) =
      log.filter (onStream e a) ++ if onStream e a event then [event] else [] := by
    rw [List.filter_append, List.filter_singleton]
    cases onStream e a event <;> rfl
  refine ⟨?_, ?_, ?_, ?_, ?_⟩
  · intro e a noColon
    rw [accepted_get, grown]
    by_cases own : onStream e a event = true
    · obtain ⟨rfl, rfl⟩ := of_decide_eq_true own
      rw [if_pos rfl, if_pos own, if_neg (by simp), List.length_append, List.length_singleton,
        ← number]
      rfl
    · have other : streamKey e a ≠ streamKey event.executionId event.attemptId := by
        intro same
        obtain ⟨rfl, rfl⟩ := streamKey_inj noColon event.executionId.noColon same
        exact own (decide_eq_true ⟨rfl, rfl⟩)
      rw [if_neg other, if_neg (streamKey_not_mem_dedupeKeys event e a), if_neg own,
        List.append_nil]
      exact tracks.next e a noColon
  · intro e a
    rw [grown]
    by_cases own : onStream e a event = true
    · obtain ⟨rfl, rfl⟩ := of_decide_eq_true own
      rw [if_pos own, List.map_append, tracks.numbered, List.length_append, List.length_singleton,
        List.range_succ, List.map_singleton, number]
    · rw [if_neg own, List.append_nil, tracks.numbered]
  · intro old member key inside
    rw [accepted_get]
    have notStream : key ≠ streamKey event.executionId event.attemptId :=
      fun same => streamKey_not_mem_dedupeKeys old _ _ (same ▸ inside)
    rw [if_neg notStream]
    rcases List.mem_append.mp member with before | last
    · have held := tracks.held old before key inside
      have apart : key ∉ dedupeKeys event := by
        intro reused
        rw [fresh key reused] at held
        cases held
      rw [if_neg apart, held]
    · obtain rfl := List.mem_singleton.mp last
      rw [if_pos inside]
  · rw [List.flatMap_append, List.flatMap_singleton]
    refine List.Nodup.append tracks.distinct (dedupeKeys_nodup event) ?_
    intro key before reused
    obtain ⟨old, member, inside⟩ := List.mem_flatMap.mp before
    have held := tracks.held old member key inside
    rw [fresh key reused] at held
    cases held
  · intro r
    rw [accepted_journals, tracks.journaled, List.filter_append, List.append_assoc]
    by_cases own : event.runId.text = r <;> simp [own]

/-- One call: the log grows by its event when the event is accepted. -/
theorem tracks_deliver {start s : Store} {log : List AgentEvent} (tracks : Tracks start s log)
    (a : Arrival) :
    Tracks start (a.deliver s) (log ++ if a.accepted s then [a.event] else []) := by
  unfold Arrival.deliver
  rcases a.outcome_cases s with
    ⟨e, raised, refused⟩ | ⟨-, returned, refused⟩ | ⟨value, planned, -, stored, accepted⟩
  · rw [raised, refused, if_neg Bool.false_ne_true, List.append_nil]
    exact tracks
  · rw [returned, refused, if_neg Bool.false_ne_true, List.append_nil]
    exact tracks
  · obtain ⟨checked, -, ordered, -⟩ := plannedRoute_some planned
    rw [stored, accepted, if_pos rfl]
    exact tracks_accept tracks (checkDuplicate_false checked) ordered

theorem tracks_run {start s : Store} {log : List AgentEvent} (tracks : Tracks start s log)
    (calls : List Arrival) :
    Tracks start (Runs.run Arrival.deliver s calls) (log ++ acceptedEvents s calls) := by
  induction calls generalizing s log with
  | nil =>
    rw [acceptedEvents, List.append_nil]
    exact tracks
  | cons a rest ih =>
    rw [Runs.run_cons, acceptedEvents, ← List.append_assoc]
    exact ih (tracks_deliver tracks a)

/-! ## Every sequence of calls -/

theorem ids_sublist (log : List AgentEvent) :
    (log.map (·.eventId.text)).Sublist (log.flatMap dedupeKeys) := by
  induction log with
  | nil => exact List.Sublist.refl _
  | cons event rest ih =>
    rw [List.map_cons, List.flatMap_cons]
    exact List.Sublist.cons_cons _ (ih.trans (List.sublist_append_right ..))

theorem idempotencyKeys_sublist (log : List AgentEvent) :
    ((log.filterMap (·.idempotencyKey)).map idempotencyKey).Sublist (log.flatMap dedupeKeys) := by
  induction log with
  | nil => exact List.Sublist.refl _
  | cons event rest ih =>
    rw [List.flatMap_cons]
    unfold dedupeKeys
    cases held : event.idempotencyKey with
    | none =>
      rw [List.filterMap_cons_none held]
      exact ih.trans (List.sublist_append_right ..)
    | some key =>
      rw [List.filterMap_cons_some held, List.map_cons]
      exact List.Sublist.cons _ (List.Sublist.cons_cons _ ih)

/-- An event with the id and the content of one of the log. -/
def Redelivered (log : List AgentEvent) (event : AgentEvent) : Prop :=
  ∃ first ∈ log, first.eventId = event.eventId ∧
    (DedupeEntry.event (canonicalFingerprint first)).matchesEvent (canonicalFingerprint event)

theorem redelivered_of_mem {log : List AgentEvent} {event : AgentEvent} (member : event ∈ log) :
    Redelivered log event :=
  ⟨event, member, rfl, Json.pyEq_refl _⟩

theorem redelivered_outcome {start s : Store} {log : List AgentEvent} (tracks : Tracks start s log)
    {a : Arrival} (again : Redelivered log a.event) : a.outcome s = (.ok a.current, s) := by
  obtain ⟨first, member, same, alike⟩ := again
  have held := tracks.held first member first.eventId.text (List.mem_cons_self ..)
  have duplicate : checkDuplicate s.dedupe (canonicalFingerprint a.event) (dedupeKeys a.event) =
      .ok true := by
    unfold dedupeKeys checkDuplicate
    rw [← same, held]
    exact if_pos alike
  rcases a.outcome_cases s with ⟨e, raised, -⟩ | ⟨-, returned, -⟩ | ⟨value, planned, -⟩
  · have run : a.outcome s = routed s a.current a.event a.expected := route_run s a.expected a.own
    unfold routed plannedRoute at run
    rw [duplicate] at run
    rw [raised] at run
    cases run
  · exact returned
  · rw [(plannedRoute_some planned).1] at duplicate
    cases duplicate

/-- Along every sequence of calls on a store no event was routed in, the events
accepted on a stream are numbered 0, 1, ... in order, no event id and no
idempotency key is accepted twice, and the journals grow by exactly the accepted
events. A redelivered event changes nothing, and so does a call that raises. -/
theorem routed_once (start : Store) (unrouted : ∀ e a, start.dedupe.get? (streamKey e a) = none)
    (calls : List Arrival) :
    let s := Runs.run Arrival.deliver start calls
    let accepted := acceptedEvents start calls
    (∀ e a, (accepted.filter (onStream e a)).map (·.sequence) =
      List.range (accepted.filter (onStream e a)).length) ∧
    (accepted.map (·.eventId.text)).Nodup ∧
    (accepted.filterMap (·.idempotencyKey)).Nodup ∧
    (∀ r, journaledEvents (s.journal r) = journaledEvents (start.journal r) ++
      accepted.filter fun event => event.runId.text = r) ∧
    (∀ a : Arrival, Redelivered accepted a.event → a.outcome s = (.ok a.current, s)) ∧
    ∀ (a : Arrival) (e : Raised), (a.outcome s).1 = .error e → (a.outcome s).2 = s := by
  intro s accepted
  have tracks : Tracks start s accepted := tracks_run (tracks_start unrouted) calls
  refine ⟨tracks.numbered, ?_, ?_, tracks.journaled, ?_, ?_⟩
  · exact tracks.distinct.sublist (ids_sublist accepted)
  · exact List.Nodup.of_map _ (tracks.distinct.sublist (idempotencyKeys_sublist accepted))
  · exact fun a again => redelivered_outcome tracks again
  · intro a e raised
    rcases a.outcome_cases s with ⟨_, left, -⟩ | ⟨-, returned, -⟩ | ⟨_, -, -, stored, -⟩
    · rw [left]
    · rw [returned] at raised
      cases raised
    · rw [stored] at raised
      cases raised

/-! ## A duplicate and a stale version -/

/-- An event, the event again, and the next one on a version the store never had. -/
def fixtureArrivals : List Arrival :=
  [⟨event0, seededRun, seededRun.version, rfl⟩, ⟨event0, seededRun, seededRun.version, rfl⟩,
    ⟨event1, seededRun, 7, rfl⟩]

theorem routed_once_redelivered :
    let s := Runs.run Arrival.deliver seededStore fixtureArrivals
    (∀ e a, ((acceptedEvents seededStore fixtureArrivals).filter (onStream e a)).map (·.sequence) =
      List.range ((acceptedEvents seededStore fixtureArrivals).filter (onStream e a)).length) ∧
    (Arrival.mk event0 seededRun 0 rfl).outcome s = (.ok seededRun, s) := by
  obtain ⟨numbered, -, -, -, again, -⟩ := routed_once seededStore (fun _ _ => rfl) fixtureArrivals
  refine ⟨numbered, again _ (redelivered_of_mem ?_)⟩
  decide

end DwSuperApps.Guarantees.RoutedOnce
