import DwSuperApps.Guarantees.LeaseHolding

/-!
# Routed events

A `stream:` key stands for one stream, so the watermarks a run records are those
the dedupe dictionary holds. A route that runs alone raises, finds the event
accepted before, or stores the next version of the run; `plannedRoute` says which
and with what.
-/
namespace DwSuperApps.Guarantees.RoutedEvents

open DwSuperApps.Lib DwSuperApps.Lib.Checked
open DwSuperApps.Lib.Programs (Prog)
open DwSuperApps.Lib.Programs.Prog (run_bind)
open DwSuperApps.Source.Runtime
open DwSuperApps.Guarantees.RuntimeCommits DwSuperApps.Guarantees.LeaseHolding

/-! ## Stream keys -/

theorem splitAtColon_append {x : List Char} (noColon : ':' ∉ x) (y : List Char) :
    splitAtColon (x ++ ':' :: y) = some (x, y) := by
  induction x with
  | nil => simp [splitAtColon]
  | cons c rest ih =>
    have other : c ≠ ':' := fun same => noColon (same ▸ List.mem_cons_self ..)
    have later : ':' ∉ rest := fun member => noColon (List.mem_cons_of_mem _ member)
    rw [List.cons_append, splitAtColon, if_neg other, ih later]
    rfl

theorem splitAtColon_some {l x y : List Char} (split : splitAtColon l = some (x, y)) :
    l = x ++ ':' :: y ∧ ':' ∉ x := by
  induction l generalizing x with
  | nil => cases split
  | cons c rest ih =>
    rw [splitAtColon] at split
    by_cases colon : c = ':'
    · rw [if_pos colon] at split
      cases split
      exact ⟨by rw [colon]; rfl, List.not_mem_nil⟩
    · rw [if_neg colon] at split
      obtain ⟨⟨x', y'⟩, found, same⟩ := Option.map_eq_some_iff.mp split
      cases same
      obtain ⟨rfl, noColon⟩ := ih found
      refine ⟨rfl, ?_⟩
      rintro (_ | ⟨_, inside⟩)
      · exact colon rfl
      · exact noColon inside

theorem streamKey_chars (e a : String) :
    (streamKey e a).toList = "stream:".toList ++ (e.toList ++ ':' :: a.toList) := by
  simp [streamKey, String.toList_append]

/-- A stream without a colon in its execution is read back from its key. -/
theorem parseStreamKey_iff {key e a : String} :
    parseStreamKey key = some (e, a) ↔ key = streamKey e a ∧ ':' ∉ e.toList := by
  unfold parseStreamKey
  constructor
  · intro parsed
    split at parsed
    · next front =>
      obtain ⟨⟨x, y⟩, found, same⟩ := Option.map_eq_some_iff.mp parsed
      cases same
      obtain ⟨split, noColon⟩ := splitAtColon_some found
      obtain ⟨tail, whole⟩ := List.isPrefixOf_iff_prefix.mp front
      refine ⟨?_, by rw [String.toList_ofList]; exact noColon⟩
      have chars : key.toList = "stream:".toList ++ key.toList.drop 7 := by
        rw [← whole]
        rfl
      apply String.toList_injective
      rw [chars, split, streamKey_chars]
      simp only [String.toList_ofList]
    · cases parsed
  · rintro ⟨rfl, noColon⟩
    have front : "stream:".toList.isPrefixOf (streamKey e a).toList = true := by
      rw [List.isPrefixOf_iff_prefix, streamKey_chars]
      exact List.prefix_append ..
    rw [if_pos front, streamKey_chars]
    change (splitAtColon (e.toList ++ ':' :: a.toList)).map _ = _
    rw [splitAtColon_append noColon]
    simp [String.ofList_toList]

/-- Two streams have two keys. -/
theorem streamKey_inj {e a e' a' : String} (noColon : ':' ∉ e.toList) (noColon' : ':' ∉ e'.toList)
    (same : streamKey e a = streamKey e' a') : e = e' ∧ a = a' := by
  have second : parseStreamKey (streamKey e' a') = some (e', a') :=
    parseStreamKey_iff.mpr ⟨rfl, noColon'⟩
  have parsed : parseStreamKey (streamKey e a) = some (e, a) :=
    parseStreamKey_iff.mpr ⟨rfl, noColon⟩
  rw [same, second] at parsed
  obtain ⟨rfl, rfl⟩ := Prod.mk.inj (Option.some.inj parsed)
  exact ⟨rfl, rfl⟩

theorem id_ne_streamKey (i : Identifier) (e a : String) : i.text ≠ streamKey e a := by
  intro same
  apply i.noColon
  rw [same, streamKey_chars]
  simp

theorem id_ne_idempotencyKey (i : Identifier) (key : String) : i.text ≠ idempotencyKey key := by
  intro same
  apply i.noColon
  rw [same, idempotencyKey, String.toList_append]
  simp

theorem idempotencyKey_ne_streamKey (key e a : String) : idempotencyKey key ≠ streamKey e a := by
  intro same
  have chars := congrArg String.toList same
  rw [streamKey_chars, idempotencyKey, String.toList_append] at chars
  simp at chars

theorem idempotencyKey_inj {key key' : String} (same : idempotencyKey key = idempotencyKey key') :
    key = key' := by
  have chars := congrArg String.toList same
  rw [idempotencyKey, idempotencyKey, String.toList_append, String.toList_append] at chars
  exact String.toList_injective (List.append_cancel_left chars)

/-! ## Watermarks -/

/-- The watermark among some dedupe entries of the stream. -/
def watermarkIn (lookup : Option DedupeEntry) : Option StreamWatermark :=
  match lookup with
  | some (.stream watermark) => some watermark
  | _ => none

/-- The watermark the dedupe dictionary holds of a stream. -/
def storedWatermark (dedupe : Dict String DedupeEntry) (e a : String) : Option StreamWatermark :=
  watermarkIn (dedupe.get? (streamKey e a))

theorem collect_entries {entries : List (String × DedupeEntry)}
    (distinct : (entries.map Prod.fst).Nodup)
    {start watermarks : Dict (String × String) StreamWatermark}
    (done : entries.foldlM (fun watermarks entry =>
      match parseStreamKey entry.1 with
      | none => .ok watermarks
      | some stream => do
        let watermark ← watermarkOf entry.2
        return watermarks.set stream watermark) start = (.ok watermarks : Except Raised _))
    (e a : String) :
    watermarks.get? (e, a) =
      (if ':' ∈ e.toList then none else watermarkIn (entries.lookup (streamKey e a))).or
        (start.get? (e, a)) := by
  induction entries generalizing start with
  | nil =>
    cases done
    simp [watermarkIn]
  | cons entry rest ih =>
    obtain ⟨key, held⟩ := entry
    obtain ⟨fresh, distinct⟩ := List.nodup_cons.mp distinct
    rw [List.foldlM_cons] at done
    obtain ⟨next, first, done⟩ := bind_ok.mp done
    rw [ih distinct done, List.lookup_cons]
    by_cases colon : ':' ∈ e.toList
    · rw [if_pos colon, if_pos colon, Option.none_or, Option.none_or]
      simp only at first
      split at first
      · cases first
        rfl
      · next stream parsed =>
        obtain ⟨watermark, -, same⟩ := bind_ok.mp first
        cases same
        have noColon := (parseStreamKey_iff.mp parsed).2
        refine Dict.get?_set_of_ne _ (fun same => noColon ?_) _
        rw [← same]
        exact colon
    · rw [if_neg colon, if_neg colon]
      simp only at first
      split at first
      · next unparsed =>
        cases first
        have other : streamKey e a ≠ key := by
          intro same
          rw [← same, parseStreamKey_iff.mpr ⟨rfl, colon⟩] at unparsed
          cases unparsed
        rw [beq_false_of_ne other]
      · next stream parsed =>
        obtain ⟨watermark, read, same⟩ := bind_ok.mp first
        cases same
        obtain ⟨key_eq, noColon⟩ := parseStreamKey_iff.mp parsed
        by_cases own : (e, a) = stream
        · cases own
          have absent : rest.lookup (streamKey e a) = none := by
            rw [List.lookup_eq_none_iff]
            intro entry member
            refine bne_iff_ne.mpr fun same => fresh ?_
            exact List.mem_map.mpr ⟨entry, member, same.symm.trans key_eq.symm⟩
          cases held with
          | event fingerprint => cases read
          | command fingerprint result => cases read
          | stream held =>
            cases read
            rw [absent, key_eq, Dict.get?_set_self]
            simp [watermarkIn]
        · have other : streamKey e a ≠ key := by
            intro same
            obtain ⟨same, same'⟩ := streamKey_inj colon noColon (same.trans key_eq)
            exact own (Prod.ext same same')
          rw [beq_false_of_ne other, Dict.get?_set_of_ne _ own]

/-- The watermarks collected are those the dictionary holds. -/
theorem collect_get {start watermarks : Dict (String × String) StreamWatermark}
    {dedupe : Dict String DedupeEntry} (done : collectWatermarks start dedupe = .ok watermarks)
    (e a : String) :
    watermarks.get? (e, a) =
      (if ':' ∈ e.toList then none else storedWatermark dedupe e a).or (start.get? (e, a)) :=
  collect_entries dedupe.distinct done e a

/-! ## The plan of a route -/

/-- The version a route commits, none for an event accepted before. -/
def plannedRoute (s : Store) (current : VersionedRunState) (event : AgentEvent) :
    Except Raised (Option VersionedRunState) := do
  let duplicate ← checkDuplicate s.dedupe (canonicalFingerprint event) (dedupeKeys event)
  if duplicate then return none
  else
    validateCorrelation event current
    checkSequence event s.dedupe
    let state ← applyToRun current.state event
    let watermarks ← collectWatermarks { distinct := noWatermarks_nodup } s.dedupe
    return some {
      state := state
      version := current.version + 1
      metadata := routedMetadata current.metadata event s.dedupe watermarks
        (s.journal event.runId).lastRecordIndex }

/-- None of the keys of a new event is in use. -/
theorem checkDuplicate_false {dedupe : Dict String DedupeEntry} {fingerprint : List (String × Json)}
    {keys : List String} (fresh : checkDuplicate dedupe fingerprint keys = .ok false) :
    ∀ key ∈ keys, dedupe.get? key = none := by
  induction keys with
  | nil => exact fun key member => absurd member List.not_mem_nil
  | cons first rest ih =>
    rw [checkDuplicate] at fresh
    split at fresh
    · next absent =>
      intro key member
      rcases List.mem_cons.mp member with rfl | later
      · exact absent
      · exact ih fresh key later
    · split at fresh <;> cases fresh

/-- What an accepted event met and what it commits. -/
theorem plannedRoute_some {s : Store} {current value : VersionedRunState} {event : AgentEvent}
    (planned : plannedRoute s current event = .ok (some value)) :
    checkDuplicate s.dedupe (canonicalFingerprint event) (dedupeKeys event) = .ok false ∧
      validateCorrelation event current = .ok () ∧ checkSequence event s.dedupe = .ok () ∧
      ∃ state watermarks, applyToRun current.state event = .ok state ∧
        collectWatermarks {} s.dedupe = .ok watermarks ∧
        value = {
          state := state
          version := current.version + 1
          metadata := routedMetadata current.metadata event s.dedupe watermarks
            (s.journal event.runId).lastRecordIndex } := by
  obtain ⟨duplicate, checked, planned⟩ := bind_ok.mp planned
  cases duplicate with
  | true => cases planned
  | false =>
    simp only [Bool.false_eq_true, if_false] at planned
    obtain ⟨_, correlated, planned⟩ := bind_ok.mp planned
    obtain ⟨_, ordered, planned⟩ := bind_ok.mp planned
    obtain ⟨state, applied, planned⟩ := bind_ok.mp planned
    obtain ⟨watermarks, collected, same⟩ := bind_ok.mp planned
    cases same
    exact ⟨checked, correlated, ordered, state, watermarks, applied, collected, rfl⟩

/-- The keys and the fingerprint an accepted event is stored under. -/
def acceptedEntries (event : AgentEvent) : List (String × DedupeEntry) :=
  (dedupeKeys event).map fun key => (key, .event (canonicalFingerprint event))

/-- The store after an event was accepted. -/
def acceptStore (s : Store) (event : AgentEvent) (value : VersionedRunState) : Store where
  runs := s.runs.set event.runId (value.atPosition (s.journal event.runId).records.length)
  journals := s.journals.set event.runId ((s.journal event.runId).append
    (.event { event, version := value.version, fingerprint := canonicalFingerprint event }))
  dedupe := (s.dedupe.update (acceptedEntries event)).set
    (streamKey event.executionId event.attemptId) (.stream (nextWatermark event))

/-- What a route returns or raises and the store it leaves. -/
def routed (s : Store) (current : VersionedRunState) (event : AgentEvent) (expected : Int) :
    Except Raised VersionedRunState × Store :=
  match plannedRoute s current event with
  | .error e => (.error e, s)
  | .ok none => (.ok current, s)
  | .ok (some value) =>
    match s.putRun value expected with
    | (.error e, _) => (.error e, s)
    | (.ok _, _) => (.ok value, acceptStore s event value)

/-- The dedupe entries after an event was accepted. -/
theorem accepted_get (s : Store) (event : AgentEvent) (value : VersionedRunState) (k : String) :
    (acceptStore s event value).dedupe.get? k =
      if k = streamKey event.executionId event.attemptId then some (.stream (nextWatermark event))
      else if k ∈ dedupeKeys event then some (.event (canonicalFingerprint event))
      else s.dedupe.get? k := by
  unfold acceptStore acceptedEntries
  simp only
  rw [Dict.get?_set, Dict.get?_update_const]

theorem streamKey_not_mem_dedupeKeys (event : AgentEvent) (e a : String) :
    streamKey e a ∉ dedupeKeys event := by
  intro member
  rcases List.mem_cons.mp member with same | idem
  · exact id_ne_streamKey event.eventId e a same.symm
  · obtain ⟨key, -, same⟩ := Option.map_eq_some_iff.mp (Option.mem_toList.mp idem)
    exact idempotencyKey_ne_streamKey key e a same

/-- The watermarks after an event was accepted. -/
theorem accepted_watermark (s : Store) (event : AgentEvent) (value : VersionedRunState)
    {e : String} (noColon : ':' ∉ e.toList) (a : String) :
    storedWatermark (acceptStore s event value).dedupe e a =
      if (e, a) = (event.executionId.text, event.attemptId.text) then some (nextWatermark event)
      else storedWatermark s.dedupe e a := by
  unfold storedWatermark
  rw [accepted_get]
  by_cases own : (e, a) = (event.executionId.text, event.attemptId.text)
  · obtain ⟨same, same'⟩ := Prod.mk.inj own
    rw [if_pos own, same, same', if_pos rfl]
    rfl
  · have other : streamKey e a ≠ streamKey event.executionId event.attemptId := by
      intro same
      obtain ⟨same, same'⟩ := streamKey_inj noColon event.executionId.noColon same
      exact own (Prod.ext same same')
    rw [if_neg own, if_neg other, if_neg (streamKey_not_mem_dedupeKeys event e a)]

/-! ## The operation follows its plan -/

theorem recordEvent_run (state : TeamRunState) (event : AgentEvent) :
    (recordEvent state event).runId = state.runId := rfl

theorem applyToRun_run {state next : TeamRunState} {event : AgentEvent}
    (applied : applyToRun state event = .ok next) : next.runId = state.runId := by
  unfold applyToRun at applied
  split at applied
  · unfold applyCompleted at applied
    split at applied
    · cases applied
      rfl
    · split at applied
      · cases applied
        rfl
      · obtain ⟨_, _, same⟩ := bind_ok.mp applied
        cases same
        rfl
  · unfold applyStatusChange at applied
    split at applied
    · cases applied
      rfl
    · split at applied
      · cases applied
      · split at applied
        · cases applied
          rfl
        · obtain ⟨_, _, applied⟩ := bind_ok.mp applied
          obtain ⟨_, _, same⟩ := bind_ok.mp applied
          cases same
          rfl
  · cases applied
    rfl

theorem plannedRoute_run {s : Store} {current value : VersionedRunState} {event : AgentEvent}
    (planned : plannedRoute s current event = .ok (some value)) :
    value.state.runId = current.state.runId := by
  obtain ⟨-, -, -, state, watermarks, applied, -, rfl⟩ := plannedRoute_some planned
  exact applyToRun_run applied

theorem forM_dedupePut (keys : List String) (entry : String → DedupeEntry) (s : Store) :
    (keys.forM fun key => dedupePut key (entry key)).run s =
      (.ok (), { s with dedupe := s.dedupe.update (keys.map fun key => (key, entry key)) }) := by
  induction keys generalizing s with
  | nil => rfl
  | cons key rest ih =>
    change (dedupePut key (entry key) >>= fun _ =>
      rest.forM fun key => dedupePut key (entry key)).run s = _
    rw [run_bind]
    exact ih (s.dedupePut key (entry key))

section Operations
variable (s : Store) (runId key : String)

theorem dedupeState_run : dedupeState.run s = (.ok s.dedupe, s) := rfl

theorem putRun_run (value : VersionedRunState) (expected : Int) :
    (putRun value expected).run s = s.putRun value expected := rfl

theorem journalAppend_run (body : RecordBody) :
    (journalAppend runId body).run s = (.ok (), s.journalAppend runId body) := rfl

theorem dedupePut_run (entry : DedupeEntry) :
    (dedupePut key entry).run s = (.ok (), s.dedupePut key entry) := rfl

theorem lift_run {α : Type} (x : Except Raised α) :
    (liftM x : StoreProg α).run s = (x, s) := rfl

theorem lastRecordIndex_run :
    (lastRecordIndex runId).run s = (.ok (s.journal runId).lastRecordIndex, s) := rfl

end Operations

/-- What is written after the put. -/
theorem recordAccepted_run (s : Store) (event : AgentEvent) (value : VersionedRunState)
    (stored : s.runs.get? event.runId = some value) :
    (recordAccepted event value.version).run s = (.ok (), acceptStore s event value) := by
  unfold recordAccepted
  simp only [run_bind, journalAppend_run, forM_dedupePut, dedupePut_run]
  let body : RecordBody :=
    .event { event, version := value.version, fingerprint := canonicalFingerprint event }
  let written : Store :=
    { runs := s.runs
      journals := (s.journalAppend event.runId body).journals
      dedupe := (acceptStore s event value).dedupe }
  have journal : written.journal event.runId = (s.journal event.runId).append body := by
    change ((s.journals.set event.runId.text _).get? event.runId.text).getD {} = _
    rw [Dict.get?_set_self]
    rfl
  have held : written.runs.get? event.runId = some value := stored
  have synced := sync_held held
  rw [journal, Journal.lastRecordIndex_append] at synced
  exact synced

theorem putRun_matching {s : Store} {value : VersionedRunState} {expected : Int}
    (same : s.versionOf value.state.runId = expected) :
    s.putRun value expected = (.ok value, { s with runs := s.runs.set value.state.runId value }) := by
  unfold Store.putRun
  rw [if_neg (not_not.mpr same)]

theorem putRun_mismatching {s : Store} {value : VersionedRunState} {expected : Int}
    (differs : s.versionOf value.state.runId ≠ expected) :
    ∃ e, s.putRun value expected = (.error e, s) := by
  unfold Store.putRun
  rw [if_pos differs]
  exact ⟨_, rfl⟩

/-- The put and what follows it. -/
theorem put_accepted (s : Store) (event : AgentEvent) (value : VersionedRunState) (expected : Int)
    (own : value.state.runId.text = event.runId) :
    (putRun value expected >>= fun committed => recordAccepted event committed.version >>= fun _ =>
      (pure committed : StoreProg VersionedRunState)).run s =
      match s.putRun value expected with
      | (.error e, _) => (.error e, s)
      | (.ok _, _) => (.ok value, acceptStore s event value) := by
  rw [run_bind, putRun_run]
  by_cases same : s.versionOf value.state.runId = expected
  · have stored : ({ s with runs := s.runs.set value.state.runId value } : Store).runs.get?
        event.runId = some value := by
      rw [← own]
      exact Dict.get?_set_self ..
    rw [putRun_matching same]
    simp only
    rw [run_bind, recordAccepted_run _ event value stored]
    refine congrArg (Prod.mk (Except.ok value)) ?_
    unfold acceptStore
    simp only [own, Dict.set_set]
    rfl
  · obtain ⟨e, refused⟩ := putRun_mismatching same
    rw [refused]

theorem route_run (s : Store) {current : VersionedRunState} {event : AgentEvent} (expected : Int)
    (own : current.state.runId.text = event.runId) :
    (route event current expected).run s = routed s current event expected := by
  unfold routed plannedRoute route applyEventToState
  simp only [run_bind, dedupeState_run, lift_run]
  cases checkDuplicate s.dedupe (canonicalFingerprint event) (dedupeKeys event) with
  | error e => rfl
  | ok duplicate =>
    cases duplicate with
    | true => rfl
    | false =>
      simp only [Bool.false_eq_true, if_false, run_bind, dedupeState_run, lift_run,
        lastRecordIndex_run, putRun_run, ok_bind]
      cases validateCorrelation event current with
      | error e => rfl
      | ok _ =>
        simp only [ok_bind]
        cases checkSequence event s.dedupe with
        | error e => rfl
        | ok _ =>
          simp only [ok_bind]
          cases applied : applyToRun current.state event with
          | error e => rfl
          | ok state =>
            simp only [ok_bind]
            cases collectWatermarks {} s.dedupe with
            | error e => rfl
            | ok watermarks =>
              let value : VersionedRunState := {
                state := state
                version := current.version + 1
                metadata := routedMetadata current.metadata event s.dedupe watermarks
                  (s.journal event.runId).lastRecordIndex }
              have mine : value.state.runId.text = event.runId := by
                change state.runId.text = event.runId
                rw [applyToRun_run applied, own]
              have put := put_accepted s event value expected mine
              simp only [run_bind, putRun_run] at put
              exact put

/-! ## Sequences of calls -/

section Calls
variable [Timestamps] {S : System} {c : Call} {event : AgentEvent} {v value : VersionedRunState}

theorem route_result (isRoute : c.request = .route event) (read : S.snapshot c = some v)
    (own : v.state.runId.text = event.runId) :
    S.result c = match routed S.store v event v.version with
      | (.ok r, t) => (.ok (some r), t)
      | (.error e, t) => (.error e, t) := by
  unfold System.result
  rw [read, isRoute]
  change (route event v v.version >>= fun r => (pure (some r) : StoreProg _)).run S.store = _
  rw [run_bind, route_run S.store v.version own]
  obtain ⟨out, left⟩ := routed S.store v event v.version
  cases out <;> rfl

/-- An event that is accepted on the stored version of its run. -/
theorem route_accepted (coherent : Coherent S) (isRoute : c.request = .route event)
    (fresh : Fresh S c v) (planned : plannedRoute S.store v event = .ok (some value)) :
    S.result c = (.ok (some value), acceptStore S.store event value) := by
  have named : v.state.runId.text = event.runId := by
    have own := coherent.keyed.run _ v fresh.2
    rw [isRoute] at own
    exact own
  have run := plannedRoute_run planned
  have version : S.store.versionOf value.state.runId = v.version := by
    have held := fresh.2
    rw [isRoute] at held
    unfold Store.versionOf
    rw [run, named]
    change (S.store.runs.get? event.runId.text).elim (-1) (·.version) = v.version
    rw [show S.store.runs.get? event.runId.text = some v from held]
    rfl
  rw [route_result isRoute fresh.1 named]
  unfold routed
  rw [planned]
  simp only
  rw [putRun_matching version]

/-- A route leaves the store as it is, or accepts its event on the stored version
of the run. -/
theorem route_cases (coherent : Coherent S) (isRoute : c.request = .route event) :
    (S.step c).store = S.store ∨
      ∃ v value, Fresh S c v ∧ plannedRoute S.store v event = .ok (some value) ∧
        (S.step c).store = acceptStore S.store event value := by
  cases read : S.snapshot c with
  | none =>
    left
    change (S.result c).2 = S.store
    unfold System.result
    rw [read]
  | some v =>
    obtain ⟨own, -, current, held, same | stale⟩ := snapshot_cases coherent read
    · subst same
      rw [isRoute] at own
      cases planned : plannedRoute S.store v event with
      | error e =>
        left
        change (S.result c).2 = S.store
        rw [route_result isRoute read own]
        unfold routed
        rw [planned]
      | ok outcome =>
        cases outcome with
        | none =>
          left
          change (S.result c).2 = S.store
          rw [route_result isRoute read own]
          unfold routed
          rw [planned]
        | some value =>
          right
          refine ⟨v, value, ⟨read, held⟩, planned, ?_⟩
          exact congrArg Prod.snd (route_accepted coherent isRoute ⟨read, held⟩ planned)
    · left
      rw [isRoute] at own held
      change (S.result c).2 = S.store
      rw [route_result isRoute read own]
      unfold routed
      cases planned : plannedRoute S.store v event with
      | error e => rfl
      | ok outcome =>
        cases outcome with
        | none => rfl
        | some value =>
          have version : S.store.versionOf value.state.runId ≠ v.version := by
            unfold Store.versionOf
            rw [plannedRoute_run planned, own]
            change (S.store.runs.get? event.runId.text).elim (-1) (·.version) ≠ v.version
            rw [show S.store.runs.get? event.runId.text = some current from held]
            exact fun same => stale same.symm
          obtain ⟨e, refused⟩ := putRun_mismatching version
          simp only
          rw [refused]

/-- A route keeps the store keyed and its earlier versions versions of it. -/
theorem coherent_route (coherent : Coherent S) (isRoute : c.request = .route event) :
    Coherent (S.step c) := by
  have kept : StoreKeyed (S.step c).store ∧ Later S.store (S.step c).store := by
    rcases route_cases coherent isRoute with stays | ⟨v, value, fresh, planned, accepted⟩
    · rw [stays]
      exact ⟨coherent.keyed, Later.refl _⟩
    have held := fresh.2
    rw [isRoute] at held
    have named := coherent.keyed.run _ v held
    have leases := coherent.keyed.leases _ v held
    obtain ⟨-, -, -, state, watermarks, applied, -, rfl⟩ := plannedRoute_some planned
    have run := applyToRun_run applied
    rw [accepted]
    refine ⟨⟨?_, ?_⟩, ?_⟩
    · intro r w found
      change (S.store.runs.set _ _).get? r = some w at found
      rw [Dict.get?_set] at found
      split at found
      · next same =>
        cases found
        exact (congrArg Identifier.text run).trans (named.trans same.symm)
      · exact coherent.keyed.run r w found
    · intro r w found
      change (S.store.runs.set _ _).get? r = some w at found
      rw [Dict.get?_set] at found
      split at found
      · cases found
        intro k lease present
        obtain ⟨own, mine⟩ := leases k lease present
        exact ⟨own, mine.trans run.symm⟩
      · exact coherent.keyed.leases r w found
    · intro r w found
      change ∃ current, (S.store.runs.set _ _).get? r = some current ∧ _
      rw [Dict.get?_set]
      split
      · next same =>
        rw [same] at found
        cases held.symm.trans found
        refine ⟨_, rfl, ?_, ?_⟩
        · change v.version ≤ v.version + 1
          omega
        · intro equal
          change v.version = v.version + 1 at equal
          omega
      · exact ⟨w, found, le_refl _, fun _ => rfl⟩
  refine ⟨kept.1, ?_⟩
  intro read member
  rcases List.mem_cons.mp member with rfl | old
  · exact ⟨coherent.keyed, kept.2⟩
  · obtain ⟨keyed, later⟩ := coherent.past read old
    exact ⟨keyed, later.trans kept.2⟩

end Calls

end DwSuperApps.Guarantees.RoutedEvents
