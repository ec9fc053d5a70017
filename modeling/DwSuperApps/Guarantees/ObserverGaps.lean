import DwSuperApps.Lib.Runs
import DwSuperApps.Source.Realtime

/-!
# Withheld gaps

The observer derives its projection from the events it applied; the GAP of a
withheld frame is in no event. So a frame that is applied while a GAP waits for a
resync drops it, goes LIVE and looks for its own anomalies behind as many more than
the reducer has.
-/
namespace DwSuperApps.Guarantees.ObserverGaps

open DwSuperApps.Lib DwSuperApps.Source
open DwSuperApps.Source.Reducer DwSuperApps.Source.Realtime
open DwSuperApps.Source.Realtime.Observer

/-! ## Events and anomalies of a projection -/

theorem applyNode_lists (proj : Projection) (e : RunProjectionEvent) :
    (applyNode proj e).events = proj.events ∧ (applyNode proj e).anomalies = proj.anomalies := by
  unfold applyNode
  split <;> exact ⟨rfl, rfl⟩

theorem applyGate_lists (proj : Projection) (e : RunProjectionEvent) (status : String)
    (credit : GateState → Json → GateState) :
    (applyGate proj e status credit).events = proj.events ∧
      (applyGate proj e status credit).anomalies = proj.anomalies := by
  unfold applyGate
  split <;> exact ⟨rfl, rfl⟩

/-- The state advance keeps the event and the anomaly list. -/
theorem applyEvent_lists (proj : Projection) (e : RunProjectionEvent) :
    (applyEvent proj e).events = proj.events ∧ (applyEvent proj e).anomalies = proj.anomalies := by
  unfold applyEvent
  split
  · exact ⟨rfl, rfl⟩
  · repeat' split
    all_goals first
      | exact applyGate_lists ..
      | exact applyNode_lists ..
      | exact ⟨rfl, rfl⟩

theorem reduce_snoc (events : List RunProjectionEvent) (e : RunProjectionEvent) :
    (reduce (events ++ [e])).events = (reduce events).events ++ [e] ∧
      (reduce (events ++ [e])).anomalies =
        (reduce events).anomalies ++ anomaliesAt (events.foldl Reducer.step {}) e := by
  unfold reduce
  rw [List.foldl_append]
  exact applyEvent_lists ..

@[simp] theorem reduce_events (events : List RunProjectionEvent) : (reduce events).events = events := by
  induction events using List.reverseRecOn with
  | nil => rfl
  | append_singleton rest e ih => rw [(reduce_snoc rest e).1, ih]

/-- The event is behind the high-water mark of its source after the events of the
projection. -/
def Behind (proj : Projection) (e : RunProjectionEvent) : Prop :=
  let st := proj.events.foldl Reducer.step {}
  ∃ time ∈ st.hwTime e.sourceSystem,
    before e.occurredAt e.sequence time ((st.hwSeq e.sourceSystem).getD (-1))

/-- The anomalies of an event name it STALE where it is behind the mark. -/
theorem stale_mem_iff (st : FoldState) (e : RunProjectionEvent) :
    (∃ a ∈ anomaliesAt st e, a.kind = .stale) ↔ ∃ time ∈ st.hwTime e.sourceSystem,
      before e.occurredAt e.sequence time ((st.hwSeq e.sourceSystem).getD (-1)) := by
  unfold anomaliesAt
  simp only [List.mem_append]
  constructor
  · rintro ⟨a, ((member | member) | member) | member, stale⟩
    · split at member
      · cases List.mem_singleton.mp member
        cases stale
      · cases member
    · split at member
      · cases List.mem_singleton.mp member
        cases stale
      · cases member
    · split at member
      · cases member
      · next time marked =>
        split at member
        · next behind => exact ⟨time, marked, behind⟩
        · cases member
    · split at member
      · cases List.mem_singleton.mp member
        cases stale
      · cases member
  · rintro ⟨time, marked, behind⟩
    rw [Option.mem_def.mp marked]
    simp only [if_pos behind]
    exact ⟨_, .inl (.inr (List.mem_singleton.mpr rfl)), rfl⟩

/-! ## Frames -/

theorem apply_state (o : Observer) (proj : Projection) (evt : RunProjectionEvent) :
    (o.apply proj evt).2.state = .live ∧
      (o.apply proj evt).2.projection = some (reduce (proj.events ++ [evt])) ∧
      (o.apply proj evt).1.kind ≠ .gap := by
  unfold apply
  simp only
  split <;> exact ⟨rfl, rfl, ReceiveKind.noConfusion⟩

/-- Where the projection has the anomalies of its events a frame is STALE exactly
when it is behind the mark. -/
theorem apply_stale_iff {o : Observer} {proj : Projection} {evt : RunProjectionEvent}
    (own : proj.anomalies = (reduce proj.events).anomalies) :
    (o.apply proj evt).1.kind = .stale ↔ Behind proj evt := by
  have fresh : (reduce (proj.events ++ [evt])).anomalies.drop proj.anomalies.length =
      anomaliesAt (proj.events.foldl Reducer.step {}) evt := by
    rw [(reduce_snoc proj.events evt).2, own, List.drop_left]
  unfold apply Behind
  simp only [fresh]
  rw [← stale_mem_iff]
  split
  · next stale found =>
    refine ⟨fun _ => ⟨stale, List.mem_of_find?_eq_some found, ?_⟩, fun _ => rfl⟩
    have kind := List.find?_some found
    exact of_decide_eq_true kind
  · next absent =>
    refine ⟨fun appended => ReceiveKind.noConfusion appended, ?_⟩
    rintro ⟨a, member, stale⟩
    exact absurd (decide_eq_true stale) (List.find?_eq_none.mp absent a member)

section Frames
variable [EventDecoding] {o : Observer} {message : Json}

/-- The frame is one of the run, no duplicate and not beyond the next sequence of
its source. -/
structure Applied (o : Observer) (message : Json) (proj : Projection) (evt : RunProjectionEvent) :
    Prop where
  projection : o.projection = some proj
  decoded : ∃ payload, payloadOf message = some payload ∧ EventDecoding.fromDict payload = .ok evt
  run : evt.runId = o.runId
  unseen : ¬ isDuplicate proj evt
  contiguous : evt.sequence ≤ o.expectedNext evt

/-- A frame is left aside, withheld or applied. -/
theorem receive_cases (o : Observer) (message : Json) :
    ((o.receiveLive message).2.projection = o.projection ∧
        ((o.receiveLive message).2.state = o.state ∨ (o.receiveLive message).2.state = .unavailable) ∧
        (o.receiveLive message).1.kind ≠ .gap) ∨
      (∃ proj evt, o.projection = some proj ∧ o.receiveLive message = o.withhold proj evt) ∨
      ∃ proj evt, Applied o message proj evt ∧ o.receiveLive message = o.apply proj evt := by
  unfold receiveLive
  split
  · next absent => exact .inl ⟨rfl, .inr rfl, ReceiveKind.noConfusion⟩
  · next proj held =>
    split
    · exact .inl ⟨rfl, .inl rfl, ReceiveKind.noConfusion⟩
    · next payload found =>
      split
      · exact .inl ⟨rfl, .inl rfl, ReceiveKind.noConfusion⟩
      · next evt decoded =>
        unfold receiveEvent
        by_cases run : evt.runId = o.runId
        · by_cases seen : isDuplicate proj evt
          · rw [if_neg (not_not.mpr run), if_pos seen]
            exact .inl ⟨rfl, .inl rfl, ReceiveKind.noConfusion⟩
          · rw [if_neg (not_not.mpr run), if_neg seen]
            by_cases ahead : o.expectedNext evt < evt.sequence
            · rw [if_pos ahead]
              exact .inr (.inl ⟨proj, evt, held, rfl⟩)
            · rw [if_neg ahead]
              exact .inr (.inr ⟨proj, evt,
                ⟨held, ⟨payload, found, decoded⟩, run, seen, not_lt.mp ahead⟩, rfl⟩)
        · rw [if_pos run]
          exact .inl ⟨rfl, .inl rfl, ReceiveKind.noConfusion⟩

/-- What is applied is what the event is applied to. -/
theorem Applied.receive {proj : Projection} {evt : RunProjectionEvent}
    (applied : Applied o message proj evt) : o.receiveLive message = o.apply proj evt := by
  obtain ⟨held, ⟨payload, found, decoded⟩, run, seen, contiguous⟩ := applied
  unfold receiveLive
  rw [held]
  simp only [found, decoded]
  unfold receiveEvent
  rw [if_neg (not_not.mpr run), if_neg seen, if_neg (not_lt.mpr contiguous)]

/-! ## Runs -/

/-- The projection has an anomaly that its events do not give: a GAP that was
withheld and waits for a resync. -/
def Withholding (o : Observer) : Prop :=
  ∃ proj, o.projection = some proj ∧ proj.anomalies ≠ (reduce proj.events).anomalies

/-- Only GAPs are added to the anomalies of the events. -/
def Sound (o : Observer) : Prop :=
  ∀ proj, o.projection = some proj → ∃ gaps, proj.anomalies = (reduce proj.events).anomalies ++ gaps

/-- No frame is applied while a GAP waits. -/
def Waits (o : Observer) (a : ObserverAction) : Prop :=
  ∀ message, a = .receiveLive message → Withholding o → ∀ proj evt, ¬ Applied o message proj evt

/-- The anomaly is visible in the projection. -/
def Shows (o : Observer) (a : Anomaly) : Prop :=
  ∃ proj, o.projection = some proj ∧ a ∈ proj.anomalies

/-- A resync that reads the store. -/
def Succeeds (a : ObserverAction) : Prop := ∃ fresh, a = .resync (.ok fresh)

omit [EventDecoding] in
theorem reduced_not_withholding (events : List RunProjectionEvent)
    (held : o.projection = some (reduce events)) : ¬ Withholding o := by
  rintro ⟨proj, other, added⟩
  cases held.symm.trans other
  exact added (by rw [reduce_events])

omit [EventDecoding] in
theorem reduced_sound (events : List RunProjectionEvent)
    (held : o.projection = some (reduce events)) : Sound o := by
  intro proj other
  cases held.symm.trans other
  exact ⟨[], by rw [reduce_events, List.append_nil]⟩

omit [EventDecoding] in
theorem sound_started (runId : String) (loaded : Except String (List RunProjectionEvent)) :
    Sound (started runId loaded) := by
  cases loaded with
  | error ex => exact fun proj held => nomatch held
  | ok events => exact reduced_sound events rfl

theorem sound_step (sound : Sound o) (a : ObserverAction) : Sound (o.step a) := by
  cases a with
  | resync loaded =>
    cases loaded with
    | error ex => exact sound
    | ok fresh => exact reduced_sound fresh rfl
  | receiveLive message =>
    change Sound (o.receiveLive message).2
    rcases receive_cases o message with ⟨same, -, -⟩ | ⟨proj, evt, held, gap⟩ | ⟨proj, evt, -, applied⟩
    · intro proj held
      exact sound proj (same.symm.trans held)
    · rw [gap]
      intro proj' held'
      cases held'
      obtain ⟨gaps, anomalies⟩ := sound proj held
      refine ⟨gaps ++ [o.gapAnomaly proj evt], ?_⟩
      change proj.anomalies ++ _ = _
      rw [anomalies, List.append_assoc]
    · rw [applied]
      exact reduced_sound _ (apply_state o proj evt).2.1

/-- What holds from the frame that was withheld to the resync. -/
structure Held (o : Observer) (a : Anomaly) : Prop where
  sound : Sound o
  withholding : Withholding o
  notLive : o.state ≠ .live
  shows : Shows o a

omit [EventDecoding] in
/-- One more anomaly than the events give. -/
theorem withhold_withholding (sound : Sound o) {proj : Projection} (held : o.projection = some proj)
    (evt : RunProjectionEvent) : Withholding (o.withhold proj evt).2 := by
  refine ⟨_, rfl, fun same => ?_⟩
  obtain ⟨gaps, anomalies⟩ := sound proj held
  change proj.anomalies ++ [o.gapAnomaly proj evt] = (reduce proj.events).anomalies at same
  rw [anomalies, List.append_assoc] at same
  have lengths := congrArg List.length (List.append_right_eq_self.mp same)
  simp at lengths

theorem held_start (sound : Sound o) {a : Anomaly}
    (gap : (o.receiveLive message).1 = { kind := .gap, anomaly := some a }) :
    Held (o.step (.receiveLive message)) a := by
  have kind : (o.receiveLive message).1.kind = .gap := by rw [gap]
  suffices waits : Withholding (o.receiveLive message).2 ∧ (o.receiveLive message).2.state ≠ .live ∧
      Shows (o.receiveLive message).2 a from ⟨sound_step sound _, waits.1, waits.2.1, waits.2.2⟩
  rcases receive_cases o message with ⟨-, -, other⟩ | ⟨proj, evt, held, withheld⟩ | ⟨proj, evt, -, done⟩
  · exact absurd kind other
  · rw [withheld] at gap ⊢
    cases gap
    refine ⟨withhold_withholding sound held evt, LiveState.noConfusion, _, rfl, ?_⟩
    exact List.mem_append_right _ (List.mem_singleton.mpr rfl)
  · rw [done] at kind
    exact absurd kind (apply_state o proj evt).2.2

/-- Nothing but a successful resync and an applied frame ends the wait. -/
theorem held_step {a : Anomaly} {b : ObserverAction} (held : Held o a) (waits : Waits o b)
    (unresynced : ¬ Succeeds b) : Held (o.step b) a := by
  obtain ⟨sound, ⟨proj, projected, added⟩, notLive, shows⟩ := held
  cases b with
  | resync loaded =>
    cases loaded with
    | ok fresh => exact absurd ⟨fresh, rfl⟩ unresynced
    | error ex =>
      refine ⟨sound, ⟨proj, projected, added⟩, ?_, shows⟩
      change (if o.projection.isSome then LiveState.projectionUnavailable else .unavailable) ≠ .live
      rw [projected]
      exact LiveState.noConfusion
  | receiveLive message =>
    suffices rest : Withholding (o.receiveLive message).2 ∧ (o.receiveLive message).2.state ≠ .live ∧
        Shows (o.receiveLive message).2 a from ⟨sound_step sound _, rest.1, rest.2.1, rest.2.2⟩
    rcases receive_cases o message with
      ⟨same, state, -⟩ | ⟨proj', evt, held', gap⟩ | ⟨proj', evt, applied, -⟩
    · refine ⟨⟨proj, same.trans projected, added⟩, ?_, ?_⟩
      · rcases state with state | state
        · rw [state]
          exact notLive
        · rw [state]
          exact LiveState.noConfusion
      · obtain ⟨shown, held', member⟩ := shows
        exact ⟨shown, same.trans held', member⟩
    · rw [gap]
      refine ⟨withhold_withholding sound held' evt, LiveState.noConfusion, _, rfl, ?_⟩
      obtain ⟨shown, held'', member⟩ := shows
      cases held'.symm.trans held''
      exact List.mem_append_left _ member
    · exact absurd applied (waits message rfl ⟨proj, projected, added⟩ proj' evt)

theorem held_run {a : Anomaly} {actions : List ObserverAction} (held : Held o a)
    (waits : Runs.Along Observer.step Waits o actions) (unresynced : ∀ b ∈ actions, ¬ Succeeds b) :
    Held (Runs.run Observer.step o actions) a := by
  induction actions generalizing o with
  | nil => exact held
  | cons b rest ih =>
    have first := unresynced b (List.mem_cons_self ..)
    exact ih (held_step held waits.1 first) waits.2
      fun b member => unresynced b (List.mem_cons_of_mem _ member)

/-- What waits was withheld by a frame with no successful resync since. -/
theorem withheld_before {start : Observer} (clean : ¬ Withholding start)
    (actions : List ObserverAction) (waiting : Withholding (Runs.run Observer.step start actions)) :
    ∃ xs message a ys, actions = xs ++ .receiveLive message :: ys ∧
      ((Runs.run Observer.step start xs).receiveLive message).1 = { kind := .gap, anomaly := some a } ∧
      ∀ b ∈ ys, ¬ Succeeds b := by
  induction actions using List.reverseRecOn with
  | nil => exact absurd waiting clean
  | append_singleton actions b ih =>
    rw [Runs.run_append] at waiting
    -- an action that leaves the projection as it is
    have earlier (waiting : Withholding (Runs.run Observer.step start actions)) (unresynced : ¬ Succeeds b) :
        ∃ xs message a ys, actions ++ [b] = xs ++ .receiveLive message :: ys ∧
          ((Runs.run Observer.step start xs).receiveLive message).1 = { kind := .gap, anomaly := some a } ∧
          ∀ b ∈ ys, ¬ Succeeds b := by
      obtain ⟨xs, message, a, ys, split, gap, none⟩ := ih waiting
      refine ⟨xs, message, a, ys ++ [b], by rw [split]; simp, gap, ?_⟩
      intro c member
      rcases List.mem_append.mp member with before | last
      · exact none c before
      · rw [List.mem_singleton.mp last]
        exact unresynced
    change Withholding ((Runs.run Observer.step start actions).step b) at waiting
    generalize before : Runs.run Observer.step start actions = o at waiting earlier
    cases b with
    | resync loaded =>
      cases loaded with
      | ok fresh => exact absurd waiting (reduced_not_withholding fresh rfl)
      | error ex => exact earlier waiting fun ⟨fresh, other⟩ => nomatch other
    | receiveLive message =>
      change Withholding (o.receiveLive message).2 at waiting
      rcases receive_cases o message with ⟨same, -, -⟩ | ⟨proj, evt, -, gap⟩ | ⟨proj, evt, -, done⟩
      · obtain ⟨proj, held, added⟩ := waiting
        exact earlier ⟨proj, same.symm.trans held, added⟩ fun ⟨fresh, other⟩ => nomatch other
      · refine ⟨actions, message, o.gapAnomaly proj evt, [], rfl, ?_, fun _ member => nomatch member⟩
        rw [before, gap]
        rfl
      · rw [done] at waiting
        exact absurd waiting (reduced_not_withholding _ (apply_state o proj evt).2.1)

/-- Along a run every applied frame is classified by the mark of its source, and a
withheld GAP stays visible and the observer not LIVE until a resync succeeds. -/
structure GapsKept (start : Observer) (actions : List ObserverAction) : Prop where
  classified : ∀ xs message ys, actions = xs ++ .receiveLive message :: ys →
    ∀ proj evt, Applied (Runs.run Observer.step start xs) message proj evt →
      (((Runs.run Observer.step start xs).receiveLive message).1.kind = .stale ↔ Behind proj evt)
  withheld : ∀ xs message a ys zs, actions = xs ++ .receiveLive message :: (ys ++ zs) →
    ((Runs.run Observer.step start xs).receiveLive message).1 = { kind := .gap, anomaly := some a } →
    (∀ b ∈ ys, ¬ Succeeds b) →
      (Runs.run Observer.step start (xs ++ .receiveLive message :: ys)).state ≠ .live ∧
        Shows (Runs.run Observer.step start (xs ++ .receiveLive message :: ys)) a

/-- Gaps are kept exactly along the runs that apply no frame while one waits. -/
theorem gaps_kept_iff (runId : String) (loaded : Except String (List RunProjectionEvent))
    (actions : List ObserverAction) :
    GapsKept (started runId loaded) actions ↔
      Runs.Along Observer.step Waits (started runId loaded) actions := by
  have clean : ¬ Withholding (started runId loaded) := by
    cases loaded with
    | error ex => exact fun ⟨proj, held, _⟩ => nomatch held
    | ok events => exact reduced_not_withholding events rfl
  constructor
  · intro kept
    refine Runs.along_iff.mpr ?_
    rintro before _ after split message rfl waiting proj evt applied
    obtain ⟨xs, first, a, ys, earlier, gap, unresynced⟩ := withheld_before clean before waiting
    have whole : actions = xs ++ .receiveLive first :: ((ys ++ [.receiveLive message]) ++ after) := by
      rw [split, earlier]
      simp
    have notLive := (kept.withheld xs first a _ after whole gap (by
      intro b member
      rcases List.mem_append.mp member with mid | last
      · exact unresynced b mid
      · rw [List.mem_singleton.mp last]
        exact fun ⟨fresh, other⟩ => nomatch other)).1
    have run : Runs.run Observer.step (started runId loaded)
        (xs ++ .receiveLive first :: (ys ++ [.receiveLive message])) =
        ((Runs.run Observer.step (started runId loaded) before).receiveLive message).2 := by
      rw [← List.cons_append, ← List.append_assoc, ← earlier, Runs.run_append]
      rfl
    rw [run, applied.receive] at notLive
    exact notLive (apply_state _ proj evt).1
  · intro waits
    refine ⟨?_, ?_⟩
    · intro xs message ys split proj evt applied
      have free := Runs.along_iff.mp waits xs _ ys split message rfl
      have own : proj.anomalies = (reduce proj.events).anomalies := by
        by_contra added
        exact free ⟨proj, applied.projection, added⟩ proj evt applied
      rw [applied.receive]
      exact apply_stale_iff own
    · intro xs message a ys zs split gap unresynced
      have kept : ∀ o a, Sound o → Sound (Observer.step o a) := fun _ a sound => sound_step sound a
      have sound := Runs.run_invariant_of_forall kept xs (sound_started runId loaded)
      rw [split, Runs.along_append, Runs.along_cons, Runs.along_append] at waits
      have held := held_run (held_start sound gap) waits.2.2.1 unresynced
      rw [Runs.run_append]
      exact ⟨held.notLive, held.shows⟩

end Frames

/-! ## A gap that vanishes -/

/-- An audit event of the tests. -/
def auditEvent (sourceEventId : String) (sequence : Nat) (named : present sourceEventId) :
    RunProjectionEvent where
  occurredAt := "2026-09-01T10:00:00Z"
  runId := "run-1"
  sourceEventId := sourceEventId
  sourceSystem := "taskcontroller"
  sourceDigest := "sha256:0"
  sequence := sequence
  eventType := "node_progress"
  runIdPresent := by decide
  sourceEventIdPresent := named
  eventTypePresent := by decide
  occurredAtPresent := by decide
  sourceKnown := by decide
  sourceDigestPresent := by decide
  occurredAtNormalized := fun c member => of_decide_eq_true
    (List.all_eq_true.mp (show (List.all _ fun c => decide (c ∈ timestampChars)) by decide) c member)

def audit0 : RunProjectionEvent := auditEvent "ev-0" 0 (by decide)
def audit1 : RunProjectionEvent := auditEvent "ev-1" 1 (by decide)
def audit3 : RunProjectionEvent := auditEvent "ev-3" 3 (by decide)

/-- Reads back what `to_dict` writes of the two frames. -/
@[reducible] def auditDecoding : EventDecoding where
  fromDict members :=
    if members = audit1.toDict then .ok audit1
    else if members = audit3.toDict then .ok audit3
    else .error "missing or empty required field: occurred_at"

/-- The frame of an event, as the producer ships it. -/
def frame (e : RunProjectionEvent) : Json :=
  .obj [("type", .str "broadcast"), ("event", .str "projection_event"),
    ("topic", .str "observatory:run-1"), ("payload", .obj e.toDict)]

/-- Frame 3 is withheld, frame 1 makes the observer LIVE. -/
theorem gap_dropped : ¬ @GapsKept auditDecoding (started "run-1" (.ok [audit0]))
    [.receiveLive (frame audit3), .receiveLive (frame audit1)] := by
  intro kept
  have withheld := @GapsKept.withheld auditDecoding _ _ kept [] (frame audit3) _ [.receiveLive (frame audit1)] [] rfl rfl
    (by
      intro b member
      rw [List.mem_singleton.mp member]
      exact fun ⟨fresh, other⟩ => nomatch other)
  exact withheld.1 (by decide)

end DwSuperApps.Guarantees.ObserverGaps
