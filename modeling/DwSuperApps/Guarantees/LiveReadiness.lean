import DwSuperApps.Source.Live

/-!
# When the observer may present LIVE

The client promotes itself to LIVE from three latches (`durableReady`,
`transportReady`, at least one event). What LIVE should mean is stated against a
monitor that only watches the actions: the last transport status was SUBSCRIBED, a
durable load finished since the last reconnect, and no GAP was detected since the
last finished resync.

The latches miss two things. A GAP leaves `durableReady` set, so any later
recomputation promotes over the missing history; and the promotion at the end of
`reconnectResync` does not look at what the transport reported meanwhile.
`Steady` excludes exactly these steps, and `live_only_when_ready` shows that
nothing else breaks LIVE.
-/
namespace DwSuperApps.Guarantees.LiveReadiness
open DwSuperApps.Lib.Runs DwSuperApps.Source.Live LiveProjectionClient

/-- Facts about the run the client does not all keep. -/
structure Readiness where
  lastStatus : Option String := none
  loadedSinceReconnect : Bool := false
  gapSinceResync : Bool := false
  deriving DecidableEq

/-- A world and what was observed on the way to it. -/
abbrev Observed := World × Readiness

/-- A GAP starts a resync, so a replay that started one detected one. -/
def observe (w : World) (r : Readiness) : Action → Readiness
  | .complete i =>
    match w.pending[i]? with
    | some (.loading .bootstrap (some loaded)) =>
      { r with
        loadedSinceReconnect := true
        gapSinceResync := r.gapSinceResync || (w.client.bootstrapLoaded loaded).2 != 0 }
    | some (.loading _ (some fresh)) =>
      { r with
        loadedSinceReconnect := true
        gapSinceResync := (w.client.resyncLoaded fresh).2 != 0 }
    | _ => r
  | .frame message =>
    { r with gapSinceResync := r.gapSinceResync || (w.client.receiveLive message).kind == .gap }
  | .status rawStatus =>
    { r with
      lastStatus := some (normalizeStatus rawStatus)
      loadedSinceReconnect := r.loadedSinceReconnect && !(w.client.handleStatus rawStatus).2 }
  | _ => r

def step (s : Observed) (a : Action) : Observed := (s.1.step a, observe s.1 s.2 a)

def start (runId : String) (durable : List ProjectionEvent) : Observed :=
  (World.initial runId durable, {})

/-- LIVE is presented only over a subscribed transport and reconciled history. -/
def LiveIsReady (s : Observed) : Prop :=
  s.1.client.state = .live →
    s.2.lastStatus = some "SUBSCRIBED" ∧ s.2.loadedSinceReconnect = true ∧
      s.1.client.events ≠ [] ∧ s.2.gapSinceResync = false

instance (s : Observed) : Decidable (LiveIsReady s) :=
  inferInstanceAs (Decidable (_ → _))

/-- The frame is applied to the event list: a new event of the run, no GAP. -/
def applies (c : LiveProjectionClient) (message : Message) : Bool :=
  match frameEvent c.runId message with
  | some evt => c.bootstrapped && !c.holds evt && !c.gapAhead evt
  | none => false

/-- Both latches are set: a recomputation over a nonempty list shows LIVE. -/
def latched (c : LiveProjectionClient) : Bool := c.durableReady && c.transportReady

/-- While a GAP is outstanding no frame is applied under set latches. -/
def FrameSteady (gap : Bool) (c : LiveProjectionClient) (message : Message) : Prop :=
  gap = true → latched c = true → applies c message = false

/-- `FrameSteady` for every frame replayed after a load, in its turn. -/
def ReplaySteady : Bool → LiveProjectionClient → List Message → Prop
  | _, _, [] => True
  | gap, c, frame :: rest =>
    FrameSteady gap c frame ∧
      ReplaySteady (gap || (receiveLive c frame).resync) (receiveLive c frame).client rest

/-- The steps after which LIVE still means what it says. -/
def Steady (s : Observed) : Action → Prop
  | .complete i =>
    match s.1.pending[i]? with
    | some (.loading .bootstrap (some loaded)) =>
      -- a bootstrap is not the resync an outstanding GAP waits for
      (s.2.gapSinceResync = true → s.1.client.transportReady = false) ∧
        ReplaySteady s.2.gapSinceResync (loadedClient s.1.client true loaded)
          s.1.client.preBootstrapBuffer
    | some (.loading _ (some fresh)) =>
      ReplaySteady false (loadedClient s.1.client s.1.client.bootstrapped fresh)
        s.1.client.preBootstrapBuffer
    | _ => True
  | .promote i =>
    s.1.pending[i]? = some (.promoting true) →
      s.2.lastStatus = some "SUBSCRIBED" ∧
        (s.2.gapSinceResync = true → s.1.client.durableReady = false)
  | .frame message => FrameSteady s.2.gapSinceResync s.1.client message
  | .status rawStatus =>
    if normalizeStatus rawStatus = "SUBSCRIBED" then
      -- the initial subscribe recomputes, a reconnect does not
      s.1.client.hasConnected = false → s.2.gapSinceResync = true →
        s.1.client.durableReady = false
    else if normalizeStatus rawStatus ∈ ["CHANNEL_ERROR", "TIMED_OUT", "CLOSED"] then True
    else s.1.client.transportReady = false
  | _ => True

instance (gap : Bool) (c : LiveProjectionClient) (message : Message) :
    Decidable (FrameSteady gap c message) :=
  inferInstanceAs (Decidable (_ → _ → _))

instance decidableReplaySteady :
    ∀ (gap : Bool) (c : LiveProjectionClient) (frames : List Message),
      Decidable (ReplaySteady gap c frames)
  | _, _, [] => isTrue trivial
  | gap, c, frame :: rest =>
    have := decidableReplaySteady (gap || (receiveLive c frame).resync) (receiveLive c frame).client rest
    inferInstanceAs (Decidable (FrameSteady gap c frame ∧ ReplaySteady _ _ rest))

instance (s : Observed) (a : Action) : Decidable (Steady s a) :=
  match a with
  | .complete i => by
    unfold Steady
    dsimp only
    split <;> infer_instance
  | .promote _ | .frame _ | .status _ => by
    unfold Steady
    infer_instance
  | .persist _ | .startBootstrap | .startResync | .read _ | .fail _ _ | .transportDown =>
    inferInstanceAs (Decidable True)

/-! ## The latch invariant -/

/-- LIVE is shown only over events, with no GAP outstanding and `backed` true. -/
def LatchSound (gap : Bool) (backed : Prop) (c : LiveProjectionClient) : Prop :=
  c.state = .live → c.events ≠ [] ∧ gap = false ∧ backed

theorem recomputeState_latchSound (c : LiveProjectionClient) (gap : Bool) (backed : Prop)
    (closed : gap = true → latched c = false) (latches : latched c = true → backed) :
    LatchSound gap backed c.recomputeState := by
  intro live
  obtain ⟨nonempty, durable, transport⟩ := (recomputeState_live c).mp live
  have set : latched c = true := by simp [latched, durable, transport]
  refine ⟨by simpa using nonempty, ?_, latches set⟩
  cases gap with
  | false => rfl
  | true => rw [closed rfl] at set; cases set

/-- A frame moves no latch. -/
theorem receiveLive_latches (c : LiveProjectionClient) (message : Message) :
    (receiveLive c message).client.durableReady = c.durableReady ∧
      (receiveLive c message).client.transportReady = c.transportReady := by
  have effect := receiveLive_effect c message
  generalize receiveLive c message = r at effect ⊢
  cases effect <;> simp

theorem receiveLive_resync_iff (c : LiveProjectionClient) (message : Message) :
    (receiveLive c message).resync = ((receiveLive c message).kind == .gap) := by
  have effect := receiveLive_effect c message
  generalize receiveLive c message = r at effect ⊢
  cases effect with
  | applied _ _ _ _ _ _ _ _ _ kind kindIs => rcases kindIs with rfl | rfl <;> rfl
  | _ => rfl

theorem receiveLive_latchSound (c : LiveProjectionClient) (message : Message) (gap : Bool)
    (backed : Prop) (latches : latched c = true → backed) (sound : LatchSound gap backed c)
    (steady : FrameSteady gap c message) :
    LatchSound (gap || (receiveLive c message).resync) backed (receiveLive c message).client := by
  have effect := receiveLive_effect c message
  generalize receiveLive c message = r at effect ⊢
  cases effect with
  | buffered waiting => simpa [LatchSound] using sound
  | rejected ready unnamed err => simpa [LatchSound] using sound
  | duplicate ready evt named held => simpa using sound
  | gap ready evt named fresh ahead anomalies => intro live; cases live
  | applied ready evt named fresh near events kept highWater anomalies kind kindIs =>
    have applied : applies c message = true := by simp [applies, named, ready, fresh, near]
    have closed : gap = true → latched c = false := by
      intro outstanding
      by_contra set
      have quiet := steady outstanding (by simpa using set)
      rw [applied] at quiet
      cases quiet
    have := recomputeState_latchSound { c with events := events, highWater := highWater } gap backed
      closed latches
    simpa [LatchSound] using this

theorem replayBuffered_latches (c : LiveProjectionClient) (frames : List Message) :
    (replayBuffered c frames).1.durableReady = c.durableReady ∧
      (replayBuffered c frames).1.transportReady = c.transportReady := by
  induction frames generalizing c with
  | nil => exact ⟨rfl, rfl⟩
  | cons frame rest ih =>
    obtain ⟨durable, transport⟩ := receiveLive_latches c frame
    simp only [replayBuffered]
    rw [(ih _).1, (ih _).2]
    exact ⟨durable, transport⟩

theorem replayBuffered_latchSound (c : LiveProjectionClient) (frames : List Message) (gap : Bool)
    (backed : Prop) (latches : latched c = true → backed) (sound : LatchSound gap backed c)
    (steady : ReplaySteady gap c frames) :
    LatchSound (gap || (replayBuffered c frames).2 != 0) backed (replayBuffered c frames).1 := by
  induction frames generalizing c gap with
  | nil => simpa [replayBuffered] using sound
  | cons frame rest ih =>
    have kept : latched (receiveLive c frame).client = latched c := by
      obtain ⟨durable, transport⟩ := receiveLive_latches c frame
      simp only [latched, durable, transport]
    have next := ih _ _ (by rw [kept]; exact latches)
      (receiveLive_latchSound c frame gap backed latches sound steady.1) steady.2
    have same : (gap || (replayBuffered c (frame :: rest)).2 != 0) =
        ((gap || (receiveLive c frame).resync) ||
          (replayBuffered (receiveLive c frame).client rest).2 != 0) := by
      simp only [replayBuffered, Bool.or_assoc]
      congr 1
      cases (receiveLive c frame).resync <;> simp
    rw [same]
    exact next

theorem loadedClient_latchSound (c : LiveProjectionClient) (gap bootstrapped : Bool)
    (backed : Prop) (events : List ProjectionEvent)
    (closed : gap = true → c.transportReady = false)
    (latches : c.transportReady = true → backed) :
    LatchSound gap backed (loadedClient c bootstrapped events) := by
  refine recomputeState_latchSound _ gap backed ?_ ?_
  · intro outstanding
    simp [latched, closed outstanding]
  · intro set
    exact latches (by simpa [latched] using set)

/-- Invariant of steady runs: LIVE is ready, the transport latch tracks the last
status, and the durable latch the last load. -/
structure ReadyInvariant (s : Observed) : Prop where
  live : LiveIsReady s
  transport : s.1.client.transportReady = true → s.2.lastStatus = some "SUBSCRIBED"
  durable : s.1.client.durableReady = true → s.2.loadedSinceReconnect = true

/-- What stands behind LIVE apart from the client's own fields. -/
def Backed (r : Readiness) : Prop :=
  r.lastStatus = some "SUBSCRIBED" ∧ r.loadedSinceReconnect = true

theorem liveIsReady_iff (w : World) (r : Readiness) :
    LiveIsReady (w, r) ↔ LatchSound r.gapSinceResync (Backed r) w.client := by
  unfold LiveIsReady LatchSound Backed
  constructor
  · intro h live
    obtain ⟨status, loaded, nonempty, quiet⟩ := h live
    exact ⟨nonempty, quiet, status, loaded⟩
  · intro h live
    obtain ⟨nonempty, quiet, status, loaded⟩ := h live
    exact ⟨status, loaded, nonempty, quiet⟩

theorem ReadyInvariant.backed {w : World} {r : Readiness} (h : ReadyInvariant (w, r))
    (set : latched w.client = true) : Backed r := by
  rw [latched, Bool.and_eq_true] at set
  exact ⟨h.transport set.2, h.durable set.1⟩

theorem start_ready (runId : String) (durable : List ProjectionEvent) :
    ReadyInvariant (start runId durable) where
  live := by intro live; cases live
  transport := by intro connected; cases connected
  durable := by intro loaded; cases loaded

/-- A load and the replay after it, from a client whose transport latch is true
to the last status. -/
theorem replay_ready (c : LiveProjectionClient) (bootstrapped gap : Bool)
    (events : List ProjectionEvent) (frames : List Message) (lastStatus : Option String)
    (closed : gap = true → c.transportReady = false)
    (transport : c.transportReady = true → lastStatus = some "SUBSCRIBED")
    (steady : ReplaySteady gap (loadedClient c bootstrapped events) frames) (w : World)
    (client : w.client = (replayBuffered (loadedClient c bootstrapped events) frames).1) :
    ReadyInvariant (w, ⟨lastStatus, true,
      gap || (replayBuffered (loadedClient c bootstrapped events) frames).2 != 0⟩) := by
  have latches : latched (loadedClient c bootstrapped events) = true →
      lastStatus = some "SUBSCRIBED" ∧ true = true := by
    intro set
    exact ⟨transport (by simpa [latched, loadedClient] using set), rfl⟩
  have sound := loadedClient_latchSound c gap bootstrapped (lastStatus = some "SUBSCRIBED" ∧ true = true)
    events closed (fun connected => ⟨transport connected, rfl⟩)
  refine ⟨?_, ?_, fun _ => rfl⟩
  · rw [liveIsReady_iff, client]
    exact replayBuffered_latchSound _ frames gap _ latches sound steady
  · intro connected
    rw [client, (replayBuffered_latches _ frames).2] at connected
    exact transport (by simpa [loadedClient] using connected)

/-! ## Each step keeps the invariant -/

theorem complete_ready (s : Observed) (i : Nat) (h : ReadyInvariant s)
    (steady : Steady s (.complete i)) : ReadyInvariant (step s (.complete i)) := by
  obtain ⟨w, r⟩ := s
  simp only [step, World.step, World.complete, observe, Steady] at steady ⊢
  cases hcall : w.pending[i]? with
  | none => simpa [hcall] using h
  | some call =>
    cases call with
    | promoting ok => simpa [hcall] using h
    | loading kind snapshot =>
      cases snapshot with
      | none => cases kind <;> simpa [hcall] using h
      | some events =>
        cases kind with
        | bootstrap =>
          simp only [hcall] at steady ⊢
          exact replay_ready _ true _ events _ _ steady.1 h.transport steady.2 _ rfl
        | resync =>
          simp only [hcall] at steady ⊢
          exact replay_ready _ _ false events _ _ (by simp) h.transport steady _ rfl
        | reconnect =>
          simp only [hcall] at steady ⊢
          exact replay_ready _ _ false events _ _ (by simp) h.transport steady _ rfl

theorem fail_ready (s : Observed) (i : Nat) (err : String) (h : ReadyInvariant s) :
    ReadyInvariant (step s (.fail i err)) := by
  obtain ⟨w, r⟩ := s
  have degraded (pending : List Call) :
      ReadyInvariant ({ w with client := w.client.resyncFailed err, pending := pending }, r) := by
    refine ⟨?_, h.transport, h.durable⟩
    intro live
    simp only [resyncFailed] at live
    split at live <;> cases live
  simp only [step, World.step, World.fail, observe]
  split
  · exact ⟨h.live, h.transport, h.durable⟩
  · exact degraded _
  · exact degraded _
  · exact h

theorem promote_ready (s : Observed) (i : Nat) (h : ReadyInvariant s)
    (steady : Steady s (.promote i)) : ReadyInvariant (step s (.promote i)) := by
  obtain ⟨w, r⟩ := s
  simp only [step, World.step, World.promote, observe, Steady] at steady ⊢
  split
  next ok hcall =>
    cases ok with
    | true =>
      obtain ⟨subscribed, unloaded⟩ := steady hcall
      refine ⟨?_, fun _ => subscribed, ?_⟩
      · rw [liveIsReady_iff]
        refine recomputeState_latchSound { w.client with transportReady := true } _ _ ?_ ?_
        · intro outstanding
          simp [latched, unloaded outstanding]
        · intro set
          exact ⟨subscribed, h.durable (by simpa [latched] using set)⟩
      · intro loaded
        exact h.durable (by simpa [reconnectResynced] using loaded)
    | false =>
      -- a failed reconnect drops the latch without recomputing the state
      exact ⟨h.live, by simp [reconnectResynced], h.durable⟩
  next => exact h

theorem frame_ready (s : Observed) (message : Message) (h : ReadyInvariant s)
    (steady : Steady s (.frame message)) : ReadyInvariant (step s (.frame message)) := by
  obtain ⟨w, r⟩ := s
  obtain ⟨durable, transport⟩ := receiveLive_latches w.client message
  simp only [step, World.step, World.settle, observe, Steady] at steady ⊢
  refine ⟨?_, ?_, ?_⟩
  · rw [liveIsReady_iff, ← receiveLive_resync_iff]
    exact receiveLive_latchSound w.client message _ _ h.backed ((liveIsReady_iff w r).mp h.live) steady
  · rw [transport]
    exact h.transport
  · rw [durable]
    exact h.durable

theorem status_ready (s : Observed) (rawStatus : String) (h : ReadyInvariant s)
    (steady : Steady s (.status rawStatus)) : ReadyInvariant (step s (.status rawStatus)) := by
  obtain ⟨w, r⟩ := s
  simp only [step, World.step, observe, Steady, handleStatus] at steady ⊢
  by_cases subscribed : normalizeStatus rawStatus = "SUBSCRIBED"
  · cases connected : w.client.hasConnected with
    | false =>
      simp only [subscribed, connected, Bool.not_false, Bool.and_true, if_true,
        Bool.false_eq_true, if_false, true_implies] at steady ⊢
      refine ⟨?_, fun _ => rfl, ?_⟩
      · rw [liveIsReady_iff]
        refine recomputeState_latchSound _ _ _ ?_ ?_
        · intro outstanding
          simp [latched, steady outstanding]
        · intro set
          exact ⟨rfl, h.durable (by simpa [latched] using set)⟩
      · intro loaded
        exact h.durable (by simpa using loaded)
    | true =>
      simp only [subscribed, Bool.not_true, Bool.and_false, if_true, Bool.false_eq_true, if_false,
        World.startCall]
      refine ⟨?_, by simp, by simp⟩
      intro live
      cases live
  · by_cases down : normalizeStatus rawStatus = "CHANNEL_ERROR" ∨
        normalizeStatus rawStatus = "TIMED_OUT" ∨ normalizeStatus rawStatus = "CLOSED"
    · simp only [subscribed, down, if_true, if_false, Bool.false_eq_true, Bool.not_false,
        Bool.and_true]
      refine ⟨?_, by simp, by simpa using h.durable⟩
      rw [liveIsReady_iff]
      exact recomputeState_latchSound _ _ _ (by simp [latched]) (by simp [latched])
    · have unready : w.client.transportReady = false := by
        simpa [subscribed, down] using steady
      simp only [subscribed, down, if_false, Bool.false_eq_true, Bool.not_false, Bool.and_true]
      refine ⟨?_, by simp [unready], by simpa using h.durable⟩
      rw [liveIsReady_iff]
      exact recomputeState_latchSound _ _ _ (by simp [latched, unready]) (by simp [latched, unready])

theorem transportDown_ready (s : Observed) (h : ReadyInvariant s) :
    ReadyInvariant (step s .transportDown) := by
  obtain ⟨w, r⟩ := s
  simp only [step, World.step, observe, markTransportDown]
  refine ⟨?_, by simp, by simpa using h.durable⟩
  rw [liveIsReady_iff]
  exact recomputeState_latchSound { w.client with transportReady := false } r.gapSinceResync
    (Backed r) (by simp [latched]) (by simp [latched])

theorem step_ready (s : Observed) (a : Action) (h : ReadyInvariant s) (steady : Steady s a) :
    ReadyInvariant (step s a) := by
  cases a with
  | persist event => exact ⟨h.live, h.transport, h.durable⟩
  | startBootstrap => exact ⟨h.live, h.transport, h.durable⟩
  | startResync => exact ⟨h.live, h.transport, h.durable⟩
  | read i =>
    have same : (s.1.readStore i).client = s.1.client := by
      unfold World.readStore
      split <;> rfl
    exact ⟨by simpa [LiveIsReady, step, World.step, observe, same] using h.live,
      by simpa [step, World.step, observe, same] using h.transport,
      by simpa [step, World.step, observe, same] using h.durable⟩
  | complete i => exact complete_ready s i h steady
  | fail i err => exact fail_ready s i err h
  | promote i => exact promote_ready s i h steady
  | frame message => exact frame_ready s message h steady
  | status rawStatus => exact status_ready s rawStatus h steady
  | transportDown => exact transportDown_ready s h

/-- In every run whose steps are steady, LIVE is presented only over a subscribed
transport, a durable load since the last reconnect, at least one event and no GAP
outstanding. A prefix of a steady run is steady, so this is every state reached. -/
theorem live_only_when_ready (runId : String) (durable : List ProjectionEvent)
    (actions : List Action) (steady : Along step Steady (start runId durable) actions) :
    LiveIsReady (run step (start runId durable) actions) :=
  (run_invariant step_ready (start_ready runId durable) steady).live

/-- Event `id` of the TaskController ledger of `run-1`. -/
def ledgerEvent (id : String) (seq : Int) : ProjectionEvent :=
  { runId := some "run-1", sourceSystem := "taskcontroller", sourceEventId := id
    sequence := some seq }

/-- A frame carrying the event inline. -/
def inlineFrame (event : ProjectionEvent) : Message :=
  .object none .absent none event

/-- Bootstrap over one event and subscribe, then receive the next event. -/
def connectedRun : List Action :=
  [.startBootstrap, .read 0, .complete 0, .status "subscribed", .frame (inlineFrame (ledgerEvent "e1" 1))]

theorem live_only_when_ready_connected :
    Along step Steady (start "run-1" [ledgerEvent "e0" 0]) connectedRun ∧
      (run step (start "run-1" [ledgerEvent "e0" 0]) connectedRun).1.client.state = .live ∧
      LiveIsReady (run step (start "run-1" [ledgerEvent "e0" 0]) connectedRun) := by
  have steady : Along step Steady (start "run-1" [ledgerEvent "e0" 0]) connectedRun := by
    decide
  exact ⟨steady, by decide, live_only_when_ready "run-1" [ledgerEvent "e0" 0] connectedRun steady⟩

/-- A frame beyond a gap is withheld and its resync is still in flight when the
next contiguous frame arrives: that frame alone restores LIVE. -/
theorem live_during_gap :
    ¬ ∀ (runId : String) (durable : List ProjectionEvent) (actions : List Action),
      LiveIsReady (run step (start runId durable) actions) := by
  intro claim
  have ready := claim "run-1" [ledgerEvent "e0" 0]
    [.startBootstrap, .read 0, .complete 0, .status "SUBSCRIBED",
      .frame (inlineFrame (ledgerEvent "e5" 5)), .frame (inlineFrame (ledgerEvent "e1" 1))]
  revert ready
  decide

end DwSuperApps.Guarantees.LiveReadiness
