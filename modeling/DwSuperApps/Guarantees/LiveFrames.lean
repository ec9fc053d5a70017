import DwSuperApps.Source.Live

/-!
# No accepted frame is lost by a durable load

`receiveLive` accepts a frame by buffering it (BUFFERED) or by putting it in the
event list (APPENDED, STALE). Both `bootstrap` and `resync` later replace the event
list by the snapshot their load read. Only the pre-bootstrap buffer is carried over
that replacement, so a frame accepted after bootstrap survives a load exactly when
its snapshot contains it (`resyncLoaded_holds`).

`Lossless` names the steps that lose nothing: a load completes with a snapshot of
every accepted frame that is not still buffered, and a load an accepted frame waits
for is not the last of its kind to fail.
-/
namespace DwSuperApps.Guarantees.LiveFrames
open DwSuperApps.Lib.Runs DwSuperApps.Source.Live LiveProjectionClient

/-- A list of events has one with the identity of `evt`. -/
def names (events : List ProjectionEvent) (evt : ProjectionEvent) : Bool :=
  events.any fun e => e.sourceSystem == evt.sourceSystem && e.sourceEventId == evt.sourceEventId

/-- The events of the frames accepted so far, beside the world. -/
abbrev Recorded := World × List ProjectionEvent

def accepts (c : LiveProjectionClient) (message : Message) : List ProjectionEvent :=
  match (receiveLive c message).kind with
  | .buffered | .appended | .stale => (frameEvent c.runId message).toList
  | _ => []

def record (w : World) (accepted : List ProjectionEvent) : Action → List ProjectionEvent
  | .frame message => accepted ++ accepts w.client message
  | _ => accepted

def step (s : Recorded) (a : Action) : Recorded := (s.1.step a, record s.1 s.2 a)

def start (runId : String) (durable : List ProjectionEvent) : Recorded :=
  (World.initial runId durable, [])

def isBootstrapLoad : Call → Bool
  | .loading .bootstrap _ => true
  | _ => false

def isResyncLoad : Call → Bool
  | .loading .resync _ | .loading .reconnect _ => true
  | _ => false

/-- A bootstrap load is in flight. -/
def bootstrapping (calls : List Call) : Bool := calls.any isBootstrapLoad

/-- A resync load is in flight. -/
def resyncing (calls : List Call) : Bool := calls.any isResyncLoad

/-- No load is in flight. -/
def Quiet (w : World) : Prop := bootstrapping w.pending = false ∧ resyncing w.pending = false

/-- The event's frame is in the pre-bootstrap buffer. -/
def Waits (c : LiveProjectionClient) (evt : ProjectionEvent) : Prop :=
  ∃ message ∈ c.preBootstrapBuffer, frameEvent c.runId message = some evt

instance (c : LiveProjectionClient) (evt : ProjectionEvent) : Decidable (Waits c evt) :=
  inferInstanceAs (Decidable (∃ message ∈ c.preBootstrapBuffer, _))

/-- Once every load has completed, every accepted frame is in the event list; until
then it is there, in the buffer, or the subject of a resync in flight. -/
def FramesSafe (s : Recorded) : Prop :=
  (Quiet s.1 → ∀ evt ∈ s.2, s.1.client.holds evt = true) ∧
    ∀ evt ∈ s.2, s.1.client.holds evt = true ∨ Waits s.1.client evt ∨ resyncing s.1.pending = true

/-- The steps that lose no accepted frame. -/
def Lossless (s : Recorded) : Action → Prop
  | .frame _ => s.1.client.bootstrapped = true ∨ bootstrapping s.1.pending = true
  | .complete i =>
    match s.1.pending[i]? with
    | some (.loading _ (some events)) =>
      ∀ evt ∈ s.2, names events evt = true ∨ Waits s.1.client evt
    | _ => True
  | .fail i _ =>
    match s.1.pending[i]? with
    | some (.loading .bootstrap _) =>
      s.1.client.preBootstrapBuffer = [] ∨ bootstrapping (s.1.pending.eraseIdx i) = true
    | some (.loading _ _) =>
      (∀ evt ∈ s.2, s.1.client.holds evt = true ∨ Waits s.1.client evt) ∨
        resyncing (s.1.pending.eraseIdx i) = true
    | _ => True
  | _ => True

instance (s : Recorded) : Decidable (FramesSafe s) :=
  inferInstanceAs (Decidable ((_ ∧ _ → _) ∧ _))

instance (s : Recorded) (a : Action) : Decidable (Lossless s a) := by
  unfold Lossless
  split
  · infer_instance
  · split <;> infer_instance
  · split <;> infer_instance
  · infer_instance

/-! ## Frames and replays only add events -/

theorem holds_eq_names (c : LiveProjectionClient) (evt : ProjectionEvent) :
    c.holds evt = names c.events evt := rfl

theorem names_perm {xs ys : List ProjectionEvent} (h : xs.Perm ys) (evt : ProjectionEvent) :
    names xs evt = names ys evt := h.any_eq

theorem names_append (xs ys : List ProjectionEvent) (evt : ProjectionEvent) :
    names (xs ++ ys) evt = (names xs evt || names ys evt) := List.any_append

theorem names_self (evt : ProjectionEvent) : names [evt] evt = true := by simp [names]

theorem loadedClient_holds (c : LiveProjectionClient) (bootstrapped : Bool)
    (events : List ProjectionEvent) (evt : ProjectionEvent) :
    (loadedClient c bootstrapped events).holds evt = names events evt := by
  have order := names_perm (globalDurableOrder_perm events) evt
  simpa [holds_eq_names, loadedClient] using order

theorem receiveLive_session (c : LiveProjectionClient) (message : Message) :
    (receiveLive c message).client.runId = c.runId ∧
      (receiveLive c message).client.bootstrapped = c.bootstrapped := by
  have effect := receiveLive_effect c message
  generalize receiveLive c message = r at effect ⊢
  cases effect <;> simp

theorem receiveLive_holds (c : LiveProjectionClient) (message : Message) (evt : ProjectionEvent)
    (held : c.holds evt = true) : (receiveLive c message).client.holds evt = true := by
  have effect := receiveLive_effect c message
  generalize receiveLive c message = r at effect ⊢
  cases effect with
  | applied ready new named fresh near events kept highWater anomalies kind kindIs =>
    rw [holds_eq_names] at held ⊢
    simp only [recomputeState_events]
    rw [names_perm kept, names_append, held, Bool.true_or]
  | _ => exact held

/-- A valid frame received after bootstrap is in the list or starts a resync. -/
theorem receiveLive_named (c : LiveProjectionClient) (message : Message) (evt : ProjectionEvent)
    (ready : c.bootstrapped = true) (named : frameEvent c.runId message = some evt) :
    (receiveLive c message).client.holds evt = true ∨ (receiveLive c message).resync = true := by
  have effect := receiveLive_effect c message
  generalize receiveLive c message = r at effect ⊢
  cases effect with
  | buffered waiting => rw [ready] at waiting; cases waiting
  | rejected _ unnamed _ => rw [named] at unnamed; cases unnamed
  | duplicate _ new names' held =>
    rw [named] at names'
    cases names'
    exact Or.inl held
  | gap => exact Or.inr rfl
  | applied _ new names' fresh near events kept highWater anomalies kind kindIs =>
    rw [named] at names'
    cases names'
    refine Or.inl ?_
    rw [holds_eq_names]
    simp only [recomputeState_events]
    rw [names_perm kept, names_append, names_self, Bool.or_true]

theorem replayBuffered_session (c : LiveProjectionClient) (frames : List Message) :
    (replayBuffered c frames).1.runId = c.runId ∧
      (replayBuffered c frames).1.bootstrapped = c.bootstrapped := by
  induction frames generalizing c with
  | nil => exact ⟨rfl, rfl⟩
  | cons frame rest ih =>
    obtain ⟨run, ready⟩ := receiveLive_session c frame
    simp only [replayBuffered]
    rw [(ih _).1, (ih _).2]
    exact ⟨run, ready⟩

theorem replayBuffered_holds (c : LiveProjectionClient) (frames : List Message)
    (evt : ProjectionEvent) (held : c.holds evt = true) :
    (replayBuffered c frames).1.holds evt = true := by
  induction frames generalizing c with
  | nil => exact held
  | cons frame rest ih => exact ih _ (receiveLive_holds c frame evt held)

/-- After bootstrap a replayed valid frame is in the list or starts a resync. -/
theorem replayBuffered_named (c : LiveProjectionClient) (frames : List Message)
    (message : Message) (evt : ProjectionEvent) (ready : c.bootstrapped = true)
    (member : message ∈ frames) (named : frameEvent c.runId message = some evt) :
    (replayBuffered c frames).1.holds evt = true ∨ 0 < (replayBuffered c frames).2 := by
  induction frames generalizing c with
  | nil => cases member
  | cons frame rest ih =>
    obtain ⟨run, readyIs⟩ := receiveLive_session c frame
    simp only [replayBuffered]
    rcases List.mem_cons.mp member with rfl | later
    · rcases receiveLive_named c message evt ready named with held | started
      · exact Or.inl (replayBuffered_holds _ rest evt held)
      · refine Or.inr ?_
        rw [started, if_pos rfl]
        omega
    · rcases ih _ (readyIs.trans ready) later (by rw [run]; exact named) with held | started
      · exact Or.inl held
      · exact Or.inr (by omega)

theorem replayBuffered_ready (c : LiveProjectionClient) (frames : List Message)
    (ready : c.bootstrapped = true) :
    (replayBuffered c frames).1.preBootstrapBuffer = c.preBootstrapBuffer := by
  induction frames generalizing c with
  | nil => rfl
  | cons frame rest ih =>
    have readyIs := (receiveLive_session c frame).2.trans ready
    have same : (receiveLive c frame).client.preBootstrapBuffer = c.preBootstrapBuffer := by
      have effect := receiveLive_effect c frame
      generalize receiveLive c frame = r at effect ⊢
      cases effect with
      | buffered waiting => rw [ready] at waiting; cases waiting
      | _ => simp
    exact (ih _ readyIs).trans same

/-- Before bootstrap a replay puts every frame back, and starts nothing. -/
theorem replayBuffered_waiting (c : LiveProjectionClient) (frames : List Message)
    (waiting : c.bootstrapped = false) :
    replayBuffered c frames =
      ({ c with preBootstrapBuffer := c.preBootstrapBuffer ++ frames }, 0) := by
  induction frames generalizing c with
  | nil => simp [replayBuffered]
  | cons frame rest ih =>
    have put : receiveLive c frame =
        { client := { c with preBootstrapBuffer := c.preBootstrapBuffer ++ [frame] }
          kind := .buffered } := by
      simp [receiveLive, waiting]
    have rebuffered := ih { c with preBootstrapBuffer := c.preBootstrapBuffer ++ [frame] } waiting
    simp only [replayBuffered, put, rebuffered]
    simp

/-- What a resync after bootstrap does to the event list: it becomes the snapshot,
whatever was accepted in between. -/
theorem resyncLoaded_holds (c : LiveProjectionClient) (fresh : List ProjectionEvent)
    (evt : ProjectionEvent) (drained : c.preBootstrapBuffer = []) :
    (c.resyncLoaded fresh).1.holds evt = names fresh evt := by
  rw [resyncLoaded_eq, drained]
  exact loadedClient_holds c c.bootstrapped fresh evt

/-! ## Calls in flight -/

theorem bootstrapping_append (xs ys : List Call) :
    bootstrapping (xs ++ ys) = (bootstrapping xs || bootstrapping ys) := List.any_append

theorem resyncing_append (xs ys : List Call) :
    resyncing (xs ++ ys) = (resyncing xs || resyncing ys) := List.any_append

/-- Replacing a call by one that answers `p` the same way leaves `any p`. -/
theorem any_set_of_eq (p : Call → Bool) (calls : List Call) (i : Nat) (old new : Call)
    (present : calls[i]? = some old) (same : p new = p old) :
    (calls.set i new).any p = calls.any p := by
  induction calls generalizing i with
  | nil => rfl
  | cons call rest ih =>
    cases i with
    | zero =>
      simp only [List.getElem?_cons_zero, Option.some.injEq] at present
      subst present
      simp [same]
    | succ i =>
      simp only [List.getElem?_cons_succ] at present
      simp [ih i present]

/-- Removing a call that answers `p` with false leaves `any p`. -/
theorem any_eraseIdx_of_false (p : Call → Bool) (calls : List Call) (i : Nat) (old : Call)
    (present : calls[i]? = some old) (out : p old = false) :
    (calls.eraseIdx i).any p = calls.any p := by
  induction calls generalizing i with
  | nil => rfl
  | cons call rest ih =>
    cases i with
    | zero =>
      simp only [List.getElem?_cons_zero, Option.some.injEq] at present
      subst present
      simp [out]
    | succ i =>
      simp only [List.getElem?_cons_succ] at present
      simp [ih i present]

theorem resyncing_replicate (n : Nat) :
    resyncing (List.replicate n (.loading .resync none)) = decide (0 < n) := by
  cases n <;> simp [resyncing, isResyncLoad]

theorem bootstrapping_replicate (n : Nat) :
    bootstrapping (List.replicate n (.loading .resync none)) = false := by
  simp [bootstrapping, isBootstrapLoad]

/-! ## The invariant -/

/-- Where an accepted event is. -/
def Located (w : World) (evt : ProjectionEvent) : Prop :=
  w.client.holds evt = true ∨ Waits w.client evt ∨ resyncing w.pending = true

structure FrameInvariant (s : Recorded) : Prop where
  /-- No accepted event is lost. -/
  located : ∀ evt ∈ s.2, Located s.1 evt
  /-- Frames wait only for a bootstrap that is on its way. -/
  buffered : s.1.client.preBootstrapBuffer ≠ [] →
    s.1.client.bootstrapped = false ∧ bootstrapping s.1.pending = true

theorem FrameInvariant.framesSafe {s : Recorded} (h : FrameInvariant s) : FramesSafe s := by
  refine ⟨?_, h.located⟩
  intro quiet evt member
  rcases h.located evt member with held | ⟨message, waiting, _⟩ | resync
  · exact held
  · have pending := (h.buffered (List.ne_nil_of_mem waiting)).2
    rw [quiet.1] at pending
    cases pending
  · rw [quiet.2] at resync
    cases resync

theorem start_frames (runId : String) (durable : List ProjectionEvent) :
    FrameInvariant (start runId durable) where
  located := by intro evt member; cases member
  buffered := by intro nonempty; exact absurd rfl nonempty

/-- A step that leaves list, buffer, session and calls as they are. -/
theorem FrameInvariant.congr {w w' : World} {accepted : List ProjectionEvent}
    (h : FrameInvariant (w, accepted)) (events : w'.client.events = w.client.events)
    (runId : w'.client.runId = w.client.runId)
    (buffer : w'.client.preBootstrapBuffer = w.client.preBootstrapBuffer)
    (ready : w'.client.bootstrapped = w.client.bootstrapped)
    (resync : resyncing w.pending = true → resyncing w'.pending = true)
    (bootstrap : bootstrapping w.pending = true → bootstrapping w'.pending = true) :
    FrameInvariant (w', accepted) := by
  refine ⟨?_, ?_⟩
  · intro evt member
    rcases h.located evt member with held | waiting | pending
    · refine Or.inl ?_
      rw [holds_eq_names, events]
      exact held
    · refine Or.inr (Or.inl ?_)
      unfold Waits
      rw [buffer, runId]
      exact waiting
    · exact Or.inr (Or.inr (resync pending))
  · intro nonempty
    obtain ⟨unready, pending⟩ := h.buffered (by rw [← buffer]; exact nonempty)
    exact ⟨ready.trans unready, bootstrap pending⟩

theorem frame_frames (s : Recorded) (message : Message) (h : FrameInvariant s)
    (lossless : Lossless s (.frame message)) : FrameInvariant (step s (.frame message)) := by
  obtain ⟨w, accepted⟩ := s
  simp only [step, World.step, World.settle, record, accepts, Lossless] at lossless ⊢
  have effect := receiveLive_effect w.client message
  generalize receiveLive w.client message = r at effect ⊢
  cases effect with
  | buffered waiting =>
    refine ⟨?_, ?_⟩
    · intro evt member
      rcases List.mem_append.mp member with old | new
      · rcases h.located evt old with held | ⟨m, inBuffer, named⟩ | pending
        · exact Or.inl held
        · exact Or.inr (Or.inl ⟨m, List.mem_append_left _ inBuffer, named⟩)
        · exact Or.inr (Or.inr (by simpa using pending))
      · exact Or.inr (Or.inl ⟨message, by simp, Option.mem_toList.mp new⟩)
    · intro _
      refine ⟨waiting, ?_⟩
      rcases lossless with ready | pending
      · rw [waiting] at ready; cases ready
      · simpa using pending
  | rejected ready unnamed err =>
    simp only [List.append_nil]
    exact h.congr rfl rfl rfl rfl (by simp) (by simp)
  | duplicate ready evt named held =>
    simp only [List.append_nil]
    exact h.congr rfl rfl rfl rfl (by simp) (by simp)
  | gap ready evt named fresh ahead anomalies =>
    simp only [List.append_nil]
    exact h.congr rfl rfl rfl rfl (by intro pending; simp [resyncing_append, pending])
      (by intro pending; simp [bootstrapping_append, pending])
  | applied ready new named fresh near events kept highWater anomalies kind kindIs =>
    have known (evt : ProjectionEvent) : names events evt = (w.client.holds evt || names [new] evt) := by
      rw [names_perm kept, names_append, holds_eq_names]
    refine ⟨?_, ?_⟩
    · intro evt member
      have located : Located w evt ∨ evt = new := by
        rcases List.mem_append.mp member with old | added
        · exact Or.inl (h.located evt old)
        · refine Or.inr ?_
          rcases kindIs with rfl | rfl <;> simpa [named] using added
      rcases located with (held | ⟨m, inBuffer, _⟩ | pending) | rfl
      · have still : names events evt = true := by rw [known, held, Bool.true_or]
        exact Or.inl (by simpa [holds_eq_names] using still)
      · have unready := (h.buffered (List.ne_nil_of_mem inBuffer)).1
        rw [ready] at unready
        cases unready
      · exact Or.inr (Or.inr (by simpa using pending))
      · have present : names events evt = true := by rw [known, names_self, Bool.or_true]
        exact Or.inl (by simpa [holds_eq_names] using present)
    · intro nonempty
      have := (h.buffered (by simpa using nonempty)).1
      rw [ready] at this
      cases this

/-- A bootstrap load that completes with a snapshot of everything not buffered. -/
theorem bootstrap_frames (w : World) (accepted loaded : List ProjectionEvent) (pending : List Call)
    (complete : ∀ evt ∈ accepted, names loaded evt = true ∨ Waits w.client evt) :
    FrameInvariant (w.settle pending (w.client.bootstrapLoaded loaded), accepted) := by
  rw [bootstrapLoaded_eq]
  have ready : (loadedClient w.client true loaded).bootstrapped = true := by simp [loadedClient]
  refine ⟨?_, ?_⟩
  · intro evt member
    rcases complete evt member with snapshot | ⟨message, inBuffer, named⟩
    · refine Or.inl (replayBuffered_holds _ _ evt ?_)
      rw [loadedClient_holds]
      exact snapshot
    · have same : (loadedClient w.client true loaded).runId = w.client.runId := by simp [loadedClient]
      rcases replayBuffered_named _ _ message evt ready inBuffer (by rw [same]; exact named) with
        held | started
      · exact Or.inl held
      · refine Or.inr (Or.inr ?_)
        simp only [World.settle, resyncing_append, resyncing_replicate, started, decide_true,
          Bool.or_true]
  · intro nonempty
    refine absurd ?_ nonempty
    simp only [World.settle]
    rw [replayBuffered_ready _ _ ready]
    simp [loadedClient]

/-- A resync load that completes with a snapshot of everything not buffered. -/
theorem resync_frames (w : World) (accepted fresh : List ProjectionEvent) (pending : List Call)
    (h : FrameInvariant (w, accepted))
    (bootstrap : bootstrapping w.pending = true → bootstrapping pending = true)
    (complete : ∀ evt ∈ accepted, names fresh evt = true ∨ Waits w.client evt) :
    FrameInvariant (w.settle pending (w.client.resyncLoaded fresh), accepted) := by
  by_cases drained : w.client.preBootstrapBuffer = []
  · have client : w.client.resyncLoaded fresh = (loadedClient w.client w.client.bootstrapped fresh, 0) := by
      rw [resyncLoaded_eq, drained]
      rfl
    rw [client]
    refine ⟨?_, ?_⟩
    · intro evt member
      refine Or.inl ?_
      simp only [World.settle, loadedClient_holds]
      rcases complete evt member with snapshot | ⟨message, inBuffer, _⟩
      · exact snapshot
      · rw [drained] at inBuffer; cases inBuffer
    · intro nonempty
      exact absurd (by simp [World.settle, loadedClient]) nonempty
  · obtain ⟨unready, pendingBootstrap⟩ := h.buffered drained
    have waiting : (loadedClient w.client w.client.bootstrapped fresh).bootstrapped = false := by
      simpa [loadedClient] using unready
    rw [resyncLoaded_eq, replayBuffered_waiting _ _ waiting]
    refine ⟨?_, ?_⟩
    · intro evt member
      rcases complete evt member with snapshot | buffered
      · refine Or.inl ?_
        have held := loadedClient_holds w.client w.client.bootstrapped fresh evt
        rw [holds_eq_names] at held ⊢
        exact held.trans snapshot
      · refine Or.inr (Or.inl ?_)
        simpa [Waits, World.settle, loadedClient] using buffered
    · intro _
      refine ⟨by simpa [World.settle] using waiting, ?_⟩
      simpa [World.settle] using bootstrap pendingBootstrap

theorem complete_frames (s : Recorded) (i : Nat) (h : FrameInvariant s)
    (lossless : Lossless s (.complete i)) : FrameInvariant (step s (.complete i)) := by
  obtain ⟨w, accepted⟩ := s
  simp only [step, World.step, World.complete, record, Lossless] at lossless ⊢
  cases hcall : w.pending[i]? with
  | none => simpa [hcall] using h
  | some call =>
    cases call with
    | promoting ok => simpa [hcall] using h
    | loading kind snapshot =>
      cases snapshot with
      | none => cases kind <;> simpa [hcall] using h
      | some events =>
        cases kind with
        | bootstrap =>
          simp only [hcall] at lossless ⊢
          exact bootstrap_frames w accepted events _ lossless
        | resync =>
          simp only [hcall] at lossless ⊢
          refine resync_frames w accepted events _ h ?_ lossless
          intro pending
          exact (any_eraseIdx_of_false isBootstrapLoad w.pending i _ hcall rfl).trans pending
        | reconnect =>
          simp only [hcall] at lossless ⊢
          refine resync_frames w accepted events _ h ?_ lossless
          intro pending
          exact (any_set_of_eq isBootstrapLoad w.pending i _ (.promoting true) hcall rfl).trans pending

/-- A failed resync load leaves list and buffer; what it loses is the wait for it. -/
theorem resyncFailed_frames (w : World) (accepted : List ProjectionEvent) (err : String)
    (pending : List Call) (h : FrameInvariant (w, accepted))
    (bootstrap : bootstrapping w.pending = true → bootstrapping pending = true)
    (lossless : (∀ evt ∈ accepted, w.client.holds evt = true ∨ Waits w.client evt) ∨
      resyncing pending = true) :
    FrameInvariant ({ w with client := w.client.resyncFailed err, pending := pending }, accepted) := by
  refine ⟨?_, ?_⟩
  · intro evt member
    rcases lossless with kept | other
    · rcases kept evt member with held | waiting
      · exact Or.inl held
      · exact Or.inr (Or.inl waiting)
    · exact Or.inr (Or.inr other)
  · intro nonempty
    obtain ⟨unready, pendingBootstrap⟩ := h.buffered nonempty
    exact ⟨unready, bootstrap pendingBootstrap⟩

theorem resyncing_set_of_eraseIdx (calls : List Call) (i : Nat) (new : Call)
    (other : resyncing (calls.eraseIdx i) = true) : resyncing (calls.set i new) = true := by
  induction calls generalizing i with
  | nil => exact other
  | cons call rest ih =>
    cases i with
    | zero =>
      simp only [List.eraseIdx_cons_zero] at other
      simp only [resyncing, List.set_cons_zero, List.any_cons] at other ⊢
      rw [other, Bool.or_true]
    | succ i =>
      simp only [resyncing, List.eraseIdx_cons_succ, List.set_cons_succ, List.any_cons,
        Bool.or_eq_true] at other ih ⊢
      exact other.imp id (ih i)

theorem read_frames (s : Recorded) (i : Nat) (h : FrameInvariant s) :
    FrameInvariant (step s (.read i)) := by
  obtain ⟨w, accepted⟩ := s
  simp only [step, World.step, World.readStore, record]
  split
  next kind hcall =>
    have resync := any_set_of_eq isResyncLoad w.pending i _ (.loading kind (some w.durable)) hcall
      (by cases kind <;> rfl)
    have bootstrap := any_set_of_eq isBootstrapLoad w.pending i _ (.loading kind (some w.durable))
      hcall (by cases kind <;> rfl)
    exact h.congr rfl rfl rfl rfl resync.trans bootstrap.trans
  next => exact h

theorem promote_frames (s : Recorded) (i : Nat) (h : FrameInvariant s) :
    FrameInvariant (step s (.promote i)) := by
  obtain ⟨w, accepted⟩ := s
  simp only [step, World.step, World.promote, record]
  split
  next ok hcall =>
    have resync := any_eraseIdx_of_false isResyncLoad w.pending i _ hcall rfl
    have bootstrap := any_eraseIdx_of_false isBootstrapLoad w.pending i _ hcall rfl
    cases ok with
    | true =>
      exact h.congr (by simp [reconnectResynced]) (by simp [reconnectResynced])
        (by simp [reconnectResynced]) (by simp [reconnectResynced]) resync.trans bootstrap.trans
    | false => exact h.congr rfl rfl rfl rfl resync.trans bootstrap.trans
  next => exact h

theorem fail_frames (s : Recorded) (i : Nat) (err : String) (h : FrameInvariant s)
    (lossless : Lossless s (.fail i err)) : FrameInvariant (step s (.fail i err)) := by
  obtain ⟨w, accepted⟩ := s
  simp only [step, World.step, World.fail, record, Lossless] at lossless ⊢
  cases hcall : w.pending[i]? with
  | none => simpa [hcall] using h
  | some call =>
    cases call with
    | promoting ok => simpa [hcall] using h
    | loading kind snapshot =>
      cases kind with
      | bootstrap =>
        simp only [hcall] at lossless ⊢
        have resync := any_eraseIdx_of_false isResyncLoad w.pending i _ hcall rfl
        refine ⟨?_, ?_⟩
        · intro evt member
          rcases h.located evt member with held | waiting | pending
          · exact Or.inl held
          · exact Or.inr (Or.inl waiting)
          · exact Or.inr (Or.inr (resync.trans pending))
        · intro nonempty
          refine ⟨(h.buffered nonempty).1, ?_⟩
          rcases lossless with drained | other
          · exact absurd drained nonempty
          · exact other
      | resync =>
        simp only [hcall] at lossless ⊢
        refine resyncFailed_frames w accepted err _ h ?_ lossless
        intro pending
        exact (any_eraseIdx_of_false isBootstrapLoad w.pending i _ hcall rfl).trans pending
      | reconnect =>
        simp only [hcall] at lossless ⊢
        refine resyncFailed_frames w accepted err _ h ?_ ?_
        · intro pending
          exact (any_set_of_eq isBootstrapLoad w.pending i _ (.promoting false) hcall rfl).trans pending
        · rcases lossless with kept | other
          · exact Or.inl kept
          · refine Or.inr ?_
            exact resyncing_set_of_eraseIdx w.pending i (.promoting false) other

theorem startCall_frames (w : World) (accepted : List ProjectionEvent) (kind : LoadKind)
    (h : FrameInvariant (w, accepted)) : FrameInvariant (w.startCall kind, accepted) := by
  refine h.congr rfl rfl rfl rfl ?_ ?_
  · intro pending
    simp [World.startCall, resyncing_append, pending]
  · intro pending
    simp [World.startCall, bootstrapping_append, pending]

theorem status_frames (s : Recorded) (rawStatus : String) (h : FrameInvariant s) :
    FrameInvariant (step s (.status rawStatus)) := by
  obtain ⟨w, accepted⟩ := s
  simp only [step, World.step, record, handleStatus]
  split_ifs
  all_goals try contradiction
  · exact h.congr (by simp) (by simp) (by simp) (by simp) id id
  · refine startCall_frames _ accepted .reconnect ?_
    exact h.congr rfl rfl rfl rfl id id
  · exact h.congr (by simp) (by simp) (by simp) (by simp) id id
  · exact h.congr (by simp) (by simp) (by simp) (by simp) id id

theorem transportDown_frames (s : Recorded) (h : FrameInvariant s) :
    FrameInvariant (step s .transportDown) := by
  obtain ⟨w, accepted⟩ := s
  simp only [step, World.step, record, markTransportDown]
  exact h.congr (by simp) (by simp) (by simp) (by simp) id id

theorem step_frames (s : Recorded) (a : Action) (h : FrameInvariant s) (lossless : Lossless s a) :
    FrameInvariant (step s a) := by
  cases a with
  | persist event => exact h.congr rfl rfl rfl rfl id id
  | startBootstrap => exact startCall_frames s.1 s.2 .bootstrap h
  | startResync => exact startCall_frames s.1 s.2 .resync h
  | read i => exact read_frames s i h
  | complete i => exact complete_frames s i h lossless
  | fail i err => exact fail_frames s i err h lossless
  | promote i => exact promote_frames s i h
  | frame message => exact frame_frames s message h lossless
  | status rawStatus => exact status_frames s rawStatus h
  | transportDown => exact transportDown_frames s h

/-- In every run whose steps are lossless, no accepted frame is lost, and once all
loads have completed every one of them is in the event list. -/
theorem accepted_frames_kept (runId : String) (durable : List ProjectionEvent)
    (actions : List Action) (lossless : Along step Lossless (start runId durable) actions) :
    FramesSafe (run step (start runId durable) actions) :=
  (run_invariant step_frames (start_frames runId durable) lossless).framesSafe

/-- Event `id` of the TaskController ledger of `run-1`. -/
def ledgerEvent (id : String) (seq : Int) : ProjectionEvent :=
  { runId := some "run-1", sourceSystem := "taskcontroller", sourceEventId := id
    sequence := some seq }

/-- The broadcast envelope of an event. -/
def broadcast (event : ProjectionEvent) : Message :=
  .object (some "broadcast") (.name "projection_event") (some event)
    { runId := none, sourceSystem := "", sourceEventId := "" }

/-- A frame beyond the snapshot is buffered, replayed as a GAP, and recovered by the
resync that GAP started. -/
def recoveredRun : List Action :=
  [.startBootstrap, .read 0, .frame (broadcast (ledgerEvent "e2" 2)), .complete 0,
    .persist (ledgerEvent "e1" 1), .persist (ledgerEvent "e2" 2), .read 0, .complete 0]

theorem accepted_frames_kept_recovered :
    Along step Lossless (start "run-1" [ledgerEvent "e0" 0]) recoveredRun ∧
      (run step (start "run-1" [ledgerEvent "e0" 0]) recoveredRun).2 = [ledgerEvent "e2" 2] ∧
      FramesSafe (run step (start "run-1" [ledgerEvent "e0" 0]) recoveredRun) := by
  have lossless : Along step Lossless (start "run-1" [ledgerEvent "e0" 0]) recoveredRun := by
    decide
  exact ⟨lossless, by decide, accepted_frames_kept "run-1" [ledgerEvent "e0" 0] recoveredRun lossless⟩

/-- A resync has read the store when the next frame arrives; the frame is APPENDED
and persisted, and the older snapshot then replaces the list without it. -/
theorem appended_frame_discarded :
    ¬ ∀ (runId : String) (durable : List ProjectionEvent) (actions : List Action),
      FramesSafe (run step (start runId durable) actions) := by
  intro claim
  have safe := claim "run-1" [ledgerEvent "e0" 0]
    [.startBootstrap, .read 0, .complete 0, .startResync, .read 0,
      .frame (broadcast (ledgerEvent "e1" 1)), .persist (ledgerEvent "e1" 1), .complete 0]
  revert safe
  decide

end DwSuperApps.Guarantees.LiveFrames
