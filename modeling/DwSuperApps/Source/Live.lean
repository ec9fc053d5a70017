import Mathlib.Data.List.Sort
import DwSuperApps.Lib.Runs

/-!
# Read-only live projection client

`projects/dw-observation/lib/live.ts`. A method that awaits the durable store is
split at its await points: `bootstrap` and `resync` are a load that starts, reads
a snapshot of the durable store some time later, and completes (or fails) later
still. `reconnectResync` awaits `resync`, so its promotion is one more step. The
environment of the client (`World`) holds the durable store and the loads in
flight; an action is one synchronous piece of the client or one environment move.

Sequences and ordinals are the exact integers of the wire format. `onChange` and
the forwarded status listener only observe and are left out.
-/
namespace DwSuperApps.Source.Live

inductive LiveState where
  | unavailable | live | catchingUp | degraded | projectionUnavailable
  deriving DecidableEq

/-- Fields of a projection event the client reads. An absent source identity is
the empty string: the client only tests it for truthiness. -/
structure ProjectionEvent where
  runId : Option String
  sourceSystem : String
  sourceEventId : String
  sequence : Option Int := none
  projectionOrdinal : Option Int := none
  deriving DecidableEq

inductive AnomalyKind where
  | duplicate | outOfOrder | stale | gap
  deriving DecidableEq

structure LiveAnomaly where
  kind : AnomalyKind
  atIndex : Nat
  sourceSystem : String
  sourceEventId : String
  message : String
  deriving DecidableEq

inductive ReceiveKind where
  | appended | duplicate | gap | stale | rejected | buffered
  deriving DecidableEq

/-- The `event` field of a broadcast message. -/
inductive EventField where
  | absent
  | name (value : String)
  | object (event : ProjectionEvent)
  deriving DecidableEq

/-- A transport message, read through the fields `normalizeEnvelope` inspects.
`self` is the message itself taken as a bare event. -/
inductive Message where
  | notObject
  | object (type : Option String) (event : EventField) (payload : Option ProjectionEvent)
      (self : ProjectionEvent)
  deriving DecidableEq

/-- Names a plain JavaScript object inherits from `Object.prototype`. -/
def prototypeMembers : List String :=
  ["constructor", "__defineGetter__", "__defineSetter__", "hasOwnProperty", "__lookupGetter__",
    "__lookupSetter__", "isPrototypeOf", "propertyIsEnumerable", "toString", "valueOf",
    "__proto__", "toLocaleString"]

/-- `Record<string, number>` of per-source high-water marks. -/
abbrev HighWater := String → Option Int

/-- `highWater[src] ?? -1`. An inherited member is not a number: every
comparison with it is a comparison with NaN, written `none`. -/
def HighWater.read (highWater : HighWater) (src : String) : Option Int :=
  if src ∈ prototypeMembers then none else some ((highWater src).getD (-1))

/-- `highWater[src] = Math.max(old, seq)`, where the maximum with NaN is NaN. -/
def HighWater.advance (highWater : HighWater) (src : String) (seq : Int) : HighWater :=
  match highWater.read src with
  | none => highWater
  | some hw => Function.update highWater src (some (max hw seq))

def highWaterOf (events : List ProjectionEvent) : HighWater :=
  events.foldl (fun hw e => hw.advance e.sourceSystem (e.sequence.getD (-1))) (fun _ => none)

/-- Comparator of `globalDurableOrder`: by ordinal, ordinals before events
without one, otherwise input order. -/
def durableLe (a b : ProjectionEvent) : Prop :=
  match a.projectionOrdinal, b.projectionOrdinal with
  | some oa, some ob => oa ≤ ob
  | none, some _ => False
  | _, none => True

instance : DecidableRel durableLe := fun a b => by
  unfold durableLe
  split <;> infer_instance

/-- The stable sort of the durable order. -/
def globalDurableOrder (events : List ProjectionEvent) : List ProjectionEvent :=
  events.insertionSort durableLe

structure LiveProjectionClient where
  runId : String
  state : LiveState := .unavailable
  events : List ProjectionEvent := []
  highWater : HighWater := fun _ => none
  anomalies : List LiveAnomaly := []
  lastError : Option String := none
  durableReady : Bool := false
  transportReady : Bool := false
  hasConnected : Bool := false
  bootstrapped : Bool := false
  preBootstrapBuffer : List Message := []

namespace LiveProjectionClient

def recomputeState (c : LiveProjectionClient) : LiveProjectionClient :=
  if c.events = [] then
    { c with state := if c.durableReady then .projectionUnavailable else .unavailable }
  else if c.durableReady && c.transportReady then { c with state := .live }
  else if c.durableReady && !c.transportReady then { c with state := .projectionUnavailable }
  else { c with state := .catchingUp }

/-- Broadcast envelope, then the inline `event` object, then the bare event. -/
def normalizeEnvelope : Message → Option ProjectionEvent
  | .notObject => none
  | .object type event payload self =>
    match (type = some "broadcast" ∨ type = none : Bool), event, payload with
    | true, .name "projection_event", some evt => some evt
    | _, .object evt, _ =>
      if evt.sourceSystem ≠ "" then some evt
      else if self.sourceSystem ≠ "" then some self else none
    | _, _, _ => if self.sourceSystem ≠ "" then some self else none

/-- Result of one frame: the client, the result kind, and whether a resync was
started (`void this.resync()`). -/
structure Received where
  client : LiveProjectionClient
  kind : ReceiveKind
  resync : Bool := false

def holds (c : LiveProjectionClient) (evt : ProjectionEvent) : Bool :=
  c.events.any fun e => e.sourceSystem == evt.sourceSystem && e.sourceEventId == evt.sourceEventId

/-- A frame that is neither rejected nor a duplicate and carries a sequence. -/
def receiveSequenced (c : LiveProjectionClient) (evt : ProjectionEvent) (seq : Int) : Received :=
  let src := evt.sourceSystem
  let hw := c.highWater.read src
  match hw with
  | some mark =>
    let expected := mark + 1
    if mark ≥ 0 ∧ seq > expected then
      let anomaly : LiveAnomaly := {
        kind := .gap, atIndex := c.events.length, sourceSystem := src
        sourceEventId := evt.sourceEventId
        message := s!"live sequence gap at ({src}): seq={seq} expected next {expected}; awaiting historical catch-up" }
      { client := { c with anomalies := c.anomalies ++ [anomaly], state := .catchingUp }
        kind := .gap, resync := true }
    else
      let applied := { recomputeState { c with
        events := globalDurableOrder (c.events ++ [evt])
        highWater := c.highWater.advance src seq } with lastError := none }
      if seq < mark ∧ mark ≥ 0 then
        let anomaly : LiveAnomaly := {
          kind := .stale, atIndex := c.events.length, sourceSystem := src
          sourceEventId := evt.sourceEventId
          message := s!"stale live event at ({src}): seq={seq} behind high-water {mark}" }
        { client := { applied with anomalies := applied.anomalies ++ [anomaly] }, kind := .stale }
      else { client := applied, kind := .appended }
  | none =>
    { client := { recomputeState { c with
        events := globalDurableOrder (c.events ++ [evt])
        highWater := c.highWater.advance src seq } with lastError := none }
      kind := .appended }

def receiveLive (c : LiveProjectionClient) (message : Message) : Received :=
  if !c.bootstrapped then
    { client := { c with preBootstrapBuffer := c.preBootstrapBuffer ++ [message] }, kind := .buffered }
  else
    match normalizeEnvelope message with
    | none =>
      { client := { c with lastError := some "live frame missing valid envelope" }, kind := .rejected }
    | some evt =>
      if evt.sourceSystem = "" ∨ evt.sourceEventId = "" then
        { client := { c with lastError := some "invalid live envelope (missing source identity)" }
          kind := .rejected }
      else if evt.runId ≠ some c.runId then { client := c, kind := .rejected }
      else if c.holds evt then { client := c, kind := .duplicate }
      else
        match evt.sequence with
        | none =>
          -- no source sequence: observation record at the end, outside the ordinal order
          { client := { recomputeState { c with events := c.events ++ [evt] } with lastError := none }
            kind := .appended }
        | some seq => receiveSequenced c evt seq

/-- `for (const frame of buffered) this.receiveLive(frame)`, counting the
resyncs the replayed frames start. -/
def replayBuffered (c : LiveProjectionClient) : List Message → LiveProjectionClient × Nat
  | [] => (c, 0)
  | frame :: rest =>
    let r := receiveLive c frame
    let (final, started) := replayBuffered r.client rest
    (final, (if r.resync then 1 else 0) + started)

def emptyStoreError (events : List ProjectionEvent) : Option String :=
  if events = [] then some "historical store empty or read denied" else none

/-- `bootstrap` after its await. -/
def bootstrapLoaded (c : LiveProjectionClient) (loaded : List ProjectionEvent) :
    LiveProjectionClient × Nat :=
  let events := globalDurableOrder loaded
  let buffered := c.preBootstrapBuffer
  let ready := recomputeState { c with
    events := events, highWater := highWaterOf events
    durableReady := true, bootstrapped := true, preBootstrapBuffer := [] }
  replayBuffered { ready with lastError := emptyStoreError events } buffered

/-- `resync` after its await, on a successful load. -/
def resyncLoaded (c : LiveProjectionClient) (fresh : List ProjectionEvent) :
    LiveProjectionClient × Nat :=
  let events := globalDurableOrder fresh
  let buffered := c.preBootstrapBuffer
  let ready := recomputeState { c with
    events := events, highWater := highWaterOf events
    durableReady := true, preBootstrapBuffer := [] }
  replayBuffered { ready with lastError := emptyStoreError events } buffered

/-- `resync` after its await, on a failed load. -/
def resyncFailed (c : LiveProjectionClient) (err : String) : LiveProjectionClient :=
  { c with
    state := if c.events = [] then .unavailable else .projectionUnavailable
    lastError := some s!"durable store unreachable during resync: {err}" }

/-- `String(rawStatus).toUpperCase()`; transport statuses are ASCII. -/
def normalizeStatus (rawStatus : String) : String :=
  String.ofList (rawStatus.toList.map Char.toUpper)

/-- `handleStatus` up to the point where a reconnect calls `reconnectResync`;
the Boolean says that it does. -/
def handleStatus (c : LiveProjectionClient) (rawStatus : String) : LiveProjectionClient × Bool :=
  let status := normalizeStatus rawStatus
  if status = "SUBSCRIBED" then
    if !c.hasConnected then
      (recomputeState { c with hasConnected := true, transportReady := true }, false)
    else
      ({ c with state := .catchingUp, transportReady := false, durableReady := false }, true)
  else if status = "CHANNEL_ERROR" ∨ status = "TIMED_OUT" ∨ status = "CLOSED" then
    (recomputeState { c with transportReady := false }, false)
  else (recomputeState c, false)

/-- `reconnectResync` after its await. -/
def reconnectResynced (c : LiveProjectionClient) (ok : Bool) : LiveProjectionClient :=
  if ok then recomputeState { c with transportReady := true }
  else { c with transportReady := false }

def markTransportDown (c : LiveProjectionClient) : LiveProjectionClient :=
  { recomputeState { c with transportReady := false } with
    lastError := some "realtime transport unavailable" }

end LiveProjectionClient

/-! ## What a frame does

`FrameEffect` lists the outcomes of one frame once; every invariant below is
proved from it. -/

namespace LiveProjectionClient

/-- The event of a frame that is valid for the run. -/
def frameEvent (runId : String) (message : Message) : Option ProjectionEvent :=
  (normalizeEnvelope message).filter fun evt =>
    evt.sourceSystem ≠ "" ∧ evt.sourceEventId ≠ "" ∧ evt.runId = some runId

/-- The event's sequence jumps past the next expected one of its source. -/
def gapAhead (c : LiveProjectionClient) (evt : ProjectionEvent) : Bool :=
  match evt.sequence, c.highWater.read evt.sourceSystem with
  | some seq, some mark => mark ≥ 0 ∧ seq > mark + 1
  | _, _ => false

@[simp] theorem recomputeState_events (c : LiveProjectionClient) :
    c.recomputeState.events = c.events := by
  unfold recomputeState; split_ifs <;> rfl

@[simp] theorem recomputeState_runId (c : LiveProjectionClient) :
    c.recomputeState.runId = c.runId := by
  unfold recomputeState; split_ifs <;> rfl

@[simp] theorem recomputeState_durableReady (c : LiveProjectionClient) :
    c.recomputeState.durableReady = c.durableReady := by
  unfold recomputeState; split_ifs <;> rfl

@[simp] theorem recomputeState_transportReady (c : LiveProjectionClient) :
    c.recomputeState.transportReady = c.transportReady := by
  unfold recomputeState; split_ifs <;> rfl

@[simp] theorem recomputeState_hasConnected (c : LiveProjectionClient) :
    c.recomputeState.hasConnected = c.hasConnected := by
  unfold recomputeState; split_ifs <;> rfl

@[simp] theorem recomputeState_bootstrapped (c : LiveProjectionClient) :
    c.recomputeState.bootstrapped = c.bootstrapped := by
  unfold recomputeState; split_ifs <;> rfl

@[simp] theorem recomputeState_preBootstrapBuffer (c : LiveProjectionClient) :
    c.recomputeState.preBootstrapBuffer = c.preBootstrapBuffer := by
  unfold recomputeState; split_ifs <;> rfl

/-- The latch: LIVE needs an event, durable history and the transport. -/
@[simp] theorem recomputeState_live (c : LiveProjectionClient) :
    c.recomputeState.state = .live ↔
      c.events ≠ [] ∧ c.durableReady = true ∧ c.transportReady = true := by
  unfold recomputeState
  split_ifs with hempty <;> simp_all

inductive FrameEffect (c : LiveProjectionClient) (message : Message) : Received → Prop
  | buffered (waiting : c.bootstrapped = false) :
      FrameEffect c message
        { client := { c with preBootstrapBuffer := c.preBootstrapBuffer ++ [message] }
          kind := .buffered }
  | rejected (ready : c.bootstrapped = true) (unnamed : frameEvent c.runId message = none)
      (err : Option String) :
      FrameEffect c message { client := { c with lastError := err }, kind := .rejected }
  | duplicate (ready : c.bootstrapped = true) (evt : ProjectionEvent)
      (named : frameEvent c.runId message = some evt) (held : c.holds evt = true) :
      FrameEffect c message { client := c, kind := .duplicate }
  | gap (ready : c.bootstrapped = true) (evt : ProjectionEvent)
      (named : frameEvent c.runId message = some evt) (fresh : c.holds evt = false)
      (ahead : c.gapAhead evt = true) (anomalies : List LiveAnomaly) :
      FrameEffect c message
        { client := { c with anomalies := anomalies, state := .catchingUp }
          kind := .gap, resync := true }
  | applied (ready : c.bootstrapped = true) (evt : ProjectionEvent)
      (named : frameEvent c.runId message = some evt) (fresh : c.holds evt = false)
      (near : c.gapAhead evt = false) (events : List ProjectionEvent)
      (kept : events.Perm (c.events ++ [evt])) (highWater : HighWater)
      (anomalies : List LiveAnomaly) (kind : ReceiveKind)
      (kindIs : kind = .appended ∨ kind = .stale) :
      FrameEffect c message
        { client := { recomputeState { c with events := events, highWater := highWater } with
            lastError := none, anomalies := anomalies }
          kind := kind }

theorem globalDurableOrder_perm (events : List ProjectionEvent) :
    (globalDurableOrder events).Perm events :=
  List.perm_insertionSort durableLe events

theorem mem_globalDurableOrder {e : ProjectionEvent} {events : List ProjectionEvent} :
    e ∈ globalDurableOrder events ↔ e ∈ events :=
  (globalDurableOrder_perm events).mem_iff

theorem receiveSequenced_effect (c : LiveProjectionClient) (message : Message)
    (evt : ProjectionEvent) (seq : Int) (ready : c.bootstrapped = true)
    (named : frameEvent c.runId message = some evt) (fresh : c.holds evt = false)
    (sequenced : evt.sequence = some seq) :
    FrameEffect c message (receiveSequenced c evt seq) := by
  have kept := globalDurableOrder_perm (c.events ++ [evt])
  unfold receiveSequenced
  dsimp only
  split
  next mark hmark =>
    split_ifs with hgap hstale
    · exact .gap ready evt named fresh (by simp [gapAhead, sequenced, hmark, hgap]) _
    all_goals
      have near : c.gapAhead evt = false := by
        simpa [gapAhead, sequenced, hmark] using hgap
    · exact .applied ready evt named fresh near _ kept _ _ _ (Or.inr rfl)
    · exact .applied ready evt named fresh near _ kept _ _ _ (Or.inl rfl)
  next hmark =>
    have near : c.gapAhead evt = false := by simp [gapAhead, sequenced, hmark]
    exact .applied ready evt named fresh near _ kept _ _ _ (Or.inl rfl)

theorem frameEvent_eq_some {runId : String} {message : Message} {evt : ProjectionEvent} :
    frameEvent runId message = some evt ↔
      normalizeEnvelope message = some evt ∧
        evt.sourceSystem ≠ "" ∧ evt.sourceEventId ≠ "" ∧ evt.runId = some runId := by
  simp only [frameEvent, Option.filter_eq_some_iff, decide_eq_true_eq]

/-- Everything one frame can do. -/
theorem receiveLive_effect (c : LiveProjectionClient) (message : Message) :
    FrameEffect c message (receiveLive c message) := by
  unfold receiveLive
  by_cases ready : c.bootstrapped = true
  · rw [if_neg (by simp [ready])]
    cases henv : normalizeEnvelope message with
    | none =>
      have unnamed : frameEvent c.runId message = none := by simp [frameEvent, henv]
      exact .rejected ready unnamed _
    | some evt =>
      dsimp only
      split_ifs with hidentity hrun hheld
      · have unnamed : frameEvent c.runId message = none := by
          simp only [frameEvent, henv, Option.filter]
          simp only [ne_eq, decide_eq_true_eq, ite_eq_right_iff]
          tauto
        exact .rejected ready unnamed _
      · exact .rejected ready (by simp [frameEvent, henv, Option.filter, hrun]) c.lastError
      all_goals
        have named : frameEvent c.runId message = some evt :=
          frameEvent_eq_some.mpr ⟨henv, by tauto, by tauto, by tauto⟩
      · exact .duplicate ready evt named hheld
      · have fresh : c.holds evt = false := by simpa using hheld
        cases hseq : evt.sequence with
        | none =>
          have near : c.gapAhead evt = false := by simp [gapAhead, hseq]
          exact .applied ready evt named fresh near _ (List.Perm.refl _) c.highWater _ _ (Or.inl rfl)
        | some seq => exact receiveSequenced_effect c message evt seq ready named fresh hseq
  · have waiting : c.bootstrapped = false := by simpa using ready
    rw [if_pos (by simp [waiting])]
    exact .buffered waiting

/-- The client after a load, before the buffered frames are replayed. -/
def loadedClient (c : LiveProjectionClient) (bootstrapped : Bool) (events : List ProjectionEvent) :
    LiveProjectionClient :=
  let ordered := globalDurableOrder events
  { recomputeState { c with
      events := ordered, highWater := highWaterOf ordered
      durableReady := true, bootstrapped := bootstrapped, preBootstrapBuffer := [] } with
    lastError := emptyStoreError ordered }

theorem bootstrapLoaded_eq (c : LiveProjectionClient) (loaded : List ProjectionEvent) :
    c.bootstrapLoaded loaded = replayBuffered (loadedClient c true loaded) c.preBootstrapBuffer :=
  rfl

theorem resyncLoaded_eq (c : LiveProjectionClient) (fresh : List ProjectionEvent) :
    c.resyncLoaded fresh =
      replayBuffered (loadedClient c c.bootstrapped fresh) c.preBootstrapBuffer := rfl

end LiveProjectionClient

inductive LoadKind where
  | bootstrap | resync | reconnect
  deriving DecidableEq

/-- An asynchronous call of the client that has not finished. -/
inductive Call where
  /-- Awaiting `store.loadAll`; the snapshot is there once the store was read. -/
  | loading (kind : LoadKind) (snapshot : Option (List ProjectionEvent))
  /-- `reconnectResync` whose inner `resync` returned `ok`. -/
  | promoting (ok : Bool)
  deriving DecidableEq

/-- The client, the durable store and the calls in flight. -/
structure World where
  client : LiveProjectionClient
  durable : List ProjectionEvent := []
  pending : List Call := []

inductive Action where
  | persist (event : ProjectionEvent)
  | startBootstrap
  | startResync
  | read (i : Nat)
  | complete (i : Nat)
  | fail (i : Nat) (err : String)
  | promote (i : Nat)
  | frame (message : Message)
  | status (rawStatus : String)
  | transportDown
  deriving DecidableEq

namespace World

def startCall (w : World) (kind : LoadKind) : World :=
  { w with pending := w.pending ++ [.loading kind none] }

/-- The client after a synchronous piece, with the resyncs it started. -/
def settle (w : World) (pending : List Call) (result : LiveProjectionClient × Nat) : World :=
  { w with
    client := result.1
    pending := pending ++ List.replicate result.2 (.loading .resync none) }

/-- The `i`-th call reads the durable store as it is now. -/
def readStore (w : World) (i : Nat) : World :=
  match w.pending[i]? with
  | some (.loading kind none) =>
    { w with pending := w.pending.set i (.loading kind (some w.durable)) }
  | _ => w

def complete (w : World) (i : Nat) : World :=
  match w.pending[i]? with
  | some (.loading .bootstrap (some loaded)) =>
    w.settle (w.pending.eraseIdx i) (w.client.bootstrapLoaded loaded)
  | some (.loading .resync (some fresh)) =>
    w.settle (w.pending.eraseIdx i) (w.client.resyncLoaded fresh)
  | some (.loading .reconnect (some fresh)) =>
    w.settle (w.pending.set i (.promoting true)) (w.client.resyncLoaded fresh)
  | _ => w

/-- `store.loadAll` rejects. `bootstrap` has no handler, so its caller gets the
error and the client is untouched. -/
def fail (w : World) (i : Nat) (err : String) : World :=
  match w.pending[i]? with
  | some (.loading .bootstrap _) => { w with pending := w.pending.eraseIdx i }
  | some (.loading .resync _) =>
    { w with client := w.client.resyncFailed err, pending := w.pending.eraseIdx i }
  | some (.loading .reconnect _) =>
    { w with client := w.client.resyncFailed err, pending := w.pending.set i (.promoting false) }
  | _ => w

def promote (w : World) (i : Nat) : World :=
  match w.pending[i]? with
  | some (.promoting ok) =>
    { w with client := w.client.reconnectResynced ok, pending := w.pending.eraseIdx i }
  | _ => w

def step (w : World) : Action → World
  | .persist event => { w with durable := w.durable ++ [event] }
  | .startBootstrap => w.startCall .bootstrap
  | .startResync => w.startCall .resync
  | .read i => w.readStore i
  | .complete i => w.complete i
  | .fail i err => w.fail i err
  | .promote i => w.promote i
  | .frame message =>
    let r := w.client.receiveLive message
    w.settle w.pending (r.client, if r.resync then 1 else 0)
  | .status rawStatus =>
    let (client, reconnect) := w.client.handleStatus rawStatus
    if reconnect then { w with client := client }.startCall .reconnect
    else { w with client := client }
  | .transportDown => { w with client := w.client.markTransportDown }

/-- A client as its constructor leaves it, over a durable store. -/
def initial (runId : String) (durable : List ProjectionEvent) : World :=
  { client := { runId := runId }, durable := durable }

end World

end DwSuperApps.Source.Live
