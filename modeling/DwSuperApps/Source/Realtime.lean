import DwSuperApps.Lib.Dict
import DwSuperApps.Source.Reducer

/-!
# Live projection observer

`projects/dw-observation/dw_observation/realtime.py`: `Observer` seeds its
projection from the durable store, applies live frames to it and re-reads the
store on a resync. What `load_all` returns or raises is an input of the step. The
anomaly list of the projection grows outside the reducer: a withheld frame appends
its GAP to it.
-/
namespace DwSuperApps.Source.Realtime

open DwSuperApps.Lib
open DwSuperApps.Source.Reducer

/-- `RunProjectionEvent.from_dict`: the event of a payload, or the text of what is
raised. -/
class EventDecoding where
  fromDict : List (String × Json) → Except String RunProjectionEvent

inductive LiveState where
  | unavailable | live | catchingUp | degraded | projectionUnavailable
  deriving DecidableEq

inductive ReceiveKind where
  | appended | duplicate | gap | stale | rejected
  deriving DecidableEq

structure ReceiveResult where
  kind : ReceiveKind
  anomaly : Option Anomaly := none
  appended : Bool := false
  deriving DecidableEq

structure ResyncReport where
  ok : Bool
  state : LiveState
  highWaterBefore : Dict String Int := {}
  highWaterAfter : Dict String Int := {}
  anomalies : List Anomaly := []
  error : Option String := none

/-- `_high_water`: the greatest sequence of each source system. -/
def highWaterOf (proj : Projection) : Dict String Int :=
  proj.events.foldl (fun hw e =>
    hw.set e.sourceSystem (max ((hw.get? e.sourceSystem).getD (-1)) e.sequence)) {}

structure Observer where
  runId : String
  projection : Option Projection := none
  highWater : Dict String Int := {}
  state : LiveState := .unavailable
  lastError : Option String := none

namespace Observer

/-- The state after a durable stream was loaded. -/
def seeded (o : Observer) (events : List RunProjectionEvent) : Observer :=
  let proj := reduce events
  { o with
    projection := some proj
    highWater := highWaterOf proj
    state := .live
    lastError := none }

/-- `bootstrap`: what it returns or raises and the observer it leaves. -/
def bootstrap (o : Observer) (loaded : Except String (List RunProjectionEvent)) :
    Except String Projection × Observer :=
  match loaded with
  | .error ex => (.error ex, o)
  | .ok events => (.ok (reduce events), o.seeded events)

def resync (o : Observer) (loaded : Except String (List RunProjectionEvent)) :
    ResyncReport × Observer :=
  match loaded with
  | .error ex =>
    let state := if o.projection.isSome then .projectionUnavailable else .unavailable
    let error := s!"durable store unreachable during resync: {ex}"
    ({ ok := false, state := state, highWaterBefore := o.highWater, highWaterAfter := o.highWater
       error := some error },
      { o with state := state, lastError := some error })
  | .ok fresh =>
    let after := o.seeded fresh
    ({ ok := true, state := after.state, highWaterBefore := o.highWater
       highWaterAfter := after.highWater, anomalies := (reduce fresh).anomalies }, after)

/-- The payload of a frame: under `payload` where `event` is a string or `payload`
an object, else the message itself. -/
def payloadOf (message : Json) : Option (List (String × Json)) :=
  match message with
  | .obj members =>
    match Json.get members "event", Json.get members "payload" with
    | .str _, .obj payload => some payload
    | .str _, _ => none
    | _, .obj payload => some payload
    | _, _ => some members
  | _ => none

/-- The source identity of the event is in the projection already. -/
def isDuplicate (proj : Projection) (evt : RunProjectionEvent) : Prop :=
  ∃ e ∈ proj.events, e.sourceSystem = evt.sourceSystem ∧ e.sourceEventId = evt.sourceEventId

instance (proj : Projection) (evt : RunProjectionEvent) : Decidable (isDuplicate proj evt) := by
  unfold isDuplicate; infer_instance

/-- The sequence that comes next in the source of the event. -/
def expectedNext (o : Observer) (evt : RunProjectionEvent) : Int :=
  (o.highWater.get? evt.sourceSystem).getD (-1) + 1

/-- The anomaly of a frame that is withheld. -/
def gapAnomaly (o : Observer) (proj : Projection) (evt : RunProjectionEvent) : Anomaly where
  kind := .gap
  atIndex := proj.events.length
  sourceSystem := evt.sourceSystem
  sourceEventId := evt.sourceEventId
  message := s!"live sequence gap at ({evt.sourceSystem}): seq={evt.sequence} expected next {o.expectedNext evt}; awaiting historical catch-up"

/-- A frame that jumps ahead: only its anomaly is kept. -/
def withhold (o : Observer) (proj : Projection) (evt : RunProjectionEvent) :
    ReceiveResult × Observer :=
  let a := o.gapAnomaly proj evt
  ({ kind := .gap, anomaly := some a },
    { o with
      projection := some { proj with anomalies := proj.anomalies ++ [a] }
      state := .catchingUp })

/-- A frame that is applied: the projection is derived again, and its anomalies
after the first `before` are taken for those of the frame. -/
def apply (o : Observer) (proj : Projection) (evt : RunProjectionEvent) :
    ReceiveResult × Observer :=
  let before := proj.anomalies.length
  let derived := reduce (proj.events ++ [evt])
  let after : Observer := { o with
    projection := some derived
    highWater := o.highWater.set evt.sourceSystem
      (max ((o.highWater.get? evt.sourceSystem).getD (-1)) evt.sequence)
    state := .live
    lastError := none }
  match (derived.anomalies.drop before).find? fun a => a.kind = .stale with
  | some stale => ({ kind := .stale, anomaly := some stale }, after)
  | none => ({ kind := .appended, appended := true }, after)

/-- A decoded frame. -/
def receiveEvent (o : Observer) (proj : Projection) (evt : RunProjectionEvent) :
    ReceiveResult × Observer :=
  if evt.runId ≠ o.runId then ({ kind := .rejected }, o)
  else if isDuplicate proj evt then ({ kind := .duplicate }, o)
  else if o.expectedNext evt < evt.sequence then o.withhold proj evt
  else o.apply proj evt

/-- `receive_live`. -/
def receiveLive [EventDecoding] (o : Observer) (message : Json) : ReceiveResult × Observer :=
  match o.projection with
  | none => ({ kind := .rejected }, { o with state := .unavailable })
  | some proj =>
    match payloadOf message with
    | none =>
      ({ kind := .rejected }, { o with lastError := some "live frame missing valid envelope" })
    | some payload =>
      match EventDecoding.fromDict payload with
      | .error ex =>
        ({ kind := .rejected }, { o with lastError := some s!"invalid live envelope: {ex}" })
      | .ok evt => o.receiveEvent proj evt

end Observer

/-! ## Runs -/

/-- A frame arrives, or the observer reads the durable store again. -/
inductive ObserverAction where
  | receiveLive (message : Json)
  | resync (loaded : Except String (List RunProjectionEvent))

namespace Observer

def step [EventDecoding] (o : Observer) : ObserverAction → Observer
  | .receiveLive message => (o.receiveLive message).2
  | .resync loaded => (o.resync loaded).2

/-- The observer of a run after its bootstrap. -/
def started (runId : String) (loaded : Except String (List RunProjectionEvent)) : Observer :=
  (({ runId } : Observer).bootstrap loaded).2

end Observer
end DwSuperApps.Source.Realtime
