import DwSuperApps.Lib.Json
import DwSuperApps.Source.Live

/-!
# Browser-side replay reducer

`projects/dw-observation/lib/replay.ts`: `reduceEvents` and `applyEvent` over
parsed JSON objects. A JavaScript number read from JSON is the integer rounded to
the nearest double. A lookup in a plain object literal finds the members
inherited from `Object.prototype`. Source systems that name such a member, and
sequences that are not integers, are not in the vocabulary of the events and are
not modelled.
-/
namespace DwSuperApps.Source.Replay

open DwSuperApps.Lib
open DwSuperApps.Source.Live (prototypeMembers AnomalyKind LiveAnomaly)

def UNKNOWN : String := "—"

/-! ## JavaScript numbers and strings -/

/-- `Number.MAX_SAFE_INTEGER`. -/
def maxSafeInteger : Nat := 2 ^ 53 - 1

/-- Stands for `Infinity`, which the doubles reach at this threshold. -/
def infinity : Nat := 2 ^ 1024

/-- Round to the nearest double, ties to even. -/
def toDouble (n : Nat) : Nat :=
  if n ≤ maxSafeInteger then n
  else
    let e := n.log2 - 52
    let q := n / 2 ^ e
    let r := n % 2 ^ e
    let up := 2 * r > 2 ^ e ∨ 2 * r = 2 ^ e ∧ q % 2 = 1
    min ((if up then q + 1 else q) * 2 ^ e) infinity

/-- The number of an integer literal. -/
def toNumber (n : Int) : Int :=
  if n < 0 then -(toDouble n.natAbs) else toDouble n.natAbs

/-- UTF-16 code units of a character. -/
def codeUnits (c : Char) : List Nat :=
  if c.toNat < 0x10000 then [c.toNat]
  else
    let v := c.toNat - 0x10000
    [0xD800 + v / 0x400, 0xDC00 + v % 0x400]

/-- String `<`: lexicographic on code units. -/
def stringLt (a b : String) : Prop :=
  a.toList.flatMap codeUnits < b.toList.flatMap codeUnits

instance (a b : String) : Decidable (stringLt a b) := by
  unfold stringLt; infer_instance

/-! ## Records -/

/-- A parsed event object. -/
abbrev ProjectionEvent := List (String × Json)

structure ReplayNodeState where
  node : String
  status : String := "pending"
  lastEventSeq : Int := -1
  deriving DecidableEq

/-- `status` is `none` when the property holds `undefined`. -/
structure ReplayGateState where
  gate : String
  status : Option String := some "none"
  approvedBy : String := UNKNOWN
  releasedBy : String := UNKNOWN
  failedBy : String := UNKNOWN
  authorityRef : String := UNKNOWN
  lastEventSeq : Int := -1
  deriving DecidableEq

/-- `nodes` and `gates` are the own properties of the two records. -/
structure ReplayProjection where
  runId : Option String := none
  startedAt : Option String := none
  lastEventAt : Option String := none
  events : List ProjectionEvent := []
  nodes : String → Option ReplayNodeState := fun _ => none
  gates : String → Option ReplayGateState := fun _ => none
  anomalies : List LiveAnomaly := []

/-! ## Reading an event -/

/-- A non-empty string, or the fallback. -/
def str (v : Option Json) (fallback : String := "") : String :=
  match v with
  | some (.str s) => if s ≠ "" then s else fallback
  | _ => fallback

/-- `typeof v === "string" ? v : null`. -/
def stringOrNull : Option Json → Option String
  | some (.str s) => some s
  | _ => none

/-- `typeof v === "number" ? v : null`. -/
def numberOrNull : Option Json → Option Int
  | some (.int n) => some (toNumber n)
  | _ => none

/-- `typeof v === "string" && v.length > 0`. -/
def runIdOf (e : ProjectionEvent) : Option String :=
  (stringOrNull (Json.member e "run_id")).filter (· ≠ "")

def actorLabel : Option Json → String
  | some (.str s) => if s ≠ "" then s else UNKNOWN
  | some (.obj actor) =>
    let parts := [str (Json.member actor "kind"), str (Json.member actor "id")].filter (· ≠ "")
    if parts ≠ [] then ":".intercalate parts else UNKNOWN
  | _ => UNKNOWN

/-- `after ? str(after.status) : ""`. -/
def afterStatus : Option Json → String
  | some (.obj after) => str (Json.member after "status")
  | _ => ""

/-! ## State advance -/

/-- `keyof ReplayGateState` a transition writes the actor to; `undefined` for a
transition that is not one. -/
inductive ActorField where
  | approvedBy | releasedBy | failedBy | undefined
  deriving DecidableEq

structure GateTransition where
  status : Option String
  actorField : ActorField
  deriving DecidableEq

/-- `GATE_TRANSITIONS[eventType]`: an inherited member has neither field. -/
def gateTransitions (eventType : String) : Option GateTransition :=
  if eventType = "gate_passed" then some ⟨some "passed", .approvedBy⟩
  else if eventType = "gate_approved" then some ⟨some "approved", .approvedBy⟩
  else if eventType = "gate_released" then some ⟨some "released", .releasedBy⟩
  else if eventType = "gate_failed" then some ⟨some "failed", .failedBy⟩
  else if eventType ∈ prototypeMembers then some ⟨none, .undefined⟩
  else none

/-- `g[actorField] = actor`. -/
def ReplayGateState.credit (g : ReplayGateState) (actor : String) :
    ActorField → ReplayGateState
  | .approvedBy => { g with approvedBy := actor }
  | .releasedBy => { g with releasedBy := actor }
  | .failedBy => { g with failedBy := actor }
  | .undefined => g

def gateOf (proj : ReplayProjection) (gate : String) : ReplayGateState :=
  (proj.gates gate).getD { gate := gate }

def nodeOf (proj : ReplayProjection) (nodeId : String) : ReplayNodeState :=
  (proj.nodes nodeId).getD { node := nodeId }

def applyGate (proj : ReplayProjection) (e : ProjectionEvent) (seq : Int)
    (transition : GateTransition) : ReplayProjection :=
  let gateName := str (Json.member e "gate")
  if gateName = "" then proj
  -- `proj.gates[gate]` is the inherited member: no own gate is made, and neither
  -- `undefined <= seq` nor `undefined === "none"` holds
  else if gateName ∈ prototypeMembers then proj
  else
    let g := gateOf proj gateName
    let g' := if g.lastEventSeq ≤ seq ∨ g.status = some "none" then
        { g.credit (actorLabel (Json.member e "actor")) transition.actorField with
          status := transition.status
          authorityRef := str (Json.member e "authority_ref") UNKNOWN
          lastEventSeq := seq }
      else g
    { proj with gates := Function.update proj.gates gateName (some g') }

def nodeEvents : List String := ["node_progress", "node_started", "node_completed"]

/-- `outcome || afterStatus || n.status`. -/
def nodeStatus (n : ReplayNodeState) (e : ProjectionEvent) : String :=
  let outcome := str (Json.member e "outcome")
  let after := afterStatus (Json.member e "after")
  if outcome ≠ "" then outcome else if after ≠ "" then after else n.status

def applyNode (proj : ReplayProjection) (e : ProjectionEvent) (seq : Int) : ReplayProjection :=
  let nodeId := str (Json.member e "node_id")
  if nodeId = "" then proj
  -- as for gates, `proj.nodes[nodeId]` is then the inherited member
  else if nodeId ∈ prototypeMembers then proj
  else
    let n := nodeOf proj nodeId
    let n' := if n.lastEventSeq ≤ seq ∨ n.status = "pending" then
        { n with status := nodeStatus n e, lastEventSeq := seq }
      else n
    { proj with nodes := Function.update proj.nodes nodeId (some n') }

def applyEvent (proj : ReplayProjection) (e : ProjectionEvent) (seq : Int) : ReplayProjection :=
  let eventType := str (Json.member e "event_type")
  if eventType = "run_started" then
    { proj with
      startedAt := stringOrNull (Json.member e "occurred_at")
      runId := (runIdOf e).orElse fun _ => proj.runId }
  else
    match gateTransitions eventType with
    | some transition => applyGate proj e seq transition
    | none => if eventType ∈ nodeEvents then applyNode proj e seq else proj

/-! ## Fold -/

/-- Locals of `reduceEvents`. -/
structure FoldState where
  proj : ReplayProjection := {}
  seen : List String := []
  hwSeq : String → Option Int := fun _ => none
  hwTime : String → Option String := fun _ => none
  idx : Nat := 0

def identity (src eid : String) : String := src ++ "\x00" ++ eid

def duplicateAnomalies (st : FoldState) (src eid : String) : List LiveAnomaly :=
  if identity src eid ∈ st.seen then
    [{ kind := .duplicate, atIndex := st.idx, sourceSystem := src, sourceEventId := eid
       message := s!"duplicate source identity ({src}, {eid}) at index {st.idx}" }]
  else []

/-- Anomalies of an event that carries a sequence. -/
def sequenceAnomalies (st : FoldState) (src eid : String) (occurredAt : Option String)
    (seq : Int) : List LiveAnomaly :=
  let curSeq := (st.hwSeq src).getD (-1)
  let anomaly (kind : AnomalyKind) (message : String) : LiveAnomaly :=
    { kind := kind, atIndex := st.idx, sourceSystem := src, sourceEventId := eid, message := message }
  (if st.idx > 0 ∧ curSeq ≥ 0 ∧ seq < curSeq then
    [anomaly .outOfOrder
      s!"source sequence regressed at index {st.idx} ({src}): seq={seq} < high-water seq={curSeq}"]
    else []) ++
  (match st.hwTime src, occurredAt with
    | some curTime, some occurred =>
      if stringLt occurred curTime ∨ occurred = curTime ∧ seq < curSeq then
        [anomaly .stale
          s!"stale event at index {st.idx} ({src}): (occurred_at={occurred}, seq={seq}) behind high-water (occurred_at={curTime}, seq={curSeq})"]
      else []
    | _, _ => []) ++
  (if st.idx > 0 ∧ curSeq ≥ 0 ∧ seq > curSeq ∧ seq ≠ toNumber (curSeq + 1) then
    [anomaly .gap s!"sequence gap at index {st.idx} ({src}): seq={seq}, prior max={curSeq}"]
    else [])

def advances (st : FoldState) (src : String) (occurredAt : Option String) (seq : Int) : Prop :=
  match st.hwTime src, occurredAt with
  | none, _ => True
  | some curTime, some occurred =>
    stringLt curTime occurred ∨ occurred = curTime ∧ seq > (st.hwSeq src).getD (-1)
  | some _, none => False

instance (st : FoldState) (src : String) (occurredAt : Option String) (seq : Int) :
    Decidable (advances st src occurredAt seq) := by
  unfold advances; split <;> infer_instance

/-- One iteration of the `forEach`. -/
def step (st : FoldState) (e : ProjectionEvent) : FoldState :=
  let src := str (Json.member e "source_system") UNKNOWN
  let eid := str (Json.member e "source_event_id") UNKNOWN
  let seq := numberOrNull (Json.member e "sequence")
  let occurredAt := stringOrNull (Json.member e "occurred_at")
  let sequenced := match seq with
    | some n => sequenceAnomalies st src eid occurredAt n
    | none => []
  let moved := match seq with
    | some n => if advances st src occurredAt n then some n else none
    | none => none
  let recorded : ReplayProjection := { st.proj with
    anomalies := st.proj.anomalies ++ (duplicateAnomalies st src eid ++ sequenced)
    events := st.proj.events ++ [e]
    runId := st.proj.runId.orElse fun _ => runIdOf e
    lastEventAt := occurredAt.orElse fun _ => st.proj.lastEventAt }
  { proj := applyEvent recorded e (seq.getD (-1))
    seen := if identity src eid ∈ st.seen then st.seen else identity src eid :: st.seen
    hwSeq := match moved with
      | some n => Function.update st.hwSeq src (some n)
      | none => st.hwSeq
    hwTime := match moved with
      | some _ => Function.update st.hwTime src occurredAt
      | none => st.hwTime
    idx := st.idx + 1 }

def reduceEvents (events : List ProjectionEvent) : ReplayProjection :=
  (events.foldl step {}).proj

end DwSuperApps.Source.Replay
