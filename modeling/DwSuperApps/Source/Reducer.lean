import Mathlib.Logic.Function.Basic
import DwSuperApps.Lib.Text

/-!
# Deterministic reducer over run projection events

`projects/dw-observation/dw_observation/{events,projection,reducer}.py`.
`RunProjectionEvent` is the frozen envelope after `__post_init__`: the checks are
fields, and `occurred_at` is the normalized UTC text. The locked constants
(`schema_version`, `projection_type`, `read_only_projection`) are only written
out by `toDict`. Dictionaries are functions from the key.
-/
namespace DwSuperApps.Source.Reducer

open DwSuperApps.Lib

/-- `str(value).strip()` is not empty. -/
def present (s : String) : Bool := s.toList.any fun c => !isSpace c

def knownSourceSystems : List String := ["taskcontroller", "gwc"]

/-- Characters of `strftime("%Y-%m-%dT%H:%M:%SZ")`. -/
def timestampChars : List Char := "0123456789-:TZ".toList

structure RunProjectionEvent where
  occurredAt : String
  runId : String
  sourceEventId : String
  sourceSystem : String
  sourceDigest : String
  sequence : Nat := 0
  gate : Option String := none
  nodeId : Option String := none
  parentEventId : Option String := none
  eventType : String
  outcome : Option String := none
  actor : Json := .null
  summary : String := ""
  before : Option (List (String × Json)) := none
  after : Option (List (String × Json)) := none
  evidenceRefs : List String := []
  authorityRef : Option String := none
  runIdPresent : present runId
  sourceEventIdPresent : present sourceEventId
  eventTypePresent : present eventType
  occurredAtPresent : present occurredAt
  sourceKnown : sourceSystem ∈ knownSourceSystems
  sourceDigestPresent : present sourceDigest
  occurredAtNormalized : ∀ c ∈ occurredAt.toList, c ∈ timestampChars

def objectOrNull : Option (List (String × Json)) → Json
  | none => .null
  | some members => .obj members

def RunProjectionEvent.toDict (e : RunProjectionEvent) : List (String × Json) :=
  [("schema_version", .str "1"),
    ("projection_type", .str "run_observatory"),
    ("run_id", .str e.runId),
    ("sequence", .int e.sequence),
    ("source_system", .str e.sourceSystem),
    ("source_event_id", .str e.sourceEventId),
    ("occurred_at", .str e.occurredAt),
    ("gate", .ofOption e.gate),
    ("node_id", .ofOption e.nodeId),
    ("parent_event_id", .ofOption e.parentEventId),
    ("event_type", .str e.eventType),
    ("outcome", .ofOption e.outcome),
    ("actor", e.actor),
    ("summary", .str e.summary),
    ("before", objectOrNull e.before),
    ("after", objectOrNull e.after),
    ("evidence_refs", .arr (e.evidenceRefs.map .str)),
    ("authority_ref", .ofOption e.authorityRef),
    ("source_digest", .str e.sourceDigest),
    ("read_only_projection", .bool true)]

inductive AnomalyKind where
  | duplicate | outOfOrder | stale | gap
  deriving DecidableEq

structure Anomaly where
  kind : AnomalyKind
  atIndex : Nat
  sourceSystem : String
  sourceEventId : String
  message : String
  deriving DecidableEq

structure NodeState where
  node : String
  status : String := "pending"
  lastEventSeq : Int := -1
  deriving DecidableEq

structure GateState where
  gate : String
  status : String := "none"
  approvedBy : Json := .null
  releasedBy : Json := .null
  failedBy : Json := .null
  authorityRef : Option String := none
  lastEventSeq : Int := -1
  deriving DecidableEq

structure Projection where
  runId : Option String := none
  events : List RunProjectionEvent := []
  nodes : String → Option NodeState := fun _ => none
  gates : String → Option GateState := fun _ => none
  anomalies : List Anomaly := []
  startedAt : Option String := none
  lastEventAt : Option String := none

/-! ## State advance -/

/-- An optional string that is neither absent nor empty. -/
def truthy (s : Option String) : Option String := s.filter (· ≠ "")

def nodeEvents : List String := ["node_progress", "node_started", "node_completed"]

def nodeOf (proj : Projection) (id : String) : NodeState :=
  (proj.nodes id).getD { node := id }

def gateOf (proj : Projection) (gate : String) : GateState :=
  (proj.gates gate).getD { gate := gate }

/-- Monotone rule: an event behind the recorded one only fills an untouched entry. -/
def NodeState.takes (n : NodeState) (sequence : Nat) : Prop :=
  n.lastEventSeq ≤ sequence ∨ n.status = "pending"

def GateState.takes (g : GateState) (sequence : Nat) : Prop :=
  g.lastEventSeq ≤ sequence ∨ g.status = "none"

instance (n : NodeState) (sequence : Nat) : Decidable (n.takes sequence) := by
  unfold NodeState.takes; infer_instance

instance (g : GateState) (sequence : Nat) : Decidable (g.takes sequence) := by
  unfold GateState.takes; infer_instance

/-- `str(e.outcome or (e.after or {}).get("status", n.status))`. -/
def nodeStatus (n : NodeState) (e : RunProjectionEvent) : String :=
  match truthy e.outcome with
  | some outcome => outcome
  | none =>
    match e.after.bind (Json.member · "status") with
    | some status => status.pyStr
    | none => n.status

def applyNode (proj : Projection) (e : RunProjectionEvent) : Projection :=
  match truthy e.nodeId with
  | none => proj
  | some id =>
    let n := nodeOf proj id
    let n' := if n.takes e.sequence then
        { n with status := nodeStatus n e, lastEventSeq := e.sequence }
      else n
    { proj with nodes := Function.update proj.nodes id (some n') }

/-- The four gate branches differ in the status and in who is credited. -/
def applyGate (proj : Projection) (e : RunProjectionEvent) (status : String)
    (credit : GateState → Json → GateState) : Projection :=
  match truthy e.gate with
  | none => proj
  | some gate =>
    let g := gateOf proj gate
    let g' := if g.takes e.sequence then
        { credit g e.actor with
          status := status, authorityRef := e.authorityRef, lastEventSeq := e.sequence }
      else g
    { proj with gates := Function.update proj.gates gate (some g') }

def applyEvent (proj : Projection) (e : RunProjectionEvent) : Projection :=
  if e.eventType = "run_started" then
    { proj with startedAt := some e.occurredAt, runId := some e.runId }
  else if e.eventType = "gate_passed" then
    applyGate proj e "passed" fun g actor => { g with approvedBy := actor }
  else if e.eventType = "gate_approved" then
    applyGate proj e "approved" fun g actor => { g with approvedBy := actor }
  else if e.eventType = "gate_released" then
    applyGate proj e "released" fun g actor => { g with releasedBy := actor }
  else if e.eventType = "gate_failed" then
    applyGate proj e "failed" fun g actor => { g with failedBy := actor }
  else if e.eventType ∈ nodeEvents then applyNode proj e
  else proj

/-! ## Fold -/

/-- Locals of `reduce`: the projection, the identities seen, the high-water marks
of each source system and the index of the next event. -/
structure FoldState where
  proj : Projection := {}
  seenIdentities : List (String × String) := []
  hwTime : String → Option String := fun _ => none
  hwSeq : String → Option Int := fun _ => none
  idx : Nat := 0

/-- `(a, m) < (b, n)` on (timestamp, sequence) pairs. -/
def before (a : String) (m : Int) (b : String) (n : Int) : Prop :=
  a < b ∨ a = b ∧ m < n

instance (a : String) (m : Int) (b : String) (n : Int) : Decidable (before a m b n) := by
  unfold before; infer_instance

/-- Anomalies of one event, in the order they are appended. -/
def anomaliesAt (st : FoldState) (e : RunProjectionEvent) : List Anomaly :=
  let src := e.sourceSystem
  let eid := e.sourceEventId
  let seq : Int := e.sequence
  let curTime := st.hwTime src
  let curSeq := (st.hwSeq src).getD (-1)
  let anomaly (kind : AnomalyKind) (message : String) : Anomaly :=
    { kind := kind, atIndex := st.idx, sourceSystem := src, sourceEventId := eid, message := message }
  (if (src, eid) ∈ st.seenIdentities then
    [anomaly .duplicate
      s!"duplicate source identity ({Json.reprString src}, {Json.reprString eid}) at index {st.idx}"]
    else []) ++
  (if st.idx > 0 ∧ curSeq ≥ 0 ∧ seq < curSeq then
    [anomaly .outOfOrder
      s!"source sequence regressed at index {st.idx} ({src}): seq={seq} < high-water seq={curSeq}"]
    else []) ++
  (match curTime with
    | none => []
    | some time =>
      if before e.occurredAt seq time curSeq then
        [anomaly .stale
          s!"stale event at index {st.idx} ({src}): (occurred_at={e.occurredAt}, seq={seq}) behind high-water (occurred_at={time}, seq={curSeq})"]
      else []) ++
  (if st.idx > 0 ∧ curSeq ≥ 0 ∧ seq > curSeq ∧ seq ≠ curSeq + 1 then
    [anomaly .gap s!"sequence gap at index {st.idx} ({src}): seq={seq}, prior max={curSeq}"]
    else [])

/-- The high-water mark of the source moves to this event. -/
def advances (st : FoldState) (e : RunProjectionEvent) : Prop :=
  match st.hwTime e.sourceSystem with
  | none => True
  | some time => before time ((st.hwSeq e.sourceSystem).getD (-1)) e.occurredAt e.sequence

instance (st : FoldState) (e : RunProjectionEvent) : Decidable (advances st e) := by
  unfold advances; split <;> infer_instance

/-- One iteration of the loop. -/
def step (st : FoldState) (e : RunProjectionEvent) : FoldState :=
  let src := e.sourceSystem
  let recorded : Projection := { st.proj with
    anomalies := st.proj.anomalies ++ anomaliesAt st e
    events := st.proj.events ++ [e]
    runId := st.proj.runId.orElse fun _ => some e.runId
    lastEventAt := some e.occurredAt }
  { proj := applyEvent recorded e
    seenIdentities := if (src, e.sourceEventId) ∈ st.seenIdentities then st.seenIdentities
      else (src, e.sourceEventId) :: st.seenIdentities
    hwTime := if advances st e then Function.update st.hwTime src (some e.occurredAt) else st.hwTime
    hwSeq := if advances st e then Function.update st.hwSeq src (some (e.sequence : Int)) else st.hwSeq
    idx := st.idx + 1 }

def reduce (events : List RunProjectionEvent) : Projection :=
  (events.foldl step {}).proj

end DwSuperApps.Source.Reducer
