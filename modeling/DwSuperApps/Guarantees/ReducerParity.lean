import DwSuperApps.Lib.Runs
import DwSuperApps.Source.Reducer
import DwSuperApps.Source.Replay

/-!
# The two reducers on one event stream

`Agrees` compares a Python projection with a TypeScript one on the shared view:
anomaly kinds and indices, run id, the two timestamps, and status and last
sequence of every node and gate. The fold states of the two loops are related by
`Simulates`; the local state (identities, high-water marks, index) never
separates as long as sequences are safe integers. The projections stay together
exactly while every event is `Agreeable` in the state it arrives in.
-/
namespace DwSuperApps.Guarantees.ReducerParity

open DwSuperApps.Lib DwSuperApps.Lib.Runs DwSuperApps.Source
open DwSuperApps.Source.Live (prototypeMembers)
open DwSuperApps.Source.Reducer (RunProjectionEvent Projection truthy)
open DwSuperApps.Source.Replay (ReplayProjection maxSafeInteger)

/-! ## Shared view -/

def peer : Reducer.AnomalyKind → Live.AnomalyKind
  | .duplicate => .duplicate
  | .outOfOrder => .outOfOrder
  | .stale => .stale
  | .gap => .gap

def anomalyView (a : Reducer.Anomaly) : Live.AnomalyKind × Nat := (peer a.kind, a.atIndex)
def replayAnomalyView (a : Live.LiveAnomaly) : Live.AnomalyKind × Nat := (a.kind, a.atIndex)

def nodeView (n : Reducer.NodeState) : String × Int := (n.status, n.lastEventSeq)
def replayNodeView (n : Replay.ReplayNodeState) : String × Int := (n.status, n.lastEventSeq)

def gateView (g : Reducer.GateState) : Option String × Int := (some g.status, g.lastEventSeq)
def replayGateView (g : Replay.ReplayGateState) : Option String × Int := (g.status, g.lastEventSeq)

structure Agrees (p : Projection) (t : ReplayProjection) : Prop where
  anomalies : p.anomalies.map anomalyView = t.anomalies.map replayAnomalyView
  runId : p.runId = t.runId
  startedAt : p.startedAt = t.startedAt
  lastEventAt : p.lastEventAt = t.lastEventAt
  nodes : ∀ id, (p.nodes id).map nodeView = (t.nodes id).map replayNodeView
  gates : ∀ gate, (p.gates gate).map gateView = (t.gates gate).map replayGateView

/-! ## Events both reducers read alike -/

/-- The new status does not depend on `str(v)` of a value that is no string. -/
def StatusReadAlike (n : Reducer.NodeState) (e : RunProjectionEvent) : Prop :=
  truthy e.outcome ≠ none ∨
    match e.after.bind (Json.member · "status") with
    | none => True
    | some (.str s) => s ≠ "" ∨ n.status = ""
    | some v => v.pyStr = n.status

instance (n : Reducer.NodeState) (e : RunProjectionEvent) : Decidable (StatusReadAlike n e) := by
  unfold StatusReadAlike; split <;> infer_instance

def NodeAgreeable (p : Projection) (e : RunProjectionEvent) : Prop :=
  match truthy e.nodeId with
  | none => True
  | some id => id ∉ prototypeMembers ∧
      ((Reducer.nodeOf p id).takes e.sequence → StatusReadAlike (Reducer.nodeOf p id) e)

def GateAgreeable (e : RunProjectionEvent) : Prop :=
  match truthy e.gate with
  | none => True
  | some gate => gate ∉ prototypeMembers

/-- An event type that names an inherited member passes for a gate transition. -/
def InheritedAgreeable (p : Projection) (e : RunProjectionEvent) : Prop :=
  match truthy e.gate with
  | none => True
  | some gate => gate ∈ prototypeMembers ∨ ¬ (Reducer.gateOf p gate).takes e.sequence

def gateEvents : List String := ["gate_passed", "gate_approved", "gate_released", "gate_failed"]

def Agreeable (p : Projection) (e : RunProjectionEvent) : Prop :=
  if e.eventType ∈ gateEvents then GateAgreeable e
  else if e.eventType ∈ Reducer.nodeEvents then NodeAgreeable p e
  else if e.eventType ∈ prototypeMembers then InheritedAgreeable p e
  else True

instance (p : Projection) (e : RunProjectionEvent) : Decidable (NodeAgreeable p e) := by
  unfold NodeAgreeable; split <;> infer_instance

instance (e : RunProjectionEvent) : Decidable (GateAgreeable e) := by
  unfold GateAgreeable; split <;> infer_instance

instance (p : Projection) (e : RunProjectionEvent) : Decidable (InheritedAgreeable p e) := by
  unfold InheritedAgreeable; split <;> infer_instance

instance (p : Projection) (e : RunProjectionEvent) : Decidable (Agreeable p e) := by
  unfold Agreeable; infer_instance

/-! ## Reading the JSON form -/

section Reading
variable (e : RunProjectionEvent)

theorem present_nonempty {s : String} (h : Reducer.present s) : s ≠ "" := by
  rintro rfl
  exact absurd h (by decide)

theorem str_nonempty {s : String} (h : s ≠ "") (fallback : String) :
    Replay.str (some (.str s)) fallback = s := by
  simp [Replay.str, h]

theorem str_ofOption (o : Option String) :
    Replay.str (some (.ofOption o)) = (truthy o).getD "" := by
  cases o with
  | none => rfl
  | some s => by_cases h : s = "" <;> simp [Replay.str, Json.ofOption, truthy, Option.filter, h]

theorem truthy_nonempty {o : Option String} {s : String} (h : truthy o = some s) : s ≠ "" := by
  have kept := (Option.filter_eq_some_iff.mp h).2
  simpa using kept

theorem source_nonempty : e.sourceSystem ≠ "" := by
  have known := e.sourceKnown
  intro blank
  rw [blank] at known
  exact absurd known (by decide)

theorem read_eventType : Replay.str (Json.member e.toDict "event_type") = e.eventType :=
  str_nonempty (present_nonempty e.eventTypePresent) _

theorem read_gate : Replay.str (Json.member e.toDict "gate") = (truthy e.gate).getD "" :=
  str_ofOption e.gate

theorem read_nodeId : Replay.str (Json.member e.toDict "node_id") = (truthy e.nodeId).getD "" :=
  str_ofOption e.nodeId

theorem read_outcome : Replay.str (Json.member e.toDict "outcome") = (truthy e.outcome).getD "" :=
  str_ofOption e.outcome

theorem read_after : Json.member e.toDict "after" = some (Reducer.objectOrNull e.after) := rfl

theorem read_source :
    Replay.str (Json.member e.toDict "source_system") Replay.UNKNOWN = e.sourceSystem :=
  str_nonempty (source_nonempty e) _

theorem read_eventId :
    Replay.str (Json.member e.toDict "source_event_id") Replay.UNKNOWN = e.sourceEventId :=
  str_nonempty (present_nonempty e.sourceEventIdPresent) _

theorem read_occurredAt :
    Replay.stringOrNull (Json.member e.toDict "occurred_at") = some e.occurredAt := rfl

theorem read_runId : Replay.runIdOf e.toDict = some e.runId := by
  have present := present_nonempty e.runIdPresent
  change (some e.runId).filter (· ≠ "") = some e.runId
  simp [Option.filter, present]

theorem toNumber_safe {n : Int} (nonneg : 0 ≤ n) (safe : n ≤ maxSafeInteger + 1) :
    Replay.toNumber n = n := by
  obtain ⟨k, rfl⟩ := Int.eq_ofNat_of_zero_le nonneg
  have bound : k ≤ maxSafeInteger + 1 := by omega
  have exact : Replay.toDouble k = k := by
    rcases Nat.lt_or_ge maxSafeInteger k with above | below
    · have top : k = maxSafeInteger + 1 := by omega
      rw [top]
      decide +kernel
    · simp [Replay.toDouble, below]
  simp [Replay.toNumber, exact]

theorem read_sequence (safe : e.sequence ≤ maxSafeInteger) :
    Replay.numberOrNull (Json.member e.toDict "sequence") = some (e.sequence : Int) := by
  change some (Replay.toNumber e.sequence) = some (e.sequence : Int)
  rw [toNumber_safe (by omega) (by omega)]

end Reading

/-! ## Normalized timestamps -/

theorem codeUnits_normalized {s : List Char} (normalized : ∀ c ∈ s, c ∈ Reducer.timestampChars) :
    s.flatMap Replay.codeUnits = s.map Char.toNat := by
  induction s with
  | nil => rfl
  | cons c rest ih =>
    have small : c.toNat < 0x10000 := by
      have all : (Reducer.timestampChars.all fun d => decide (d.toNat < 0x10000)) := by decide
      exact of_decide_eq_true (List.all_eq_true.mp all c (normalized c (by simp)))
    have tail := ih fun d hd => normalized d (by simp [hd])
    simp [Replay.codeUnits, small, tail]

theorem map_toNat_lt {a b : List Char} : a.map Char.toNat < b.map Char.toNat ↔ a < b := by
  induction a generalizing b with
  | nil => cases b <;> simp
  | cons c rest ih =>
    cases b with
    | nil => simp
    | cons d rest' =>
      have less : c.toNat < d.toNat ↔ c < d := Iff.rfl
      have same : c.toNat = d.toNat ↔ c = d := Char.toNat_inj
      simp [List.cons_lt_cons_iff, ih, less, same]

/-- On normalized timestamps the UTF-16 order is the code point order. -/
theorem stringLt_normalized {a b : String} (ha : ∀ c ∈ a.toList, c ∈ Reducer.timestampChars)
    (hb : ∀ c ∈ b.toList, c ∈ Reducer.timestampChars) : Replay.stringLt a b ↔ a < b := by
  rw [Replay.stringLt, codeUnits_normalized ha, codeUnits_normalized hb, map_toNat_lt]
  exact String.lt_iff.symm

/-! ## Entries of agreeing projections -/

section Entries
variable {p : Projection} {t : ReplayProjection}

theorem Agrees.nodeOf_view (h : Agrees p t) (id : String) :
    replayNodeView (Replay.nodeOf t id) = nodeView (Reducer.nodeOf p id) := by
  have entry := h.nodes id
  rw [Replay.nodeOf, Reducer.nodeOf]
  cases hp : p.nodes id with
  | none =>
    cases ht : t.nodes id with
    | none => rfl
    | some m => simp [hp, ht] at entry
  | some n =>
    cases ht : t.nodes id with
    | none => simp [hp, ht] at entry
    | some m =>
      rw [hp, ht] at entry
      exact (Option.some.inj entry).symm

theorem Agrees.gateOf_view (h : Agrees p t) (gate : String) :
    replayGateView (Replay.gateOf t gate) = gateView (Reducer.gateOf p gate) := by
  have entry := h.gates gate
  rw [Replay.gateOf, Reducer.gateOf]
  cases hp : p.gates gate with
  | none =>
    cases ht : t.gates gate with
    | none => rfl
    | some m => simp [hp, ht] at entry
  | some n =>
    cases ht : t.gates gate with
    | none => simp [hp, ht] at entry
    | some m =>
      rw [hp, ht] at entry
      exact (Option.some.inj entry).symm

/-- Writing one node on both sides keeps the agreement iff the two entries agree. -/
theorem Agrees.updateNodes_iff (h : Agrees p t) (id : String) (n : Reducer.NodeState)
    (m : Replay.ReplayNodeState) :
    Agrees { p with nodes := Function.update p.nodes id (some n) }
        { t with nodes := Function.update t.nodes id (some m) } ↔
      nodeView n = replayNodeView m := by
  constructor
  · intro after
    simpa using after.nodes id
  · intro same
    refine { h with nodes := fun other => ?_ }
    by_cases here : other = id
    · subst here
      simp [same]
    · simpa [Function.update_of_ne here] using h.nodes other

theorem Agrees.updateGates_iff (h : Agrees p t) (gate : String) (g : Reducer.GateState)
    (m : Replay.ReplayGateState) :
    Agrees { p with gates := Function.update p.gates gate (some g) }
        { t with gates := Function.update t.gates gate (some m) } ↔
      gateView g = replayGateView m := by
  constructor
  · intro after
    simpa using after.gates gate
  · intro same
    refine { h with gates := fun other => ?_ }
    by_cases here : other = gate
    · subst here
      simp [same]
    · simpa [Function.update_of_ne here] using h.gates other

/-- A gate written on the browser side only. -/
theorem Agrees.updateReplayGate_iff (h : Agrees p t) (gate : String) (m : Replay.ReplayGateState) :
    Agrees p { t with gates := Function.update t.gates gate (some m) } ↔
      (p.gates gate).map gateView = some (replayGateView m) := by
  constructor
  · intro after
    simpa using after.gates gate
  · intro same
    refine { h with gates := fun other => ?_ }
    by_cases here : other = gate
    · subst here
      simp [same]
    · simpa [Function.update_of_ne here] using h.gates other

end Entries

/-! ## One transition -/

section Transition
variable {p : Projection} {t : ReplayProjection} {e : RunProjectionEvent}

theorem read_afterStatus : Replay.afterStatus (Json.member e.toDict "after") =
    Replay.str (e.after.bind (Json.member · "status")) := by
  rw [read_after]
  cases e.after <;> rfl

theorem nodeStatus_alike {n : Reducer.NodeState} {m : Replay.ReplayNodeState}
    (same : m.status = n.status) :
    Reducer.nodeStatus n e = Replay.nodeStatus m e.toDict ↔ StatusReadAlike n e := by
  rw [Replay.nodeStatus, read_outcome, read_afterStatus, Reducer.nodeStatus, StatusReadAlike]
  cases outcome : truthy e.outcome with
  | some o =>
    have nonempty := truthy_nonempty outcome
    simp [nonempty]
  | none =>
    rcases e.after.bind (Json.member · "status") with _ | v
    · simp [Replay.str, same]
    · cases v with
      | str s =>
        by_cases blank : s = ""
        · subst blank
          have text : Json.pyStr (.str "") = "" := rfl
          simp only [text, Replay.str, same, ne_eq, not_true_eq_false, if_false, false_or]
          exact eq_comm
        · simp [Replay.str, Json.pyStr, blank]
      | _ => simp [Replay.str, same]

theorem node_guard (h : Agrees p t) (id : String) :
    ((Replay.nodeOf t id).lastEventSeq ≤ e.sequence ∨ (Replay.nodeOf t id).status = "pending") ↔
      (Reducer.nodeOf p id).takes e.sequence := by
  have view := h.nodeOf_view id
  rw [replayNodeView, nodeView, Prod.mk.injEq] at view
  rw [view.1, view.2, Reducer.NodeState.takes]

theorem gate_guard (h : Agrees p t) (gate : String) :
    ((Replay.gateOf t gate).lastEventSeq ≤ e.sequence ∨
        (Replay.gateOf t gate).status = some "none") ↔
      (Reducer.gateOf p gate).takes e.sequence := by
  have view := h.gateOf_view gate
  rw [replayGateView, gateView, Prod.mk.injEq] at view
  rw [view.1, view.2, Reducer.GateState.takes, Option.some.injEq]

theorem applyNode_agrees_iff (h : Agrees p t) (own : ∀ id ∈ prototypeMembers, t.nodes id = none) :
    Agrees (Reducer.applyNode p e) (Replay.applyNode t e.toDict e.sequence) ↔
      NodeAgreeable p e := by
  rw [Reducer.applyNode, Replay.applyNode, read_nodeId, NodeAgreeable]
  cases target : truthy e.nodeId with
  | none => simpa using h
  | some id =>
    have nonempty := truthy_nonempty target
    have view := h.nodeOf_view id
    have guard := node_guard h id (e := e)
    by_cases inherited : id ∈ prototypeMembers
    · -- the browser drops the node, the Python side has made one
      simp only [Option.getD_some, nonempty, inherited, if_true, if_false, not_true_eq_false,
        false_and, iff_false]
      intro after
      have entry := after.nodes id
      simp [own id inherited] at entry
    · simp only [Option.getD_some, nonempty, inherited, if_false, not_false_eq_true, true_and]
      rw [h.updateNodes_iff]
      simp only [guard]
      by_cases takes : (Reducer.nodeOf p id).takes e.sequence
      · simp only [takes, if_true, nodeView, replayNodeView, Prod.mk.injEq, and_true,
          true_imp_iff]
        exact nodeStatus_alike (congrArg Prod.fst view)
      · simp [takes, view]

theorem applyGate_agrees_iff (h : Agrees p t) (own : ∀ gate ∈ prototypeMembers, t.gates gate = none)
    (status : String) (credit : Reducer.GateState → Json → Reducer.GateState)
    (field : Replay.ActorField) :
    Agrees (Reducer.applyGate p e status credit)
        (Replay.applyGate t e.toDict e.sequence ⟨some status, field⟩) ↔ GateAgreeable e := by
  rw [Reducer.applyGate, Replay.applyGate, read_gate, GateAgreeable]
  cases target : truthy e.gate with
  | none => simpa using h
  | some gate =>
    have nonempty := truthy_nonempty target
    have view := h.gateOf_view gate
    have guard := gate_guard h gate (e := e)
    by_cases inherited : gate ∈ prototypeMembers
    · simp only [Option.getD_some, nonempty, inherited, if_true, if_false, not_true_eq_false,
        iff_false]
      intro after
      have entry := after.gates gate
      simp [own gate inherited] at entry
    · simp only [Option.getD_some, nonempty, inherited, if_false, not_false_eq_true, iff_true]
      rw [h.updateGates_iff]
      simp only [guard]
      by_cases takes : (Reducer.gateOf p gate).takes e.sequence
      · simp [takes, gateView, replayGateView]
      · simp [takes, view]

theorem applyInherited_agrees_iff (h : Agrees p t) (field : Replay.ActorField) :
    Agrees p (Replay.applyGate t e.toDict e.sequence ⟨none, field⟩) ↔ InheritedAgreeable p e := by
  rw [Replay.applyGate, read_gate, InheritedAgreeable]
  cases target : truthy e.gate with
  | none => simpa using h
  | some gate =>
    have nonempty := truthy_nonempty target
    have view := h.gateOf_view gate
    have guard := gate_guard h gate (e := e)
    by_cases inherited : gate ∈ prototypeMembers
    · simpa [nonempty, inherited] using h
    · simp only [Option.getD_some, nonempty, inherited, if_false, false_or]
      rw [h.updateReplayGate_iff]
      simp only [guard]
      by_cases takes : (Reducer.gateOf p gate).takes e.sequence
      · -- the entry is written with an undefined status
        simp only [if_true, takes, not_true_eq_false, iff_false]
        cases p.gates gate <;> simp [gateView, replayGateView]
      · simp only [if_false, takes, not_false_eq_true, iff_true]
        cases held : p.gates gate with
        | none =>
          -- a gate without an entry always takes the event
          rw [Reducer.GateState.takes, Reducer.gateOf, held] at takes
          simp at takes
        | some g =>
          rw [view, Reducer.gateOf, held]
          rfl

/-- The whole transition: one case per branch of the two `applyEvent`s. -/
theorem applyEvent_agrees_iff (h : Agrees p t)
    (ownNodes : ∀ id ∈ prototypeMembers, t.nodes id = none)
    (ownGates : ∀ gate ∈ prototypeMembers, t.gates gate = none) :
    Agrees (Reducer.applyEvent p e) (Replay.applyEvent t e.toDict e.sequence) ↔
      Agreeable p e := by
  rw [Reducer.applyEvent, Replay.applyEvent, read_eventType, read_runId, read_occurredAt,
    Agreeable]
  by_cases started : e.eventType = "run_started"
  · obtain ⟨notGate, notNode, notInherited⟩ : e.eventType ∉ gateEvents ∧
        e.eventType ∉ Reducer.nodeEvents ∧ e.eventType ∉ prototypeMembers := by
      rw [started]
      decide
    rw [if_pos started, if_neg notGate, if_neg notNode, if_neg notInherited, iff_true]
    simp only [started, if_true]
    exact { h with runId := rfl, startedAt := rfl }
  simp only [started, if_false]
  by_cases gateEvent : e.eventType ∈ gateEvents
  · simp only [gateEvent, if_true]
    simp only [gateEvents, List.mem_cons, List.not_mem_nil, or_false] at gateEvent
    rcases gateEvent with passed | approved | released | failed
    · simpa [passed, Replay.gateTransitions] using applyGate_agrees_iff h ownGates _ _ _
    · simpa [approved, Replay.gateTransitions] using applyGate_agrees_iff h ownGates _ _ _
    · simpa [released, Replay.gateTransitions] using applyGate_agrees_iff h ownGates _ _ _
    · simpa [failed, Replay.gateTransitions] using applyGate_agrees_iff h ownGates _ _ _
  have noGate : e.eventType ≠ "gate_passed" ∧ e.eventType ≠ "gate_approved" ∧
      e.eventType ≠ "gate_released" ∧ e.eventType ≠ "gate_failed" := by
    simpa [gateEvents] using gateEvent
  obtain ⟨notPassed, notApproved, notReleased, notFailed⟩ := noGate
  simp only [gateEvent, notPassed, notApproved, notReleased, notFailed, if_false,
    Replay.gateTransitions]
  by_cases inherited : e.eventType ∈ prototypeMembers
  · have notNode : e.eventType ∉ Reducer.nodeEvents := by
      intro both
      have disjoint : ∀ name ∈ Reducer.nodeEvents, name ∉ prototypeMembers := by decide
      exact disjoint _ both inherited
    simp only [inherited, notNode, if_true, if_false]
    exact applyInherited_agrees_iff h .undefined
  · simp only [inherited, if_false]
    by_cases nodeEvent : e.eventType ∈ Reducer.nodeEvents
    · have replayEvent : e.eventType ∈ Replay.nodeEvents := nodeEvent
      simp only [nodeEvent, replayEvent, if_true]
      exact applyNode_agrees_iff h ownNodes
    · have replayEvent : e.eventType ∉ Replay.nodeEvents := nodeEvent
      simpa only [nodeEvent, replayEvent, if_false, iff_true] using h

end Transition

/-! ## One iteration -/

/-- The two loops between iterations. -/
structure Simulates (st : Reducer.FoldState) (ts : Replay.FoldState) : Prop where
  agrees : Agrees st.proj ts.proj
  seen : ts.seen = st.seenIdentities.map fun i => Replay.identity i.1 i.2
  seenKnown : ∀ i ∈ st.seenIdentities, i.1 ∈ Reducer.knownSourceSystems
  hwTime : ts.hwTime = st.hwTime
  hwSeq : ts.hwSeq = st.hwSeq
  idx : ts.idx = st.idx
  markSafe : ∀ src s, st.hwSeq src = some s → s ≤ maxSafeInteger
  markNormalized : ∀ src time, st.hwTime src = some time →
    ∀ c ∈ time.toList, c ∈ Reducer.timestampChars
  ownNodes : ∀ id ∈ prototypeMembers, ts.proj.nodes id = none
  ownGates : ∀ gate ∈ prototypeMembers, ts.proj.gates gate = none

/-- The separator cannot confuse two identities of known sources. -/
theorem identity_injective {src src' eid eid' : String} (known : src ∈ Reducer.knownSourceSystems)
    (known' : src' ∈ Reducer.knownSourceSystems)
    (same : Replay.identity src eid = Replay.identity src' eid') : src = src' ∧ eid = eid' := by
  have chars := congrArg String.toList same
  simp only [Replay.identity, String.toList_append] at chars
  simp only [Reducer.knownSourceSystems, List.mem_cons, List.not_mem_nil, or_false] at known known'
  rcases known with rfl | rfl <;> rcases known' with rfl | rfl
  · exact ⟨rfl, String.toList_injective (List.append_cancel_left chars)⟩
  · simp at chars
  · simp at chars
  · exact ⟨rfl, String.toList_injective (List.append_cancel_left chars)⟩

section Iteration
variable {st : Reducer.FoldState} {ts : Replay.FoldState} {e : RunProjectionEvent}

theorem Simulates.repeated_iff (h : Simulates st ts) :
    Replay.identity e.sourceSystem e.sourceEventId ∈ ts.seen ↔
      (e.sourceSystem, e.sourceEventId) ∈ st.seenIdentities := by
  rw [h.seen, List.mem_map]
  constructor
  · rintro ⟨⟨src, eid⟩, held, same⟩
    obtain ⟨rfl, rfl⟩ := identity_injective (h.seenKnown _ held) e.sourceKnown same
    exact held
  · intro held
    exact ⟨_, held, rfl⟩

theorem Simulates.nextNumber (h : Simulates st ts) (nonneg : (st.hwSeq e.sourceSystem).getD (-1) ≥ 0) :
    Replay.toNumber ((st.hwSeq e.sourceSystem).getD (-1) + 1) =
      (st.hwSeq e.sourceSystem).getD (-1) + 1 := by
  cases mark : st.hwSeq e.sourceSystem with
  | none => simp [mark] at nonneg
  | some s =>
    have bound := h.markSafe _ _ mark
    simp only [mark, Option.getD_some] at nonneg ⊢
    exact toNumber_safe (by omega) (by omega)

theorem Simulates.advances_iff (h : Simulates st ts) :
    Replay.advances ts e.sourceSystem (some e.occurredAt) e.sequence ↔ Reducer.advances st e := by
  unfold Replay.advances Reducer.advances
  rw [h.hwTime, h.hwSeq]
  cases time : st.hwTime e.sourceSystem with
  | none => exact Iff.rfl
  | some curTime =>
    have normalized := h.markNormalized _ _ time
    simp only [Reducer.before, stringLt_normalized normalized e.occurredAtNormalized, gt_iff_lt,
      eq_comm (a := e.occurredAt)]

/-- One optional anomaly on each side, raised under equivalent conditions. -/
theorem flagged_agree {c d : Prop} [Decidable c] [Decidable d] (same : c ↔ d)
    {a : Reducer.Anomaly} {b : Live.LiveAnomaly} (view : anomalyView a = replayAnomalyView b) :
    (if c then [a] else []).map anomalyView = (if d then [b] else []).map replayAnomalyView := by
  by_cases raised : c
  · simp [raised, same.mp raised, view]
  · simp [raised, mt same.mpr raised]

theorem Simulates.anomalies_agree (h : Simulates st ts) :
    (Reducer.anomaliesAt st e).map anomalyView =
      (Replay.duplicateAnomalies ts e.sourceSystem e.sourceEventId ++
        Replay.sequenceAnomalies ts e.sourceSystem e.sourceEventId (some e.occurredAt)
          e.sequence).map replayAnomalyView := by
  unfold Reducer.anomaliesAt Replay.duplicateAnomalies Replay.sequenceAnomalies
  rw [h.hwTime, h.hwSeq]
  simp only [List.map_append, List.append_assoc]
  refine congrArg₂ _ ?duplicate (congrArg₂ _ ?outOfOrder (congrArg₂ _ ?stale ?gap))
  case duplicate => exact flagged_agree h.repeated_iff.symm (by simp [anomalyView, replayAnomalyView, peer, h.idx])
  case outOfOrder =>
    exact flagged_agree (by rw [h.idx]) (by simp [anomalyView, replayAnomalyView, peer, h.idx])
  case stale =>
    cases time : st.hwTime e.sourceSystem with
    | none => rfl
    | some curTime =>
      have order := stringLt_normalized e.occurredAtNormalized (h.markNormalized _ _ time)
      refine flagged_agree ?_ (by simp [anomalyView, replayAnomalyView, peer, h.idx])
      rw [order, Reducer.before]
  case gap =>
    refine flagged_agree ?_ (by simp [anomalyView, replayAnomalyView, peer, h.idx])
    rw [h.idx]
    by_cases nonneg : (st.hwSeq e.sourceSystem).getD (-1) ≥ 0
    · rw [h.nextNumber nonneg]
    · simp [nonneg]

/-- The loop bodies before `applyEvent` keep the two projections together. -/
theorem Simulates.recorded_agree (h : Simulates st ts) (events : List RunProjectionEvent)
    (replayed : List Replay.ProjectionEvent) :
    Agrees
      { st.proj with
        anomalies := st.proj.anomalies ++ Reducer.anomaliesAt st e
        events := events
        runId := st.proj.runId.orElse fun _ => some e.runId
        lastEventAt := some e.occurredAt }
      { ts.proj with
        anomalies := ts.proj.anomalies ++
          (Replay.duplicateAnomalies ts e.sourceSystem e.sourceEventId ++
            Replay.sequenceAnomalies ts e.sourceSystem e.sourceEventId (some e.occurredAt) e.sequence)
        events := replayed
        runId := ts.proj.runId.orElse fun _ => some e.runId
        lastEventAt := some e.occurredAt } where
  anomalies := by
    rw [List.map_append, List.map_append, h.agrees.anomalies, h.anomalies_agree]
  runId := by rw [h.agrees.runId]
  startedAt := h.agrees.startedAt
  lastEventAt := rfl
  nodes := h.agrees.nodes
  gates := h.agrees.gates

/-- Reading the JSON form of a valid event, the browser's iteration is this one. -/
theorem replayStep_eq (safe : e.sequence ≤ maxSafeInteger) :
    Replay.step ts e.toDict =
      { proj := Replay.applyEvent
          { ts.proj with
            anomalies := ts.proj.anomalies ++
              (Replay.duplicateAnomalies ts e.sourceSystem e.sourceEventId ++
                Replay.sequenceAnomalies ts e.sourceSystem e.sourceEventId (some e.occurredAt)
                  e.sequence)
            events := ts.proj.events ++ [e.toDict]
            runId := ts.proj.runId.orElse fun _ => some e.runId
            lastEventAt := some e.occurredAt } e.toDict e.sequence
        seen := if Replay.identity e.sourceSystem e.sourceEventId ∈ ts.seen then ts.seen
          else Replay.identity e.sourceSystem e.sourceEventId :: ts.seen
        hwSeq := if Replay.advances ts e.sourceSystem (some e.occurredAt) e.sequence then
            Function.update ts.hwSeq e.sourceSystem (some (e.sequence : Int)) else ts.hwSeq
        hwTime := if Replay.advances ts e.sourceSystem (some e.occurredAt) e.sequence then
            Function.update ts.hwTime e.sourceSystem (some e.occurredAt) else ts.hwTime
        idx := ts.idx + 1 } := by
  rw [Replay.step, read_source, read_eventId, read_sequence e safe, read_occurredAt, read_runId]
  by_cases moved : Replay.advances ts e.sourceSystem (some e.occurredAt) e.sequence <;> simp [moved]

theorem agrees_step_iff (h : Simulates st ts) (safe : e.sequence ≤ maxSafeInteger) :
    Agrees (Reducer.step st e).proj (Replay.step ts e.toDict).proj ↔ Agreeable st.proj e := by
  rw [replayStep_eq safe, Reducer.step]
  exact applyEvent_agrees_iff (h.recorded_agree _ _) h.ownNodes h.ownGates

theorem applyNode_own (t : ReplayProjection) (e : Replay.ProjectionEvent) (seq : Int) {id : String}
    (inherited : id ∈ prototypeMembers) : (Replay.applyNode t e seq).nodes id = t.nodes id := by
  unfold Replay.applyNode
  by_cases blank : Replay.str (Json.member e "node_id") = ""
  · simp [blank]
  by_cases member : Replay.str (Json.member e "node_id") ∈ prototypeMembers
  · simp [blank, member]
  have other : id ≠ Replay.str (Json.member e "node_id") := by
    rintro rfl
    exact member inherited
  simp [blank, member, Function.update_of_ne other]

theorem applyGate_own (t : ReplayProjection) (e : Replay.ProjectionEvent) (seq : Int)
    (transition : Replay.GateTransition) {gate : String} (inherited : gate ∈ prototypeMembers) :
    (Replay.applyGate t e seq transition).gates gate = t.gates gate := by
  unfold Replay.applyGate
  by_cases blank : Replay.str (Json.member e "gate") = ""
  · simp [blank]
  by_cases member : Replay.str (Json.member e "gate") ∈ prototypeMembers
  · simp [blank, member]
  have other : gate ≠ Replay.str (Json.member e "gate") := by
    rintro rfl
    exact member inherited
  simp [blank, member, Function.update_of_ne other]

/-- Inherited names never become own entries of the two records. -/
theorem applyEvent_own (t : ReplayProjection) (e : Replay.ProjectionEvent) (seq : Int) {name : String}
    (inherited : name ∈ prototypeMembers) :
    (Replay.applyEvent t e seq).nodes name = t.nodes name ∧
      (Replay.applyEvent t e seq).gates name = t.gates name := by
  have gateNodes (transition : Replay.GateTransition) :
      (Replay.applyGate t e seq transition).nodes = t.nodes := by
    unfold Replay.applyGate
    dsimp only
    split <;> [rfl; split <;> rfl]
  have nodeGates : (Replay.applyNode t e seq).gates = t.gates := by
    unfold Replay.applyNode
    dsimp only
    split <;> [rfl; split <;> rfl]
  unfold Replay.applyEvent
  dsimp only
  split
  · exact ⟨rfl, rfl⟩
  · split
    · exact ⟨by rw [gateNodes], applyGate_own t e seq _ inherited⟩
    · split
      · exact ⟨applyNode_own t e seq inherited, by rw [nodeGates]⟩
      · exact ⟨rfl, rfl⟩

/-- An agreeable event carries the simulation across one iteration. -/
theorem Simulates.step (h : Simulates st ts) (safe : e.sequence ≤ maxSafeInteger)
    (agreeable : Agreeable st.proj e) :
    Simulates (Reducer.step st e) (Replay.step ts e.toDict) where
  agrees := (agrees_step_iff h safe).mpr agreeable
  seen := by
    rw [replayStep_eq safe]
    simp only [Reducer.step]
    by_cases held : (e.sourceSystem, e.sourceEventId) ∈ st.seenIdentities
    · rw [if_pos held, if_pos (h.repeated_iff.mpr held), h.seen]
    · rw [if_neg held, if_neg (mt h.repeated_iff.mp held), h.seen, List.map_cons]
  seenKnown := by
    intro i member
    simp only [Reducer.step] at member
    split at member
    · exact h.seenKnown i member
    · rcases List.mem_cons.mp member with rfl | old
      · exact e.sourceKnown
      · exact h.seenKnown i old
  hwTime := by
    rw [replayStep_eq safe]
    simp only [Reducer.step, h.advances_iff, h.hwTime]
  hwSeq := by
    rw [replayStep_eq safe]
    simp only [Reducer.step, h.advances_iff, h.hwSeq]
  idx := by
    rw [replayStep_eq safe]
    simp only [Reducer.step, h.idx]
  markSafe := by
    intro src s mark
    simp only [Reducer.step] at mark
    split at mark
    · by_cases own : src = e.sourceSystem
      · subst own
        simp only [Function.update_self, Option.some.injEq] at mark
        omega
      · rw [Function.update_of_ne own] at mark
        exact h.markSafe src s mark
    · exact h.markSafe src s mark
  markNormalized := by
    intro src time mark
    simp only [Reducer.step] at mark
    split at mark
    · by_cases own : src = e.sourceSystem
      · subst own
        simp only [Function.update_self, Option.some.injEq] at mark
        subst mark
        exact e.occurredAtNormalized
      · rw [Function.update_of_ne own] at mark
        exact h.markNormalized src time mark
    · exact h.markNormalized src time mark
  ownNodes := by
    intro id inherited
    rw [replayStep_eq safe, (applyEvent_own _ _ _ inherited).1]
    exact h.ownNodes id inherited
  ownGates := by
    intro gate inherited
    rw [replayStep_eq safe, (applyEvent_own _ _ _ inherited).2]
    exact h.ownGates gate inherited

theorem simulates_initial : Simulates {} {} where
  agrees := ⟨rfl, rfl, rfl, rfl, fun _ => rfl, fun _ => rfl⟩
  seen := rfl
  seenKnown := by simp
  hwTime := rfl
  hwSeq := rfl
  idx := rfl
  markSafe := by simp
  markNormalized := by simp
  ownNodes := by simp
  ownGates := by simp

end Iteration

/-! ## Whole streams -/

/-- Every event is agreeable in the Python state it arrives in. -/
abbrev AgreeableStream (st : Reducer.FoldState) (events : List RunProjectionEvent) : Prop :=
  Along Reducer.step (fun s e => Agreeable s.proj e) st events

theorem run_agrees_iff (events : List RunProjectionEvent) (st : Reducer.FoldState)
    (ts : Replay.FoldState) (h : Simulates st ts)
    (safe : ∀ e ∈ events, e.sequence ≤ maxSafeInteger) :
    (∀ n, Agrees (run Reducer.step st (events.take n)).proj
        (run Replay.step ts ((events.take n).map RunProjectionEvent.toDict)).proj) ↔
      AgreeableStream st events := by
  induction events generalizing st ts with
  | nil => simpa using h.agrees
  | cons e rest ih =>
    have safeHead : e.sequence ≤ maxSafeInteger := safe e (by simp)
    have safeTail : ∀ d ∈ rest, d.sequence ≤ maxSafeInteger := fun d hd => safe d (by simp [hd])
    constructor
    · intro all
      have agreeable : Agreeable st.proj e := by
        rw [← agrees_step_iff h safeHead]
        simpa using all 1
      refine ⟨agreeable, (ih _ _ (h.step safeHead agreeable) safeTail).mp ?_⟩
      intro n
      simpa using all (n + 1)
    · rintro ⟨agreeable, later⟩ n
      cases n with
      | zero => simpa using h.agrees
      | succ n =>
        have tail := (ih _ _ (h.step safeHead agreeable) safeTail).mpr later n
        simpa using tail

/-- On a stream of safe-integer sequences the two reducers give the same
projection of every prefix exactly when every event is agreeable where it
arrives: no node or gate id names a member every JavaScript object inherits, no
event type with a gate names one either unless that gate would not take the
event, and a node event without an outcome carries either no `after.status`, a
non-empty text there, or a value Python prints as the status the node has. -/
theorem reducers_agree_iff (events : List RunProjectionEvent)
    (safe : ∀ e ∈ events, e.sequence ≤ maxSafeInteger) :
    (∀ n, Agrees (Reducer.reduce (events.take n))
        (Replay.reduceEvents ((events.take n).map RunProjectionEvent.toDict))) ↔
      AgreeableStream {} events :=
  run_agrees_iff events {} {} simulates_initial safe

/-! ## Concrete streams -/

theorem sample_runIdPresent : Reducer.present "run-1" := by decide
theorem sample_eventTypePresent : Reducer.present "node_progress" := by decide
theorem sample_occurredAtPresent : Reducer.present "2026-01-01T00:00:00Z" := by decide
theorem sample_sourceKnown : "taskcontroller" ∈ Reducer.knownSourceSystems := by decide
theorem sample_digestPresent : Reducer.present "sha256:0" := by decide
theorem sample_normalized (c : Char) (member : c ∈ "2026-01-01T00:00:00Z".toList) :
    c ∈ Reducer.timestampChars :=
  of_decide_eq_true
    (List.all_eq_true.mp (show (List.all _ fun c => decide (c ∈ Reducer.timestampChars)) by decide) c member)

/-- A progress record of node `build`. -/
def progress (eventId : String) (sequence : Nat) (outcome : Option String)
    (after : Option (List (String × Json))) (present : Reducer.present eventId) :
    RunProjectionEvent where
  occurredAt := "2026-01-01T00:00:00Z"
  runId := "run-1"
  sourceEventId := eventId
  sourceSystem := "taskcontroller"
  sourceDigest := "sha256:0"
  sequence := sequence
  nodeId := some "build"
  eventType := "node_progress"
  outcome := outcome
  after := after
  runIdPresent := sample_runIdPresent
  sourceEventIdPresent := present
  eventTypePresent := sample_eventTypePresent
  occurredAtPresent := sample_occurredAtPresent
  sourceKnown := sample_sourceKnown
  sourceDigestPresent := sample_digestPresent
  occurredAtNormalized := sample_normalized

/-- A gap, a regression and a status taken from the after-state. -/
def agreeingStream : List RunProjectionEvent :=
  [progress "evt-0" 0 (some "active") none (by decide),
    progress "evt-2" 2 none (some [("status", .str "done")]) (by decide),
    progress "evt-1" 1 (some "active") none (by decide)]

theorem reducers_agree_iff_gap_and_regression :
    Agrees (Reducer.reduce agreeingStream)
      (Replay.reduceEvents (agreeingStream.map RunProjectionEvent.toDict)) :=
  (reducers_agree_iff agreeingStream (by decide)).mpr (by decide) 3

/-- A null after-status is the text `None` in Python and no status in the browser. -/
def nullStatus : RunProjectionEvent :=
  progress "evt-0" 0 none (some [("status", .null)]) (by decide)

theorem null_status_read_apart :
    ¬ Agrees (Reducer.reduce [nullStatus]) (Replay.reduceEvents [nullStatus.toDict]) := by
  intro agrees
  have entry := agrees.nodes "build"
  revert entry
  decide

end DwSuperApps.Guarantees.ReducerParity
