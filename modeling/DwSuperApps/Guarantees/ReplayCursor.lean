import DwSuperApps.Lib.Runs
import DwSuperApps.Lib.Sorted
import DwSuperApps.Source.ReplaySession

/-!
# Frames of a rewound session

An append sorts the whole stream again. The frame under a rewound cursor keeps
everything but its account of the stream's length exactly when every event before
the cursor may stand before the new one. The stream itself does not depend on the
cursor, so resuming shows what a session that was never rewound shows.
-/
namespace DwSuperApps.Guarantees.ReplayCursor

open DwSuperApps.Lib
open DwSuperApps.Lib.Runs
open DwSuperApps.Source.Replay

/-! ## The events of a projection -/

theorem applyGate_events (proj : ReplayProjection) (e : ProjectionEvent) (seq : Int)
    (transition : GateTransition) : (applyGate proj e seq transition).events = proj.events := by
  unfold applyGate
  dsimp only
  split_ifs <;> rfl

theorem applyNode_events (proj : ReplayProjection) (e : ProjectionEvent) (seq : Int) :
    (applyNode proj e seq).events = proj.events := by
  unfold applyNode
  dsimp only
  split_ifs <;> rfl

theorem applyEvent_events (proj : ReplayProjection) (e : ProjectionEvent) (seq : Int) :
    (applyEvent proj e seq).events = proj.events := by
  unfold applyEvent
  dsimp only
  split
  · rfl
  · split
    · exact applyGate_events ..
    · split
      · exact applyNode_events ..
      · rfl

theorem foldl_step_events (events : List ProjectionEvent) (st : FoldState) :
    (events.foldl step st).proj.events = st.proj.events ++ events := by
  induction events generalizing st with
  | nil => exact (List.append_nil _).symm
  | cons e rest ih =>
    have recorded : (step st e).proj.events = st.proj.events ++ [e] := applyEvent_events ..
    rw [List.foldl_cons, ih, recorded, List.append_assoc, List.singleton_append]

/-- A projection holds the events it was reduced from. -/
theorem reduceEvents_events (events : List ProjectionEvent) :
    (reduceEvents events).events = events :=
  foldl_step_events events {}

/-! ## One append -/

theorem clamp_cursor (t : ReplayTimeline) {cursor : Nat} (inside : cursor ≤ t.total) :
    t.clamp (.finite cursor) = cursor := by
  have trunc : Int.tdiv ((cursor : ℚ).num) ((cursor : ℚ).den) = cursor := by simp
  unfold ReplayTimeline.clamp
  simp only [trunc]
  rw [if_neg (by omega), if_neg (by omega)]
  exact Int.toNat_natCast cursor

section
variable [StateDigest]

theorem frame_eq (s : ReplaySession) :
    s.frame =
      { cursor := s.cursor
        total := s.total
        atStart := s.cursor = 0
        atTip := s.cursor = s.total
        projection := reduceEvents (s.items.take s.cursor)
        anomalies := (reduceEvents (s.items.take s.cursor)).anomalies
        stateDigest := StateDigest.digestOf (reduceEvents (s.items.take s.cursor)) } := by
  unfold ReplaySession.frame ReplayTimeline.frameAt
  rw [clamp_cursor s.timeline s.inside]
  rfl

omit [StateDigest] in
/-- An append to a rewound session moves the new event into place and leaves the
cursor. -/
theorem appendLive_rewound {s : ReplaySession} (rewound : s.mode = .replay)
    (e : ProjectionEvent) :
    (s.appendLive e).items = Sorted.place durableLe e s.items ∧
      (s.appendLive e).cursor = s.cursor := by
  constructor
  · exact Sorted.insertionSort_append_singleton e s.durable
  · exact if_neg (by rw [rewound]; decide)

omit [StateDigest] in
theorem appendLive_total (s : ReplaySession) (e : ProjectionEvent) :
    (s.appendLive e).total = s.total + 1 :=
  length_append_live s.items e

/-- The frame of a rewound session after an append, when the events before the
cursor stay. -/
theorem frame_appendLive_iff {s : ReplaySession} (rewound : s.mode = .replay)
    (e : ProjectionEvent) :
    (s.appendLive e).frame = { s.frame with total := s.total + 1, atTip := false } ↔
      ∀ b ∈ s.items.take s.cursor, durableLe b e := by
  obtain ⟨items, cursor⟩ := appendLive_rewound rewound e
  rw [← Sorted.take_place_iff e s.inside, ← items, frame_eq, frame_eq, cursor, appendLive_total]
  constructor
  · intro same
    have events := congrArg (·.projection.events) same
    simpa only [reduceEvents_events] using events
  · intro kept
    have behind : decide (s.cursor = s.total + 1) = false :=
      decide_eq_false (by have := s.inside; unfold ReplaySession.total; omega)
    rw [kept, behind]

/-! ## Runs -/

/-- An append while rewound changes nothing of the frame but the length of the
stream it reports. -/
def KeepsFrame (s : ReplaySession) : Operation → Prop
  | .appendLive e =>
    s.mode = .replay →
      (s.appendLive e).frame = { s.frame with total := s.total + 1, atTip := false }
  | _ => True

omit [StateDigest] in
/-- An event appended while rewound may stand behind everything before the cursor. -/
def StandsBehind (s : ReplaySession) : Operation → Prop
  | .appendLive e => s.mode = .replay → ∀ b ∈ s.items.take s.cursor, durableLe b e
  | _ => True

theorem keepsFrame_iff (s : ReplaySession) (op : Operation) :
    KeepsFrame s op ↔ StandsBehind s op := by
  cases op with
  | appendLive e =>
    constructor
    · exact fun keeps rewound => (frame_appendLive_iff rewound e).mp (keeps rewound)
    · exact fun behind rewound => (frame_appendLive_iff rewound e).mpr (behind rewound)
  | _ => exact Iff.rfl

end

def isAppend : Operation → Bool
  | .appendLive _ => true
  | _ => false

/-- A step seen from the tip: an append, or nothing. -/
theorem resumeLive_perform (s : ReplaySession) (op : Operation) :
    (s.perform op).resumeLive =
      if isAppend op then s.resumeLive.perform op else s.resumeLive := by
  cases op <;> rfl

/-- Resuming after a run is the run of its appends alone. -/
theorem resumeLive_run (s : ReplaySession) (ops : List Operation) :
    (run ReplaySession.perform s ops).resumeLive =
      run ReplaySession.perform s.resumeLive (ops.filter isAppend) := by
  induction ops generalizing s with
  | nil => rfl
  | cons op rest ih =>
    rw [run_cons, ih, resumeLive_perform, List.filter_cons]
    cases isAppend op <;> rfl

/-- Along every run of a session, the appends that keep the frame under a rewound
cursor are those of events that may stand behind everything before it. Resuming
always shows the session that was never rewound. -/
theorem rewound_frames_kept_iff [StateDigest] (events : List ProjectionEvent)
    (ops : List Operation) :
    (Along ReplaySession.perform KeepsFrame (ReplaySession.new events) ops ↔
      Along ReplaySession.perform StandsBehind (ReplaySession.new events) ops) ∧
    (run ReplaySession.perform (ReplaySession.new events) ops).resumeLive =
      run ReplaySession.perform (ReplaySession.new events) (ops.filter isAppend) := by
  constructor
  · constructor
    · exact Along.mono fun s op => (keepsFrame_iff s op).mp
    · exact Along.mono fun s op => (keepsFrame_iff s op).mpr
  · exact resumeLive_run (ReplaySession.new events) ops

/-! ## An earlier ordinal -/

def ordinalEvent (ordinal : Int) : ProjectionEvent := [("projection_ordinal", .int ordinal)]

/-- An append while rewound to the only event, with an ordinal before it. -/
def lateArrival : List Operation := [.rewindTo (.finite 1), .appendLive (ordinalEvent 1)]

/-- Whatever the digest, an append can move under a rewound cursor. -/
theorem earlier_ordinal_shown :
    ¬ ∃ _digest : StateDigest, ∀ (events : List ProjectionEvent) (ops : List Operation),
      Along ReplaySession.perform KeepsFrame (ReplaySession.new events) ops := by
  rintro ⟨digest, all⟩
  have admitted := all [ordinalEvent 2] lateArrival
  have kept := admitted.2.1 rfl
  have events := congrArg (·.projection.events) kept
  rw [frame_eq, frame_eq] at events
  simp only [reduceEvents_events] at events
  revert events
  decide

end DwSuperApps.Guarantees.ReplayCursor
