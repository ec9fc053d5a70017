import Mathlib.Data.List.Sort
import Mathlib.Data.Rat.Floor
import DwSuperApps.Source.Replay

/-!
# Browser-side replay session

`projects/dw-observation/lib/replay.ts`: `ReplayTimeline.frameAt` and
`ReplaySession`, and `globalDurableOrder` of `lib/live.ts` over parsed JSON
objects.

An ordinal is the rational it stands for, with `infinity` for the value no double
reaches. The digest of a frame is a parameter: the source computes it from the
projection and from nothing else.
-/
namespace DwSuperApps.Source.Replay

open DwSuperApps.Lib

/-! ## Numbers -/

/-- Round a rational to the nearest double, ties to even. -/
def roundDouble (q : ℚ) : ℚ :=
  if q = 0 then 0
  else
    let size := |q|
    -- the binary exponent of `size`, and the exponent of its last place
    let top : Int := (q.num.natAbs.log2 : Int) - q.den.log2
    let exponent := if (2 : ℚ) ^ top ≤ size then top else top - 1
    let last := max (exponent - 52) (-1074)
    let scaled := size / (2 : ℚ) ^ last
    let below := ⌊scaled⌋
    let rest := scaled - below
    let up := 1 / 2 < rest ∨ rest = 1 / 2 ∧ below % 2 = 1
    let rounded := min (((if up then below + 1 else below : Int) : ℚ) * (2 : ℚ) ^ last) infinity
    if q < 0 then -rounded else rounded

/-- The natural number a text of digits stands for. -/
def digitsValue (digits : List Char) : Nat :=
  digits.foldl (fun n c => 10 * n + (c.toNat - '0'.toNat)) 0

/-- The number a JSON number literal stands for, before rounding. -/
def literalValue (text : String) : ℚ :=
  let body := text.toList.dropWhile (· = '-')
  let mantissa := body.takeWhile fun c => c ≠ 'e' ∧ c ≠ 'E'
  let whole := mantissa.takeWhile (· ≠ '.')
  let fraction := mantissa.drop (whole.length + 1)
  let exponent : Int := match body.drop (mantissa.length + 1) with
    | '-' :: digits => -(digitsValue digits)
    | '+' :: digits => digitsValue digits
    | digits => digitsValue digits
  let size := (digitsValue (whole ++ fraction) : ℚ) * (10 : ℚ) ^ (exponent - fraction.length)
  if text.toList.head? = some '-' then -size else size

/-- A number a caller passes. -/
inductive Number where
  | nan | negInfinity | posInfinity
  | finite (value : ℚ)
  deriving DecidableEq

namespace Number

/-- The double nearest to a rational. -/
def ofRat (q : ℚ) : Number :=
  let d := roundDouble q
  if (infinity : ℚ) ≤ d then .posInfinity else if d ≤ -(infinity : ℚ) then .negInfinity else .finite d

/-- `Math.max(0, n)`. -/
def atLeastZero : Number → Number
  | .nan => .nan
  | .negInfinity => .finite 0
  | .posInfinity => .posInfinity
  | .finite value => .finite (max 0 value)

/-- `cursor + n`. -/
def after (cursor : Nat) : Number → Number
  | .finite value => ofRat (cursor + value)
  | n => n

/-- `cursor - n`. -/
def before (cursor : Nat) : Number → Number
  | .nan => .nan
  | .negInfinity => .posInfinity
  | .posInfinity => .negInfinity
  | .finite value => ofRat (cursor - value)

end Number

/-! ## The durable order -/

/-- `projection_ordinal` when it is a number. -/
def projectionOrdinal (e : ProjectionEvent) : Option ℚ :=
  match Json.member e "projection_ordinal" with
  | some (.int n) => some (toNumber n)
  | some (.float text) => some (roundDouble (literalValue text))
  | _ => none

/-- `a` may stand before `b`: by ordinal, ordinals before events without one,
otherwise input order. -/
def durableLe (a b : ProjectionEvent) : Prop :=
  match projectionOrdinal a, projectionOrdinal b with
  | some oa, some ob => oa ≤ ob
  | none, some _ => False
  | _, none => True

instance : DecidableRel durableLe := fun a b => by
  unfold durableLe
  split <;> infer_instance

instance : Std.Refl durableLe where
  refl a := by
    unfold durableLe
    split
    · rename_i oa ob readA readB
      rw [readA] at readB
      exact (Option.some.inj readB).le
    · rename_i readA readB
      rw [readA] at readB
      cases readB
    · trivial

instance : Std.Total durableLe where
  total a b := by
    unfold durableLe
    cases projectionOrdinal a with
    | none => exact .inr (by cases projectionOrdinal b <;> trivial)
    | some oa =>
      cases projectionOrdinal b with
      | none => exact .inl trivial
      | some ob => exact le_total oa ob

instance : IsTrans ProjectionEvent durableLe where
  trans a b c := by
    unfold durableLe
    cases projectionOrdinal a <;> cases projectionOrdinal b <;> cases projectionOrdinal c <;>
      simp only [imp_self, implies_true, false_implies]
    exact le_trans

/-- The stable sort of the durable order. -/
def globalDurableOrder (events : List ProjectionEvent) : List ProjectionEvent :=
  events.insertionSort durableLe

theorem length_append_live (items : List ProjectionEvent) (event : ProjectionEvent) :
    (globalDurableOrder (items ++ [event])).length = items.length + 1 := by
  unfold globalDurableOrder
  rw [List.length_insertionSort, List.length_append, List.length_singleton]

/-! ## Timeline -/

/-- `digestOf(projectionShape(proj))`. -/
class StateDigest where
  digestOf : ReplayProjection → String

structure ReplayFrame where
  cursor : Nat
  total : Nat
  atStart : Bool
  atTip : Bool
  projection : ReplayProjection
  anomalies : List Live.LiveAnomaly
  stateDigest : String

structure ReplayTimeline where
  items : List ProjectionEvent

namespace ReplayTimeline

def total (t : ReplayTimeline) : Nat := t.items.length

/-- `Math.trunc`, kept within `0..total`. -/
def clamp (t : ReplayTimeline) (cursor : Number) : Nat :=
  match cursor with
  | .finite value =>
    let c := value.num.tdiv value.den
    if c < 0 then 0 else if c > t.total then t.total else c.toNat
  | _ => 0

theorem clamp_le (t : ReplayTimeline) (cursor : Number) : t.clamp cursor ≤ t.total := by
  unfold clamp
  cases cursor with
  | finite value =>
    dsimp only
    split_ifs <;> omega
  | _ => exact Nat.zero_le _

def frameAt [StateDigest] (t : ReplayTimeline) (cursor : Number) : ReplayFrame :=
  let c := t.clamp cursor
  let proj := reduceEvents (t.items.take c)
  { cursor := c
    total := t.total
    atStart := c = 0
    atTip := c = t.total
    projection := proj
    anomalies := proj.anomalies
    stateDigest := StateDigest.digestOf proj }

end ReplayTimeline

/-! ## Session -/

inductive ReplayMode where
  | live | replay
  deriving DecidableEq

/-- The stream is in durable order and the cursor stands inside it. -/
structure ReplaySession where
  items : List ProjectionEvent
  mode : ReplayMode
  cursor : Nat
  durable : items.Pairwise durableLe
  inside : cursor ≤ items.length

namespace ReplaySession

/-- `new ReplaySession(events)`. -/
def new (events : List ProjectionEvent := []) : ReplaySession :=
  { items := globalDurableOrder events
    mode := .live
    cursor := (globalDurableOrder events).length
    durable := List.pairwise_insertionSort durableLe events
    inside := Nat.le_refl _ }

def total (s : ReplaySession) : Nat := s.items.length

def timeline (s : ReplaySession) : ReplayTimeline := ⟨s.items⟩

def appendLive (s : ReplaySession) (event : ProjectionEvent) : ReplaySession :=
  let items := globalDurableOrder (s.items ++ [event])
  have length : items.length = s.items.length + 1 := length_append_live s.items event
  { items := items
    mode := s.mode
    cursor := if s.mode = .live then items.length else s.cursor
    durable := List.pairwise_insertionSort durableLe _
    inside := by
      have := s.inside
      split <;> omega }

/-- Set the cursor in replay mode. -/
def rewindTo (s : ReplaySession) (cursor : Number) : ReplaySession :=
  { s with
    mode := .replay
    cursor := s.timeline.clamp cursor
    inside := s.timeline.clamp_le cursor }

def enterReplay (s : ReplaySession) (cursor : Option Number) : ReplaySession :=
  s.rewindTo (cursor.getD (.finite s.total))

def stepBack (s : ReplaySession) (n : Number) : ReplaySession :=
  s.rewindTo (n.atLeastZero.before s.cursor)

def stepForward (s : ReplaySession) (n : Number) : ReplaySession :=
  s.rewindTo (n.atLeastZero.after s.cursor)

/-- Return to LIVE at the canonical tip. -/
def resumeLive (s : ReplaySession) : ReplaySession :=
  { s with mode := .live, cursor := s.items.length, inside := Nat.le_refl _ }

def frame [StateDigest] (s : ReplaySession) : ReplayFrame :=
  s.timeline.frameAt (.finite s.cursor)

end ReplaySession

/-- One call on a session. -/
inductive Operation where
  | enterReplay (cursor : Option Number)
  | rewindTo (cursor : Number)
  | stepBack (n : Number)
  | stepForward (n : Number)
  | resumeLive
  | appendLive (event : ProjectionEvent)

def ReplaySession.perform (s : ReplaySession) : Operation → ReplaySession
  | .enterReplay cursor => s.enterReplay cursor
  | .rewindTo cursor => s.rewindTo cursor
  | .stepBack n => s.stepBack n
  | .stepForward n => s.stepForward n
  | .resumeLive => s.resumeLive
  | .appendLive event => s.appendLive event

end DwSuperApps.Source.Replay
