import Mathlib.Data.List.Count
import DwSuperApps.Lib.Runs

/-!
# Programs over shared state

A program is a sequence of atomic operations on a shared state `σ`, each chosen
from the outcome of the ones before, that ends with a result or an exception.
The same program can be run alone, cut after any number of its operations, or
interleaved with others: a pool holds the shared state and the calls in
progress, and one action of the pool starts a call, lets one call take one
operation, or lets the environment act. A call that is never scheduled again is
a call that crashed.

`Discipline` is a rely-guarantee specification of the calls of a pool; `sound`
is its parallel rule.
-/
namespace DwSuperApps.Lib.Programs

inductive Prog (σ ε α : Type) where
  | done (result : Except ε α)
  | atomic (next : σ → Prog σ ε α) (effect : σ → σ)

namespace Prog
variable {σ τ ε α β : Type}

/-! ## Combinators -/

def bind : Prog σ ε α → (α → Prog σ ε β) → Prog σ ε β
  | .done (.ok a), f => f a
  | .done (.error e), _ => .done (.error e)
  | .atomic next effect, f => .atomic (fun s => (next s).bind f) effect

/-- `try: p except e: handler(e)`. -/
def handle : Prog σ ε α → (ε → Prog σ ε α) → Prog σ ε α
  | .done (.ok a), _ => .done (.ok a)
  | .done (.error e), handler => handler e
  | .atomic next effect, handler => .atomic (fun s => (next s).handle handler) effect

instance : Monad (Prog σ ε) where
  pure a := .done (.ok a)
  bind := bind

instance : MonadLift (Except ε) (Prog σ ε) where
  monadLift := .done

/-- One operation: its outcome and the state it leaves. -/
def operation (op : σ → Except ε α × σ) : Prog σ ε α :=
  .atomic (fun s => .done (op s).1) fun s => (op s).2

/-- One operation that leaves the state as it is. -/
def observe (view : σ → Except ε α) : Prog σ ε α :=
  .atomic (fun s => .done (view s)) id

/-- A program over a part of the state. -/
def zoom (view : σ → τ) (put : τ → σ → σ) : Prog τ ε α → Prog σ ε α
  | .done r => .done r
  | .atomic next effect =>
    .atomic (fun s => (next (view s)).zoom view put) fun s => put (effect (view s)) s

@[simp] theorem ok_bind (a : α) (f : α → Prog σ ε β) :
    ((.done (.ok a) : Prog σ ε α) >>= f) = f a := rfl

@[simp] theorem pure_bind (a : α) (f : α → Prog σ ε β) :
    ((pure a : Prog σ ε α) >>= f) = f a := rfl

@[simp] theorem error_bind (e : ε) (f : α → Prog σ ε β) :
    ((.done (.error e) : Prog σ ε α) >>= f) = .done (.error e) := rfl

@[simp] theorem atomic_bind (next : σ → Prog σ ε α) (effect : σ → σ) (f : α → Prog σ ε β) :
    ((.atomic next effect : Prog σ ε α) >>= f) = .atomic (fun s => next s >>= f) effect := rfl

theorem bind_assoc {γ : Type} (p : Prog σ ε α) (f : α → Prog σ ε β) (g : β → Prog σ ε γ) :
    p >>= f >>= g = p >>= fun a => f a >>= g := by
  induction p with
  | done r => cases r <;> rfl
  | atomic next effect ih => exact congrArg (Prog.atomic · effect) (funext ih)

theorem bind_pure (p : Prog σ ε α) : p >>= pure = p := by
  induction p with
  | done r => cases r <;> rfl
  | atomic next effect ih => exact congrArg (Prog.atomic · effect) (funext ih)

@[simp] theorem ok_handle (a : α) (handler : ε → Prog σ ε α) :
    handle (.done (.ok a)) handler = .done (.ok a) := rfl

@[simp] theorem error_handle (e : ε) (handler : ε → Prog σ ε α) :
    handle (.done (.error e)) handler = handler e := rfl

@[simp] theorem atomic_handle (next : σ → Prog σ ε α) (effect : σ → σ)
    (handler : ε → Prog σ ε α) :
    handle (.atomic next effect) handler = .atomic (fun s => (next s).handle handler) effect := rfl

/-- At most `n` operations are left, whatever the state does. -/
def Within : Nat → Prog σ ε α → Prop
  | _, .done _ => True
  | 0, .atomic _ _ => False
  | n + 1, .atomic next _ => ∀ s, Within n (next s)

theorem within_done (n : Nat) (r : Except ε α) : (.done r : Prog σ ε α).Within n := by
  cases n <;> trivial

theorem within_operation (op : σ → Except ε α × σ) : (operation op).Within 1 :=
  fun _ => trivial

theorem within_observe (view : σ → Except ε α) : (observe view).Within 1 := fun _ => trivial

theorem Within.mono {n m : Nat} {p : Prog σ ε α} (short : p.Within n) (le : n ≤ m) : p.Within m := by
  induction p generalizing n m with
  | done r => exact within_done m r
  | atomic next effect ih =>
    cases n with
    | zero => exact absurd short id
    | succ n =>
      cases m with
      | zero => omega
      | succ m => exact fun s => ih s (short s) (by omega)

theorem Within.bind {n m : Nat} {p : Prog σ ε α} {f : α → Prog σ ε β} (first : p.Within n)
    (later : ∀ a, (f a).Within m) : (p >>= f).Within (n + m) := by
  induction p generalizing n with
  | done r =>
    cases r with
    | ok a => exact (later a).mono (by omega)
    | error e => exact within_done _ _
  | atomic next effect ih =>
    cases n with
    | zero => exact absurd first id
    | succ n =>
      rw [Nat.succ_add]
      exact fun s => ih s (first s)

theorem Within.handle {n m : Nat} {p : Prog σ ε α} {handler : ε → Prog σ ε α} (first : p.Within n)
    (later : ∀ e, (handler e).Within m) : (p.handle handler).Within (n + m) := by
  induction p generalizing n with
  | done r =>
    cases r with
    | ok a => exact within_done _ _
    | error e => exact (later e).mono (by omega)
  | atomic next effect ih =>
    cases n with
    | zero => exact absurd first id
    | succ n =>
      rw [Nat.succ_add]
      exact fun s => ih s (first s)

theorem within_lift {n : Nat} {x : Except ε β} {f : β → Prog σ ε α} (later : ∀ b, (f b).Within n) :
    ((.done x : Prog σ ε β) >>= f).Within n := by
  cases x with
  | error e => exact within_done n _
  | ok b => exact later b

theorem within_operation_bind {n : Nat} {op : σ → Except ε β × σ} {f : β → Prog σ ε α}
    (later : ∀ b, (f b).Within n) : (operation op >>= f).Within (n + 1) :=
  fun _ => within_lift later

theorem within_observe_bind {n : Nat} {view : σ → Except ε β} {f : β → Prog σ ε α}
    (later : ∀ b, (f b).Within n) : (observe view >>= f).Within (n + 1) :=
  fun _ => within_lift later

/-- Every operation of the program has an effect that is `ok`. -/
def Effects (ok : (σ → σ) → Prop) : Prog σ ε α → Prop
  | .done _ => True
  | .atomic next effect => ok effect ∧ ∀ s, Effects ok (next s)

section Effects
variable {ok : (σ → σ) → Prop}

theorem Effects.bind {p : Prog σ ε α} {f : α → Prog σ ε β} (first : p.Effects ok)
    (later : ∀ a, (f a).Effects ok) : (p >>= f).Effects ok := by
  induction p with
  | done r =>
    cases r with
    | ok a => exact later a
    | error e => trivial
  | atomic next effect ih => exact ⟨first.1, fun s => ih s (first.2 s)⟩

theorem Effects.handle {p : Prog σ ε α} {handler : ε → Prog σ ε α} (first : p.Effects ok)
    (later : ∀ e, (handler e).Effects ok) : (p.handle handler).Effects ok := by
  induction p with
  | done r =>
    cases r with
    | ok a => trivial
    | error e => exact later e
  | atomic next effect ih => exact ⟨first.1, fun s => ih s (first.2 s)⟩

theorem effects_observe (quiet : ok id) (view : σ → Except ε α) : (observe view).Effects ok :=
  ⟨quiet, fun _ => trivial⟩

end Effects

/-! ## Running alone -/

def run : Prog σ ε α → σ → Except ε α × σ
  | .done r, s => (r, s)
  | .atomic next effect, s => (next s).run (effect s)

/-- What is left of the program and the state after its first `n` operations. -/
def runFor : Nat → Prog σ ε α → σ → Prog σ ε α × σ
  | 0, p, s => (p, s)
  | _ + 1, .done r, s => (.done r, s)
  | n + 1, .atomic next effect, s => runFor n (next s) (effect s)

@[simp] theorem run_done (r : Except ε α) (s : σ) : (.done r : Prog σ ε α).run s = (r, s) := rfl

@[simp] theorem run_pure (a : α) (s : σ) : (pure a : Prog σ ε α).run s = (.ok a, s) := rfl

@[simp] theorem run_operation (op : σ → Except ε α × σ) (s : σ) : (operation op).run s = op s := rfl

@[simp] theorem run_observe (view : σ → Except ε α) (s : σ) :
    (observe view).run s = (view s, s) := rfl

theorem run_bind (p : Prog σ ε α) (f : α → Prog σ ε β) (s : σ) :
    (p >>= f).run s = match p.run s with
      | (.ok a, t) => (f a).run t
      | (.error e, t) => (.error e, t) := by
  induction p generalizing s with
  | done r => cases r <;> rfl
  | atomic next effect ih => exact ih s (effect s)

theorem run_handle (p : Prog σ ε α) (handler : ε → Prog σ ε α) (s : σ) :
    (p.handle handler).run s = match p.run s with
      | (.ok a, t) => (.ok a, t)
      | (.error e, t) => (handler e).run t := by
  induction p generalizing s with
  | done r => cases r <;> rfl
  | atomic next effect ih => exact ih s (effect s)

theorem run_of_result {p : Prog σ ε α} {s : σ} {r : Except ε α} (result : (p.run s).1 = r) :
    p.run s = (r, (p.run s).2) := Prod.ext result rfl

/-- A program with at most `n` operations left has ended after `n`. -/
theorem runFor_of_within {n : Nat} {p : Prog σ ε α} (short : p.Within n) (s : σ) :
    p.runFor n s = (.done (p.run s).1, (p.run s).2) := by
  induction p generalizing n s with
  | done r => cases n <;> rfl
  | atomic next effect ih =>
    cases n with
    | zero => exact absurd short id
    | succ n => exact ih s (short s) (effect s)

section Steps
variable {p : Prog σ ε α} {f : α → Prog σ ε β} {s t : σ} {a : α} {e : ε}

theorem runFor_operation {op : σ → Except ε α × σ} (first : op s = (.ok a, t)) (n : Nat) :
    (operation op >>= f).runFor (n + 1) s = (f a).runFor n t := by
  change runFor n (.done (op s).1 >>= f) (op s).2 = _
  rw [first, ok_bind]

theorem runFor_observe {view : σ → Except ε α} (seen : view s = .ok a) (n : Nat) :
    (observe view >>= f).runFor (n + 1) s = (f a).runFor n s := by
  change runFor n (.done (view s) >>= f) s = _
  rw [seen, ok_bind]

theorem run_bind_ok (first : p.run s = (.ok a, t)) : (p >>= f).run s = (f a).run t := by
  rw [run_bind, first]

theorem run_bind_error (first : p.run s = (.error e, t)) : (p >>= f).run s = (.error e, t) := by
  rw [run_bind, first]

theorem run_lift_ok {x : Except ε α} (passed : x = .ok a) :
    ((.done x : Prog σ ε α) >>= f).run s = (f a).run s := by
  rw [passed, ok_bind]

theorem run_lift_error {x : Except ε α} (failed : x = .error e) :
    ((.done x : Prog σ ε α) >>= f).run s = (.error e, s) := by
  rw [failed, error_bind, run_done]

/-- A sequence returns where both of its parts do. -/
theorem run_bind_returned {b : β} {u : σ} :
    (p >>= f).run s = (.ok b, u) ↔ ∃ a t, p.run s = (.ok a, t) ∧ (f a).run t = (.ok b, u) := by
  constructor
  · intro returned
    rw [run_bind] at returned
    split at returned
    · next a t first => exact ⟨a, t, first, returned⟩
    · cases congrArg Prod.fst returned
  · rintro ⟨a, t, first, returned⟩
    exact (run_bind_ok first).trans returned

theorem run_lift_returned {x : Except ε α} {b : β} {u : σ} :
    ((.done x : Prog σ ε α) >>= f).run s = (.ok b, u) ↔
      ∃ a, x = .ok a ∧ (f a).run s = (.ok b, u) := by
  constructor
  · intro returned
    obtain ⟨a, t, first, returned⟩ := run_bind_returned.mp returned
    obtain ⟨passed, rfl⟩ := Prod.mk.inj first
    exact ⟨a, passed, returned⟩
  · rintro ⟨a, passed, returned⟩
    exact (run_lift_ok passed).trans returned

theorem run_observe_returned {view : σ → Except ε α} {b : β} {u : σ} :
    (observe view >>= f).run s = (.ok b, u) ↔ ∃ a, view s = .ok a ∧ (f a).run s = (.ok b, u) := by
  constructor
  · intro returned
    obtain ⟨a, t, first, returned⟩ := run_bind_returned.mp returned
    obtain ⟨seen, rfl⟩ := Prod.mk.inj first
    exact ⟨a, seen, returned⟩
  · rintro ⟨a, seen, returned⟩
    exact (run_bind_ok (t := s) (congrArg (·, s) seen)).trans returned

theorem run_handle_ok {handler : ε → Prog σ ε α} (first : p.run s = (.ok a, t)) :
    (p.handle handler).run s = (.ok a, t) := by
  rw [run_handle, first]

theorem run_handle_error {handler : ε → Prog σ ε α} (first : p.run s = (.error e, t)) :
    (p.handle handler).run s = (handler e).run t := by
  rw [run_handle, first]

end Steps

/-! ## Running among others -/

/-- What the program returns and its operations, each as the states before and after it,
where `others n` happens before its operation `n`. -/
def runAmong (others : Nat → σ → σ) : Nat → Prog σ ε α → σ → Except ε α × List (σ × σ)
  | _, .done r, _ => (r, [])
  | n, .atomic next effect, s =>
    let before := others n s
    let rest := runAmong others (n + 1) (next before) (effect before)
    (rest.1, (before, effect before) :: rest.2)

section Among
variable {others : Nat → σ → σ} {n : Nat} {s : σ} {f : α → Prog σ ε β} {b : β} {steps : List (σ × σ)}

theorem runAmong_lift {x : Except ε α} :
    ((.done x : Prog σ ε α) >>= f).runAmong others n s = (.ok b, steps) ↔
      ∃ a, x = .ok a ∧ (f a).runAmong others n s = (.ok b, steps) := by
  cases x with
  | error e =>
    constructor
    · intro returned
      cases congrArg Prod.fst returned
    · rintro ⟨_, passed, -⟩
      cases passed
  | ok a =>
    constructor
    · intro returned
      exact ⟨a, rfl, returned⟩
    · rintro ⟨_, passed, returned⟩
      cases passed
      exact returned

/-- A program returns where its first operation passes and the rest returns. -/
theorem runAmong_operation {op : σ → Except ε α × σ} :
    (operation op >>= f).runAmong others n s = (.ok b, steps) ↔
      ∃ a, (op (others n s)).1 = .ok a ∧ ∃ tail, steps = (others n s, (op (others n s)).2) :: tail ∧
        (f a).runAmong others (n + 1) (op (others n s)).2 = (.ok b, tail) := by
  change (_, _ :: _) = _ ↔ _
  rw [Prod.mk.injEq]
  constructor
  · rintro ⟨returned, rfl⟩
    obtain ⟨a, passed, rest⟩ := runAmong_lift.mp (Prod.ext returned rfl)
    exact ⟨a, passed, _, rfl, rest⟩
  · rintro ⟨a, passed, tail, rfl, rest⟩
    have whole := runAmong_lift.mpr ⟨a, passed, rest⟩
    exact ⟨congrArg Prod.fst whole, congrArg (_ :: ·) (congrArg Prod.snd whole)⟩

theorem runAmong_refused {op : σ → Except ε α × σ} {e : ε} {t : σ}
    (refused : op (others n s) = (.error e, t)) :
    (operation op >>= f).runAmong others n s = (.error e, [(others n s, t)]) := by
  change (((Prog.done (op (others n s)).1 >>= f).runAmong others (n + 1) (op (others n s)).2).1,
    (others n s, (op (others n s)).2) ::
      ((Prog.done (op (others n s)).1 >>= f).runAmong others (n + 1) (op (others n s)).2).2) = _
  rw [refused]
  rfl

theorem runAmong_observe {view : σ → Except ε α} :
    (observe view >>= f).runAmong others n s = (.ok b, steps) ↔
      ∃ a, view (others n s) = .ok a ∧ ∃ tail, steps = (others n s, others n s) :: tail ∧
        (f a).runAmong others (n + 1) (others n s) = (.ok b, tail) := by
  change (operation (fun s => (view s, s)) >>= f).runAmong others n s = (.ok b, steps) ↔ _
  exact runAmong_operation

/-- The first operation is one of the steps whatever the rest does. -/
theorem step_mem_runAmong (op : σ → Except ε α × σ) :
    (others n s, (op (others n s)).2) ∈ ((operation op >>= f).runAmong others n s).2 :=
  List.mem_cons_self

end Among

/-! ## Running alone, cut anywhere -/

/-- The property holds before and after every operation of the program run alone. -/
inductive Throughout (P : σ → Prop) : Prog σ ε α → σ → Prop
  | done {r : Except ε α} {s : σ} (held : P s) : Throughout P (.done r) s
  | atomic {next : σ → Prog σ ε α} {effect : σ → σ} {s : σ} (before : P s)
      (later : Throughout P (next s) (effect s)) : Throughout P (.atomic next effect) s

section Throughout
variable {P : σ → Prop}

theorem Throughout.start {p : Prog σ ε α} {s : σ} (held : p.Throughout P s) : P s := by
  cases held with
  | done held => exact held
  | atomic before later => exact before

theorem Throughout.runFor {p : Prog σ ε α} {s : σ} (held : p.Throughout P s) (n : Nat) :
    P (p.runFor n s).2 := by
  induction n generalizing p s with
  | zero => exact held.start
  | succ n ih =>
    cases held with
    | done held => exact held
    | atomic before later => exact ih later

theorem Throughout.run {p : Prog σ ε α} {s : σ} (held : p.Throughout P s) : P (p.run s).2 := by
  induction held with
  | done held => exact held
  | atomic before later ih => exact ih

theorem Throughout.mono {Q : σ → Prop} (weaker : ∀ s, P s → Q s) {p : Prog σ ε α} {s : σ}
    (held : p.Throughout P s) : p.Throughout Q s := by
  induction held with
  | done held => exact .done (weaker _ held)
  | atomic before _ ih => exact .atomic (weaker _ before) ih

theorem throughout_pure {a : α} {s : σ} (held : P s) :
    (pure a : Prog σ ε α).Throughout P s := .done held

theorem throughout_operation {op : σ → Except ε α × σ} {s : σ} (before : P s) (after : P (op s).2) :
    (operation op).Throughout P s := .atomic before (.done after)

theorem throughout_observe {view : σ → Except ε α} {s : σ} (held : P s) :
    (observe view).Throughout P s := .atomic held (.done held)

theorem Throughout.bind {p : Prog σ ε α} {f : α → Prog σ ε β} {s : σ} (first : p.Throughout P s)
    (later : ∀ a t, p.run s = (.ok a, t) → P t → (f a).Throughout P t) :
    (p >>= f).Throughout P s := by
  induction first with
  | @done r s held =>
    cases r with
    | ok a => exact later a s rfl held
    | error e => exact .done held
  | atomic before _ ih => exact .atomic before (ih later)

theorem Throughout.handle {p : Prog σ ε α} {handler : ε → Prog σ ε α} {s : σ}
    (first : p.Throughout P s)
    (later : ∀ e t, p.run s = (.error e, t) → P t → (handler e).Throughout P t) :
    (p.handle handler).Throughout P s := by
  induction first with
  | @done r s held =>
    cases r with
    | ok a => exact .done held
    | error e => exact later e s rfl held
  | atomic before _ ih => exact .atomic before (ih later)

/-- A check before the rest of a program. -/
theorem throughout_lift {x : Except ε β} {f : β → Prog σ ε α} {s : σ} (held : P s)
    (later : ∀ b, x = .ok b → (f b).Throughout P s) :
    ((.done x : Prog σ ε β) >>= f).Throughout P s := by
  cases x with
  | error e => exact .done held
  | ok b => exact later b rfl

end Throughout

end Prog

/-! ## Pools of calls -/

section Pools
variable {σ ε α κ ω : Type}

structure Pool (σ ε α κ : Type) where
  shared : σ
  calls : List (κ × Prog σ ε α) := []

inductive Action (κ ω : Type) where
  | start (request : κ)
  | advance (call : Nat)
  | environment (operation : ω)

namespace Pool

/-- One operation of the call at a position, if it has one left. -/
def advance (P : Pool σ ε α κ) (i : Nat) : Pool σ ε α κ :=
  match P.calls[i]? with
  | some (k, .atomic next effect) =>
    { shared := effect P.shared, calls := P.calls.set i (k, next P.shared) }
  | _ => P

variable (body : κ → Prog σ ε α) (env : σ → ω → σ)

def step (P : Pool σ ε α κ) : Action κ ω → Pool σ ε α κ
  | .start k => { P with calls := P.calls ++ [(k, body k)] }
  | .advance i => P.advance i
  | .environment op => { P with shared := env P.shared op }

end Pool

/-- The turns a list of actions gives to a call. -/
def turns (i : Nat) (actions : List (Action κ ω)) : Nat :=
  actions.countP fun
    | .advance j => j = i
    | _ => false

section Turns
variable {body : κ → Prog σ ε α} {env : σ → ω → σ} {P : Pool σ ε α κ} {i : Nat} {k : κ}

/-- A call keeps its place and its request; only its own turn changes its program. -/
theorem step_call {p : Prog σ ε α} (found : P.calls[i]? = some (k, p)) (a : Action κ ω)
    (other : ∀ j, a = .advance j → j ≠ i) : (P.step body env a).calls[i]? = some (k, p) := by
  have inside := (List.getElem?_eq_some_iff.mp found).1
  cases a with
  | start request =>
    change (P.calls ++ [(request, body request)])[i]? = _
    rw [List.getElem?_append_left inside, found]
  | environment op => exact found
  | advance j =>
    have different := other j rfl
    change (P.advance j).calls[i]? = _
    unfold Pool.advance
    split
    · rw [List.getElem?_set_ne different, found]
    · exact found

theorem advance_call {next : σ → Prog σ ε α} {effect : σ → σ}
    (found : P.calls[i]? = some (k, .atomic next effect)) :
    (P.advance i).calls[i]? = some (k, next P.shared) ∧
      (P.advance i).shared = effect P.shared := by
  have inside := (List.getElem?_eq_some_iff.mp found).1
  unfold Pool.advance
  rw [found]
  exact ⟨List.getElem?_set_self inside, rfl⟩

theorem advance_done {r : Except ε α} (found : P.calls[i]? = some (k, .done r)) :
    P.advance i = P := by
  unfold Pool.advance
  rw [found]

theorem run_done_call {r : Except ε α} (actions : List (Action κ ω))
    (found : P.calls[i]? = some (k, .done r)) :
    (Runs.run (Pool.step body env) P actions).calls[i]? = some (k, .done r) := by
  induction actions generalizing P with
  | nil => exact found
  | cons a rest ih =>
    apply ih
    by_cases own : a = .advance i
    · subst own
      change (P.advance i).calls[i]? = _
      rw [advance_done found, found]
    · exact step_call found a fun j same => fun eq => own (eq ▸ same)

/-- A call with at most `n` operations left has ended after `n` turns. -/
theorem ended_after_turns {n : Nat} {p : Prog σ ε α} {actions : List (Action κ ω)}
    (found : P.calls[i]? = some (k, p)) (short : p.Within n) (enough : n ≤ turns i actions) :
    ∃ r, (Runs.run (Pool.step body env) P actions).calls[i]? = some (k, .done r) := by
  induction actions generalizing P n p with
  | nil =>
    have none_left : n = 0 := Nat.le_zero.mp enough
    subst none_left
    cases p with
    | done r => exact ⟨r, found⟩
    | atomic next effect => exact absurd short id
  | cons a rest ih =>
    cases p with
    | done r => exact ⟨r, run_done_call (a :: rest) found⟩
    | atomic next effect =>
      by_cases own : a = .advance i
      · subst own
        cases n with
        | zero => exact absurd short id
        | succ n =>
          have left : n ≤ turns i rest := by simpa [turns] using enough
          exact ih (advance_call found).1 (short P.shared) left
      · have same : turns i (a :: rest) = turns i rest := by
          cases a with
          | advance j =>
            have different : j ≠ i := fun eq => own (eq ▸ rfl)
            simp [turns, different]
          | start request => simp [turns]
          | environment op => simp [turns]
        exact ih (step_call found a fun j eq same => own (same ▸ eq)) short (same ▸ enough)

/-- Calls whose bodies are bounded stay bounded. -/
theorem within_step {n : Nat} (bodies : ∀ k, (body k).Within n)
    (short : ∀ call ∈ P.calls, call.2.Within n) (a : Action κ ω) :
    ∀ call ∈ (P.step body env a).calls, call.2.Within n := by
  cases a with
  | environment op => exact short
  | start k =>
    intro call member
    rcases List.mem_append.mp member with held | new
    · exact short call held
    · rw [List.mem_singleton.mp new]
      exact bodies k
  | advance i =>
    intro call member
    change call ∈ (P.advance i).calls at member
    unfold Pool.advance at member
    split at member
    · next k next effect found =>
      rcases List.mem_or_eq_of_mem_set member with held | rfl
      · exact short call held
      · have left := short _ (List.mem_of_getElem? found)
        cases n with
        | zero => exact absurd left id
        | succ n => exact (left P.shared).mono (Nat.le_succ n)
    · exact short call member

theorem within_run {n : Nat} (bodies : ∀ k, (body k).Within n)
    (short : ∀ call ∈ P.calls, call.2.Within n) (actions : List (Action κ ω)) :
    ∀ call ∈ (Runs.run (Pool.step body env) P actions).calls, call.2.Within n := by
  induction actions generalizing P with
  | nil => exact short
  | cons a rest ih => exact ih (within_step bodies short a)

end Turns

/-! ## Rely and guarantee -/

/-- What the calls of a pool may rely on and must guarantee. `rely` is what any
step of another call or of the environment does to the state; a step of a call
that is `admitted` where it is taken meets `guarantee` (state before, program
left, state after), and a call that ended meets `post` from then on. -/
structure Discipline (σ ε α κ : Type) where
  inv : σ → Prop
  rely : σ → σ → Prop
  admitted : κ → Prog σ ε α → σ → Prop
  guarantee : κ → σ → Prog σ ε α → σ → Prop
  post : κ → Except ε α → σ → Prop
  refl : ∀ s, inv s → rely s s
  trans : ∀ a b c, rely a b → rely b c → rely a c
  keeps : ∀ k s p t, inv s → guarantee k s p t → inv t ∧ rely s t

namespace Discipline
variable (D : Discipline σ ε α κ)

/-- From a state and whatever the others make of it, the program keeps to the
discipline. -/
def Sat (k : κ) : Prog σ ε α → σ → Prop
  | .done r, s => ∀ t, D.inv t → D.rely s t → D.post k r t
  | .atomic next effect, s => ∀ t, D.inv t → D.rely s t → D.admitted k (.atomic next effect) t →
      D.guarantee k t (next t) (effect t) ∧ Sat k (next t) (effect t)

variable {D}

/-- The others acting first changes nothing. -/
theorem Sat.after {k : κ} {p : Prog σ ε α} {s t : σ} (sat : D.Sat k p s) (moved : D.rely s t) :
    D.Sat k p t := by
  cases p with
  | done r => exact fun u inv later => sat u inv (D.trans _ _ _ moved later)
  | atomic next effect => exact fun u inv later => sat u inv (D.trans _ _ _ moved later)

/-- What comes after a check that may fail. -/
theorem Sat.lift {β : Type} {k : κ} {s : σ} (failed : ∀ e t, D.post k (.error e) t)
    (x : Except ε β) {f : β → Prog σ ε α} (each : ∀ b, x = .ok b → D.Sat k (f b) s) :
    D.Sat k ((.done x : Prog σ ε β) >>= f) s := by
  cases x with
  | error e => exact fun t _ _ => failed e t
  | ok b => exact each b rfl

/-- Operations that meet the guarantee in every state come before anything. -/
theorem Sat.effects {β : Type} {k : κ} {s : σ} {ok : (σ → σ) → Prop}
    (failed : ∀ e t, D.post k (.error e) t)
    (quiet : ∀ effect, ok effect → ∀ t left, D.inv t → D.guarantee k t left (effect t))
    {p : Prog σ ε β} (harmless : p.Effects ok) {f : β → Prog σ ε α}
    (later : ∀ b, D.Sat k (f b) s) : D.Sat k (p >>= f) s := by
  induction p generalizing s with
  | done r => exact Sat.lift failed r fun b _ => later b
  | atomic next effect ih =>
    intro t inv moved _
    have met := quiet effect harmless.1 t (next t >>= f) inv
    have moved' := D.trans _ _ _ moved (D.keeps _ _ _ _ inv met).2
    exact ⟨met, ih t (harmless.2 t) fun b => (later b).after moved'⟩

/-- One operation, and what comes after each of its results. -/
theorem Sat.operation {β : Type} {k : κ} {s : σ} (failed : ∀ e t, D.post k (.error e) t)
    {op : σ → Except ε β × σ} {f : β → Prog σ ε α}
    (each : ∀ t, D.inv t → D.rely s t → D.admitted k (Prog.operation op >>= f) t →
      (∀ left, D.guarantee k t left (op t).2) ∧ ∀ b, (op t).1 = .ok b → D.Sat k (f b) (op t).2) :
    D.Sat k (Prog.operation op >>= f) s := by
  intro t inv moved admitted
  obtain ⟨met, later⟩ := each t inv moved admitted
  exact ⟨met _, Sat.lift failed (op t).1 later⟩

/-- The invariant holds and every call keeps to the discipline. -/
structure Keeps (D : Discipline σ ε α κ) (P : Pool σ ε α κ) : Prop where
  inv : D.inv P.shared
  calls : ∀ call ∈ P.calls, D.Sat call.1 call.2 P.shared

variable {body : κ → Prog σ ε α} {env : σ → ω → σ}

/-- What the actions of a run meet: a started call keeps to the discipline, a
call that moves is admitted, the environment does what the calls rely on. -/
def Admits (D : Discipline σ ε α κ) (body : κ → Prog σ ε α) (env : σ → ω → σ) (P : Pool σ ε α κ) :
    Action κ ω → Prop
  | .start k => D.inv P.shared → D.Sat k (body k) P.shared
  | .advance i => ∀ call, P.calls[i]? = some call → D.admitted call.1 call.2 P.shared
  | .environment op => D.inv P.shared →
      D.inv (env P.shared op) ∧ D.rely P.shared (env P.shared op)

theorem Keeps.advance {P : Pool σ ε α κ} (keeps : D.Keeps P) {i : Nat}
    (admitted : ∀ call, P.calls[i]? = some call → D.admitted call.1 call.2 P.shared) :
    D.Keeps (P.advance i) ∧ D.rely P.shared (P.advance i).shared := by
  have still : D.Keeps P ∧ D.rely P.shared P.shared := ⟨keeps, D.refl _ keeps.inv⟩
  unfold Pool.advance
  split
  · next k next effect found =>
    have sat := keeps.calls _ (List.mem_of_getElem? found)
    obtain ⟨own, rest⟩ := sat P.shared keeps.inv (D.refl _ keeps.inv) (admitted _ found)
    obtain ⟨inv, moved⟩ := D.keeps _ _ _ _ keeps.inv own
    refine ⟨⟨inv, ?_⟩, moved⟩
    intro call member
    rcases List.mem_or_eq_of_mem_set member with held | rfl
    · exact (keeps.calls call held).after moved
    · exact rest
  · exact still

theorem Keeps.step {P : Pool σ ε α κ} (keeps : D.Keeps P) {a : Action κ ω}
    (admitted : D.Admits body env P a) :
    D.Keeps (P.step body env a) ∧ D.rely P.shared (P.step body env a).shared := by
  cases a with
  | start k =>
    refine ⟨⟨keeps.inv, ?_⟩, D.refl _ keeps.inv⟩
    intro call member
    rcases List.mem_append.mp member with held | new
    · exact keeps.calls call held
    · rw [List.mem_singleton.mp new]
      exact admitted keeps.inv
  | advance i => exact keeps.advance admitted
  | environment op =>
    obtain ⟨inv, moved⟩ := admitted keeps.inv
    exact ⟨⟨inv, fun call member => (keeps.calls call member).after moved⟩, moved⟩

/-- Parallel rule: along every admitted run the discipline is kept, and the
shared state only moves as the calls rely on. -/
theorem sound {P : Pool σ ε α κ} {actions : List (Action κ ω)} (keeps : D.Keeps P)
    (admitted : Runs.Along (Pool.step body env) (D.Admits body env) P actions) :
    D.Keeps (Runs.run (Pool.step body env) P actions) ∧
      D.rely P.shared (Runs.run (Pool.step body env) P actions).shared := by
  induction actions generalizing P with
  | nil => exact ⟨keeps, D.refl _ keeps.inv⟩
  | cons a rest ih =>
    obtain ⟨next, moved⟩ := keeps.step admitted.1
    obtain ⟨final, later⟩ := ih next admitted.2
    exact ⟨final, D.trans _ _ _ moved later⟩

end Discipline

end Pools
end DwSuperApps.Lib.Programs
