import Mathlib

/-!
# Programs that keep their state when they fail

A program of `EStateM` changes a state and returns or throws; what it changed before it threw
stays. `Keeps pre x post failed` says what holds behind either end, and the rules below read it
off the parts of a program. `runAll` is a loop over a list, and `keeps_runAll` its rule.
-/
namespace DwSuperApps.Lib.Stateful

universe u
variable {ε σ α β : Type u}

/-- From a state with `pre` the program returns with `post` or throws with `failed`. -/
def Keeps (pre : σ → Prop) (x : EStateM ε σ α) (post : α → σ → Prop) (failed : σ → Prop) : Prop :=
  ∀ s, pre s → match x s with
    | .ok a t => post a t
    | .error _ t => failed t

/-- The state a program leaves. -/
def left (x : EStateM ε σ α) (s : σ) : σ :=
  match x s with
  | .ok _ t => t
  | .error _ t => t

/-- An `Except` as a program that leaves the state as it is. -/
def attempt (x : Except ε α) : EStateM ε σ α :=
  match x with
  | .ok a => pure a
  | .error e => throw e

variable {pre : σ → Prop} {failed : σ → Prop} {x : EStateM ε σ α} {f : α → EStateM ε σ β}
  {q post : α → σ → Prop} {final : β → σ → Prop}

theorem keeps_pure {a : α} (kept : ∀ s, pre s → post a s) : Keeps pre (pure a : EStateM ε σ α) post failed :=
  kept

theorem keeps_bind (first : Keeps pre x q failed) (later : ∀ a, Keeps (q a) (f a) final failed) :
    Keeps pre (x >>= f) final failed := by
  intro s holds
  have here := first s holds
  change match EStateM.bind x f s with
    | .ok b t => final b t
    | .error _ t => failed t
  unfold EStateM.bind
  cases done : x s with
  | ok a t =>
    rw [done] at here
    exact later a t here
  | error e t =>
    rw [done] at here
    exact here

theorem keeps_attempt {y : Except ε α} (returned : ∀ a s, y = .ok a → pre s → post a s)
    (thrown : ∀ e s, y = .error e → pre s → failed s) : Keeps pre (attempt y : EStateM ε σ α) post failed := by
  intro s holds
  cases y with
  | ok a => exact returned a s rfl holds
  | error e => exact thrown e s rfl holds

theorem keeps_get {read : σ → σ → Prop} (kept : ∀ s, pre s → read s s) :
    Keeps pre (get : EStateM ε σ σ) read failed :=
  kept

theorem keeps_modify {change : σ → σ} {after : PUnit → σ → Prop} (kept : ∀ s, pre s → after ⟨⟩ (change s)) :
    Keeps pre (modify change : EStateM ε σ PUnit) after failed :=
  kept

theorem Keeps.weaken {other : σ → Prop} {done : α → σ → Prop} {thrown : σ → Prop}
    (keeps : Keeps pre x post failed) (before : ∀ s, other s → pre s) (after : ∀ a s, post a s → done a s)
    (stopped : ∀ s, failed s → thrown s) : Keeps other x done thrown := by
  intro s holds
  have here := keeps s (before s holds)
  cases done : x s with
  | ok a t =>
    rw [done] at here
    exact after a t here
  | error e t =>
    rw [done] at here
    exact stopped t here

/-- What a program leaves, however it ends. -/
theorem left_of {I : σ → Prop} (keeps : Keeps pre x (fun _ => I) I) {s : σ}
    (holds : pre s) : I (left x s) := by
  have here := keeps s holds
  unfold left
  cases done : x s with
  | ok a t =>
    rw [done] at here
    exact here
  | error e t =>
    rw [done] at here
    exact here

/-- `for item in items: body(item)`. -/
def runAll (body : α → EStateM ε σ PUnit) : List α → EStateM ε σ PUnit
  | [] => pure ⟨⟩
  | item :: rest => body item >>= fun _ => runAll body rest

/-- What every round keeps, the loop keeps. -/
theorem keeps_runAll {I : σ → Prop} {body : α → EStateM ε σ PUnit} {items : List α}
    (each : ∀ item ∈ items, Keeps I (body item) (fun _ => I) I) :
    Keeps I (runAll body items) (fun _ => I) I := by
  induction items with
  | nil => exact keeps_pure fun s holds => holds
  | cons item rest ih =>
    exact keeps_bind (each item List.mem_cons_self) fun _ =>
      ih fun other member => each other (List.mem_cons_of_mem item member)

end DwSuperApps.Lib.Stateful
