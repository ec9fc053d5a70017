import Mathlib

/-!
# Runs of a step function

A system is a total step function on an explicit state; every choice the
environment makes (which message arrives next, which pending call completes) is
part of the action. A run is the left fold of the step over a list of actions.
`Along` says that every action of a run meets a condition in the state it is
taken in, and the two rules below lift a step lemma to whole runs.
-/
namespace DwSuperApps.Lib.Runs

universe u v
variable {σ : Type u} {ι : Type v}

/-- State reached from `s` by the actions in order. -/
def run (step : σ → ι → σ) (s : σ) (actions : List ι) : σ :=
  actions.foldl step s

/-- Every action of the run is admitted by `ok` in the state it is taken in. -/
def Along (step : σ → ι → σ) (ok : σ → ι → Prop) : σ → List ι → Prop
  | _, [] => True
  | s, a :: rest => ok s a ∧ Along step ok (step s a) rest

instance decidableAlong (step : σ → ι → σ) (ok : σ → ι → Prop) [∀ s a, Decidable (ok s a)] :
    ∀ (s : σ) (actions : List ι), Decidable (Along step ok s actions)
  | _, [] => isTrue trivial
  | s, a :: rest =>
    have := decidableAlong step ok (step s a) rest
    inferInstanceAs (Decidable (ok s a ∧ Along step ok (step s a) rest))

section Basic
variable (step : σ → ι → σ) (ok : σ → ι → Prop)

@[simp] theorem run_nil (s : σ) : run step s [] = s := rfl

@[simp] theorem run_cons (s : σ) (a : ι) (rest : List ι) :
    run step s (a :: rest) = run step (step s a) rest := rfl

theorem run_append (s : σ) (xs ys : List ι) :
    run step s (xs ++ ys) = run step (run step s xs) ys :=
  List.foldl_append

@[simp] theorem along_nil (s : σ) : Along step ok s [] := trivial

@[simp] theorem along_cons (s : σ) (a : ι) (rest : List ι) :
    Along step ok s (a :: rest) ↔ ok s a ∧ Along step ok (step s a) rest := Iff.rfl

theorem along_append (s : σ) (xs ys : List ι) :
    Along step ok s (xs ++ ys) ↔ Along step ok s xs ∧ Along step ok (run step s xs) ys := by
  induction xs generalizing s with
  | nil => simp
  | cons x rest ih => simp [ih, and_assoc]

end Basic

/-- `P` holds in every state of the run, the first and the last included. -/
def Always (step : σ → ι → σ) (P : σ → Prop) : σ → List ι → Prop
  | s, [] => P s
  | s, a :: rest => P s ∧ Always step P (step s a) rest

variable {step : σ → ι → σ} {ok : σ → ι → Prop} {Inv : σ → Prop}

/-- The states of a run are the ends of its beginnings. -/
theorem always_iff {P : σ → Prop} {s : σ} {actions : List ι} :
    Always step P s actions ↔ ∀ xs ys, actions = xs ++ ys → P (run step s xs) := by
  induction actions generalizing s with
  | nil =>
    constructor
    · intro holds xs ys split
      obtain ⟨rfl, -⟩ := List.append_eq_nil_iff.mp split.symm
      exact holds
    · intro all
      exact all [] [] rfl
  | cons a rest ih =>
    constructor
    · rintro ⟨first, later⟩ xs ys split
      cases xs with
      | nil => exact first
      | cons x xs =>
        obtain ⟨rfl, tail⟩ := List.cons.inj split
        exact ih.mp later xs ys tail
    · intro all
      exact ⟨all [] _ rfl, ih.mpr fun xs ys split => all (a :: xs) ys (by rw [split]; rfl)⟩

/-- The actions of a run are taken at the ends of its beginnings. -/
theorem along_iff {s : σ} {actions : List ι} :
    Along step ok s actions ↔ ∀ xs a ys, actions = xs ++ a :: ys → ok (run step s xs) a := by
  induction actions generalizing s with
  | nil =>
    refine ⟨fun _ xs a ys split => ?_, fun _ => trivial⟩
    cases (List.append_eq_nil_iff.mp split.symm).2
  | cons b rest ih =>
    constructor
    · rintro ⟨first, later⟩ xs a ys split
      cases xs with
      | nil =>
        obtain ⟨rfl, -⟩ := List.cons.inj split
        exact first
      | cons x xs =>
        obtain ⟨rfl, tail⟩ := List.cons.inj split
        exact ih.mp later xs a ys tail
    · intro all
      refine ⟨all [] b rest rfl, ih.mpr fun xs a ys split => ?_⟩
      exact all (b :: xs) a ys (congrArg (b :: ·) split)

/-- Where a step keeps the property exactly under its condition, a run has it
throughout exactly when every action meets the condition. -/
theorem always_iff_along {P : σ → Prop} {q : ι → Prop}
    (kept : ∀ s a, q a → Inv s → Inv (step s a))
    (exact : ∀ s a, q a → Inv s → P s → (P (step s a) ↔ ok s a)) {s : σ} {actions : List ι}
    (all : ∀ a ∈ actions, q a) (start : Inv s) (holds : P s) :
    Always step P s actions ↔ Along step ok s actions := by
  induction actions generalizing s with
  | nil => exact ⟨fun _ => trivial, fun _ => holds⟩
  | cons a rest ih =>
    have first := all a (List.mem_cons_self ..)
    have others : ∀ b ∈ rest, q b := fun b member => all b (List.mem_cons_of_mem a member)
    have inv := kept s a first start
    constructor
    · rintro ⟨-, later⟩
      have next : P (step s a) := always_iff.mp later [] rest rfl
      exact ⟨(exact s a first start holds).mp next, (ih others inv next).mp later⟩
    · rintro ⟨admitted, later⟩
      have next := (exact s a first start holds).mpr admitted
      exact ⟨holds, (ih others inv next).mpr later⟩

/-- A run that is not admitted throughout has a first action that is not admitted. -/
theorem exists_first_refused {s : σ} {actions : List ι} (refused : ¬ Along step ok s actions) :
    ∃ xs a ys, actions = xs ++ a :: ys ∧ Along step ok s xs ∧ ¬ ok (run step s xs) a := by
  induction actions generalizing s with
  | nil => exact absurd trivial refused
  | cons a rest ih =>
    by_cases first : ok s a
    · obtain ⟨xs, b, ys, split, admitted, here⟩ := ih fun later => refused ⟨first, later⟩
      exact ⟨a :: xs, b, ys, by rw [split]; rfl, ⟨first, admitted⟩, here⟩
    · exact ⟨[], a, rest, rfl, trivial, first⟩

/-- What an invariant implies holds throughout a run that keeps the invariant. -/
theorem always_of_invariant {P : σ → Prop} (preserved : ∀ s a, Inv s → ok s a → Inv (step s a))
    (implies : ∀ s, Inv s → P s) {s : σ} {actions : List ι} (start : Inv s)
    (admitted : Along step ok s actions) : Always step P s actions := by
  induction actions generalizing s with
  | nil => exact implies s start
  | cons a rest ih =>
    exact ⟨implies s start, ih (preserved s a start admitted.1) admitted.2⟩

theorem Along.mono {ok' : σ → ι → Prop} (weaker : ∀ s a, ok s a → ok' s a)
    {s : σ} {actions : List ι} (h : Along step ok s actions) : Along step ok' s actions := by
  induction actions generalizing s with
  | nil => trivial
  | cons a rest ih => exact ⟨weaker s a h.1, ih h.2⟩

/-- A condition that admits every action holds along every run. -/
theorem along_of_forall (all : ∀ s a, ok s a) (s : σ) (actions : List ι) :
    Along step ok s actions := by
  induction actions generalizing s with
  | nil => trivial
  | cons a rest ih => exact ⟨all s a, ih (step s a)⟩

/-- A condition on the actions alone. -/
theorem along_of_mem {q : ι → Prop} {s : σ} {actions : List ι} (all : ∀ a ∈ actions, q a) :
    Along step (fun _ a => q a) s actions := by
  induction actions generalizing s with
  | nil => trivial
  | cons a rest ih =>
    exact ⟨all a (List.mem_cons_self ..), ih fun b member => all b (List.mem_cons_of_mem a member)⟩

theorem Along.and {ok' : σ → ι → Prop} {s : σ} {actions : List ι} (h : Along step ok s actions)
    (h' : Along step ok' s actions) : Along step (fun s a => ok s a ∧ ok' s a) s actions := by
  induction actions generalizing s with
  | nil => trivial
  | cons a rest ih => exact ⟨⟨h.1, h'.1⟩, ih h.2 h'.2⟩

/-- Along a run that keeps an invariant, a condition may use it. -/
theorem Along.weaken {ok' : σ → ι → Prop} (preserved : ∀ s a, Inv s → ok s a → Inv (step s a))
    (weaker : ∀ s a, Inv s → ok s a → ok' s a) {s : σ} {actions : List ι} (start : Inv s)
    (h : Along step ok s actions) : Along step ok' s actions := by
  induction actions generalizing s with
  | nil => trivial
  | cons a rest ih => exact ⟨weaker s a start h.1, ih (preserved s a start h.1) h.2⟩

/-- Invariant rule: a step lemma under the condition gives the run lemma. -/
theorem run_invariant (preserved : ∀ s a, Inv s → ok s a → Inv (step s a))
    {s : σ} {actions : List ι} (start : Inv s) (admitted : Along step ok s actions) :
    Inv (run step s actions) := by
  induction actions generalizing s with
  | nil => exact start
  | cons a rest ih => exact ih (preserved s a start admitted.1) admitted.2

/-- Invariant rule for steps that preserve the invariant without a condition. -/
theorem run_invariant_of_forall (preserved : ∀ s a, Inv s → Inv (step s a))
    {s : σ} (actions : List ι) (start : Inv s) : Inv (run step s actions) := by
  have everywhere : Along step (fun _ _ => True) s actions :=
    along_of_forall (fun _ _ => trivial) s actions
  exact run_invariant (fun s a h _ => preserved s a h) start everywhere

/-- A relation every step respects holds between the ends of a run. -/
theorem run_relation {R : σ → σ → Prop} (refl : ∀ s, R s s)
    (trans : ∀ a b c, R a b → R b c → R a c)
    (preserved : ∀ s a, Inv s → ok s a → Inv (step s a) ∧ R s (step s a))
    {s : σ} {actions : List ι} (start : Inv s) (admitted : Along step ok s actions) :
    R s (run step s actions) := by
  induction actions generalizing s with
  | nil => exact refl s
  | cons a rest ih =>
    have next := preserved s a start admitted.1
    exact trans _ _ _ next.2 (ih next.1 admitted.2)

end DwSuperApps.Lib.Runs
