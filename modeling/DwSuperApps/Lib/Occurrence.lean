import Mathlib

/-!
# First occurrences

A list cut at the first place where another list begins. Where that place is depends on
what stands before the delimiter and on the delimiter alone, not on what follows.
-/
namespace DwSuperApps.Lib.Occurrence

universe u
variable {α : Type u} [DecidableEq α]

/-- What stands before and behind the first occurrence of `d`. -/
def splitFirst (d : List α) : List α → Option (List α × List α)
  | [] => if d = [] then some ([], []) else none
  | c :: rest =>
    if d <+: c :: rest then some ([], (c :: rest).drop d.length)
    else (splitFirst d rest).map fun (front, back) => (c :: front, back)

/-- Put behind `a`, the delimiter occurs nowhere before its own place. -/
def First (d a : List α) : Prop := ∀ k < a.length, ¬ d <+: (a ++ d).drop k

instance (d a : List α) : Decidable (First d a) := by unfold First; infer_instance

variable {d a b l : List α}

omit [DecidableEq α] in
theorem prefix_front {k : Nat} (inside : k < a.length) :
    d <+: (a ++ d ++ b).drop k ↔ d <+: (a ++ d).drop k := by
  rw [List.drop_append_of_le_length (by rw [List.length_append]; omega)]
  constructor
  · intro here
    exact List.prefix_of_prefix_length_le here (List.prefix_append _ _)
      (by rw [List.length_drop, List.length_append]; omega)
  · exact fun here => here.trans (List.prefix_append _ _)

omit [DecidableEq α] in
theorem first_cons {c : α} : First d (c :: a) ↔ ¬ d <+: c :: (a ++ d) ∧ First d a := by
  unfold First
  constructor
  · intro first
    refine ⟨first 0 (by simp), ?_⟩
    intro k inside
    exact first (k + 1) (by simpa using inside)
  · rintro ⟨here, later⟩ k inside
    cases k with
    | zero => exact here
    | succ k => exact later k (by simpa using inside)

theorem splitFirst_iff :
    splitFirst d l = some (a, b) ↔ l = a ++ d ++ b ∧ First d a := by
  induction l generalizing a with
  | nil =>
    unfold splitFirst
    split
    · next empty =>
      rw [Option.some.injEq, Prod.mk.injEq, empty]
      constructor
      · rintro ⟨rfl, rfl⟩
        exact ⟨rfl, fun k inside => absurd inside (Nat.not_lt_zero k)⟩
      · rintro ⟨split, -⟩
        have parts := List.append_eq_nil_iff.mp split.symm
        exact ⟨(List.append_eq_nil_iff.mp parts.1).1.symm, parts.2.symm⟩
    · next full =>
      refine iff_of_false (fun impossible => nomatch impossible) ?_
      rintro ⟨split, -⟩
      exact full (List.append_eq_nil_iff.mp (List.append_eq_nil_iff.mp split.symm).1).2
  | cons c rest ih =>
    unfold splitFirst
    split
    · next here =>
      rw [Option.some.injEq, Prod.mk.injEq]
      constructor
      · rintro ⟨rfl, rfl⟩
        exact ⟨(List.prefix_append_drop here), fun k inside => absurd inside (Nat.not_lt_zero k)⟩
      · rintro ⟨split, first⟩
        cases a with
        | nil =>
          refine ⟨rfl, ?_⟩
          rw [split, List.nil_append, List.drop_left]
        | cons e front =>
          have clear := first 0 (by simp)
          rw [← prefix_front (b := b) (by simp), ← split] at clear
          exact absurd here clear
    · next elsewhere =>
      rw [Option.map_eq_some_iff]
      constructor
      · rintro ⟨⟨front, back⟩, found, made⟩
        cases made
        obtain ⟨split, first⟩ := ih.mp found
        refine ⟨by rw [split]; rfl, first_cons.mpr ⟨?_, first⟩⟩
        intro early
        refine elsewhere ?_
        rw [split]
        exact early.trans (List.prefix_append (c :: (front ++ d)) b)
      · rintro ⟨split, first⟩
        cases a with
        | nil =>
          rw [List.nil_append] at split
          exact absurd (split ▸ List.prefix_append d b) elsewhere
        | cons e front =>
          obtain ⟨rfl, tail⟩ := List.cons.inj split
          exact ⟨(front, b), ih.mpr ⟨tail, (first_cons.mp first).2⟩, rfl⟩

theorem splitFirst_none : splitFirst d l = none ↔ ¬ d <:+: l := by
  induction l with
  | nil =>
    unfold splitFirst
    split
    · next empty => simp [empty]
    · next full => simp [full]
  | cons c rest ih =>
    unfold splitFirst
    split
    · next here => exact iff_of_false (fun impossible => nomatch impossible) fun absent => absent here.isInfix
    · next elsewhere =>
      rw [Option.map_eq_none_iff, ih, List.infix_cons_iff]
      tauto

theorem splitFirst_append (first : First d a) : splitFirst d (a ++ d ++ b) = some (a, b) :=
  splitFirst_iff.mpr ⟨rfl, first⟩

omit [DecidableEq α] in
theorem first_single {c : α} : First [c] a ↔ c ∉ a := by
  induction a with
  | nil => exact iff_of_true (fun k inside => absurd inside (Nat.not_lt_zero k)) (by simp)
  | cons e a ih =>
    rw [first_cons, ih, List.mem_cons, not_or, List.cons_prefix_cons]
    simp

/-- A cut at the first place of one element. -/
theorem splitFirst_single {c : α} : splitFirst [c] l = some (a, b) ↔ l = a ++ c :: b ∧ c ∉ a := by
  rw [splitFirst_iff, first_single, List.append_assoc, List.singleton_append]

theorem splitFirst_single_none {c : α} : splitFirst [c] l = none ↔ c ∉ l := by
  rw [splitFirst_none, List.singleton_infix_iff]

omit [DecidableEq α] in
/-- A delimiter that begins with what cannot occur before its place. -/
theorem First.of_prefix {p : List α} (first : First p a) (begins : p <+: d) : First d a := by
  obtain ⟨rest, rfl⟩ := begins
  intro k inside here
  refine first k inside ?_
  have front : p <+: (a ++ p ++ rest).drop k := by
    rw [List.append_assoc]
    exact (List.prefix_append p rest).trans here
  exact (prefix_front inside).mp front

/-! ## Parts without the delimiter -/

section Parts
omit [DecidableEq α]
variable {c : α} {v p : List α}

/-- What stands on neither side of a separator stands nowhere. -/
theorem infix_separated (full : d ≠ []) (apart : c ∉ d) :
    d <:+: a ++ c :: b ↔ d <:+: a ∨ d <:+: b := by
  constructor
  · rintro ⟨front, back, whole⟩
    rcases List.append_eq_append_iff.mp whole with ⟨rest, left, -⟩ | ⟨rest, left, right⟩
    · exact .inl ⟨front, rest, left.symm⟩
    · rcases List.append_eq_append_iff.mp left with ⟨more, rfl, inside⟩ | ⟨more, rfl, inside⟩
      · -- the separator would stand in the delimiter
        cases rest with
        | nil =>
          rw [List.append_nil] at inside
          exact .inl ⟨front, [], by rw [List.append_nil, inside]⟩
        | cons e rest =>
          obtain ⟨rfl, -⟩ := List.cons.inj right
          refine absurd ?_ apart
          rw [inside]
          exact List.mem_append_right _ List.mem_cons_self
      · rw [inside] at right
        cases more with
        | nil =>
          cases d with
          | nil => exact absurd rfl full
          | cons e rest =>
            obtain ⟨rfl, -⟩ := List.cons.inj right
            exact absurd List.mem_cons_self apart
        | cons e more =>
          obtain ⟨rfl, tail⟩ := List.cons.inj right
          exact .inr ⟨more, back, tail.symm⟩
  · rintro (left | right)
    · exact left.trans (List.infix_append' [] a (c :: b))
    · exact right.trans ⟨a ++ [c], [], by simp⟩

/-- A part without the first element of the delimiter does not count. -/
theorem infix_behind (absent : c ∉ p) : c :: d <:+: p ++ v ↔ c :: d <:+: v := by
  induction p with
  | nil => rfl
  | cons e p ih =>
    rw [List.cons_append, List.infix_cons_iff, ih fun inside => absent (List.mem_cons_of_mem _ inside)]
    constructor
    · rintro (here | later)
      · obtain ⟨rfl, -⟩ := List.cons_prefix_cons.mp here
        exact absurd List.mem_cons_self absent
      · exact later
    · exact .inr

theorem not_infix_of_head (absent : c ∉ v) : ¬ c :: d <:+: v := by
  intro inside
  exact absent (inside.subset List.mem_cons_self)

end Parts

end DwSuperApps.Lib.Occurrence
