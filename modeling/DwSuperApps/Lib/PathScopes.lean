import Mathlib

/-!
# Scopes of paths

A scope is a root and how far below the root it reaches. `Inside` compares two scopes by
their roots alone; it is an order under which covering is monotone. Where finitely many
scopes cover a path two unknown segments below a root, one of them reaches the whole
subtree of that root.
-/
namespace DwSuperApps.Lib.PathScopes

universe u
variable {α : Type u}

/-- How far below its root a scope reaches. -/
inductive Reach where
  | subtree | oneLevel
  deriving DecidableEq

structure Scope (α : Type u) where
  root : List α
  reach : Reach
  deriving DecidableEq

namespace Scope

def Covers (scope : Scope α) (path : List α) : Prop :=
  match scope.reach with
  | .subtree => scope.root <+: path
  | .oneLevel => ∃ segment, path = scope.root ++ [segment]

/-- The scopes are the same, or the outer one holds the subtree the inner root is in. -/
def Inside (inner outer : Scope α) : Prop :=
  inner = outer ∨ outer.reach = .subtree ∧ outer.root <+: inner.root

variable {a b c : Scope α} {path : List α}

theorem covers_subtree (whole : a.reach = .subtree) : a.Covers path ↔ a.root <+: path := by
  rw [Covers, whole]

theorem covers_oneLevel (level : a.reach = .oneLevel) :
    a.Covers path ↔ ∃ segment, path = a.root ++ [segment] := by
  rw [Covers, level]

/-- What a scope covers is below its root. -/
theorem Covers.root_prefix (covered : a.Covers path) : a.root <+: path := by
  cases reach : a.reach with
  | subtree => exact (covers_subtree reach).mp covered
  | oneLevel =>
    obtain ⟨segment, rfl⟩ := (covers_oneLevel reach).mp covered
    exact List.prefix_append ..

theorem Inside.refl (a : Scope α) : a.Inside a := .inl rfl

theorem Inside.trans (inner : a.Inside b) (outer : b.Inside c) : a.Inside c := by
  rcases outer with rfl | ⟨whole, below⟩
  · exact inner
  · rcases inner with rfl | ⟨-, under⟩
    · exact .inr ⟨whole, below⟩
    · exact .inr ⟨whole, below.trans under⟩

theorem Inside.covers (inside : a.Inside b) (covered : a.Covers path) : b.Covers path := by
  rcases inside with rfl | ⟨whole, below⟩
  · exact covered
  · exact (covers_subtree whole).mpr (below.trans covered.root_prefix)

end Scope

/-- A path two segments below `root`, which none of the scopes names, is covered only by
a scope that reaches the whole subtree of `root`. -/
theorem exists_subtree_of_covers {scopes : List (Scope α)} {root : List α} {fresh : α}
    (absent : ∀ scope ∈ scopes, fresh ∉ scope.root)
    (covered : ∃ scope ∈ scopes, scope.Covers (root ++ [fresh, fresh])) :
    ∃ scope ∈ scopes, scope.reach = .subtree ∧ scope.root <+: root := by
  obtain ⟨scope, member, covers⟩ := covered
  have unnamed := absent scope member
  refine ⟨scope, member, ?_⟩
  cases reach : scope.reach with
  | subtree =>
    have below := (Scope.covers_subtree reach).mp covers
    refine ⟨rfl, ?_⟩
    rcases List.prefix_or_prefix_of_prefix below (List.prefix_append root _) with short | ⟨rest, shape⟩
    · exact short
    · -- a longer root would name the fresh segment
      rw [← shape, List.prefix_append_right_inj] at below
      cases rest with
      | nil =>
        rw [← shape, List.append_nil]
      | cons first others =>
        obtain ⟨rfl, -⟩ := List.cons_prefix_cons.mp below
        exact absurd (shape ▸ List.mem_append_right _ List.mem_cons_self) unnamed
  | oneLevel =>
    obtain ⟨segment, shape⟩ := (Scope.covers_oneLevel reach).mp covers
    have parts : root ++ [fresh] ++ [fresh] = scope.root ++ [segment] := by
      rw [List.append_assoc]
      exact shape
    have same : root ++ [fresh] = scope.root := (List.append_inj' parts rfl).1
    exact absurd (same ▸ List.mem_append_right _ (List.mem_singleton_self fresh)) unnamed

end DwSuperApps.Lib.PathScopes
