import Mathlib

/-!
# Records found by key

Rules for `next(item for item in items if item.key == key)` over lists whose keys
are distinct.
-/
namespace DwSuperApps.Lib.Keyed

universe u v
variable {α : Type u} {β : Type v} [DecidableEq β] {key : α → β} {items : List α}

theorem find_some {k : β} {item : α} (found : items.find? (key · = k) = some item) :
    item ∈ items ∧ key item = k := by
  have holds := List.find?_some found
  exact ⟨List.mem_of_find?_eq_some found, of_decide_eq_true holds⟩

theorem find_none {k : β} (absent : items.find? (key · = k) = none) :
    ∀ item ∈ items, key item ≠ k := by
  intro item member
  simpa using List.find?_eq_none.mp absent item member

/-- Under distinct keys an item is found by its own. -/
theorem find_of_mem (unique : (items.map key).Nodup) {item : α} (member : item ∈ items) :
    items.find? (key · = key item) = some item := by
  cases found : items.find? (key · = key item) with
  | none => exact absurd rfl (find_none found item member)
  | some other =>
    obtain ⟨held, same⟩ := find_some found
    rw [List.inj_on_of_nodup_map unique held member same]

/-- A filter that at most one item passes. -/
theorem filter_unique {P : α → Prop} [DecidablePred P] (distinct : items.Nodup)
    (unique : ∀ a ∈ items, ∀ b ∈ items, P a → P b → a = b) :
    items.filter P = [] ∨ ∃ a ∈ items, P a ∧ items.filter P = [a] := by
  have kept := distinct.filter (fun a => decide (P a))
  cases shape : items.filter P with
  | nil => exact .inl rfl
  | cons a rest =>
    have each : ∀ b ∈ a :: rest, b ∈ items ∧ P b := by
      intro b member
      rw [← shape] at member
      simpa using member
    obtain ⟨inside, holds⟩ := each a List.mem_cons_self
    refine .inr ⟨a, inside, holds, ?_⟩
    cases rest with
    | nil => rfl
    | cons b rest =>
      obtain ⟨other, also⟩ := each b (List.mem_cons_of_mem a List.mem_cons_self)
      rw [shape, unique a inside b other holds also] at kept
      simp at kept

/-- The item that a filter passes, where only one can pass. -/
theorem filter_eq {P : α → Prop} [DecidablePred P] (distinct : items.Nodup)
    (unique : ∀ a ∈ items, ∀ b ∈ items, P a → P b → a = b) {item : α} (member : item ∈ items)
    (holds : P item) : items.filter P = [item] := by
  rcases filter_unique distinct unique with none | ⟨a, inside, first, shape⟩
  · exact absurd holds (by simpa using List.filter_eq_nil_iff.mp none item member)
  · rw [shape, unique a inside item member first holds]

/-- Under distinct keys the order of the items does not matter. -/
theorem find_perm {others : List α} (unique : (items.map key).Nodup) (same : items.Perm others)
    (k : β) : items.find? (key · = k) = others.find? (key · = k) := by
  have uniqueOthers : (others.map key).Nodup := (same.map key).nodup_iff.mp unique
  cases found : items.find? (key · = k) with
  | none =>
    refine (List.find?_eq_none.mpr fun item member => ?_).symm
    simpa using find_none found item (same.mem_iff.mpr member)
  | some item =>
    obtain ⟨member, rfl⟩ := find_some found
    exact (find_of_mem uniqueOthers (same.mem_iff.mp member)).symm

/-! ## Association lists -/

section Lookup
variable {γ : Type v} {pairs : List (β × γ)}

theorem lookup_iff (unique : (pairs.map Prod.fst).Nodup) {k : β} {v : γ} :
    pairs.lookup k = some v ↔ (k, v) ∈ pairs := by
  induction pairs with
  | nil => simp
  | cons pair rest ih =>
    obtain ⟨j, w⟩ := pair
    obtain ⟨fresh, others⟩ := List.nodup_cons.mp unique
    rw [List.lookup_cons, List.mem_cons, Prod.mk.injEq]
    by_cases here : k = j
    · subst here
      have absent : (k, v) ∉ rest := fun member => fresh (List.mem_map.mpr ⟨(k, v), member, rfl⟩)
      simp only [beq_self_eq_true, Option.some.injEq, true_and, absent, or_false]
      exact eq_comm
    · rw [beq_false_of_ne here]
      simp only [here, false_and, false_or]
      exact ih others

theorem lookup_none {k : β} : pairs.lookup k = none ↔ k ∉ pairs.map Prod.fst := by
  rw [List.lookup_eq_none_iff, List.mem_map]
  constructor
  · rintro none ⟨p, member, rfl⟩
    simpa using none p member
  · intro absent p member
    rw [bne_iff_ne]
    rintro rfl
    exact absent ⟨p, member, rfl⟩

/-- Under distinct keys the order of the pairs does not matter. -/
theorem lookup_perm {others : List (β × γ)} (unique : (pairs.map Prod.fst).Nodup)
    (same : pairs.Perm others) (k : β) : pairs.lookup k = others.lookup k := by
  have uniqueOthers : (others.map Prod.fst).Nodup := (same.map Prod.fst).nodup_iff.mp unique
  cases found : pairs.lookup k with
  | none =>
    rw [lookup_none] at found
    exact (lookup_none.mpr fun member => found ((same.map Prod.fst).mem_iff.mpr member)).symm
  | some v =>
    exact ((lookup_iff uniqueOthers).mpr (same.mem_iff.mp ((lookup_iff unique).mp found))).symm

end Lookup

end DwSuperApps.Lib.Keyed
