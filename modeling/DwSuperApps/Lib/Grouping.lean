import Mathlib

/-!
# Items grouped by key

`groups.setdefault(key(item), []).append(item)` over a list, the keys sorted
afterwards: every item is in the group of its own key and in no other.
-/
namespace DwSuperApps.Lib.Grouping

universe u v
variable {α : Type u} {κ : Type v} [DecidableEq κ]

/-- The items under a key, in order. -/
def groupOf (key : α → κ) (items : List α) (k : κ) : List α := items.filter (key · = k)

/-- The distinct keys of the items, sorted. -/
def sortedKeys (le : κ → κ → Prop) [DecidableRel le] (key : α → κ) (items : List α) : List κ :=
  (items.map key).dedup.insertionSort le

variable {le : κ → κ → Prop} [DecidableRel le] {key : α → κ} {items : List α}

@[simp] theorem mem_sortedKeys {k : κ} : k ∈ sortedKeys le key items ↔ ∃ a ∈ items, key a = k := by
  unfold sortedKeys
  rw [(List.perm_insertionSort le _).mem_iff, List.mem_dedup, List.mem_map]

@[simp] theorem mem_groupOf {k : κ} {a : α} : a ∈ groupOf key items k ↔ a ∈ items ∧ key a = k := by
  unfold groupOf
  rw [List.mem_filter, decide_eq_true_iff]

theorem groupOf_ne_nil {k : κ} (member : k ∈ sortedKeys le key items) : groupOf key items k ≠ [] := by
  obtain ⟨a, inside, same⟩ := mem_sortedKeys.mp member
  exact List.ne_nil_of_mem (mem_groupOf.mpr ⟨inside, same⟩)

theorem sortedKeys_nodup : (sortedKeys le key items).Nodup :=
  (List.perm_insertionSort le _).nodup_iff.mpr (List.nodup_dedup _)

/-- The groups of distinct keys that cover the items are the items. -/
theorem flatten_groups {keys : List κ} (distinct : keys.Nodup) (covers : ∀ a ∈ items, key a ∈ keys) :
    (keys.map (groupOf key items)).flatten.Perm items := by
  induction keys generalizing items with
  | nil =>
    obtain rfl : items = [] := List.eq_nil_iff_forall_not_mem.mpr fun a member =>
      List.not_mem_nil (covers a member)
    exact .nil
  | cons k rest ih =>
    obtain ⟨fresh, distinct⟩ := List.nodup_cons.mp distinct
    have later : rest.map (groupOf key items) =
        rest.map (groupOf key (items.filter fun a => !decide (key a = k))) := by
      refine List.map_congr_left fun l member => ?_
      unfold groupOf
      rw [List.filter_filter]
      refine List.filter_congr fun a _ => ?_
      by_cases here : key a = l
      · have other : l ≠ k := fun same => fresh (same ▸ member)
        simp [here, other]
      · simp [here]
    have covered : ∀ a ∈ items.filter fun a => !decide (key a = k), key a ∈ rest := by
      intro a member
      obtain ⟨inside, other⟩ := List.mem_filter.mp member
      rcases List.mem_cons.mp (covers a inside) with here | there
      · simp [here] at other
      · exact there
    have others := ih distinct covered
    rw [List.map_cons, List.flatten_cons, later]
    exact (others.append_left _).trans (List.filter_append_perm (key · = k) items)

theorem groupOf_perm {others : List α} (same : items.Perm others) (k : κ) :
    (groupOf key items k).Perm (groupOf key others k) := same.filter _

end DwSuperApps.Lib.Grouping
