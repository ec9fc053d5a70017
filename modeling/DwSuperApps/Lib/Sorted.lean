import Mathlib

/-!
# Stable sorting

One more element in a stably sorted list: the element lands behind everything that
may stand before it, so a beginning of the list keeps its elements exactly when all
of them may stand before the new one. Items sorted by a key that tells them apart:
only which items there are decides the sorted list.
-/
namespace DwSuperApps.Lib.Sorted

universe u
variable {α : Type u} {r : α → α → Prop} [DecidableRel r]

/-- `a` behind the last element that may stand before it. -/
def place (r : α → α → Prop) [DecidableRel r] (a : α) : List α → List α
  | [] => [a]
  | b :: rest => if r b a then b :: place r a rest else a :: b :: rest

theorem place_of_forall_not {a : α} {l : List α} (before : ∀ b ∈ l, ¬ r b a) :
    place r a l = a :: l := by
  cases l with
  | nil => rfl
  | cons b rest => exact if_neg (before b (List.mem_cons_self ..))

/-- Sorting a sorted list with one element appended places that element. -/
theorem insertionSort_append_singleton [Std.Total r] [IsTrans α r] (a : α) {l : List α}
    (sorted : l.Pairwise r) : (l ++ [a]).insertionSort r = place r a l := by
  induction l with
  | nil => rfl
  | cons b rest ih =>
    obtain ⟨first, others⟩ := List.pairwise_cons.mp sorted
    rw [List.cons_append, List.insertionSort_cons, ih others, place]
    by_cases behind : r b a
    · rw [if_pos behind]
      cases rest with
      | nil => exact List.orderedInsert_cons_of_le r [] behind
      | cons c rest =>
        unfold place
        split
        · exact List.orderedInsert_cons_of_le r _ (first c (List.mem_cons_self ..))
        · exact List.orderedInsert_cons_of_le r _ behind
    · -- everything behind `b` is behind `a` too
      have later : ∀ c ∈ rest, ¬ r c a := fun c member ordered =>
        behind (IsTrans.trans b c a (first c member) ordered)
      rw [if_neg behind, place_of_forall_not later, List.orderedInsert_of_not_le r _ behind]
      congr 1
      cases rest with
      | nil => rfl
      | cons c rest => exact List.orderedInsert_cons_of_le r _ (first c (List.mem_cons_self ..))

/-- A beginning of the list stays when all of it may stand before the new element,
and only then. -/
theorem take_place_iff [Std.Refl r] (a : α) {l : List α} {n : Nat} (inside : n ≤ l.length) :
    (place r a l).take n = l.take n ↔ ∀ b ∈ l.take n, r b a := by
  induction l generalizing n with
  | nil =>
    obtain rfl : n = 0 := Nat.le_zero.mp inside
    simp
  | cons b rest ih =>
    cases n with
    | zero => simp
    | succ n =>
      unfold place
      by_cases behind : r b a
      · rw [if_pos behind, List.take_succ_cons, List.take_succ_cons, List.cons.injEq,
          ih (Nat.le_of_succ_le_succ inside), List.forall_mem_cons]
        simp [behind]
      · rw [if_neg behind, List.take_succ_cons, List.take_succ_cons, List.forall_mem_cons]
        constructor
        · intro same
          obtain ⟨rfl, -⟩ := List.cons.inj same
          exact absurd (Std.Refl.refl a) behind
        · exact fun ordered => absurd ordered.1 behind

/-! ## Sorting by a key -/

section Keys
universe v
variable {α : Type u} {κ : Type v} [LinearOrder κ] {key : α → κ} {items others : List α}

/-- `sorted(items, key=key)`. -/
def sortedBy (key : α → κ) (items : List α) : List α :=
  items.insertionSort fun a b => key a ≤ key b

theorem perm_sortedBy : (sortedBy key items).Perm items := List.perm_insertionSort _ _

@[simp] theorem mem_sortedBy {a : α} : a ∈ sortedBy key items ↔ a ∈ items := perm_sortedBy.mem_iff

theorem pairwise_sortedBy : (sortedBy key items).Pairwise fun a b => key a ≤ key b := by
  have total : Std.Total fun a b : α => key a ≤ key b := ⟨fun a b => le_total (key a) (key b)⟩
  have trans : IsTrans α fun a b => key a ≤ key b := ⟨fun _ _ _ => le_trans⟩
  exact List.pairwise_insertionSort _ _

theorem sortedBy_map {β : Type u} {f : α → β} {key : β → κ} :
    sortedBy key (items.map f) = (sortedBy (fun a => key (f a)) items).map f :=
  (List.map_insertionSort (r := fun a b => key (f a) ≤ key (f b)) (s := fun a b => key a ≤ key b)
    f items fun _ _ _ _ => Iff.rfl).symm

/-- Items sorted with their keys beside them. -/
theorem sortedBy_keyed {α κ : Type u} [LinearOrder κ] {key : α → κ} {items : List α} :
    (sortedBy Prod.fst (items.map fun a => (key a, a))).map Prod.snd = sortedBy key items := by
  rw [sortedBy_map, List.map_map]
  exact List.map_id _

/-- The first of the sorted items is before all that precede it by its key, and not behind
any that follows it. -/
theorem head_sortedBy {a : α} : (sortedBy key items).head? = some a ↔
    ∃ before after, items = before ++ a :: after ∧ (∀ b ∈ before, key a < key b) ∧
      ∀ b ∈ after, key a ≤ key b := by
  induction items with
  | nil => simp [sortedBy]
  | cons x rest ih =>
    have sorted : sortedBy key (x :: rest) =
        (sortedBy key rest).orderedInsert (fun a b => key a ≤ key b) x := rfl
    constructor
    · intro first
      rw [sorted] at first
      cases tail : sortedBy key rest with
      | nil =>
        rw [tail] at first
        obtain rfl := Option.some.inj first
        have none : rest = [] := List.perm_nil.mp (tail ▸ perm_sortedBy.symm)
        exact ⟨[], [], by rw [none]; rfl, by simp, by simp⟩
      | cons y later =>
        rw [tail, List.orderedInsert_cons] at first
        -- no item of the rest is before `y`
        have least : ∀ b ∈ rest, key y ≤ key b := by
          intro b inside
          have ordered : (sortedBy key rest).Pairwise fun a b => key a ≤ key b := pairwise_sortedBy
          rw [tail] at ordered
          rcases List.mem_cons.mp (tail ▸ mem_sortedBy.mpr inside) with rfl | later
          · exact le_rfl
          · exact (List.pairwise_cons.mp ordered).1 b later
        split at first
        · next front =>
          obtain rfl := Option.some.inj first
          exact ⟨[], rest, rfl, by simp, fun b inside => le_trans front (least b inside)⟩
        · next behind =>
          obtain rfl := Option.some.inj first
          obtain ⟨before, after, split, earlier, follow⟩ := ih.mp (by rw [tail]; rfl)
          refine ⟨x :: before, after, by rw [split]; rfl, ?_, follow⟩
          rw [List.forall_mem_cons]
          exact ⟨not_le.mp behind, earlier⟩
    · rintro ⟨before, after, split, earlier, follow⟩
      rw [sorted]
      cases before with
      | nil =>
        obtain ⟨rfl, rfl⟩ := List.cons.inj split
        cases tail : sortedBy key rest with
        | nil => rfl
        | cons y later =>
          have inside : y ∈ rest := mem_sortedBy.mp (tail ▸ List.mem_cons_self)
          rw [List.orderedInsert_cons, if_pos (follow y inside)]
          rfl
      | cons b before =>
        obtain ⟨rfl, remains⟩ := List.cons.inj split
        have front := ih.mpr ⟨before, after, remains, fun c inside =>
          earlier c (List.mem_cons_of_mem _ inside), follow⟩
        cases tail : sortedBy key rest with
        | nil =>
          rw [tail] at front
          cases front
        | cons y later =>
          rw [tail] at front
          obtain rfl := Option.some.inj front
          rw [List.orderedInsert_cons, if_neg (not_le.mpr (earlier x List.mem_cons_self))]
          rfl

/-- Items under distinct keys are sorted strictly. -/
theorem sortedBy_strict (distinct : (items.map key).Nodup) :
    (sortedBy key items).Pairwise fun a b => key a < key b := by
  have weak : (sortedBy key items).Pairwise fun a b => key a ≤ key b := pairwise_sortedBy
  have apart : (sortedBy key items).Pairwise fun a b => key a ≠ key b :=
    List.pairwise_map.mp ((perm_sortedBy.map key).nodup_iff.mpr distinct)
  exact (weak.and apart).imp fun both => lt_of_le_of_ne both.1 both.2

theorem distinct_of_strict (strict : items.Pairwise fun a b => key a < key b) :
    (items.map key).Nodup :=
  List.pairwise_map.mpr (strict.imp fun before => ne_of_lt before)

/-- Strictly sorted lists with the same items are the same. -/
theorem eq_of_strict (left : items.Pairwise fun a b => key a < key b)
    (right : others.Pairwise fun a b => key a < key b) (same : ∀ a, a ∈ items ↔ a ∈ others) :
    items = others := by
  have perm : items.Perm others :=
    (List.perm_ext_iff_of_nodup (distinct_of_strict left).of_map (distinct_of_strict right).of_map).mpr same
  exact perm.eq_of_pairwise (fun a b _ _ ab ba => absurd (lt_trans ab ba) (lt_irrefl _)) left right

/-- Sorting sees which items there are, not their order, where the key tells them apart. -/
theorem sortedBy_eq_of_perm (same : items.Perm others)
    (apart : ∀ a ∈ items, ∀ b ∈ items, key a = key b → a = b) :
    sortedBy key items = sortedBy key others := by
  have perm : (sortedBy key items).Perm (sortedBy key others) :=
    perm_sortedBy.trans (same.trans perm_sortedBy.symm)
  refine perm.eq_of_pairwise ?_ pairwise_sortedBy pairwise_sortedBy
  intro a b inside other ab ba
  exact apart a (mem_sortedBy.mp inside) b (same.mem_iff.mpr (mem_sortedBy.mp other))
    (le_antisymm ab ba)

end Keys

end DwSuperApps.Lib.Sorted
