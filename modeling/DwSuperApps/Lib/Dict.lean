import Mathlib

/-!
# Insertion-ordered dictionaries

A Python `dict`: entries in insertion order under distinct keys. Assigning to a
key that is there keeps its place.
-/
namespace DwSuperApps.Lib

universe u v w

theorem noKeys_nodup {κ : Type u} {α : Type v} : (([] : List (κ × α)).map Prod.fst).Nodup :=
  List.nodup_nil

structure Dict (κ : Type u) (α : Type v) where
  entries : List (κ × α) := []
  distinct : (entries.map Prod.fst).Nodup := by first | exact noKeys_nodup | simp
  deriving DecidableEq

namespace Dict
variable {κ : Type u} {α : Type v} {β : Type w} [DecidableEq κ]

/-- `d.get(k)`. -/
def get? (d : Dict κ α) (k : κ) : Option α := d.entries.lookup k

/-- `list(d.values())`. -/
def values (d : Dict κ α) : List α := d.entries.map Prod.snd

/-- `k in d`. -/
def contains (d : Dict κ α) (k : κ) : Prop := (d.get? k).isSome

instance (d : Dict κ α) (k : κ) : Decidable (d.contains k) := by
  unfold contains; infer_instance

def setEntry (k : κ) (a : α) : List (κ × α) → List (κ × α)
  | [] => [(k, a)]
  | (l, b) :: rest => if l = k then (k, a) :: rest else (l, b) :: setEntry k a rest

theorem keys_setEntry (k : κ) (a : α) (entries : List (κ × α)) :
    (setEntry k a entries).map Prod.fst =
      if k ∈ entries.map Prod.fst then entries.map Prod.fst else entries.map Prod.fst ++ [k] := by
  induction entries with
  | nil => simp [setEntry]
  | cons first rest ih =>
    obtain ⟨l, b⟩ := first
    by_cases here : l = k
    · simp [setEntry, here]
    · have other : k ≠ l := fun same => here same.symm
      simp only [setEntry, if_neg here, List.map_cons, ih, List.mem_cons, other, false_or]
      split <;> rfl

/-- `d[k] = a`. -/
def set (d : Dict κ α) (k : κ) (a : α) : Dict κ α where
  entries := setEntry k a d.entries
  distinct := by
    rw [keys_setEntry]
    split
    · exact d.distinct
    · next absent => exact d.distinct.append (List.nodup_singleton k) (by simpa using absent)

/-- `\x7bk: f(k, v) for k, v in d.items()\x7d`. -/
def map (f : κ → α → β) (d : Dict κ α) : Dict κ β where
  entries := d.entries.map fun entry => (entry.1, f entry.1 entry.2)
  distinct := by
    rw [List.map_map]
    exact d.distinct

/-- `d[k] = a` for each pair in order. -/
def update (d : Dict κ α) (pairs : List (κ × α)) : Dict κ α :=
  pairs.foldl (fun d pair => d.set pair.1 pair.2) d

omit [DecidableEq κ] in
/-- Two dictionaries with the same entries in the same order are the same. -/
@[ext] theorem ext {d e : Dict κ α} (same : d.entries = e.entries) : d = e := by
  cases d
  cases e
  cases same
  rfl

/-! ## Lookups -/

theorem lookup_setEntry (k l : κ) (a : α) (entries : List (κ × α)) :
    (setEntry k a entries).lookup l = if l = k then some a else entries.lookup l := by
  induction entries with
  | nil =>
    rw [setEntry, List.lookup_cons]
    by_cases same : l = k
    · simp [same]
    · simp [same, beq_false_of_ne same]
  | cons first rest ih =>
    obtain ⟨m, b⟩ := first
    by_cases here : m = k
    · rw [setEntry, if_pos here, List.lookup_cons, List.lookup_cons, here]
      by_cases same : l = k
      · simp [same]
      · simp [same, beq_false_of_ne same]
    · rw [setEntry, if_neg here, List.lookup_cons, List.lookup_cons, ih]
      by_cases same : l = m
      · have other : l ≠ k := same ▸ here
        simp [same, here]
      · simp [beq_false_of_ne same]

theorem get?_set (d : Dict κ α) (k l : κ) (a : α) :
    (d.set k a).get? l = if l = k then some a else d.get? l :=
  lookup_setEntry k l a d.entries

@[simp] theorem get?_set_self (d : Dict κ α) (k : κ) (a : α) : (d.set k a).get? k = some a := by
  rw [get?_set, if_pos rfl]

theorem get?_set_of_ne (d : Dict κ α) {k l : κ} (other : l ≠ k) (a : α) :
    (d.set k a).get? l = d.get? l := by
  rw [get?_set, if_neg other]

@[simp] theorem get?_empty (k : κ) : ({} : Dict κ α).get? k = none := rfl

@[simp] theorem get?_map (f : κ → α → β) (d : Dict κ α) (k : κ) :
    (d.map f).get? k = (d.get? k).map (f k) := by
  change (d.entries.map fun entry => (entry.1, f entry.1 entry.2)).lookup k = _
  unfold get?
  induction d.entries with
  | nil => rfl
  | cons first rest ih =>
    obtain ⟨l, a⟩ := first
    rw [List.map_cons, List.lookup_cons, List.lookup_cons, ih]
    by_cases same : k = l
    · simp [same]
    · simp [beq_false_of_ne same]

theorem lookup_eq_some {entries : List (κ × α)} (distinct : (entries.map Prod.fst).Nodup)
    {k : κ} {a : α} : entries.lookup k = some a ↔ (k, a) ∈ entries := by
  induction entries with
  | nil => simp
  | cons first rest ih =>
    obtain ⟨l, b⟩ := first
    obtain ⟨fresh, rest_distinct⟩ := List.nodup_cons.mp distinct
    rw [List.lookup_cons, List.mem_cons]
    by_cases same : k = l
    · subst same
      have absent : (k, a) ∉ rest := by
        intro member
        exact fresh (List.mem_map.mpr ⟨(k, a), member, rfl⟩)
      simp [absent, eq_comm]
    · rw [beq_false_of_ne same, ih rest_distinct]
      simp [same]

theorem get?_eq_some {d : Dict κ α} {k : κ} {a : α} : d.get? k = some a ↔ (k, a) ∈ d.entries :=
  lookup_eq_some d.distinct

/-- A statement about all lookups is one about the entries. -/
theorem forall_get? {d : Dict κ α} {P : κ → α → Prop} :
    (∀ k a, d.get? k = some a → P k a) ↔ ∀ entry ∈ d.entries, P entry.1 entry.2 := by
  constructor
  · intro all entry member
    exact all entry.1 entry.2 (get?_eq_some.mpr member)
  · intro all k a held
    exact all (k, a) (get?_eq_some.mp held)

theorem mem_values {d : Dict κ α} {a : α} : a ∈ d.values ↔ ∃ k, d.get? k = some a := by
  simp [values, get?_eq_some]

/-- The first value that meets a condition is an entry that meets it. -/
theorem find_values_some {d : Dict κ α} {p : α → Bool} {a : α}
    (found : d.values.find? p = some a) : (∃ k, d.get? k = some a) ∧ p a :=
  ⟨mem_values.mp (List.mem_of_find?_eq_some found), List.find?_some found⟩

theorem find_values_none {d : Dict κ α} {p : α → Bool} (absent : d.values.find? p = none)
    {k : κ} {a : α} (held : d.get? k = some a) : ¬ p a :=
  List.find?_eq_none.mp absent a (mem_values.mpr ⟨k, held⟩)

theorem setEntry_setEntry (k : κ) (a b : α) (entries : List (κ × α)) :
    setEntry k b (setEntry k a entries) = setEntry k b entries := by
  induction entries with
  | nil => simp [setEntry]
  | cons first rest ih =>
    obtain ⟨l, c⟩ := first
    by_cases here : l = k
    · simp [setEntry, here]
    · simp [setEntry, here, ih]

/-- The second assignment to a key wins. -/
@[simp] theorem set_set (d : Dict κ α) (k : κ) (a b : α) : (d.set k a).set k b = d.set k b :=
  ext (setEntry_setEntry k a b d.entries)

theorem setEntry_self {k : κ} {a : α} {entries : List (κ × α)}
    (held : entries.lookup k = some a) : setEntry k a entries = entries := by
  induction entries with
  | nil => cases held
  | cons first rest ih =>
    obtain ⟨l, b⟩ := first
    rw [List.lookup_cons] at held
    by_cases here : l = k
    · subst here
      simp only [beq_self_eq_true] at held
      cases held
      simp [setEntry]
    · have other : k ≠ l := fun same => here same.symm
      rw [beq_false_of_ne other] at held
      rw [setEntry, if_neg here, ih held]

/-- Assigning what is there changes nothing. -/
theorem set_self {d : Dict κ α} {k : κ} {a : α} (held : d.get? k = some a) : d.set k a = d :=
  ext (setEntry_self held)

theorem update_append (d : Dict κ α) (xs ys : List (κ × α)) :
    d.update (xs ++ ys) = (d.update xs).update ys :=
  List.foldl_append

/-- The last pair under a key is the one that is kept. -/
theorem get?_update (d : Dict κ α) (pairs : List (κ × α)) (k : κ) :
    (d.update pairs).get? k = (pairs.reverse.lookup k).or (d.get? k) := by
  induction pairs using List.reverseRecOn with
  | nil => rfl
  | append_singleton rest last ih =>
    obtain ⟨l, a⟩ := last
    rw [update_append, List.reverse_append, List.reverse_singleton, List.singleton_append,
      List.lookup_cons]
    change ((d.update rest).set l a).get? k = _
    rw [get?_set, ih]
    by_cases same : k = l
    · simp [same]
    · rw [if_neg same, beq_false_of_ne same]

omit [DecidableEq κ] in
theorem nodup_reverse {entries : List (κ × α)} (distinct : (entries.map Prod.fst).Nodup) :
    (entries.reverse.map Prod.fst).Nodup := by
  rw [List.map_reverse, List.nodup_reverse]
  exact distinct

/-- Entries under distinct keys are all kept. -/
theorem get?_update_entries (d : Dict κ α) {entries : List (κ × α)}
    (distinct : (entries.map Prod.fst).Nodup) (k : κ) :
    (d.update entries).get? k = (entries.lookup k).or (d.get? k) := by
  have same : entries.reverse.lookup k = entries.lookup k := by
    apply Option.ext
    intro a
    rw [lookup_eq_some (nodup_reverse distinct), lookup_eq_some distinct, List.mem_reverse]
  rw [get?_update, same]

@[simp] theorem get?_copy (d : Dict κ α) (k : κ) :
    (({} : Dict κ α).update d.entries).get? k = d.get? k := by
  rw [get?_update_entries _ d.distinct, get?_empty, Option.or_none]
  rfl

/-- The entries that meet a condition on their keys. -/
theorem lookup_filter {d : Dict κ α} (p : κ → Prop) [DecidablePred p] (k : κ) :
    (d.entries.filter fun entry => p entry.1).lookup k = if p k then d.get? k else none := by
  have distinct : ((d.entries.filter fun entry => p entry.1).map Prod.fst).Nodup :=
    d.distinct.sublist (List.filter_sublist.map _)
  apply Option.ext
  intro a
  rw [lookup_eq_some distinct, List.mem_filter, ← get?_eq_some, decide_eq_true_eq]
  by_cases kept : p k
  · simp [kept]
  · simp [kept]

theorem setEntry_fresh {k : κ} {a : α} {entries : List (κ × α)}
    (absent : k ∉ entries.map Prod.fst) : setEntry k a entries = entries ++ [(k, a)] := by
  induction entries with
  | nil => rfl
  | cons first rest ih =>
    obtain ⟨l, b⟩ := first
    simp only [List.map_cons, List.mem_cons, not_or] at absent
    rw [setEntry, if_neg (Ne.symm absent.1), ih absent.2, List.cons_append]

/-- Pairs under new keys are appended. -/
theorem update_fresh {d : Dict κ α} {pairs : List (κ × α)}
    (distinct : ((d.entries ++ pairs).map Prod.fst).Nodup) :
    (d.update pairs).entries = d.entries ++ pairs := by
  induction pairs generalizing d with
  | nil => exact (List.append_nil _).symm
  | cons pair rest ih =>
    have absent : pair.1 ∉ d.entries.map Prod.fst := by
      rw [List.map_append, List.nodup_append'] at distinct
      exact fun inside => distinct.2.2 inside (by simp)
    have placed : (d.set pair.1 pair.2).entries = d.entries ++ [pair] := setEntry_fresh absent
    change ((d.set pair.1 pair.2).update rest).entries = _
    rw [ih (by rw [placed, List.append_assoc]; exact distinct), placed, List.append_assoc]
    rfl

/-- One value under several keys. -/
theorem get?_update_const (d : Dict κ α) (keys : List κ) (a : α) (k : κ) :
    (d.update (keys.map fun key => (key, a))).get? k = if k ∈ keys then some a else d.get? k := by
  induction keys generalizing d with
  | nil => rfl
  | cons key rest ih =>
    change ((d.set key a).update (rest.map fun key => (key, a))).get? k = _
    rw [ih, get?_set]
    by_cases later : k ∈ rest
    · simp [later]
    · simp [later]

/-! ## Checked comprehensions -/

section Checked
variable {ε : Type u}

omit [DecidableEq κ] in
/-- The entries with every value checked in order; the keys stay as they are. -/
def tryEntries (f : κ → α → Except ε β) :
    (entries : List (κ × α)) →
      Except ε { made : List (κ × β) // made.map Prod.fst = entries.map Prod.fst }
  | [] => .ok ⟨[], rfl⟩
  | (k, a) :: rest =>
    match f k a, tryEntries f rest with
    | .ok b, .ok made => .ok ⟨(k, b) :: made.1, congrArg (k :: ·) made.2⟩
    | .error e, _ => .error e
    | .ok _, .error e => .error e

/-- `\x7bk: f(k, v) for k, v in d.items()\x7d` where `f` may raise. -/
def tryMap (f : κ → α → Except ε β) (d : Dict κ α) : Except ε (Dict κ β) :=
  match tryEntries f d.entries with
  | .ok made => .ok
    { entries := made.1
      distinct := by
        rw [made.2]
        exact d.distinct }
  | .error e => .error e

theorem lookup_tryEntries {f : κ → α → Except ε β} {entries : List (κ × α)}
    {made : { made : List (κ × β) // made.map Prod.fst = entries.map Prod.fst }}
    (succeeded : tryEntries f entries = .ok made) (k : κ) (b : β) :
    made.1.lookup k = some b ↔ ∃ a, entries.lookup k = some a ∧ f k a = .ok b := by
  induction entries with
  | nil =>
    cases succeeded
    simp
  | cons first rest ih =>
    obtain ⟨l, a⟩ := first
    unfold tryEntries at succeeded
    split at succeeded
    · next c others checked later =>
      cases succeeded
      rw [List.lookup_cons, List.lookup_cons]
      by_cases here : k = l
      · subst here
        simp only [beq_self_eq_true, Option.some.injEq, exists_eq_left', checked, Except.ok.injEq]
      · rw [beq_false_of_ne here]
        exact ih later
    · cases succeeded
    · cases succeeded

/-- A checked comprehension holds, under each key, what its value was checked to. -/
theorem get?_tryMap {f : κ → α → Except ε β} {d : Dict κ α} {made : Dict κ β}
    (succeeded : d.tryMap f = .ok made) {k : κ} {b : β} :
    made.get? k = some b ↔ ∃ a, d.get? k = some a ∧ f k a = .ok b := by
  unfold tryMap at succeeded
  split at succeeded
  · next entries checked =>
    cases succeeded
    exact lookup_tryEntries checked k b
  · cases succeeded

omit [DecidableEq κ] in
/-- A checked comprehension keeps the keys and their order. -/
theorem keys_tryMap {f : κ → α → Except ε β} {d : Dict κ α} {made : Dict κ β}
    (succeeded : d.tryMap f = .ok made) :
    made.entries.map Prod.fst = d.entries.map Prod.fst := by
  unfold tryMap at succeeded
  split at succeeded
  · next entries checked =>
    cases succeeded
    exact entries.2
  · cases succeeded

/-- Every value of a checked comprehension's source has its result. -/
theorem tryMap_held {f : κ → α → Except ε β} {d : Dict κ α} {made : Dict κ β}
    (succeeded : d.tryMap f = .ok made) {k : κ} {a : α} (held : d.get? k = some a) :
    ∃ b, made.get? k = some b ∧ f k a = .ok b := by
  have kept : k ∈ made.entries.map Prod.fst := by
    rw [keys_tryMap succeeded]
    exact List.mem_map_of_mem (f := Prod.fst) (get?_eq_some.mp held)
  obtain ⟨entry, member, rfl⟩ := List.mem_map.mp kept
  have found : made.get? entry.1 = some entry.2 := get?_eq_some.mpr member
  obtain ⟨a', held', checked⟩ := (get?_tryMap succeeded).mp found
  obtain rfl := Option.some.inj (held.symm.trans held')
  exact ⟨entry.2, found, checked⟩

omit [DecidableEq κ] in
theorem tryEntries_map {g : κ → α → β} {f : κ → β → Except ε α} {entries : List (κ × α)}
    (back : ∀ entry ∈ entries, f entry.1 (g entry.1 entry.2) = .ok entry.2) :
    ∃ made, tryEntries f (entries.map fun entry => (entry.1, g entry.1 entry.2)) = .ok made ∧
      made.1 = entries := by
  induction entries with
  | nil => exact ⟨⟨[], rfl⟩, rfl, rfl⟩
  | cons first rest ih =>
    obtain ⟨made, ran, same⟩ := ih fun entry inside => back entry (List.mem_cons_of_mem _ inside)
    have head := back first List.mem_cons_self
    refine ⟨⟨first :: made.1, congrArg (first.1 :: ·) made.2⟩, ?_, congrArg (first :: ·) same⟩
    change tryEntries f ((first.1, g first.1 first.2) :: _) = _
    simp only [tryEntries, head, ran]

/-- A checked comprehension that takes every value back gives the dictionary the values
were made from. -/
theorem tryMap_map {g : κ → α → β} {f : κ → β → Except ε α} {d : Dict κ α}
    (back : ∀ k a, d.get? k = some a → f k (g k a) = .ok a) : (d.map g).tryMap f = .ok d := by
  obtain ⟨made, ran, same⟩ : ∃ made, tryEntries f (d.map g).entries = .ok made ∧
      made.1 = d.entries :=
    tryEntries_map fun entry inside => back entry.1 entry.2 (get?_eq_some.mpr inside)
  unfold tryMap
  split
  · next made' ran' =>
    obtain rfl := Except.ok.inj (ran.symm.trans ran')
    exact congrArg Except.ok (ext same)
  · next ran' => cases ran.symm.trans ran'

/-- A check that returns each of its values changes nothing. -/
theorem tryMap_self {f : κ → α → Except ε α} {d : Dict κ α}
    (same : ∀ k a, d.get? k = some a → f k a = .ok a) : d.tryMap f = .ok d := by
  have back : (d.map fun _ a => a).tryMap f = .ok d := tryMap_map same
  rwa [show (d.map fun _ a => a) = d from ext (List.map_id _)] at back

omit [DecidableEq κ] in
/-- A check that returns its value changes nothing. -/
theorem tryMap_eq_self {f : κ → α → Except ε α} {d made : Dict κ α}
    (same : ∀ k a b, f k a = .ok b → b = a) (succeeded : d.tryMap f = .ok made) : made = d := by
  have entries (l : List (κ × α)) (result) (ran : tryEntries f l = .ok result) : result.1 = l := by
    induction l with
    | nil =>
      cases ran
      rfl
    | cons first rest ih =>
      obtain ⟨k, a⟩ := first
      unfold tryEntries at ran
      split at ran
      · next b others checked later =>
        cases ran
        change (k, b) :: others.1 = (k, a) :: rest
        rw [same k a b checked, ih _ later]
      · cases ran
      · cases ran
  unfold tryMap at succeeded
  split at succeeded
  · next result ran =>
    cases succeeded
    exact ext (entries _ _ ran)
  · cases succeeded

end Checked

end Dict
end DwSuperApps.Lib
