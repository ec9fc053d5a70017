import DwSuperApps.Lib.Checked
import DwSuperApps.Lib.Dict

/-!
# Registration under keys

Items are entered under their keys, one after the other: the first item of a key stays, and a
later one has to be the same as it. Which keys are held does not depend on the order; which of
the items that count as the same is held does.
-/
namespace DwSuperApps.Lib.FirstWins

open DwSuperApps.Lib.Checked

variable {α κ ε : Type} [DecidableEq κ]

section Registration
variable (key : α → κ) (same : α → α → Prop) [DecidableRel same] (failure : α → ε)

def register (held : Dict κ α) (item : α) : Except ε (Dict κ α) :=
  match held.get? (key item) with
  | none => .ok (held.set (key item) item)
  | some existing => if same existing item then .ok held else .error (failure item)

def registerAll : Dict κ α → List α → Except ε (Dict κ α)
  | held, [] => .ok held
  | held, item :: rest => do
    let next ← register key same failure held item
    registerAll next rest

end Registration

variable {key : α → κ} {same : α → α → Prop} [DecidableRel same] {failure : α → ε}
  {held made : Dict κ α} {items others : List α}

/-- What is held under a key: what was there, or the first item of the key. -/
theorem get?_registerAll (done : registerAll key same failure held items = .ok made) (k : κ) :
    made.get? k = (held.get? k).or (items.find? fun item => key item = k) := by
  induction items generalizing held with
  | nil =>
    cases done
    simp
  | cons item rest ih =>
    obtain ⟨next, entered, later⟩ := bind_ok.mp done
    rw [ih later]
    unfold register at entered
    cases found : held.get? (key item) with
    | none =>
      rw [found] at entered
      cases entered
      rw [Dict.get?_set]
      by_cases own : k = key item
      · subst own
        simp [found]
      · simp [own, Ne.symm own]
    | some existing =>
      rw [found] at entered
      simp only at entered
      split at entered
      · cases entered
        by_cases own : key item = k
        · subst own
          simp [found]
        · simp [own]
      · cases entered

/-- Every item is the same as the one that is held under its key. -/
theorem same_of_registerAll (refl : ∀ a, same a a)
    (done : registerAll key same failure held items = .ok made) {item : α} (member : item ∈ items) :
    ∃ first, made.get? (key item) = some first ∧ same first item := by
  induction items generalizing held with
  | nil => cases member
  | cons head rest ih =>
    obtain ⟨next, entered, later⟩ := bind_ok.mp done
    rcases List.mem_cons.mp member with rfl | inside
    · unfold register at entered
      cases found : held.get? (key item) with
      | none =>
        rw [found] at entered
        cases entered
        refine ⟨item, ?_, refl item⟩
        rw [get?_registerAll later, Dict.get?_set_self, Option.some_or]
      | some existing =>
        rw [found] at entered
        simp only at entered
        split at entered
        · next alike =>
          cases entered
          exact ⟨existing, by rw [get?_registerAll later, found, Option.some_or], alike⟩
        · cases entered
    · exact ih later inside

theorem exists_registerAll
    (alike : ∀ item ∈ items, ∀ first ∈ (held.get? (key item)).or
      (items.find? fun other => key other = key item), same first item) :
    ∃ made, registerAll key same failure held items = .ok made := by
  induction items generalizing held with
  | nil => exact ⟨held, rfl⟩
  | cons item rest ih =>
    have head := alike item List.mem_cons_self
    obtain ⟨next, entered, got⟩ : ∃ next, register key same failure held item = .ok next ∧
        ∀ k, next.get? k = (held.get? k).or (if key item = k then some item else none) := by
      unfold register
      cases found : held.get? (key item) with
      | none =>
        refine ⟨_, rfl, fun k => ?_⟩
        rw [Dict.get?_set]
        by_cases own : k = key item
        · subst own
          simp [found]
        · simp [own, Ne.symm own]
      | some existing =>
        refine ⟨held, if_pos (head existing (by simp [found])), fun k => ?_⟩
        by_cases own : key item = k
        · subst own
          simp [found]
        · simp [own]
    obtain ⟨made, later⟩ : ∃ made, registerAll key same failure next rest = .ok made := by
      refine ih fun other member first found => ?_
      refine alike other (List.mem_cons_of_mem _ member) first ?_
      rw [got] at found
      by_cases own : key item = key other
      · rw [if_pos own] at found
        rw [List.find?_cons_of_pos (by simpa using own)]
        simpa [Option.or_assoc] using found
      · rw [if_neg own, Option.or_none] at found
        rwa [List.find?_cons_of_neg (by simpa using own)]
    exact ⟨made, bind_ok.mpr ⟨next, entered, later⟩⟩

/-- Items can be registered together exactly if those under one key are all the same. -/
theorem registerAll_iff (equiv : Equivalence same) :
    (∃ made, registerAll key same failure {} items = .ok made) ↔
      ∀ a ∈ items, ∀ b ∈ items, key a = key b → same a b := by
  constructor
  · rintro ⟨made, done⟩ a memberA b memberB keys
    obtain ⟨first, heldA, alikeA⟩ := same_of_registerAll equiv.refl done memberA
    obtain ⟨other, heldB, alikeB⟩ := same_of_registerAll equiv.refl done memberB
    rw [keys, heldB] at heldA
    obtain rfl := Option.some.inj heldA
    exact equiv.trans (equiv.symm alikeA) alikeB
  · intro alike
    refine exists_registerAll fun item member first found => ?_
    rw [Dict.get?_empty, Option.none_or] at found
    exact alike first (List.mem_of_find?_eq_some found) item member
      (by simpa using List.find?_some found)

/-- The order of the items does not matter to whether they can be registered. -/
theorem registerAll_perm (equiv : Equivalence same) (perm : others.Perm items)
    (done : registerAll key same failure {} items = .ok made) :
    ∃ other, registerAll key same failure {} others = .ok other := by
  have alike := (registerAll_iff equiv).mp ⟨made, done⟩
  exact (registerAll_iff equiv).mpr fun a memberA b memberB =>
    alike a (perm.mem_iff.mp memberA) b (perm.mem_iff.mp memberB)

end DwSuperApps.Lib.FirstWins
