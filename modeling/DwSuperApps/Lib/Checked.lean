import Mathlib

/-!
# Fail-closed computations

Rules for reading a successful `Except` computation backwards: a bind succeeded
iff both of its parts did, a check succeeded iff its condition holds, a loop
succeeded iff every iteration did.
-/
namespace DwSuperApps.Lib.Checked

universe u
variable {ε : Type u} {α β : Type}

/-- `if not condition: raise failure`. -/
def ensure (condition : Prop) [Decidable condition] (failure : ε) : Except ε Unit :=
  if condition then .ok () else .error failure

@[simp] theorem ensure_ok {condition : Prop} [Decidable condition] {failure : ε} {u : Unit} :
    ensure condition failure = .ok u ↔ condition := by
  by_cases h : condition <;> simp [ensure, h]

theorem ensure_of {condition : Prop} [Decidable condition] (h : condition) (failure : ε) :
    ensure condition failure = .ok () := if_pos h

@[simp] theorem ensure_true [Decidable True] (failure : ε) : ensure True failure = .ok () :=
  if_pos trivial

theorem ensure_error {condition : Prop} [Decidable condition] (h : ¬ condition) (failure : ε) :
    ensure condition failure = .error failure := if_neg h

theorem ensure_eq_error {condition : Prop} [Decidable condition] {failure e : ε} :
    ensure condition failure = .error e ↔ ¬ condition ∧ e = failure := by
  by_cases h : condition
  · simp [ensure, h]
  · simp [ensure, h, eq_comm]

@[simp] theorem bind_ok {x : Except ε α} {f : α → Except ε β} {b : β} :
    x >>= f = .ok b ↔ ∃ a, x = .ok a ∧ f a = .ok b := by
  cases x with
  | error e => simp [bind, Except.bind]
  | ok a => simp [bind, Except.bind]

@[simp] theorem ok_bind (a : α) (f : α → Except ε β) : (Except.ok a >>= f) = f a := rfl

theorem bind_of {x : Except ε α} {a : α} (passed : x = .ok a) (f : α → Except ε β) :
    (x >>= f) = f a := by
  rw [passed, ok_bind]

@[simp] theorem error_bind (e : ε) (f : α → Except ε β) :
    (Except.error e >>= f) = Except.error e := rfl

/-- `for item in items: check(item)`. -/
def checkAll (check : α → Except ε Unit) : List α → Except ε Unit
  | [] => .ok ()
  | item :: rest => check item >>= fun _ => checkAll check rest

@[simp] theorem checkAll_ok {check : α → Except ε Unit} {items : List α} {u : Unit} :
    checkAll check items = .ok u ↔ ∀ item ∈ items, check item = .ok () := by
  induction items with
  | nil => simp [checkAll]
  | cons item rest ih =>
    rw [checkAll, bind_ok, List.forall_mem_cons, ← ih]
    constructor
    · rintro ⟨_, first, later⟩
      exact ⟨first, later⟩
    · rintro ⟨first, later⟩
      exact ⟨(), first, later⟩

theorem checkAll_error {check : α → Except ε Unit} {items : List α} {e : ε}
    (failed : checkAll check items = .error e) : ∃ item ∈ items, check item = .error e := by
  induction items with
  | nil => cases failed
  | cons item rest ih =>
    rw [checkAll] at failed
    cases first : check item with
    | error e' =>
      rw [first] at failed
      cases failed
      exact ⟨item, List.mem_cons_self, first⟩
    | ok u =>
      rw [first] at failed
      obtain ⟨other, member, found⟩ := ih failed
      exact ⟨other, List.mem_cons_of_mem _ member, found⟩

/-- A mapped loop succeeded iff each item did, in order. -/
theorem mapM_ok {f : α → Except ε β} {items : List α} {results : List β} :
    items.mapM f = .ok results ↔ List.Forall₂ (fun a b => f a = .ok b) items results := by
  induction items generalizing results with
  | nil =>
    rw [List.mapM_nil, List.forall₂_nil_left_iff]
    exact ⟨fun h => (Except.ok.inj h).symm, fun h => congrArg Except.ok h.symm⟩
  | cons item rest ih =>
    rw [List.mapM_cons, bind_ok]
    constructor
    · rintro ⟨b, first, later⟩
      obtain ⟨bs, tail, whole⟩ := bind_ok.mp later
      cases whole
      exact .cons first (ih.mp tail)
    · intro all
      cases all with
      | cons first tail =>
        rename_i b bs
        exact ⟨b, first, bind_ok.mpr ⟨bs, ih.mpr tail, rfl⟩⟩

/-- A result of a mapped loop is the result of one of its items. -/
theorem mapM_mem {f : α → Except ε β} {items : List α} {results : List β}
    (made : items.mapM f = .ok results) {b : β} (member : b ∈ results) :
    ∃ a ∈ items, f a = .ok b := by
  have each := mapM_ok.mp made
  clear made
  induction each with
  | nil => cases member
  | cons first _ ih =>
    rcases List.mem_cons.mp member with rfl | later
    · exact ⟨_, List.mem_cons_self, first⟩
    · obtain ⟨a, inside, found⟩ := ih later
      exact ⟨a, List.mem_cons_of_mem _ inside, found⟩

/-- Every item of a mapped loop has its result. -/
theorem mapM_of_mem {f : α → Except ε β} {items : List α} {results : List β}
    (made : items.mapM f = .ok results) {a : α} (member : a ∈ items) :
    ∃ b ∈ results, f a = .ok b := by
  have each := mapM_ok.mp made
  clear made
  induction each with
  | nil => cases member
  | cons first _ ih =>
    rcases List.mem_cons.mp member with rfl | later
    · exact ⟨_, List.mem_cons_self, first⟩
    · obtain ⟨b, inside, found⟩ := ih later
      exact ⟨b, List.mem_cons_of_mem _ inside, found⟩

theorem exists_mapM_ok {f : α → Except ε β} {items : List α}
    (each : ∀ item ∈ items, ∃ b, f item = .ok b) : ∃ results, items.mapM f = .ok results := by
  induction items with
  | nil => exact ⟨[], rfl⟩
  | cons item rest ih =>
    obtain ⟨b, first⟩ := each item (by simp)
    obtain ⟨bs, later⟩ := ih fun other member => each other (by simp [member])
    exact ⟨b :: bs, by rw [List.mapM_cons, first, ok_bind, later]; rfl⟩

/-- The error of a bind is the error of one of its parts. -/
theorem bind_error {x : Except ε α} {f : α → Except ε β} {e : ε} :
    x >>= f = .error e ↔ x = .error e ∨ ∃ a, x = .ok a ∧ f a = .error e := by
  cases x with
  | error e' => simp [bind, Except.bind]
  | ok a => simp [bind, Except.bind]

end DwSuperApps.Lib.Checked
