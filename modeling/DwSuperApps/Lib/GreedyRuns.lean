import Mathlib

/-!
# Greedy runs

A list cut into runs, each run extended while it fits. `Greedy` says what makes a cut
greedy: the runs are the list, none is empty, each fits, and none can take the first item
of the next. Where a beginning of a fitting run fits, there is one greedy cut, and
`runsFrom` computes it.
-/
namespace DwSuperApps.Lib.GreedyRuns

universe u
variable {α : Type u} {fits : List α → Prop}

structure Greedy (fits : List α → Prop) (items : List α) (runs : List (List α)) : Prop where
  whole : runs.flatten = items
  nonempty : ∀ run ∈ runs, run ≠ []
  fitting : ∀ run ∈ runs, fits run
  maximal : runs.IsChain fun run next => ∀ item ∈ next.head?, ¬ fits (run ++ [item])

/-- The runs of `items` behind a run that is still open. -/
def runsFrom (fits : List α → Prop) [DecidablePred fits] (run : List α) :
    List α → List (List α)
  | [] => if run = [] then [] else [run]
  | item :: rest =>
    if run ≠ [] ∧ ¬ fits (run ++ [item]) then run :: runsFrom fits [item] rest
    else runsFrom fits (run ++ [item]) rest

variable [DecidablePred fits]

theorem runsFrom_nil {run : List α} (started : run ≠ []) : runsFrom fits run [] = [run] :=
  if_neg started

theorem runsFrom_first (item : α) (rest : List α) :
    runsFrom fits [] (item :: rest) = runsFrom fits [item] rest :=
  if_neg fun both => both.1 rfl

theorem runsFrom_cut {run : List α} {item : α} (started : run ≠ []) (full : ¬ fits (run ++ [item]))
    (rest : List α) : runsFrom fits run (item :: rest) = run :: runsFrom fits [item] rest :=
  if_pos ⟨started, full⟩

theorem runsFrom_extend {run : List α} {item : α} (room : run = [] ∨ fits (run ++ [item]))
    (rest : List α) : runsFrom fits run (item :: rest) = runsFrom fits (run ++ [item]) rest :=
  if_neg fun both => room.elim both.1 both.2

theorem runsFrom_flatten (run items : List α) : (runsFrom fits run items).flatten = run ++ items := by
  induction items generalizing run with
  | nil =>
    by_cases empty : run = []
    · simp [runsFrom, empty]
    · simp [runsFrom_nil empty]
  | cons item rest ih =>
    unfold runsFrom
    split
    · rw [List.flatten_cons, ih, List.singleton_append]
    · rw [ih, List.append_assoc, List.singleton_append]

/-- The first run behind an open one begins with it. -/
theorem runsFrom_head {run : List α} (started : run ≠ []) (items : List α) :
    ∃ more others, runsFrom fits run items = (run ++ more) :: others := by
  induction items generalizing run with
  | nil => exact ⟨[], [], by rw [runsFrom_nil started, List.append_nil]⟩
  | cons item rest ih =>
    unfold runsFrom
    split
    · exact ⟨[], _, by rw [List.append_nil]⟩
    · have grown : run ++ [item] ≠ [] := List.append_ne_nil_of_right_ne_nil run (List.cons_ne_nil item [])
      obtain ⟨more, others, shape⟩ := ih grown
      exact ⟨item :: more, others, by rw [shape, List.append_assoc, List.singleton_append]⟩

/-- Where every single item fits, the computed cut is greedy. -/
theorem greedy_runsFrom {run items : List α} (current : run ≠ [] → fits run)
    (single : ∀ item ∈ items, fits [item]) : Greedy fits (run ++ items) (runsFrom fits run items) := by
  induction items generalizing run with
  | nil =>
    by_cases empty : run = []
    · subst empty
      exact ⟨rfl, List.forall_mem_nil _, List.forall_mem_nil _, List.isChain_nil⟩
    · rw [runsFrom_nil empty]
      exact ⟨by simp, List.forall_mem_singleton.mpr empty,
        List.forall_mem_singleton.mpr (current empty), List.isChain_singleton _⟩
  | cons item rest ih =>
    have alone : fits [item] := single item List.mem_cons_self
    have later : ∀ other ∈ rest, fits [other] := fun other member =>
      single other (List.mem_cons_of_mem _ member)
    by_cases full : run ≠ [] ∧ ¬ fits (run ++ [item])
    · rw [runsFrom_cut full.1 full.2]
      have tail := ih (fun _ => alone) later
      refine ⟨?_, List.forall_mem_cons.mpr ⟨full.1, tail.nonempty⟩,
        List.forall_mem_cons.mpr ⟨current full.1, tail.fitting⟩, ?_⟩
      · rw [List.flatten_cons, tail.whole, List.singleton_append]
      · -- the next run begins with the item that did not fit
        obtain ⟨more, others, shape⟩ : ∃ more others,
            runsFrom fits [item] rest = ([item] ++ more) :: others :=
          runsFrom_head (List.cons_ne_nil item []) rest
        have chain := tail.maximal
        rw [shape] at chain ⊢
        refine List.isChain_cons_cons.mpr ⟨?_, chain⟩
        intro first head
        obtain rfl : item = first := by simpa using head
        exact full.2
    · have room : run = [] ∨ fits (run ++ [item]) := by
        by_cases empty : run = []
        · exact .inl empty
        · exact .inr (not_not.mp fun fails => full ⟨empty, fails⟩)
      rw [runsFrom_extend room]
      have extended : run ++ [item] ≠ [] → fits (run ++ [item]) := by
        rintro -
        rcases room with rfl | fitting
        · exact alone
        · exact fitting
      have tail := ih extended later
      rwa [List.append_assoc, List.singleton_append] at tail

/-- Runs that fit are taken whole. -/
theorem runsFrom_append (closed : ∀ a b, fits (a ++ b) → fits a) {run more : List α}
    (fitting : fits (run ++ more)) (items : List α) :
    runsFrom fits run (more ++ items) = runsFrom fits (run ++ more) items := by
  induction more generalizing run with
  | nil => rw [List.append_nil, List.nil_append]
  | cons item rest ih =>
    have together : run ++ item :: rest = run ++ [item] ++ rest := by
      rw [List.append_assoc, List.singleton_append]
    rw [together] at fitting ⊢
    rw [List.cons_append, runsFrom_extend (.inr (closed _ _ fitting)), ih fitting]

/-- A greedy cut is the computed one. -/
theorem Greedy.eq_runsFrom (closed : ∀ a b, fits (a ++ b) → fits a) {items : List α}
    {runs : List (List α)} (greedy : Greedy fits items runs) : runs = runsFrom fits [] items := by
  induction runs generalizing items with
  | nil =>
    rw [← greedy.whole]
    rfl
  | cons run others ih =>
    obtain ⟨filled, nonempty⟩ := List.forall_mem_cons.mp greedy.nonempty
    obtain ⟨fitting, each⟩ := List.forall_mem_cons.mp greedy.fitting
    have tail := ih ⟨rfl, nonempty, each, greedy.maximal.tail⟩
    have taken : runsFrom fits [] (run ++ others.flatten) = runsFrom fits run others.flatten :=
      @runsFrom_append α fits _ closed [] run fitting _
    rw [← greedy.whole, List.flatten_cons, taken]
    cases others with
    | nil => exact (runsFrom_nil filled).symm
    | cons next later =>
      have full := (List.isChain_cons_cons.mp greedy.maximal).1
      cases next with
      | nil => exact absurd rfl (nonempty [] List.mem_cons_self)
      | cons item more =>
        rw [List.flatten_cons, List.cons_append] at tail ⊢
        rw [runsFrom_cut filled (full item rfl), ← runsFrom_first item, ← tail]

/-- There is one greedy cut. -/
theorem Greedy.unique (closed : ∀ a b, fits (a ++ b) → fits a) {items : List α}
    {runs others : List (List α)} (greedy : Greedy fits items runs)
    (greedy' : Greedy fits items others) : runs = others :=
  (greedy.eq_runsFrom closed).trans (greedy'.eq_runsFrom closed).symm

end DwSuperApps.Lib.GreedyRuns
