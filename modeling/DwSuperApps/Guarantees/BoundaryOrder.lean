import Mathlib.Data.Set.Finite.Basic
import Mathlib.Data.Finset.Dedup
import DwSuperApps.Lib.PathScopes
import DwSuperApps.Source.Boundary

/-!
# Order of execution boundaries

The subset relation of boundaries (`is_subset_of`) and the paths their roots permit. An
exact root stands for a directory, `/**` for its subtree, `/*` for one segment below it.

* `_path_is_within` is the order of scopes, with one exception: an exact root one segment
  below a `/*` root (`pathIsWithin_iff`);
* the relation is reflexive; it is transitive and sound into a boundary with every exact
  root of the inner one under a root that is not `/*`, and only there
  (`boundary_order`).
-/
namespace DwSuperApps.Guarantees.BoundaryOrder

open DwSuperApps.Lib DwSuperApps.Lib.Checked DwSuperApps.Lib.PathScopes
open DwSuperApps.Source.Boundary

/-! ## Roots as scopes -/

/-- A root without a trailing wildcard. -/
def Exact (root : String) : Prop := (rootWithoutWildcard root).2 = none

instance (root : String) : Decidable (Exact root) := inferInstanceAs (Decidable (_ = _))

/-- The scope a root stands for. -/
def scopeOf (root : String) : Scope String where
  root := splitPath (rootWithoutWildcard root).1
  reach := if (rootWithoutWildcard root).2 = some .star then .oneLevel else .subtree

theorem rdrop_of_suffix {chars suffix : List Char} (found : suffix <:+ chars) :
    chars = chars.rdrop suffix.length ++ suffix := by
  obtain ⟨front, rfl⟩ := found
  rw [List.rdrop, List.length_append, Nat.add_sub_cancel, List.take_left]

/-- A root is its part before the wildcard and the wildcard. -/
theorem rootWithoutWildcard_cases (root : String) :
    (root.toList = (rootWithoutWildcard root).1.toList ++ "/**".toList ∧
      (rootWithoutWildcard root).2 = some .doubleStar) ∨
    (root.toList = (rootWithoutWildcard root).1.toList ++ "/*".toList ∧
      (rootWithoutWildcard root).2 = some .star) ∨
    rootWithoutWildcard root = (root, none) := by
  unfold rootWithoutWildcard
  split
  · next suffix =>
    left
    refine ⟨?_, rfl⟩
    rw [String.toList_ofList]
    exact rdrop_of_suffix suffix
  · split
    · next suffix =>
      right; left
      refine ⟨?_, rfl⟩
      rw [String.toList_ofList]
      exact rdrop_of_suffix suffix
    · exact .inr (.inr rfl)

theorem scopeOf_oneLevel {root : String} :
    (scopeOf root).reach = .oneLevel ↔ (rootWithoutWildcard root).2 = some .star := by
  unfold scopeOf
  split <;> simp [*]

theorem scopeOf_subtree {root : String} :
    (scopeOf root).reach = .subtree ↔ (rootWithoutWildcard root).2 ≠ some .star := by
  unfold scopeOf
  split <;> simp [*]

theorem Exact.subtree {root : String} (literal : Exact root) : (scopeOf root).reach = .subtree := by
  rw [scopeOf_subtree, literal]
  simp

theorem Exact.root {root : String} (literal : Exact root) : (scopeOf root).root = splitPath root := by
  unfold Exact at literal
  rcases rootWithoutWildcard_cases root with ⟨-, found⟩ | ⟨-, found⟩ | whole
  · rw [found] at literal
    cases literal
  · rw [found] at literal
    cases literal
  · rw [scopeOf, whole]

theorem splitPath_injective : Function.Injective splitPath := by
  intro a b same
  have chars : a.toList.splitOn '/' = b.toList.splitOn '/' :=
    List.map_injective_iff.mpr (fun _ _ => String.ofList_inj.mp) same
  have joined := congrArg (List.intercalate ['/']) chars
  rw [List.intercalate_splitOn, List.intercalate_splitOn] at joined
  exact String.toList_inj.mp joined

theorem toList_of_oneLevel {root : String} (level : (scopeOf root).reach = .oneLevel) :
    root.toList = (rootWithoutWildcard root).1.toList ++ "/*".toList := by
  rw [scopeOf_oneLevel] at level
  rcases rootWithoutWildcard_cases root with ⟨-, other⟩ | ⟨shape, -⟩ | whole
  · rw [level] at other
    cases other
  · exact shape
  · rw [whole] at level
    cases level

/-- A `/*` root is read off its scope. -/
theorem eq_of_oneLevel {a b : String} (level : (scopeOf a).reach = .oneLevel)
    (same : scopeOf a = scopeOf b) : a = b := by
  have level' : (scopeOf b).reach = .oneLevel := by rw [← same, level]
  have roots : (rootWithoutWildcard a).1 = (rootWithoutWildcard b).1 :=
    splitPath_injective (congrArg Scope.root same)
  rw [← String.toList_inj, toList_of_oneLevel level, toList_of_oneLevel level', roots]

/-- An exact root one segment below a `/*` root. -/
def Widened (child parent : String) : Prop :=
  Exact child ∧ (scopeOf parent).reach = .oneLevel ∧
    ∃ segment, (scopeOf child).root = (scopeOf parent).root ++ [segment]

/-- Below the parent's root, `_path_is_within` asks for the wildcard of the parent. -/
theorem pathIsWithin_below {child parent : String} {remaining : List String}
    (apart : child ≠ parent)
    (below : (scopeOf child).root = (scopeOf parent).root ++ remaining) :
    pathIsWithin child parent ↔
      (scopeOf parent).reach = .subtree ∨ remaining.length = 1 ∧ Exact child := by
  unfold pathIsWithin
  rw [if_neg apart]
  change (if (scopeOf child).root.take (scopeOf parent).root.length ≠ (scopeOf parent).root then false
    else if (scopeOf child).root.drop (scopeOf parent).root.length = [] then
      if (rootWithoutWildcard parent).2 = some .star then false
      else decide ((rootWithoutWildcard parent).2 ∈ [none, some .doubleStar])
    else if (rootWithoutWildcard parent).2 = some .star then
      decide (((scopeOf child).root.drop (scopeOf parent).root.length).length = 1 ∧ Exact child)
    else decide ((rootWithoutWildcard parent).2 ∈ [none, some .doubleStar])) = true ↔ _
  rw [below, List.take_left, if_neg (not_not_intro rfl), List.drop_left, scopeOf_subtree]
  cases wildcard : (rootWithoutWildcard parent).2 with
  | none => simp
  | some kind =>
    cases kind with
    | doubleStar => simp
    | star =>
      cases remaining with
      | nil => simp
      | cons first others => simp

/-- `_path_is_within` reads the order of the scopes, and takes the widened roots too. -/
theorem pathIsWithin_iff {child parent : String} :
    pathIsWithin child parent ↔
      (scopeOf child).Inside (scopeOf parent) ∨ Widened child parent := by
  by_cases same : child = parent
  · rw [same, pathIsWithin, if_pos rfl]
    exact iff_of_true rfl (.inl (.refl _))
  by_cases below : (scopeOf parent).root <+: (scopeOf child).root
  · obtain ⟨remaining, shape⟩ := below
    rw [pathIsWithin_below same shape.symm]
    constructor
    · rintro (whole | ⟨single, literal⟩)
      · exact .inl (.inr ⟨whole, shape ▸ List.prefix_append ..⟩)
      · cases reach : (scopeOf parent).reach with
        | subtree => exact .inl (.inr ⟨reach, shape ▸ List.prefix_append ..⟩)
        | oneLevel =>
          obtain ⟨segment, rfl⟩ := List.length_eq_one_iff.mp single
          exact .inr ⟨literal, reach, segment, shape.symm⟩
    · rintro ((scopes | ⟨whole, -⟩) | ⟨literal, level, segment, shape'⟩)
      · cases reach : (scopeOf parent).reach with
        | subtree => exact .inl rfl
        | oneLevel => exact absurd (eq_of_oneLevel (scopes ▸ reach) scopes) same
      · exact .inl whole
      · rw [← shape, List.append_cancel_left_eq] at shape'
        exact .inr ⟨by rw [shape', List.length_singleton], literal⟩
  · have refused : pathIsWithin child parent = false := by
      unfold pathIsWithin
      rw [if_neg same]
      exact if_pos fun taken => below (List.prefix_iff_eq_take.mpr taken.symm)
    rw [refused]
    refine iff_of_false Bool.false_ne_true ?_
    rintro ((scopes | ⟨-, under⟩) | ⟨-, -, segment, shape⟩)
    · exact below (scopes ▸ List.prefix_refl _)
    · exact below under
    · exact below (shape ▸ List.prefix_append ..)

/-! ## Lists of roots -/

/-- Every root of the inner list is within a root of the outer one. -/
def RootsWithin (inner outer : List String) : Prop :=
  ∀ root ∈ inner, anyRootContains root outer

theorem rootsWithin_iff {inner outer : List String} :
    inner.all (anyRootContains · outer) = true ↔ RootsWithin inner outer := List.all_eq_true

/-- A relative path of proper segments in which the code reads no wildcard. -/
structure ConcretePath where
  text : String
  relative : ∀ part ∈ splitPath text, part ∉ ["", ".", ".."]
  literal : Exact text

/-- The roots permit the path. -/
def Permits (roots : List String) (path : ConcretePath) : Prop :=
  anyRootContains path.text roots

/-- Every exact root of the inner list is within a root of the outer one other than a
`/*` root. -/
def RootsClear (inner outer : List String) : Prop :=
  ∀ root ∈ inner, Exact root →
    ∃ other ∈ outer, (rootWithoutWildcard other).2 ≠ some .star ∧ pathIsWithin root other

theorem anyRootContains_iff {child : String} {parents : List String} :
    anyRootContains child parents ↔ ∃ parent ∈ parents, pathIsWithin child parent := List.any_eq_true

/-- A root permits the paths its scope covers. -/
theorem within_iff_covers {path : ConcretePath} {root : String} :
    pathIsWithin path.text root ↔ (scopeOf root).Covers (splitPath path.text) := by
  rw [pathIsWithin_iff, ← path.literal.root]
  cases reach : (scopeOf root).reach with
  | subtree =>
    rw [Scope.covers_subtree reach]
    constructor
    · rintro ((scopes | ⟨-, under⟩) | ⟨-, level, -⟩)
      · exact scopes ▸ List.prefix_refl _
      · exact under
      · rw [reach] at level
        cases level
    · exact fun under => .inl (.inr ⟨reach, under⟩)
  | oneLevel =>
    rw [Scope.covers_oneLevel reach]
    constructor
    · rintro ((scopes | ⟨whole, -⟩) | ⟨-, -, below⟩)
      · rw [← scopes, path.literal.subtree] at reach
        cases reach
      · rw [reach] at whole
        cases whole
      · exact below
    · exact fun below => .inr ⟨path.literal, reach, below⟩

theorem permits_iff {roots : List String} {path : ConcretePath} :
    Permits roots path ↔ ∃ root ∈ roots, (scopeOf root).Covers (splitPath path.text) := by
  rw [Permits, anyRootContains_iff]
  exact exists_congr fun root => and_congr_right fun _ => within_iff_covers

/-- Where no exact root is within a `/*` root only, the roots are inside by their scopes. -/
theorem RootsWithin.inside {inner outer : List String} (within : RootsWithin inner outer)
    (clear : RootsClear inner outer) {root : String} (member : root ∈ inner) :
    ∃ other ∈ outer, (scopeOf root).Inside (scopeOf other) := by
  by_cases literal : Exact root
  · obtain ⟨other, known, wide, contained⟩ := clear root member literal
    refine ⟨other, known, ?_⟩
    rcases pathIsWithin_iff.mp contained with inside | ⟨-, level, -⟩
    · exact inside
    · exact absurd (scopeOf_oneLevel.mp level) wide
  · obtain ⟨other, known, contained⟩ := anyRootContains_iff.mp (within root member)
    refine ⟨other, known, ?_⟩
    rcases pathIsWithin_iff.mp contained with inside | ⟨literal', -⟩
    · exact inside
    · exact absurd literal' literal

theorem rootsWithin_refl (roots : List String) : RootsWithin roots roots := fun root member =>
  anyRootContains_iff.mpr ⟨root, member, pathIsWithin_iff.mpr (.inl (.refl _))⟩

/-- Containment goes on through an inside scope. -/
theorem pathIsWithin_trans {root middle outer : String} (within : pathIsWithin root middle)
    (inside : (scopeOf middle).Inside (scopeOf outer)) : pathIsWithin root outer := by
  rw [pathIsWithin_iff] at within ⊢
  rcases within with inner | ⟨literal, level, segment, below⟩
  · exact .inl (inner.trans inside)
  · rcases inside with same | ⟨whole, under⟩
    · exact .inr ⟨literal, same ▸ level, segment, same ▸ below⟩
    · exact .inl (.inr ⟨whole, under.trans (below ▸ List.prefix_append ..)⟩)

theorem RootsWithin.trans {first inner outer : List String} (before : RootsWithin first inner)
    (within : RootsWithin inner outer) (clear : RootsClear inner outer) :
    RootsWithin first outer := by
  intro root member
  obtain ⟨middle, known, contained⟩ := anyRootContains_iff.mp (before root member)
  obtain ⟨other, listed, inside⟩ := within.inside clear known
  exact anyRootContains_iff.mpr ⟨other, listed, pathIsWithin_trans contained inside⟩

theorem RootsWithin.permits {inner outer : List String} (within : RootsWithin inner outer)
    (clear : RootsClear inner outer) {path : ConcretePath} (permitted : Permits inner path) :
    Permits outer path := by
  rw [permits_iff] at permitted ⊢
  obtain ⟨root, member, covered⟩ := permitted
  obtain ⟨other, known, inside⟩ := within.inside clear member
  exact ⟨other, known, inside.covers covered⟩

/-! ## A path deep below a root -/

/-- A segment of `n + 1` letters. -/
def letters (n : Nat) : String := String.ofList (List.replicate (n + 1) 'a')

theorem letters_injective : Function.Injective letters := by
  intro m n same
  have lengths := congrArg List.length (String.ofList_inj.mp same)
  rw [List.length_replicate, List.length_replicate] at lengths
  exact Nat.succ.inj lengths

/-- Some segment is in none of the roots. -/
theorem exists_fresh (roots : List String) :
    ∃ n, ∀ root ∈ roots, letters n ∉ (scopeOf root).root := by
  obtain ⟨segment, ⟨n, rfl⟩, unused⟩ :=
    (Set.infinite_range_of_injective letters_injective).exists_notMem_finset
      (roots.flatMap fun root => (scopeOf root).root).toFinset
  refine ⟨n, fun root member found => unused ?_⟩
  exact List.mem_toFinset.mpr (List.mem_flatMap.mpr ⟨root, member, found⟩)

theorem splitPath_append {root segment : String} (plain : '/' ∉ segment.toList) :
    splitPath (root ++ "/" ++ segment) = splitPath root ++ [segment] := by
  have chars : (root ++ "/" ++ segment).toList = root.toList ++ '/' :: segment.toList := by
    rw [String.toList_append, String.toList_append, List.append_assoc]
    rfl
  rw [splitPath, chars, List.splitOn_append_cons_self, List.splitOn_eq_singleton plain,
    List.map_append, List.map_singleton, String.ofList_toList, splitPath]

theorem letters_plain (n : Nat) : '/' ∉ (letters n).toList := by
  rw [letters, String.toList_ofList, List.mem_replicate]
  rintro ⟨-, same⟩
  exact absurd same (by decide)

/-- A text that ends in a letter has no wildcard. -/
theorem exact_append_letters (text : String) (n : Nat) : Exact (text ++ letters n) := by
  have last : (text ++ letters n).toList.getLast? = some 'a' := by
    rw [String.toList_append, letters, String.toList_ofList, List.replicate_succ',
      ← List.append_assoc, List.getLast?_concat]
  rcases rootWithoutWildcard_cases (text ++ letters n) with ⟨shape, -⟩ | ⟨shape, -⟩ | whole
  · rw [shape, List.getLast?_append_of_ne_nil _ (by decide)] at last
    exact absurd last (by decide)
  · rw [shape, List.getLast?_append_of_ne_nil _ (by decide)] at last
    exact absurd last (by decide)
  · rw [Exact, whole]

theorem splitPath_deep (root : String) (n : Nat) :
    splitPath (root ++ "/" ++ letters n ++ "/" ++ letters n) =
      splitPath root ++ [letters n, letters n] := by
  rw [splitPath_append (letters_plain n), splitPath_append (letters_plain n), List.append_assoc]
  rfl

/-- A root the code accepts has proper segments. -/
theorem scopeFault_segments {root : String} (valid : scopeFault root = none) :
    ∀ part ∈ splitPath root, part ∉ ["", ".", ".."] := by
  intro part member improper
  unfold scopeFault at valid
  dsimp only at valid
  split at valid
  · cases valid
  · rw [if_pos ⟨part, member, improper⟩] at valid
    cases valid

/-- The path two segments of letters below a root. -/
def deepPath (root : String) (valid : scopeFault root = none) (n : Nat) : ConcretePath where
  text := root ++ "/" ++ letters n ++ "/" ++ letters n
  relative := by
    rw [splitPath_deep]
    intro part member
    rcases List.mem_append.mp member with inside | below
    · exact scopeFault_segments valid part inside
    · have plain : part = letters n := by simpa using below
      rw [plain]
      intro found
      have lengths : (letters n).toList.head? = some 'a' := by
        rw [letters, String.toList_ofList, List.replicate_succ, List.head?_cons]
      simp only [List.mem_cons, List.not_mem_nil, or_false] at found
      rcases found with same | same | same <;> simp [same] at lengths
  literal := exact_append_letters _ n

/-- Roots that permit no path the outer ones refuse have every exact root within one that
reaches a subtree. -/
theorem rootsClear_of_permits {inner outer : List String}
    (valid : ∀ root ∈ inner, scopeFault root = none)
    (sound : ∀ path, Permits inner path → Permits outer path) : RootsClear inner outer := by
  intro root member literal
  obtain ⟨n, absent⟩ := exists_fresh outer
  have permitted : Permits inner (deepPath root (valid root member) n) := by
    rw [permits_iff]
    refine ⟨root, member, (Scope.covers_subtree literal.subtree).mpr ?_⟩
    rw [literal.root, deepPath, splitPath_deep]
    exact List.prefix_append ..
  obtain ⟨other, known, covered⟩ := permits_iff.mp (sound _ permitted)
  rw [deepPath, splitPath_deep] at covered
  have unnamed : ∀ scope ∈ outer.map scopeOf, letters n ∉ scope.root :=
    List.forall_mem_map.mpr absent
  obtain ⟨scope, listed, whole, under⟩ := exists_subtree_of_covers unnamed
    ⟨scopeOf other, List.mem_map_of_mem known, covered⟩
  obtain ⟨owner, owned, rfl⟩ := List.mem_map.mp listed
  refine ⟨owner, owned, scopeOf_subtree.mp whole, pathIsWithin_iff.mpr (.inl (.inr ⟨whole, ?_⟩))⟩
  rw [literal.root]
  exact under

/-! ## Boundaries -/

section Boundaries
variable {a b c : ExecutionBoundary}

/-- The dimensions without paths narrow. -/
structure Narrower (a b : ExecutionBoundary) : Prop where
  actions : a.allowedActions.items ⊆ b.allowedActions.items
  denied : b.deniedActions.items ⊆ a.deniedActions.items
  children : a.maxChildren.value ≤ b.maxChildren.value
  parallel : a.maxParallel.value ≤ b.maxParallel.value
  depth : a.maxDepth.value ≤ b.maxDepth.value
  time : ExecutionBoundary.budgetWithin a.timeBudgetSeconds b.timeBudgetSeconds
  tokens : ExecutionBoundary.budgetWithin a.tokenBudget b.tokenBudget
  triggers : b.replanRequiredWhen.items ⊆ a.replanRequiredWhen.items

theorem budgetWithin_refl {minimum maximum : Int} (budget : Option (Limited minimum maximum)) :
    ExecutionBoundary.budgetWithin budget budget := by
  cases budget with
  | none => rfl
  | some limit => exact decide_eq_true le_rfl

theorem budgetWithin_trans {minimum maximum : Int}
    {first middle last : Option (Limited minimum maximum)}
    (inner : ExecutionBoundary.budgetWithin first middle)
    (outer : ExecutionBoundary.budgetWithin middle last) :
    ExecutionBoundary.budgetWithin first last := by
  cases last with
  | none => rfl
  | some limit =>
    cases middle with
    | none => cases outer
    | some between =>
      cases first with
      | none => cases inner
      | some used => exact decide_eq_true ((of_decide_eq_true inner).trans (of_decide_eq_true outer))

theorem Narrower.refl (a : ExecutionBoundary) : Narrower a a :=
  ⟨List.Subset.refl _, List.Subset.refl _, le_rfl, le_rfl, le_rfl, budgetWithin_refl _,
    budgetWithin_refl _, List.Subset.refl _⟩

theorem Narrower.trans (inner : Narrower a b) (outer : Narrower b c) : Narrower a c where
  actions := List.Subset.trans inner.actions outer.actions
  denied := List.Subset.trans outer.denied inner.denied
  children := inner.children.trans outer.children
  parallel := inner.parallel.trans outer.parallel
  depth := inner.depth.trans outer.depth
  time := budgetWithin_trans inner.time outer.time
  tokens := budgetWithin_trans inner.tokens outer.tokens
  triggers := List.Subset.trans outer.triggers inner.triggers

/-- Every path `a` may write or read is one `b` may write or read. -/
def Sound (a b : ExecutionBoundary) : Prop := ∀ path,
  (Permits a.writableTargets.items path → Permits b.writableTargets.items path) ∧
    (Permits a.sourceRoots.items path → Permits b.sourceRoots.items path)

/-- No exact root of `a` is within a `/*` root of `b` only. -/
def Clear (a b : ExecutionBoundary) : Prop :=
  RootsClear a.writableTargets.items b.writableTargets.items ∧
    RootsClear a.sourceRoots.items b.sourceRoots.items

theorem Sound.clear (sound : Sound a b) : Clear a b :=
  ⟨rootsClear_of_permits a.writableTargets.valid fun path => (sound path).1,
    rootsClear_of_permits a.sourceRoots.valid fun path => (sound path).2⟩

variable [Sha256]

/-- `a.is_subset_of(b)`. -/
def Within (a b : ExecutionBoundary) : Prop := a.isSubsetOf b 0 = .ok true

theorem within_iff_failedChecks : Within a b ↔ b.failedChecks a 0 = [] := by
  unfold Within ExecutionBoundary.isSubsetOf ExecutionBoundary.validateChildSubset
  rw [ensure_of le_rfl, ok_bind]
  by_cases passed : b.failedChecks a 0 = []
  · rw [ensure_of passed, ok_bind]
    exact iff_of_true rfl passed
  · rw [ensure_error passed, error_bind]
    refine iff_of_false ?_ passed
    dsimp only [fail]
    rw [if_pos rfl]
    decide

theorem within_iff : Within a b ↔ Narrower a b ∧
    RootsWithin a.writableTargets.items b.writableTargets.items ∧
    RootsWithin a.sourceRoots.items b.sourceRoots.items := by
  rw [within_iff_failedChecks]
  unfold ExecutionBoundary.failedChecks
  simp only [List.append_eq_nil_iff, ite_eq_left_iff, reduceCtorEq, imp_false, not_not,
    ite_eq_right_iff, Int.sub_zero, rootsWithin_iff, not_or, not_lt]
  constructor
  · rintro ⟨⟨⟨⟨⟨⟨⟨⟨actions, denied⟩, writable⟩, source⟩, -⟩, -⟩, -⟩, budgets⟩, triggers⟩
    obtain ⟨children, parallel, depth, time, tokens⟩ := budgets
    exact ⟨⟨actions, denied, children, parallel, depth, time, tokens, triggers⟩, writable, source⟩
  · rintro ⟨narrower, writable, source⟩
    exact ⟨⟨⟨⟨⟨⟨⟨⟨narrower.actions, narrower.denied⟩, writable⟩, source⟩, narrower.children⟩,
      narrower.parallel⟩, narrower.depth⟩, narrower.children, narrower.parallel, narrower.depth,
      narrower.time, narrower.tokens⟩, narrower.triggers⟩

theorem within_refl (a : ExecutionBoundary) : Within a a :=
  within_iff.mpr ⟨.refl a, rootsWithin_refl _, rootsWithin_refl _⟩

theorem Within.trans (inner : Within a b) (outer : Within b c) (clear : Clear b c) : Within a c := by
  rw [within_iff] at *
  obtain ⟨narrower, writable, source⟩ := inner
  obtain ⟨narrower', writable', source'⟩ := outer
  exact ⟨narrower.trans narrower', writable.trans writable' clear.1, source.trans source' clear.2⟩

theorem Within.sound (within : Within a b) (clear : Clear a b) : Sound a b := by
  obtain ⟨-, writable, source⟩ := within_iff.mp within
  exact fun path => ⟨writable.permits clear.1, source.permits clear.2⟩

/-- The subset relation is reflexive. What is within `b` is within a boundary `c` that `b`
is within, and `c` permits the paths of `b`, iff every exact root of `b` is within a root
of `c` that is not `/*`. -/
theorem boundary_order : (∀ a, Within a a) ∧ ∀ b c, Within b c →
    ((∀ a, Within a b → Within a c) ∧ Sound b c ↔ Clear b c) := by
  refine ⟨within_refl, fun b c within => ?_⟩
  constructor
  · rintro ⟨-, sound⟩
    exact sound.clear
  · intro clear
    exact ⟨fun a inner => inner.trans within clear, within.sound clear⟩

end Boundaries

/-! ## A directory under one segment -/

/-- A boundary that may write and read one root. -/
def rootBoundary (root : String) (text : Text root) (valid : scopeFault root = none) :
    ExecutionBoundary where
  allowedActions := ⟨["read"], List.pairwise_singleton _ _, by decide, by decide, by decide⟩
  deniedActions := ⟨[], List.Pairwise.nil, by decide, by decide, by decide⟩
  writableTargets := {
    items := [root]
    strict := List.pairwise_singleton _ _
    enough := Nat.zero_le _
    limited := Nat.succ_le_succ (Nat.zero_le 63)
    texts := List.forall_mem_singleton.mpr text
    valid := List.forall_mem_singleton.mpr valid }
  sourceRoots := {
    items := [root]
    strict := List.pairwise_singleton _ _
    enough := le_rfl
    limited := Nat.succ_le_succ (Nat.zero_le 63)
    texts := List.forall_mem_singleton.mpr text
    valid := List.forall_mem_singleton.mpr valid }
  maxChildren := ⟨1, by decide, by decide⟩
  maxParallel := ⟨1, by decide, by decide⟩
  maxDepth := ⟨0, by decide, by decide⟩
  replanRequiredWhen :=
    ⟨["scope"], List.pairwise_singleton _ _, by decide, by decide, by decide⟩
  timeBudgetSeconds := none
  tokenBudget := none
  disjoint := by simp

theorem rootBoundary_within [Sha256] {inner outer : String} {textI textO validI validO} :
    Within (rootBoundary inner textI validI) (rootBoundary outer textO validO) ↔
      pathIsWithin inner outer := by
  rw [within_iff]
  have narrower : Narrower (rootBoundary inner textI validI) (rootBoundary outer textO validO) :=
    ⟨List.Subset.refl _, List.Subset.refl _, le_rfl, le_rfl, le_rfl, rfl, rfl, List.Subset.refl _⟩
  have roots : RootsWithin [inner] [outer] ↔ pathIsWithin inner outer := by
    simp [RootsWithin, anyRootContains]
  exact ⟨fun both => roots.mp both.2.1, fun within =>
    ⟨narrower, roots.mpr within, roots.mpr within⟩⟩

/-- The subtree of a directory, a directory in it and a directory in that one. -/
def subtreeBoundary : ExecutionBoundary := rootBoundary "s/**" (by decide) (by decide)
def directoryBoundary : ExecutionBoundary := rootBoundary "s/a" (by decide) (by decide)
def nestedBoundary : ExecutionBoundary := rootBoundary "s/a/b" (by decide) (by decide)

/-- One segment below the same directory. -/
def segmentBoundary : ExecutionBoundary := rootBoundary "s/*" (by decide) (by decide)

@[reducible] def boundaryHash : Sha256 := ⟨fun _ => 0⟩

/-- A directory keeps to the subtree it is in. -/
theorem boundary_order_subtree :
    (∀ a, @Within boundaryHash a directoryBoundary → @Within boundaryHash a subtreeBoundary) ∧
      Sound directoryBoundary subtreeBoundary := by
  have within : @Within boundaryHash directoryBoundary subtreeBoundary :=
    (@rootBoundary_within boundaryHash _ _ _ _ _ _).mpr (by decide)
  have clear : RootsClear ["s/a"] ["s/**"] := by
    intro root member _
    rw [List.mem_singleton.mp member]
    exact ⟨"s/**", List.mem_singleton_self _, by decide, by decide⟩
  exact ((@boundary_order boundaryHash).2 _ _ within).mpr ⟨clear, clear⟩

/-- `s/a/b` is within `s/a` and `s/a` within `s/*`, but `s/a/b` is not within `s/*`. -/
theorem segment_takes_directory : ¬ ((∀ a, @Within boundaryHash a a) ∧
    (∀ a b c, @Within boundaryHash a b → @Within boundaryHash b c → @Within boundaryHash a c) ∧
    ∀ a b, @Within boundaryHash a b → Sound a b) := by
  rintro ⟨-, transitive, -⟩
  have inner : @Within boundaryHash nestedBoundary directoryBoundary :=
    (@rootBoundary_within boundaryHash _ _ _ _ _ _).mpr (by decide)
  have outer : @Within boundaryHash directoryBoundary segmentBoundary :=
    (@rootBoundary_within boundaryHash _ _ _ _ _ _).mpr (by decide)
  have whole : pathIsWithin "s/a/b" "s/*" :=
    (@rootBoundary_within boundaryHash _ _ _ _ _ _).mp
      (transitive nestedBoundary directoryBoundary segmentBoundary inner outer)
  exact absurd whole (by decide)

end DwSuperApps.Guarantees.BoundaryOrder
