import DwSuperApps.Source.Routing
import Mathlib.Data.List.Lex
import Mathlib.Data.Prod.Lex
import Mathlib.Order.WithBot

/-!
# The order of versions

Comparison of version texts (`compare_versions`) against the order of their precedences.

* the precedence of a version is its three numbers and then the keys of its pre-release,
  which a release is above;
* the comparison is the order of the precedences, except that it answers 1 for two different
  pre-releases with the same keys, and fails at a numeric identifier `int` does not read
  (`compareParsed_eq`);
* it is transitive on all accepted texts, and antisymmetric and exact at zero where the texts
  do not spell the same pre-release keys differently and all identifiers that are compared can
  be read (`compareVersions_order`).
-/
namespace DwSuperApps.Guarantees.VersionOrder

open DwSuperApps.Lib DwSuperApps.Lib.Checked DwSuperApps.Source.Routing

/-! ## Keys of identifiers -/

/-- The key of a pre-release identifier, of whatever length. -/
abbrev IdKey := Nat ⊕ₗ String

abbrev Numeric (token : String) : Prop := token ≠ "" ∧ token.toList.all (·.isDigit)

/-- A numeric identifier with more digits than `int` reads. -/
def TooLong (token : String) : Prop := Numeric token ∧ token.toList.length > 4300

def numeralValue (numeral : List Char) : Nat :=
  numeral.foldl (fun value c => 10 * value + (decimalValue c).getD 0) 0

def idKey (token : String) : IdKey :=
  if Numeric token then Sum.inlₗ (numeralValue token.toList) else Sum.inrₗ token

theorem splitId_ok {token : String} (short : ¬ TooLong token) : splitId token = .ok (idKey token) := by
  unfold splitId idKey
  by_cases numeric : Numeric token
  · have fits : ¬ token.toList.length > 4300 := fun longer => short ⟨numeric, longer⟩
    rw [if_pos numeric, if_pos numeric, readInt, if_neg fits]
    rfl
  · rw [if_neg numeric, if_neg numeric]

theorem splitId_error {token : String} (long : TooLong token) : ∃ e, splitId token = .error e := by
  unfold splitId
  rw [if_pos long.1, readInt, if_pos long.2]
  exact ⟨_, rfl⟩

/-! ## Precedence -/

/-- What is compared: the numbers, and then the keys of the pre-release. -/
abbrev Precedence := (Nat ×ₗ Nat ×ₗ Nat) ×ₗ WithTop (List IdKey)

def numbers (v : Version) : Nat ×ₗ Nat ×ₗ Nat := toLex (v.major, toLex (v.minor, v.patch))

/-- A release is above each of its pre-releases. -/
def preKeys (pre : Option (List String)) : WithTop (List IdKey) :=
  match pre with
  | none => ⊤
  | some ids => (ids.map idKey : List IdKey)

def precedence (v : Version) : Precedence := toLex (numbers v, preKeys v.pre)

/-- Equal numbers, and pre-releases that are both absent or have equal keys. -/
def SamePrecedence (v w : Version) : Prop :=
  numbers v = numbers w ∧ v.pre.map (·.map idKey) = w.pre.map (·.map idKey)

instance (v w : Version) : Decidable (SamePrecedence v w) := by
  unfold SamePrecedence
  infer_instance

/-- Different pre-releases of one version with equal keys, such as `01` and `1`. -/
def Respelled (v w : Version) : Prop :=
  numbers v = numbers w ∧ ∃ p ∈ v.pre, ∃ q ∈ w.pre, p ≠ q ∧ p.map idKey = q.map idKey

/-- A numeric identifier that cannot be read is reached before a difference. -/
def Overruns : List String → List String → Prop
  | x :: xs, y :: ys => TooLong x ∨ TooLong y ∨ idKey x = idKey y ∧ Overruns xs ys
  | _, _ => False

/-- The versions differ in their pre-releases alone, and these cannot be compared. -/
def Unreadable (v w : Version) : Prop :=
  numbers v = numbers w ∧ ∃ p ∈ v.pre, ∃ q ∈ w.pre, p ≠ q ∧ Overruns p q

variable {v w : Version}

theorem preKeys_injective {p q : Option (List String)} :
    preKeys p = preKeys q ↔ p.map (·.map idKey) = q.map (·.map idKey) := by
  cases p <;> cases q <;> simp [preKeys]

theorem samePrecedence_iff : SamePrecedence v w ↔ precedence v = precedence w := by
  unfold SamePrecedence precedence
  rw [toLex_inj, Prod.mk.injEq, preKeys_injective]

theorem version_eq (same : numbers v = numbers w) (pre : v.pre = w.pre) : v = w := by
  obtain ⟨major, minor, patch, ids⟩ := v
  obtain ⟨major', minor', patch', ids'⟩ := w
  simp only [numbers, toLex_inj, Prod.mk.injEq] at same pre
  obtain ⟨rfl, rfl, rfl⟩ := same
  rw [pre]

/-- Respelled versions are the ones of equal precedence that differ. -/
theorem respelled_iff : Respelled v w ↔ SamePrecedence v w ∧ v ≠ w := by
  constructor
  · rintro ⟨same, p, memberP, q, memberQ, differ, keys⟩
    refine ⟨⟨same, ?_⟩, ?_⟩
    · rw [Option.mem_def.mp memberP, Option.mem_def.mp memberQ, Option.map_some, Option.map_some, keys]
    · rintro rfl
      exact differ (Option.some.inj (memberP.symm.trans memberQ))
  · rintro ⟨⟨same, keys⟩, differ⟩
    refine ⟨same, ?_⟩
    cases preV : v.pre with
    | none =>
      rw [preV, Option.map_none, eq_comm, Option.map_eq_none_iff] at keys
      exact absurd (version_eq same (preV.trans keys.symm)) differ
    | some p =>
      rw [preV, Option.map_some, eq_comm, Option.map_eq_some_iff] at keys
      obtain ⟨q, preW, keys⟩ := keys
      refine ⟨p, rfl, q, preW, ?_, keys.symm⟩
      rintro rfl
      exact differ (version_eq same (preV.trans preW.symm))

/-! ## What can be compared -/

theorem overruns_comm {p q : List String} : Overruns p q ↔ Overruns q p := by
  induction p generalizing q with
  | nil => cases q <;> rfl
  | cons x p ih =>
    cases q with
    | nil => rfl
    | cons y q =>
      rw [Overruns, Overruns, ih, or_left_comm, eq_comm]

/-- Between two neighbours that can be compared nothing is out of reach. -/
theorem overruns_trans {a b c : List String} (first : ¬ Overruns a b) (second : ¬ Overruns b c)
    (less : a.map idKey ≤ b.map idKey) (next : b.map idKey ≤ c.map idKey) : ¬ Overruns a c := by
  induction a generalizing b c with
  | nil => exact fun reached => reached
  | cons x a ih =>
    cases b with
    | nil => exact absurd less (not_le.mpr (List.nil_lt_cons _ _))
    | cons y b =>
      cases c with
      | nil => exact absurd next (not_le.mpr (List.nil_lt_cons _ _))
      | cons z c =>
        rw [Overruns] at first second ⊢
        simp only [not_or, not_and] at first second
        obtain ⟨shortX, -, innerFirst⟩ := first
        obtain ⟨-, shortZ, innerSecond⟩ := second
        rintro (long | long | ⟨same, reached⟩)
        · exact shortX long
        · exact shortZ long
        · rw [List.map_cons, List.map_cons, ← not_lt, List.cons_lt_cons_iff, not_or, not_and] at less next
          have headYZ : idKey y ≤ idKey z := not_lt.mp next.1
          have equalXY : idKey x = idKey y := le_antisymm (not_lt.mp less.1) (headYZ.trans same.ge)
          have equalYZ : idKey y = idKey z := equalXY.symm.trans same
          have tailXY := not_lt.mp (less.2 equalXY.symm)
          have tailYZ := not_lt.mp (next.2 equalYZ.symm)
          exact ih (innerFirst equalXY) (innerSecond equalYZ) tailXY tailYZ reached

/-! ## The comparison -/

/-- The comparison of two different pre-releases. -/
def compareDifferent (a b : List String) : Except Raised Int := do
  let decided ← comparePairs a b
  return decided.getD (if a.length < b.length then -1 else 1)

theorem compareDifferent_cons {x y : String} {a b : List String} (first : ¬ TooLong x)
    (second : ¬ TooLong y) :
    compareDifferent (x :: a) (y :: b) =
      if idKey x = idKey y then compareDifferent a b
      else .ok (if idKey x < idKey y then -1 else 1) := by
  unfold compareDifferent
  rw [comparePairs, bind_of (splitId_ok first), bind_of (splitId_ok second)]
  by_cases same : idKey x = idKey y
  · rw [if_pos same, if_pos same]
    simp only [List.length_cons, Nat.add_lt_add_iff_right]
  · rw [if_neg same, if_neg same]
    rfl

/-- Different pre-releases are compared by their keys, a tie counted as greater. -/
theorem compareDifferent_ok {a b : List String} (reads : ¬ Overruns a b) :
    compareDifferent a b = .ok (if a.map idKey < b.map idKey then -1 else 1) := by
  induction a generalizing b with
  | nil =>
    cases b with
    | nil => rfl
    | cons y b => rfl
  | cons x a ih =>
    cases b with
    | nil =>
      rw [List.map_nil, if_neg (List.not_lt_nil _)]
      rfl
    | cons y b =>
      rw [Overruns] at reads
      simp only [not_or, not_and] at reads
      rw [compareDifferent_cons reads.1 reads.2.1]
      simp only [List.map_cons, List.cons_lt_cons_iff]
      by_cases same : idKey x = idKey y
      · simp [same, ih (reads.2.2 same)]
      · simp [same]

theorem compareDifferent_error {a b : List String} (reached : Overruns a b) :
    ∃ e, compareDifferent a b = .error e := by
  induction a generalizing b with
  | nil => cases reached
  | cons x a ih =>
    cases b with
    | nil => cases reached
    | cons y b =>
      by_cases first : TooLong x
      · obtain ⟨e, failed⟩ := splitId_error first
        refine ⟨e, ?_⟩
        rw [compareDifferent, comparePairs, failed]
        rfl
      · by_cases second : TooLong y
        · obtain ⟨e, failed⟩ := splitId_error second
          refine ⟨e, ?_⟩
          rw [compareDifferent, comparePairs, bind_of (splitId_ok first), failed]
          rfl
        · obtain ⟨same, inner⟩ := (reached.resolve_left first).resolve_left second
          obtain ⟨e, failed⟩ := ih inner
          exact ⟨e, by rw [compareDifferent_cons first second, if_pos same, failed]⟩

/-- The comparison of two versions. -/
def compareParsed (v w : Version) : Except Raised Int :=
  match compareNumbers v w, v.pre, w.pre with
  | some order, _, _ => .ok order
  | none, none, none => .ok 0
  | none, none, some _ => .ok 1
  | none, some _, none => .ok (-1)
  | none, some preA, some preB => comparePre preA preB

theorem compareNumbers_none : compareNumbers v w = none ↔ numbers v = numbers w := by
  unfold compareNumbers numbers
  simp only [List.findSome?_eq_none_iff, List.forall_mem_cons, toLex_inj, Prod.mk.injEq]
  simp

theorem compareNumbers_some {order : Int} (decided : compareNumbers v w = some order) :
    numbers v ≠ numbers w ∧ order = if numbers v < numbers w then -1 else 1 := by
  have differ : numbers v ≠ numbers w := fun same => by
    rw [compareNumbers_none.mpr same] at decided
    cases decided
  refine ⟨differ, ?_⟩
  unfold compareNumbers at decided
  unfold numbers
  simp only [Prod.Lex.toLex_lt_toLex]
  by_cases major : v.major = w.major
  · by_cases minor : v.minor = w.minor
    · by_cases patch : v.patch = w.patch
      · simp [major, minor, patch] at decided
      · by_cases less : v.patch < w.patch <;> simp_all
    · by_cases less : v.minor < w.minor <;> simp_all
  · by_cases less : v.major < w.major <;> simp_all

/-- The comparison is the order of the precedences, a tie of different versions counted as
greater. -/
theorem compareParsed_eq (reads : ¬ Unreadable v w) :
    compareParsed v w =
      .ok (if precedence v < precedence w then -1 else if v = w then 0 else 1) := by
  unfold compareParsed
  cases decided : compareNumbers v w with
  | some order =>
    obtain ⟨differ, rfl⟩ := compareNumbers_some decided
    have apart : v ≠ w := fun same => differ (congrArg numbers same)
    simp only [precedence, Prod.Lex.toLex_lt_toLex, differ, false_and, or_false, apart, if_false]
  | none =>
    have same := compareNumbers_none.mp decided
    have equal : v = w ↔ v.pre = w.pre := ⟨congrArg _, version_eq same⟩
    simp only [precedence, Prod.Lex.toLex_lt_toLex, same, lt_irrefl, false_or, true_and, equal]
    cases preV : v.pre with
    | none => cases preW : w.pre <;> simp [preKeys]
    | some p =>
      cases preW : w.pre with
      | none => simp [preKeys, WithTop.coe_lt_top]
      | some q =>
        simp only [preKeys, WithTop.coe_lt_coe, Option.some.injEq, comparePre]
        by_cases alike : p = q
        · subst alike
          simp
        · have inner : ¬ Overruns p q := fun reached =>
            reads ⟨same, p, preV, q, preW, alike, reached⟩
          have result := compareDifferent_ok inner
          unfold compareDifferent at result
          simp only [alike, if_false, result]

theorem compareParsed_error (reached : Unreadable v w) : ∃ e, compareParsed v w = .error e := by
  obtain ⟨same, p, preV, q, preW, differ, overruns⟩ := reached
  obtain ⟨e, failed⟩ := compareDifferent_error overruns
  refine ⟨e, ?_⟩
  unfold compareDifferent at failed
  unfold compareParsed
  rw [compareNumbers_none.mpr same, Option.mem_def.mp preV, Option.mem_def.mp preW]
  simp only [comparePre, differ, if_false, failed]

theorem unreadable_comm : Unreadable v w ↔ Unreadable w v := by
  constructor
  · rintro ⟨same, p, preV, q, preW, differ, reached⟩
    exact ⟨same.symm, q, preW, p, preV, differ.symm, overruns_comm.mp reached⟩
  · rintro ⟨same, p, preV, q, preW, differ, reached⟩
    exact ⟨same.symm, q, preW, p, preV, differ.symm, overruns_comm.mp reached⟩

/-! ## Accepted texts -/

variable {a b c : String} {u : Version}

theorem compareVersions_eq (first : parseVersion a = .ok v) (second : parseVersion b = .ok w) :
    compareVersions a b = compareParsed v w := by
  unfold compareVersions compareParsed
  rw [bind_of first, bind_of second]
  rfl

/-- What a total order asks of the comparisons of three texts, `v` and `w` being the first two
as they are parsed. -/
structure OrderedAt (a b c : String) (v w : Version) : Prop where
  opposite : ∃ order, compareVersions a b = .ok order ∧ compareVersions b a = .ok (-order)
  equal : compareVersions a b = .ok 0 ↔ SamePrecedence v w
  ascending : ∀ r s, compareVersions a b = .ok r → compareVersions b c = .ok s → r ≤ 0 → s ≤ 0 →
    ∃ t ≤ 0, compareVersions a c = .ok t
  descending : ∀ r s, compareVersions a b = .ok r → compareVersions b c = .ok s → 0 ≤ r → 0 ≤ s →
    ∃ t ≥ 0, compareVersions a c = .ok t

theorem compareParsed_nonpos {order : Int} (result : compareParsed v w = .ok order) :
    ¬ Unreadable v w ∧ (order ≤ 0 ↔ precedence v < precedence w ∨ v = w) := by
  have reads : ¬ Unreadable v w := fun reached => by
    obtain ⟨e, failed⟩ := compareParsed_error reached
    rw [failed] at result
    cases result
  refine ⟨reads, ?_⟩
  rw [compareParsed_eq reads, Except.ok.injEq] at result
  rw [← result]
  by_cases less : precedence v < precedence w
  · simp [less]
  · by_cases same : v = w <;> simp [less, same]

theorem compareParsed_nonneg {order : Int} (result : compareParsed v w = .ok order) :
    ¬ Unreadable v w ∧ (0 ≤ order ↔ precedence w ≤ precedence v) := by
  have reads := (compareParsed_nonpos result).1
  refine ⟨reads, ?_⟩
  rw [compareParsed_eq reads, Except.ok.injEq] at result
  rw [← result, ← not_lt]
  by_cases less : precedence v < precedence w
  · simp [less]
  · rw [if_neg less]
    refine iff_of_true ?_ (not_lt.mp less)
    split <;> decide

/-- Between neighbours that are compared in one direction the outer two can be compared. -/
theorem readable_trans (first : ¬ Unreadable v w) (second : ¬ Unreadable w u)
    (less : precedence v ≤ precedence w) (next : precedence w ≤ precedence u) :
    ¬ Unreadable v u := by
  rintro ⟨same, p, preV, q, preU, differ, reached⟩
  rw [precedence, precedence, Prod.Lex.toLex_le_toLex] at less next
  -- equal outer numbers leave no room in between
  have headVW : numbers v ≤ numbers w := less.elim le_of_lt fun both => both.1.le
  have headWU : numbers w ≤ numbers u := next.elim le_of_lt fun both => both.1.le
  have equalVW : numbers v = numbers w := le_antisymm headVW (headWU.trans same.ge)
  have equalWU : numbers w = numbers u := equalVW.symm.trans same
  have keysVW := (less.resolve_left equalVW.not_lt).2
  have keysWU := (next.resolve_left equalWU.not_lt).2
  rw [Option.mem_def.mp preV] at keysVW
  rw [Option.mem_def.mp preU] at keysWU
  cases preW : w.pre with
  | none =>
    rw [preW] at keysWU
    exact absurd keysWU (not_le.mpr (WithTop.coe_lt_top _))
  | some r =>
    rw [preW] at keysVW keysWU
    by_cases left : p = r
    · subst left
      exact second ⟨equalWU, p, preW, q, preU, differ, reached⟩
    · by_cases right : r = q
      · subst right
        exact first ⟨equalVW, p, preV, r, preW, left, reached⟩
      · refine overruns_trans ?_ ?_ (WithTop.coe_le_coe.mp keysVW) (WithTop.coe_le_coe.mp keysWU)
          reached
        · exact fun inner => first ⟨equalVW, p, preV, r, preW, left, inner⟩
        · exact fun inner => second ⟨equalWU, r, preW, q, preU, right, inner⟩

theorem compare_ascending {r s : Int} (first : compareParsed v w = .ok r)
    (second : compareParsed w u = .ok s) (less : r ≤ 0) (next : s ≤ 0) :
    ∃ t ≤ 0, compareParsed v u = .ok t := by
  obtain ⟨readsVW, signVW⟩ := compareParsed_nonpos first
  obtain ⟨readsWU, signWU⟩ := compareParsed_nonpos second
  rcases signVW.mp less with lessVW | rfl
  · rcases signWU.mp next with lessWU | rfl
    · have result := compareParsed_eq (readable_trans readsVW readsWU lessVW.le lessWU.le)
      exact ⟨_, (compareParsed_nonpos result).2.mpr (.inl (lessVW.trans lessWU)), result⟩
    · exact ⟨r, less, first⟩
  · exact ⟨s, next, second⟩

theorem compare_descending {r s : Int} (first : compareParsed v w = .ok r)
    (second : compareParsed w u = .ok s) (greater : 0 ≤ r) (next : 0 ≤ s) :
    ∃ t ≥ 0, compareParsed v u = .ok t := by
  obtain ⟨readsVW, signVW⟩ := compareParsed_nonneg first
  obtain ⟨readsWU, signWU⟩ := compareParsed_nonneg second
  have upper := signVW.mp greater
  have lower := signWU.mp next
  have reads : ¬ Unreadable v u := fun reached =>
    readable_trans (fun inner => readsWU (unreadable_comm.mp inner))
      (fun inner => readsVW (unreadable_comm.mp inner)) lower upper (unreadable_comm.mp reached)
  have result := compareParsed_eq reads
  exact ⟨_, (compareParsed_nonneg result).2.mpr (lower.trans upper), result⟩

/-- A comparison and its converse are opposite unless the versions are respelled. -/
theorem compareParsed_opposite (reads : ¬ Unreadable v w) :
    (∃ order, compareParsed v w = .ok order ∧ compareParsed w v = .ok (-order)) ↔
      ¬ Respelled v w := by
  rw [compareParsed_eq reads, compareParsed_eq fun reached => reads (unreadable_comm.mp reached),
    respelled_iff, samePrecedence_iff]
  simp only [Except.ok.injEq, exists_eq_left']
  rcases lt_trichotomy (precedence v) (precedence w) with less | same | greater
  · have differ : w ≠ v := by
      rintro rfl
      exact less.false
    simp [less, less.not_gt, less.ne, differ]
  · by_cases equal : v = w
    · simp [equal]
    · simp [same, equal, Ne.symm equal]
  · have differ : v ≠ w := by
      rintro rfl
      exact greater.false
    simp [greater, greater.not_gt, greater.ne', differ]

theorem compareParsed_zero (reads : ¬ Unreadable v w) :
    compareParsed v w = .ok 0 ↔ v = w := by
  rw [compareParsed_eq reads, Except.ok.injEq]
  by_cases same : v = w
  · simp [same]
  · by_cases less : precedence v < precedence w <;> simp [same, less]

/-- The comparison orders accepted texts exactly where the first two are not two spellings of
the same pre-release keys, and can be compared at all. -/
theorem compareVersions_order (first : parseVersion a = .ok v) (second : parseVersion b = .ok w)
    (third : parseVersion c = .ok u) :
    OrderedAt a b c v w ↔ ¬ Respelled v w ∧ ¬ Unreadable v w := by
  have forward := compareVersions_eq first second
  have backward := compareVersions_eq second first
  have later := compareVersions_eq second third
  have outer := compareVersions_eq first third
  constructor
  · rintro ⟨opposite, -, -, -⟩
    rw [forward, backward] at opposite
    obtain ⟨order, ahead, behind⟩ := opposite
    have reads := (compareParsed_nonpos ahead).1
    exact ⟨(compareParsed_opposite reads).mp ⟨order, ahead, behind⟩, reads⟩
  · rintro ⟨plain, reads⟩
    refine ⟨?_, ?_, ?_, ?_⟩
    · rw [forward, backward]
      exact (compareParsed_opposite reads).mpr plain
    · rw [forward, compareParsed_zero reads]
      constructor
      · rintro rfl
        exact samePrecedence_iff.mpr rfl
      · intro same
        by_contra differ
        exact plain (respelled_iff.mpr ⟨same, differ⟩)
    · intro r s ahead after less next
      rw [forward] at ahead
      rw [later] at after
      rw [outer]
      exact compare_ascending ahead after less next
    · intro r s ahead after greater next
      rw [forward] at ahead
      rw [later] at after
      rw [outer]
      exact compare_descending ahead after greater next

/-! ## Spellings -/

def release (pre : List String) : Version := ⟨1, 0, 0, some pre⟩

theorem compareVersions_order_witness :
    OrderedAt "1.0.0-alpha.2" "1.0.0-alpha.10" "1.0.0" (release ["alpha", "2"])
        (release ["alpha", "10"]) ↔
      ¬ Respelled (release ["alpha", "2"]) (release ["alpha", "10"]) ∧
        ¬ Unreadable (release ["alpha", "2"]) (release ["alpha", "10"]) :=
  @compareVersions_order (release ["alpha", "2"]) (release ["alpha", "10"]) "1.0.0-alpha.2"
    "1.0.0-alpha.10" "1.0.0" ⟨1, 0, 0, none⟩ (by decide) (by decide)
    (by decide)

/-- `01` and `1` are above each other. -/
theorem respelled_not_ordered :
    compareVersions "1.0.0-01" "1.0.0-1" = .ok 1 ∧ compareVersions "1.0.0-1" "1.0.0-01" = .ok 1 ∧
      ¬ ∀ a b c v w u, parseVersion a = .ok v → parseVersion b = .ok w → parseVersion c = .ok u →
        OrderedAt a b c v w := by
  have ahead : compareVersions "1.0.0-01" "1.0.0-1" = .ok 1 := by decide
  have behind : compareVersions "1.0.0-1" "1.0.0-01" = .ok 1 := by decide
  refine ⟨ahead, behind, fun ordered => ?_⟩
  obtain ⟨order, forward, backward⟩ := (ordered "1.0.0-01" "1.0.0-1" "1.0.0" (release ["01"])
    (release ["1"]) ⟨1, 0, 0, none⟩ (by decide) (by decide)
    (by decide)).opposite
  rw [ahead, Except.ok.injEq] at forward
  rw [behind, ← forward] at backward
  exact absurd backward (by decide)

end DwSuperApps.Guarantees.VersionOrder
