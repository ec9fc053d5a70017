import Mathlib

/-!
# JSON values and their Python rendering

A JSON value as both runtimes hold it after parsing. Integers are exact; any
other number is kept as the text Python prints for it. An object keeps its
members in order and member names are expected to be distinct.

`pyStr` and `pyRepr` are Python's `str` and `repr` of the frozen form of a value
(an array is a tuple, an object a `mappingproxy`). Characters outside ASCII are
rendered as they stand.
-/
namespace DwSuperApps.Lib

inductive Json where
  | null
  | bool (value : Bool)
  | int (value : Int)
  | float (text : String)
  | str (value : String)
  | arr (items : List Json)
  | obj (members : List (String × Json))
  deriving Repr

namespace Json

/-! ## Decidable equality -/

mutual
def decEq : (a b : Json) → Decidable (a = b)
  | .null, .null => isTrue rfl
  | .bool a, .bool b => decidable_of_iff (a = b) (by simp)
  | .int a, .int b => decidable_of_iff (a = b) (by simp)
  | .float a, .float b => decidable_of_iff (a = b) (by simp)
  | .str a, .str b => decidable_of_iff (a = b) (by simp)
  | .arr as, .arr bs =>
    have := decEqItems as bs
    decidable_of_iff (as = bs) (by simp)
  | .obj as, .obj bs =>
    have := decEqMembers as bs
    decidable_of_iff (as = bs) (by simp)
  | .null, .bool _ | .null, .int _ | .null, .float _ | .null, .str _ | .null, .arr _ | .null, .obj _
  | .bool _, .null | .bool _, .int _ | .bool _, .float _ | .bool _, .str _ | .bool _, .arr _
  | .bool _, .obj _ | .int _, .null | .int _, .bool _ | .int _, .float _ | .int _, .str _
  | .int _, .arr _ | .int _, .obj _ | .float _, .null | .float _, .bool _ | .float _, .int _
  | .float _, .str _ | .float _, .arr _ | .float _, .obj _ | .str _, .null | .str _, .bool _
  | .str _, .int _ | .str _, .float _ | .str _, .arr _ | .str _, .obj _ | .arr _, .null
  | .arr _, .bool _ | .arr _, .int _ | .arr _, .float _ | .arr _, .str _ | .arr _, .obj _
  | .obj _, .null | .obj _, .bool _ | .obj _, .int _ | .obj _, .float _ | .obj _, .str _
  | .obj _, .arr _ => isFalse (by simp)
def decEqItems : (as bs : List Json) → Decidable (as = bs)
  | [], [] => isTrue rfl
  | a :: as, b :: bs =>
    have := decEq a b
    have := decEqItems as bs
    decidable_of_iff (a = b ∧ as = bs) (by simp)
  | [], _ :: _ | _ :: _, [] => isFalse (by simp)
def decEqMembers : (as bs : List (String × Json)) → Decidable (as = bs)
  | [], [] => isTrue rfl
  | (k, a) :: as, (l, b) :: bs =>
    have := decEq a b
    have := decEqMembers as bs
    decidable_of_iff ((k = l ∧ a = b) ∧ as = bs) (by simp)
  | [], _ :: _ | _ :: _, [] => isFalse (by simp)
end

instance : DecidableEq Json := decEq

/-! ## Reading -/

/-- `members.get(name)`: an absent member is `none`, a `null` one `some null`. -/
def member (members : List (String × Json)) (name : String) : Option Json :=
  members.lookup name

/-- `members.get(name)` where an absent member reads as `None`. -/
def get (members : List (String × Json)) (name : String) : Json :=
  (member members name).getD .null

/-- `members[name] = value`: in place, or at the end. -/
def setMember (name : String) (value : Json) : List (String × Json) → List (String × Json)
  | [] => [(name, value)]
  | (k, v) :: rest => if k = name then (k, value) :: rest else (k, v) :: setMember name value rest

/-- `members.pop(name, None)`. -/
def dropMember (name : String) (members : List (String × Json)) : List (String × Json) :=
  members.filter (·.1 ≠ name)

/-- An optional string as JSON, absent as `null`. -/
def ofOption : Option String → Json
  | none => .null
  | some s => .str s

/-! ## Canonical key order -/

/-- Insert a member before the first one with a greater name. -/
def insertMember (k : String) (v : Json) : List (String × Json) → List (String × Json)
  | [] => [(k, v)]
  | (l, w) :: rest => if k ≤ l then (k, v) :: (l, w) :: rest else (l, w) :: insertMember k v rest

mutual
/-- The value with the members of every object in key order: what determines the
text of `json.dumps(value, sort_keys=True)`. -/
def sortKeys : Json → Json
  | .arr items => .arr (sortItems items)
  | .obj members => .obj (sortMembers members)
  | value => value
def sortItems : List Json → List Json
  | [] => []
  | item :: rest => item.sortKeys :: sortItems rest
def sortMembers : List (String × Json) → List (String × Json)
  | [] => []
  | (k, v) :: rest => insertMember k v.sortKeys (sortMembers rest)
end

theorem member_cons (k name : String) (v : Json) (rest : List (String × Json)) :
    member ((k, v) :: rest) name = if name = k then some v else member rest name := by
  unfold member
  rw [List.lookup_cons]
  by_cases here : name = k
  · simp [here]
  · rw [beq_false_of_ne here, if_neg here]

theorem member_insertMember (k name : String) (v : Json) (members : List (String × Json)) :
    member (insertMember k v members) name =
      if name = k then some v else member members name := by
  induction members with
  | nil => exact member_cons k name v []
  | cons first rest ih =>
    obtain ⟨l, w⟩ := first
    unfold insertMember
    split
    · exact member_cons k name v _
    · next after =>
      rw [member_cons, member_cons, ih]
      by_cases here : name = l
      · have other : name ≠ k := fun same => after (same ▸ here ▸ le_refl _)
        rw [if_pos here, if_pos here, if_neg other]
      · rw [if_neg here, if_neg here]

theorem get_of {members : List (String × Json)} {name : String} {value : Json}
    (found : member members name = some value) : get members name = value := by
  rw [get, found, Option.getD_some]

theorem member_ne_none {members : List (String × Json)} {name : String}
    (listed : name ∈ members.map Prod.fst) : member members name ≠ none := by
  induction members with
  | nil => cases listed
  | cons first rest ih =>
    obtain ⟨k, v⟩ := first
    rw [member_cons]
    split
    · exact Option.some_ne_none v
    · next other =>
      exact ih ((List.mem_cons.mp listed).resolve_left other)

theorem member_setMember (name other : String) (v : Json) (members : List (String × Json)) :
    member (setMember name v members) other =
      if other = name then some v else member members other := by
  induction members with
  | nil => exact member_cons name other v []
  | cons first rest ih =>
    obtain ⟨k, w⟩ := first
    unfold setMember
    by_cases here : k = name
    · rw [if_pos here, member_cons, member_cons, here]
      split <;> rfl
    · rw [if_neg here, member_cons, member_cons, ih]
      by_cases own : other = k
      · rw [if_pos own, if_pos own, if_neg (own ▸ here)]
      · rw [if_neg own, if_neg own]

/-- Setting a member to what it is. -/
theorem setMember_self {name : String} {v : Json} {members : List (String × Json)}
    (found : member members name = some v) : setMember name v members = members := by
  induction members with
  | nil => cases found
  | cons first rest ih =>
    obtain ⟨k, w⟩ := first
    rw [member_cons] at found
    unfold setMember
    by_cases here : name = k
    · rw [if_pos here] at found
      rw [if_pos here.symm, Option.some_inj.mp found]
    · rw [if_neg here] at found
      rw [if_neg (Ne.symm here), ih found]

/-- A new member comes last. -/
theorem setMember_new {name : String} {members : List (String × Json)}
    (absent : name ∉ members.map Prod.fst) (v : Json) :
    setMember name v members = members ++ [(name, v)] := by
  induction members with
  | nil => rfl
  | cons first rest ih =>
    obtain ⟨k, w⟩ := first
    rw [List.map_cons, List.mem_cons, not_or] at absent
    rw [setMember, if_neg (Ne.symm absent.1), ih absent.2, List.cons_append]

/-- Sorting keeps every member under its name. -/
theorem member_sortMembers (members : List (String × Json)) (name : String) :
    member (sortMembers members) name = (member members name).map sortKeys := by
  induction members with
  | nil => rfl
  | cons first rest ih =>
    obtain ⟨k, v⟩ := first
    rw [sortMembers, member_insertMember, member_cons, ih]
    split <;> rfl

/-- Python's `==` of two parsed values: the order of members does not count. -/
def same (a b : Json) : Prop := a.sortKeys = b.sortKeys

instance (a b : Json) : Decidable (same a b) := by unfold same; infer_instance

@[simp] theorem same_refl (a : Json) : same a a := rfl

/-- The integer an integral float below `1e16` prints as. -/
def integral (text : String) : Option Int :=
  match text.toList.reverse with
  | '0' :: '.' :: digits => (String.ofList digits.reverse).toInt?
  | _ => none

mutual
/-- The value with `True`, `False` and integral floats as integers. -/
def numeric : Json → Json
  | .bool b => .int (if b then 1 else 0)
  | .float text => (integral text).elim (.float text) .int
  | .arr items => .arr (numericItems items)
  | .obj members => .obj (numericMembers members)
  | value => value
def numericItems : List Json → List Json
  | [] => []
  | item :: rest => item.numeric :: numericItems rest
def numericMembers : List (String × Json) → List (String × Json)
  | [] => []
  | (k, v) :: rest => (k, v.numeric) :: numericMembers rest
end

/-- Python's `==`, numbers of different types included; a float from `1e16` on is
equal to itself only. -/
def pyEq (a b : Json) : Prop := same a.numeric b.numeric

instance (a b : Json) : Decidable (pyEq a b) := by unfold pyEq; infer_instance

theorem pyEq_refl (a : Json) : pyEq a a := same_refl a.numeric

/-! ## Canonical text -/

def hexDigit (n : Nat) : Char := "0123456789abcdef".toList.getD (n % 16) '0'

/-- One character of a JSON string literal. -/
def escapeChar (c : Char) : List Char :=
  if c = '"' then ['\\', '"']
  else if c = '\\' then ['\\', '\\']
  else if c = '\n' then ['\\', 'n']
  else if c = '\r' then ['\\', 'r']
  else if c = '\t' then ['\\', 't']
  else if c.toNat = 8 then ['\\', 'b']
  else if c.toNat = 12 then ['\\', 'f']
  else if c.toNat < 32 then ['\\', 'u', '0', '0', hexDigit (c.toNat / 16), hexDigit c.toNat]
  else [c]

def quoted (s : String) : String := String.ofList (['"'] ++ s.toList.flatMap escapeChar ++ ['"'])

mutual
/-- `json.dumps(value, ensure_ascii=False, separators=(",", ":"))`. -/
def dumps : Json → String
  | .null => "null"
  | .bool b => if b then "true" else "false"
  | .int n => toString n
  | .float text => text
  | .str s => quoted s
  | .arr items => "[" ++ ",".intercalate (dumpsItems items) ++ "]"
  | .obj members => "\x7b" ++ ",".intercalate (dumpsMembers members) ++ "\x7d"
def dumpsItems : List Json → List String
  | [] => []
  | item :: rest => item.dumps :: dumpsItems rest
def dumpsMembers : List (String × Json) → List String
  | [] => []
  | (k, v) :: rest => (quoted k ++ ":" ++ v.dumps) :: dumpsMembers rest
end

/-- `json.dumps` with sorted keys. -/
def canonicalText (value : Json) : String := value.sortKeys.dumps

/-! ## Python rendering -/

/-- One character of `repr` of a string quoted with `quote`. -/
def reprChar (quote c : Char) : List Char :=
  if c = '\\' then ['\\', '\\']
  else if c = quote then ['\\', quote]
  else if c = '\n' then ['\\', 'n']
  else if c = '\r' then ['\\', 'r']
  else if c = '\t' then ['\\', 't']
  else if c.toNat < 32 ∨ c.toNat = 127 then
    ['\\', 'x', hexDigit (c.toNat / 16), hexDigit c.toNat]
  else [c]

/-- `repr` of a string: double quotes only around a text with single quotes and
no double ones. -/
def reprString (s : String) : String :=
  let quote := if '\'' ∈ s.toList ∧ '"' ∉ s.toList then '"' else '\''
  String.ofList ([quote] ++ s.toList.flatMap (reprChar quote) ++ [quote])

mutual
def pyRepr : Json → String
  | .null => "None"
  | .bool b => if b then "True" else "False"
  | .int n => toString n
  | .float text => text
  | .str s => reprString s
  | .arr [item] => "(" ++ item.pyRepr ++ ",)"
  | .arr items => "(" ++ ", ".intercalate (pyReprItems items) ++ ")"
  | .obj members => "mappingproxy(\x7b" ++ ", ".intercalate (pyReprMembers members) ++ "\x7d)"
def pyReprItems : List Json → List String
  | [] => []
  | item :: rest => item.pyRepr :: pyReprItems rest
def pyReprMembers : List (String × Json) → List String
  | [] => []
  | (k, v) :: rest => (reprString k ++ ": " ++ v.pyRepr) :: pyReprMembers rest
end

mutual
/-- `repr` of a value that is not frozen. -/
def rawRepr : Json → String
  | .arr items => "[" ++ ", ".intercalate (rawReprItems items) ++ "]"
  | .obj members => "\x7b" ++ ", ".intercalate (rawReprMembers members) ++ "\x7d"
  | value => value.pyRepr
def rawReprItems : List Json → List String
  | [] => []
  | item :: rest => item.rawRepr :: rawReprItems rest
def rawReprMembers : List (String × Json) → List String
  | [] => []
  | (k, v) :: rest => (reprString k ++ ": " ++ v.rawRepr) :: rawReprMembers rest
end

/-- `str`: a string as it is, a mapping proxy as its underlying dict. -/
def pyStr : Json → String
  | .str s => s
  | .obj members => "\x7b" ++ ", ".intercalate (pyReprMembers members) ++ "\x7d"
  | value => value.pyRepr

end Json
end DwSuperApps.Lib
