import Mathlib.Data.List.Basic
import Mathlib.Data.List.TakeWhile
import DwSuperApps.Lib.Json

/-!
# Validated texts and content digests

Identifiers, bounded texts and SHA-256 digests as values that carry their own
well-formedness. `parse` is the check a raw string goes through: strip, refuse
an empty text, a NUL, a text over the byte bound, and (for an identifier) any
character outside the identifier alphabet. A parsed value parses back to itself.

The hash is a parameter: `Sha256.bits` is the digest, as a number, of the
canonical JSON text of a value, which is determined by the value with its keys
sorted.
-/
namespace DwSuperApps.Lib

/-! ## Characters -/

/-- Python's `str.isspace` of one character. -/
def isSpace (c : Char) : Bool :=
  let n := c.toNat
  (9 ≤ n && n ≤ 13) || (28 ≤ n && n ≤ 32) || n == 0x85 || n == 0xa0 || n == 0x1680 ||
    (0x2000 ≤ n && n ≤ 0x200a) || n == 0x2028 || n == 0x2029 || n == 0x202f || n == 0x205f ||
    n == 0x3000

def stripChars (l : List Char) : List Char :=
  ((l.dropWhile isSpace).reverse.dropWhile isSpace).reverse

/-- `str.strip`. -/
def strip (s : String) : String := String.ofList (stripChars s.toList)

/-- `len(s.encode("utf-8"))`. -/
def utf8Bytes (s : String) : Nat := (s.toList.map Char.utf8Size).sum

def isAlnum (c : Char) : Bool :=
  ('A' ≤ c && c ≤ 'Z') || ('a' ≤ c && c ≤ 'z') || ('0' ≤ c && c ≤ '9')

def isIdentifierChar (c : Char) : Bool :=
  isAlnum c || c == '.' || c == '_' || c == ':' || c == '-'

/-- `[A-Za-z0-9][A-Za-z0-9._:-]*`. -/
def isIdentifierChars : List Char → Bool
  | [] => false
  | c :: rest => isAlnum c && rest.all isIdentifierChar

def isIdentifier (s : String) : Bool := isIdentifierChars s.toList

def isHexChar (c : Char) : Bool := ('0' ≤ c && c ≤ '9') || ('a' ≤ c && c ≤ 'f')

/-- `sha256:[0-9a-f]{64}`. -/
def isDigestChars (l : List Char) : Bool :=
  l.take 7 == "sha256:".toList && (l.drop 7).length == 64 && (l.drop 7).all isHexChar

def isDigest (s : String) : Bool := isDigestChars s.toList

/-! ## Facts about stripping -/

theorem stripChars_of_ends {l : List Char} (head : ∀ c ∈ l.head?, isSpace c = false)
    (last : ∀ c ∈ l.getLast?, isSpace c = false) : stripChars l = l := by
  have front : l.dropWhile isSpace = l := by
    cases l with
    | nil => rfl
    | cons c rest => simp [List.dropWhile, head c (by simp)]
  have back : l.reverse.dropWhile isSpace = l.reverse := by
    cases h : l.reverse with
    | nil => rfl
    | cons c rest =>
      have final : l.getLast? = some c := by
        rw [← List.head?_reverse, h]
        rfl
      simp [List.dropWhile, last c (by simp [final])]
  rw [stripChars, front, back, List.reverse_reverse]

theorem strip_strip (s : String) : strip (strip s) = strip s := by
  have ends : ∀ l, stripChars (stripChars l) = stripChars l := by
    intro l
    apply stripChars_of_ends
    · intro c member
      have drop := List.head?_dropWhile_not isSpace l
      obtain ⟨tail, shape⟩ := (List.reverse_prefix.mpr
        (List.dropWhile_suffix isSpace (l := (l.dropWhile isSpace).reverse)))
      rw [List.reverse_reverse] at shape
      have first : (l.dropWhile isSpace).head? = some c := by
        rw [← shape, List.head?_append]
        simp only [stripChars] at member
        simp [Option.mem_def.mp member]
      rw [first] at drop
      exact drop
    · intro c member
      have drop := List.head?_dropWhile_not isSpace (l.dropWhile isSpace).reverse
      rw [stripChars, List.getLast?_reverse] at member
      rw [Option.mem_def.mp member] at drop
      exact drop
  rw [strip, strip, String.toList_ofList, ends]

theorem strip_of_noSpace {s : String} (noSpace : ∀ c ∈ s.toList, isSpace c = false) :
    strip s = s := by
  rw [strip, stripChars_of_ends, String.ofList_toList]
  · intro c member
    exact noSpace c (List.mem_of_mem_head? member)
  · intro c member
    exact noSpace c (List.mem_of_mem_getLast? member)

theorem stripChars_nil {l : List Char} : stripChars l = [] ↔ ∀ c ∈ l, isSpace c = true := by
  rw [stripChars, List.reverse_eq_nil_iff, List.dropWhile_eq_nil_iff]
  constructor
  · intro spaces c member
    rw [← List.takeWhile_append_dropWhile (p := isSpace) (l := l)] at member
    rcases List.mem_append.mp member with front | back
    · exact List.mem_takeWhile_imp front
    · exact spaces c (List.mem_reverse.mpr back)
  · intro spaces c member
    exact spaces c ((List.dropWhile_sublist isSpace).subset (List.mem_reverse.mp member))

theorem strip_empty {s : String} : strip s = "" ↔ ∀ c ∈ s.toList, isSpace c = true := by
  rw [← stripChars_nil, strip, ← String.toList_inj, String.toList_ofList]
  rfl

theorem strip_append {s t : String} (solid : strip s ≠ "" ∨ strip t ≠ "") : strip (s ++ t) ≠ "" := by
  intro empty
  have spaces := strip_empty.mp empty
  rw [String.toList_append] at spaces
  rcases solid with solid | solid
  · exact solid (strip_empty.mpr fun c member => spaces c (List.mem_append_left _ member))
  · exact solid (strip_empty.mpr fun c member => spaces c (List.mem_append_right _ member))

theorem ne_empty_of_strip {s : String} (solid : strip s ≠ "") : s ≠ "" := by
  rintro rfl
  exact solid rfl

theorem isAlnum_noSpace {c : Char} (h : isAlnum c) : isSpace c = false := by
  simp only [isAlnum, Bool.or_eq_true, Bool.and_eq_true, decide_eq_true_eq, Char.le_def,
    UInt32.le_iff_toNat_le] at h
  simp only [isSpace, Bool.or_eq_false_iff, Bool.and_eq_false_iff, decide_eq_false_iff_not,
    beq_eq_false_iff_ne]
  simp [Char.toNat_val] at h
  omega

theorem isIdentifierChar_noSpace {c : Char} (h : isIdentifierChar c) : isSpace c = false := by
  simp only [isIdentifierChar, Bool.or_eq_true, beq_iff_eq] at h
  rcases h with (((alnum | rfl) | rfl) | rfl) | rfl
  · exact isAlnum_noSpace alnum
  all_goals decide

theorem isIdentifier_chars {s : String} (h : isIdentifier s) :
    s ≠ "" ∧ ∀ c ∈ s.toList, isIdentifierChar c := by
  unfold isIdentifier at h
  cases chars : s.toList with
  | nil => simp [chars, isIdentifierChars] at h
  | cons c rest =>
    rw [chars] at h
    simp only [isIdentifierChars, Bool.and_eq_true, List.all_eq_true] at h
    refine ⟨?_, ?_⟩
    · rintro rfl
      simp at chars
    · intro d member
      rcases List.mem_cons.mp member with rfl | later
      · simp [isIdentifierChar, h.1]
      · exact h.2 d later

theorem isIdentifier_append {s t : String} (head : isIdentifier s)
    (tail : ∀ c ∈ t.toList, isIdentifierChar c) : isIdentifier (s ++ t) := by
  unfold isIdentifier at *
  rw [String.toList_append]
  cases chars : s.toList with
  | nil => simp [chars, isIdentifierChars] at head
  | cons c rest =>
    rw [chars] at head
    simp only [isIdentifierChars, Bool.and_eq_true, List.all_eq_true] at head
    simp only [isIdentifierChars, List.cons_append, Bool.and_eq_true, List.all_append,
      List.all_eq_true]
    exact ⟨head.1, head.2, tail⟩

theorem utf8Bytes_append (s t : String) : utf8Bytes (s ++ t) = utf8Bytes s + utf8Bytes t := by
  simp [utf8Bytes]

/-! ## Parsed values -/

/-- Which check of a raw text failed. -/
inductive TextFault where
  | empty | nul | tooLong (maxBytes : Nat) | notIdentifier | notDigest
  deriving DecidableEq

def TextFault.message (name : String) : TextFault → String
  | .empty => s!"{name} must be non-empty"
  | .nul => s!"{name} must not contain NUL characters"
  | .tooLong maxBytes => s!"{name} exceeds {maxBytes} UTF-8 bytes"
  | .notIdentifier => s!"{name} must be a stable identifier"
  | .notDigest => s!"{name} must be sha256:<64 lowercase hex>"

/-- A stable identifier of at most `maxBytes` bytes. -/
structure Ident (maxBytes : Nat) where
  value : String
  identifier : isIdentifier value
  bounded : utf8Bytes value ≤ maxBytes
  deriving DecidableEq

/-- A stripped text of at most `maxBytes` bytes. -/
structure BoundedText (maxBytes : Nat) where
  value : String
  stripped : strip value = value
  nonempty : value ≠ ""
  noNul : '\x00' ∉ value.toList
  bounded : utf8Bytes value ≤ maxBytes
  deriving DecidableEq

/-- The text of a SHA-256 digest. -/
structure Digest where
  value : String
  digest : isDigest value
  deriving DecidableEq

namespace BoundedText
variable {maxBytes : Nat}

def parse (maxBytes : Nat) (raw : String) : Except TextFault (BoundedText maxBytes) :=
  if empty : strip raw = "" then .error .empty
  else if nul : '\x00' ∈ (strip raw).toList then .error .nul
  else if long : utf8Bytes (strip raw) > maxBytes then .error (.tooLong maxBytes)
  else .ok ⟨strip raw, strip_strip raw, empty, nul, Nat.not_lt.mp long⟩

@[simp] theorem parse_value (t : BoundedText maxBytes) : parse maxBytes t.value = .ok t := by
  simp [parse, t.stripped, t.nonempty, t.noNul, Nat.not_lt.mpr t.bounded]

theorem parse_ok {raw : String} {t : BoundedText maxBytes} (parsed : parse maxBytes raw = .ok t) :
    t.value = strip raw := by
  unfold parse at parsed
  split at parsed
  · cases parsed
  · split at parsed
    · cases parsed
    · split at parsed
      · cases parsed
      · cases parsed
        rfl

def widen {larger : Nat} (t : BoundedText maxBytes) (h : maxBytes ≤ larger) : BoundedText larger :=
  ⟨t.value, t.stripped, t.nonempty, t.noNul, Nat.le_trans t.bounded h⟩

@[ext] theorem ext {s t : BoundedText maxBytes} (same : s.value = t.value) : s = t := by
  cases s
  cases t
  simpa using same

end BoundedText

namespace Ident
variable {maxBytes : Nat}

def parse (maxBytes : Nat) (raw : String) : Except TextFault (Ident maxBytes) :=
  match BoundedText.parse maxBytes raw with
  | .error fault => .error fault
  | .ok t => if h : isIdentifier t.value then .ok ⟨t.value, h, t.bounded⟩ else .error .notIdentifier

theorem stripped (i : Ident maxBytes) : strip i.value = i.value :=
  strip_of_noSpace fun c member =>
    isIdentifierChar_noSpace ((isIdentifier_chars i.identifier).2 c member)

theorem nonempty (i : Ident maxBytes) : i.value ≠ "" := (isIdentifier_chars i.identifier).1

theorem noNul (i : Ident maxBytes) : '\x00' ∉ i.value.toList := by
  intro member
  exact absurd ((isIdentifier_chars i.identifier).2 _ member) (by decide)

/-- An identifier as a bounded text. -/
def toText {larger : Nat} (i : Ident maxBytes) (h : maxBytes ≤ larger) : BoundedText larger :=
  ⟨i.value, i.stripped, i.nonempty, i.noNul, Nat.le_trans i.bounded h⟩

@[simp] theorem parse_value (i : Ident maxBytes) : parse maxBytes i.value = .ok i := by
  have text := BoundedText.parse_value (i.toText (Nat.le_refl _))
  simp only [toText] at text
  simp [parse, text, i.identifier]

/-- A parsed identifier is the stripped text. -/
theorem parse_ok {raw : String} {i : Ident maxBytes} (parsed : parse maxBytes raw = .ok i) :
    i.value = strip raw := by
  unfold parse at parsed
  split at parsed
  · cases parsed
  · next t text =>
    split at parsed
    · cases parsed
      exact BoundedText.parse_ok text
    · cases parsed

@[ext] theorem ext {i j : Ident maxBytes} (same : i.value = j.value) : i = j := by
  cases i
  cases j
  simpa using same

/-- The identifier under a larger bound. -/
def widen {larger : Nat} (i : Ident maxBytes) (h : maxBytes ≤ larger) : Ident larger :=
  ⟨i.value, i.identifier, Nat.le_trans i.bounded h⟩

@[simp] theorem widen_value {larger : Nat} (i : Ident maxBytes) (h : maxBytes ≤ larger) :
    (i.widen h).value = i.value := rfl

end Ident

namespace Digest

/-- Digests are read through the text checks with a bound of 80 bytes. -/
def parse (raw : String) : Except TextFault Digest :=
  match BoundedText.parse 80 raw with
  | .error fault => .error fault
  | .ok t => if h : isDigest t.value then .ok ⟨t.value, h⟩ else .error .notDigest

theorem chars (d : Digest) : d.value.toList.length = 71 ∧
    ∀ c ∈ d.value.toList, isIdentifierChar c ∧ c.toNat < 128 := by
  have shape := d.digest
  unfold isDigest at shape
  generalize d.value.toList = l at shape
  simp only [isDigestChars, Bool.and_eq_true, beq_iff_eq, List.all_eq_true] at shape
  obtain ⟨⟨lead, count⟩, hex⟩ := shape
  have split : l = "sha256:".toList ++ l.drop 7 := by rw [← lead, List.take_append_drop]
  constructor
  · rw [split, List.length_append, count]
    rfl
  · intro c member
    rw [split, List.mem_append] at member
    rcases member with front | back
    · have lead : ("sha256:".toList.all fun c => isIdentifierChar c && decide (c.toNat < 128)) := by
        decide
      simpa using List.all_eq_true.mp lead c front
    · have digit := hex c back
      simp only [isHexChar, Bool.or_eq_true, Bool.and_eq_true, decide_eq_true_eq, Char.le_def,
        UInt32.le_iff_toNat_le] at digit
      simp [Char.toNat_val] at digit
      refine ⟨?_, by omega⟩
      simp only [isIdentifierChar, isAlnum, Bool.or_eq_true, Bool.and_eq_true, decide_eq_true_eq,
        Char.le_def, UInt32.le_iff_toNat_le]
      simp [Char.toNat_val]
      omega

theorem ascii_bytes {l : List Char} (ascii : ∀ c ∈ l, c.toNat < 128) :
    (l.map Char.utf8Size).sum = l.length := by
  induction l with
  | nil => rfl
  | cons c rest ih =>
    have small : c.val ≤ 0x7f := by
      have bound := ascii c (by simp)
      rw [UInt32.le_iff_toNat_le]
      simp [Char.toNat_val]
      omega
    have tail := ih fun d member => ascii d (by simp [member])
    simp [Char.utf8Size, small, tail]
    omega

/-- A digest passes the text checks as it stands. -/
def toText (d : Digest) : BoundedText 80 where
  value := d.value
  stripped := strip_of_noSpace fun c member => isIdentifierChar_noSpace (d.chars.2 c member).1
  nonempty := by
    intro empty
    have count := d.chars.1
    simp [empty] at count
  noNul := by
    intro member
    exact absurd (d.chars.2 _ member).1 (by decide)
  bounded := by
    rw [utf8Bytes, ascii_bytes fun c member => (d.chars.2 c member).2, d.chars.1]
    decide

theorem strip_value (d : Digest) : strip d.value = d.value := d.toText.stripped

theorem value_ne_empty (d : Digest) : d.value ≠ "" := d.toText.nonempty

@[simp] theorem parse_value (d : Digest) : parse d.value = .ok d := by
  have text := BoundedText.parse_value d.toText
  simp only [toText] at text
  simp [parse, text, d.digest]

@[ext] theorem ext {d e : Digest} (same : d.value = e.value) : d = e := by
  cases d
  cases e
  simpa using same

/-- The low `4 * k` bits in hexadecimal, most significant digit first. -/
def hexDigits : Nat → Nat → List Char
  | 0, _ => []
  | k + 1, n => hexDigits k (n / 16) ++ [Json.hexDigit n]

theorem hexDigits_shape (k n : Nat) :
    (hexDigits k n).length = k ∧ ∀ c ∈ hexDigits k n, isHexChar c := by
  have digit (m : Nat) : isHexChar (Json.hexDigit m) := by
    have all : ∀ d < 16, isHexChar ("0123456789abcdef".toList.getD d '0') := by decide
    exact all (m % 16) (Nat.mod_lt m (by decide))
  induction k generalizing n with
  | zero => simp [hexDigits]
  | succ k ih =>
    obtain ⟨count, hex⟩ := ih (n / 16)
    refine ⟨by simp [hexDigits, count], ?_⟩
    intro c member
    rcases List.mem_append.mp member with front | last
    · exact hex c front
    · rw [List.mem_singleton.mp last]
      exact digit n

/-- `"sha256:" + hexdigest` of a 256-bit number. -/
def ofNat (n : Nat) : Digest where
  value := String.ofList ("sha256:".toList ++ hexDigits 64 n)
  digest := by
    obtain ⟨count, hex⟩ := hexDigits_shape 64 n
    rw [isDigest, String.toList_ofList]
    generalize hexDigits 64 n = digits at count hex
    have lead : ("sha256:".toList ++ digits).take 7 = "sha256:".toList :=
      List.take_left' rfl
    have rest : ("sha256:".toList ++ digits).drop 7 = digits := List.drop_left' rfl
    rw [isDigestChars, lead, rest, count, List.all_eq_true.mpr hex]
    rfl

end Digest

/-! ## Content digests -/

/-- SHA-256 over the canonical text of a JSON value, as a number. The value is
given with its keys sorted. -/
class Sha256 where
  bits : Json → Nat

/-- `canonical_digest`. -/
def canonicalDigest [Sha256] (value : Json) : Digest :=
  Digest.ofNat (Sha256.bits value.sortKeys)

end DwSuperApps.Lib
