import DwSuperApps.Lib.Json

/-!
# JSON as text

The text `json.dumps(value, separators=(",", ":"))` writes, with and without
`ensure_ascii`, and the reader of its string literals: a literal is read back whatever
follows, so the text of a literal and what is behind it determine each other
(`literal_append_inj`). A lone surrogate, which a string here cannot hold, is refused
by the reader.
-/
namespace DwSuperApps.Lib.JsonText

open DwSuperApps.Lib.Json

/-! ## Writing -/

/-- The halves of a character beyond the basic plane. -/
def highHalf (n : Nat) : Nat := 0xd800 + (n - 0x10000) / 1024
def lowHalf (n : Nat) : Nat := 0xdc00 + (n - 0x10000) % 1024

/-- The character of two halves. -/
def pairCode (high low : Nat) : Nat := 0x10000 + (high - 0xd800) * 1024 + (low - 0xdc00)

def isHigh (n : Nat) : Prop := 0xd800 ≤ n ∧ n < 0xdc00
def isLow (n : Nat) : Prop := 0xdc00 ≤ n ∧ n < 0xe000

instance (n : Nat) : Decidable (isHigh n) := by unfold isHigh; infer_instance
instance (n : Nat) : Decidable (isLow n) := by unfold isLow; infer_instance

/-- `{0:04x}`. -/
def hex4 (n : Nat) : List Char :=
  [hexDigit (n / 4096), hexDigit (n / 256), hexDigit (n / 16), hexDigit n]

def unicodeEscape (n : Nat) : List Char := '\\' :: 'u' :: hex4 n

/-- One character of a string literal of ASCII characters. -/
def asciiChar (c : Char) : List Char :=
  if c = '"' then ['\\', '"']
  else if c = '\\' then ['\\', '\\']
  else if c = '\n' then ['\\', 'n']
  else if c = '\r' then ['\\', 'r']
  else if c = '\t' then ['\\', 't']
  else if c.toNat = 8 then ['\\', 'b']
  else if c.toNat = 12 then ['\\', 'f']
  else if 32 ≤ c.toNat ∧ c.toNat ≤ 126 then [c]
  else if c.toNat < 0x10000 then unicodeEscape c.toNat
  else unicodeEscape (highHalf c.toNat) ++ unicodeEscape (lowHalf c.toNat)

/-- One character of a string literal. -/
def textChar (ascii : Bool) (c : Char) : List Char := if ascii then asciiChar c else escapeChar c

@[simp] theorem textChar_false : textChar false = escapeChar := rfl

def literal (ascii : Bool) (s : List Char) : List Char := '"' :: s.flatMap (textChar ascii) ++ ['"']

/-- Texts separated by commas, and a bracket. -/
def joined (close : Char) : List (List Char) → List Char
  | [] => [close]
  | [text] => text ++ [close]
  | text :: rest => text ++ ',' :: joined close rest

mutual
/-- `json.dumps(value, separators=(",", ":"), ensure_ascii=ascii)`. -/
def render (ascii : Bool) : Json → List Char
  | .null => "null".toList
  | .bool b => (if b then "true" else "false").toList
  | .int n => (toString n).toList
  | .float text => text.toList
  | .str s => literal ascii s.toList
  | .arr items => '[' :: joined ']' (renderItems ascii items)
  | .obj members => '\x7b' :: joined '\x7d' (renderMembers ascii members)
def renderItems (ascii : Bool) : List Json → List (List Char)
  | [] => []
  | item :: rest => render ascii item :: renderItems ascii rest
def renderMembers (ascii : Bool) : List (String × Json) → List (List Char)
  | [] => []
  | (k, v) :: rest => (literal ascii k.toList ++ ':' :: render ascii v) :: renderMembers ascii rest
end

theorem joined_eq (close : Char) (texts : List (List Char)) :
    joined close texts = [','].intercalate texts ++ [close] := by
  induction texts with
  | nil => rfl
  | cons text rest ih =>
    cases rest with
    | nil => simp [joined]
    | cons next rest => simp [joined, ih]

mutual
/-- Without `ensure_ascii` the text is the canonical one. -/
theorem toList_dumps : ∀ v : Json, v.dumps.toList = render false v
  | .null | .int _ | .float _ => rfl
  | .bool true | .bool false => rfl
  | .str s => by simp [dumps, quoted, render, literal]
  | .arr items => by
    simp [dumps, render, joined_eq, toList_dumpsItems items]
  | .obj members => by
    simp [dumps, render, joined_eq, toList_dumpsMembers members]
theorem toList_dumpsItems : ∀ items : List Json,
    (dumpsItems items).map String.toList = renderItems false items
  | [] => rfl
  | item :: rest => by
    rw [dumpsItems, renderItems, List.map_cons, toList_dumps item, toList_dumpsItems rest]
theorem toList_dumpsMembers : ∀ members : List (String × Json),
    (dumpsMembers members).map String.toList = renderMembers false members
  | [] => rfl
  | (k, v) :: rest => by
    rw [dumpsMembers, renderMembers, List.map_cons, toList_dumpsMembers rest]
    simp [quoted, literal, toList_dumps v]
end

/-! ## Reading a string -/

def hexVal (c : Char) : Option Nat :=
  if '0' ≤ c ∧ c ≤ '9' then some (c.toNat - 48)
  else if 'a' ≤ c ∧ c ≤ 'f' then some (c.toNat - 87)
  else if 'A' ≤ c ∧ c ≤ 'F' then some (c.toNat - 55)
  else none

/-- The four digits after `\u`. -/
def hexCode : List Char → Option (Nat × List Char)
  | a :: b :: c :: d :: rest =>
    match hexVal a, hexVal b, hexVal c, hexVal d with
    | some a, some b, some c, some d => some (((a * 16 + b) * 16 + c) * 16 + d, rest)
    | _, _, _, _ => none
  | _ => none

def simpleEscape : Char → Option Char
  | '"' => some '"'
  | '\\' => some '\\'
  | '/' => some '/'
  | 'b' => some '\x08'
  | 'f' => some '\x0c'
  | 'n' => some '\n'
  | 'r' => some '\r'
  | 't' => some '\t'
  | _ => none

/-- The second half of a surrogate pair. -/
def lowSurrogate (high : Nat) : List Char → Option (Char × List Char)
  | '\\' :: 'u' :: rest =>
    match hexCode rest with
    | some (low, rest) =>
      if isLow low then some (Char.ofNat (pairCode high low), rest) else none
    | none => none
  | _ => none

/-- A character written as `\uXXXX`, or as two of them. -/
def unicodeChar (cs : List Char) : Option (Char × List Char) :=
  match hexCode cs with
  | some (n, rest) =>
    if isHigh n then lowSurrogate n rest
    else if isLow n then none
    else some (Char.ofNat n, rest)
  | none => none

/-- One character of a literal before its closing quote. -/
def readChar : List Char → Option (Char × List Char)
  | '\\' :: 'u' :: rest => unicodeChar rest
  | '\\' :: c :: rest => (simpleEscape c).map fun d => (d, rest)
  | c :: rest => if 32 ≤ c.toNat ∧ c ≠ '"' ∧ c ≠ '\\' then some (c, rest) else none
  | [] => none

/-- The rest of a literal after its opening quote. -/
def readString : Nat → List Char → Option (List Char × List Char)
  | 0, _ => none
  | n + 1, cs =>
    match cs with
    | '"' :: rest => some ([], rest)
    | cs =>
      match readChar cs with
      | none => none
      | some (c, rest) => (readString n rest).map fun (text, rest) => (c :: text, rest)

/-! ### Reading back -/

theorem hexVal_hexDigit (n : Nat) : hexVal (hexDigit n) = some (n % 16) := by
  have all : ∀ d < 16, hexVal ("0123456789abcdef".toList.getD d '0') = some d := by decide
  exact all (n % 16) (Nat.mod_lt n (by decide))

theorem hexCode_hex4 {n : Nat} (small : n < 0x10000) (rest : List Char) :
    hexCode (hex4 n ++ rest) = some (n, rest) := by
  change hexCode (hexDigit (n / 4096) :: hexDigit (n / 256) :: hexDigit (n / 16) :: hexDigit n :: rest) = _
  simp only [hexCode, hexVal_hexDigit, Option.some.injEq, Prod.mk.injEq, and_true]
  omega

/-- A character is no surrogate. -/
theorem not_surrogate (c : Char) : c.toNat < 0xd800 ∨ 0xe000 ≤ c.toNat ∧ c.toNat < 0x110000 := by
  rcases c.valid with low | ⟨above, below⟩
  · exact .inl low
  · exact .inr ⟨above, below⟩

theorem unicodeChar_escape {c : Char} (small : c.toNat < 0x10000) (rest : List Char) :
    unicodeChar (hex4 c.toNat ++ rest) = some (c, rest) := by
  have valid := not_surrogate c
  have high : ¬ isHigh c.toNat := by unfold isHigh; omega
  have low : ¬ isLow c.toNat := by unfold isLow; omega
  unfold unicodeChar
  rw [hexCode_hex4 small]
  simp only [if_neg high, if_neg low, Char.ofNat_toNat]

theorem unicodeChar_halves {high low : Nat} (first : isHigh high) (second : isLow low) (rest : List Char) :
    unicodeChar (hex4 high ++ (unicodeEscape low ++ rest)) = some (Char.ofNat (pairCode high low), rest) := by
  have small : low < 0x10000 := lt_trans second.2 (by decide)
  have smallHigh : high < 0x10000 := lt_trans first.2 (by decide)
  unfold unicodeChar
  rw [hexCode_hex4 smallHigh]
  simp only [if_pos first]
  unfold unicodeEscape lowSurrogate
  simp only [List.cons_append, hexCode_hex4 small, if_pos second]

theorem pairCode_halves {n : Nat} (large : 0x10000 ≤ n) (valid : n < 0x110000) :
    isHigh (highHalf n) ∧ isLow (lowHalf n) ∧ pairCode (highHalf n) (lowHalf n) = n := by
  unfold isHigh isLow pairCode highHalf lowHalf
  omega

/-- A character that stands for itself. -/
theorem readChar_plain {c : Char} (printable : 32 ≤ c.toNat) (quote : c ≠ '"') (slash : c ≠ '\\')
    (rest : List Char) : readChar (c :: rest) = some (c, rest) := by
  unfold readChar
  split
  · next same => exact absurd (List.cons.inj same).1 slash
  · next same => exact absurd (List.cons.inj same).1 slash
  · next same =>
    obtain ⟨rfl, rfl⟩ := List.cons.inj same
    exact if_pos ⟨printable, quote, slash⟩
  · next same => cases same

theorem readChar_unicode (n : Nat) (rest : List Char) :
    readChar (unicodeEscape n ++ rest) = unicodeChar (hex4 n ++ rest) := by
  rw [unicodeEscape, List.cons_append, List.cons_append, readChar]

theorem readChar_ascii (c : Char) (rest : List Char) :
    readChar (asciiChar c ++ rest) = some (c, rest) := by
  unfold asciiChar
  split
  · next quote => subst quote; rfl
  split
  · next slash => subst slash; rfl
  split
  · next feed => subst feed; rfl
  split
  · next carriage => subst carriage; rfl
  split
  · next tab => subst tab; rfl
  split
  · next code =>
    obtain rfl : c = Char.ofNat 8 := by rw [← code, Char.ofNat_toNat]
    rfl
  split
  · next code =>
    obtain rfl : c = Char.ofNat 12 := by rw [← code, Char.ofNat_toNat]
    rfl
  split
  · next quote slash _ _ _ _ _ plain => exact readChar_plain plain.1 quote slash rest
  split
  · next small =>
    rw [readChar_unicode]
    exact unicodeChar_escape small rest
  · next large =>
    have valid := not_surrogate c
    obtain ⟨first, second, whole⟩ := pairCode_halves (Nat.not_lt.mp large) (by omega)
    rw [List.append_assoc, readChar_unicode, unicodeChar_halves first second, whole, Char.ofNat_toNat]

theorem readChar_escape (c : Char) (rest : List Char) :
    readChar (escapeChar c ++ rest) = some (c, rest) := by
  unfold escapeChar
  split
  · next quote => subst quote; rfl
  split
  · next slash => subst slash; rfl
  split
  · next feed => subst feed; rfl
  split
  · next carriage => subst carriage; rfl
  split
  · next tab => subst tab; rfl
  split
  · next code =>
    obtain rfl : c = Char.ofNat 8 := by rw [← code, Char.ofNat_toNat]
    rfl
  split
  · next code =>
    obtain rfl : c = Char.ofNat 12 := by rw [← code, Char.ofNat_toNat]
    rfl
  split
  · next control =>
    have digits : ['0', '0', hexDigit (c.toNat / 16), hexDigit c.toNat] = hex4 c.toNat := by
      have zero : c.toNat / 4096 = 0 ∧ c.toNat / 256 = 0 := by omega
      unfold hex4
      rw [zero.1, zero.2]
      rfl
    change unicodeChar (['0', '0', hexDigit (c.toNat / 16), hexDigit c.toNat] ++ rest) = _
    rw [digits]
    exact unicodeChar_escape (by omega) rest
  · next quote slash _ _ _ _ _ printable => exact readChar_plain (Nat.not_lt.mp printable) quote slash rest

theorem readChar_textChar (ascii : Bool) (c : Char) (rest : List Char) :
    readChar (textChar ascii c ++ rest) = some (c, rest) := by
  cases ascii
  · exact readChar_escape c rest
  · exact readChar_ascii c rest

/-- No character of a literal starts with a quote. -/
theorem textChar_cons (ascii : Bool) (c : Char) :
    ∃ first rest, textChar ascii c = first :: rest ∧ first ≠ '"' := by
  cases ascii
  · change ∃ first rest, escapeChar c = first :: rest ∧ _
    unfold escapeChar
    split_ifs with quote <;> first | exact ⟨_, _, rfl, by decide⟩ | exact ⟨_, _, rfl, quote⟩
  · change ∃ first rest, asciiChar c = first :: rest ∧ _
    unfold asciiChar
    split_ifs with quote <;> first | exact ⟨_, _, rfl, by decide⟩ | exact ⟨_, _, rfl, quote⟩

theorem readString_cons {n : Nat} {first : Char} {rest : List Char} (other : first ≠ '"') :
    readString (n + 1) (first :: rest) =
      match readChar (first :: rest) with
      | none => none
      | some (c, rest) => (readString n rest).map fun (text, rest) => (c :: text, rest) := by
  rw [readString]
  exact fun _ same => other (List.cons.inj same).1

/-- A literal is read back, whatever follows. -/
theorem readString_literal (ascii : Bool) (s : List Char) {n : Nat} (fuel : s.length < n)
    (rest : List Char) :
    readString n (s.flatMap (textChar ascii) ++ '"' :: rest) = some (s, rest) := by
  induction s generalizing n with
  | nil =>
    obtain ⟨n, rfl⟩ := Nat.exists_eq_succ_of_ne_zero (Nat.ne_zero_of_lt fuel)
    rfl
  | cons c s ih =>
    obtain ⟨n, rfl⟩ := Nat.exists_eq_succ_of_ne_zero (Nat.ne_zero_of_lt fuel)
    obtain ⟨first, tail, shape, other⟩ := textChar_cons ascii c
    have read := readChar_textChar ascii c (s.flatMap (textChar ascii) ++ '"' :: rest)
    rw [List.flatMap_cons, List.append_assoc, shape, List.cons_append, readString_cons other,
      ← List.cons_append, ← shape, read]
    dsimp only
    rw [ih (Nat.lt_of_succ_lt_succ fuel)]
    rfl

/-- What a literal says and what is behind it are told apart. -/
theorem literal_append_inj {ascii : Bool} {s t rest more : List Char}
    (same : literal ascii s ++ rest = literal ascii t ++ more) : s = t ∧ rest = more := by
  have text (u rest : List Char) : literal ascii u ++ rest = '"' :: (u.flatMap (textChar ascii) ++ '"' :: rest) := by
    unfold literal
    rw [List.cons_append, List.cons_append, List.append_assoc, List.singleton_append]
  rw [text, text] at same
  have left := readString_literal ascii s (Nat.lt_succ_of_le (Nat.le_add_right s.length t.length)) rest
  have right := readString_literal ascii t (Nat.lt_succ_of_le (Nat.le_add_left t.length s.length)) more
  rw [(List.cons.inj same).2, right] at left
  obtain ⟨rfl, rfl⟩ := Prod.mk.inj (Option.some.inj left)
  exact ⟨rfl, rfl⟩

/-! ### Comparing two texts -/

theorem joined_cons (close : Char) (text next : List Char) (rest : List (List Char)) :
    joined close (text :: next :: rest) = text ++ ',' :: joined close (next :: rest) := rfl

/-- Texts that start with the same item go on the same. -/
theorem joined_same {close : Char} {text next other : List Char} {rest more : List (List Char)}
    (same : joined close (text :: next :: rest) = joined close (text :: other :: more)) :
    joined close (next :: rest) = joined close (other :: more) := by
  rw [joined_cons, joined_cons] at same
  exact (List.cons.inj (List.append_cancel_left same)).2

/-- Texts that start with a literal under one name have that literal in common, and go
on the same. -/
theorem joined_literal {ascii : Bool} {close : Char} {name s t next other : List Char}
    {rest more : List (List Char)}
    (same : joined close ((name ++ ':' :: literal ascii s) :: next :: rest) =
      joined close ((name ++ ':' :: literal ascii t) :: other :: more)) :
    s = t ∧ joined close (next :: rest) = joined close (other :: more) := by
  rw [joined_cons, joined_cons, List.append_assoc, List.append_assoc, List.cons_append,
    List.cons_append] at same
  obtain ⟨text, behind⟩ := literal_append_inj (List.cons.inj (List.append_cancel_left same)).2
  exact ⟨text, (List.cons.inj behind).2⟩

end DwSuperApps.Lib.JsonText
