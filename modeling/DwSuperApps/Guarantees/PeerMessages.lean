import DwSuperApps.Source.Communication

/-!
# Peer messages read back

A message is rendered as lines and sections and found again by searching for them.

* `round_trip_iff`: parsing what is rendered gives the message back, its bodies stripped,
  exactly where no text of the message takes the place of a line end, a marker or a
  section mark;
* `nextSeq_count`: over a history of such messages, each made by `create_next`, the next
  sequence number of a run is one more than the number of its messages.
-/
namespace DwSuperApps.Guarantees.PeerMessages

open DwSuperApps.Lib DwSuperApps.Lib.Checked DwSuperApps.Lib.Occurrence
open DwSuperApps.Source.Communication
open DwSuperApps.Source.Routing (decimalValue readInt)

/-! ## Lines -/

/-- A text without a character that ends a line. -/
def Unbroken (l : List Char) : Prop := ∀ c ∈ l, isLineBoundary c = false

-- decided character by character of the text, not over the type of characters
instance : DecidablePred Unbroken := fun l => List.decidableBAll (fun c => isLineBoundary c = false) l

theorem splitLines_cons {c : Char} {rest : List Char} (plain : isLineBoundary c = false) :
    splitLines (c :: rest) = match splitLines rest with
      | [] => [[c]]
      | line :: lines => (c :: line) :: lines := by
  have apart : c ≠ '\r' := by
    rintro rfl
    exact absurd plain (by decide)
  rw [splitLines.eq_3 _ _ (fun _ same => absurd same apart), plain]
  rfl

theorem splitLines_feed (rest : List Char) : splitLines ('\n' :: rest) = [] :: splitLines rest := by
  rw [splitLines.eq_3 _ _ (fun _ same => absurd same (by decide))]
  rfl

theorem splitLines_line {line : List Char} (plain : Unbroken line) (rest : List Char) :
    splitLines (line ++ '\n' :: rest) = line :: splitLines rest := by
  induction line with
  | nil => exact splitLines_feed rest
  | cons c front ih =>
    rw [List.cons_append, splitLines_cons (plain c List.mem_cons_self),
      ih fun d inside => plain d (List.mem_cons_of_mem _ inside)]

/-- Unbroken lines come back as they are. -/
theorem splitLines_join {lines : List (List Char)} (some_ : lines ≠ [])
    (plain : ∀ line ∈ lines, Unbroken line) (rest : List Char) :
    splitLines (joinLines lines ++ '\n' :: rest) = lines ++ splitLines rest := by
  fun_induction joinLines lines with
  | case1 => exact absurd rfl some_
  | case2 line => exact splitLines_line (plain line List.mem_cons_self) rest
  | case3 line later more ih =>
    rw [List.append_assoc, List.cons_append, splitLines_line (plain line List.mem_cons_self),
      ih more fun other inside => plain other (List.mem_cons_of_mem _ inside)]
    rfl

theorem splitLines_unbroken (l : List Char) : ∀ line ∈ splitLines l, Unbroken line := by
  fun_induction splitLines l with
  | case1 => simp
  | case2 rest ih =>
    rw [List.forall_mem_cons]
    exact ⟨List.forall_mem_nil _, ih⟩
  | case3 c rest other boundary ih =>
    rw [List.forall_mem_cons]
    exact ⟨List.forall_mem_nil _, ih⟩
  | case4 c rest other plain none ih =>
    simpa [Unbroken] using plain
  | case5 c rest other plain line lines found ih =>
    rw [found, List.forall_mem_cons] at ih
    rw [List.forall_mem_cons]
    refine ⟨?_, ih.2⟩
    unfold Unbroken
    rw [List.forall_mem_cons]
    exact ⟨by simpa using plain, ih.1⟩

/-- Each line feed ends a line. -/
theorem count_splitLines (l : List Char) : l.count '\n' ≤ (splitLines l).length := by
  fun_induction splitLines l with
  | case1 => simp
  | case2 rest ih => simpa using ih
  | case3 c rest other boundary ih =>
    rw [List.length_cons, List.count_cons]
    split <;> omega
  | case4 c rest other plain none ih =>
    have apart : c ≠ '\n' := by
      rintro rfl
      exact plain (by decide)
    rw [none] at ih
    rw [List.count_cons_of_ne apart]
    simp at ih ⊢
    omega
  | case5 c rest other plain line lines found ih =>
    have apart : c ≠ '\n' := by
      rintro rfl
      exact plain (by decide)
    rw [found] at ih
    rw [List.count_cons_of_ne apart]
    simpa using ih

/-! ## Numerals -/

theorem numeral_digits (n : Nat) : ∀ c ∈ numeral n, c.isDigit = true := by
  intro c member
  rw [numeral, show toString n = Nat.repr n from rfl, Nat.toList_repr] at member
  exact Nat.isDigit_of_mem_toDigits (by decide) (by decide) member

theorem decimalValue_digit {c : Char} (digit : c.isDigit = true) :
    decimalValue c = some (c.toNat - '0'.toNat) := by
  simp only [Char.isDigit, Bool.and_eq_true, decide_eq_true_eq, UInt32.le_iff_toNat_le] at digit
  have low : 48 ≤ c.toNat := digit.1
  have high : c.toNat ≤ 57 := digit.2
  unfold decimalValue
  rw [Source.Routing.decimalZeros, List.find?_cons_of_pos]
  · rfl
  · simp
    omega

theorem readInt_numeral {n : Nat} (short : (numeral n).length ≤ 4300) :
    readInt (numeral n) = .ok n := by
  unfold readInt
  rw [if_neg (Nat.not_lt.mpr short)]
  congr 1
  have digits := numeral_digits n
  have value : Nat.ofDigitChars 10 (numeral n) 0 = n := by
    rw [numeral, show toString n = Nat.repr n from rfl, Nat.toList_repr, Nat.ofDigitChars_toDigits]
    all_goals decide
  rw [Nat.ofDigitChars_eq_foldl] at value
  conv_rhs => rw [← value]
  refine List.foldl_ext _ _ _ ?_
  intro sofar c member
  rw [decimalValue_digit (digits c member)]
  rfl

theorem numeral_ne_nil (n : Nat) : numeral n ≠ [] := by
  rw [numeral, show toString n = Nat.repr n from rfl, Nat.toList_repr]
  exact Nat.toDigits_ne_nil

/-! ## Header -/

theorem behind_append (front value : List Char) : behind front (front ++ value) = some value := by
  unfold behind
  rw [if_pos (List.prefix_append _ _), List.drop_left]

/-- Beginnings none of which begins another one. -/
def Apart (front other : List Char) : Prop := ¬ front <+: other ∧ ¬ other <+: front

theorem behind_apart {front other : List Char} (apart : Apart front other) (value : List Char) :
    behind front (other ++ value) = none := by
  refine if_neg fun here => ?_
  rcases List.prefix_or_prefix_of_prefix here (List.prefix_append other value) with first | second
  · exact apart.1 first
  · exact apart.2 second

/-- The one alternative that matches is found. -/
theorem findSome_only {α β : Type} {f : α → Option β} {items : List α} {a : α} {b : β}
    (inside : a ∈ items) (found : f a = some b) (others : ∀ c ∈ items, c ≠ a → f c = none) :
    items.findSome? f = some b := by
  induction items with
  | nil => cases inside
  | cons c rest ih =>
    by_cases same : c = a
    · rw [List.findSome?_cons, same, found]
    · rw [List.findSome?_cons, others c List.mem_cons_self same]
      exact ih ((List.mem_cons.mp inside).resolve_left (Ne.symm same)) fun d member =>
        others d (List.mem_cons_of_mem _ member)

theorem fieldNames_apart : ∀ name ∈ fieldNames, ∀ other ∈ fieldNames, other ≠ name →
    Apart (other.toList ++ ": ".toList) (name.toList ++ ": ".toList) := by
  unfold Apart
  decide

theorem matchField_line {name : String} (named : name ∈ fieldNames) {value : List Char}
    (full : value ≠ []) (flat : '\n' ∉ value) :
    matchField (name.toList ++ ": ".toList ++ value) = some (name, value) := by
  refine findSome_only named ?_ ?_
  · rw [behind_append, Option.bind_some, if_pos ⟨full, flat⟩]
  · intro other member different
    rw [behind_apart (fieldNames_apart name named other member different), Option.bind_none]

theorem readHeader_line {header : List (String × List Char)} {name : String} {value : List Char}
    {rest : List (List Char)} (named : name ∈ fieldNames) (full : value ≠ []) (flat : '\n' ∉ value)
    (new : name ∉ header.map Prod.fst) :
    readHeader header ((name.toList ++ ": ".toList ++ value) :: rest) =
      readHeader (header ++ [(name, value)]) rest := by
  rw [readHeader, matchField_line named full flat]
  exact if_neg new

theorem headerStart_apart (kind : Kind) : ∀ other ∈ kinds, other ≠ kind →
    Apart (headerStart other) (headerStart kind) := by
  unfold Apart
  cases kind <;> decide

theorem matchHeader_line (kind : Kind) (n : Nat) :
    matchHeader (headerStart kind ++ numeral n) = some (kind, numeral n) := by
  have digits : (numeral n).all (fun c => (decimalValue c).isSome) = true := by
    rw [List.all_eq_true]
    intro c member
    rw [decimalValue_digit (numeral_digits n c member)]
    rfl
  have inside : kind ∈ kinds := by
    cases kind <;> decide
  refine findSome_only inside ?_ ?_
  · rw [behind_append, Option.bind_some, if_pos ⟨numeral_ne_nil n, digits⟩]
  · intro other member different
    rw [behind_apart (headerStart_apart kind other member different), Option.bind_none]

/-- The fields a header is read from. -/
def header (m : Fields) : List (String × List Char) := [
  ("run", m.run.toList), ("seq", numeral m.seq), ("from", m.sender.toList),
  ("to", m.recipient.toList), ("kind", m.kind.value.toList), ("source_ref", m.sourceRef.toList),
  ("reply_to", m.replyTo.toList)]

/-- The texts of a message that fill a line. -/
def fieldTexts (m : Fields) : List String := [m.run, m.sender, m.recipient, m.sourceRef, m.replyTo]

theorem validField_ok {label value : String} (passed : validField label value = .ok ()) :
    value.toList ≠ [] ∧ '\n' ∉ value.toList := by
  obtain ⟨solid, flat, -⟩ := ensure_ok.mp passed
  refine ⟨?_, flat⟩
  intro empty
  exact ne_empty_of_strip solid (String.toList_inj.mp empty)

theorem check_iff {m : Fields} : m.check = .ok () ↔
    (validField "run" m.run = .ok () ∧ validField "sender" m.sender = .ok () ∧
      validField "recipient" m.recipient = .ok () ∧ validField "source_ref" m.sourceRef = .ok () ∧
      validField "reply_to" m.replyTo = .ok ()) ∧
    (1 ≤ m.seq ∧ m.sender ≠ m.recipient) ∧
    validBody "goal" m.goal = .ok () ∧ validBody "next_action" m.nextAction = .ok () ∧
      validBody "evidence" m.evidence = .ok () := by
  unfold Fields.check
  simp only [bind_ok, ensure_ok, Unique.exists_iff, PUnit.default_eq_unit, and_assoc]

/-- What the constructor checks of the texts. -/
theorem check_ok {m : Fields} (checked : m.check = .ok ()) :
    (∀ text ∈ fieldTexts m, text.toList ≠ [] ∧ '\n' ∉ text.toList) ∧
      strip m.goal ≠ "" ∧ strip m.nextAction ≠ "" ∧ strip m.evidence ≠ "" := by
  obtain ⟨⟨run, sender, recipient, sourceRef, replyTo⟩, -, goal, nextAction, evidence⟩ :=
    check_iff.mp checked
  refine ⟨?_, (ensure_ok.mp goal).1, (ensure_ok.mp nextAction).1, (ensure_ok.mp evidence).1⟩
  simp only [fieldTexts, List.forall_mem_cons]
  exact ⟨validField_ok run, validField_ok sender, validField_ok recipient, validField_ok sourceRef,
    validField_ok replyTo, List.forall_mem_nil _⟩

theorem kind_line (kind : Kind) : kind.value.toList ≠ [] ∧ '\n' ∉ kind.value.toList := by
  cases kind <;> decide

theorem readHeader_message {m : Fields} (checked : m.check = .ok ()) :
    readHeader [] ((headerLines m).drop 2) = .ok (header m) := by
  obtain ⟨texts, -⟩ := check_ok checked
  simp only [fieldTexts, List.forall_mem_cons] at texts
  obtain ⟨run, sender, recipient, sourceRef, replyTo, -⟩ := texts
  have seq : numeral m.seq ≠ [] ∧ '\n' ∉ numeral m.seq :=
    ⟨numeral_ne_nil _, fun inside => absurd (numeral_digits _ _ inside) (by decide)⟩
  have kind := kind_line m.kind
  unfold headerLines
  change readHeader [] [
    "run".toList ++ ": ".toList ++ m.run.toList, "seq".toList ++ ": ".toList ++ numeral m.seq,
    "from".toList ++ ": ".toList ++ m.sender.toList, "to".toList ++ ": ".toList ++ m.recipient.toList,
    "kind".toList ++ ": ".toList ++ m.kind.value.toList,
    "source_ref".toList ++ ": ".toList ++ m.sourceRef.toList,
    "reply_to".toList ++ ": ".toList ++ m.replyTo.toList] = _
  rw [readHeader_line (by decide) run.1 run.2 (by simp),
    readHeader_line (by decide) seq.1 seq.2 (by simp),
    readHeader_line (by decide) sender.1 sender.2 (by simp),
    readHeader_line (by decide) recipient.1 recipient.2 (by simp),
    readHeader_line (by decide) kind.1 kind.2 (by simp),
    readHeader_line (by decide) sourceRef.1 sourceRef.2 (by simp),
    readHeader_line (by decide) replyTo.1 replyTo.2 (by simp)]
  rfl

/-! ## Sections -/

theorem first_line {line rest : List Char} (flat : '\n' ∉ line) (first : First ['\n', '\n'] rest) :
    First ['\n', '\n'] (line ++ rest) := by
  induction line with
  | nil => exact first
  | cons c line ih =>
    rw [List.cons_append, first_cons]
    refine ⟨?_, ih fun inside => flat (List.mem_cons_of_mem _ inside)⟩
    intro here
    obtain ⟨rfl, -⟩ := List.cons_prefix_cons.mp here
    exact flat List.mem_cons_self

/-- Joined lines that are not empty have no two line feeds in a row, also not with what
follows them. -/
theorem first_join {lines : List (List Char)} (full : ∀ line ∈ lines, line ≠ [] ∧ '\n' ∉ line) :
    First ['\n', '\n'] (joinLines lines) := by
  fun_induction joinLines lines with
  | case1 => exact fun k inside => absurd inside (Nat.not_lt_zero k)
  | case2 line =>
    have flat := (full line List.mem_cons_self).2
    have alone := @first_line line [] flat fun k inside => absurd inside (Nat.not_lt_zero k)
    rwa [List.append_nil] at alone
  | case3 line later more ih =>
    rw [List.forall_mem_cons] at full
    refine first_line full.1.2 (first_cons.mpr ⟨?_, ih full.2⟩)
    intro here
    obtain ⟨-, here⟩ := List.cons_prefix_cons.mp here
    -- the next line begins with a character of its own
    cases later with
    | nil => exact absurd rfl more
    | cons next rest =>
      obtain ⟨filled, flat⟩ := full.2 next List.mem_cons_self
      cases next with
      | nil => exact absurd rfl filled
      | cons c next =>
        have begins : ∃ tail, joinLines ((c :: next) :: rest) = c :: tail := by
          cases rest with
          | nil => exact ⟨next, rfl⟩
          | cons other rest => exact ⟨_, rfl⟩
        obtain ⟨tail, shape⟩ := begins
        rw [shape] at here
        obtain ⟨rfl, -⟩ := List.cons_prefix_cons.mp here
        exact absurd List.mem_cons_self flat

theorem dropLineFeed_append (l : List Char) : dropLineFeed (l ++ ['\n']) = l := by
  unfold dropLineFeed
  rw [List.getLast?_concat, if_pos rfl, List.dropLast_concat]

/-- What the search makes of sections behind a text without two line feeds in a row. -/
theorem matchSections_message {front : List Char} (first : First ['\n', '\n'] front) (m : Fields) :
    matchSections (front ++ sections m) =
      (splitFirst nextMark ((strip m.goal).toList ++ (nextMark ++ (strip m.nextAction).toList ++
        (evidenceMark ++ ((strip m.evidence).toList ++ ['\n']))))).bind fun (goal, fromNext) =>
          (splitFirst evidenceMark fromNext).map fun (nextAction, fromEvidence) =>
            (goal, nextAction, dropLineFeed fromEvidence) := by
  have begins : ['\n', '\n'] <+: goalMark := by decide
  have own : splitFirst goalMark (front ++ sections m) = some (front, (strip m.goal).toList ++
      (nextMark ++ (strip m.nextAction).toList ++
        (evidenceMark ++ ((strip m.evidence).toList ++ ['\n'])))) := by
    rw [splitFirst_iff]
    refine ⟨?_, first.of_prefix begins⟩
    unfold sections
    simp only [List.append_assoc]
  unfold matchSections
  simp only [Option.bind_eq_bind, own, Option.bind_some]
  congr 1
  funext found
  cases splitFirst evidenceMark found.2 <;> rfl

theorem matchSections_first {front : List Char} (first : First ['\n', '\n'] front) {m : Fields}
    (goal : First nextMark (strip m.goal).toList)
    (nextAction : First evidenceMark (strip m.nextAction).toList) :
    matchSections (front ++ sections m) = some ((strip m.goal).toList,
      (strip m.nextAction).toList, (strip m.evidence).toList) := by
  have atEvidence : splitFirst evidenceMark ((strip m.nextAction).toList ++
      (evidenceMark ++ ((strip m.evidence).toList ++ ['\n']))) =
      some ((strip m.nextAction).toList, (strip m.evidence).toList ++ ['\n']) :=
    splitFirst_iff.mpr ⟨by rw [List.append_assoc], nextAction⟩
  have atNext : splitFirst nextMark ((strip m.goal).toList ++ (nextMark ++ (strip m.nextAction).toList ++
      (evidenceMark ++ ((strip m.evidence).toList ++ ['\n'])))) =
      some ((strip m.goal).toList, (strip m.nextAction).toList ++
        (evidenceMark ++ ((strip m.evidence).toList ++ ['\n']))) :=
    splitFirst_iff.mpr ⟨by rw [List.append_assoc, List.append_assoc], goal⟩
  rw [matchSections_message first, atNext, Option.bind_some]
  dsimp only
  rw [atEvidence, Option.map_some]
  dsimp only
  rw [dropLineFeed_append]

theorem first_of_matchSections {front : List Char} (first : First ['\n', '\n'] front) {m : Fields}
    {evidence : List Char} (found : matchSections (front ++ sections m) =
      some ((strip m.goal).toList, (strip m.nextAction).toList, evidence)) :
    First nextMark (strip m.goal).toList ∧ First evidenceMark (strip m.nextAction).toList := by
  rw [matchSections_message first, Option.bind_eq_some_iff] at found
  obtain ⟨⟨goal, fromNext⟩, atNext, found⟩ := found
  obtain ⟨⟨nextAction, fromEvidence⟩, atEvidence, same⟩ := Option.map_eq_some_iff.mp found
  simp only [Prod.mk.injEq] at same
  rw [← same.1, ← same.2.1]
  exact ⟨(splitFirst_iff.mp atNext).2, (splitFirst_iff.mp atEvidence).2⟩

/-! ## The marker among the lines -/

theorem joinLines_append {front later : List (List Char)} (some_ : front ≠ []) (more : later ≠ []) :
    joinLines (front ++ later) = joinLines front ++ '\n' :: joinLines later := by
  fun_induction joinLines front with
  | case1 => exact absurd rfl some_
  | case2 line =>
    cases later with
    | nil => exact absurd rfl more
    | cons next rest => rfl
  | case3 line others full ih =>
    cases others with
    | nil => exact absurd rfl full
    | cons next rest =>
      have tail := congrArg (line ++ '\n' :: ·) (ih full)
      simpa [joinLines] using tail

/-- What is not broken over lines stands in one of them. -/
theorem infix_join {d : List Char} {lines : List (List Char)} (full : d ≠ []) (apart : '\n' ∉ d) :
    d <:+: joinLines lines ↔ ∃ line ∈ lines, d <:+: line := by
  fun_induction joinLines lines with
  | case1 => simp [full]
  | case2 line => simp
  | case3 line later more ih =>
    rw [infix_separated full apart, ih]
    simp

/-- The lines of the sections, from the empty one above them to the one behind the last
line feed. -/
def bodyLines (m : Fields) : List (List Char) := [
  [], "**GOAL**".toList, (strip m.goal).toList,
  [], "**NEXT**".toList, (strip m.nextAction).toList,
  [], "**EVIDENCE**".toList, (strip m.evidence).toList, []]

theorem sections_lines (m : Fields) : sections m = '\n' :: joinLines (bodyLines m) := by
  have goal : goalMark = '\n' :: '\n' :: ("**GOAL**".toList ++ ['\n']) := by decide
  have next : nextMark = '\n' :: '\n' :: ("**NEXT**".toList ++ ['\n']) := by decide
  have evidence : evidenceMark = '\n' :: '\n' :: ("**EVIDENCE**".toList ++ ['\n']) := by
    decide
  unfold sections
  rw [goal, next, evidence]
  simp [bodyLines, joinLines]

theorem text_lines (m : Fields) :
    joinLines (headerLines m) ++ sections m = joinLines (headerLines m ++ bodyLines m) := by
  rw [sections_lines, joinLines_append (by simp [headerLines]) (by simp [bodyLines])]

/-- The texts of a message as they are rendered. -/
def texts (m : Fields) : List String :=
  fieldTexts m ++ [strip m.goal, strip m.nextAction, strip m.evidence]

theorem marker_begins : ∃ rest, marker = '<' :: rest :=
  ⟨"!-- dw.taskcontroller.communication/v2 -->".toList, by decide⟩

theorem marker_numeral (n : Nat) : ¬ marker <:+: numeral n := by
  obtain ⟨rest, shape⟩ := marker_begins
  rw [shape]
  exact not_infix_of_head fun inside => absurd (numeral_digits n _ inside) (by decide)

theorem marker_labelled {front : List Char} (absent : '<' ∉ front) (value : List Char) :
    marker <:+: front ++ value ↔ marker <:+: value := by
  obtain ⟨rest, shape⟩ := marker_begins
  rw [shape]
  exact infix_behind absent

theorem marker_kind (kind : Kind) : '<' ∉ headerStart kind ∧ ¬ marker <:+: kind.value.toList := by
  cases kind <;> decide

/-- Below its own line the marker stands where a text of the message holds it. -/
theorem marker_header (m : Fields) :
    (∃ line ∈ (headerLines m).drop 1, marker <:+: line) ↔
      ∃ text ∈ fieldTexts m, marker <:+: text.toList := by
  have number := marker_numeral m.seq
  have kind := (marker_kind m.kind).2
  simp only [headerLines, fieldTexts, List.drop_succ_cons, List.drop_zero,
    List.exists_mem_cons_iff, List.not_mem_nil, false_and, exists_false, or_false]
  rw [marker_labelled (marker_kind m.kind).1, marker_labelled (by decide), marker_labelled (by decide),
    marker_labelled (by decide), marker_labelled (by decide), marker_labelled (by decide),
    marker_labelled (by decide), marker_labelled (by decide)]
  simp only [number, kind, false_or]

theorem marker_body (m : Fields) : (∃ line ∈ bodyLines m, marker <:+: line) ↔
    ∃ text ∈ [strip m.goal, strip m.nextAction, strip m.evidence], marker <:+: text.toList := by
  have solid : ¬ marker <:+: [] ∧ ¬ marker <:+: "**GOAL**".toList ∧
      ¬ marker <:+: "**NEXT**".toList ∧ ¬ marker <:+: "**EVIDENCE**".toList := by
    decide
  simp only [bodyLines, List.exists_mem_cons_iff, List.not_mem_nil, false_and, exists_false, or_false,
    solid.1, solid.2.1, solid.2.2.1, solid.2.2.2, false_or]

/-! ## Stripped bodies -/

/-- The message with its bodies stripped. -/
def stripped (m : Fields) : Fields :=
  { m with goal := strip m.goal, nextAction := strip m.nextAction, evidence := strip m.evidence }

theorem length_strip (s : String) : (strip s).length ≤ s.length := by
  rw [← String.length_toList, ← String.length_toList, strip, String.toList_ofList, stripChars,
    List.length_reverse]
  calc ((s.toList.dropWhile isSpace).reverse.dropWhile isSpace).length
      ≤ (s.toList.dropWhile isSpace).reverse.length := (List.dropWhile_suffix _).length_le
    _ = (s.toList.dropWhile isSpace).length := List.length_reverse
    _ ≤ s.toList.length := (List.dropWhile_suffix _).length_le

theorem validBody_strip {label value : String} (passed : validBody label value = .ok ()) :
    validBody label (strip value) = .ok () := by
  obtain ⟨solid, short⟩ := ensure_ok.mp passed
  refine ensure_of ⟨?_, (length_strip value).trans short⟩ _
  rwa [strip_strip]

theorem check_stripped {m : Fields} (checked : m.check = .ok ()) : (stripped m).check = .ok () := by
  obtain ⟨fields, counted, goal, nextAction, evidence⟩ := check_iff.mp checked
  exact check_iff.mpr ⟨fields, counted, validBody_strip goal, validBody_strip nextAction,
    validBody_strip evidence⟩

theorem construct_ok {m : Fields} {made : CommunicationV2} :
    construct m = .ok made ↔ m.check = .ok () ∧ made.toFields = m := by
  unfold construct
  split
  · next checked =>
    constructor
    · intro same
      cases same
      exact ⟨checked, rfl⟩
    · rintro ⟨-, rfl⟩
      rfl
  · next e failed =>
    refine iff_of_false (fun impossible => nomatch impossible) ?_
    rintro ⟨checked, -⟩
    rw [failed] at checked
    cases checked

/-! ## What a parsed text holds -/

theorem matchField_mem {line : List Char} {name : String} {value : List Char}
    (found : matchField line = some (name, value)) : ∀ c ∈ value, c ∈ line := by
  obtain ⟨other, -, found⟩ := List.exists_of_findSome?_eq_some found
  obtain ⟨rest, stands, found⟩ := Option.bind_eq_some_iff.mp found
  split at found
  · cases found
    unfold behind at stands
    split at stands
    · cases stands
      exact fun c inside => List.mem_of_mem_drop inside
    · cases stands
  · cases found

theorem readHeader_unbroken {lines : List (List Char)} {sofar header : List (String × List Char)}
    (read : readHeader sofar lines = .ok header) (plain : ∀ line ∈ lines, Unbroken line)
    (before : ∀ entry ∈ sofar, Unbroken entry.2) : ∀ entry ∈ header, Unbroken entry.2 := by
  induction lines generalizing sofar with
  | nil =>
    cases read
    exact before
  | cons line rest ih =>
    rw [readHeader] at read
    split at read
    · cases read
    · next name value found =>
      split at read
      · cases read
      · rw [List.forall_mem_cons] at plain
        refine ih read plain.2 ?_
        intro entry member
        rcases List.mem_append.mp member with old | new
        · exact before entry old
        · cases List.mem_singleton.mp new
          exact fun c inside => plain.1 c (matchField_mem found c inside)

theorem headerText_unbroken {header : List (String × List Char)}
    (plain : ∀ entry ∈ header, Unbroken entry.2) (name : String) :
    Unbroken (headerText header name).toList := by
  unfold headerText
  rw [String.toList_ofList]
  cases found : header.lookup name with
  | none => exact List.forall_mem_nil _
  | some value =>
    rw [List.lookup_eq_some_iff] at found
    obtain ⟨front, back, split, -⟩ := found
    refine plain (name, value) ?_
    rw [split]
    exact List.mem_append_right _ List.mem_cons_self

/-- What parsing found: fields without a line end, and the sections it cut. -/
structure Found (text : List Char) (back : CommunicationV2) : Prop where
  fields : ∀ field ∈ fieldTexts back.toFields, Unbroken field.toList
  sections : matchSections text = some
    (back.goal.toList, back.nextAction.toList, back.evidence.toList)

theorem parseMarked_found {text : List Char} {back : CommunicationV2}
    (parsed : parseMarked text = .ok back) : Found text back := by
  unfold parseMarked at parsed
  dsimp only at parsed
  obtain ⟨_, -, parsed⟩ := bind_ok.mp parsed
  obtain ⟨header, read, parsed⟩ := bind_ok.mp parsed
  obtain ⟨_, -, parsed⟩ := bind_ok.mp parsed
  split at parsed
  · cases parsed
  · next kind digits =>
    obtain ⟨_, -, parsed⟩ := bind_ok.mp parsed
    split at parsed
    · cases parsed
    · next goal nextAction evidence cut =>
      obtain ⟨seq, -, parsed⟩ := bind_ok.mp parsed
      obtain ⟨-, made⟩ := construct_ok.mp parsed
      have plain : ∀ entry ∈ header, Unbroken entry.2 := by
        refine readHeader_unbroken read ?_ (List.forall_mem_nil _)
        intro line member
        exact splitLines_unbroken text line (List.mem_of_mem_drop (List.mem_of_mem_take member))
      refine ⟨?_, ?_⟩
      · rw [made]
        simp only [fieldTexts, List.forall_mem_cons]
        have named := headerText_unbroken plain
        exact ⟨named "run", named "from", named "to", named "source_ref", named "reply_to",
          List.forall_mem_nil _⟩
      · rw [made, cut]
        simp only [String.toList_ofList]

theorem parse_some {text : String} {back : CommunicationV2} :
    parse text = .ok (some back) ↔ ∃ front rest, splitFirst marker text.toList = some (front, rest) ∧
      ¬ marker <:+: rest ∧ parseMarked text.toList = .ok back := by
  unfold parse
  split
  · next absent => simp [absent]
  · next front rest found =>
    split
    · next twice =>
      refine iff_of_false (fun impossible => nomatch impossible) ?_
      rintro ⟨_, _, same, once, -⟩
      rw [found] at same
      cases same
      exact once twice
    · next once =>
      cases parsed : parseMarked text.toList with
      | error e => simp [Except.map]
      | ok item =>
        simp only [Except.map, Except.ok.injEq, Option.some.injEq]
        constructor
        · rintro rfl
          exact ⟨front, rest, found, once, rfl⟩
        · rintro ⟨_, _, -, -, same⟩
          exact same

/-! ## The round trip -/

/-- The messages a text says unmistakably. -/
structure Plain (m : Fields) : Prop where
  short : (numeral m.seq).length ≤ 4300
  unbroken : ∀ text ∈ fieldTexts m, Unbroken text.toList
  unmarked : ∀ text ∈ texts m, ¬ marker <:+: text.toList
  goal : First nextMark (strip m.goal).toList
  nextAction : First evidenceMark (strip m.nextAction).toList

theorem unbroken_append {front back : List Char} (left : Unbroken front) (right : Unbroken back) :
    Unbroken (front ++ back) := by
  intro c inside
  rcases List.mem_append.mp inside with first | second
  · exact left c first
  · exact right c second

theorem unbroken_numeral (n : Nat) : Unbroken (numeral n) := by
  intro c inside
  have digit := numeral_digits n c inside
  simp only [Char.isDigit, Bool.and_eq_true, decide_eq_true_eq, UInt32.le_iff_toNat_le] at digit
  have low : 48 ≤ c.toNat := digit.1
  have high : c.toNat ≤ 57 := digit.2
  simp only [isLineBoundary, Bool.or_eq_false_iff, Bool.and_eq_false_iff, decide_eq_false_iff_not,
    beq_eq_false_iff_ne]
  omega

theorem unbroken_kind (kind : Kind) : Unbroken (headerStart kind) ∧ Unbroken kind.value.toList := by
  cases kind <;> decide

/-- What the lines of the header begin with. -/
def lineStarts : List (List Char) := [
  marker, "run: ".toList, "seq: ".toList, "from: ".toList, "to: ".toList, "kind: ".toList,
  "source_ref: ".toList, "reply_to: ".toList]

theorem unbroken_header {m : Fields} (plain : ∀ text ∈ fieldTexts m, Unbroken text.toList) :
    ∀ line ∈ headerLines m, Unbroken line := by
  have labels : ∀ label ∈ lineStarts, Unbroken label := by
    decide
  simp only [lineStarts, List.forall_mem_cons] at labels
  obtain ⟨mark, run, seq, sender, recipient, kind, sourceRef, replyTo, -⟩ := labels
  simp only [fieldTexts, List.forall_mem_cons] at plain
  obtain ⟨runText, senderText, recipientText, sourceText, replyText, -⟩ := plain
  have kinds := unbroken_kind m.kind
  simp only [headerLines, List.forall_mem_cons]
  exact ⟨mark, unbroken_append kinds.1 (unbroken_numeral _), unbroken_append run runText,
    unbroken_append seq (unbroken_numeral _), unbroken_append sender senderText,
    unbroken_append recipient recipientText, unbroken_append kind kinds.2,
    unbroken_append sourceRef sourceText, unbroken_append replyTo replyText,
    List.forall_mem_nil _⟩

theorem header_full {m : Fields} (checked : m.check = .ok ()) :
    ∀ line ∈ headerLines m, line ≠ [] ∧ '\n' ∉ line := by
  have labels : ∀ label ∈ lineStarts, label ≠ [] ∧ '\n' ∉ label := by
    decide
  simp only [lineStarts, List.forall_mem_cons] at labels
  obtain ⟨mark, run, seq, sender, recipient, kind, sourceRef, replyTo, -⟩ := labels
  obtain ⟨fields, -⟩ := check_ok checked
  simp only [fieldTexts, List.forall_mem_cons] at fields
  obtain ⟨runText, senderText, recipientText, sourceText, replyText, -⟩ := fields
  have number : '\n' ∉ numeral m.seq := fun inside =>
    absurd (numeral_digits _ _ inside) (by decide)
  have start : headerStart m.kind ≠ [] ∧ '\n' ∉ headerStart m.kind := by
    generalize m.kind = kind
    cases kind <;> decide
  have filled : ∀ {front back : List Char}, (front ≠ [] ∧ '\n' ∉ front) → '\n' ∉ back →
      front ++ back ≠ [] ∧ '\n' ∉ front ++ back := by
    intro front back left right
    exact ⟨List.append_ne_nil_of_left_ne_nil left.1 _,
      fun inside => (List.mem_append.mp inside).elim left.2 right⟩
  simp only [headerLines, List.forall_mem_cons]
  exact ⟨mark, filled start number, filled run runText.2, filled seq number, filled sender senderText.2,
    filled recipient recipientText.2, filled kind (kind_line m.kind).2, filled sourceRef sourceText.2,
    filled replyTo replyText.2, List.forall_mem_nil _⟩

theorem toList_rendered (m : Fields) :
    (renderedText m).toList = joinLines (headerLines m) ++ sections m := String.toList_ofList

/-- The first marker is the line above the others. -/
theorem splitFirst_rendered (m : Fields) : splitFirst marker (renderedText m).toList =
    some ([], '\n' :: joinLines ((headerLines m).drop 1 ++ bodyLines m)) := by
  have first : headerLines m ++ bodyLines m =
      [marker] ++ ((headerLines m).drop 1 ++ bodyLines m) := rfl
  rw [splitFirst_iff, toList_rendered, text_lines, first,
    joinLines_append (by simp) (by simp [bodyLines]), joinLines, List.nil_append]
  exact ⟨rfl, fun k inside => absurd inside (Nat.not_lt_zero k)⟩

theorem marked_once (m : Fields) :
    ¬ marker <:+: '\n' :: joinLines ((headerLines m).drop 1 ++ bodyLines m) ↔
      ∀ text ∈ texts m, ¬ marker <:+: text.toList := by
  have full : marker ≠ [] ∧ '\n' ∉ marker ∧ ¬ marker <:+: [] := by decide
  have below := infix_separated (a := []) (b := joinLines ((headerLines m).drop 1 ++ bodyLines m))
    full.1 full.2.1
  rw [List.nil_append] at below
  have either : ∀ {α : Type} {front back : List α} {P : α → Prop},
      (∃ a ∈ front ++ back, P a) ↔ (∃ a ∈ front, P a) ∨ ∃ a ∈ back, P a := by
    intro α front back P
    simp only [List.mem_append, or_and_right, exists_or]
  rw [below, infix_join full.1 full.2.1, either, marker_header, marker_body, ← either, ← texts]
  simp only [full.2.2, false_or, not_exists, not_and]

theorem splitLines_rendered {m : Fields} (plain : ∀ text ∈ fieldTexts m, Unbroken text.toList) :
    splitLines (renderedText m).toList =
      headerLines m ++ splitLines (joinLines (bodyLines m)) := by
  rw [toList_rendered, sections_lines, splitLines_join (by simp [headerLines]) (unbroken_header plain)]

theorem body_lines (m : Fields) : 8 ≤ (splitLines (joinLines (bodyLines m))).length := by
  refine le_trans ?_ (count_splitLines _)
  simp only [bodyLines, joinLines, List.count_append, List.count_cons, List.nil_append, BEq.rfl,
    if_true]
  omega

/-- What the fields and sections are put together to. -/
def readBack (m : Fields) : Fields where
  run := headerText (header m) "run"
  seq := m.seq
  sender := headerText (header m) "from"
  recipient := headerText (header m) "to"
  kind := m.kind
  goal := String.ofList (strip m.goal).toList
  nextAction := String.ofList (strip m.nextAction).toList
  evidence := String.ofList (strip m.evidence).toList
  sourceRef := headerText (header m) "source_ref"
  replyTo := headerText (header m) "reply_to"

theorem readBack_stripped (m : Fields) : readBack m = stripped m := by
  simp [readBack, stripped, headerText, header, List.lookup]

theorem parse_rendered {m : CommunicationV2} (plain : Plain m.toFields) :
    ∃ back, parse (renderedText m.toFields) = .ok (some back) ∧
      back.toFields = stripped m.toFields := by
  have lines := splitLines_rendered plain.unbroken
  have cut := matchSections_first (first_join (header_full m.checked)) plain.goal plain.nextAction
  rw [← toList_rendered] at cut
  refine ⟨⟨stripped m.toFields, check_stripped m.checked⟩, ?_, rfl⟩
  refine parse_some.mpr ⟨_, _, splitFirst_rendered m.toFields,
    (marked_once m.toFields).mpr plain.unmarked, ?_⟩
  unfold parseMarked
  dsimp only
  rw [lines]
  have many : 17 ≤ (headerLines m.toFields ++ splitLines (joinLines (bodyLines m.toFields))).length := by
    have body := body_lines m.toFields
    have nine : (headerLines m.toFields).length = 9 := rfl
    rw [List.length_append]
    omega
  have fields : ((headerLines m.toFields ++ splitLines (joinLines (bodyLines m.toFields))).drop 2).take 7 =
      (headerLines m.toFields).drop 2 := rfl
  have second : ((headerLines m.toFields ++ splitLines (joinLines (bodyLines m.toFields))).drop 1).headD [] =
      headerStart m.kind ++ numeral m.seq := rfl
  rw [fields, second, readHeader_message m.checked, matchHeader_line, cut]
  have named : ∀ name ∈ fieldNames, name ∈ (header m.toFields).map Prod.fst := by
    intro name member
    exact member
  have identity : headerText (header m.toFields) "kind" = m.kind.value ∧
      headerText (header m.toFields) "seq" = String.ofList (numeral m.seq) :=
    ⟨String.ofList_toList, rfl⟩
  rw [ensure_of ⟨many, rfl⟩, ok_bind, ok_bind, ensure_of named, ok_bind]
  dsimp only
  have made : construct (readBack m.toFields) = .ok ⟨stripped m.toFields, check_stripped m.checked⟩ :=
    construct_ok.mpr ⟨readBack_stripped m.toFields ▸ check_stripped m.checked,
      (readBack_stripped m.toFields).symm⟩
  rw [ensure_of identity, ok_bind, readInt_numeral plain.short, Except.mapError, ok_bind]
  exact made

theorem plain_of_parse {m back : CommunicationV2} {text : String} (rendered : m.render = .ok text)
    (parsed : parse text = .ok (some back)) (same : back.toFields = stripped m.toFields) :
    Plain m.toFields := by
  unfold CommunicationV2.render at rendered
  split at rendered
  · cases rendered
  · next short =>
    cases rendered
    obtain ⟨front, rest, found, once, parsed⟩ := parse_some.mp parsed
    rw [splitFirst_rendered] at found
    cases found
    have back := parseMarked_found parsed
    have cut := back.sections
    rw [same, toList_rendered] at cut
    have marks := first_of_matchSections (first_join (header_full m.checked)) cut
    refine ⟨Nat.not_lt.mp short, ?_, (marked_once m.toFields).mp once, marks.1, marks.2⟩
    have fields := back.fields
    rwa [same] at fields


/-- The text of a message is read back as the message, its bodies stripped. -/
def RoundTrip (m : CommunicationV2) : Prop :=
  ∃ text back, m.render = .ok text ∧ parse text = .ok (some back) ∧
    back.toFields = stripped m.toFields

theorem render_of {m : CommunicationV2} (plain : Plain m.toFields) :
    m.render = .ok (renderedText m.toFields) := if_neg (Nat.not_lt.mpr plain.short)

theorem round_trip_iff (m : CommunicationV2) : RoundTrip m ↔ Plain m.toFields := by
  constructor
  · rintro ⟨text, back, rendered, parsed, same⟩
    exact plain_of_parse rendered parsed same
  · intro plain
    obtain ⟨back, parsed, same⟩ := parse_rendered plain
    exact ⟨_, back, render_of plain, parsed, same⟩

/-! ## Histories -/

/-- Messages of `create_next`, each over the texts of the ones before it. -/
inductive Written : List CommunicationV2 → List String → Prop
  | nil : Written [] []
  | append {messages : List CommunicationV2} {texts : List String} {draft : Draft}
      {m : CommunicationV2} {text : String} (before : Written messages texts)
      (created : createNext texts draft = .ok m) (rendered : m.render = .ok text) :
      Written (messages ++ [m]) (texts ++ [text])

theorem nextSeqFrom_append (run : String) (expected : Nat) (front back : List String) :
    nextSeqFrom run expected (front ++ back) =
      nextSeqFrom run expected front >>= fun reached => nextSeqFrom run reached back := by
  induction front generalizing expected with
  | nil => rfl
  | cons body rest ih =>
    rw [List.cons_append, nextSeqFrom, nextSeqFrom]
    cases parse body with
    | error e => rfl
    | ok found =>
      rw [ok_bind, ok_bind]
      cases found with
      | none => exact ih expected
      | some item =>
        dsimp only
        split
        · exact ih expected
        · split
          · rfl
          · exact ih (expected + 1)

/-- The numbering of one message. -/
theorem nextSeqFrom_message {m : CommunicationV2} (plain : Plain m.toFields) {text : String}
    (rendered : m.render = .ok text) {run : String} {expected : Nat}
    (due : m.run = run → m.seq = expected) :
    nextSeqFrom run expected [text] = .ok (if m.run = run then expected + 1 else expected) := by
  obtain ⟨back, parsed, same⟩ := parse_rendered plain
  have own : text = renderedText m.toFields := by
    rw [render_of plain] at rendered
    exact (Except.ok.inj rendered).symm
  have runs : back.run = m.run := by
    rw [same]
    rfl
  have seqs : back.seq = m.seq := by
    rw [same]
    rfl
  rw [nextSeqFrom, own, parsed, ok_bind]
  dsimp only
  rw [runs, seqs]
  by_cases mine : m.run = run
  · rw [if_neg (not_not.mpr mine), if_neg (not_not.mpr (due mine)), if_pos mine]
    rfl
  · rw [if_pos mine, if_neg mine]
    rfl

/-- The messages of a run. -/
def ofRun (messages : List CommunicationV2) (run : String) : List CommunicationV2 :=
  messages.filter (·.run = run)

theorem nextSeq_count {messages : List CommunicationV2} {texts : List String}
    (written : Written messages texts) (plain : ∀ m ∈ messages, Plain m.toFields) (run : String) :
    nextSeq texts run = .ok ((ofRun messages run).length + 1) := by
  induction written generalizing run with
  | nil => rfl
  | @append messages texts draft m text _ created rendered ih =>
    rw [List.forall_mem_append] at plain
    have before := ih plain.1
    obtain ⟨seq, due, made⟩ := bind_ok.mp created
    obtain ⟨-, fields⟩ := construct_ok.mp made
    rw [before draft.run] at due
    have own : m.run = draft.run := by
      rw [fields]
      rfl
    have number : m.seq = (ofRun messages m.run).length + 1 := by
      rw [own, Except.ok.inj due, fields]
      rfl
    have last : nextSeqFrom run ((ofRun messages run).length + 1) [text] =
        .ok (if m.run = run then (ofRun messages run).length + 1 + 1 else (ofRun messages run).length + 1) :=
      nextSeqFrom_message (plain.2 m List.mem_cons_self) rendered fun mine => mine ▸ number
    unfold nextSeq at before ⊢
    rw [nextSeqFrom_append, before run, ok_bind, last]
    unfold ofRun
    rw [List.filter_append, List.length_append]
    by_cases mine : m.run = run
    · simp [mine]
    · simp [mine]

/-- What is rendered is read back exactly where the texts of the message are plain, and a
history of such messages numbers each run without a gap. -/
theorem read_back_iff (m : CommunicationV2) :
    (RoundTrip m ↔ Plain m.toFields) ∧
      ∀ messages texts, Written messages texts → (∀ m ∈ messages, Plain m.toFields) →
        ∀ run, nextSeq texts run = .ok ((ofRun messages run).length + 1) :=
  ⟨round_trip_iff m, fun _ _ written plain run => nextSeq_count written plain run⟩

def askFields (goal : String) : Fields where
  run := "r"
  seq := 1
  sender := "gpt"
  recipient := "hermes"
  kind := .command
  goal := goal
  nextAction := "report"

def ask : CommunicationV2 := ⟨askFields "build", by decide⟩

theorem plain_ask : Plain ask.toFields where
  short := by decide
  unbroken := by decide
  unmarked := by decide
  goal := by decide
  nextAction := by decide

theorem numbered_after_one : nextSeq [renderedText ask.toFields] "r" = .ok 2 := by
  have created : createNext [] ⟨"r", "gpt", "hermes", .command, "build", "report", "none", "none", "none"⟩ =
      .ok ask := rfl
  have written := Written.append .nil created (render_of plain_ask)
  exact (read_back_iff ask).2 [ask] _ written (List.forall_mem_singleton.mpr plain_ask) "r"

/-- A goal that quotes the mark of the next section is cut there. -/
def quoting : CommunicationV2 := ⟨askFields "quote\n\n**NEXT**\nhere", by decide⟩

theorem quoting_cut : ¬ ∀ m, RoundTrip m := by
  intro all
  have goal := ((round_trip_iff quoting).mp (all quoting)).goal
  exact absurd goal (by decide)

end DwSuperApps.Guarantees.PeerMessages
