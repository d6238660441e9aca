import Mathlib.Data.List.DropRight
import DiagramMarkup.Json.Printer
import DiagramMarkup.Json.Reader

/-! # A printed value is read back

Strings and whole numbers are read back in front of whatever may follow a value. From these, arrays
and objects are read back by induction, on one line and over several lines alike, since blanks
between the parts do not matter to the reader.
-/

namespace DiagramMarkup.Json

/-! ## Strings -/

theorem hexValue?_hexDigit {n : Nat} (bound : n < 16) : hexValue? (hexDigit n) = some n := by
  have each : ∀ n < 16, hexValue? (hexDigit n) = some n := by decide
  exact each n bound

/-- A control character is read back from its number. -/
theorem escape?_control {c : Char} (control : c.toNat < 0x20) (rest : List Char) :
    escape? ('u' :: '0' :: '0' :: hexDigit (c.toNat / 16) :: hexDigit (c.toNat % 16) :: rest) =
      some (c, rest) := by
  have zero : hexValue? '0' = some 0 := by decide
  have whole : c.toNat / 16 * 16 + c.toNat % 16 = c.toNat := by omega
  have single : ¬(0xDC00 ≤ c.toNat ∧ c.toNat ≤ 0xDFFF) ∧
      ¬(0xD800 ≤ c.toNat ∧ c.toNat ≤ 0xDBFF) := by omega
  simp [escape?, unicodeEscape?, hexUnit?, zero, whole, single,
    hexValue?_hexDigit (show c.toNat / 16 < 16 by omega),
    hexValue?_hexDigit (show c.toNat % 16 < 16 by omega)]

theorem stringBody?_escapeChar (c : Char) (s : List Char) :
    stringBody? (escapeChar c ++ s) = (stringBody? s).map fun r => (c :: r.1, r.2) := by
  unfold escapeChar
  split
  case h_8 quote backslash _ _ _ _ _ =>
    split
    · rename_i control
      simp [stringBody?, escape?_control control]
      omega
    · rename_i printable
      rw [List.singleton_append, stringBody?]
      · simp [printable]
      · exact quote
      · simpa using backslash
  all_goals simp [stringBody?, escape?]

theorem stringBody?_flatMap_escapeChar (s rest : List Char) :
    stringBody? (s.flatMap escapeChar ++ '"' :: rest) = some (s, rest) := by
  induction s with
  | nil => simp [stringBody?]
  | cons c s ih => simp [stringBody?_escapeChar, ih]

/-! ## Whole numbers -/

/-- A text that may follow a value. -/
def Ends (rest : List Char) : Prop :=
  ∀ c ∈ rest.head?, c ∈ [',', ']', '}', '\n']

@[simp] theorem ends_nil : Ends [] := by
  simp [Ends]

@[simp] theorem ends_cons {c : Char} {rest : List Char} :
    Ends (c :: rest) ↔ c ∈ [',', ']', '}', '\n'] := by
  simp [Ends]

theorem accumulate_eq {digits : List Char} {n : Nat}
    (bound : Nat.ofDigitChars 10 digits n ≤ significandLimit) :
    accumulate n digits = (Nat.ofDigitChars 10 digits n, 0) := by
  induction digits generalizing n with
  | nil => rfl
  | cons c digits ih =>
      rw [Nat.ofDigitChars_cons] at bound ⊢
      have next : n * 10 + digitValue c = 10 * n + (c.toNat - '0'.toNat) := by
        rw [digitValue]; omega
      have grows : 10 * n + (c.toNat - '0'.toNat) ≤ significandLimit := by
        rw [Nat.ofDigitChars_eq_ofDigitChars_zero] at bound
        have power : 0 < 10 ^ digits.length := Nat.pow_pos (by decide)
        have scaled := Nat.le_mul_of_pos_left (10 * n + (c.toNat - '0'.toNat)) power
        omega
      rw [accumulate, next, if_neg (by omega), ih bound]

theorem head?_digitText {n : Nat} (positive : 0 < n) : (Number.digitText n).head? ≠ some '0' := by
  induction n using Nat.strongRecOn with
  | ind n ih =>
      rw [Number.digitText, Nat.toDigits_eq_if (by decide)]
      split
      · have each : ∀ n < 10, 0 < n → Nat.digitChar n ≠ '0' := by decide
        simpa using each n ‹_› positive
      · rw [List.head?_append_of_ne_nil _ Nat.toDigits_ne_nil]
        exact ih (n / 10) (by omega) (by omega)

/-- The digits of a number have no leading zero, unless the number is zero. -/
theorem one_digit_of_head?_eq_zero {n : Nat} (zero : (Number.digitText n).head? = some '0') :
    (Number.digitText n).length = 1 := by
  rcases Nat.eq_zero_or_pos n with rfl | positive
  · rfl
  · exact absurd zero (head?_digitText positive)

theorem takeDigits_digitText (n : Nat) {rest : List Char} (ends : Ends rest) :
    takeDigits (Number.digitText n ++ rest) = (Number.digitText n, rest) := by
  have digits : ∀ c ∈ Number.digitText n, c.isDigit = true := fun c member =>
    Nat.isDigit_of_mem_toDigits (by decide) (by decide) member
  have behind : rest.takeWhile Char.isDigit = [] ∧ rest.dropWhile Char.isDigit = rest := by
    cases rest with
    | nil => exact ⟨rfl, rfl⟩
    | cons c rest =>
        have mark : c.isDigit = false := by
          have marks := ends_cons.mp ends
          simp only [List.mem_cons, List.not_mem_nil, or_false] at marks
          rcases marks with rfl | rfl | rfl | rfl <;> rfl
        simp [mark]
  rw [takeDigits, List.takeWhile_append_of_pos digits, List.dropWhile_append_of_pos digits,
    behind.1, behind.2, List.append_nil]

theorem number?_digitText (negative : Bool) {n : Nat} (bound : n ≤ significandLimit)
    {rest : List Char} (ends : Ends rest) :
    number? negative (Number.digitText n ++ rest) = some (wholeNumber negative n, rest) := by
  have value : accumulate 0 (Number.digitText n) = (n, 0) := by
    have whole : Nat.ofDigitChars 10 (Number.digitText n) 0 = n :=
      Nat.ofDigitChars_toDigits (by decide) (by decide)
    rw [accumulate_eq (by rwa [whole]), whole]
  have valid : ¬((Number.digitText n).isEmpty ∨
      ((Number.digitText n).length > 1 ∧ (Number.digitText n).head? = some '0')) := by
    rintro (empty | ⟨long, zero⟩)
    · exact Nat.toDigits_ne_nil (List.isEmpty_iff.mp empty)
    · rw [one_digit_of_head?_eq_zero zero] at long
      omega
  simp only [number?, takeDigits_digitText n ends, value, if_neg valid]
  split
  case h_4 => rfl
  all_goals simp at ends

/-! ## Blanks and parts -/

theorem skipBlanks_append (s t : List Char) :
    skipBlanks (s ++ t) = if (skipBlanks s).isEmpty then skipBlanks t else skipBlanks s ++ t :=
  List.dropWhile_append

@[simp] theorem skipBlanks_skipBlanks (s : List Char) : skipBlanks (skipBlanks s) = skipBlanks s :=
  List.dropWhile_idempotent _ s

/-- A text is read as a value in front of whatever may follow the value. -/
def Reads {α : Type} (read : List Char → Option (α × List Char)) (s : List Char) (a : α) : Prop :=
  ∀ rest, Ends rest → read (s ++ rest) = some (a, rest)

/-- What the reader of a part makes of the beginning of its text: blanks do not matter to it, and
there is no part at the end or at the closing mark. -/
structure IsPart {α : Type} (part : List Char → Option (α × List Char)) (closing : Char) :
    Prop where
  mark : closing = ']' ∨ closing = '}'
  blanks : ∀ s, part (skipBlanks s) = part s
  empty : part [] = none
  closed : ∀ s, part (closing :: s) = none

/-- What stands in front of a closing mark: nothing, or a new line. -/
def IsGap (gap : List Char) : Prop :=
  gap = [] ∨ ∃ level, gap = newLine level

theorem skipBlanks_newLine (level : Nat) : skipBlanks (newLine level) = [] := by
  simp [skipBlanks, newLine]

theorem IsGap.blank {gap : List Char} (isGap : IsGap gap) : skipBlanks gap = [] := by
  rcases isGap with rfl | ⟨level, rfl⟩
  · rfl
  · exact skipBlanks_newLine level

theorem IsGap.ends {gap rest : List Char} (isGap : IsGap gap) (ends : Ends rest) :
    Ends (gap ++ rest) := by
  rcases isGap with rfl | ⟨level, rfl⟩
  · exact ends
  · simp [newLine]

section Parts

variable {α : Type} {part : List Char → Option (α × List Char)} {closing : Char} {a : α}
  {s t rest gap : List Char} {print : α → List Char} {parts : List α}

theorem Reads.prepend (isPart : IsPart part closing) (reads : Reads part s a)
    (blank : skipBlanks gap = []) : Reads part (gap ++ s) a := by
  intro rest ends
  rw [← isPart.blanks, List.append_assoc, skipBlanks_append, if_pos (by rw [blank]; rfl),
    isPart.blanks, reads rest ends]

theorem Reads.skipBlanks_ne_nil (isPart : IsPart part closing) (reads : Reads part s a) :
    skipBlanks s ≠ [] := by
  intro blank
  have read := reads [] ends_nil
  rw [List.append_nil, ← isPart.blanks, blank, isPart.empty] at read
  cases read

theorem Reads.skipBlanks_append (isPart : IsPart part closing) (reads : Reads part s a)
    (t : List Char) : skipBlanks (s ++ t) = skipBlanks s ++ t := by
  rw [Json.skipBlanks_append, if_neg]
  simpa using reads.skipBlanks_ne_nil isPart

theorem Reads.skipBlanks (isPart : IsPart part closing) (reads : Reads part s a) :
    Reads part (skipBlanks s) a := by
  intro rest ends
  rw [← reads.skipBlanks_append isPart, isPart.blanks, reads rest ends]

theorem skipBlanks_gap (mark : closing = ']' ∨ closing = '}') (isGap : IsGap gap) :
    Json.skipBlanks (gap ++ closing :: rest) = closing :: rest := by
  rw [Json.skipBlanks_append, if_pos (by rw [isGap.blank]; rfl)]
  rcases mark with rfl | rfl <;> rfl

theorem parts?_cons {others : List α} (reads : Reads part s a)
    (behind : parts? part closing t = some (others, rest)) :
    parts? part closing (s ++ ',' :: t) = some (a :: others, rest) := by
  have read := reads (',' :: t) (by simp)
  have shorter : t.length < s.length + (t.length + 1) := by omega
  simp [parts?, read, skipBlanks, shorter, behind]

theorem parts?_last (reads : Reads part s a) (mark : closing = ']' ∨ closing = '}')
    (isGap : IsGap gap) :
    parts? part closing (s ++ (gap ++ closing :: rest)) = some ([a], rest) := by
  have ends : Ends (closing :: rest) := by rcases mark with rfl | rfl <;> simp
  have read := reads (gap ++ closing :: rest) (isGap.ends ends)
  rw [parts?, read]
  rcases mark with rfl | rfl <;> simp [skipBlanks_gap _ isGap]

/-- Parts are read that stand with commas between them in front of the closing mark. -/
theorem parts?_intercalate (mark : closing = ']' ∨ closing = '}') (isGap : IsGap gap)
    (rest : List Char) (reads : Reads part s a) (others : ∀ b ∈ parts, Reads part (print b) b) :
    parts? part closing ([','].intercalate (s :: parts.map print) ++ (gap ++ closing :: rest)) =
      some (a :: parts, rest) := by
  induction parts generalizing s a with
  | nil => simpa using parts?_last reads mark isGap
  | cons b parts ih =>
      obtain ⟨first, behind⟩ := List.forall_mem_cons.mp others
      simpa using parts?_cons reads (ih first behind)

theorem sequence?_eq_parts? (isPart : IsPart part closing) {result : List α × List Char}
    (read : parts? part closing (skipBlanks s) = some result) :
    sequence? part closing s = some result := by
  unfold sequence?
  cases front : skipBlanks s with
  | nil => simp [front, parts?, isPart.empty] at read
  | cons c t =>
      rw [front] at read
      have other : c ≠ closing := by
        rintro rfl
        simp [parts?, isPart.closed] at read
      simp [other, read]

theorem sequence?_intercalate (isPart : IsPart part closing) (isGap : IsGap gap)
    (rest : List Char) (reads : ∀ b ∈ parts, Reads part (print b) b) :
    sequence? part closing ([','].intercalate (parts.map print) ++ (gap ++ closing :: rest)) =
      some (parts, rest) := by
  cases parts with
  | nil => simp [sequence?, skipBlanks_gap isPart.mark isGap]
  | cons a parts =>
      obtain ⟨first, others⟩ := List.forall_mem_cons.mp reads
      have read := parts?_intercalate isPart.mark isGap rest (first.skipBlanks isPart) others
      apply sequence?_eq_parts? isPart
      cases parts with
      | nil => simpa [first.skipBlanks_append isPart] using read
      | cons b parts => simpa [first.skipBlanks_append isPart] using read

end Parts

/-! ## Values -/

theorem isPart_value? (depth : Nat) : IsPart (value? depth) ']' where
  mark := .inl rfl
  blanks s := by cases depth <;> simp [value?]
  empty := by cases depth <;> rfl
  closed s := by cases depth <;> rfl

theorem isPart_fieldOf? (value : List Char → Option (Json × List Char)) :
    IsPart (fieldOf? value) '}' where
  mark := .inr rfl
  blanks s := by simp [fieldOf?]
  empty := rfl
  closed s := rfl

variable {depth : Nat} {gap : List Char}

theorem reads_string (s : String) : Reads (value? depth) (quote s) (string s) := by
  intro rest _
  cases depth <;>
    simp [quote, value?, skipBlanks, stringBody?_flatMap_escapeChar]

theorem value?_digit {c : Char} (digit : c.isDigit = true) (s : List Char) :
    value? depth (c :: s) = number? false (c :: s) := by
  have other : ∀ d ∈ [' ', '\n', '\t', '\r', 'n', 't', 'f', '"', '-', '[', '{'], c ≠ d := by
    rintro d member rfl
    simp only [List.mem_cons, List.not_mem_nil, or_false] at member
    rcases member with rfl | rfl | rfl | rfl | rfl | rfl | rfl | rfl | rfl | rfl | rfl <;>
      cases digit
  simp at other
  cases depth <;> simp [value?, skipBlanks, other]

theorem reads_integer {n : Int} (low : -0x8000000000000000 ≤ n) (high : n ≤ significandLimit) :
    Reads (value? depth) (printScalar (integer n)) (integer n) := by
  intro rest ends
  simp only [printScalar]
  split
  · rename_i negative
    have small : n.natAbs ≤ significandLimit := by rw [significandLimit]; omega
    have value : wholeNumber true n.natAbs = integer n := by
      have size : 0 < n.natAbs ∧ n.natAbs ≤ 0x8000000000000000 := by omega
      have same : -(n.natAbs : Int) = n := by omega
      simp only [wholeNumber, Bool.not_true, Bool.false_eq_true, if_false, if_pos size, same]
    have read := number?_digitText true small ends
    cases depth <;> simp [value?, skipBlanks, read, value]
  · rename_i natural
    have small : n.toNat ≤ significandLimit := by omega
    have value : wholeNumber false n.toNat = integer n := by
      simp only [wholeNumber, Bool.not_false, if_true, Int.toNat_of_nonneg (Int.not_lt.mp natural)]
    have read := number?_digitText false small ends
    cases digits : Number.digitText n.toNat with
    | nil => exact absurd digits Nat.toDigits_ne_nil
    | cons c others =>
        have digit : c.isDigit = true :=
          Nat.isDigit_of_mem_toDigits (by decide) (by decide) (digits ▸ List.mem_cons_self)
        rw [digits] at read
        rw [List.cons_append, value?_digit digit, ← List.cons_append, read, value]

theorem reads_array {items : List Json} {print : Json → List Char} (isGap : IsGap gap)
    (reads : ∀ item ∈ items, Reads (value? depth) (print item) item) :
    Reads (value? (depth + 1)) ('[' :: ([','].intercalate (items.map print) ++ gap ++ [']']))
      (array items) := by
  intro rest _
  have read := sequence?_intercalate (isPart_value? depth) isGap rest reads
  simp [value?, skipBlanks, read]

theorem reads_object {fields : List (String × Json)} {print : String × Json → List Char}
    (isGap : IsGap gap)
    (reads : ∀ field ∈ fields, Reads (fieldOf? (value? depth)) (print field) field) :
    Reads (value? (depth + 1)) ('{' :: ([','].intercalate (fields.map print) ++ gap ++ ['}']))
      (object fields) := by
  intro rest _
  have read := sequence?_intercalate (isPart_fieldOf? (value? depth)) isGap rest reads
  simp [value?, skipBlanks, read]

theorem reads_field {text : List Char} {j : Json} (reads : Reads (value? depth) text j)
    (key : String) : Reads (fieldOf? (value? depth)) (quote key ++ ':' :: text) (key, j) := by
  intro rest ends
  simp [fieldOf?, quote, skipBlanks, stringBody?_flatMap_escapeChar, reads rest ends]

/-! ## Printed values -/

/-- A value with no others in it that a text holds exactly. -/
def IsScalar : Json → Prop
  | null | bool _ | string _ => True
  | integer n => -0x8000000000000000 ≤ n ∧ n ≤ significandLimit
  | _ => False

/-- The values that a text holds exactly and that nest up to a depth. -/
inductive Plain : (depth : Nat) → Json → Prop
  | scalar {depth : Nat} {j : Json} : IsScalar j → Plain depth j
  | array {depth : Nat} {items : List Json} :
      (∀ item ∈ items, Plain depth item) → Plain (depth + 1) (array items)
  | object {depth : Nat} {fields : List (String × Json)} :
      (∀ field ∈ fields, Plain depth field.2) → Plain (depth + 1) (object fields)

theorem reads_printScalar {j : Json} (scalar : IsScalar j) :
    Reads (value? depth) (printScalar j) j := by
  intro rest ends
  cases j with
  | null => cases depth <;> simp [printScalar, value?, skipBlanks, word?]
  | bool b => cases b <;> cases depth <;> simp [printScalar, value?, skipBlanks, word?]
  | integer n => exact reads_integer scalar.1 scalar.2 rest ends
  | string s => exact reads_string s rest ends
  | real _ | array _ | object _ => cases scalar

theorem printCompact_scalar {j : Json} (scalar : IsScalar j) : printCompact j = printScalar j := by
  cases j <;> first | rfl | cases scalar

theorem printPretty_scalar {j : Json} (scalar : IsScalar j) (level : Nat) :
    printPretty level j = printScalar j := by
  cases j <;> first | rfl | cases scalar

def compactField (field : String × Json) : List Char :=
  quote field.1 ++ ':' :: printCompact field.2

theorem printItems_eq (items : List Json) :
    printItems items = [','].intercalate (items.map printCompact) := by
  induction items with
  | nil => rfl
  | cons item items ih =>
      cases items with
      | nil => simp [printItems]
      | cons next items => simp [printItems, ih]

theorem printFields_eq (fields : List (String × Json)) :
    printFields fields = [','].intercalate (fields.map compactField) := by
  induction fields with
  | nil => rfl
  | cons field fields ih =>
      cases fields with
      | nil => simp [printFields, compactField]
      | cons next fields => simp [printFields, compactField, ih]

theorem reads_printCompact {j : Json} (plain : Plain depth j) :
    Reads (value? depth) (printCompact j) j := by
  induction plain with
  | scalar scalar =>
      rw [printCompact_scalar scalar]
      exact reads_printScalar scalar
  | array _ ih =>
      simpa [printCompact, printItems_eq] using reads_array (.inl rfl) ih
  | @object depth fields _ ih =>
      have each : ∀ field ∈ fields, Reads (fieldOf? (value? depth)) (compactField field) field :=
        fun field member => reads_field (ih field member) field.1
      simpa [printCompact, printFields_eq] using reads_object (.inl rfl) each

/-- The text of an item over several lines, which starts on a new line. -/
def prettyItem (level : Nat) (item : Json) : List Char :=
  newLine level ++ printPretty level item

def prettyField (level : Nat) (field : String × Json) : List Char :=
  newLine level ++ (quote field.1 ++ ':' :: ' ' :: printPretty level field.2)

theorem printPrettyItems_eq (level : Nat) (items : List Json) :
    printPrettyItems level items = [','].intercalate (items.map (prettyItem level)) := by
  induction items with
  | nil => rfl
  | cons item items ih =>
      cases items with
      | nil => simp [printPrettyItems, prettyItem]
      | cons next items => simp [printPrettyItems, prettyItem, ih]

theorem printPrettyFields_eq (level : Nat) (fields : List (String × Json)) :
    printPrettyFields level fields = [','].intercalate (fields.map (prettyField level)) := by
  induction fields with
  | nil => rfl
  | cons field fields ih =>
      cases fields with
      | nil => simp [printPrettyFields, prettyField]
      | cons next fields => simp [printPrettyFields, prettyField, ih]

theorem reads_printPretty {j : Json} (plain : Plain depth j) (level : Nat) :
    Reads (value? depth) (printPretty level j) j := by
  induction plain generalizing level with
  | scalar scalar =>
      rw [printPretty_scalar scalar]
      exact reads_printScalar scalar
  | @array depth items _ ih =>
      have each : ∀ item ∈ items, Reads (value? depth) (prettyItem (level + 1) item) item :=
        fun item member =>
          (ih item member (level + 1)).prepend (isPart_value? depth) (skipBlanks_newLine _)
      cases items with
      | nil => simpa [printPretty] using reads_array (.inl rfl) each
      | cons item items =>
          simpa [printPretty, printPrettyItems_eq] using reads_array (.inr ⟨level, rfl⟩) each
  | @object depth fields _ ih =>
      have each : ∀ field ∈ fields,
          Reads (fieldOf? (value? depth)) (prettyField (level + 1) field) field := by
        intro field member
        have value := (ih field member (level + 1)).prepend (isPart_value? depth)
          (show skipBlanks [' '] = [] from rfl)
        exact (reads_field value field.1).prepend (isPart_fieldOf? _) (skipBlanks_newLine _)
      cases fields with
      | nil => simpa [printPretty] using reads_object (.inl rfl) each
      | cons field fields =>
          simpa [printPretty, printPrettyFields_eq] using reads_object (.inr ⟨level, rfl⟩) each

theorem read?_of_reads {s : List Char} {j : Json} (reads : Reads (value? 127) s j) {gap : List Char}
    (isGap : IsGap gap) : read? (s ++ gap) = some j := by
  simp [read?, reads gap (by simpa using isGap.ends ends_nil), isGap.blank]

theorem ofText?_compact {j : Json} (plain : Plain 127 j) : ofText? (compact j) = some j := by
  simpa [ofText?, compact] using read?_of_reads (reads_printCompact plain) (.inl rfl)

theorem ofText?_pretty {j : Json} (plain : Plain 127 j) : ofText? (pretty j) = some j := by
  simpa [ofText?, pretty] using read?_of_reads (reads_printPretty plain 0) (.inl rfl)

end DiagramMarkup.Json
