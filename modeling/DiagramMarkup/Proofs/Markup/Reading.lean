import DiagramMarkup.Markup.Printer
import DiagramMarkup.Text.Cut

/-! # Reading documents

A reader of documents that shares nothing with the printer. It takes a document apart into tags and
characters, and refuses it where a `<` or an `&` stands for itself. What is printed for a tree is read
as the tags and the texts of the tree, whatever characters its texts and values have.
-/

namespace DiagramMarkup.Markup

/-! ## Characters -/

def entities : List (String × Char) :=
  [("amp;", '&'), ("lt;", '<'), ("gt;", '>'), ("quot;", '"'), ("apos;", '\''), ("#xa;", '\n')]

/-- The character that an entity stands for, behind its first mark. -/
def entity? (s : List Char) : Option (Char × List Char) :=
  entities.findSome? fun entity => (Text.after? entity.1.toList s).map (entity.2, ·)

/-- A character that may stand for itself, or the one of an entity. -/
def character? : List Char → Option (Char × List Char)
  | [] => none
  | '<' :: _ => none
  | '&' :: s => entity? s
  | c :: s => some (c, s)

theorem character?_escapeChar (c : Char) (s : List Char) :
    character? (escapeChar c ++ s) = some (c, s) := by
  unfold escapeChar
  split
  case h_6 ampersand left _ _ _ => simp [character?]
  all_goals simp [character?, entity?, entities, Text.after?]

theorem character?_escapeAttributeChar (c : Char) (s : List Char) :
    character? (escapeAttributeChar c ++ s) = some (c, s) := by
  unfold escapeAttributeChar
  split
  · simp [character?, entity?, entities, Text.after?]
  · exact character?_escapeChar c s

/-- An escaped character is never the mark that ends a text or a value. -/
theorem exists_escapeChar_eq_cons (c : Char) :
    ∃ d s, escapeChar c = d :: s ∧ d ≠ '"' ∧ d ≠ '<' := by
  unfold escapeChar
  split
  case h_6 left _ quote _ => exact ⟨c, [], rfl, quote, left⟩
  all_goals exact ⟨_, _, rfl, by decide, by decide⟩

theorem exists_escapeAttributeChar_eq_cons (c : Char) :
    ∃ d s, escapeAttributeChar c = d :: s ∧ d ≠ '"' := by
  unfold escapeAttributeChar
  split
  · exact ⟨_, _, rfl, by decide⟩
  · obtain ⟨d, s, same, quote, _⟩ := exists_escapeChar_eq_cons c
    exact ⟨d, s, same, quote⟩

/-! ## Attributes -/

/-- The value of an attribute up to the quote that ends it. -/
def value? (s : List Char) : Option (List Char × List Char) :=
  if s.head? = some '"' then some ([], s.tail)
  else
    match character? s with
    | none => none
    | some (c, rest) =>
      if _h : rest.length < s.length then (value? rest).map fun r => (c :: r.1, r.2) else none
termination_by s.length

def isNameChar (c : Char) : Bool :=
  c.isAlphanum || c = '-'

/-- A name, which starts with a letter. -/
def name? (s : List Char) : Option (String × List Char) :=
  let name := s.takeWhile isNameChar
  if name.head?.any Char.isAlpha then some (String.ofList name, s.dropWhile isNameChar) else none

/-- A name and its value in double quotes. -/
def namedValue? (s : List Char) : Option ((String × String) × List Char) :=
  match name? s with
  | some (name, '=' :: '"' :: rest) => (value? rest).map fun r => ((name, String.ofList r.1), r.2)
  | _ => none

/-- The attributes of a tag, each behind a blank. -/
def attributes? (s : List Char) : Option (List (String × String) × List Char) :=
  if s.head? = some ' ' then
    match namedValue? s.tail with
    | none => none
    | some (first, rest) =>
      if _h : rest.length < s.length then (attributes? rest).map fun r => (first :: r.1, r.2)
      else none
  else some ([], s)
termination_by s.length

theorem value?_escapeAttribute (s rest : List Char) :
    value? (escapeAttribute s ++ '"' :: rest) = some (s, rest) := by
  induction s with
  | nil => simp [escapeAttribute, value?]
  | cons c s ih =>
      obtain ⟨d, t, escaped, inside⟩ := exists_escapeAttributeChar_eq_cons c
      have read := character?_escapeAttributeChar c (escapeAttribute s ++ '"' :: rest)
      rw [escaped] at read
      have whole : escapeAttribute (c :: s) ++ '"' :: rest =
          d :: t ++ (escapeAttribute s ++ '"' :: rest) := by simp [escapeAttribute, escaped]
      have shorter : (escapeAttribute s ++ '"' :: rest).length <
          (d :: t ++ (escapeAttribute s ++ '"' :: rest)).length := by
        simp only [List.length_append, List.length_cons]
        omega
      rw [whole, value?, read, if_neg (by simp [inside])]
      simp only [dif_pos shorter, ih, Option.map_some]

/-- What the reader takes for a name. -/
def IsName (name : String) : Prop :=
  (name.toList.head?.any Char.isAlpha && name.toList.all isNameChar) = true

instance (name : String) : Decidable (IsName name) :=
  inferInstanceAs (Decidable (_ = true))

theorem IsName.first {name : String} (isName : IsName name) :
    name.toList.head?.any Char.isAlpha = true :=
  (Bool.and_eq_true_iff.mp isName).1

theorem IsName.chars {name : String} (isName : IsName name) :
    ∀ c ∈ name.toList, isNameChar c = true :=
  List.all_eq_true.mp (Bool.and_eq_true_iff.mp isName).2

theorem IsName.name?_append {name : String} (isName : IsName name) {c : Char}
    (ends : isNameChar c = false) (rest : List Char) :
    name? (name.toList ++ c :: rest) = some (name, c :: rest) := by
  simp [name?, List.takeWhile_append_of_pos isName.chars,
    List.dropWhile_append_of_pos isName.chars, ends, isName.first]

variable {α : Type} {write : α → String}

/-- An attribute as it is read: its name and its value without entities. -/
def Attribute.read (write : α → String) (a : Attribute α) : String × String :=
  (a.name, String.ofList (a.plainValue write))

theorem namedValue?_print (write : α → String) {a : Attribute α} (isName : IsName a.name)
    (rest : List Char) :
    namedValue? ((a.print write).tail ++ rest) = some (a.read write, rest) := by
  have name := isName.name?_append (show isNameChar '=' = false from rfl)
    ('"' :: (escapeAttribute (a.plainValue write) ++ '"' :: rest))
  simp [Attribute.print, namedValue?, name, value?_escapeAttribute, Attribute.read]

theorem attributes?_print (write : α → String) {attributes : List (Attribute α)}
    (names : ∀ a ∈ attributes, IsName a.name) {rest : List Char} (ends : rest.head? ≠ some ' ') :
    attributes? (attributes.flatMap (Attribute.print write) ++ rest) =
      some (attributes.map (Attribute.read write), rest) := by
  induction attributes with
  | nil =>
      rw [attributes?]
      simp [ends]
  | cons a attributes ih =>
      obtain ⟨first, others⟩ := List.forall_mem_cons.mp names
      have read := namedValue?_print write first
        (attributes.flatMap (Attribute.print write) ++ rest)
      have front : a.print write = ' ' :: (a.print write).tail := rfl
      have shorter : (attributes.flatMap (Attribute.print write) ++ rest).length <
          (' ' :: (a.print write).tail ++
            (attributes.flatMap (Attribute.print write) ++ rest)).length := by
        simp only [List.length_append, List.length_cons]
        omega
      rw [List.flatMap_cons, List.append_assoc, attributes?, front, if_pos (by rfl)]
      simp only [List.cons_append, List.tail_cons] at shorter ⊢
      simp only [read, dif_pos shorter, ih others, Option.map_some, List.map_cons]

/-! ## Tags -/

/-- The tags and the characters of a document. -/
inductive Item
  | start (name : String) (attributes : List (String × String))
  | empty (name : String) (attributes : List (String × String))
  | stop (name : String)
  | char (c : Char)
deriving Repr, DecidableEq

/-- A tag that starts an element or is all of it, behind its first mark. -/
def startTag? (s : List Char) : Option (Item × List Char) :=
  match name? s with
  | none => none
  | some (name, s) =>
    match attributes? s with
    | some (attributes, '>' :: rest) => some (.start name attributes, rest)
    | some (attributes, '/' :: '>' :: rest) => some (.empty name attributes, rest)
    | _ => none

def endTag? (s : List Char) : Option (Item × List Char) :=
  match name? s with
  | some (name, '>' :: rest) => some (.stop name, rest)
  | _ => none

def item? : List Char → Option (Item × List Char)
  | '<' :: '/' :: s => endTag? s
  | '<' :: s => startTag? s
  | s => (character? s).map fun r => (.char r.1, r.2)

def items? (s : List Char) : Option (List Item) :=
  if s.isEmpty then some []
  else
    match item? s with
    | none => none
    | some (item, rest) =>
      if _h : rest.length < s.length then (items? rest).map (item :: ·) else none
termination_by s.length

example : items? "<a b=\"&lt;\">&amp;</a>".toList =
    some [.start "a" [("b", "<")], .char '&', .stop "a"] := by cbv

example : items? "<a>R&D</a>".toList = none := by cbv

/-- A text is read as some items, whatever follows it. -/
def Scans (s : List Char) (items : List Item) : Prop :=
  ∀ rest, items? (s ++ rest) = (items? rest).map (items ++ ·)

theorem Scans.nil : Scans [] [] := by
  simp [Scans]

theorem Scans.append {s t : List Char} {items others : List Item} (first : Scans s items)
    (second : Scans t others) : Scans (s ++ t) (items ++ others) := by
  intro rest
  simp [first (t ++ rest), second rest, Option.map_map, Function.comp_def]

theorem scans_item {c : Char} {s : List Char} {item : Item}
    (read : ∀ rest, item? (c :: s ++ rest) = some (item, rest)) : Scans (c :: s) [item] := by
  intro rest
  have shorter : rest.length < (c :: s ++ rest).length := by
    simp only [List.length_append, List.length_cons]
    omega
  rw [items?, read, if_neg (by simp)]
  simp only [dif_pos shorter, List.singleton_append]

theorem scans_text (s : List Char) : Scans (escapeText s) (s.map .char) := by
  induction s with
  | nil => exact .nil
  | cons c s ih =>
      obtain ⟨d, t, escaped, _, inside⟩ := exists_escapeChar_eq_cons c
      have first : Scans (escapeChar c) [.char c] := by
        rw [escaped]
        apply scans_item
        intro rest
        have read := character?_escapeChar c rest
        rw [escaped, List.cons_append] at read
        simp [item?, inside, read]
      exact first.append ih

theorem item?_of_isName {name : String} (isName : IsName name) (s : List Char) :
    item? ('<' :: (name.toList ++ s)) = startTag? (name.toList ++ s) := by
  have first := isName.first
  cases chars : name.toList with
  | nil => simp [chars] at first
  | cons c others =>
      have letter : c ≠ '/' := by
        rintro rfl
        simp [chars] at first
      simp [item?, letter]

/-- The name and the attributes of a tag are read up to the mark behind them. -/
theorem name?_printStart (write : α → String) {name : String} (attributes : List (Attribute α))
    (isName : IsName name) {c : Char} (ends : isNameChar c = false) (rest : List Char) :
    name? (name.toList ++ (attributes.flatMap (Attribute.print write) ++ c :: rest)) =
      some (name, attributes.flatMap (Attribute.print write) ++ c :: rest) := by
  cases attributes with
  | nil => simpa using isName.name?_append ends rest
  | cons a attributes =>
      have blank : isNameChar ' ' = false := rfl
      have front : a.print write = ' ' :: (a.print write).tail := rfl
      rw [List.flatMap_cons, front]
      simpa using isName.name?_append blank _

section Tags

variable {name : String} {attributes : List (Attribute α)} (isName : IsName name)
  (names : ∀ a ∈ attributes, IsName a.name)

include isName

theorem scans_endTag : Scans (endTag name) [.stop name] := by
  apply scans_item
  intro rest
  have read := isName.name?_append (show isNameChar '>' = false from rfl) rest
  simp [item?, endTag?, read]

include names

theorem scans_startTag :
    Scans (startTag write name attributes) [.start name (attributes.map (Attribute.read write))] := by
  apply scans_item
  intro rest
  have begun := name?_printStart write attributes isName (show isNameChar '>' = false from rfl) rest
  have read := attributes?_print write names (show ('>' :: rest).head? ≠ some ' ' by simp)
  simp [printStart, item?_of_isName isName, startTag?, begun, read]

theorem scans_emptyTag :
    Scans (emptyTag write name attributes) [.empty name (attributes.map (Attribute.read write))] := by
  apply scans_item
  intro rest
  have begun := name?_printStart write attributes isName (show isNameChar '/' = false from rfl)
    ('>' :: rest)
  have read := attributes?_print write names (show ('/' :: '>' :: rest).head? ≠ some ' ' by simp)
  simp [printStart, item?_of_isName isName, startTag?, begun, read]

end Tags

/-! ## Documents -/

/-- Every element that is started is ended, the last one first. -/
inductive Nested : List Item → Prop
  | nil : Nested []
  | char (c : Char) {items : List Item} : Nested items → Nested (.char c :: items)
  | empty (name : String) (attributes : List (String × String)) {items : List Item} :
      Nested items → Nested (.empty name attributes :: items)
  | element (name : String) (attributes : List (String × String)) {inside items : List Item} :
      Nested inside → Nested items →
        Nested (.start name attributes :: (inside ++ .stop name :: items))

theorem Nested.append {items others : List Item} (first : Nested items) (second : Nested others) :
    Nested (items ++ others) := by
  induction first with
  | nil => exact second
  | char c _ ih => exact .char c ih
  | empty name attributes _ ih => exact .empty name attributes ih
  | element name attributes inside _ _ ih =>
      simpa using Nested.element name attributes inside ih

theorem nested_chars (s : List Char) : Nested (s.map .char) := by
  induction s with
  | nil => exact .nil
  | cons c s ih => exact .char c ih

/-- Blanks and line breaks. -/
def IsBlank (items : List Item) : Prop :=
  ∀ item ∈ items, item = .char ' ' ∨ item = .char '\n'

/-- A single element in which all others nest, with blanks around it. -/
def IsRoot (items : List Item) : Prop :=
  ∃ before name attributes inside behind,
    items = before ++ .start name attributes :: (inside ++ .stop name :: behind) ∧
      IsBlank before ∧ IsBlank behind ∧ Nested inside

def declaration : List Char :=
  "<?xml version=\"1.0\" encoding=\"UTF-8\"?>".toList

/-- A document without the declaration that it may start with. -/
def undeclared (s : List Char) : List Char :=
  (Text.after? declaration s).getD s

/-- A text is a document of some items. -/
structure IsDocument (s : List Char) (items : List Item) : Prop where
  read : items? (undeclared s) = some items
  root : IsRoot items

end DiagramMarkup.Markup
