import DiagramMarkup.Proofs.Bodies.Lines
import DiagramMarkup.Proofs.Phrase.Declarations
import DiagramMarkup.Proofs.Skipping.Readers

/-! # Bodies that are read

Of the lines of a body, those that are content give one column or attribute each, in their order and
with the name and the type as they stand. The others give none, and no diagnostic is about them.
-/

namespace DiagramMarkup

open Text Pattern Phrase

/-! ## One line -/

namespace BodyLine

variable (line : BodyLine)

/-- The column that a line gives. -/
def column : Column :=
  { name := line.name.text, typeName := line.typeName.text }

/-- The attribute that a line gives. -/
def member : Member :=
  { visibility := .everyone, name := line.name.text, typeName := line.typeName.text
    isMethod := false }

variable {line}

theorem cutAt_chars :
    cutAt (· = ':') line.chars = some (line.name.chars ++ [' '], ' ' :: line.typeName.chars) := by
  have split : line.chars = (line.name.chars ++ [' ']) ++ ':' :: ' ' :: line.typeName.chars := by
    simp only [chars, List.append_assoc, List.singleton_append]
  rw [split]
  refine cutAt_append ?_ (decide_eq_true rfl) _
  intro c member
  apply decide_eq_false
  rintro rfl
  rcases List.mem_append.mp member with name | blank
  · exact SmallWord.not_mem_chars (by decide) name
  · exact absurd blank (by decide)

theorem trim_name : trim (line.name.chars ++ [' ']) = line.name.chars := by
  rw [trim_concat_of_isBlank (by decide), SmallWord.trim_chars]

theorem trim_typeName : trim (' ' :: line.typeName.chars) = line.typeName.chars := by
  rw [trim_cons_of_isBlank (by decide), SmallWord.trim_chars]

theorem takeStereotype_chars : takeStereotype line.chars = (line.chars, none) := by
  rw [takeStereotype_of_not_bracketed, trim_chars]
  intro inside
  exact not_mem_chars (by decide) (by decide) (by decide) (inside.subset List.mem_cons_self)

theorem takeWord_chars (line : BodyLine) (word : String) {c : Char} {others : List Char}
    (chars : word.toList = c :: others) (other : c.isLower = false) :
    EntityDiagram.takeWord word line.chars = (false, line.chars) := by
  have none : after? word.toList line.chars = none := by
    have start := hasStart_eq_false line other others
    rw [chars]
    rwa [hasStart, Option.isSome_eq_false_iff, Option.isNone_iff_eq_none] at start
  rw [EntityDiagram.takeWord, none]

theorem ofList_chars (word : SmallWord) : String.ofList word.chars = word.text :=
  String.ofList_toList

theorem isEmpty_name : line.name.chars.isEmpty = false :=
  List.isEmpty_eq_false_iff.mpr line.name.chars_ne_nil

theorem dropStart_chars (line : BodyLine) {drops : Char → Bool} (keeps : ∀ c, c.isLower = true → drops c = false) :
    dropStart drops line.chars = line.chars := by
  cases here : line.chars with
  | nil => rfl
  | cons c rest =>
      have small : c.isLower = true := isLower_of_head? (here ▸ rfl : line.chars.head? = some c)
      exact List.dropWhile_cons_of_neg (Bool.eq_false_iff.mp (keeps c small))

theorem column?_chars : EntityDiagram.column? false line.chars = some line.column := by
  have primary := takeWord_chars line "PK " rfl (by decide)
  have foreign := takeWord_chars line "FK " rfl (by decide)
  have mandatory : hasStart ['*'] line.chars = false := hasStart_eq_false line (by decide) []
  have start : dropStart (· = '*') line.chars = line.chars := by
    apply dropStart_chars line
    rintro c small
    apply decide_eq_false
    rintro rfl
    exact absurd small (by decide)
  unfold EntityDiagram.column?
  simp only [takeStereotype_chars, primary, foreign, mandatory, start, trim_chars, cutAt_chars,
    trim_name, trim_typeName, isEmpty_name, ofList_chars]
  rfl

theorem dropEnd_chars (line : BodyLine) {drops : Char → Bool}
    (keeps : ∀ c, c.isLower = true → drops c = false) : dropEnd drops line.chars = line.chars := by
  have reversed : line.chars.reverse.dropWhile drops = line.chars.reverse := by
    cases here : line.chars.reverse with
    | nil => rfl
    | cons c rest =>
        have last : line.chars.getLast? = some c := by
          rw [List.getLast?_eq_head?_reverse, here]
          rfl
        exact List.dropWhile_cons_of_neg (Bool.eq_false_iff.mp (keeps c (isLower_of_getLast? last)))
  rw [dropEnd, reversed, List.reverse_reverse]

theorem takeModifier_chars (line : BodyLine) {modifier : String}
    (brace : '{' ∈ modifier.toList) : takeModifier modifier line.chars = (false, line.chars) := by
  have none : cut modifier.toList line.chars = none := by
    rw [cut_eq_none_iff]
    intro inside
    exact not_mem_chars (by decide) (by decide) (by decide) (inside.subset brace)
  rw [takeModifier, contains, none]
  rfl

theorem ofSymbol?_of_isLower {c : Char} (small : c.isLower = true) :
    Visibility.ofSymbol? c = none := by
  rw [Visibility.ofSymbol?, List.find?_eq_none]
  intro visibility _ same
  rw [← of_decide_eq_true same] at small
  cases visibility <;> exact absurd small (by decide)

theorem member?_chars : member? line.chars = some line.member := by
  have stop : dropEnd (· = ',') line.chars = line.chars := by
    apply dropEnd_chars line
    rintro c small
    apply decide_eq_false
    rintro rfl
    exact absurd small (by decide)
  have method : line.chars.contains '(' = false := by
    rw [List.contains_eq_mem]
    exact decide_eq_false (not_mem_chars (by decide) (by decide) (by decide))
  obtain ⟨c, rest, here⟩ := List.exists_cons_of_ne_nil (chars_ne_nil : line.chars ≠ [])
  have symbol : Visibility.ofSymbol? c = none :=
    ofSymbol?_of_isLower (isLower_of_head? (here ▸ rfl : line.chars.head? = some c))
  have parts : attributeParts line.chars = (line.name.chars, line.typeName.chars) := by
    rw [attributeParts, cutAt_chars]
    dsimp only
    rw [trim_name, trim_typeName]
  unfold member?
  simp only [trim_chars, stop, takeModifier_chars line (by decide : '{' ∈ "\x7bstatic\x7d".toList),
    takeModifier_chars line (by decide : '{' ∈ "\x7bclassifier\x7d".toList),
    takeModifier_chars line (by decide : '{' ∈ "\x7babstract\x7d".toList),
    takeModifier_chars line (by decide : '{' ∈ "\x7bmethod\x7d".toList),
    takeModifier_chars line (by decide : '{' ∈ "\x7bfield\x7d".toList), Bool.false_eq_true, if_false]
  -- the text is taken apart for its first character, which is no mark, and stays as it is
  rw [here] at method parts ⊢
  simp only [symbol, List.isEmpty_cons, method, parts, ofList_chars, Bool.false_or, Bool.not_false,
    Bool.and_false, Bool.false_eq_true, if_false]
  rfl

end BodyLine

/-! ## Diagrams of one body -/

/-- Lines of a declaration, its body and its end: the body is what stands before the first end. -/
theorem exists_body {head : List Char} {lines : List Line} {content : List BodyLine}
    (same : lines.map Line.chars = head :: content.map BodyLine.chars ++ [['}']]) :
    ∃ first body rest, lines = first :: rest ∧ first.chars = head ∧
      body.map Line.chars = content.map BodyLine.chars ∧
        (upTo (fun line => hasStart ['}'] line.chars) rest).1 = body ∧
          (upTo (fun line => hasStart ['}'] line.chars) rest).2.1 = [] := by
  obtain ⟨front, back, rfl, declared, ended⟩ := List.map_eq_append_iff.mp same
  obtain ⟨first, body, rfl, first_same, body_same⟩ := List.map_eq_cons_iff.mp declared
  obtain ⟨last, none, rfl, stop, empty⟩ := List.map_eq_cons_iff.mp ended
  obtain rfl := List.map_eq_nil_iff.mp empty
  refine ⟨first, body, body ++ [last], rfl, first_same, body_same, ?_⟩
  refine upTo_append_cons ?_ (by rw [stop]; rfl) []
  intro line member
  have chars : line.chars ∈ content.map BodyLine.chars := body_same ▸ List.mem_map_of_mem member
  obtain ⟨written, _, same⟩ := List.mem_map.mp chars
  rw [← same]
  exact BodyLine.hasStart_eq_false written (by decide) []

namespace EntityDiagram

theorem isKeySeparator_chars (line : BodyLine) : isKeySeparator line.chars = false := by
  have colon : ':' ∈ line.chars :=
    List.mem_append_right _ (List.mem_cons_of_mem _ List.mem_cons_self)
  have differs (stroke : Char) (other : stroke ≠ ':') : line.chars.all (· = stroke) = false := by
    rw [List.all_eq_false]
    exact ⟨':', colon, by simpa using other.symm⟩
  rw [isKeySeparator, BodyLine.trim_chars]
  simp only [List.any_cons, List.any_nil, differs '-' (by decide), differs '=' (by decide),
    differs '.' (by decide), differs '_' (by decide), Bool.or_self, Bool.and_false]

theorem cutKey_chars (lines : List BodyLine) : cutKey (lines.map BodyLine.chars) = none := by
  induction lines with
  | nil => rfl
  | cons line lines ih =>
      rw [List.map_cons, cutKey, if_neg (Bool.eq_false_iff.mp (isKeySeparator_chars line)), ih]
      rfl

theorem columns_chars (lines : List BodyLine) :
    columns (lines.map BodyLine.chars) = lines.map BodyLine.column := by
  rw [columns, cutKey_chars]
  dsimp only
  induction lines with
  | nil => rfl
  | cons line lines ih =>
      have some : (!(trim line.chars).isEmpty) = true := by
        rw [BodyLine.trim_chars, List.isEmpty_eq_false_iff.mpr BodyLine.chars_ne_nil]
        rfl
      rw [List.map_cons, List.filter_cons_of_pos (p := fun line => !(trim line).isEmpty) some,
        List.filterMap_cons_some BodyLine.column?_chars, ih, List.map_cons]

/-- An entity with some columns, and nothing else. -/
def single (name : String) (columns : List Column) : EntityDiagram :=
  { entities := .ofList [(name, { name, label := name, columns })] }

theorem declare_below (rest : List Line) :
    ({} : EntityDiagram).declare "E \x7b".toList rest =
      .took
        (single "E"
          (columns ((upTo (fun line => hasStart ['}'] line.chars) rest).1.map Line.chars)))
        (upTo (fun line => hasStart ['}'] line.chars) rest).2 := by
  have cut : cutBody (trim "E \x7b".toList) rest =
      (['E'], (upTo (fun line => hasStart ['}'] line.chars) rest).1.map Line.chars,
        (upTo (fun line => hasStart ['}'] line.chars) rest).2) := rfl
  have stereotype : takeStereotype ['E'] = (['E'], none) := rfl
  have names : nameAndLabel (stripColor ['E']) = (['E'], ['E']) := by decide +kernel
  unfold EntityDiagram.declare
  rw [cut]
  dsimp only
  rw [stereotype]
  dsimp only
  rw [names]
  dsimp only
  rw [if_neg (by decide)]
  rfl

theorem readAll_body {lines : List Line} {content : List BodyLine}
    (same : lines.map Line.chars =
      "entity E \x7b".toList :: content.map BodyLine.chars ++ [['}']]) :
    readAll turn {} lines = (single "E" (content.map BodyLine.column), []) := by
  obtain ⟨first, body, rest, rfl, head, body_same, value, left⟩ := exists_body same
  have took : turn {} first rest =
      .took (single "E" (content.map BodyLine.column))
        (upTo (fun line => hasStart ['}'] line.chars) rest).2 := by
    have word : after? "entity ".toList "entity E \x7b".toList = some "E \x7b".toList := rfl
    rw [turn, head, word]
    dsimp only
    rw [declare_below, value, body_same, columns_chars]
  rw [readAll_of_took took, left, readAll]

end EntityDiagram

namespace ClassDiagram

theorem isSeparator_chars (line : BodyLine) : isSeparator line.chars = false := by
  have differs (stroke : Char) (other : stroke.isLower = false) :
      hasStart [stroke, stroke] line.chars = false :=
    BodyLine.hasStart_eq_false line other [stroke]
  simp only [isSeparator, List.any_cons, List.any_nil, Bool.or_false, Bool.or_eq_false_iff]
  exact ⟨differs '-' (by decide), differs '.' (by decide), differs '=' (by decide),
    differs '_' (by decide)⟩

theorem bodyMembers_chars {body : List Line} {content : List BodyLine}
    (same : body.map Line.chars = content.map BodyLine.chars) :
    bodyMembers body = content.map BodyLine.member := by
  rw [bodyMembers_eq, same]
  clear same
  induction content with
  | nil => rfl
  | cons line lines ih =>
      have plain : (!isSeparator line.chars) = true := by
        rw [isSeparator_chars]
        rfl
      rw [List.map_cons, List.filter_cons_of_pos (p := fun s => !isSeparator s) plain,
        List.filterMap_cons_some BodyLine.member?_chars, ih, List.map_cons]

/-- A class with some attributes, and nothing else. -/
def single (name : String) (attributes : List Member) : ClassDiagram :=
  { classes := .ofList [(name, { name, label := name, kind := .plain, attributes })] }

theorem foldl_addMember (node : ClassNode) (content : List BodyLine) :
    (content.map BodyLine.member).foldl ClassNode.addMember node =
      { node with attributes := node.attributes ++ content.map BodyLine.member } := by
  induction content generalizing node with
  | nil => rw [List.map_nil, List.foldl_nil, List.append_nil]
  | cons line lines ih =>
      have added : node.addMember line.member =
          { node with attributes := node.attributes ++ [line.member] } := rfl
      rw [List.map_cons, List.foldl_cons, added, ih, List.append_assoc]
      rfl

theorem declare_below (rest : List Line) {content : List BodyLine}
    (members : bodyMembers (upTo (fun line => hasStart ['}'] line.chars) rest).1 =
      content.map BodyLine.member) :
    ({} : ClassDiagram).declare .plain "C \x7b".toList rest =
      .took (single "C" (content.map BodyLine.member))
        (upTo (fun line => hasStart ['}'] line.chars) rest).2 := by
  have cut : cutBody (trim "C \x7b".toList) = (['C'], .below) := rfl
  have stereotype : takeStereotype ['C'] = (['C'], none) := rfl
  have parents : takeParents ['C'] = (['C'], []) := by decide +kernel
  have generic : takeGeneric ['C'] = (['C'], none) := rfl
  have names : nameAndLabel (stripColor ['C']) = (['C'], ['C']) := by decide +kernel
  have body : readBody rest .below = (content.map BodyLine.member,
      (upTo (fun line => hasStart ['}'] line.chars) rest).2) := Prod.ext members rfl
  unfold ClassDiagram.declare
  rw [cut]
  dsimp only
  rw [stereotype]
  dsimp only
  rw [parents]
  dsimp only
  rw [generic]
  dsimp only
  rw [names]
  dsimp only
  rw [if_neg (by decide), body]
  dsimp only
  simp only [foldl_addMember]
  rfl

theorem readAll_body {lines : List Line} {content : List BodyLine}
    (same : lines.map Line.chars =
      "class C \x7b".toList :: content.map BodyLine.chars ++ [['}']]) :
    readAll turn {} lines = (single "C" (content.map BodyLine.member), []) := by
  obtain ⟨first, body, rest, rfl, head, body_same, value, left⟩ := exists_body same
  have took : turn {} first rest =
      .took (single "C" (content.map BodyLine.member))
        (upTo (fun line => hasStart ['}'] line.chars) rest).2 := by
    have opening : noteOpening.read? "class C \x7b".toList = none := rfl
    have note : gridNote? 0 first rest = none := by rw [gridNote?, head, opening]
    have declaration :
        declarationPattern.read? "class C \x7b".toList = some (.plain, "C \x7b".toList) := rfl
    unfold turn
    dsimp only [List.length_nil]
    rw [note, head, declaration]
    exact declare_below _ ((congrArg bodyMembers value).trans (bodyMembers_chars body_same))
  rw [readAll_of_took took, left, readAll]

end ClassDiagram

/-! ## Texts of one body -/

namespace Engine

/-- What is read from a text without a diagnostic is read by a strict reading, too. -/
theorem read_of_reader {text : String} {lines : List Line} {title : Option String}
    (source : Source.ofText text = ⟨lines, title, false⟩) (notEmpty : lines ≠ []) {kind : Kind}
    {content : Content} (reads : Reader.standard kind lines = .ok (content, [])) (strict : Bool) :
    ({} : Engine).read strict text (some kind) = .ok ⟨kind, ⟨title, content⟩, []⟩ := by
  have some : (Source.mk lines title false).isEmpty = false := List.isEmpty_eq_false_iff.mpr notEmpty
  have lenient : ({} : Engine).readLenient kind ⟨lines, title, false⟩ =
      .ok ⟨kind, ⟨title, content⟩, []⟩ := by
    rw [readLenient, some, if_neg Bool.false_ne_true]
    dsimp only
    rw [reads]
  rw [read, source]
  dsimp only [Option.getD_some]
  rw [readSource, lenient]
  cases strict <;> rfl

/-- Of the lines of a body, those that are content give the columns of an entity and the attributes of
a class, in their order. Nothing is said about the others, even by a strict reading, but the last one
whose name is `title` gives the title. -/
theorem read_bodyText (strict : Bool) (lines : List BodyLine) :
    ({} : Engine).read strict (bodyText "entity E \x7b" lines) (some .entities) =
      .ok ⟨.entities, ⟨BodyLine.lastTitle? lines, .entities
        (.single "E" ((lines.filter BodyLine.isContent).map BodyLine.column))⟩, []⟩ ∧
    ({} : Engine).read strict (bodyText "class C \x7b" lines) (some .classes) =
      .ok ⟨.classes, ⟨BodyLine.lastTitle? lines, .classes
        (.single "C" ((lines.filter BodyLine.isContent).map BodyLine.member))⟩, []⟩ := by
  constructor
  · obtain ⟨kept, source, same⟩ := Source.ofText_bodyText (by decide)
      (⟨by decide, by decide, by decide, by decide⟩ : IsKept "entity E \x7b".toList) (by decide) lines
    have notEmpty : kept ≠ [] := by
      rintro rfl
      exact List.cons_ne_nil _ _ same.symm
    refine read_of_reader source notEmpty ?_ strict
    rw [Reader.standard, EntityDiagram.ofLines, EntityDiagram.readAll_body same]
    rfl
  · obtain ⟨kept, source, same⟩ := Source.ofText_bodyText (by decide)
      (⟨by decide, by decide, by decide, by decide⟩ : IsKept "class C \x7b".toList) (by decide) lines
    have notEmpty : kept ≠ [] := by
      rintro rfl
      exact List.cons_ne_nil _ _ same.symm
    refine read_of_reader source notEmpty ?_ strict
    rw [Reader.standard, ClassDiagram.ofLines, ClassDiagram.readAll_body same]
    rfl

/-- A column whose name is `title` gets lost, unless its entity is declared on one line. -/
theorem read_title_lost :
    ({} : Engine).read false "entity E \x7b\ntitle : text\n\x7d" (some .entities) =
      .ok ⟨.entities, ⟨some ": text", .entities (.single "E" [])⟩, []⟩ ∧
    ({} : Engine).read false "entity E \x7b title : text \x7d" (some .entities) =
      .ok ⟨.entities, ⟨none, .entities
        (.single "E" [{ name := "title", typeName := "text" }])⟩, []⟩ := by
  decide +kernel

end Engine

end DiagramMarkup
