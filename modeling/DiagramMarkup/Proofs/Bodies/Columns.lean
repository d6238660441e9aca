import DiagramMarkup.Proofs.Phrase.Declarations
import DiagramMarkup.Proofs.Reading
import DiagramMarkup.Proofs.Tables
import DiagramMarkup.Proofs.Text.Cutting
import DiagramMarkup.Reading.Entities
import DiagramMarkup.Source.Cleaning
import Mathlib.Data.List.Forall2

/-! # The columns of a body

A body is read line by line: a line with a name gives a column, and a column belongs to the primary key
if it stands above the first divider or says so itself. Only the first divider is left out. Another one
below it is taken for a column of its own name.
-/

namespace DiagramMarkup.EntityDiagram

open Text Phrase

variable {line : List Char} {body : List (List Char)}

/-! ## Lines -/

/-- A line that divides a body: two or more of one stroke, blanks at the ends apart. -/
def IsDivider (line : List Char) : Prop :=
  ∃ stroke ∈ ['-', '=', '.', '_'], ∃ n ≥ 2, trim line = List.replicate n stroke

theorem isKeySeparator_iff : isKeySeparator line = true ↔ IsDivider line := by
  have strokes (stroke : Char) : (trim line).all (· = stroke) = true ↔
      trim line = List.replicate (trim line).length stroke := by
    rw [List.all_eq_true, List.eq_replicate_iff]
    simp only [decide_eq_true_eq, true_and]
  unfold isKeySeparator IsDivider
  simp only [Bool.and_eq_true, decide_eq_true_eq, List.any_eq_true, strokes]
  constructor
  · rintro ⟨long, stroke, member, same⟩
    exact ⟨stroke, member, _, long, same⟩
  · rintro ⟨stroke, member, n, long, same⟩
    have length : (trim line).length = n := by rw [same, List.length_replicate]
    rw [length]
    exact ⟨long, stroke, member, same⟩

instance : DecidablePred IsDivider :=
  fun _ => decidable_of_iff _ isKeySeparator_iff

/-- What is left of a line without its stereotype, the words for keys, and the stars behind them. -/
def bareText (line : List Char) : List Char :=
  let (_, s) := takeWord "PK " (takeStereotype line).1
  let (_, s) := takeWord "FK " s
  trim (dropStart (· = '*') s)

/-- The name in a line: what is left of it in front of the first colon. -/
def columnName (line : List Char) : List Char :=
  trim ((bareText line).takeWhile fun c => c ≠ ':')

/-- A line says itself that its column belongs to the primary key. -/
def MarksPrimary (line : List Char) : Prop :=
  (takeStereotype line).2.map upper = some "PK".toList ∨ "PK ".toList <+: (takeStereotype line).1

theorem fst_takeWord {word : String} {s : List Char} :
    (takeWord word s).1 = true ↔ word.toList <+: s := by
  unfold takeWord
  cases found : after? word.toList s with
  | none => simp [after?_eq_none_iff.mp found]
  | some rest =>
      rw [after?_eq_some_iff.mp found]
      simp

theorem marksPrimary_iff :
    ((takeWord "PK " (takeStereotype line).1).1 ||
        decide (((takeStereotype line).2.map upper).map String.ofList = some "PK")) = true ↔
      MarksPrimary line := by
  have word (words : Option (List Char)) :
      (words.map upper).map String.ofList = some "PK" ↔ words.map upper = some "PK".toList := by
    cases words with
    | none => simp
    | some words =>
        simp only [Option.map_some, Option.some.injEq]
        rw [← String.toList_inj, String.toList_ofList]
  rw [Bool.or_eq_true, decide_eq_true_iff, word, fst_takeWord, MarksPrimary, or_comm]

theorem column?_cases (above : Bool) (line : List Char) :
    (columnName line = [] ∧ column? above line = none) ∨
      (columnName line ≠ [] ∧ ∃ column, column? above line = some column ∧
        column.name = String.ofList (columnName line) ∧
          (column.primaryKey = true ↔ above = true ∨ MarksPrimary line)) := by
  -- with a colon the name is the trimmed piece in front of it, without one the whole text
  have cases_of {name : List Char} {column : Column} (same : name = columnName line)
      (named : column.name = String.ofList name)
      (primary : column.primaryKey = true ↔ above = true ∨ MarksPrimary line) :
      (columnName line = [] ∧ (if name.isEmpty then none else some column) = none) ∨
        (columnName line ≠ [] ∧ ∃ given, (if name.isEmpty then none else some column) = some given ∧
          given.name = String.ofList (columnName line) ∧
            (given.primaryKey = true ↔ above = true ∨ MarksPrimary line)) := by
    rw [← same]
    by_cases empty : name = []
    · exact .inl ⟨empty, if_pos (List.isEmpty_iff.mpr empty)⟩
    · exact .inr ⟨empty, column, if_neg (List.isEmpty_iff.not.mpr empty), named, primary⟩
  have primary : (above || (takeWord "PK " (takeStereotype line).1).1 ||
      decide (((takeStereotype line).2.map upper).map String.ofList = some "PK")) = true ↔
        above = true ∨ MarksPrimary line := by
    rw [Bool.or_assoc, Bool.or_eq_true, marksPrimary_iff]
  have text : trim (dropStart (· = '*')
      (takeWord "FK " (takeWord "PK " (takeStereotype line).1).2).2) = bareText line := rfl
  have front := fst_cutAt (· = ':') (bareText line)
  simp only [← decide_not] at front
  unfold column?
  dsimp only
  rw [text]
  cases cut : cutAt (· = ':') (bareText line) with
  | none =>
      rw [cut] at front
      refine cases_of ?_ rfl primary
      rw [columnName, ← front]
      exact (trim_trim _).symm
  | some pieces =>
      rw [cut] at front
      refine cases_of ?_ rfl primary
      rw [columnName, ← front]
      rfl

theorem takeWord_of_not_mem {word : String} {c : Char} {chars s : List Char}
    (same : word.toList = c :: chars) (absent : c ∉ s) : takeWord word s = (false, s) := by
  have none : after? word.toList s = none := by
    rw [after?_eq_none_iff, same]
    exact fun start => absent (start.subset List.mem_cons_self)
  rw [takeWord, none]

/-- A line without any of the marks that a column may carry is the name of its column. -/
theorem columnName_eq_trim (plain : ∀ c ∈ ['<', 'P', 'F', '*', ':'], c ∉ trim line) :
    columnName line = trim line := by
  have stereotype : (takeStereotype line).1 = trim line := by
    rw [takeStereotype_of_not_bracketed]
    intro inside
    have bracket : '<' ∈ line := inside.subset List.mem_cons_self
    exact plain '<' (by decide) (mem_trim_of_mem (by decide) bracket)
  have stars : dropStart (· = '*') (trim line) = trim line := by
    cases here : trim line with
    | nil => rfl
    | cons c rest =>
        refine List.dropWhile_cons_of_neg fun star => plain '*' (by decide) ?_
        rw [here, ← of_decide_eq_true star]
        exact List.mem_cons_self
  have bare : bareText line = trim line := by
    unfold bareText
    simp only [stereotype, takeWord_of_not_mem (show "PK ".toList = _ from rfl) (plain 'P' (by decide)),
      takeWord_of_not_mem (show "FK ".toList = _ from rfl) (plain 'F' (by decide)), stars, trim_trim]
  have colon : ∀ c ∈ trim line, decide (c ≠ ':') = true := by
    intro c here
    refine decide_eq_true ?_
    rintro rfl
    exact plain ':' (by decide) here
  rw [columnName, bare, List.takeWhile_eq_self_iff.mpr colon, trim_trim]

/-- A divider has its strokes for a name, so that it is read like any other line. -/
theorem columnName_of_isDivider (divides : IsDivider line) :
    columnName line = trim line ∧ columnName line ≠ [] := by
  obtain ⟨stroke, member, n, long, same⟩ := divides
  have name : columnName line = trim line := by
    refine columnName_eq_trim fun c mark here => ?_
    have apart : ∀ c ∈ ['<', 'P', 'F', '*', ':'], c ∉ ['-', '=', '.', '_'] := by simp
    rw [same] at here
    obtain rfl := List.eq_of_mem_replicate here
    exact apart c mark member
  refine ⟨name, ?_⟩
  rw [name, same, ← List.length_pos_iff, List.length_replicate]
  omega

/-! ## Bodies -/

def firstDivider? (body : List (List Char)) : Option Nat :=
  body.findIdx? fun line => decide (IsDivider line)

/-- A place stands above the first divider. -/
def IsAbove (body : List (List Char)) (place : Nat) : Prop :=
  ∃ first ∈ firstDivider? body, place < first

/-- A line that gives a column: it has a name and is not the first divider. -/
def HoldsColumn (body : List (List Char)) (line : List Char × Nat) : Prop :=
  trim line.1 ≠ [] ∧ firstDivider? body ≠ some line.2 ∧ columnName line.1 ≠ []

instance : DecidablePred (HoldsColumn body) :=
  fun _ => inferInstanceAs (Decidable (_ ∧ _ ∧ _))

/-- The lines that give columns, with their places. -/
def columnLines (body : List (List Char)) : List (List Char × Nat) :=
  body.zipIdx.filter (HoldsColumn body ·)

/-- What is said of a column by the line that gives it. -/
structure Gives (body : List (List Char)) (line : List Char × Nat) (column : Column) : Prop where
  name : column.name = String.ofList (columnName line.1)
  primaryKey : column.primaryKey = true ↔ IsAbove body line.2 ∨ MarksPrimary line.1

theorem not_isDivider_of_cutKey (none : cutKey body = none) : ∀ line ∈ body, ¬ IsDivider line := by
  induction body with
  | nil => exact fun _ member => absurd member List.not_mem_nil
  | cons line body ih =>
      rw [cutKey] at none
      split at none
      · exact nomatch none
      · next plain =>
          rw [isKeySeparator_iff] at plain
          exact List.forall_mem_cons.mpr ⟨plain, ih (Option.map_eq_none_iff.mp none)⟩

theorem append_of_cutKey {key others : List (List Char)} (found : cutKey body = some (key, others)) :
    ∃ divider, IsDivider divider ∧ body = key ++ divider :: others ∧
      ∀ line ∈ key, ¬ IsDivider line := by
  induction body generalizing key with
  | nil => exact nomatch found
  | cons line body ih =>
      rw [cutKey] at found
      split at found
      · next divides =>
          obtain ⟨rfl, rfl⟩ := Prod.mk.inj (Option.some.inj found)
          refine ⟨line, isKeySeparator_iff.mp divides, rfl, fun _ member => ?_⟩
          exact absurd member List.not_mem_nil
      · next plain =>
          obtain ⟨⟨front, back⟩, later, same⟩ := Option.map_eq_some_iff.mp found
          obtain ⟨rfl, rfl⟩ := Prod.mk.inj same
          obtain ⟨divider, divides, rfl, above⟩ := ih later
          rw [isKeySeparator_iff] at plain
          exact ⟨divider, divides, rfl, List.forall_mem_cons.mpr ⟨plain, above⟩⟩

theorem firstDivider?_eq_none (plain : ∀ line ∈ body, ¬ IsDivider line) : firstDivider? body = none :=
  List.findIdx?_eq_none_iff.mpr fun line member => decide_eq_false (plain line member)

theorem firstDivider?_append {key others : List (List Char)} {divider : List Char}
    (plain : ∀ line ∈ key, ¬ IsDivider line) (divides : IsDivider divider) :
    firstDivider? (key ++ divider :: others) = some key.length := by
  have above := firstDivider?_eq_none plain
  unfold firstDivider? at above ⊢
  rw [List.findIdx?_append, above, Option.none_or, List.findIdx?_cons, if_pos (decide_eq_true divides)]
  exact congrArg some (Nat.zero_add _)

theorem forall₂_read {above : Bool} {lines : List (List Char)} {start : Nat}
    (side : ∀ line ∈ lines.zipIdx start,
      firstDivider? body ≠ some line.2 ∧ (above = true ↔ IsAbove body line.2)) :
    List.Forall₂ (Gives body) ((lines.zipIdx start).filter (HoldsColumn body ·))
      ((lines.filter fun line => !(trim line).isEmpty).filterMap (column? above)) := by
  induction lines generalizing start with
  | nil => exact .nil
  | cons line lines ih =>
      rw [List.zipIdx_cons, List.forall_mem_cons] at side
      obtain ⟨⟨apart, key⟩, others⟩ := side
      have later := ih others
      rw [List.zipIdx_cons]
      by_cases blank : trim line = []
      · have none : ¬ HoldsColumn body (line, start) := fun holds => holds.1 blank
        rw [List.filter_cons_of_neg (by simpa using none), List.filter_cons_of_neg (by simp [blank])]
        exact later
      · rw [List.filter_cons_of_pos (by simp [blank]) (l := lines)]
        rcases column?_cases above line with ⟨nameless, none⟩ | ⟨named, column, some, name, primary⟩
        · have without : ¬ HoldsColumn body (line, start) := fun holds => holds.2.2 nameless
          rw [List.filter_cons_of_neg (by simpa using without), List.filterMap_cons_none none]
          exact later
        · have holds : HoldsColumn body (line, start) := ⟨blank, apart, named⟩
          rw [List.filter_cons_of_pos (by simpa using holds), List.filterMap_cons_some some]
          exact .cons ⟨name, primary.trans (or_congr_left key)⟩ later

/-- The columns of a body are those that its lines give, one each and in their order. -/
theorem forall₂_columns (body : List (List Char)) :
    List.Forall₂ (Gives body) (columnLines body) (columns body) := by
  unfold columns columnLines
  cases cut : cutKey body with
  | none =>
      have absent := firstDivider?_eq_none (not_isDivider_of_cutKey cut)
      refine forall₂_read fun line _ => ⟨fun same => (nomatch absent.symm.trans same), ?_⟩
      simp only [IsAbove, absent, Option.mem_def, reduceCtorEq, false_and, exists_const,
        Bool.false_eq_true]
  | some parts =>
      obtain ⟨key, others⟩ := parts
      obtain ⟨divider, divides, rfl, plain⟩ := append_of_cutKey cut
      have first : firstDivider? (key ++ divider :: others) = some key.length :=
        firstDivider?_append plain divides
      have above (place : Nat) : IsAbove (key ++ divider :: others) place ↔ place < key.length := by
        simp only [IsAbove, first, Option.mem_def, Option.some.injEq, exists_eq_left']
      have left_out : ¬ HoldsColumn (key ++ divider :: others) (divider, 0 + key.length) := by
        intro holds
        exact holds.2.1 (first.trans (congrArg some (Nat.zero_add _).symm))
      rw [List.zipIdx_append, List.zipIdx_cons, List.filter_append,
        List.filter_cons_of_neg (by simpa using left_out)]
      refine List.rel_append (forall₂_read fun line member => ?key)
        (forall₂_read fun line member => ?others)
      case key =>
        have bound := (List.mem_zipIdx member).2.1
        simp only [first, above, ne_eq, Option.some.injEq, true_iff]
        omega
      case others =>
        have bound := (List.mem_zipIdx member).1
        simp only [first, above, ne_eq, Option.some.injEq, Bool.false_eq_true, false_iff]
        omega

/-- A divider gives a column unless it is the first one. -/
theorem mem_columnLines_of_isDivider {divider : List Char × Nat} (member : divider ∈ body.zipIdx)
    (divides : IsDivider divider.1) :
    divider ∈ columnLines body ↔ firstDivider? body ≠ some divider.2 := by
  obtain ⟨name, named⟩ := columnName_of_isDivider divides
  rw [columnLines, List.mem_filter, decide_eq_true_iff, HoldsColumn]
  exact ⟨fun holds => holds.2.2.1, fun apart => ⟨member, name ▸ named, apart, named⟩⟩

/-! ## Declarations -/

/-- A line that ends a body below its declaration. -/
def EndsBody (line : Line) : Prop :=
  ['}'] <+: line.chars

instance : DecidablePred EndsBody :=
  fun _ => inferInstanceAs (Decidable (_ <+: _))

/-- How a declaration is written, and the lines behind it: its head, its body, and the lines that are
left. The body stands between braces, on the same line or below it. -/
inductive Writes (rest : List Line) : List Char → List Char → List (List Char) → List Line → Prop
  | bare {head : List Char} (plain : '{' ∉ head) : Writes rest head head [] rest
  | inside {head columns behind : List Char} (plain : '{' ∉ head) (closed : '}' ∉ behind) :
      Writes rest (head ++ '{' :: (columns ++ '}' :: behind)) (trim head) (splitAt ';' columns) rest
  | below {head behind : List Char} (plain : '{' ∉ head) (opened : '}' ∉ behind) :
      Writes rest (head ++ '{' :: behind) (trim head)
        ((rest.takeWhile (¬ EndsBody ·)).map Line.chars) (rest.dropWhile (¬ EndsBody ·)).tail

variable {declaration head : List Char} {rest left : List Line}

theorem exists_writes (declaration : List Char) (rest : List Line) :
    ∃ head body left, Writes rest declaration head body left := by
  by_cases braces : '{' ∈ declaration
  · obtain ⟨head, behind, rfl, plain⟩ := List.eq_append_cons_of_mem braces
    by_cases closed : '}' ∈ behind
    · -- the last brace is the first one from behind
      obtain ⟨back, front, same, last⟩ := List.eq_append_cons_of_mem (List.mem_reverse.mpr closed)
      have split : behind = front.reverse ++ '}' :: back.reverse := by
        rw [← List.reverse_reverse behind, same, List.reverse_append, List.reverse_cons,
          List.append_assoc]
        rfl
      rw [split]
      exact ⟨_, _, _, .inside plain (List.mem_reverse.not.mpr last)⟩
    · exact ⟨_, _, _, .below plain closed⟩
  · exact ⟨_, _, _, .bare braces⟩

theorem cutBody_of_writes (written : Writes rest declaration head body left) :
    (cutBody declaration rest).1 = head ∧ (cutBody declaration rest).2.1 = body ∧
      (cutBody declaration rest).2.2.1 = left := by
  have opening {front : List Char} (plain : '{' ∉ front) (c : Char) (member : c ∈ front) :
      decide (c = '{') = false :=
    decide_eq_false fun same => plain (same ▸ member)
  unfold cutBody
  cases written with
  | bare plain =>
      rw [cutAt_eq_none (opening plain)]
      exact ⟨rfl, rfl, rfl⟩
  | inside plain closed =>
      rw [cutAt_append (opening plain) (decide_eq_true rfl)]
      dsimp only
      rw [cutLast_append _ closed]
      exact ⟨rfl, rfl, rfl⟩
  | below plain opened =>
      obtain ⟨taken, dropped⟩ := upTo_eq (fun line => hasStart ['}'] line.chars) rest
      have ends (line : Line) : (!hasStart ['}'] line.chars) = decide (¬ EndsBody line) := by
        rw [decide_not]
        exact congrArg (! ·) (Bool.eq_iff_iff.mpr (hasStart_iff.trans decide_eq_true_iff.symm))
      simp only [ends] at taken dropped
      rw [cutAt_append (opening plain) (decide_eq_true rfl)]
      dsimp only
      rw [cutLast_of_not_mem opened]
      exact ⟨rfl, congrArg (List.map Line.chars) taken, dropped⟩

/-- A diagram in which an entity has a new label and more columns; what was known of it is kept, as is
the rest of the diagram. -/
structure Extends (d d' : EntityDiagram) (name label : String) (columns : List Column) : Prop where
  entity : d'.entities.get? name =
    some { (d.entities.get? name).getD (.bare name) with
      label
      columns := ((d.entities.get? name).getD (.bare name)).columns ++ columns }
  others : ∀ other ≠ name, d'.entities.get? other = d.entities.get? other
  names : d'.entities.keys =
    if name ∈ d.entities.keys then d.entities.keys else d.entities.keys ++ [name]
  relationships : d'.relationships = d.relationships

theorem extends_modify (d : EntityDiagram) (name label : String) (columns : List Column) :
    Extends d { d.ensure name with
      entities := (d.ensure name).entities.modify name fun entity =>
        { entity with label, columns := entity.columns ++ columns } } name label columns where
  entity := by rw [ensure, Table.get?_modify, Table.get?_insertNew, Option.map_some]
  others other apart := by rw [ensure, Table.get?_modify_of_ne apart, Table.get?_insertNew_of_ne apart]
  names := by rw [ensure, Table.keys_modify, Table.keys_insertNew]
  relationships := rfl

/-- The name and the label that the head of a declaration gives, whatever its stereotype and color. -/
def headNames (head : List Char) : List Char × List Char :=
  nameAndLabel (stripColor (takeStereotype head).1)

theorem declare_of_named (d : EntityDiagram) {names : List Char × List Char}
    {cut : List Char × List (List Char) × Remaining rest} (written : cutBody (trim declaration) rest = cut)
    (same : headNames cut.1 = names) (named : names.1 ≠ []) :
    d.declare declaration rest =
      .took { d.ensure (String.ofList names.1) with
        entities := (d.ensure (String.ofList names.1)).entities.modify (String.ofList names.1)
          fun entity => { entity with
            label := String.ofList names.2
            columns := entity.columns ++ columns cut.2.1 } } cut.2.2 := by
  unfold declare
  unfold headNames at same
  rw [written]
  dsimp only
  rw [same]
  exact if_neg (by rwa [List.isEmpty_iff])

/-- What an entity is declared with: its declaration always has a head and a body. Where the head has a
name, one column is added for every line of the body that gives one, in their order. No other line
gives one, but a divider below the first one does, under its own name. -/
theorem extends_declare (d : EntityDiagram) (declaration : List Char) (rest : List Line) :
    (∃ head body left, Writes rest (trim declaration) head body left) ∧
      ∀ head body left, Writes rest (trim declaration) head body left → (headNames head).1 ≠ [] →
        ∃ d' left' added, d.declare declaration rest = .took d' left' ∧ left'.1 = left ∧
          Extends d d' (String.ofList (headNames head).1) (String.ofList (headNames head).2) added ∧
          List.Forall₂ (Gives body) (columnLines body) added ∧
          ∀ divider ∈ body.zipIdx, IsDivider divider.1 →
            columnName divider.1 = trim divider.1 ∧
              (divider ∈ columnLines body ↔ firstDivider? body ≠ some divider.2) := by
  refine ⟨exists_writes _ rest, fun head body left written named => ?_⟩
  obtain ⟨rfl, rfl, rfl⟩ := cutBody_of_writes written
  refine ⟨_, _, _, declare_of_named d rfl rfl named, rfl, extends_modify d _ _ _, forall₂_columns _,
    fun divider member divides => ?_⟩
  exact ⟨(columnName_of_isDivider divides).1, mem_columnLines_of_isDivider member divides⟩

/-- An entity with a key and one more column. -/
theorem extends_declare_key :
    ∃ d' left' added,
      ({} : EntityDiagram).declare "E \x7bid;--;name\x7d".toList [] = .took d' left' ∧ left'.1 = [] ∧
        Extends {} d' "E" "E" added ∧
        List.Forall₂ (Gives ["id".toList, "--".toList, "name".toList])
          [("id".toList, 0), ("name".toList, 2)] added := by
  have written : Writes [] (trim "E \x7bid;--;name\x7d".toList) ['E']
      ["id".toList, "--".toList, "name".toList] [] :=
    @Writes.inside [] "E ".toList "id;--;name".toList [] (by decide) (by decide)
  have names : headNames ['E'] = (['E'], ['E']) := by decide +kernel
  have lines : columnLines ["id".toList, "--".toList, "name".toList] =
      [("id".toList, 0), ("name".toList, 2)] := by decide +kernel
  obtain ⟨d', left', added, took, left, extension, gives, -⟩ :=
    (extends_declare {} "E \x7bid;--;name\x7d".toList []).2 _ _ _ written (by rw [names]; decide)
  rw [names] at extension
  rw [lines] at gives
  exact ⟨d', left', added, took, left, extension, gives⟩

/-- Below the first divider another one is read as a column. -/
theorem column_of_second_divider :
    IsDivider "==".toList ∧
      ((ofLines (Source.ofText "entity E \x7b\nid\n--\nname\n==\nother\n\x7d").lines).1.entities.get?
          "E").map (fun entity => entity.columns.map Column.name) =
        some ["id", "name", "==", "other"] := by
  decide +kernel

end DiagramMarkup.EntityDiagram
