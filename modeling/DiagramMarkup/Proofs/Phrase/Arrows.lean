import DiagramMarkup.Phrase.Arrow
import DiagramMarkup.Proofs.Text.Preference
import DiagramMarkup.Proofs.Text.Words
import Mathlib.Data.PNat.Defs

/-! # Relation lines that are written and read

Two words with an arrow between them, written with single blanks, are read as they were written,
whatever the heads, the strokes, the multiplicities and the label are: the first reading of every part
leaves what the next part needs.
-/

namespace DiagramMarkup.Phrase

open Text Pattern

/-! ## Lines as they are written -/

/-- A name of ASCII letters, digits and underscores. -/
structure PlainName where
  chars : List Char
  chars_ne_nil : chars ≠ []
  plain : ∀ c ∈ chars, c.isAlphanum = true ∨ c = '_'

/-- A direction that is written out in the line of an arrow. -/
inductive Direction
  | left
  | right
  | up
  | down
deriving Repr, DecidableEq

def Direction.text : Direction → String
  | left => "left"
  | right => "right"
  | up => "up"
  | down => "down"

/-- The line of an arrow: strokes of one kind, or two runs of them with a direction in between. -/
structure Shaft where
  dotted : Bool
  length : ℕ+
  turn : Option (Direction × ℕ+) := none

/-- The character that a line is drawn with. -/
def strokeOf : (dotted : Bool) → Char
  | true => '.'
  | false => '-'

def Shaft.chars (shaft : Shaft) : List Char :=
  List.replicate shaft.length (strokeOf shaft.dotted) ++
    match shaft.turn with
    | none => []
    | some (direction, length) =>
      direction.text.toList ++ List.replicate length (strokeOf shaft.dotted)

/-- A text that can stand in quotes. -/
abbrev Quotable : Type :=
  { s : List Char // '"' ∉ s }

/-- A text that can stand on one line. -/
abbrev OneLine : Type :=
  { s : List Char // '\n' ∉ s }

/-- A relation between two plain names. -/
structure PlainRelation where
  left : PlainName
  right : PlainName
  leftHead : Head
  rightHead : Head
  shaft : Shaft
  leftCount : Option Quotable := none
  rightCount : Option Quotable := none
  label : Option OneLine := none

namespace PlainRelation

def countChars : Option Quotable → List Char
  | none => []
  | some count => '"' :: count.1 ++ '"' :: [' ']

def labelChars : Option OneLine → List Char
  | none => []
  | some label => " : ".toList ++ label.1

variable (relation : PlainRelation)

/-- The line that writes a relation, with single blanks between its parts. -/
def chars : List Char :=
  relation.left.chars ++ (' ' :: (countChars relation.leftCount ++
    (relation.leftHead.leftText.toList ++ (relation.shaft.chars ++
      (relation.rightHead.rightText.toList ++ (' ' :: (countChars relation.rightCount ++
        (relation.right.chars ++ labelChars relation.label))))))))

/-- What is to be read from the line. A label counts without the blanks at its ends and with line
breaks where they are written out, and one of blanks alone is none. -/
def arrow : Arrow where
  left := relation.left.chars
  right := relation.right.chars
  leftHead := relation.leftHead
  rightHead := relation.rightHead
  dotted := relation.shaft.dotted
  leftCount := relation.leftCount.map Subtype.val
  rightCount := relation.rightCount.map Subtype.val
  label := relation.label.bind fun label =>
    if label.1.all isBlank then none else some (unescapeBreaks (trim label.1))

end PlainRelation

/-! ## Names -/

variable {w t : List Char} {bare : Pattern (List Char)}

theorem isNameChar_of_isBlank {c : Char} (blank : isBlank c = true) : isNameChar c = false := by
  rw [Bool.eq_false_iff]
  intro name
  rcases Bool.or_eq_true_iff.mp name with word | dollar
  · exact Bool.false_ne_true ((isBlank_of_isWord word).symm.trans blank)
  · rw [of_decide_eq_true dollar] at blank
    exact absurd blank (by decide)

theorem toNat_lt_of_isAlphanum {c : Char} (letter : c.isAlphanum = true) : c.toNat < 128 := by
  have ascii {last : Char} (small : last.toNat < 128) (bound : c.val ≤ last.val) : c.toNat < 128 :=
    (UInt32.le_iff_toNat_le.mp bound).trans_lt small
  have last_capital : 'Z'.toNat < 128 := by decide
  have last_small : 'z'.toNat < 128 := by decide
  have last_digit : '9'.toNat < 128 := by decide
  rcases Bool.or_eq_true_iff.mp letter with letter | digit
  · rcases Bool.or_eq_true_iff.mp letter with capital | small
    · exact ascii last_capital (of_decide_eq_true capital).2
    · exact ascii last_small (of_decide_eq_true (Bool.and_eq_true_iff.mp small).2)
  · exact ascii last_digit (of_decide_eq_true (Bool.and_eq_true_iff.mp digit).2)

theorem isNameChar_of_plain {c : Char} (plain : c.isAlphanum = true ∨ c = '_') :
    isNameChar c = true := by
  have ascii : c.toNat < 128 := by
    rcases plain with letter | rfl
    · exact toNat_lt_of_isAlphanum letter
    · decide
  rw [isNameChar, isWord, if_pos ascii]
  simpa using Or.inl plain

namespace PlainName

variable (name : PlainName)

theorem isNameChar {c : Char} (member : c ∈ name.chars) : isNameChar c = true :=
  isNameChar_of_plain (name.plain c member)

theorem stops {ok : Char → Bool} (other : ∀ c, ok c = true → Phrase.isNameChar c = false)
    (t : List Char) : Stops ok (name.chars ++ t) := by
  refine Stops.append (fun c first => ?_) name.chars_ne_nil t
  rw [Bool.eq_false_iff]
  intro here
  exact Bool.false_ne_true ((other c here).symm.trans (name.isNameChar (List.mem_of_head? first)))

theorem stops_char {c : Char} (other : Phrase.isNameChar c = false) (t : List Char) :
    Stops (· = c) (name.chars ++ t) :=
  name.stops (fun d same => by rwa [of_decide_eq_true same]) t

theorem stops_blank (t : List Char) : Stops isBlank (name.chars ++ t) :=
  name.stops (fun _ => isNameChar_of_isBlank) t

theorem prefers_endpoint {a : List Char} {u : List Char}
    (reads : bare.Prefers (name.chars ++ t) a u) : (endpoint bare).Prefers (name.chars ++ t) a u :=
  (((reads.orElse_of_nil (enclosed_eq_nil (name.stops_char (by decide) t) _)).orElse_of_nil
    (enclosed_eq_nil (name.stops_char (by decide) t) _)).orElse_of_nil
      (enclosed_eq_nil (name.stops_char (by decide) t) _)).orElse_of_nil
        (enclosed_eq_nil (name.stops_char (by decide) t) _)

theorem prefers_dottedName (t : List Char) :
    dottedName.Prefers (name.chars ++ ' ' :: t) name.chars (' ' :: t) := by
  have value : name.chars ++ ([] : List (List Char)).flatten ++
      ((none : Option String).getD "").toList = name.chars := by simp
  refine (prefers_run1 (fun c => name.isNameChar) (stops_cons.mpr rfl) name.chars_ne_nil).bind ?_
  refine Prefers.bind (prefers_repeated_nil ?_) ?_
  · rfl
  refine Prefers.bind (prefers_optional_none ?_) ?_
  · rfl
  rw [value]
  exact prefers_pure _ _

theorem prefers_wholeName (stops : Stops (fun c => Phrase.isNameChar c || c = '.') t)
    (mark : text "[*]" t = []) : wholeName.Prefers (name.chars ++ t) name.chars t := by
  have all : ∀ c ∈ name.chars, (Phrase.isNameChar c || decide (c = '.')) = true :=
    fun c member => by rw [name.isNameChar member, Bool.true_or]
  have no_dot : '.' ∉ name.chars :=
    fun member => absurd (name.isNameChar member) (by decide)
  have parts : ((splitAt '.' name.chars).all fun part => !part.isEmpty) = true := by
    rw [splitAt_of_not_mem no_dot]
    simp [name.chars_ne_nil]
  have value : name.chars ++ ((none : Option String).getD "").toList = name.chars := by simp
  refine (prefers_run1 all stops name.chars_ne_nil).bind ?_
  rw [guard, if_pos parts]
  refine (prefers_pure () t).bind ?_
  refine (prefers_optional_none mark).bind ?_
  rw [value]
  exact prefers_pure _ _

end PlainName

/-! ## Arrows -/

theorem prefers_rightHead (head : Head) (t : List Char) :
    (headPattern Head.rightText).Prefers (head.rightText.toList ++ ' ' :: t) head (' ' :: t) := by
  cases head <;> rfl

theorem isStroke_strokeOf (dotted : Bool) : isStroke (strokeOf dotted) = true := by
  cases dotted <;> rfl

/-- A run of strokes ends where something else starts. -/
theorem prefers_strokes (dotted : Bool) (length : ℕ+) (stops : Stops isStroke t) :
    (run1 isStroke).Prefers (List.replicate length (strokeOf dotted) ++ t)
      (List.replicate length (strokeOf dotted)) t := by
  refine prefers_run1 (fun c member => ?_) stops ?_
  · rw [List.eq_of_mem_replicate member]
    exact isStroke_strokeOf dotted
  · exact List.ne_nil_of_length_pos (by rw [List.length_replicate]; exact length.pos)

theorem prefers_direction (direction : Direction) (t : List Char) :
    (bracketedStyle <|> discard (anyOf directions)).Prefers (direction.text.toList ++ t) () t := by
  cases direction <;> rfl

theorem Direction.stops (direction : Direction) (t : List Char) :
    Stops isStroke (direction.text.toList ++ t) := by
  cases direction <;> exact stops_cons.mpr rfl

theorem hasStart_strokes (dotted : Bool) (length : ℕ+) :
    hasStart ['.'] (List.replicate length (strokeOf dotted)) = dotted := by
  obtain ⟨n, same⟩ := Nat.exists_eq_succ_of_ne_zero length.ne_zero
  rw [same, List.replicate_succ]
  cases dotted <;> rfl

/-- Behind the line stands a head, which is no direction and no style. -/
theorem prefers_stroke (shaft : Shaft) (head : Head) (t : List Char) :
    stroke.Prefers (shaft.chars ++ (head.rightText.toList ++ ' ' :: t)) shaft.dotted
      (head.rightText.toList ++ ' ' :: t) := by
  have ends : Stops isStroke (head.rightText.toList ++ ' ' :: t) := by
    cases head <;> exact stops_cons.mpr rfl
  have straight : (bracketedStyle <|> discard (anyOf directions))
      (head.rightText.toList ++ ' ' :: t) = [] := by
    cases head <;> rfl
  obtain ⟨dotted, length, turn⟩ := shaft
  unfold stroke Shaft.chars
  cases turn with
  | none =>
      dsimp only
      rw [List.append_nil]
      refine (prefers_strokes dotted length ends).bind ?_
      refine (prefers_optional_none (bind_eq_nil straight _)).bind ?_
      rw [hasStart_strokes]
      exact prefers_pure _ _
  | some turn =>
      obtain ⟨direction, more⟩ := turn
      dsimp only
      rw [List.append_assoc, List.append_assoc]
      refine (prefers_strokes dotted length (direction.stops _)).bind ?_
      refine Prefers.bind ((prefers_direction direction _).bind
        (prefers_strokes dotted more ends)).optional ?_
      rw [hasStart_strokes]
      exact prefers_pure _ _

theorem Shaft.exists_cons (shaft : Shaft) : ∃ more, shaft.chars = strokeOf shaft.dotted :: more := by
  obtain ⟨n, same⟩ := Nat.exists_eq_succ_of_ne_zero shaft.length.ne_zero
  unfold Shaft.chars
  rw [same, List.replicate_succ, List.cons_append]
  exact ⟨_, rfl⟩

theorem prefers_leftHead (head : Head) (shaft : Shaft) (t : List Char) :
    (headPattern Head.leftText).Prefers (head.leftText.toList ++ (shaft.chars ++ t)) head
      (shaft.chars ++ t) := by
  obtain ⟨more, strokes⟩ := shaft.exists_cons
  rw [strokes]
  cases head <;> cases shaft.dotted <;> rfl

theorem stops_arrow {ok : Char → Bool} (other : ['<', '*', 'o', '+', '-', '.'].any ok = false)
    (head : Head) (shaft : Shaft) (t : List Char) :
    Stops ok (head.leftText.toList ++ (shaft.chars ++ t)) := by
  obtain ⟨more, strokes⟩ := shaft.exists_cons
  have none : ∀ c ∈ ['<', '*', 'o', '+', '-', '.'], ok c = false :=
    fun c member => Bool.eq_false_iff.mpr (List.any_eq_false.mp other c member)
  rw [strokes]
  cases head <;> cases shaft.dotted <;> exact stops_cons.mpr (none _ (by decide))

/-! ## Multiplicities and labels -/

namespace PlainRelation

theorem prefers_count (count : Option Quotable) (full : Stops isBlank t) (plain : Stops (· = '"') t) :
    (optional multiplicity).Prefers (countChars count ++ t) (count.map Subtype.val) t := by
  cases count with
  | none => exact prefers_optional_none (bind_eq_nil (bind_eq_nil (char_eq_nil plain) _) _)
  | some count =>
      have split : countChars (some count) ++ t = '"' :: count.1 ++ '"' :: ' ' :: t := by
        simp [countChars]
      rw [split]
      refine Prefers.optional ((prefers_quoted count.2 _).bind ?_)
      exact (prefers_blank full).bind (prefers_pure count.1 t)

theorem isEmpty_trim (s : List Char) : (trim s).isEmpty = s.all isBlank := by
  rw [Bool.eq_iff_iff, List.isEmpty_iff, List.all_eq_true]
  constructor
  · intro empty c member
    by_contra full
    have rest := mem_trim (Bool.eq_false_iff.mpr full) member
    rw [empty] at rest
    exact List.not_mem_nil rest
  · intro blank
    have := trim_append_blanks blank []
    exact this

theorem label?_dropWhile (s : List Char) :
    label? (s.dropWhile isBlank) =
      if s.all isBlank then none else some (unescapeBreaks (trim s)) := by
  have same : trim (s.dropWhile isBlank) = trim s := by
    rw [trim, trim, trimStart, trimStart, dropStart, dropStart, List.dropWhile_idempotent]
  unfold label?
  dsimp only
  rw [same, isEmpty_trim]

theorem prefers_label (label : Option OneLine) :
    (optional arrowLabel).Prefers (labelChars label)
      (label.map fun label => label.1.dropWhile isBlank) [] := by
  cases label with
  | none => exact prefers_optional_none rfl
  | some label =>
      have split : ' ' :: label.1 =
          (' ' :: label.1.takeWhile isBlank) ++ label.1.dropWhile isBlank := by
        rw [List.cons_append, List.takeWhile_append_dropWhile]
      have more_blank : ∀ c ∈ ' ' :: label.1.takeWhile isBlank, isBlank c = true :=
        List.forall_mem_cons.mpr ⟨rfl, List.all_eq_true.mp List.all_takeWhile⟩
      have line : '\n' ∉ label.1.dropWhile isBlank :=
        fun member => label.2 ((List.dropWhile_suffix isBlank).subset member)
      refine Prefers.optional ?_
      change arrowLabel.Prefers (' ' :: ':' :: ' ' :: label.1) _ _
      refine (prefers_blank (stops_cons.mpr rfl)).bind ?_
      refine (prefers_char ':' _).bind ?_
      rw [split]
      exact (prefers_blanks more_blank (stops_dropWhile isBlank _)).bind (prefers_restOfLine line)

variable (relation : PlainRelation)

/-! ## Whole lines -/

theorem stops_count {ok : Char → Bool} (quote : ok '"' = false) (stops : Stops ok t)
    (count : Option Quotable) : Stops ok (countChars count ++ t) := by
  cases count with
  | none => exact stops
  | some count => exact stops_cons.mpr quote

theorem prefers_arrowPattern : arrowPattern.Prefers relation.chars relation.arrow [] := by
  have label_stops : Stops (fun c => isNameChar c || c = '.') (labelChars relation.label) := by
    cases relation.label with
    | none => exact stops_nil
    | some label => exact stops_cons.mpr rfl
  have no_mark : text "[*]" (labelChars relation.label) = [] := by
    cases relation.label <;> rfl
  have label : (relation.label.map fun label => label.1.dropWhile isBlank).bind label? =
      relation.arrow.label := by
    rw [Option.bind_map]
    exact congrArg relation.label.bind (funext fun label => label?_dropWhile label.1)
  unfold arrowPattern chars
  refine (relation.left.prefers_endpoint (relation.left.prefers_dottedName _)).bind ?_
  refine (prefers_blank (stops_count rfl (stops_arrow rfl _ _ _) _)).bind ?_
  refine (prefers_count relation.leftCount (stops_arrow rfl _ _ _) (stops_arrow rfl _ _ _)).bind ?_
  refine (prefers_leftHead relation.leftHead relation.shaft _).bind ?_
  refine (prefers_stroke relation.shaft relation.rightHead _).bind ?_
  refine (prefers_rightHead relation.rightHead _).bind ?_
  refine (prefers_blank (stops_count rfl (relation.right.stops_blank _) _)).bind ?_
  refine (prefers_count relation.rightCount (relation.right.stops_blank _)
    (relation.right.stops_char rfl _)).bind ?_
  refine Prefers.bind (relation.right.prefers_endpoint
    (relation.right.prefers_wholeName label_stops no_mark)) ?_
  refine (prefers_label relation.label).bind ?_
  rw [label]
  exact Prefers.bind (t := []) rfl (prefers_pure relation.arrow [])

end PlainRelation

/-- A written relation is read as it was written. -/
theorem arrow?_chars (relation : PlainRelation) : arrow? relation.chars = some relation.arrow :=
  relation.prefers_arrowPattern.read?

end DiagramMarkup.Phrase
