import DiagramMarkup.Proofs.Cleaning.Runs
import DiagramMarkup.Source.Reading

/-! # Lines of bodies before they are read

A line of a body is cleaned as any other line is, before it is known to stand in a body. So one whose
name is the word of a directive is taken out, and one whose name is that of the title becomes it.
-/

namespace DiagramMarkup

open Text

/-- A word of small letters. -/
structure SmallWord where
  text : String
  notEmpty : text ≠ ""
  small : ∀ c ∈ text.toList, c.isLower = true
deriving DecidableEq

/-- A line that gives a name and a type. -/
structure BodyLine where
  name : SmallWord
  typeName : SmallWord
deriving DecidableEq

/-- Whether a word at the start of a line makes it a directive, whatever follows behind a blank. -/
def SmallWord.isDirective (word : SmallWord) : Bool :=
  word.text ∈ ["hide", "show", "scale", "header", "footer", "caption"] ||
    ["skinparam", "autonumber"].any fun start => hasStart start.toList word.text.toList

namespace SmallWord

variable (word : SmallWord)

def chars : List Char :=
  word.text.toList

theorem chars_ne_nil : word.chars ≠ [] := by
  intro none
  exact word.notEmpty (String.toList_eq_nil_iff.mp none)

variable {word}

theorem not_mem_chars {c : Char} (other : c.isLower = false) : c ∉ word.chars := by
  intro member
  exact Bool.false_ne_true (other.symm.trans (word.small c member))

theorem trim_chars : trim word.chars = word.chars := by
  apply trim_eq_self
  · exact fun c head => isBlank_of_isLower (word.small c (List.mem_of_head? head))
  · exact fun c last => isBlank_of_isLower (word.small c (List.mem_of_getLast? last))

end SmallWord

namespace BodyLine

variable (line : BodyLine)

def text : String :=
  line.name.text ++ " : " ++ line.typeName.text

def chars : List Char :=
  line.name.chars ++ ' ' :: ':' :: ' ' :: line.typeName.chars

theorem toList_text : line.text.toList = line.chars := by
  rw [text, String.toList_append, String.toList_append, List.append_assoc]
  rfl

variable {line}

theorem mem_chars {c : Char} (member : c ∈ line.chars) : c.isLower = true ∨ c = ' ' ∨ c = ':' := by
  simp only [chars, List.mem_append, List.mem_cons] at member
  rcases member with here | here | here | here | here
  · exact .inl (line.name.small c here)
  · exact .inr (.inl here)
  · exact .inr (.inr here)
  · exact .inr (.inl here)
  · exact .inl (line.typeName.small c here)

theorem not_mem_chars {c : Char} (other : c.isLower = false) (blank : c ≠ ' ') (colon : c ≠ ':') :
    c ∉ line.chars := by
  intro member
  rcases mem_chars member with small | same | same
  · exact Bool.false_ne_true (other.symm.trans small)
  · exact blank same
  · exact colon same

theorem chars_ne_nil : line.chars ≠ [] :=
  List.append_ne_nil_of_left_ne_nil line.name.chars_ne_nil _

theorem isLower_of_head? {c : Char} (head : line.chars.head? = some c) : c.isLower = true := by
  obtain ⟨d, name, same⟩ := List.exists_cons_of_ne_nil line.name.chars_ne_nil
  rw [chars, same] at head
  obtain rfl := Option.some.inj head
  exact line.name.small _ (same ▸ List.mem_cons_self : d ∈ line.name.chars)

theorem isLower_of_getLast? {c : Char} (last : line.chars.getLast? = some c) :
    c.isLower = true := by
  rw [chars, List.getLast?_append_of_ne_nil _ (List.cons_ne_nil _ _),
    List.getLast?_cons_of_ne_nil (List.cons_ne_nil _ _),
    List.getLast?_cons_of_ne_nil (List.cons_ne_nil _ _),
    List.getLast?_cons_of_ne_nil line.typeName.chars_ne_nil] at last
  exact line.typeName.small c (List.mem_of_getLast? last)

theorem trim_chars : trim line.chars = line.chars := by
  apply trim_eq_self
  · exact fun c head => isBlank_of_isLower (isLower_of_head? head)
  · exact fun c last => isBlank_of_isLower (isLower_of_getLast? last)

theorem lower_chars : lower line.chars = line.chars := by
  refine (List.map_congr_left fun c member => ?_).trans (List.map_id _)
  rcases mem_chars member with small | rfl | rfl
  · exact toLower_of_isLower small
  · rfl
  · rfl

/-! ## What a line is taken for -/

theorem prefix_chars_iff {start : List Char} (plain : ' ' ∉ start) :
    start <+: line.chars ↔ start <+: line.name.chars :=
  prefix_append_cons_iff plain

theorem word_prefix_chars_iff {start : List Char} (plain : ' ' ∉ start) (rest : List Char) :
    start ++ ' ' :: rest <+: line.chars ↔
      start = line.name.chars ∧ rest <+: ':' :: ' ' :: line.typeName.chars :=
  append_cons_prefix_append_cons_iff plain (SmallWord.not_mem_chars (by decide))

theorem hasStart_eq_false (line : BodyLine) {c : Char} (other : c.isLower = false)
    (start : List Char) : hasStart (c :: start) line.chars = false := by
  rw [Bool.eq_false_iff, Ne, hasStart_iff]
  rintro ⟨rest, same⟩
  have head : line.chars.head? = some c := by
    rw [← same]
    rfl
  exact Bool.false_ne_true (other.symm.trans (isLower_of_head? head))

theorem hasStart_alone (line : BodyLine) (start : String) (plain : ' ' ∉ start.toList) :
    hasStart start.toList line.chars = hasStart start.toList line.name.text.toList := by
  rw [Bool.eq_iff_iff, hasStart_iff, hasStart_iff, prefix_chars_iff plain]
  rfl

theorem hasStart_word (line : BodyLine) (start : String) (plain : ' ' ∉ start.toList) :
    hasStart (start.toList ++ [' ']) line.chars = decide (line.name.text = start) := by
  rw [Bool.eq_iff_iff, hasStart_iff, word_prefix_chars_iff plain, decide_eq_true_eq]
  simp only [List.nil_prefix, and_true]
  exact eq_comm.trans String.toList_inj

theorem hasStart_words (start : String) (plain : ' ' ∉ start.toList) {c : Char} (other : c ≠ ':')
    (rest : List Char) : hasStart (start.toList ++ ' ' :: c :: rest) line.chars = false := by
  rw [Bool.eq_false_iff, Ne, hasStart_iff, word_prefix_chars_iff plain]
  rintro ⟨_, below⟩
  exact other (List.cons_prefix_cons.mp below).1

theorem any_directiveStarts (line : BodyLine) :
    (directiveStarts.any fun start => hasStart start.toList line.chars) =
      line.name.isDirective := by
  have skinparam := hasStart_alone line "skinparam" (by decide)
  have autonumber := hasStart_alone line "autonumber" (by decide)
  have hide : hasStart "hide ".toList line.chars = _ := hasStart_word line "hide" (by decide)
  have shows : hasStart "show ".toList line.chars = _ := hasStart_word line "show" (by decide)
  have scale : hasStart "scale ".toList line.chars = _ := hasStart_word line "scale" (by decide)
  have header : hasStart "header ".toList line.chars = _ := hasStart_word line "header" (by decide)
  have footer : hasStart "footer ".toList line.chars = _ := hasStart_word line "footer" (by decide)
  have caption : hasStart "caption ".toList line.chars = _ := hasStart_word line "caption" (by decide)
  have mark : hasStart "!".toList line.chars = false := hasStart_eq_false line (by decide) []
  have right : hasStart "left to right direction".toList line.chars = false :=
    hasStart_words "left" (by decide) (by decide : 't' ≠ ':') "o right direction".toList
  have down : hasStart "top to bottom direction".toList line.chars = false :=
    hasStart_words "top" (by decide) (by decide : 't' ≠ ':') "o bottom direction".toList
  simp only [directiveStarts, List.any_cons, List.any_nil, skinparam, autonumber, hide, shows, scale,
    header, footer, caption, mark, right, down, SmallWord.isDirective, List.mem_cons,
    List.not_mem_nil, Bool.decide_or, decide_false, Bool.or_false, Bool.false_or]
  ac_rfl

theorem titleOf?_chars (line : BodyLine) :
    titleOf? line.chars =
      if line.name.text = "title" then some (':' :: ' ' :: line.typeName.chars) else none := by
  have words : ':' :: ' ' :: line.typeName.chars = trim (' ' :: ':' :: ' ' :: line.typeName.chars) := by
    rw [trim_cons_of_isBlank (by decide)]
    refine (trim_eq_self ?_ ?_).symm
    · rintro c head
      obtain rfl := Option.some.inj head
      decide
    · intro c last
      rw [List.getLast?_cons_of_ne_nil (List.cons_ne_nil _ _),
        List.getLast?_cons_of_ne_nil line.typeName.chars_ne_nil] at last
      exact isBlank_of_isLower (line.typeName.small c (List.mem_of_getLast? last))
  unfold titleOf?
  by_cases title : line.name.text = "title"
  · have split : line.chars = "title".toList ++ ' ' :: ':' :: ' ' :: line.typeName.chars := by
      rw [chars, SmallWord.chars, title]
    rw [if_pos title, words, split, after?_append]
    rfl
  · rw [if_neg title]
    cases found : after? "title".toList line.chars with
    | none => rfl
    | some rest =>
        have split := after?_eq_some_iff.mp found
        apply if_neg
        intro blank
        cases rest with
        | nil => exact Bool.false_ne_true blank
        | cons c rest =>
            have member : c ∈ line.chars := split ▸ List.mem_append_right _ List.mem_cons_self
            rcases mem_chars member with small | rfl | rfl
            · exact Bool.false_ne_true ((isBlank_of_isLower small).symm.trans blank)
            · have here : "title".toList ++ ' ' :: rest <+: line.chars := split ▸ List.prefix_refl _
              have same := ((word_prefix_chars_iff (by decide) rest).mp here).1
              exact title (String.toList_inj.mp same.symm)
            · have colon : isBlank ':' = true := blank
              exact absurd colon (by decide)

/-- What a line of a body is taken for before it is read. -/
theorem role_chars (line : BodyLine) :
    LineRole.of line.chars =
      if line.name.isDirective then .directive
      else if line.name.text = "title" then .title (": " ++ line.typeName.text)
      else .content := by
  have starts : hasStart "@start".toList line.chars = false := hasStart_eq_false line (by decide) _
  have ends : hasStart "@end".toList line.chars = false := hasStart_eq_false line (by decide) _
  have open_ : hasEnd ['{'] line.chars = false := by
    rw [Bool.eq_false_iff, Ne, hasEnd_iff]
    intro last
    exact not_mem_chars (by decide) (by decide) (by decide) (last.subset (List.mem_singleton_self '{'))
  have words : String.ofList (':' :: ' ' :: line.typeName.chars) = ": " ++ line.typeName.text := by
    rw [← String.toList_inj, String.toList_ofList, String.toList_append]
    rfl
  unfold LineRole.of
  simp only [lower_chars, starts, ends, open_, any_directiveStarts, titleOf?_chars, Bool.or_false,
    Bool.and_false, Bool.false_eq_true, if_false]
  split
  · rfl
  · by_cases title : line.name.text = "title"
    · rw [if_pos title, if_pos title]
      exact congrArg LineRole.title words
    · rw [if_neg title, if_neg title]

/-! ## What becomes of lines -/

/-- Whether a line reaches a reader. -/
def isContent (line : BodyLine) : Bool :=
  !line.name.isDirective && line.name.text ≠ "title"

/-- The title that a line gives. -/
def title? (line : BodyLine) : Option String :=
  if line.name.text = "title" then some (": " ++ line.typeName.text) else none

/-- The title that lines give: that of the last one that gives one. -/
def lastTitle? (lines : List BodyLine) : Option String :=
  (lines.filterMap title?).getLast?

theorem lastTitle?_cons (line : BodyLine) (lines : List BodyLine) :
    lastTitle? (line :: lines) = (lastTitle? lines).or line.title? := by
  unfold lastTitle?
  cases title : line.title? with
  | none => rw [List.filterMap_cons_none title, Option.or_none]
  | some words =>
      rw [List.filterMap_cons_some title, List.getLast?_cons]
      cases (lines.filterMap title?).getLast? <;> rfl

theorem isDirective_eq_false (title : line.name.text = "title") : line.name.isDirective = false := by
  rw [SmallWord.isDirective, title]
  decide

end BodyLine

namespace Cleaning

variable {state : Cleaning}

theorem step_bodyLine (outside : state.inComment = false) (level : state.styleDepth = 0)
    (line : BodyLine) :
    state.step line.chars =
      ({ state with title := line.title?.or state.title },
        if line.isContent then some line.chars else none) := by
  have plain : ¬ opener <:+: line.chars := by
    intro inside
    exact BodyLine.not_mem_chars (by decide) (by decide) (by decide)
      (inside.subset (by decide : '/' ∈ opener))
  have same : uncomment state.inComment line.chars = (line.chars, false) := by
    rw [outside, uncomment_of_plain BodyLine.trim_chars plain]
  have head : line.chars.head? ≠ some '\'' := by
    intro quote
    exact absurd (BodyLine.isLower_of_head? quote) (by decide)
  rw [step_of_head (by rw [same]; exact BodyLine.chars_ne_nil) (by rw [same]; exact head), same]
  dsimp only
  rw [if_neg (by omega), BodyLine.role_chars, ← outside, BodyLine.title?, BodyLine.isContent]
  by_cases title : line.name.text = "title"
  · simp [BodyLine.isDirective_eq_false title, title]
  · cases directive : line.name.isDirective <;> simp [title]

theorem run_bodyLines (state : Cleaning) (outside : state.inComment = false)
    (level : state.styleDepth = 0) (number : Nat) (lines : List BodyLine) :
    ∃ kept, state.run number (lines.map BodyLine.chars) =
        ({ state with title := (BodyLine.lastTitle? lines).or state.title }, kept) ∧
      kept.map Line.chars = (lines.filter BodyLine.isContent).map BodyLine.chars := by
  induction lines generalizing state number with
  | nil => exact ⟨[], rfl, rfl⟩
  | cons line lines ih =>
      rw [List.map_cons, run_cons, step_bodyLine outside level]
      obtain ⟨kept, run, same⟩ :=
        ih { state with title := line.title?.or state.title } outside level (number + 1)
      refine ⟨_, Prod.ext ?_ rfl, ?_⟩
      · dsimp only
        rw [run, BodyLine.lastTitle?_cons, Option.or_assoc]
      · dsimp only
        rw [run, List.map_append, same]
        cases content : line.isContent with
        | true =>
            rw [List.filter_cons_of_pos content, List.map_cons]
            simp [Line.chars]
        | false =>
            rw [List.filter_cons_of_neg (Bool.eq_false_iff.mp content)]
            rfl

end Cleaning

/-- A declaration with a body on lines of its own. -/
def bodyText (head : String) (lines : List BodyLine) : String :=
  "\n".intercalate (head :: lines.map BodyLine.text ++ ["\x7d"])

namespace Source

theorem splitAt_bodyText {head : String} (oneLine : '\n' ∉ head.toList) (lines : List BodyLine) :
    splitAt '\n' (bodyText head lines).toList =
      head.toList :: lines.map BodyLine.chars ++ [['}']] := by
  have chars : (head :: lines.map BodyLine.text ++ ["\x7d"]).map String.toList =
      head.toList :: lines.map BodyLine.chars ++ [['}']] := by
    rw [List.map_append, List.map_cons, List.map_map]
    congr 2
    exact List.map_congr_left fun line _ => line.toList_text
  rw [bodyText, String.toList_intercalate, chars]
  apply splitAt_intercalate
  · exact List.append_ne_nil_of_right_ne_nil _ (List.cons_ne_nil _ _)
  · intro piece member
    rcases List.mem_append.mp member with member | last
    · rcases List.mem_cons.mp member with rfl | member
      · exact oneLine
      · obtain ⟨line, _, rfl⟩ := List.mem_map.mp member
        exact BodyLine.not_mem_chars (by decide) (by decide) (by decide)
    · rw [List.mem_singleton.mp last]
      decide

/-- The declaration, what is content of its body, and its end reach a reader. -/
theorem ofText_bodyText {head : String} (oneLine : '\n' ∉ head.toList)
    (isKept : IsKept head.toList) (plain : ¬ opener <:+: head.toList) (lines : List BodyLine) :
    ∃ kept, ofText (bodyText head lines) = ⟨kept, BodyLine.lastTitle? lines, false⟩ ∧
      kept.map Line.chars =
        head.toList :: (lines.filter BodyLine.isContent).map BodyLine.chars ++ [['}']] := by
  have last : IsKept ['}'] := ⟨by decide, by decide, by decide, by decide⟩
  obtain ⟨kept, run, same⟩ := Cleaning.run_bodyLines {} rfl rfl 2 lines
  rw [ofText, splitAt_bodyText oneLine, List.cons_append, Cleaning.run_cons,
    Cleaning.step_of_isKept rfl rfl isKept plain, Cleaning.run_append, run, Cleaning.run_cons,
    Cleaning.step_of_isKept rfl rfl last (by decide)]
  refine ⟨_, congrArg (Source.mk _ · false) (Option.or_none), ?_⟩
  simp only [List.map_append, same]
  simp [Line.chars, Cleaning.run]

end Source

end DiagramMarkup
