import DiagramMarkup.Proofs.Cleaning.Runs
import DiagramMarkup.Proofs.Renumbering.Sources

/-! # Line comments

A line comment outside of block comments takes nothing away and adds nothing: the lines below it move
down by one, and that is all. But block comments come first. Where a line comment has an opening that
is not closed on it, it opens a block comment as the opening alone would.
-/

namespace DiagramMarkup

open Text

/-- A line whose first character, blanks apart, is an apostrophe. -/
structure IsLineComment (line : String) : Prop where
  oneLine : '\n' ∉ line.toList
  first : line.toList.find? (fun c => !isBlank c) = some '\''

/-- No block comment is open after the lines of a text. -/
def OutsideComments (front : String) : Prop :=
  (({} : Cleaning).run 1 (splitAt '\n' front.toList)).1.inComment = false

instance (front : String) : Decidable (OutsideComments front) :=
  inferInstanceAs (Decidable (_ = false))

/-- Whether a line opens a block comment and does not close it: behind its first opening stands no
closing. -/
def opensComment (line : String) : Bool :=
  match cut opener (trim line.toList) with
  | none => false
  | some (_, rest) => !contains closer rest

/-- The number that a line of a text has where one more line stands below the first lines. -/
def shiftBehind (front : String) (number : Nat) : Nat :=
  if number ≤ (splitAt '\n' front.toList).length then number else number + 1

/-- A text that was changed has the same lines, title and marker, with other numbers on its lines, and
so the kind and the diagram stay as they were. -/
structure Renumbers (f : Nat → Nat) (text changed : String) : Prop where
  source : Source.ofText changed = (Source.ofText text).renumber f
  kind : ({} : Engine).detect changed = ({} : Engine).detect text
  read : ∀ (strict : Bool) (kind : Option Kind),
    ({} : Engine).read strict changed kind = renumberParsed f (({} : Engine).read strict text kind)

theorem Renumbers.of_source {f : Nat → Nat} {text changed : String}
    (same : Source.ofText changed = (Source.ofText text).renumber f) : Renumbers f text changed where
  source := same
  kind := Engine.detect_eq_of_renumber same
  read := Engine.read_eq_of_renumber same

/-! ## One line comment -/

theorem uncomment_opensComment (line : String) :
    (uncomment false line.toList).2 = opensComment line := by
  have same : uncomment false line.toList = withoutComment (trim line.toList) := rfl
  rw [same, withoutComment, opensComment]
  cases cut opener (trim line.toList) with
  | none => rfl
  | some parts =>
      obtain ⟨before, rest⟩ := parts
      dsimp only
      rw [contains]
      cases cut closer rest <;> rfl

theorem head?_withoutComment {text : List Char} (head : text.head? = some '\'') :
    (withoutComment text).1.head? = some '\'' := by
  -- the opening of a block comment does not start the line
  have keeps {before behind : List Char} (split : text = before ++ opener ++ behind) :
      (trim before).head? = some '\'' := by
    cases before with
    | nil =>
        rw [split] at head
        have slash : some '/' = some '\'' := head
        exact absurd slash (by decide)
    | cons c before =>
        rw [split] at head
        obtain rfl : c = '\'' := Option.some.inj head
        rw [head?_trim]
        rfl
  rcases withoutComment_cases text with
    ⟨_, same⟩ | ⟨before, rest, split, _, same⟩ | ⟨before, inside, behind, split, _, same⟩
  all_goals rw [same]
  · exact head
  · exact keeps split
  · obtain ⟨rest, front⟩ := List.head?_eq_some_iff.mp (keeps split)
    rw [head?_trim, front]
    rfl

theorem IsLineComment.head?_uncomment {line : String} (isComment : IsLineComment line) :
    (uncomment false line.toList).1.head? = some '\'' :=
  head?_withoutComment ((head?_trim _).trans isComment.first)

namespace Cleaning

variable {state : Cleaning}

/-- Outside of block comments, a line comment may open one, and that is all it does. -/
theorem step_lineComment {line : String} (isComment : IsLineComment line)
    (outside : state.inComment = false) :
    state.step line.toList = ({ state with inComment := opensComment line }, none) := by
  have head := isComment.head?_uncomment
  rw [← outside] at head
  rw [step_of_comment (.inr head), outside, uncomment_opensComment]

theorem step_lineComment_closed {line : String} (isComment : IsLineComment line)
    (outside : state.inComment = false) (closed : opensComment line = false) :
    state.step line.toList = (state, none) := by
  rw [step_lineComment isComment outside, closed]
  obtain ⟨inComment, styleDepth, title, mindMapMarker⟩ := state
  cases outside
  rfl

theorem step_opener (outside : state.inComment = false) :
    state.step opener = ({ state with inComment := true }, none) := by
  have alone : uncomment state.inComment opener = ([], true) := by
    rw [outside]
    decide
  rw [step_of_comment (.inl (congrArg Prod.fst alone)), alone]

theorem run_add (state : Cleaning) (number : Nat) (raws : List (List Char)) (more : Nat) :
    state.run (number + more) raws =
      ((state.run number raws).1, (state.run number raws).2.map (Line.renumber (· + more))) := by
  induction raws generalizing state number with
  | nil => rfl
  | cons raw raws ih =>
      rw [run_cons, run_cons, Nat.add_right_comm, ih, List.map_append]
      cases (state.step raw).2 <;> rfl

end Cleaning

/-! ## In a text -/

namespace Source

theorem splitAt_below (front back : String) :
    splitAt '\n' (front ++ "\n" ++ back).toList =
      splitAt '\n' front.toList ++ splitAt '\n' back.toList := by
  rw [String.toList_append, String.toList_append, List.append_assoc]
  exact splitAt_append _ _

theorem splitAt_inserted (front back : String) {line : String} (oneLine : '\n' ∉ line.toList) :
    splitAt '\n' (front ++ "\n" ++ line ++ "\n" ++ back).toList =
      splitAt '\n' front.toList ++ line.toList :: splitAt '\n' back.toList := by
  rw [splitAt_below, splitAt_below, splitAt_of_not_mem oneLine, List.append_assoc]
  rfl

theorem run_inserted (front back : String) {line : String} (oneLine : '\n' ∉ line.toList)
    {before next : Cleaning}
    (reached : (({} : Cleaning).run 1 (splitAt '\n' front.toList)).1 = before)
    (step : before.step line.toList = (next, none)) :
    ({} : Cleaning).run 1 (splitAt '\n' (front ++ "\n" ++ line ++ "\n" ++ back).toList) =
      let count := (splitAt '\n' front.toList).length
      ((next.run (1 + count + 1) (splitAt '\n' back.toList)).1,
        (({} : Cleaning).run 1 (splitAt '\n' front.toList)).2 ++
          (next.run (1 + count + 1) (splitAt '\n' back.toList)).2) := by
  rw [splitAt_inserted front back oneLine, Cleaning.run_append, reached, Cleaning.run_cons, step]
  rfl

/-- A line that changes nothing moves the lines below it down by one. -/
theorem ofText_inserted (front back : String) {line : String} (oneLine : '\n' ∉ line.toList)
    (step : (({} : Cleaning).run 1 (splitAt '\n' front.toList)).1.step line.toList =
      ((({} : Cleaning).run 1 (splitAt '\n' front.toList)).1, none)) :
    ofText (front ++ "\n" ++ line ++ "\n" ++ back) =
      (ofText (front ++ "\n" ++ back)).renumber (shiftBehind front) := by
  have above : ∀ kept ∈ (({} : Cleaning).run 1 (splitAt '\n' front.toList)).2,
      kept.renumber (shiftBehind front) = kept := by
    intro kept member
    have bounds := Cleaning.number_of_mem_run member
    rw [Line.renumber, shiftBehind, if_pos (by omega)]
  have below (state : Cleaning) : ∀ kept ∈
      (state.run (1 + (splitAt '\n' front.toList).length) (splitAt '\n' back.toList)).2,
      kept.renumber (· + 1) = kept.renumber (shiftBehind front) := by
    intro kept member
    have bounds := Cleaning.number_of_mem_run member
    rw [Line.renumber, Line.renumber, shiftBehind, if_neg (by omega)]
  unfold ofText
  rw [run_inserted front back oneLine rfl step, splitAt_below, Cleaning.run_append]
  dsimp only [renumber]
  rw [Cleaning.run_add _ (1 + (splitAt '\n' front.toList).length), List.map_append,
    List.map_congr_left above, List.map_id', List.map_congr_left (below _)]

/-- Below lines that leave no block comment open, a line comment does nothing but to move the lines
below it, unless it has an opening of a block comment that it does not close. Then it does what the
opening alone would do. -/
theorem renumbers_of_lineComment (front back : String) {comment : String}
    (isComment : IsLineComment comment) (outside : OutsideComments front) :
    (opensComment comment = false →
      Renumbers (shiftBehind front) (front ++ "\n" ++ back)
        (front ++ "\n" ++ comment ++ "\n" ++ back)) ∧
    (opensComment comment = true →
      ofText (front ++ "\n" ++ comment ++ "\n" ++ back) =
        ofText (front ++ "\n" ++ "/'" ++ "\n" ++ back)) := by
  constructor
  · intro closed
    have step := Cleaning.step_lineComment_closed isComment outside closed
    exact .of_source (ofText_inserted front back isComment.oneLine step)
  · intro opens
    have step := Cleaning.step_lineComment isComment outside
    rw [opens] at step
    have oneLine : '\n' ∉ "/'".toList := by decide
    unfold ofText
    rw [run_inserted front back isComment.oneLine rfl step,
      run_inserted front back oneLine rfl (Cleaning.step_opener outside)]

theorem renumbers_of_lineComment_closed :
    IsLineComment "  ' see /' here '/ too" ∧ OutsideComments "class A /' x\n y '/" ∧
      Renumbers (shiftBehind "class A /' x\n y '/")
        ("class A /' x\n y '/" ++ "\n" ++ "class B")
        ("class A /' x\n y '/" ++ "\n" ++ "  ' see /' here '/ too" ++ "\n" ++ "class B") := by
  have isComment : IsLineComment "  ' see /' here '/ too" := ⟨by decide, by decide⟩
  have outside : OutsideComments "class A /' x\n y '/" := by decide +kernel
  exact ⟨isComment, outside,
    (renumbers_of_lineComment _ "class B" isComment outside).1 (by decide +kernel)⟩

/-- The lines below a line comment with an opening get lost. -/
theorem texts_ne_of_lineComment :
    IsLineComment "' see /' here" ∧ OutsideComments "class A" ∧
      (ofText "class A\n' see /' here\nclass B").texts ≠ (ofText "class A\nclass B").texts := by
  exact ⟨⟨by decide, by decide⟩, by decide +kernel, by decide +kernel⟩

end Source

end DiagramMarkup
