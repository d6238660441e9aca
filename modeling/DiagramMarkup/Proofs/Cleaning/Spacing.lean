import DiagramMarkup.Proofs.Cleaning.LineComments
import Mathlib.Logic.Relation

/-! # Blank lines and blanks at the ends of lines

A raw line is trimmed before anything else is done with it, and one without text changes no state. So a
text can be spaced in any way: what is read from it are the same lines, each under the number that it
has in the changed text.
-/

namespace DiagramMarkup

open Text

/-- The lines of a text, as it is written. -/
def rawLines (text : String) : List (List Char) :=
  splitAt '\n' text.toList

/-! ## Changes of spacing -/

/-- Blanks other than line feeds. -/
def IsSpace (s : List Char) : Prop :=
  ∀ c ∈ s, isBlank c = true ∧ c ≠ '\n'

theorem isSpace_singleton {c : Char} (blank : isBlank c = true) (other : c ≠ '\n') : IsSpace [c] :=
  List.forall_mem_singleton.mpr ⟨blank, other⟩

/-- What stands behind a text is the start of a line. -/
def StartsLine (front : List Char) : Prop :=
  front = [] ∨ ∃ above, front = above ++ ['\n']

/-- What stands in front of a text is the end of a line. -/
def EndsLine (back : List Char) : Prop :=
  back = [] ∨ ∃ below, back = '\n' :: below

/-- One change of the spacing of a text. -/
inductive SpacingEdit : List Char → List Char → Prop
  | lineAbove {front back s : List Char} : StartsLine front → IsSpace s →
      SpacingEdit (front ++ back) (front ++ (s ++ '\n' :: back))
  | lineBelow {front back s : List Char} : EndsLine back → IsSpace s →
      SpacingEdit (front ++ back) (front ++ '\n' :: (s ++ back))
  | add {front back s : List Char} : StartsLine front ∨ EndsLine back → IsSpace s →
      SpacingEdit (front ++ back) (front ++ (s ++ back))
  | remove {front back s : List Char} : StartsLine front ∨ EndsLine back → IsSpace s →
      SpacingEdit (front ++ (s ++ back)) (front ++ back)
  | carriageReturn (front back : List Char) :
      SpacingEdit (front ++ '\n' :: back) (front ++ '\r' :: '\n' :: back)

/-- Every line of a text has a number in the changed text, in the same order, and stands there with
the same words. -/
structure MovesLines (f : Nat → Nat) (text changed : String) : Prop where
  ordered : ∀ m n, 0 < m → m < n → f m < f n
  same : ∀ place raw, (rawLines text)[place]? = some raw →
    ∃ place' raw', f (place + 1) = place' + 1 ∧ (rawLines changed)[place']? = some raw' ∧
      trim raw' = trim raw

/-! ## Lines under changes -/

/-- Lines that differ in the blanks at their ends alone. -/
def SameWords : List (List Char) → List (List Char) → Prop :=
  List.Forall₂ fun raw raw' => trim raw' = trim raw

namespace SameWords

variable {raws raws' others others' : List (List Char)}

theorem refl (raws : List (List Char)) : SameWords raws raws :=
  List.forall₂_same.mpr fun _ _ => rfl

theorem symm (same : SameWords raws raws') : SameWords raws' raws :=
  same.flip.imp fun _ _ => Eq.symm

theorem append (above : SameWords raws raws') (below : SameWords others others') :
    SameWords (raws ++ others) (raws' ++ others') :=
  List.rel_append above below

end SameWords

/-- Lines that differ in the blanks at their ends, with blank lines put between them. -/
inductive Respaced : List (List Char) → List (List Char) → Prop
  | nil : Respaced [] []
  | line {raw raw' : List Char} {raws raws' : List (List Char)} : trim raw' = trim raw →
      Respaced raws raws' → Respaced (raw :: raws) (raw' :: raws')
  | blank {raw' : List Char} {raws raws' : List (List Char)} : trim raw' = [] →
      Respaced raws raws' → Respaced raws (raw' :: raws')

namespace Respaced

variable {raws raws' raws'' others others' : List (List Char)}

theorem of_sameWords (same : SameWords raws raws') : Respaced raws raws' := by
  induction same with
  | nil => exact .nil
  | cons first _ ih => exact .line first ih

theorem refl (raws : List (List Char)) : Respaced raws raws := by
  induction raws with
  | nil => exact .nil
  | cons raw raws ih => exact .line rfl ih

theorem append (above : Respaced raws raws') (below : Respaced others others') :
    Respaced (raws ++ others) (raws' ++ others') := by
  induction above with
  | nil => exact below
  | line same _ ih => exact .line same ih
  | blank empty _ ih => exact .blank empty ih

theorem trans (first : Respaced raws raws') (second : Respaced raws' raws'') :
    Respaced raws raws'' := by
  induction second generalizing raws with
  | nil => exact first
  | line same _ ih =>
      cases first with
      | line same' rest => exact .line (same.trans same') (ih rest)
      | blank empty rest => exact .blank (same.trans empty) (ih rest)
  | blank empty _ ih => exact .blank empty (ih first)

end Respaced

namespace IsSpace

variable {s : List Char}

theorem not_mem (space : IsSpace s) : '\n' ∉ s :=
  fun member => (space '\n' member).2 rfl

theorem trim_append_left (space : IsSpace s) (t : List Char) : trim (s ++ t) = trim t := by
  induction s with
  | nil => rfl
  | cons c s ih =>
      obtain ⟨⟨blank, _⟩, space⟩ := List.forall_mem_cons.mp space
      rw [List.cons_append, trim_cons_of_isBlank blank]
      exact ih space

theorem trim_append_right (space : IsSpace s) (t : List Char) : trim (t ++ s) = trim t := by
  induction s generalizing t with
  | nil => rw [List.append_nil]
  | cons c s ih =>
      obtain ⟨⟨blank, _⟩, space⟩ := List.forall_mem_cons.mp space
      rw [List.append_cons, ih space, trim_concat_of_isBlank blank]

theorem trim_eq_nil (space : IsSpace s) : trim s = [] := by
  have empty := space.trim_append_left []
  rwa [List.append_nil] at empty

theorem sameWords_splitAt_left (space : IsSpace s) (back : List Char) :
    SameWords (splitAt '\n' back) (splitAt '\n' (s ++ back)) := by
  have first : ∃ line lines, splitAt '\n' back = line :: lines ∧
      splitAt '\n' (s ++ back) = (s ++ line) :: lines := by
    have plain := space.not_mem
    clear space
    induction s with
    | nil =>
        obtain ⟨line, lines, pieces⟩ := List.exists_cons_of_ne_nil (splitAt_ne_nil '\n' back)
        exact ⟨line, lines, pieces, pieces⟩
    | cons c s ih =>
        obtain ⟨other, plain⟩ := not_or.mp (List.mem_cons.not.mp plain)
        obtain ⟨line, lines, pieces, more⟩ := ih plain
        refine ⟨line, lines, pieces, ?_⟩
        rw [List.cons_append, splitAt, if_neg (Ne.symm other), more]
        rfl
  obtain ⟨line, lines, pieces, more⟩ := first
  rw [pieces, more]
  exact .cons (space.trim_append_left line) (SameWords.refl lines)

theorem sameWords_splitAt_right (space : IsSpace s) (front : List Char) :
    SameWords (splitAt '\n' front) (splitAt '\n' (front ++ s)) := by
  have last : ∃ lines line, splitAt '\n' front = lines ++ [line] ∧
      splitAt '\n' (front ++ s) = lines ++ [line ++ s] := by
    induction front with
    | nil => exact ⟨[], [], rfl, splitAt_of_not_mem space.not_mem⟩
    | cons c front ih =>
        obtain ⟨lines, line, pieces, more⟩ := ih
        rw [List.cons_append, splitAt, splitAt, pieces, more]
        split
        · exact ⟨[] :: lines, line, rfl, rfl⟩
        · cases lines with
          | nil => exact ⟨[], c :: line, rfl, rfl⟩
          | cons first lines => exact ⟨(c :: first) :: lines, line, rfl, rfl⟩
  obtain ⟨lines, line, pieces, more⟩ := last
  rw [pieces, more]
  exact (SameWords.refl lines).append (.cons (space.trim_append_right line) .nil)

end IsSpace

/-- The lines in front of the start of a line do not depend on what stands behind it. -/
theorem StartsLine.exists_splitAt {front : List Char} (starts : StartsLine front) :
    ∃ above, ∀ back, splitAt '\n' (front ++ back) = above ++ splitAt '\n' back := by
  rcases starts with rfl | ⟨above, rfl⟩
  · exact ⟨[], fun _ => rfl⟩
  · refine ⟨splitAt '\n' above, fun back => ?_⟩
    rw [List.append_assoc]
    exact splitAt_append above back

theorem EndsLine.exists_splitAt {back : List Char} (ends : EndsLine back) :
    ∃ below, ∀ front, splitAt '\n' (front ++ back) = splitAt '\n' front ++ below := by
  rcases ends with rfl | ⟨below, rfl⟩
  · exact ⟨[], fun front => by rw [List.append_nil, List.append_nil]⟩
  · exact ⟨splitAt '\n' below, fun front => splitAt_append front below⟩

/-- Blanks at an end of a line change nothing else. -/
theorem sameWords_splitAt {front back s : List Char} (atEnd : StartsLine front ∨ EndsLine back)
    (space : IsSpace s) :
    SameWords (splitAt '\n' (front ++ back)) (splitAt '\n' (front ++ (s ++ back))) := by
  rcases atEnd with starts | ends
  · obtain ⟨above, lines⟩ := starts.exists_splitAt
    rw [lines, lines]
    exact (SameWords.refl above).append (space.sameWords_splitAt_left back)
  · obtain ⟨below, lines⟩ := ends.exists_splitAt
    rw [← List.append_assoc, lines, lines]
    exact (space.sameWords_splitAt_right front).append (.refl below)

theorem SpacingEdit.respaced {text changed : List Char} (edit : SpacingEdit text changed) :
    Respaced (splitAt '\n' text) (splitAt '\n' changed) := by
  cases edit with
  | @lineAbove front back s starts space =>
      obtain ⟨above, lines⟩ := starts.exists_splitAt
      rw [lines, lines, splitAt_append_cons space.not_mem]
      exact (Respaced.refl above).append (.blank space.trim_eq_nil (.refl _))
  | @lineBelow front back s ends space =>
      obtain ⟨below, lines⟩ := ends.exists_splitAt
      rw [splitAt_append, lines, lines, splitAt_of_not_mem space.not_mem]
      exact (Respaced.refl _).append (.blank space.trim_eq_nil (.refl below))
  | add atEnd space => exact .of_sameWords (sameWords_splitAt atEnd space)
  | remove atEnd space => exact .of_sameWords (sameWords_splitAt atEnd space).symm
  | carriageReturn front back =>
      have space : IsSpace ['\r'] := isSpace_singleton (by decide) (by decide)
      exact .of_sameWords (sameWords_splitAt (.inr (.inr ⟨back, rfl⟩)) space)

theorem respaced_of_edits {text changed : List Char}
    (edits : Relation.ReflTransGen SpacingEdit text changed) :
    Respaced (splitAt '\n' text) (splitAt '\n' changed) := by
  induction edits with
  | refl => exact .refl _
  | tail _ edit ih => exact ih.trans edit.respaced

/-! ## Cleaning respaced lines -/

namespace Cleaning

variable {state : Cleaning} {raw raw' : List Char} {raws raws' : List (List Char)}

theorem step_eq_of_trim (same : trim raw' = trim raw) : state.step raw' = state.step raw := by
  unfold step uncomment
  rw [same]

theorem step_blank (blank : trim raw = []) : state.step raw = (state, none) := by
  have nothing : state.step [] = (state, none) := by
    obtain ⟨inComment, styleDepth, title, mindMapMarker⟩ := state
    cases inComment <;> rfl
  exact (step_eq_of_trim blank).trans nothing

/-- New numbers for lines, the first of which had one number and gets another one. -/
structure Renumbering (f : Nat → Nat) (number number' : Nat) (raws raws' : List (List Char)) :
    Prop where
  least : ∀ n, number ≤ n → number' ≤ f n
  ordered : ∀ m n, number ≤ m → m < n → f m < f n
  same : ∀ place raw, raws[place]? = some raw → ∃ place' raw', f (number + place) = number' + place' ∧
    raws'[place']? = some raw' ∧ trim raw' = trim raw
  run : ∀ state : Cleaning, state.run number' raws' =
    ((state.run number raws).1, (state.run number raws).2.map (Line.renumber f))

namespace Renumbering

variable {f : Nat → Nat} {number number' : Nat}

/-- A line that differs in the blanks at its ends gets the new number. -/
theorem line (below : Renumbering f (number + 1) (number' + 1) raws raws')
    (same : trim raw' = trim raw) :
    Renumbering (Function.update f number number') number number' (raw :: raws) (raw' :: raws') := by
  have own : Function.update f number number' number = number' := Function.update_self ..
  have later {n : Nat} (behind : number < n) : Function.update f number number' n = f n :=
    Function.update_of_ne (Nat.ne_of_gt behind) ..
  constructor
  case least =>
    intro n reached
    rcases Nat.eq_or_lt_of_le reached with rfl | behind
    · exact own.ge
    · rw [later behind]
      exact Nat.le_of_succ_le (below.least n behind)
  case ordered =>
    intro m n reached less
    rw [later (Nat.lt_of_le_of_lt reached less)]
    rcases Nat.eq_or_lt_of_le reached with rfl | behind
    · rw [own]
      exact below.least n less
    · rw [later behind]
      exact below.ordered m n behind less
  case same =>
    intro place other here
    cases place with
    | zero =>
        obtain rfl := Option.some.inj here
        exact ⟨0, raw', own, rfl, same⟩
    | succ place =>
        obtain ⟨place', other', moved, there, same⟩ := below.same place other here
        refine ⟨place' + 1, other', ?_, there, same⟩
        rw [later (by omega)]
        have shifted : number + (place + 1) = number + 1 + place := by omega
        rw [shifted, moved]
        omega
  case run =>
    intro state
    rw [run_cons, run_cons, step_eq_of_trim same, below.run, List.map_append]
    have kept : ∀ line ∈ ((state.step raw).1.run (number + 1) raws).2,
        line.renumber f = line.renumber (Function.update f number number') := by
      intro line member
      have behind := (number_of_mem_run member).1
      rw [Line.renumber, Line.renumber, later behind]
    rw [List.map_congr_left kept]
    cases (state.step raw).2 with
    | none => rfl
    | some text =>
        exact congrArg (fun n => (_, Line.mk n (String.ofList text) :: _)) own.symm

theorem blank (below : Renumbering f number (number' + 1) raws raws') (empty : trim raw' = []) :
    Renumbering f number number' raws (raw' :: raws') where
  least := fun n reached => Nat.le_of_succ_le (below.least n reached)
  ordered := below.ordered
  same := by
    intro place other here
    obtain ⟨place', other', moved, there, same⟩ := below.same place other here
    exact ⟨place' + 1, other', by omega, there, same⟩
  run := by
    intro state
    rw [run_cons, step_blank empty, below.run]
    rfl

end Renumbering

theorem exists_renumbering (respaced : Respaced raws raws') (number number' : Nat) :
    ∃ f, Renumbering f number number' raws raws' := by
  induction respaced generalizing number number' with
  | nil =>
      refine ⟨(· + number'), ?_, ?_, ?_, ?_⟩
      · exact fun n _ => Nat.le_add_left number' n
      · exact fun m n _ less => Nat.add_lt_add_right less number'
      · exact fun _ _ here => nomatch here
      · exact fun _ => rfl
  | line same _ ih =>
      obtain ⟨f, below⟩ := ih (number + 1) (number' + 1)
      exact ⟨_, below.line same⟩
  | blank empty _ ih =>
      obtain ⟨f, below⟩ := ih number (number' + 1)
      exact ⟨f, below.blank empty⟩

end Cleaning

/-! ## In a text -/

namespace Source

/-- However the blank lines of a text and the blanks at the ends of its lines are changed, the kind, the
title and the diagram that are read from it stay the same, and so does everything that is said about
its lines, each of which has the number that it got in the changed text. -/
theorem renumbers_of_spacing {text changed : String}
    (edits : Relation.ReflTransGen SpacingEdit text.toList changed.toList) :
    ∃ f, MovesLines f text changed ∧ Renumbers f text changed := by
  obtain ⟨f, moved⟩ := Cleaning.exists_renumbering (respaced_of_edits edits) 1 1
  refine ⟨f, ⟨moved.ordered, ?_⟩, .of_source ?_⟩
  · intro place raw here
    obtain ⟨place', raw', number, there, same⟩ := moved.same place raw here
    rw [Nat.add_comm 1, Nat.add_comm 1] at number
    exact ⟨place', raw', number, there, same⟩
  · unfold ofText
    rw [moved.run]
    rfl

/-- A blank goes, a carriage return and a blank line come, and the line that cannot be read moves. -/
theorem renumbers_of_spacing_class :
    Relation.ReflTransGen SpacingEdit "class A \n?".toList "class A\r\n\t\n?".toList ∧
      ∃ f, MovesLines f "class A \n?" "class A\r\n\t\n?" ∧
        Renumbers f "class A \n?" "class A\r\n\t\n?" := by
  have removed : SpacingEdit "class A \n?".toList "class A\n?".toList :=
    @SpacingEdit.remove "class A".toList ['\n', '?'] [' '] (.inr (.inr ⟨['?'], rfl⟩))
      (isSpace_singleton (by decide) (by decide))
  have returned : SpacingEdit "class A\n?".toList "class A\r\n?".toList :=
    .carriageReturn "class A".toList ['?']
  have opened : SpacingEdit "class A\r\n?".toList "class A\r\n\t\n?".toList :=
    @SpacingEdit.lineAbove "class A\r\n".toList ['?'] ['\t'] (.inr ⟨"class A\r".toList, rfl⟩)
      (isSpace_singleton (by decide) (by decide))
  have edits := ((Relation.ReflTransGen.single removed).tail returned).tail opened
  exact ⟨edits, renumbers_of_spacing edits⟩

end Source

end DiagramMarkup
