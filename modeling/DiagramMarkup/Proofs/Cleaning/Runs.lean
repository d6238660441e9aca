import DiagramMarkup.Proofs.Cleaning.Comments

/-! # Runs over raw lines

What a step keeps is a line that would be kept again, and what a run keeps comes from its steps, each
under the number of its raw line.
-/

namespace DiagramMarkup

open Text

/-- The texts of the lines of a source. -/
def Source.texts (source : Source) : List String :=
  source.lines.map Line.text

/-- A text that is kept as a line where no block comment and no block of settings is open, provided
that nothing is taken out of it. -/
structure IsKept (text : List Char) : Prop where
  trimmed : trim text = text
  notEmpty : text ≠ []
  head : text.head? ≠ some '\''
  content : LineRole.of text = .content

namespace Cleaning

variable {state : Cleaning} {raw text : List Char} {raws : List (List Char)} {number : Nat}
  {line : Line}

/-! ## Steps -/

theorem step_of_head (notEmpty : (uncomment state.inComment raw).1 ≠ [])
    (head : (uncomment state.inComment raw).1.head? ≠ some '\'') :
    state.step raw =
      let (text, inComment) := uncomment state.inComment raw
      if state.styleDepth > 0 then
        ({ state with
          inComment
          styleDepth := state.styleDepth + count '{' text - count '}' text }, none)
      else
        match LineRole.of text with
        | .marker mindMap =>
          ({ state with inComment, mindMapMarker := state.mindMapMarker || mindMap }, none)
        | .styleBlock => ({ state with inComment, styleDepth := 1 }, none)
        | .directive => ({ state with inComment }, none)
        | .title words => ({ state with inComment, title := some words }, none)
        | .content => ({ state with inComment }, some text) := by
  unfold step
  generalize uncomment state.inComment raw = found at *
  obtain ⟨text, inComment⟩ := found
  dsimp only at *
  split
  · exact absurd rfl notEmpty
  · exact absurd rfl head
  · rfl

theorem step_of_comment (comment : (uncomment state.inComment raw).1 = [] ∨
      (uncomment state.inComment raw).1.head? = some '\'') :
    state.step raw = ({ state with inComment := (uncomment state.inComment raw).2 }, none) := by
  unfold step
  generalize uncomment state.inComment raw = found at *
  obtain ⟨text, inComment⟩ := found
  dsimp only at *
  rcases comment with rfl | head
  · rfl
  · obtain ⟨rest, rfl⟩ := List.head?_eq_some_iff.mp head
    rfl

theorem eq_of_step (kept : (state.step raw).2 = some text) :
    (uncomment state.inComment raw).1 = text ∧ IsKept text := by
  by_cases comment : (uncomment state.inComment raw).1 = [] ∨
      (uncomment state.inComment raw).1.head? = some '\''
  · rw [step_of_comment comment] at kept
    exact nomatch kept
  · rw [not_or] at comment
    rw [step_of_head comment.1 comment.2] at kept
    dsimp only at kept
    split at kept
    · exact nomatch kept
    · split at kept
      case h_5 content =>
        cases kept
        exact ⟨rfl, trim_uncomment _ _, comment.1, comment.2, content⟩
      all_goals exact nomatch kept

/-- A line that was kept is kept again, if it has no opening of a comment. -/
theorem step_of_isKept (outside : state.inComment = false) (level : state.styleDepth = 0)
    (isKept : IsKept text) (plain : ¬ opener <:+: text) : state.step text = (state, some text) := by
  have same : uncomment state.inComment text = (text, false) := by
    rw [outside, uncomment_of_plain isKept.trimmed plain]
  rw [step_of_head (by rw [same]; exact isKept.notEmpty) (by rw [same]; exact isKept.head), same]
  dsimp only
  rw [if_neg (by omega), isKept.content, ← outside]

/-! ## Runs -/

theorem run_cons (state : Cleaning) (number : Nat) (raw : List Char) (raws : List (List Char)) :
    state.run number (raw :: raws) =
      (((state.step raw).1.run (number + 1) raws).1,
        ((state.step raw).2.map fun text => ⟨number, String.ofList text⟩).toList ++
          ((state.step raw).1.run (number + 1) raws).2) := by
  rw [run]
  dsimp only
  cases (state.step raw).2 <;> rfl

theorem run_append (state : Cleaning) (number : Nat) (raws others : List (List Char)) :
    state.run number (raws ++ others) =
      (((state.run number raws).1.run (number + raws.length) others).1,
        (state.run number raws).2 ++
          ((state.run number raws).1.run (number + raws.length) others).2) := by
  induction raws generalizing state number with
  | nil => rfl
  | cons raw raws ih =>
      have place : number + 1 + raws.length = number + (raws.length + 1) := by omega
      rw [List.cons_append, run_cons, run_cons, ih, place, List.length_cons]
      dsimp only
      rw [List.append_assoc]

/-- Every line that is kept was kept by a step, at the place that its number tells. -/
theorem exists_step_of_mem_run (member : line ∈ (state.run number raws).2) :
    ∃ place raw, raws[place]? = some raw ∧ line.number = number + place ∧
      ∃ before : Cleaning, (before.step raw).2 = some line.chars := by
  induction raws generalizing state number with
  | nil => exact nomatch member
  | cons raw raws ih =>
      rw [run_cons] at member
      rcases List.mem_append.mp member with here | later
      · obtain ⟨text, kept, rfl⟩ := Option.map_eq_some_iff.mp (Option.mem_toList.mp here)
        refine ⟨0, raw, rfl, rfl, state, ?_⟩
        rw [kept, Line.chars, String.toList_ofList]
      · obtain ⟨place, other, there, numbered, kept⟩ := ih later
        exact ⟨place + 1, other, there, by omega, kept⟩

theorem number_of_mem_run (member : line ∈ (state.run number raws).2) :
    number ≤ line.number ∧ line.number < number + raws.length := by
  obtain ⟨place, raw, there, numbered, _⟩ := exists_step_of_mem_run member
  have inside := (List.getElem?_eq_some_iff.mp there).1
  omega

theorem isKept_of_mem_run (member : line ∈ (state.run number raws).2) : IsKept line.chars := by
  obtain ⟨_, _, _, _, _, kept⟩ := exists_step_of_mem_run member
  exact (eq_of_step kept).2

end Cleaning

end DiagramMarkup
