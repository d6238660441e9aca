import DiagramMarkup.Proofs.Cleaning.Runs
import DiagramMarkup.Source.Reading

/-! # Cleaning what was cleaned

A line that is kept has an opening of a block comment only where its raw line has two comments. Where
no kept line has one, cleaning them again changes nothing, and where one has, something gets lost.
-/

namespace DiagramMarkup

open Text

/-- The number of characters in some lines. -/
def charCount (lines : List Line) : Nat :=
  (lines.flatMap Line.chars).length

namespace Cleaning

variable {state : Cleaning} {raws : List (List Char)} {number : Nat}

theorem charCount_step_le (state : Cleaning) (raw : List Char) :
    charCount ((state.step raw).2.map fun text => Line.mk number (String.ofList text)).toList ≤
      raw.length := by
  cases kept : (state.step raw).2 with
  | none => exact Nat.zero_le _
  | some text =>
      rw [← (eq_of_step kept).1]
      simpa [charCount, Line.chars] using length_uncomment_le state.inComment raw

theorem charCount_step_lt {raw : List Char} (trimmed : trim raw = raw) (opens : opener <:+: raw) :
    charCount ((state.step raw).2.map fun text => Line.mk number (String.ofList text)).toList <
      raw.length := by
  cases kept : (state.step raw).2 with
  | none => exact Nat.lt_of_lt_of_le (Nat.zero_lt_two : 0 < opener.length) opens.length_le
  | some text =>
      rw [← (eq_of_step kept).1]
      simpa [charCount, Line.chars] using
        length_uncomment_lt state.inComment trimmed opens

theorem charCount_run_le (state : Cleaning) (number : Nat) (raws : List (List Char)) :
    charCount (state.run number raws).2 ≤ raws.flatten.length := by
  induction raws generalizing state number with
  | nil => exact Nat.le_refl 0
  | cons raw raws ih =>
      rw [run_cons, charCount, List.flatMap_append, List.length_append, List.flatten_cons,
        List.length_append]
      exact Nat.add_le_add (charCount_step_le state raw) (ih _ _)

theorem charCount_run_lt (state : Cleaning) (number : Nat)
    (trimmed : ∀ raw ∈ raws, trim raw = raw) (opens : ∃ raw ∈ raws, opener <:+: raw) :
    charCount (state.run number raws).2 < raws.flatten.length := by
  induction raws generalizing state number with
  | nil => exact nomatch opens
  | cons raw raws ih =>
      obtain ⟨first, others⟩ := List.forall_mem_cons.mp trimmed
      rw [run_cons, charCount, List.flatMap_append, List.length_append, List.flatten_cons,
        List.length_append]
      obtain ⟨other, member, here⟩ := opens
      rcases List.mem_cons.mp member with rfl | later
      · exact Nat.add_lt_add_of_lt_of_le (charCount_step_lt first here) (charCount_run_le _ _ _)
      · exact Nat.add_lt_add_of_le_of_lt (charCount_step_le state raw) (ih _ _ others ⟨_, later, here⟩)

/-- Lines that were kept are all kept again, if none has an opening of a comment. -/
theorem texts_run (outside : state.inComment = false) (level : state.styleDepth = 0)
    (isKept : ∀ raw ∈ raws, IsKept raw) (plain : ∀ raw ∈ raws, ¬ opener <:+: raw) :
    (state.run number raws).2.map Line.text = raws.map String.ofList := by
  induction raws generalizing number with
  | nil => rfl
  | cons raw raws ih =>
      obtain ⟨first, others⟩ := List.forall_mem_cons.mp isKept
      obtain ⟨plain, none⟩ := List.forall_mem_cons.mp plain
      rw [run_cons, step_of_isKept outside level first plain, List.map_append, ih others none]
      rfl

end Cleaning

namespace Source

variable {text : String} {line : Line}

theorem isKept_of_mem (member : line ∈ (ofText text).lines) : IsKept line.chars :=
  Cleaning.isKept_of_mem_run member

theorem exists_raw_of_mem (member : line ∈ (ofText text).lines) :
    ∃ raw, (splitAt '\n' text.toList)[line.number - 1]? = some raw ∧
      ∃ before : Cleaning, (before.step raw).2 = some line.chars := by
  obtain ⟨place, raw, there, numbered, kept⟩ := Cleaning.exists_step_of_mem_run member
  refine ⟨raw, ?_, kept⟩
  rw [numbered, Nat.add_sub_cancel_left]
  exact there

theorem oneLine_of_mem (member : line ∈ (ofText text).lines) : '\n' ∉ line.chars := by
  obtain ⟨raw, there, before, kept⟩ := exists_raw_of_mem member
  have plain := not_mem_of_mem_splitAt (List.mem_of_getElem? there)
  rw [← (Cleaning.eq_of_step kept).1]
  intro here
  exact (mem_of_mem_uncomment here).elim plain (by decide)

theorem splitAt_joinTexts {lines : List Line} (some : lines ≠ [])
    (oneLine : ∀ line ∈ lines, '\n' ∉ line.chars) :
    splitAt '\n' (joinTexts lines).toList = lines.map Line.chars := by
  rw [joinTexts, String.toList_intercalate, List.map_map]
  apply splitAt_intercalate
  · simpa using some
  · exact List.forall_mem_map.mpr oneLine

theorem ofText_joinTexts_nil : ofText (joinTexts []) = ⟨[], none, false⟩ :=
  rfl

theorem texts_ofText_joinTexts {lines : List Line} (oneLine : ∀ line ∈ lines, '\n' ∉ line.chars)
    (isKept : ∀ line ∈ lines, IsKept line.chars) (plain : ∀ line ∈ lines, ¬ opener <:+: line.chars) :
    (ofText (joinTexts lines)).texts = lines.map Line.text := by
  by_cases empty : lines = []
  · rw [empty, ofText_joinTexts_nil]
    rfl
  · rw [texts, ofText, splitAt_joinTexts empty oneLine]
    dsimp only
    rw [Cleaning.texts_run rfl rfl (List.forall_mem_map.mpr isKept) (List.forall_mem_map.mpr plain),
      List.map_map]
    apply List.map_congr_left
    intro line _
    exact String.ofList_toList

theorem charCount_ofText_joinTexts_lt {lines : List Line}
    (oneLine : ∀ line ∈ lines, '\n' ∉ line.chars) (isKept : ∀ line ∈ lines, IsKept line.chars)
    (opens : ∃ line ∈ lines, opener <:+: line.chars) :
    charCount (ofText (joinTexts lines)).lines < charCount lines := by
  obtain ⟨line, member, here⟩ := opens
  rw [ofText, splitAt_joinTexts (List.ne_nil_of_mem member) oneLine]
  have less := Cleaning.charCount_run_lt {} 1
    (List.forall_mem_map.mpr fun line member => (isKept line member).trimmed)
    ⟨_, List.mem_map_of_mem member, here⟩
  exact less

theorem charCount_eq_of_texts {lines others : List Line}
    (same : lines.map Line.text = others.map Line.text) : charCount lines = charCount others := by
  have counted (lines : List Line) :
      charCount lines = ((lines.map Line.text).flatMap String.toList).length := by
    rw [List.flatMap_map]
    rfl
  rw [counted, counted, same]

/-- A kept line has an opening of a block comment only where its raw line closes one comment and opens
another. Cleaning the kept lines again keeps their texts just where none of them has an opening. -/
theorem opener_of_ofText (text : String) :
    (∀ line ∈ (ofText text).lines, opener <:+: line.chars →
      ∃ raw, (splitAt '\n' text.toList)[line.number - 1]? = some raw ∧ ReopensComment raw) ∧
    ((ofText (joinTexts (ofText text).lines)).texts = (ofText text).texts ↔
      ∀ line ∈ (ofText text).lines, ¬ opener <:+: line.chars) := by
  have oneLine : ∀ line ∈ (ofText text).lines, '\n' ∉ line.chars := fun _ => oneLine_of_mem
  have isKept : ∀ line ∈ (ofText text).lines, IsKept line.chars := fun _ => isKept_of_mem
  refine ⟨?_, ?_, texts_ofText_joinTexts oneLine isKept⟩
  · intro line member opens
    obtain ⟨raw, there, before, kept⟩ := exists_raw_of_mem member
    rw [← (Cleaning.eq_of_step kept).1] at opens
    exact ⟨raw, there, reopens_of_infix_uncomment opens⟩
  · intro same line member opens
    have less := charCount_ofText_joinTexts_lt oneLine isKept ⟨line, member, opens⟩
    exact absurd (charCount_eq_of_texts same) (Nat.ne_of_lt less)

/-- The second comment of a line is kept, and cleaning the line again takes it out. -/
theorem second_comment_of_ofText :
    let source := ofText "a /' x '/ b /' y '/ c"
    (∃ line ∈ source.lines, opener <:+: line.chars) ∧
      (ofText (joinTexts source.lines)).texts ≠ source.texts := by
  decide +kernel

end Source

end DiagramMarkup
