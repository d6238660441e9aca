import DiagramMarkup.Proofs.Text.Blanks
import DiagramMarkup.Proofs.Text.Cutting
import DiagramMarkup.Source.Cleaning

/-! # Block comments

One block comment is taken out of a line, and before it the end of one that was open. Where a line has
another opening behind that, it stays in the text.
-/

namespace DiagramMarkup

open Text

/-- The mark that opens a block comment. -/
def opener : List Char :=
  "/'".toList

/-- The mark that closes a block comment. -/
def closer : List Char :=
  "'/".toList

/-- A block comment is closed in a text, and behind it stands another opening. -/
def ReopensComment (text : List Char) : Prop :=
  ∃ before inside behind, text = before ++ opener ++ inside ++ closer ++ behind ∧ opener <:+: behind

theorem ReopensComment.mono {part text : List Char} (reopens : ReopensComment part)
    (inside : part <:+: text) : ReopensComment text := by
  obtain ⟨before, comment, behind, rfl, later⟩ := reopens
  obtain ⟨front, back, rfl⟩ := inside
  refine ⟨front ++ before, comment, behind ++ back, ?_, later.trans (List.prefix_append _ _).isInfix⟩
  simp only [List.append_assoc]

/-! ## One comment -/

/-- A text without its first block comment, and whether that one is left open. -/
def withoutComment (text : List Char) : List Char × Bool :=
  match cut opener text with
  | none => (text, false)
  | some (before, rest) =>
    match cut closer rest with
    | none => (trim before, true)
    | some (_, behind) => (trim (trim before ++ ' ' :: trim behind), false)

/-- What becomes of a text: it has no comment, or one that is left open, or one that is closed. -/
theorem withoutComment_cases (text : List Char) :
    (¬ opener <:+: text ∧ withoutComment text = (text, false)) ∨
    (∃ before rest, text = before ++ opener ++ rest ∧ ¬ opener <:+: before ∧
      withoutComment text = (trim before, true)) ∨
    ∃ before inside behind, text = before ++ opener ++ (inside ++ closer ++ behind) ∧
      ¬ opener <:+: before ∧
        withoutComment text = (trim (trim before ++ ' ' :: trim behind), false) := by
  unfold withoutComment
  cases opens : cut opener text with
  | none => exact .inl ⟨cut_eq_none_iff.mp opens, rfl⟩
  | some parts =>
      obtain ⟨before, rest⟩ := parts
      have whole := append_of_cut opens
      have first := not_infix_of_cut (List.cons_ne_nil _ _) opens
      dsimp only
      cases closes : cut closer rest with
      | none => exact .inr (.inl ⟨before, rest, whole, first, rfl⟩)
      | some parts =>
          obtain ⟨inside, behind⟩ := parts
          exact .inr (.inr ⟨before, inside, behind, append_of_cut closes ▸ whole, first, rfl⟩)

section

variable {text : List Char}

theorem trim_withoutComment (trimmed : trim text = text) :
    trim (withoutComment text).1 = (withoutComment text).1 := by
  rcases withoutComment_cases text with
    ⟨_, same⟩ | ⟨before, rest, _, _, same⟩ | ⟨before, inside, behind, _, _, same⟩
  all_goals rw [same]
  · exact trimmed
  · exact trim_trim _
  · exact trim_trim _

theorem withoutComment_of_plain (none : ¬ opener <:+: text) :
    withoutComment text = (text, false) := by
  rw [withoutComment, cut_eq_none_iff.mpr none]

theorem length_withoutComment_lt (opens : opener <:+: text) :
    (withoutComment text).1.length < text.length := by
  have marks : opener.length = 2 ∧ closer.length = 2 := ⟨rfl, rfl⟩
  rcases withoutComment_cases text with
    ⟨none, _⟩ | ⟨before, rest, rfl, _, same⟩ | ⟨before, inside, behind, rfl, _, same⟩
  · exact absurd opens none
  all_goals rw [same]
  · have front := length_trim_le before
    simp only [List.length_append]
    omega
  · have whole := length_trim_le (trim before ++ ' ' :: trim behind)
    have front := length_trim_le before
    have back := length_trim_le behind
    simp only [List.length_append, List.length_cons] at whole ⊢
    omega

theorem length_withoutComment_le (text : List Char) :
    (withoutComment text).1.length ≤ text.length := by
  by_cases opens : opener <:+: text
  · exact Nat.le_of_lt (length_withoutComment_lt opens)
  · rw [withoutComment_of_plain opens]

theorem mem_of_mem_withoutComment {c : Char} (member : c ∈ (withoutComment text).1) :
    c ∈ text ∨ c = ' ' := by
  rcases withoutComment_cases text with
    ⟨_, same⟩ | ⟨before, rest, rfl, _, same⟩ | ⟨before, inside, behind, rfl, _, same⟩
  all_goals rw [same] at member
  · exact .inl member
  · have front := mem_of_mem_trim member
    simp only [List.mem_append]
    tauto
  · rcases List.mem_append.mp (mem_of_mem_trim member) with front | back
    · have front := mem_of_mem_trim front
      simp only [List.mem_append]
      tauto
    · rcases List.mem_cons.mp back with blank | back
      · exact .inr blank
      · have back := mem_of_mem_trim back
        simp only [List.mem_append]
        tauto

/-- An opening that stays in a text stands behind a comment. -/
theorem reopens_of_infix_withoutComment (stays : opener <:+: (withoutComment text).1) :
    ReopensComment text := by
  rcases withoutComment_cases text with
    ⟨none, same⟩ | ⟨before, rest, _, none, same⟩ | ⟨before, inside, behind, rfl, none, same⟩
  all_goals rw [same] at stays
  · exact absurd stays none
  · exact absurd (stays.trans (isInfix_trim before)) none
  · have apart : ' ' ∉ opener := by decide
    rcases (infix_append_cons_iff apart).mp (stays.trans (isInfix_trim _)) with front | back
    · exact absurd (front.trans (isInfix_trim before)) none
    · exact ⟨before, inside, behind, by simp only [List.append_assoc], back.trans (isInfix_trim behind)⟩

end

/-! ## Lines -/

/-- A line inside of a comment that goes on has no text; of any other line a piece is left, and from
it one comment is taken out. -/
theorem uncomment_cases (inComment : Bool) (raw : List Char) :
    uncomment inComment raw = ([], true) ∨
    ∃ text, text <:+: raw ∧ trim text = text ∧
      (inComment = false ∧ text = trim raw ∨ inComment = true ∧ text.length < raw.length) ∧
        uncomment inComment raw = withoutComment text := by
  cases inComment with
  | false => exact .inr ⟨trim raw, isInfix_trim raw, trim_trim raw, .inl ⟨rfl, rfl⟩, rfl⟩
  | true =>
      have inside : uncomment true raw = match cut closer (trim raw) with
        | none => ([], true)
        | some (_, behind) => withoutComment (trim behind) := rfl
      cases closes : cut closer (trim raw) with
      | none =>
          rw [closes] at inside
          exact .inl inside
      | some parts =>
          obtain ⟨before, behind⟩ := parts
          rw [closes] at inside
          have whole := append_of_cut closes
          refine .inr ⟨trim behind, ?_, trim_trim behind, .inr ⟨rfl, ?_⟩, inside⟩
          · refine ((isInfix_trim behind).trans ?_).trans (isInfix_trim raw)
            rw [whole]
            exact (List.suffix_append _ behind).isInfix
          · have marks : closer.length = 2 := rfl
            have back := length_trim_le behind
            have all := length_trim_le raw
            rw [whole] at all
            simp only [List.length_append] at all
            omega

theorem uncomment_of_plain {text : List Char} (trimmed : trim text = text)
    (plain : ¬ opener <:+: text) : uncomment false text = (text, false) := by
  have same : uncomment false text = withoutComment (trim text) := rfl
  rw [same, trimmed, withoutComment_of_plain plain]

section

variable (inComment : Bool) (raw : List Char)

theorem trim_uncomment : trim (uncomment inComment raw).1 = (uncomment inComment raw).1 := by
  rcases uncomment_cases inComment raw with same | ⟨text, _, trimmed, _, same⟩
  · rw [same]
    rfl
  · rw [same]
    exact trim_withoutComment trimmed

theorem length_uncomment_le : (uncomment inComment raw).1.length ≤ raw.length := by
  rcases uncomment_cases inComment raw with same | ⟨text, inside, _, _, same⟩
  · rw [same]
    exact Nat.zero_le _
  · rw [same]
    exact (length_withoutComment_le text).trans inside.length_le

variable {inComment raw}

theorem mem_of_mem_uncomment {c : Char} (member : c ∈ (uncomment inComment raw).1) :
    c ∈ raw ∨ c = ' ' := by
  rcases uncomment_cases inComment raw with same | ⟨text, inside, _, _, same⟩
  · rw [same] at member
    exact nomatch member
  · rw [same] at member
    exact (mem_of_mem_withoutComment member).imp_left fun here => inside.subset here

theorem length_uncomment_lt (inComment : Bool) (trimmed : trim raw = raw)
    (opens : opener <:+: raw) : (uncomment inComment raw).1.length < raw.length := by
  rcases uncomment_cases inComment raw with
    same | ⟨text, _, _, ⟨_, rfl⟩ | ⟨_, shorter⟩, same⟩
  all_goals rw [same]
  · exact Nat.lt_of_lt_of_le (by decide) opens.length_le
  · rw [trimmed]
    exact length_withoutComment_lt opens
  · exact Nat.lt_of_le_of_lt (length_withoutComment_le text) shorter

theorem reopens_of_infix_uncomment (stays : opener <:+: (uncomment inComment raw).1) :
    ReopensComment raw := by
  rcases uncomment_cases inComment raw with same | ⟨text, inside, _, _, same⟩
  · rw [same] at stays
    exact absurd (List.infix_nil.mp stays) (List.cons_ne_nil _ _)
  · rw [same] at stays
    exact (reopens_of_infix_withoutComment stays).mono inside

end

end DiagramMarkup
