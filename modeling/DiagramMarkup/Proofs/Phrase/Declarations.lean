import DiagramMarkup.Phrase.Declaration
import DiagramMarkup.Proofs.Text.Blanks
import DiagramMarkup.Proofs.Text.Preference

/-! # Stereotypes and colors of declarations

A part that is missing is not taken off: what remains is the declaration itself. What stands in front
of a part does not matter to it.
-/

namespace DiagramMarkup.Phrase

open Text Pattern

variable {s : List Char} {c : Char}

theorem takeStereotype_of_not_bracketed (plain : ¬ ['<', '<'] <:+: s) :
    takeStereotype s = (trim s, none) := by
  have none : stereotypePattern.find? s = none := by
    refine find?_eq_none fun rest suffix => bind_eq_nil ?_ _
    rw [List.eq_nil_iff_forall_not_mem]
    intro reading member
    have start : ['<', '<'] <+: rest := ⟨reading.2, (mem_text.mp member).2.symm⟩
    exact plain (start.isInfix.trans suffix.isInfix)
  rw [takeStereotype, none]

theorem stereotypePattern_eq_nil (stops : Stops (· = '<') s) : stereotypePattern s = [] := by
  refine bind_eq_nil (List.eq_nil_iff_forall_not_mem.mpr fun reading member => ?_) _
  rw [(mem_text.mp member).2] at stops
  exact absurd (stops_cons.mp stops) (by decide)

theorem takeStereotype_append {front : List Char}
    (head : ∀ b, front.head? = some b → isBlank b = false) (plain : '<' ∉ front)
    (full : isBlank c = false) (mark : c ≠ '<') (s : List Char) :
    takeStereotype (front ++ c :: s) =
      (front ++ (takeStereotype (c :: s)).1, (takeStereotype (c :: s)).2) := by
  have unread {w : List Char} (t : List Char) (plain : '<' ∉ w) :
      ∀ d v, d :: v <:+ w → stereotypePattern (d :: (v ++ t)) = [] := by
    intro d v suffix
    refine stereotypePattern_eq_nil (stops_cons.mpr (decide_eq_false ?_))
    rintro rfl
    exact plain (suffix.subset List.mem_cons_self)
  have here : stereotypePattern.find? (c :: s) =
      (stereotypePattern.find? s).map fun found => (c :: found.1, found.2) := by
    have single : '<' ∉ [c] := fun member => mark (List.mem_singleton.mp member).symm
    exact find?_append (unread s single)
  unfold takeStereotype
  rw [find?_append (unread _ plain), here]
  cases stereotypePattern.find? s with
  | none => exact congrArg (·, none) (trim_append_cons head full s)
  | some found =>
      refine congrArg (·, some found.2.1) ?_
      change trim (front ++ c :: found.1 ++ found.2.2) = front ++ trim (c :: found.1 ++ found.2.2)
      rw [List.append_assoc, List.cons_append, trim_append_cons head full]

/-- A color has its mark, and it goes on to the end of the text. -/
theorem of_mem_colorPattern {reading : Unit × List Char} (member : reading ∈ colorPattern s) :
    '#' ∈ s ∧ ∀ c, s.getLast? = some c → isColorChar c = true ∨ isBlank c = true := by
  obtain ⟨⟨_, _⟩, gap, member⟩ := mem_bind.mp member
  obtain ⟨⟨_, _⟩, mark, member⟩ := mem_bind.mp member
  obtain ⟨⟨_, _⟩, color, member⟩ := mem_bind.mp member
  obtain ⟨⟨_, rest⟩, last, final⟩ := mem_bind.mp member
  obtain ⟨before, gap⟩ := mem_blanks1.mp gap
  obtain ⟨rfl, -⟩ := mem_run.mp (mem_run1.mp gap).1
  obtain rfl := mem_char.mp mark
  obtain ⟨color, notEmpty⟩ := mem_run1.mp color
  obtain ⟨rfl, color_ok, -⟩ := mem_run.mp color
  obtain ⟨behind, last⟩ := mem_blanks.mp last
  obtain ⟨rfl, blank, -⟩ := mem_run.mp last
  have none : rest = [] := by
    cases rest with
    | nil => rfl
    | cons d rest => exact absurd final List.not_mem_nil
  refine ⟨by simp, fun c ends => ?_⟩
  rw [none, List.append_nil, List.getLast?_append_of_ne_nil _ (List.cons_ne_nil _ _),
    List.getLast?_cons_of_ne_nil (List.append_ne_nil_of_left_ne_nil notEmpty _)] at ends
  rcases List.mem_append.mp (List.mem_of_getLast? ends) with here | here
  · exact .inl (color_ok c here)
  · exact .inr (blank c here)

theorem stripColor_of_unread
    (unread : ∀ rest, rest <:+ s → ∀ reading, reading ∉ colorPattern rest) : stripColor s = s := by
  have none : colorPattern.find? s = none :=
    find?_eq_none fun rest suffix => List.eq_nil_iff_forall_not_mem.mpr (unread rest suffix)
  rw [stripColor, none]

theorem stripColor_of_not_mem (plain : '#' ∉ s) : stripColor s = s :=
  stripColor_of_unread fun _ suffix _ member => plain (suffix.subset (of_mem_colorPattern member).1)

theorem stripColor_of_getLast? (last : s.getLast? = some c) (other : isColorChar c = false)
    (full : isBlank c = false) : stripColor s = s := by
  refine stripColor_of_unread fun rest suffix _ member => ?_
  obtain ⟨mark, ends⟩ := of_mem_colorPattern member
  have same : rest.getLast? = some c := by
    obtain ⟨front, rfl⟩ := suffix
    rwa [List.getLast?_append_of_ne_nil _ (List.ne_nil_of_mem mark)] at last
  rcases ends c same with color | blank
  · exact Bool.false_ne_true (other.symm.trans color)
  · exact Bool.false_ne_true (full.symm.trans blank)

end DiagramMarkup.Phrase
