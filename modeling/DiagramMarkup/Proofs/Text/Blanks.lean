import DiagramMarkup.Text.Cut
import Mathlib.Data.List.DropRight

/-! # Texts without blanks at their ends

What is left of a text without the blanks at its ends is a piece of it, and there is nothing more to
take away from that piece.
-/

namespace DiagramMarkup.Text

variable {s : List Char} {c : Char}

theorem isInfix_trim (s : List Char) : trim s <:+: s :=
  (List.rdropWhile_prefix isBlank (trimStart s)).isInfix.trans
    (List.dropWhile_suffix isBlank).isInfix

theorem length_trim_le (s : List Char) : (trim s).length ≤ s.length :=
  (isInfix_trim s).length_le

theorem mem_of_mem_trim (member : c ∈ trim s) : c ∈ s :=
  (isInfix_trim s).subset member

theorem mem_trim_of_mem (full : isBlank c = false) (member : c ∈ s) : c ∈ trim s := by
  have kept {t : List Char} (member : c ∈ t) : c ∈ t.dropWhile isBlank := by
    rw [← List.takeWhile_append_dropWhile (p := isBlank) (l := t)] at member
    refine (List.mem_append.mp member).resolve_left fun blank => ?_
    exact Bool.false_ne_true (full.symm.trans (List.mem_takeWhile_imp blank))
  exact List.mem_reverse.mpr (kept (List.mem_reverse.mpr (kept member)))

theorem not_isBlank_head_trimStart (head : (trimStart s).head? = some c) : isBlank c = false := by
  have first := List.head?_dropWhile_not isBlank s
  rw [trimStart, dropStart] at head
  rw [head] at first
  exact first

theorem trimStart_eq_self (head : ∀ c, s.head? = some c → isBlank c = false) : trimStart s = s := by
  cases s with
  | nil => rfl
  | cons c s =>
      exact List.dropWhile_cons_of_neg (Bool.eq_false_iff.mp (head c rfl))

theorem trim_trim (s : List Char) : trim (trim s) = trim s := by
  have start : trimStart (trim s) = trim s := by
    apply trimStart_eq_self
    intro c head
    obtain ⟨behind, front⟩ : trim s <+: trimStart s := List.rdropWhile_prefix isBlank (trimStart s)
    apply not_isBlank_head_trimStart (s := s)
    rw [← front, List.head?_append, head]
    rfl
  rw [trim, start]
  exact List.rdropWhile_idempotent isBlank (trimStart s)

theorem trimEnd_eq_self (last : ∀ c, s.getLast? = some c → isBlank c = false) : trimEnd s = s := by
  have reversed : trimStart s.reverse = s.reverse := by
    apply trimStart_eq_self
    rwa [List.head?_reverse]
  change (trimStart s.reverse).reverse = s
  rw [reversed, List.reverse_reverse]

theorem trim_eq_self (first : ∀ c, s.head? = some c → isBlank c = false)
    (last : ∀ c, s.getLast? = some c → isBlank c = false) : trim s = s := by
  rw [trim, trimStart_eq_self first, trimEnd_eq_self last]

theorem trim_cons_of_isBlank (blank : isBlank c = true) (s : List Char) :
    trim (c :: s) = trim s := by
  rw [trim, trimStart, dropStart, List.dropWhile_cons_of_pos blank]
  rfl

theorem trim_concat_of_isBlank (blank : isBlank c = true) (s : List Char) :
    trim (s ++ [c]) = trim s := by
  have last : [c].dropWhile isBlank = [] := List.dropWhile_cons_of_pos blank
  rw [trim, trim, trimStart, trimStart, dropStart, dropStart, List.dropWhile_append, last]
  split
  · next empty => rw [List.isEmpty_iff.mp empty]
  · exact List.rdropWhile_concat_pos isBlank _ c blank

/-! ## The first character -/

/-- Nothing is taken away in front of a character that is not blank. -/
theorem trimEnd_append_cons (full : isBlank c = false) (front s : List Char) :
    trimEnd (front ++ c :: s) = front ++ c :: trimEnd s := by
  have kept : ((c :: front.reverse).dropWhile isBlank) = c :: front.reverse :=
    List.dropWhile_cons_of_neg (Bool.eq_false_iff.mp full)
  have last : (s.reverse ++ c :: front.reverse).dropWhile isBlank =
      s.reverse.dropWhile isBlank ++ c :: front.reverse := by
    rw [List.dropWhile_append, kept]
    split
    · next empty => rw [List.isEmpty_iff.mp empty, List.nil_append]
    · rfl
  unfold trimEnd dropEnd
  rw [List.reverse_append, List.reverse_cons, List.append_assoc, List.singleton_append, last,
    List.reverse_append, List.reverse_cons, List.reverse_reverse, List.append_assoc,
    List.singleton_append]

theorem trimEnd_cons (full : isBlank c = false) (s : List Char) :
    trimEnd (c :: s) = c :: trimEnd s :=
  trimEnd_append_cons full [] s

theorem trim_cons_of_full (full : isBlank c = false) (s : List Char) :
    trim (c :: s) = c :: trimEnd s := by
  have start : trimStart (c :: s) = c :: s :=
    List.dropWhile_cons_of_neg (Bool.eq_false_iff.mp full)
  rw [trim, start, trimEnd_cons full]

theorem trim_append_cons {front : List Char} (head : ∀ d, front.head? = some d → isBlank d = false)
    (full : isBlank c = false) (s : List Char) : trim (front ++ c :: s) = front ++ trim (c :: s) := by
  have start : trimStart (front ++ c :: s) = front ++ c :: s := by
    apply trimStart_eq_self
    cases front with
    | nil => exact fun d first => Option.some.inj first ▸ full
    | cons d front => exact head
  rw [trim, start, trimEnd_append_cons full, trim_cons_of_full full]

theorem head?_trim (s : List Char) : (trim s).head? = s.find? fun c => !isBlank c := by
  rw [List.find?_not_eq_head?_dropWhile]
  change (trimEnd (trimStart s)).head? = (trimStart s).head?
  cases start : trimStart s with
  | nil => rfl
  | cons c rest =>
      have full : isBlank c = false := not_isBlank_head_trimStart (s := s) (by rw [start]; rfl)
      rw [trimEnd_cons full]
      rfl

/-! ## Small letters -/

theorem toNat_of_isLower (small : c.isLower = true) : 97 ≤ c.val.toNat ∧ c.val.toNat ≤ 122 := by
  obtain ⟨least, most⟩ := Bool.and_eq_true_iff.mp small
  exact ⟨UInt32.le_iff_toNat_le.mp (of_decide_eq_true least),
    UInt32.le_iff_toNat_le.mp (of_decide_eq_true most)⟩

theorem isBlank_of_isLower (small : c.isLower = true) : isBlank c = false := by
  have bounds := toNat_of_isLower small
  simp only [isBlank, Char.toNat, Bool.or_eq_false_iff, Bool.and_eq_false_iff,
    decide_eq_false_iff_not, beq_eq_false_iff_ne]
  omega

theorem toLower_of_isLower (small : c.isLower = true) : c.toLower = c := by
  have bounds := toNat_of_isLower small
  apply dif_neg
  rintro ⟨_, capital⟩
  have most : c.val.toNat ≤ 90 := UInt32.le_iff_toNat_le.mp capital
  omega

end DiagramMarkup.Text
