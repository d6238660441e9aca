import DiagramMarkup.Proofs.Text.Blanks
import DiagramMarkup.Proofs.Text.Cutting
import DiagramMarkup.Text.Tables

/-! # Words and quotes

No character of a word is blank, so a word has nothing that trimming could take away. A pair of quotes
around a text is taken off, and a quote that has no partner stays.
-/

namespace DiagramMarkup.Text

variable {s : List Char} {c : Char}

/-- The code points of the blanks. -/
def blankCodes : List Nat :=
  [0x9, 0xA, 0xB, 0xC, 0xD, 0x20, 0x85, 0xA0, 0x1680, 0x2000, 0x2001, 0x2002, 0x2003, 0x2004, 0x2005,
    0x2006, 0x2007, 0x2008, 0x2009, 0x200A, 0x2028, 0x2029, 0x202F, 0x205F, 0x3000]

theorem mem_blankCodes_of_isBlank (blank : isBlank c = true) : c.toNat ∈ blankCodes := by
  simp only [isBlank, Bool.or_eq_true, Bool.and_eq_true, decide_eq_true_eq, beq_iff_eq] at blank
  simp only [blankCodes, List.mem_cons, List.not_mem_nil, or_false]
  omega

theorem isBlank_of_isWord (word : isWord c = true) : isBlank c = false := by
  rw [Bool.eq_false_iff]
  intro blank
  have none : ∀ n ∈ blankCodes, isWord (Char.ofNat n) = false := by decide +kernel
  have other := none c.toNat (mem_blankCodes_of_isBlank blank)
  rw [Char.ofNat_toNat, word] at other
  exact Bool.false_ne_true other.symm

/-! ## Trimmed texts -/

theorem trim_of_full (full : ∀ c ∈ s, isBlank c = false) : trim s = s :=
  trim_eq_self (fun c first => full c (List.mem_of_head? first))
    (fun c last => full c (List.mem_of_getLast? last))

theorem trim_append_blanks {t : List Char} (blank : ∀ c ∈ t, isBlank c = true) (s : List Char) :
    trim (s ++ t) = trim s := by
  induction t generalizing s with
  | nil => rw [List.append_nil]
  | cons c t ih =>
      obtain ⟨first, others⟩ := List.forall_mem_cons.mp blank
      rw [List.append_cons, ih others, trim_concat_of_isBlank first]

theorem mem_trim (full : isBlank c = false) (member : c ∈ s) : c ∈ trim s := by
  have start : c ∈ trimStart s := by
    rw [← List.takeWhile_append_dropWhile (p := isBlank) (l := s), List.mem_append] at member
    refine member.resolve_left fun blank => ?_
    exact Bool.false_ne_true (full.symm.trans (List.all_eq_true.mp List.all_takeWhile c blank))
  rw [← List.mem_reverse,
    ← List.takeWhile_append_dropWhile (p := isBlank) (l := (trimStart s).reverse),
    List.mem_append] at start
  refine List.mem_reverse.mpr (start.resolve_left fun blank => ?_)
  exact Bool.false_ne_true (full.symm.trans (List.all_eq_true.mp List.all_takeWhile c blank))

/-! ## Quotes -/

theorem unquote_of_head?_ne (plain : (trim s).head? ≠ some '"') : unquote s = trim s := by
  unfold unquote
  dsimp only
  split
  · next start => exact absurd (congrArg List.head? start) plain
  · rfl

theorem unquote_of_plain (plain : ∀ c ∈ s, isBlank c = false ∧ c ≠ '"') : unquote s = s := by
  have trimmed : trim s = s := trim_of_full fun c member => (plain c member).1
  rw [unquote_of_head?_ne, trimmed]
  rw [trimmed]
  exact fun first => (plain _ (List.mem_of_head? first)).2 rfl

theorem unquote_quoted (s : List Char) : unquote ('"' :: s ++ ['"']) = s := by
  have trimmed : trim ('"' :: s ++ ['"']) = '"' :: (s ++ ['"']) := by
    refine trim_eq_self (fun c first => Option.some.inj first ▸ rfl) fun c last => ?_
    rw [List.getLast?_concat] at last
    exact Option.some.inj last ▸ rfl
  unfold unquote
  rw [trimmed]
  change (before? ['"'] (s ++ ['"'])).getD _ = s
  rw [before?_append, Option.getD_some]

theorem unquote_unclosed (plain : '"' ∉ s) : unquote ('"' :: s) = '"' :: trimEnd s := by
  have unclosed : before? ['"'] (trimEnd s) = none := before?_eq_none_iff.mpr fun ends =>
    plain ((List.rdropWhile_prefix isBlank s).subset (ends.subset (List.mem_singleton_self '"')))
  unfold unquote
  rw [trim_cons_of_full (by decide)]
  change (before? ['"'] (trimEnd s)).getD _ = _
  rw [unclosed, Option.getD_none]

/-! ## Words -/

/-- At least one of the characters that bare names are made of, and no other. -/
structure Word where
  chars : List Char
  chars_ne_nil : chars ≠ []
  word : ∀ c ∈ chars, isWord c = true

namespace Word

variable (w : Word)

theorem full {c : Char} (member : c ∈ w.chars) : isBlank c = false :=
  isBlank_of_isWord (w.word c member)

theorem full_of_head? {c : Char} (first : w.chars.head? = some c) : isBlank c = false :=
  w.full (List.mem_of_head? first)

theorem not_mem {c : Char} (other : isWord c = false) : c ∉ w.chars :=
  fun member => Bool.false_ne_true (other.symm.trans (w.word c member))

theorem unquote_chars : unquote w.chars = w.chars :=
  unquote_of_plain fun _ member => ⟨w.full member, fun quote => w.not_mem (by decide) (quote ▸ member)⟩

theorem trim_chars : trim w.chars = w.chars :=
  trim_of_full fun _ => w.full

end Word

end DiagramMarkup.Text
