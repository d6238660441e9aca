import DiagramMarkup.Phrase.Declaration
import DiagramMarkup.Proofs.Text.Preference
import DiagramMarkup.Proofs.Text.Words

/-! # Names and labels of aliased declarations

A declaration is cut at the first `as` that stands between blanks. Behind a name that is the one that
separates the name from the label, whatever the label says. In front of the name it is not if the
label itself has such a word: then the name is a piece of the label, with a quote in it.
-/

namespace DiagramMarkup.Phrase

open Text Pattern

/-- A name, and the label that a declaration gives to what has this name. -/
structure Alias where
  name : List Char
  label : List Char
  name_ne_nil : name ≠ []
  name_plain : ∀ c ∈ name, isBlank c = false ∧ c ≠ '"'
  label_ne_nil : label ≠ []
  label_plain : ∀ c ∈ label, c ≠ '"' ∧ c ≠ '\n'

/-- Whether the word `as` stands between blanks. -/
def HoldsAs (s : List Char) : Prop :=
  ∃ b d, isBlank b = true ∧ isBlank d = true ∧ [b, 'a', 's', d] <:+: s

theorem holdsAs_of_parts {before behind : List Char} (before_blank : ∀ c ∈ before, isBlank c = true)
    (before_some : before ≠ []) (behind_blank : ∀ c ∈ behind, isBlank c = true)
    (behind_some : behind ≠ []) (front back : List Char) :
    HoldsAs (front ++ (before ++ ("as".toList ++ (behind ++ back)))) := by
  obtain ⟨d, others, rfl⟩ := List.exists_cons_of_ne_nil behind_some
  refine ⟨before.getLast before_some, d, before_blank _ (List.getLast_mem before_some),
    behind_blank d List.mem_cons_self, front ++ before.dropLast, others ++ back, ?_⟩
  conv_rhs => rw [← List.dropLast_append_getLast before_some]
  simp

theorem not_holdsAs_word (w : Word) : ¬ HoldsAs w.chars := by
  rintro ⟨b, _, blank, _, inside⟩
  have full := w.full (inside.subset List.mem_cons_self)
  exact Bool.false_ne_true (full.symm.trans blank)

namespace Alias

variable (a : Alias)

def quotedLabel : List Char :=
  '"' :: a.label ++ ['"']

/-- The declaration with the name in front of the label. -/
def nameFirst : List Char :=
  a.name ++ (" as ".toList ++ a.quotedLabel)

/-- The declaration with the label in front of the name. -/
def labelFirst : List Char :=
  a.quotedLabel ++ (" as ".toList ++ a.name)

end Alias

/-! ## Where a declaration is cut -/

variable {left right s t u before behind : List Char} {reading : (List Char × List Char) × List Char}

/-- What follows the left part of a declaration. -/
def aliasRest (left : List Char) : Pattern (List Char × List Char) := do
  blanks1
  let _ ← text "as"
  blanks1
  let right ← restOfLine
  return (left, right)

theorem aliasRest_eq_nil (full : Stops isBlank s) (left : List Char) : aliasRest left s = [] :=
  bind_eq_nil (bind_eq_nil (run1_eq_nil full) _) _

theorem prefers_aliasRest (before_blank : ∀ c ∈ before, isBlank c = true) (before_some : before ≠ [])
    (behind_blank : ∀ c ∈ behind, isBlank c = true) (behind_some : behind ≠ [])
    (full : Stops isBlank right) (line : '\n' ∉ right) (left : List Char) :
    (aliasRest left).Prefers (before ++ ("as".toList ++ (behind ++ right))) (left, right) [] := by
  exact (prefers_blanks1 before_blank (stops_cons.mpr rfl) before_some).bind <|
    (prefers_text "as" _).bind <| (prefers_blanks1 behind_blank full behind_some).bind <|
      (prefers_restOfLine line).bind (prefers_pure _ _)

theorem of_mem_aliasRest (member : reading ∈ aliasRest left s) :
    ∃ before behind right, s = before ++ ("as".toList ++ (behind ++ right)) ∧
      ((∀ c ∈ before, isBlank c = true) ∧ before ≠ []) ∧
      ((∀ c ∈ behind, isBlank c = true) ∧ behind ≠ []) ∧ reading.1 = (left, right) := by
  obtain ⟨⟨_, _⟩, first, member⟩ := mem_bind.mp member
  obtain ⟨⟨_, _⟩, word, member⟩ := mem_bind.mp member
  obtain ⟨⟨_, _⟩, second, member⟩ := mem_bind.mp member
  obtain ⟨⟨_, _⟩, last, member⟩ := mem_bind.mp member
  obtain ⟨before, first⟩ := mem_blanks1.mp first
  obtain ⟨behind, second⟩ := mem_blanks1.mp second
  obtain ⟨first, before_some⟩ := mem_run1.mp first
  obtain ⟨second, behind_some⟩ := mem_run1.mp second
  obtain ⟨rfl, before_blank, _⟩ := mem_run.mp first
  obtain ⟨rfl, same⟩ := mem_text.mp word
  obtain ⟨split, behind_blank, _⟩ := mem_run.mp second
  cases (mem_restOfLine.mp last).1
  cases mem_pure.mp member
  exact ⟨before, behind, _, by rw [same, split], ⟨before_blank, before_some⟩,
    ⟨behind_blank, behind_some⟩, rfl⟩

theorem prefers_aliasRest_as (full : Stops isBlank right) (line : '\n' ∉ right) (left : List Char) :
    (aliasRest left).Prefers (" as ".toList ++ right) (left, right) [] := by
  have blank : ∀ c ∈ [' '], isBlank c = true := List.forall_mem_singleton.mpr rfl
  exact prefers_aliasRest blank (List.cons_ne_nil _ _) blank (List.cons_ne_nil _ _) full line left

/-- In front of a quote only a text with the word in it is cut. The right part then has the quote. -/
theorem quote_mem_of_mem_aliasRest (plain : '"' ∉ u)
    (member : reading ∈ aliasRest left (u ++ '"' :: t)) :
    HoldsAs u ∧ reading.1.1 = left ∧ '"' ∈ reading.1.2 := by
  obtain ⟨before, behind, right, split, ⟨before_blank, before_some⟩, ⟨behind_blank, behind_some⟩,
    same⟩ := of_mem_aliasRest member
  have apart : '"' ∉ before ++ ("as".toList ++ behind) := by
    have full : ¬ isBlank '"' = true := by decide
    rw [List.mem_append, List.mem_append]
    rintro (here | here | here)
    · exact full (before_blank _ here)
    · exact absurd here (by decide)
    · exact full (behind_blank _ here)
  have split : u ++ '"' :: t = before ++ ("as".toList ++ behind) ++ right := by
    rw [split, List.append_assoc, List.append_assoc]
  obtain ⟨w, rfl⟩ := (prefix_append_cons_iff apart).mp ⟨right, split.symm⟩
  rw [List.append_assoc (before ++ _)] at split
  rw [same]
  refine ⟨?_, rfl, ?_⟩
  · have here := holdsAs_of_parts before_blank before_some behind_blank behind_some [] w
    rwa [List.nil_append, ← List.append_assoc "as".toList, ← List.append_assoc before] at here
  · rw [← List.append_cancel_left split]
    exact List.mem_append_right _ List.mem_cons_self

theorem holdsAs_of_mem_asPattern (member : reading ∈ asPattern s) : HoldsAs s := by
  obtain ⟨⟨left, t⟩, first, cut⟩ := mem_bind.mp member
  obtain ⟨before, behind, right, split, ⟨before_blank, before_some⟩, ⟨behind_blank, behind_some⟩, -⟩ :=
    of_mem_aliasRest cut
  dsimp only at split
  rw [append_of_mem_fewest1 first, split]
  exact holdsAs_of_parts before_blank before_some behind_blank behind_some left right

theorem nameAndLabel_of_not_holdsAs (plain : ¬ HoldsAs (trim s)) :
    nameAndLabel s = (unquote (trim s), unescapeBreaks (unquote (trim s))) := by
  have none : asPattern.read? (trim s) = none :=
    read?_eq_none fun _ member => plain (holdsAs_of_mem_asPattern member)
  unfold nameAndLabel
  dsimp only
  rw [none]

/-- A declaration is cut at the first place where it can be. -/
theorem exists_read?_asPattern (notEmpty : left ≠ []) (line : '\n' ∉ left)
    (reads : aliasRest left t ≠ []) :
    ∃ first rest reading, first ≠ [] ∧ first <+: left ∧ left ++ t = first ++ rest ∧
      (aliasRest first rest).head? = some reading ∧ asPattern.read? (left ++ t) = some reading.1 := by
  obtain ⟨c, w, rfl⟩ := List.exists_cons_of_ne_nil notEmpty
  have ok : ∀ d ∈ c :: w, inLine d = true :=
    fun d member => decide_eq_true fun feed => line (feed ▸ member)
  obtain ⟨first_ok, others_ok⟩ := List.forall_mem_cons.mp ok
  obtain ⟨first, rest, start, split, later, same⟩ :=
    exists_head?_fewest_bind (g := fun others => aliasRest (c :: others)) others_ok reads
  obtain ⟨reading, others, readings⟩ := List.exists_cons_of_ne_nil later
  have whole : (asPattern (c :: (w ++ t))).head? = some reading := by
    change ((fewest1 inLine >>= aliasRest) (c :: (w ++ t))).head? = _
    rw [fewest1_bind_cons first_ok, same, readings]
    rfl
  refine ⟨c :: first, rest, reading, List.cons_ne_nil _ _, List.cons_prefix_cons.mpr ⟨rfl, start⟩,
    congrArg (c :: ·) split, ?_, congrArg (Option.map Prod.fst) whole⟩
  rw [readings]
  rfl

theorem nameAndLabel_of_read? (trimmed : trim s = s) (read : asPattern.read? s = some (left, right)) :
    nameAndLabel s =
      if hasStart ['"'] (trim right) then (unquote (trim left), unescapeBreaks (unquote (trim right)))
      else (unquote (trim right), unescapeBreaks (unquote (trim left))) := by
  unfold nameAndLabel
  dsimp only
  rw [trimmed, read]

namespace Alias

variable {a : Alias}

theorem trim_name : trim a.name = a.name :=
  trim_of_full fun c member => (a.name_plain c member).1

theorem quote_not_mem_name : '"' ∉ a.name :=
  fun member => (a.name_plain _ member).2 rfl

theorem quote_not_mem_label : '"' ∉ a.label :=
  fun member => (a.label_plain _ member).1 rfl

theorem unquote_name : unquote a.name = a.name :=
  unquote_of_plain a.name_plain

theorem trim_quotedLabel : trim a.quotedLabel = a.quotedLabel := by
  refine trim_eq_self (fun c first => Option.some.inj first ▸ rfl) fun c last => ?_
  rw [quotedLabel, List.getLast?_concat] at last
  exact Option.some.inj last ▸ rfl

theorem line_name : '\n' ∉ a.name :=
  fun member => absurd (a.name_plain _ member).1 (by decide)

theorem line_quotedLabel : '\n' ∉ a.quotedLabel := by
  rw [quotedLabel, List.cons_append, List.mem_cons, List.mem_append, List.mem_singleton]
  rintro (quote | inside | quote)
  · exact absurd quote (by decide)
  · exact (a.label_plain _ inside).2 rfl
  · exact absurd quote (by decide)

theorem quotedLabel_ne_nil : a.quotedLabel ≠ [] :=
  List.cons_ne_nil _ _

theorem stops_name : Stops isBlank a.name :=
  fun c first => (a.name_plain c (List.mem_of_head? first)).1

/-! ## The name in front -/

theorem trim_nameFirst : trim a.nameFirst = a.nameFirst := by
  apply trim_eq_self
  · exact stops_name.append a.name_ne_nil _
  · intro c last
    rw [nameFirst, quotedLabel, ← List.append_assoc, ← List.append_assoc,
      List.getLast?_concat] at last
    exact Option.some.inj last ▸ rfl

theorem read?_nameFirst : asPattern.read? a.nameFirst = some (a.name, a.quotedLabel) := by
  have reads := prefers_aliasRest_as (stops_cons.mpr (by decide)) a.line_quotedLabel a.name
  obtain ⟨first, rest, reading, _, ⟨more, start⟩, split, head, read⟩ :=
    exists_read?_asPattern a.name_ne_nil line_name reads.ne_nil
  rw [← start, List.append_assoc] at split
  cases List.append_cancel_left split
  cases more with
  | nil =>
      rw [List.append_nil] at start
      rw [start, List.nil_append] at head
      obtain rfl := Option.some.inj (head.symm.trans reads)
      exact read
  | cons d more =>
      have full : isBlank d = false := (a.name_plain d (start ▸ by simp)).1
      rw [List.cons_append, aliasRest_eq_nil (stops_cons.mpr full)] at head
      cases head

theorem nameAndLabel_nameFirst : nameAndLabel a.nameFirst = (a.name, unescapeBreaks a.label) := by
  have start : hasStart ['"'] a.quotedLabel = true := hasStart_iff.mpr ⟨_, rfl⟩
  rw [nameAndLabel_of_read? trim_nameFirst read?_nameFirst, trim_quotedLabel, if_pos start, trim_name,
    unquote_name, quotedLabel, unquote_quoted]

/-! ## The label in front -/

theorem trim_labelFirst : trim a.labelFirst = a.labelFirst := by
  apply trim_eq_self
  · exact fun c first => Option.some.inj first ▸ rfl
  · intro c last
    rw [labelFirst, ← List.append_assoc, List.getLast?_append_of_ne_nil _ a.name_ne_nil] at last
    exact (a.name_plain c (List.mem_of_getLast? last)).1

theorem cut_in_label {first rest : List Char} (notEmpty : first ≠ [])
    (start : first <+: '"' :: a.label) (split : a.labelFirst = first ++ rest)
    (head : (aliasRest first rest).head? = some reading) :
    HoldsAs a.label ∧ ∃ f, '"' ∉ f ∧ reading.1.1 = '"' :: f ∧ '"' ∈ reading.1.2 := by
  obtain ⟨more, start⟩ := start
  obtain ⟨c, f, rfl⟩ := List.exists_cons_of_ne_nil notEmpty
  obtain ⟨rfl, label⟩ := List.cons.inj start
  change f ++ more = a.label at label
  have behind : rest = more ++ '"' :: (" as ".toList ++ a.name) := by
    rw [labelFirst, quotedLabel, ← label] at split
    simpa using split.symm
  have plain := a.quote_not_mem_label
  rw [← label, List.mem_append, not_or] at plain
  have member := List.mem_of_head? head
  rw [behind] at member
  obtain ⟨⟨b, d, b_blank, d_blank, inside⟩, left, right⟩ := quote_mem_of_mem_aliasRest plain.2 member
  exact ⟨⟨b, d, b_blank, d_blank, inside.trans (label ▸ (List.suffix_append f more).isInfix)⟩,
    f, plain.1, left, right⟩

theorem read?_labelFirst (plain : ¬ HoldsAs a.label) :
    asPattern.read? a.labelFirst = some (a.quotedLabel, a.name) := by
  have reads := prefers_aliasRest_as a.stops_name a.line_name a.quotedLabel
  obtain ⟨first, rest, reading, notEmpty, start, split, head, read⟩ :=
    exists_read?_asPattern quotedLabel_ne_nil line_quotedLabel reads.ne_nil
  rw [quotedLabel, List.prefix_concat_iff] at start
  rcases start with whole | before
  · obtain rfl : first = a.quotedLabel := whole
    cases List.append_cancel_left split
    obtain rfl := Option.some.inj (head.symm.trans reads)
    exact read
  · exact absurd (cut_in_label notEmpty before split head).1 plain

theorem read?_labelFirst_of_holdsAs (here : HoldsAs a.label) :
    ∃ f right, '"' ∉ f ∧ '"' ∈ right ∧ asPattern.read? a.labelFirst = some ('"' :: f, right) := by
  obtain ⟨b, d, b_blank, d_blank, front, back, label⟩ := here
  let rest := back ++ '"' :: (" as ".toList ++ a.name)
  have declaration : a.labelFirst = ('"' :: front) ++ (b :: 'a' :: 's' :: d :: rest) := by
    simp [labelFirst, quotedLabel, ← label, rest]
  have line : '\n' ∉ a.labelFirst := by
    rw [labelFirst, List.mem_append, List.mem_append, not_or, not_or]
    exact ⟨line_quotedLabel, by decide, line_name⟩
  rw [declaration, List.mem_append, not_or] at line
  have some_reading : aliasRest ('"' :: front) (b :: 'a' :: 's' :: d :: rest) ≠ [] := by
    have behind : d :: rest = (d :: rest.takeWhile isBlank) ++ rest.dropWhile isBlank := by
      rw [List.cons_append, List.takeWhile_append_dropWhile]
    have first_blank : ∀ c ∈ [b], isBlank c = true := List.forall_mem_singleton.mpr b_blank
    have second_blank : ∀ c ∈ d :: rest.takeWhile isBlank, isBlank c = true :=
      List.forall_mem_cons.mpr ⟨d_blank, List.all_eq_true.mp List.all_takeWhile⟩
    have last_line : '\n' ∉ rest.dropWhile isBlank := fun member =>
      line.2 (by simp [(List.dropWhile_suffix isBlank).subset member])
    have reads := prefers_aliasRest first_blank (List.cons_ne_nil _ _) second_blank
      (List.cons_ne_nil _ _) (stops_dropWhile isBlank rest) last_line ('"' :: front)
    rw [← behind] at reads
    exact reads.ne_nil
  obtain ⟨first, rest, reading, notEmpty, start, split, head, read⟩ :=
    exists_read?_asPattern (List.cons_ne_nil _ _) line.1 some_reading
  rw [← declaration] at split read
  have inside : '"' :: front <+: '"' :: a.label :=
    List.cons_prefix_cons.mpr ⟨rfl, by rw [← label, List.append_assoc]; exact List.prefix_append _ _⟩
  obtain ⟨_, f, plain, left, right⟩ := cut_in_label notEmpty (start.trans inside) split head
  exact ⟨f, reading.1.2, plain, right, by rw [read, ← left]⟩

theorem quote_mem_of_holdsAs (here : HoldsAs a.label) : '"' ∈ (nameAndLabel a.labelFirst).1 := by
  obtain ⟨f, right, plain, inside, read⟩ := read?_labelFirst_of_holdsAs here
  rw [nameAndLabel_of_read? trim_labelFirst read]
  by_cases quoted : hasStart ['"'] (trim right) = true
  · have unclosed : '"' ∉ trimEnd f :=
      fun member => plain ((List.rdropWhile_prefix isBlank f).subset member)
    rw [if_pos quoted, trim_cons_of_full (by decide), unquote_unclosed unclosed]
    exact List.mem_cons_self
  · have start : (trim (trim right)).head? ≠ some '"' := by
      rw [trim_trim]
      intro first
      obtain ⟨others, same⟩ := List.head?_eq_some_iff.mp first
      exact quoted (hasStart_iff.mpr ⟨others, same.symm⟩)
    rw [if_neg quoted, unquote_of_head?_ne start, trim_trim]
    exact mem_trim (by decide) inside

end Alias

/-- Name and label come apart as they were put together, except that a label in front of the name must
not hold the word between them. -/
theorem nameAndLabel_alias (a : Alias) :
    nameAndLabel a.nameFirst = (a.name, unescapeBreaks a.label) ∧
      (nameAndLabel a.labelFirst = (a.name, unescapeBreaks a.label) ↔ ¬ HoldsAs a.label) := by
  refine ⟨a.nameAndLabel_nameFirst, fun same here => ?_, fun plain => ?_⟩
  · have quote := Alias.quote_mem_of_holdsAs here
    rw [same] at quote
    exact a.quote_not_mem_name quote
  · have start : ¬ hasStart ['"'] a.name = true := fun start =>
      a.quote_not_mem_name ((hasStart_iff.mp start).subset (List.mem_singleton_self '"'))
    rw [nameAndLabel_of_read? Alias.trim_labelFirst (Alias.read?_labelFirst plain), a.trim_name,
      if_neg start, a.trim_quotedLabel, a.unquote_name, Alias.quotedLabel, unquote_quoted]

/-- A label with the word in it is cut apart in front of its name, and stays whole behind it. -/
theorem nameAndLabel_as_in_label :
    nameAndLabel "\"Save as draft\" as S".toList = ("draft\" as S".toList, "\"Save".toList) ∧
      nameAndLabel "S as \"Save as draft\"".toList = (['S'], "Save as draft".toList) := by
  decide +kernel

end DiagramMarkup.Phrase
