import DiagramMarkup.Markup.Printer
import DiagramMarkup.Proofs.Text.Cutting
import Mathlib.Data.List.Basic

/-! # Printed trees

A tree is printed as the same tags and texts, whether on one line or over several. Line breaks in
attributes are escaped, so that these tags and texts are all lines that there are.
-/

namespace DiagramMarkup.Markup

variable {α : Type} {write : α → String}

/-! ## Tags and texts -/

mutual

/-- The tags and texts of a tree as they are printed, in their order. -/
def tokens (write : α → String) : Markup α → List (List Char)
  | text s => [escapeText s.toList]
  | element name attributes [] => [emptyTag write name attributes]
  | element name attributes children =>
    startTag write name attributes :: (allTokens write children ++ [endTag name])

def allTokens (write : α → String) : List (Markup α) → List (List Char)
  | [] => []
  | tree :: trees => tokens write tree ++ allTokens write trees

end

mutual

/-- The names of elements and attributes, and the texts. -/
def words : Markup α → List String
  | text s => [s]
  | element name attributes children =>
    name :: (attributes.map Attribute.name ++ allWords children)

def allWords : List (Markup α) → List String
  | [] => []
  | tree :: trees => words tree ++ allWords trees

end

theorem tokens_element_cons {child : Markup α} {others : List (Markup α)} {name : String}
    {attributes : List (Attribute α)} :
    (element name attributes (child :: others)).tokens write =
      startTag write name attributes :: (allTokens write (child :: others) ++ [endTag name]) :=
  rfl

mutual

theorem print_eq (write : α → String) (tree : Markup α) :
    tree.print write = (tree.tokens write).flatten := by
  match tree with
  | text s => exact (List.append_nil _).symm
  | element name attributes [] => exact (List.append_nil _).symm
  | element name attributes (child :: others) =>
      have children := printAll_eq write (child :: others)
      rw [tokens_element_cons, List.flatten_cons, List.flatten_append, ← children]
      simp only [print, List.flatten_cons, List.flatten_nil, List.append_nil]

theorem printAll_eq (write : α → String) (trees : List (Markup α)) :
    printAll write trees = (allTokens write trees).flatten := by
  match trees with
  | [] => rfl
  | tree :: trees =>
      rw [printAll, print_eq write tree, printAll_eq write trees, allTokens, List.flatten_append]

end

/-- A tag or a text that is made of some words. -/
inductive IsToken (write : α → String) (words : List String) : List Char → Prop
  | text {s : String} (known : s ∈ words) : IsToken write words (escapeText s.toList)
  | empty {name : String} {attributes : List (Attribute α)} (known : name ∈ words)
      (known' : ∀ a ∈ attributes, a.name ∈ words) :
      IsToken write words (emptyTag write name attributes)
  | start {name : String} {attributes : List (Attribute α)} (known : name ∈ words)
      (known' : ∀ a ∈ attributes, a.name ∈ words) :
      IsToken write words (startTag write name attributes)
  | ending {name : String} (known : name ∈ words) : IsToken write words (endTag name)

variable {known : List String}

theorem forall_mem_words {P : String → Prop} {name : String} {attributes : List (Attribute α)}
    {children : List (Markup α)} :
    (∀ word ∈ (element name attributes children).words, P word) ↔
      P name ∧ (∀ a ∈ attributes, P a.name) ∧ ∀ word ∈ allWords children, P word := by
  rw [words, List.forall_mem_cons, List.forall_mem_append, List.forall_mem_map]

theorem allWords_subset {trees : List (Markup α)} (each : ∀ tree ∈ trees, tree.words ⊆ known) :
    allWords trees ⊆ known := by
  induction trees with
  | nil => exact List.nil_subset _
  | cons tree trees ih =>
      obtain ⟨first, rest⟩ := List.forall_mem_cons.mp each
      exact List.append_subset.mpr ⟨first, ih rest⟩

mutual

/-- A tree is printed as tags and texts that are made of its words. -/
theorem isToken_of_mem {tree : Markup α} (all : tree.words ⊆ known) :
    ∀ token ∈ tree.tokens write, IsToken write known token := by
  match tree with
  | text s => exact List.forall_mem_singleton.mpr (.text (all (List.mem_singleton_self s)))
  | element name attributes [] =>
      obtain ⟨here, inside, _⟩ := forall_mem_words.mp all
      exact List.forall_mem_singleton.mpr (.empty here inside)
  | element name attributes (child :: others) =>
      obtain ⟨here, inside, below⟩ := forall_mem_words.mp all
      rw [tokens_element_cons, List.forall_mem_cons, List.forall_mem_append, List.forall_mem_singleton]
      exact ⟨.start here inside, isToken_of_mem_all below, .ending here⟩

theorem isToken_of_mem_all {trees : List (Markup α)} (all : allWords trees ⊆ known) :
    ∀ token ∈ allTokens write trees, IsToken write known token := by
  match trees with
  | [] => exact fun _ member => absurd member List.not_mem_nil
  | tree :: trees =>
      obtain ⟨first, rest⟩ := List.forall_mem_append.mp all
      exact List.forall_mem_append.mpr ⟨isToken_of_mem first, isToken_of_mem_all rest⟩

end

/-! ## Line breaks -/

theorem newline_not_mem_escapeAttribute (s : List Char) : '\n' ∉ escapeAttribute s := by
  have each (c : Char) : '\n' ∉ escapeAttributeChar c := by
    unfold escapeAttributeChar
    split
    · decide
    · rename_i other
      unfold escapeChar
      split
      all_goals first
        | decide
        | exact fun here => other (List.mem_singleton.mp here).symm
  intro member
  obtain ⟨c, _, here⟩ := List.mem_flatMap.mp member
  exact each c here

theorem newline_not_mem_escapeText {s : List Char} (plain : '\n' ∉ s) : '\n' ∉ escapeText s := by
  intro member
  obtain ⟨c, here, escaped⟩ := List.mem_flatMap.mp member
  unfold escapeChar at escaped
  split at escaped
  all_goals first
    | exact absurd escaped (by decide)
    | exact plain (List.mem_singleton.mp escaped ▸ here)

theorem newline_not_mem_print_attribute {a : Attribute α} (plain : '\n' ∉ a.name.toList) :
    '\n' ∉ a.print write := by
  have escaped := newline_not_mem_escapeAttribute (a.plainValue write)
  simp [Attribute.print, plain, escaped]

theorem newline_not_mem_printStart {name : String} {attributes : List (Attribute α)}
    (plain : '\n' ∉ name.toList) (plain' : ∀ a ∈ attributes, '\n' ∉ a.name.toList) :
    '\n' ∉ printStart write name attributes := by
  unfold printStart
  rw [List.mem_append, List.mem_flatMap]
  rintro (here | ⟨a, member, here⟩)
  · exact plain here
  · exact newline_not_mem_print_attribute (plain' a member) here

theorem IsToken.newline_not_mem {token : List Char} (made : IsToken write known token)
    (plain : ∀ word ∈ known, '\n' ∉ word.toList) : '\n' ∉ token := by
  have inside {name : String} {attributes : List (Attribute α)} (here : name ∈ known)
      (names : ∀ a ∈ attributes, a.name ∈ known) : '\n' ∉ printStart write name attributes :=
    newline_not_mem_printStart (plain name here) fun a member => plain a.name (names a member)
  cases made with
  | text here => exact newline_not_mem_escapeText (plain _ here)
  | empty here names => simp [emptyTag, inside here names]
  | start here names => simp [startTag, inside here names]
  | ending here => simp [endTag, plain _ here]

theorem newline_not_mem_print {tree : Markup α} (plain : ∀ word ∈ tree.words, '\n' ∉ word.toList) :
    '\n' ∉ tree.print write := by
  rw [print_eq, List.mem_flatten]
  rintro ⟨token, member, here⟩
  exact (isToken_of_mem (List.Subset.refl _) token member).newline_not_mem plain here

/-! ## Lines -/

/-- The lines of a text, without the blanks at their starts. -/
def bareLines (s : List Char) : List (List Char) :=
  (Text.splitAt '\n' s).map (List.dropWhile (· = ' '))

/-- A text that is one line and is not indented. -/
structure IsLine (s : List Char) : Prop where
  oneLine : '\n' ∉ s
  start : s.head? ≠ some ' '

theorem bareLines_line {s : List Char} (line : IsLine s) (level : Nat) (rest : List Char) :
    bareLines (Markup.line level s ++ rest) = s :: bareLines rest := by
  have one_line : '\n' ∉ List.replicate (2 * level) ' ' ++ s := by
    rw [List.mem_append, List.mem_replicate]
    rintro (⟨_, blank⟩ | here)
    · exact absurd blank (by decide)
    · exact line.oneLine here
  have bare : (List.replicate (2 * level) ' ' ++ s).dropWhile (· = ' ') = s := by
    rw [List.dropWhile_append_of_pos]
    · cases s with
      | nil => rfl
      | cons c s =>
          apply List.dropWhile_cons_of_neg
          intro blank
          exact line.start (congrArg some (of_decide_eq_true blank))
    · intro c member
      rw [List.eq_of_mem_replicate member]
      rfl
  rw [Markup.line, List.append_assoc, List.singleton_append, bareLines,
    Text.splitAt_append_cons one_line, List.map_cons, bare]
  rfl

theorem head?_escapeText {s : List Char} (start : s.head? ≠ some ' ') :
    (escapeText s).head? ≠ some ' ' := by
  cases s with
  | nil => exact start
  | cons c s =>
      rw [escapeText, List.flatMap_cons]
      unfold escapeChar
      split
      all_goals first
        | exact start
        | simp

theorem IsToken.isLine {token : List Char} (made : IsToken write known token)
    (lines : ∀ word ∈ known, IsLine word.toList) : IsLine token where
  oneLine := made.newline_not_mem fun word member => (lines word member).oneLine
  start := by
    cases made with
    | text here => exact head?_escapeText (lines _ here).start
    | empty _ _ | start _ _ | ending _ => exact fun none => nomatch none

mutual

/-- The lines of a tree are its tags and texts. -/
theorem bareLines_printLines {tree : Markup α} (lines : ∀ token ∈ tree.tokens write, IsLine token)
    (level : Nat) (rest : List Char) :
    bareLines (tree.printLines write level ++ rest) = tree.tokens write ++ bareLines rest := by
  match tree with
  | text s => exact bareLines_line (List.forall_mem_singleton.mp lines) level rest
  | element name attributes [] =>
      exact bareLines_line (List.forall_mem_singleton.mp lines) level rest
  | element name attributes (child :: others) =>
      rw [tokens_element_cons, List.forall_mem_cons, List.forall_mem_append,
        List.forall_mem_singleton] at lines
      obtain ⟨first, inside, last⟩ := lines
      have printed : (element name attributes (child :: others)).printLines write level =
          line level (startTag write name attributes) ++
            (printAllLines write (level + 1) (child :: others) ++ line level (endTag name)) := rfl
      rw [printed, List.append_assoc, bareLines_line first, List.append_assoc,
        bareLines_printAllLines inside, bareLines_line last, tokens_element_cons, List.cons_append,
        List.append_assoc]
      rfl

theorem bareLines_printAllLines {trees : List (Markup α)}
    (lines : ∀ token ∈ allTokens write trees, IsLine token) (level : Nat) (rest : List Char) :
    bareLines (printAllLines write level trees ++ rest) = allTokens write trees ++ bareLines rest := by
  match trees with
  | [] => rfl
  | tree :: trees =>
      obtain ⟨first, others⟩ := List.forall_mem_append.mp lines
      rw [printAllLines, List.append_assoc, bareLines_printLines first,
        bareLines_printAllLines others, allTokens, List.append_assoc]

end

/-! ## The end of an element -/

theorem left_not_mem_escapeText (s : List Char) : '<' ∉ escapeText s := by
  intro member
  obtain ⟨c, _, here⟩ := List.mem_flatMap.mp member
  unfold escapeChar at here
  split at here
  all_goals first
    | exact absurd here (by decide)
    | rename_i other _ _ _
      exact other (List.mem_singleton.mp here).symm

theorem IsToken.ne_endTag {token : List Char} {name : String} (made : IsToken write known token)
    (apart : ∀ word ∈ known, word ≠ name ∧ word.toList.head?.any (· ≠ '/')) :
    token ≠ endTag name := by
  have open_tag {other : String} {attributes : List (Attribute α)} (here : other ∈ known)
      (rest : List Char) : '<' :: printStart write other attributes ++ rest ≠ endTag name := by
    obtain ⟨c, first, no_slash⟩ := (Option.any_eq_true _ _).mp (apart other here).2
    obtain ⟨cs, chars⟩ := List.head?_eq_some_iff.mp first
    intro same
    simp only [printStart, endTag, chars, List.cons_append, List.cons.injEq, true_and] at same
    exact of_decide_eq_true no_slash same.1
  cases made with
  | text here =>
      intro same
      apply left_not_mem_escapeText
      rw [same]
      exact List.mem_cons_self
  | empty here _ => exact open_tag here _
  | start here _ => exact open_tag here _
  | ending here =>
      intro same
      have names := List.append_cancel_right same
      simp only [List.cons.injEq, true_and, String.toList_inj] at names
      exact (apart _ here).1 names

end DiagramMarkup.Markup
