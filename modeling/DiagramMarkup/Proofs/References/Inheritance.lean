import DiagramMarkup.Proofs.References.Parents

/-! # Parents that were declared

A class can be declared by a word, by a text in quotes, or by a word with type parameters. With the same
text in a list of parents the class is found again just where its name is the text as it is written, so
that a class in quotes or with type parameters is missed.
-/

namespace DiagramMarkup.ClassDiagram

open Text Pattern Phrase

variable {d : ClassDiagram} {s t : List Char} {c : Char}

/-! ## Texts of classes -/

/-- The text of a class: a word, a text in quotes, or a word with type parameters. -/
inductive ClassText
  | word (name : Word)
  | quoted (name : List Char) (notEmpty : name ≠ []) (plain : ∀ c ∈ name, c ≠ '"' ∧ c ≠ '\n')
  | generic (name : Word) (parameters : List Char) (line : '\n' ∉ parameters)

namespace ClassText

def chars : ClassText → List Char
  | word name => name.chars
  | quoted name _ _ => '"' :: name ++ ['"']
  | generic name parameters _ => name.chars ++ ('<' :: parameters ++ ['>'])

variable {text : ClassText}

theorem line_chars : '\n' ∉ text.chars := by
  cases text with
  | word name => exact name.not_mem rfl
  | quoted name notEmpty plain =>
      simp only [chars, List.cons_append, List.mem_cons, List.mem_append, List.not_mem_nil, or_false]
      rintro (quote | inside | quote)
      · exact absurd quote (by decide)
      · exact (plain _ inside).2 rfl
      · exact absurd quote (by decide)
  | generic name parameters line =>
      simp only [chars, List.cons_append, List.mem_cons, List.mem_append, List.not_mem_nil, or_false]
      rintro (inside | mark | inside | mark)
      · exact name.not_mem rfl inside
      · exact absurd mark (by decide)
      · exact line inside
      · exact absurd mark (by decide)

theorem opens_word (w : Word) (s : List Char) : Opens (w.chars ++ s) := by
  obtain ⟨c, others, same⟩ := List.exists_cons_of_ne_nil w.chars_ne_nil
  have first : c ∈ w.chars := same ▸ List.mem_cons_self
  have apart {mark : Char} (other : isWord mark = false) : c ≠ mark := by
    rintro rfl
    exact w.not_mem other first
  exact ⟨c, others ++ s, by rw [same]; rfl, w.full first, apart rfl, apart rfl, apart rfl⟩

theorem opens_chars (text : ClassText) : Opens text.chars := by
  cases text with
  | word name =>
      rw [chars, ← List.append_nil name.chars]
      exact opens_word name []
  | quoted name notEmpty plain => exact ⟨'"', _, rfl, rfl, by decide, by decide, by decide⟩
  | generic name parameters line => exact opens_word name _

theorem exists_getLast? (text : ClassText) :
    ∃ c, text.chars.getLast? = some c ∧ isBlank c = false ∧ c ≠ ',' := by
  cases text with
  | word name =>
      obtain ⟨c, last⟩ := Option.isSome_iff_exists.mp (List.getLast?_isSome.mpr name.chars_ne_nil)
      have member := List.mem_of_getLast? last
      exact ⟨c, last, name.full member, fun same => name.not_mem (by decide) (same ▸ member)⟩
  | quoted name notEmpty plain => exact ⟨'"', List.getLast?_concat, rfl, by decide⟩
  | generic name parameters line =>
      exact ⟨'>', by rw [chars, ← List.append_assoc, List.getLast?_concat], rfl, by decide⟩

theorem trim_chars : trim text.chars = text.chars := by
  obtain ⟨c, last, full, _⟩ := text.exists_getLast?
  obtain ⟨b, others, same, first, -⟩ := text.opens_chars
  refine trim_eq_self (fun d here => ?_) fun d here => ?_
  · rw [same] at here
    exact Option.some.inj here ▸ first
  · exact Option.some.inj (last.symm.trans here) ▸ full

end ClassText

/-- A text without the start of a body, of a stereotype or of another list of parents. -/
def IsPlain (s : List Char) : Prop :=
  '{' ∉ s ∧ ¬ ['<', '<'] <:+: s ∧ parentPattern.occurs s = false

theorem IsPlain.spelling_eq (plain : IsPlain s) (trimmed : trim s = s) : spelling s = s := by
  have kept : ∀ c ∈ s, (!decide (c = '{')) = true := by
    intro c member
    rw [Bool.not_eq_true', decide_eq_false_iff_not]
    rintro rfl
    exact plain.1 member
  rw [spelling, trimmed, fst_cutBody, List.takeWhile_eq_self_iff.mpr kept, trimmed,
    takeStereotype_of_not_bracketed plain.2.1, trimmed]

theorem IsPlain.splits_eq (plain : IsPlain s) : parentPattern.splits s = (s, []) :=
  splits_of_find?_none (Option.not_isSome_iff_eq_none.mp (Bool.eq_false_iff.mp plain.2.2))

theorem IsPlain.takeParents_eq (plain : IsPlain s) : takeParents s = (s, []) := by
  unfold takeParents
  rw [plain.splits_eq]
  rfl

theorem IsPlain.listed_eq (plain : IsPlain s) (kind : RelationKind) :
    listed kind s = (pieces s).map (·, kind) := by
  rw [listed, plain.takeParents_eq, plain.splits_eq, List.append_nil]

/-! ## Identities -/

theorem IsPlain.identity_eq (plain : IsPlain s) (trimmed : trim s = s) :
    identity s = (nameAndLabel (stripColor (takeGeneric s).1)).1 := by
  rw [identity, plain.spelling_eq trimmed, plain.takeParents_eq]

theorem isPlain_word (w : Word) : IsPlain w.chars := by
  have unread : ∀ rest, rest <:+ w.chars → parentPattern rest = [] := by
    intro rest suffix
    refine bind_eq_nil ?_ _
    cases rest with
    | nil => rfl
    | cons c rest => exact if_neg (Bool.eq_false_iff.mp (w.full (suffix.subset List.mem_cons_self)))
  refine ⟨w.not_mem rfl, fun here => w.not_mem rfl (here.subset List.mem_cons_self), ?_⟩
  rw [occurs, find?_eq_none unread]
  rfl

theorem identity_word (w : Word) : identity w.chars = w.chars := by
  rw [(isPlain_word w).identity_eq w.trim_chars, takeGeneric_of_not_mem (w.not_mem rfl)]
  exact name_of_word w

theorem identity_quoted {name : List Char} {notEmpty : name ≠ []}
    {inner : ∀ c ∈ name, c ≠ '"' ∧ c ≠ '\n'}
    (plain : IsPlain (ClassText.quoted name notEmpty inner).chars)
    (whole : ¬ HoldsAs (ClassText.quoted name notEmpty inner).chars) :
    identity (ClassText.quoted name notEmpty inner).chars = name := by
  have trimmed := (ClassText.quoted name notEmpty inner).trim_chars
  rw [plain.identity_eq trimmed]
  have last : ('"' :: name ++ ['"']).getLast? = some '"' := List.getLast?_concat
  have open_end : before? ['>'] ('"' :: name ++ ['"']) = none := by
    refine before?_eq_none_iff.mpr fun ⟨front, same⟩ => ?_
    rw [← same, List.getLast?_concat] at last
    exact absurd (Option.some.inj last) (by decide)
  have no_parameters : takeGeneric ('"' :: name ++ ['"']) = ('"' :: name ++ ['"'], none) := by
    rw [takeGeneric, open_end]
    rfl
  rw [← trimmed] at whole
  rw [ClassText.chars] at trimmed whole ⊢
  rw [no_parameters, stripColor_of_getLast? last rfl rfl, nameAndLabel_of_not_holdsAs whole, trimmed,
    unquote_quoted]

theorem identity_generic {w : Word} {parameters : List Char} {line : '\n' ∉ parameters}
    (plain : IsPlain (ClassText.generic w parameters line).chars) (some : parameters ≠ [])
    (flat : '<' ∉ parameters ∧ '>' ∉ parameters) :
    identity (ClassText.generic w parameters line).chars = w.chars := by
  rw [plain.identity_eq (ClassText.generic w parameters line).trim_chars]
  have taken : (takeGeneric (w.chars ++ ('<' :: parameters ++ ['>']))).1 = w.chars := by
    have read : (parameters.isEmpty || decide ('>' ∈ parameters) || !w.chars.all inLine) = false := by
      have all : w.chars.all inLine = true := List.all_eq_true.mpr fun c member =>
        decide_eq_true fun feed => w.not_mem rfl (feed ▸ member)
      rw [List.isEmpty_eq_false_iff.mpr some, decide_eq_false flat.2, all]
      rfl
    have bare : trimEnd w.chars = w.chars := trimEnd_eq_self fun _ last =>
      w.full (List.mem_of_getLast? last)
    rw [takeGeneric, ← List.append_assoc, before?_append, Option.bind_some, cutLast_append _ flat.1]
    dsimp only
    rw [bare, if_neg (Bool.eq_false_iff.mp read)]
  rw [ClassText.chars, taken]
  exact name_of_word w

/-! ## Names in lists -/

theorem pieces_append (front back : List Char) :
    pieces (front ++ ',' :: back) = pieces front ++ pieces back := by
  rw [pieces, splitAt_append, List.map_append, List.filter_append]
  rfl

theorem pieces_ne_nil (member : c ∈ s) (full : isBlank c = false) (other : c ≠ ',') :
    pieces s ≠ [] := by
  obtain ⟨piece, inside, has⟩ := exists_mem_splitAt member other
  have some : (trim piece).isEmpty = false :=
    List.isEmpty_eq_false_iff.mpr (List.ne_nil_of_mem (mem_trim full has))
  exact List.ne_nil_of_mem (List.mem_filter.mpr ⟨List.mem_map_of_mem inside, by rw [some]; rfl⟩)

theorem pieces_of_not_mem (plain : ',' ∉ s) (trimmed : trim s = s) (notEmpty : s ≠ []) :
    pieces s = [s] := by
  have full : (!s.isEmpty) = true := by rwa [Bool.not_eq_true', List.isEmpty_eq_false_iff]
  rw [pieces, splitAt_of_not_mem plain, List.map_singleton, trimmed]
  exact List.filter_cons_of_pos full

theorem two_le_length_pieces {text : ClassText} (comma : ',' ∈ text.chars) :
    2 ≤ (pieces text.chars).length := by
  obtain ⟨b, others, start, first, _, _, mark⟩ := text.opens_chars
  obtain ⟨c, last, full, other⟩ := text.exists_getLast?
  obtain ⟨front, back, split⟩ := List.append_of_mem comma
  -- The first and the last character are neither blanks nor commas, so there is a name on both sides.
  have ahead : pieces front ≠ [] := by
    rw [split] at start
    cases front with
    | nil => exact absurd (List.cons.inj start).1.symm mark
    | cons e front =>
        obtain rfl := (List.cons.inj start).1
        exact pieces_ne_nil List.mem_cons_self first mark
  have behind : pieces back ≠ [] := by
    rw [split, List.getLast?_append_of_ne_nil _ (List.cons_ne_nil _ _)] at last
    cases back with
    | nil => exact absurd (Option.some.inj last).symm other
    | cons e back =>
        rw [List.getLast?_cons_of_ne_nil (List.cons_ne_nil _ _)] at last
        exact pieces_ne_nil (List.mem_of_getLast? last) full other
  rw [split, pieces_append, List.length_append]
  have ahead := List.length_pos_iff.mpr ahead
  have behind := List.length_pos_iff.mpr behind
  omega

/-- A list gives just one name where the whole text is the name. -/
theorem listed_eq_singleton_iff {text : ClassText} (plain : IsPlain text.chars) (name : List Char)
    (kind : RelationKind) :
    listed kind text.chars = [(name, kind)] ↔ name = text.chars ∧ ',' ∉ text.chars := by
  have notEmpty : text.chars ≠ [] := by
    obtain ⟨b, others, start, _⟩ := text.opens_chars
    exact start ▸ List.cons_ne_nil _ _
  rw [plain.listed_eq]
  constructor
  · intro same
    have one : pieces text.chars = [name] :=
      List.map_injective_iff.mpr (fun _ _ same => congrArg Prod.fst same) same
    have whole : ',' ∉ text.chars := by
      intro comma
      have many := two_le_length_pieces comma
      rw [one] at many
      exact absurd many (Nat.lt_irrefl 1)
    rw [pieces_of_not_mem whole text.trim_chars notEmpty] at one
    exact ⟨(List.cons.inj one).1.symm, whole⟩
  · rintro ⟨rfl, whole⟩
    rw [pieces_of_not_mem whole text.trim_chars notEmpty]
    rfl

/-! ## Class lines -/

/-- The line that declares a class. -/
def classLine (number : Nat) (declaration : List Char) : Line :=
  ⟨number, String.ofList ("class ".toList ++ declaration)⟩

theorem turn_classLine (stops : Stops isBlank t) (line : '\n' ∉ t) (some : t ≠ [])
    (d : ClassDiagram) (number : Nat) (rest : List Line) :
    turn d (classLine number t) rest = d.declare .plain t rest := by
  have chars : (classLine number t).chars = "class ".toList ++ t := String.toList_ofList
  have note : noteOpening.read? ("class ".toList ++ t) = none := rfl
  have kind : kindPattern.Prefers ("class ".toList ++ t) .plain (' ' :: t) := rfl
  have reads : declarationPattern.Prefers ("class ".toList ++ t) (.plain, t) [] :=
    kind.bind <| (prefers_blank1 stops).bind <| (prefers_restOfLine line).bind <|
      prefers_unless_empty some _ _
  unfold turn gridNote?
  dsimp only
  rw [chars, note, reads.read?]

theorem turn_text (text : ClassText) (d : ClassDiagram) (number : Nat) (rest : List Line) :
    turn d (classLine number text.chars) rest = d.declare .plain text.chars rest := by
  obtain ⟨c, others, start, full, _⟩ := text.opens_chars
  have stops : Stops isBlank text.chars := by rw [start]; exact stops_cons.mpr full
  exact turn_classLine stops text.line_chars (by rw [start]; exact List.cons_ne_nil _ _) d number rest

theorem turn_inheriting (child : Word) (heritage : Heritage) (text : ClassText) (d : ClassDiagram)
    (number : Nat) (rest : List Line) :
    turn d (classLine number (inheriting child heritage text.chars)) rest =
      d.declare .plain (inheriting child heritage text.chars) rest := by
  have stops : Stops isBlank (inheriting child heritage text.chars) := by
    have first : Stops isBlank child.chars := fun _ => child.full_of_head?
    exact first.append child.chars_ne_nil _
  have line : '\n' ∉ inheriting child heritage text.chars := by
    have between : '\n' ∉ heritage.phrase := by cases heritage <;> decide
    rw [inheriting, List.mem_append, List.mem_append, not_or, not_or]
    exact ⟨child.not_mem rfl, between, text.line_chars⟩
  exact turn_classLine stops line (List.append_ne_nil_of_left_ne_nil child.chars_ne_nil _) d number rest

/-- A diagram becomes another one by a relation from a class to a parent, and enters no class but its
ends. -/
def InheritsOnly (d inherited : ClassDiagram) (child parent : String) (kind : RelationKind) : Prop :=
  inherited.relations = d.relations ++ [{ source := child, target := parent, kind }] ∧
    ∀ other ∈ inherited.classes.keys, other ∈ d.classes.keys ∨ other = child ∨ other = parent

theorem inheritsOnly_iff_listed (d : ClassDiagram) (child : Word) (heritage : Heritage)
    (text : ClassText) (number : Nat) (rest : List Line) (name : List Char) :
    InheritsOnly d (turn d (classLine number (inheriting child heritage text.chars)) rest).state
        (String.ofList child.chars) (String.ofList name) heritage.kind ↔
      listed heritage.kind (spelling text.chars) = [(name, heritage.kind)] := by
  obtain ⟨relations, keys⟩ := declare_inheriting child heritage text.opens_chars d .plain rest
  rw [turn_inheriting]
  constructor
  -- Relations tell the whole list, so that the entered classes need not be looked at.
  · rintro ⟨same, -⟩
    rw [relations] at same
    exact List.map_injective_iff.mpr (lineage_injective _) (List.append_cancel_left same)
  · intro one
    rw [one] at relations keys
    refine ⟨relations, fun other member => ?_⟩
    have member := (keys other).mp member
    rw [or_assoc] at member
    simpa using member

/-- The name of a class that is declared by a word is the word, and a list finds it. -/
theorem inheritsOnly_word (d : ClassDiagram) (child : Word) (heritage : Heritage) (parent : Word)
    (number : Nat) (rest : List Line) :
    identity parent.chars = parent.chars ∧
      InheritsOnly d (turn d (classLine number (inheriting child heritage parent.chars)) rest).state
        (String.ofList child.chars) (String.ofList parent.chars) heritage.kind := by
  have plain : IsPlain (ClassText.word parent).chars := isPlain_word parent
  refine ⟨identity_word parent, ?_⟩
  refine (inheritsOnly_iff_listed d child heritage (.word parent) number rest parent.chars).mpr ?_
  rw [plain.spelling_eq parent.trim_chars]
  exact (listed_eq_singleton_iff plain _ _).mpr ⟨rfl, parent.not_mem rfl⟩

/-- A list misses a class whose name is only a part of the text of its declaration. -/
theorem not_inheritsOnly_of_shorter (d : ClassDiagram) (child : Word) (heritage : Heritage)
    {text : ClassText} (plain : IsPlain text.chars) {name : List Char}
    (shorter : name.length < text.chars.length) (number : Nat) (rest : List Line) :
    ¬ InheritsOnly d (turn d (classLine number (inheriting child heritage text.chars)) rest).state
      (String.ofList child.chars) (String.ofList name) heritage.kind := by
  rw [inheritsOnly_iff_listed, plain.spelling_eq text.trim_chars, listed_eq_singleton_iff plain]
  rintro ⟨rfl, -⟩
  exact Nat.lt_irrefl _ shorter

/-- The name of a class in quotes is what stands between them, and a list misses it. -/
theorem not_inheritsOnly_quoted (d : ClassDiagram) (child : Word) (heritage : Heritage)
    {name : List Char} {notEmpty : name ≠ []} {inner : ∀ c ∈ name, c ≠ '"' ∧ c ≠ '\n'}
    (plain : IsPlain (ClassText.quoted name notEmpty inner).chars)
    (whole : ¬ HoldsAs (ClassText.quoted name notEmpty inner).chars) (number : Nat) (rest : List Line) :
    identity (ClassText.quoted name notEmpty inner).chars = name ∧
      ¬ InheritsOnly d (turn d (classLine number
          (inheriting child heritage (ClassText.quoted name notEmpty inner).chars)) rest).state
        (String.ofList child.chars) (String.ofList name) heritage.kind := by
  refine ⟨identity_quoted plain whole,
    not_inheritsOnly_of_shorter d child heritage plain ?_ number rest⟩
  simp only [ClassText.chars, List.length_append, List.length_cons]
  omega

/-- The name of a class with type parameters is what stands in front of them, and a list misses it. -/
theorem not_inheritsOnly_generic (d : ClassDiagram) (child : Word) (heritage : Heritage)
    {w : Word} {parameters : List Char} {line : '\n' ∉ parameters}
    (plain : IsPlain (ClassText.generic w parameters line).chars) (some : parameters ≠ [])
    (flat : '<' ∉ parameters ∧ '>' ∉ parameters) (number : Nat) (rest : List Line) :
    identity (ClassText.generic w parameters line).chars = w.chars ∧
      ¬ InheritsOnly d (turn d (classLine number
          (inheriting child heritage (ClassText.generic w parameters line).chars)) rest).state
        (String.ofList child.chars) (String.ofList w.chars) heritage.kind := by
  refine ⟨identity_generic plain some flat,
    not_inheritsOnly_of_shorter d child heritage plain ?_ number rest⟩
  simp only [ClassText.chars, List.length_append, List.length_cons]
  omega

/-- A class line enters the class of its identity. In a list, the same text gives this class alone just
where the names of the list are the identity, and with no other part of a class line in the text that
is where the identity is the text as it is written and no comma cuts it. -/
theorem inheritsOnly_iff (d : ClassDiagram) (child : Word) (heritage : Heritage) (text : ClassText)
    (number : Nat) (rest : List Line) (named : identity text.chars ≠ []) :
    String.ofList (identity text.chars) ∈
        (turn d (classLine number text.chars) rest).state.classes.keys ∧
      (InheritsOnly d (turn d (classLine number (inheriting child heritage text.chars)) rest).state
          (String.ofList child.chars) (String.ofList (identity text.chars)) heritage.kind ↔
        listed heritage.kind (spelling text.chars) = [(identity text.chars, heritage.kind)]) ∧
      (IsPlain text.chars →
        (InheritsOnly d (turn d (classLine number (inheriting child heritage text.chars)) rest).state
            (String.ofList child.chars) (String.ofList (identity text.chars)) heritage.kind ↔
          identity text.chars = text.chars ∧ ',' ∉ text.chars)) := by
  have listed_iff := inheritsOnly_iff_listed d child heritage text number rest (identity text.chars)
  refine ⟨?_, listed_iff, fun plain => ?_⟩
  · rw [turn_text]
    exact ((declare_of_named named d .plain rest).2 _).mpr (.inl (.inr rfl))
  · rw [listed_iff, plain.spelling_eq text.trim_chars]
    exact listed_eq_singleton_iff plain _ _

/-- A class without quotes and type parameters is found again in a list. -/
theorem inheritsOnly_base :
    ∃ base : ClassText, base.chars = "Base".toList ∧ identity base.chars ≠ [] ∧
      InheritsOnly {} (turn {} ⟨2, "class Child extends Base"⟩ []).state "Child" "Base" .inherits := by
  let child : Word := ⟨"Child".toList, by decide, List.all_eq_true.mp (by decide +kernel)⟩
  let base : ClassText := .word ⟨"Base".toList, by decide, List.all_eq_true.mp (by decide +kernel)⟩
  have named : identity base.chars ≠ [] := by decide +kernel
  have plain : IsPlain base.chars := ⟨by decide, by decide, by decide +kernel⟩
  have whole : identity base.chars = base.chars ∧ ',' ∉ base.chars := by decide +kernel
  have line : classLine 2 (inheriting child .inherits base.chars) =
      ⟨2, "class Child extends Base"⟩ := by decide +kernel
  have names : String.ofList child.chars = "Child" ∧ String.ofList (identity base.chars) = "Base" := by
    decide +kernel
  have met := ((inheritsOnly_iff {} child .inherits base 2 [] named).2.2 plain).mpr whole
  rw [line, names.1, names.2] at met
  exact ⟨base, rfl, named, met⟩

/-- A class in quotes is not the parent that a list with the same text names, and neither is a class
with type parameters. -/
theorem readAll_phantom_parents :
    (∃ d, readAll turn {} [⟨1, "class \"Order Line\""⟩, ⟨2, "class Child extends \"Order Line\""⟩] =
        (d, []) ∧
      d.classes.keys = ["Order Line", "Child", "\"Order Line\""] ∧
      d.relations = [{ source := "Child", target := "\"Order Line\"", kind := .inherits }]) ∧
    ∃ d, readAll turn {} [⟨1, "class Box<T>"⟩, ⟨2, "class Child implements Box<T>"⟩] = (d, []) ∧
      d.classes.keys = ["Box", "Child", "Box<T>"] ∧
      d.relations = [{ source := "Child", target := "Box<T>", kind := .implements }] := by
  refine ⟨⟨(readAll turn {} [⟨1, "class \"Order Line\""⟩,
    ⟨2, "class Child extends \"Order Line\""⟩]).1, ?_⟩,
    (readAll turn {} [⟨1, "class Box<T>"⟩, ⟨2, "class Child implements Box<T>"⟩]).1, ?_⟩
  · decide +kernel
  · decide +kernel

end DiagramMarkup.ClassDiagram
