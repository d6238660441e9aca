import DiagramMarkup.Proofs.Phrase.Declarations
import DiagramMarkup.Proofs.References.Endpoints
import DiagramMarkup.Proofs.Text.Words

/-! # Labels that are used as endpoints

A use case with an alias can be named by its label in parentheses, and an actor by its label between
colons. The label is kept with its written line breaks turned into line breaks, while an endpoint is
compared as it is written. So a label with a written line break is not found again.
-/

namespace DiagramMarkup.UseCaseDiagram

open Text Pattern Phrase

/-- A text that can stand in parentheses or between colons as a label. -/
structure PlainLabel where
  chars : List Char
  full : ∃ c ∈ chars, isBlank c = false
  plain : ∀ c ∈ chars, c ∉ ['(', ')', ':', '"', '<', '>', '#', '\n']

/-- The mark in front of a label. -/
def opening : UseCaseKind → Char
  | .useCase => '('
  | .actor => ':'

/-- The mark behind a label. -/
def closing : UseCaseKind → Char
  | .useCase => ')'
  | .actor => ':'

namespace PlainLabel

variable (label : PlainLabel) (kind : UseCaseKind) (name : Word)

/-- The label with the marks of a kind around it. -/
def token : List Char :=
  opening kind :: label.chars ++ [closing kind]

/-- The label with its marks and an alias for it. -/
def aliased : List Char :=
  label.token kind ++ (" as ".toList ++ name.chars)

/-- The label without the blanks at its ends. -/
def words : List Char :=
  trim label.chars

/-- Whether a line break is written out in the label. -/
def HasBreak : Prop :=
  ['\\', 'n'] <:+: label.words

variable {label kind name}

theorem not_mem {c : Char} (other : c ∈ ['(', ')', ':', '"', '<', '>', '#', '\n']) : c ∉ label.chars :=
  fun member => label.plain c member other

theorem chars_ne_nil : label.chars ≠ [] := by
  obtain ⟨c, member, _⟩ := label.full
  exact List.ne_nil_of_mem member

theorem nameOfToken_token : nameOfToken (label.token kind) = (label.words, kind) := by
  unfold nameOfToken
  cases kind with
  | useCase =>
      have inner : (after? ['('] (label.token .useCase)).bind (before? [')']) = some label.chars :=
        before?_append label.chars [')']
      rw [inner]
      rfl
  | actor =>
      have outer : (after? ['('] (label.token .actor)).bind (before? [')']) = none := rfl
      have inner : (after? [':'] (label.token .actor)).bind (before? [':']) = some label.chars :=
        before?_append label.chars [':']
      rw [outer, inner]
      rfl

theorem not_mem_closing : closing kind ∉ label.chars := by
  cases kind with
  | useCase => exact not_mem (by decide)
  | actor => exact not_mem (by decide)

/-! ## The line with the alias -/

theorem enclosed_token (label : PlainLabel) (kind : UseCaseKind) (t : List Char) :
    enclosed (opening kind) (closing kind) (label.token kind ++ t) = [(label.token kind, t)] := by
  have split : label.token kind ++ t = opening kind :: label.chars ++ closing kind :: t := by
    simp [token]
  rw [split]
  exact enclosed_append not_mem_closing chars_ne_nil t

theorem labelToken_token (t : List Char) :
    labelToken (label.token kind ++ t) = [(label.token kind, t)] := by
  cases kind with
  | useCase => exact congrArg (· ++ []) (label.enclosed_token .useCase t)
  | actor => exact label.enclosed_token .actor t

theorem endpoint_token (t : List Char) :
    endpoint dottedName (label.token kind ++ t) = [(label.token kind, t)] := by
  cases kind with
  | useCase => exact congrArg (· ++ []) (label.enclosed_token .useCase t)
  | actor => exact congrArg (· ++ []) (label.enclosed_token .actor t)

theorem arrow?_aliased : arrow? (label.aliased kind name) = none := by
  have none : arrowPattern (label.aliased kind name) = [] :=
    (bind_of_singleton (endpoint_token _) _).trans rfl
  rw [arrow?, read?, none]
  rfl

theorem names?_aliased :
    names? (label.aliased kind name) = some (name.chars, unescapeBreaks label.words) := by
  have stops : Stops isBlank name.chars := fun _ => name.full_of_head?
  have line : '\n' ∉ name.chars := name.not_mem (by decide)
  have token : labelToken.Prefers (label.aliased kind name) (label.token kind)
      (" as ".toList ++ name.chars) := congrArg List.head? (labelToken_token _)
  have reads :
      labelFirst.Prefers (label.aliased kind name) (label.token kind, some name.chars) [] := by
    refine token.bind (Prefers.bind (Prefers.optional (a := name.chars) (t := []) ?_) ?_)
    · exact (prefers_blank1 (stops_cons.mpr rfl)).bind <| (prefers_text "as" _).bind <|
        (prefers_blank1 stops).bind <| (prefers_restOfLine line).bind <|
          prefers_unless_empty name.chars_ne_nil _ _
    · exact Prefers.bind (rfl : ended.Prefers [] () []) (prefers_pure _ _)
  unfold names?
  rw [reads.read?]
  simp only [nameOfToken_token, Option.map_some, Option.getD_some, name.unquote_chars]

theorem not_mem_aliased {c : Char} (mark : c = '<' ∨ c = '#') : c ∉ label.aliased kind name := by
  have inside : c ∉ label.chars := not_mem (by rcases mark with rfl | rfl <;> decide)
  have behind : c ∉ name.chars := name.not_mem (by rcases mark with rfl | rfl <;> decide)
  have around : c ∉ [opening kind] ∧ c ∉ closing kind :: " as ".toList := by
    rcases mark with rfl | rfl <;> cases kind <;> decide
  simp only [aliased, token, List.cons_append, List.append_assoc, List.mem_cons, List.mem_append,
    List.nil_append] at around ⊢
  tauto

theorem trim_aliased : trim (label.aliased kind name) = label.aliased kind name := by
  refine trim_eq_self ?_ fun c last => ?_
  · cases kind with
    | useCase => exact fun c first => Option.some.inj first ▸ rfl
    | actor => exact fun c first => Option.some.inj first ▸ rfl
  · rw [aliased, ← List.append_assoc, List.getLast?_append_of_ne_nil _ name.chars_ne_nil] at last
    exact name.full (List.mem_of_getLast? last)

theorem declarationKind?_aliased :
    declarationKind? (label.aliased kind name) = some (kind, label.aliased kind name) := by
  cases kind with
  | useCase => rfl
  | actor =>
      have reads : (enclosed ':' ':').reads (label.aliased .actor name) = true := by
        have one : enclosed ':' ':' (label.aliased .actor name) =
            [(label.token .actor, " as ".toList ++ name.chars)] := label.enclosed_token .actor _
        rw [Pattern.reads, one]
        rfl
      exact if_pos reads

theorem declaration?_aliased :
    declaration? (label.aliased kind name) =
      some (String.ofList name.chars, String.ofList (unescapeBreaks label.words), kind) := by
  have stereotype : ¬ ['<', '<'] <:+: label.aliased kind name := fun here =>
    not_mem_aliased (.inl rfl) (here.subset List.mem_cons_self)
  rw [declaration?, takeStereotype_of_not_bracketed stereotype, trim_aliased,
    stripColor_of_not_mem (not_mem_aliased (.inr rfl)), declarationKind?_aliased]
  change (names? (label.aliased kind name)).bind _ = _
  rw [names?_aliased]
  rfl

theorem turn_aliased (draft : Draft) (number : Nat) (rest : List Line) :
    turn draft ⟨number, String.ofList (label.aliased kind name)⟩ rest =
      .took1 (draft.declare (String.ofList name.chars) (String.ofList (unescapeBreaks label.words))
        kind) := by
  have chars : (⟨number, String.ofList (label.aliased kind name)⟩ : Line).chars =
      label.aliased kind name := String.toList_ofList
  have plain : String.ofList (label.aliased kind name) ≠ "\x7d" := by
    intro same
    have same : label.aliased kind name = ['}'] := by
      rw [← String.toList_ofList (l := label.aliased kind name), same]
      rfl
    cases kind <;> cases same
  have note : noteOpening.read? (label.aliased kind name) = none := by cases kind <;> rfl
  have frame : boundaryPattern.read? (label.aliased kind name) = none := by cases kind <;> rfl
  unfold turn gridNote?
  dsimp only
  rw [if_neg plain, chars, note, frame]
  dsimp only
  rw [arrow?_aliased, declaration?_aliased]

end PlainLabel

/-! ## The label as an endpoint -/

/-- An element that an endpoint entered is labelled with its name. -/
def IsEntered (node : UseCaseNode) : Prop :=
  node.label = String.ofList (unescapeBreaks node.name.toList)

/-- Only a line break could make the label of an entered element another name. -/
theorem IsEntered.not_shadows {node : UseCaseNode} {token : List Char} (entered : IsEntered node)
    (line : '\n' ∉ (nameOfToken token).1) : ¬ Shadows node token := by
  rintro ⟨-, label, other⟩
  have same : unescapeBreaks node.name.toList = (nameOfToken token).1 :=
    String.ofList_injective (entered.symm.trans label)
  have whole : ¬ ['\\', 'n'] <:+: node.name.toList := fun here =>
    line (same ▸ mem_unescapeBreaks here)
  rw [unescapeBreaks_eq_self whole] at same
  exact other (by rw [writtenName, ← same, String.ofList_toList])

namespace Draft

variable {draft : Draft} {token : List Char} {name : String} {node : UseCaseNode}

/-- As the left or as the right end of a relation, an endpoint leads to an element and enters
nothing. -/
def Resolves (draft : Draft) (token : List Char) (name : String) : Prop :=
  draft.ensure token = (draft, name) ∧
    ∀ other, (draft.ensure other).1.ensure token = ((draft.ensure other).1, name)

theorem values_declare (new : name ∉ draft.diagram.nodes.keys) (label : String) (kind : UseCaseKind) :
    (draft.declare name label kind).diagram.nodes.values =
      draft.diagram.nodes.values ++ [{ name, label, kind, boundary := draft.boundaries.head? }] :=
  Table.values_modify_insertNew new _

theorem keys_declare (new : name ∉ draft.diagram.nodes.keys) (label : String) (kind : UseCaseKind) :
    (draft.declare name label kind).diagram.nodes.keys = draft.diagram.nodes.keys ++ [name] := by
  unfold declare
  rw [Table.keys_modify, Table.keys_insertNew, if_neg new]

theorem exists_values_ensure (draft : Draft) (token : List Char) :
    ∃ entered, (draft.ensure token).1.diagram.nodes.values = draft.diagram.nodes.values ++ entered ∧
      ∀ node ∈ entered, IsEntered node := by
  have nothing : ∃ entered, draft.diagram.nodes.values = draft.diagram.nodes.values ++ entered ∧
      ∀ node ∈ entered, IsEntered node :=
    ⟨[], (List.append_nil _).symm, fun _ member => absurd member List.not_mem_nil⟩
  rw [ensure_eq]
  split
  · exact nothing
  · split
    · exact nothing
    · next known =>
        refine ⟨_, values_declare (fun here => known (Table.contains_iff.mpr here)) _ _, ?_⟩
        rw [List.forall_mem_singleton, IsEntered, writtenName, String.toList_ofList]

theorem ensure_first {behind : List UseCaseNode} (first : draft.diagram.nodes.values = node :: behind)
    (known : node.name ∈ draft.diagram.nodes.keys) (kind : node.kind = (nameOfToken token).2)
    (label : node.label = writtenName token) (plain : ∀ other ∈ behind, ¬ Shadows other token) :
    draft.ensure token = (draft, node.name) := by
  by_cases same : node.name = writtenName token
  · rw [same] at known ⊢
    refine ensure_of_known known ?_
    rw [first, List.forall_mem_cons]
    exact ⟨fun shadows => shadows.2.2 same, plain⟩
  · have split : draft.diagram.nodes.values = [] ++ node :: behind := first
    exact ensure_of_shadows split ⟨kind, label, same⟩ fun _ here => nomatch here

end Draft

namespace PlainLabel

variable {label : PlainLabel} {kind : UseCaseKind} {name : Word} {draft : Draft} {frame : Option String}

/-- The element that the line with the alias declares. -/
def element (label : PlainLabel) (kind : UseCaseKind) (name : Word) (frame : Option String) :
    UseCaseNode :=
  { name := String.ofList name.chars
    label := String.ofList (unescapeBreaks label.words)
    kind
    boundary := frame }

theorem not_mem_words : '\n' ∉ label.words :=
  fun member => not_mem (by decide) (mem_of_mem_trim member)

theorem writtenName_token : writtenName (label.token kind) = String.ofList label.words := by
  rw [writtenName, nameOfToken_token]

theorem not_shadows_of_isEntered {node : UseCaseNode} (entered : IsEntered node) :
    ¬ Shadows node (label.token kind) :=
  entered.not_shadows (by rw [nameOfToken_token]; exact not_mem_words)

/-- A label without a written line break is kept as it is written. -/
theorem ensure_token (plain : ¬ label.HasBreak) {behind : List UseCaseNode}
    (first : draft.diagram.nodes.values = label.element kind name frame :: behind)
    (known : String.ofList name.chars ∈ draft.diagram.nodes.keys)
    (entered : ∀ node ∈ behind, IsEntered node) :
    draft.ensure (label.token kind) = (draft, String.ofList name.chars) := by
  refine Draft.ensure_first first known ?_ ?_ fun node here =>
    not_shadows_of_isEntered (entered node here)
  · rw [nameOfToken_token]
    rfl
  · rw [writtenName_token]
    exact congrArg String.ofList (unescapeBreaks_eq_self plain)

theorem resolves_token (plain : ¬ label.HasBreak)
    (alone : draft.diagram.nodes.values = [label.element kind name frame])
    (known : String.ofList name.chars ∈ draft.diagram.nodes.keys) :
    draft.Resolves (label.token kind) (String.ofList name.chars) := by
  refine ⟨ensure_token plain alone known fun _ here => (nomatch here), fun other => ?_⟩
  -- The other end may have entered an element, but behind this one and with no label of its own.
  obtain ⟨entered, values, plain_entered⟩ := draft.exists_values_ensure other
  rw [alone] at values
  exact ensure_token plain values (draft.keys_subset_ensure other known) plain_entered

/-- A label with a written line break is kept with a line break, which no endpoint has. -/
theorem ensure_token_of_hasBreak (written : label.HasBreak)
    (alone : draft.diagram.nodes.values = [label.element kind name frame])
    (keys : draft.diagram.nodes.keys = [String.ofList name.chars]) :
    (draft.ensure (label.token kind)).2 = String.ofList label.words ∧
      (draft.ensure (label.token kind)).1.diagram.nodes.keys =
        [String.ofList name.chars, String.ofList label.words] := by
  -- The written label has a backslash, and a word has none.
  have other : label.words ≠ name.chars := fun same =>
    name.not_mem (c := '\\') (by decide) (same ▸ written.subset List.mem_cons_self)
  have new : writtenName (label.token kind) ∉ draft.diagram.nodes.keys := by
    rw [keys, List.mem_singleton, writtenName_token]
    exact fun same => other (String.ofList_injective same)
  have plain : ∀ node ∈ draft.diagram.nodes.values, ¬ Shadows node (label.token kind) := by
    rw [alone, List.forall_mem_singleton]
    rintro ⟨-, same, -⟩
    rw [writtenName_token] at same
    exact not_mem_words (String.ofList_injective same ▸ mem_unescapeBreaks written)
  rw [Draft.ensure_of_new new plain, Draft.keys_declare new, keys, writtenName_token]
  exact ⟨rfl, rfl⟩

/-- The line with the alias enters one element. Its label as an endpoint leads to it just where no
line break is written in the label, and else enters another element. -/
theorem resolves_aliased (label : PlainLabel) (kind : UseCaseKind) (name : Word)
    (relations : List Relation) (notes : List Note) (boundaries : List String) (number : Nat)
    (rest : List Line) :
    ∃ draft : Draft,
      turn { diagram := { relations, notes }, boundaries }
        ⟨number, String.ofList (label.aliased kind name)⟩ rest = .took1 draft ∧
      draft.diagram.nodes.keys = [String.ofList name.chars] ∧
      (draft.Resolves (label.token kind) (String.ofList name.chars) ↔ ¬ label.HasBreak) ∧
      (label.HasBreak → (draft.ensure (label.token kind)).2 = String.ofList label.words ∧
        (draft.ensure (label.token kind)).1.diagram.nodes.keys =
          [String.ofList name.chars, String.ofList label.words]) := by
  let start : Draft := { diagram := { relations, notes }, boundaries }
  have new : String.ofList name.chars ∉ start.diagram.nodes.keys := List.not_mem_nil
  let draft :=
    start.declare (String.ofList name.chars) (String.ofList (unescapeBreaks label.words)) kind
  have alone : draft.diagram.nodes.values = [label.element kind name boundaries.head?] :=
    Draft.values_declare new _ kind
  have keys : draft.diagram.nodes.keys = [String.ofList name.chars] := Draft.keys_declare new _ kind
  have missed (written : label.HasBreak) := ensure_token_of_hasBreak written alone keys
  refine ⟨draft, turn_aliased start number rest, keys, ⟨fun resolves written => ?_, fun plain => ?_⟩,
    missed⟩
  · have same := (missed written).2
    rw [resolves.1, keys] at same
    exact absurd (congrArg List.length same) (by decide : 1 ≠ 2)
  · exact resolves_token plain alone (by rw [keys]; exact List.mem_singleton_self _)

/-- A use case is missed by its own label, and so is an actor. -/
theorem ensure_label_with_break :
    (∃ draft, readAll turn {} [⟨1, "(Sign\\nup) as SU"⟩] = (draft, []) ∧
      draft.diagram.nodes.keys = ["SU"] ∧ (draft.ensure "(Sign\\nup)".toList).2 = "Sign\\nup" ∧
      (draft.ensure "(Sign\\nup)".toList).1.diagram.nodes.keys = ["SU", "Sign\\nup"]) ∧
    ∃ draft, readAll turn {} [⟨1, ":Site\\nadmin: as A"⟩] = (draft, []) ∧
      draft.diagram.nodes.keys = ["A"] ∧ (draft.ensure ":Site\\nadmin:".toList).2 = "Site\\nadmin" ∧
      (draft.ensure ":Site\\nadmin:".toList).1.diagram.nodes.keys = ["A", "Site\\nadmin"] := by
  refine ⟨⟨(readAll turn {} [⟨1, "(Sign\\nup) as SU"⟩]).1, ?_⟩,
    (readAll turn {} [⟨1, ":Site\\nadmin: as A"⟩]).1, ?_⟩
  · decide +kernel
  · decide +kernel

end PlainLabel

end DiagramMarkup.UseCaseDiagram
