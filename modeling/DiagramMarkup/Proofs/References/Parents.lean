import DiagramMarkup.Proofs.Phrase.Aliases
import DiagramMarkup.Proofs.Phrase.Declarations
import DiagramMarkup.Proofs.References.Nodes

/-! # Declarations of classes with parents

What a class is called is worked out of its declaration step by step: without the body, the stereotype,
the parents, the type parameters, the color and the quotes. What stands in a list of parents is only
cut at the commas. A declaration with a name enters the class, its parents and the relations to them.
-/

namespace DiagramMarkup.ClassDiagram

open Text Pattern Phrase

/-! ## Declarations -/

/-- A declaration without its body and its stereotype. -/
def spelling (declaration : List Char) : List Char :=
  (takeStereotype (cutBody (trim declaration)).1).1

def parents (declaration : List Char) : List (List Char × RelationKind) :=
  (takeParents (spelling declaration)).2

/-- The name of the class that is declared. -/
def identity (declaration : List Char) : List Char :=
  (nameAndLabel (stripColor (takeGeneric (takeParents (spelling declaration)).1).1)).1

/-- The relation of a class to a parent. -/
def lineage (name : String) (parent : List Char × RelationKind) : Relation :=
  { source := name, target := String.ofList parent.1, kind := parent.2 }

theorem lineage_injective (name : String) : Function.Injective (lineage name) := by
  intro parent parent' same
  obtain ⟨_, target, kind, _⟩ := Relation.mk.inj same
  exact Prod.ext (String.ofList_injective target) kind

variable {d : ClassDiagram} {name other : String} {s t : List Char} {c : Char}

theorem relations_addParents (name : String) (parents : List (List Char × RelationKind))
    (d : ClassDiagram) :
    (parents.foldl (addParent name) d).relations = d.relations ++ parents.map (lineage name) := by
  induction parents generalizing d with
  | nil => exact (List.append_nil _).symm
  | cons parent parents ih =>
      rw [List.foldl_cons, ih, List.map_cons, List.append_cons]
      rfl

theorem mem_addParents {parents : List (List Char × RelationKind)} :
    other ∈ (parents.foldl (addParent name) d).classes.keys ↔
      other ∈ d.classes.keys ∨ ∃ parent ∈ parents, other = String.ofList parent.1 := by
  induction parents generalizing d with
  | nil => simp
  | cons parent parents ih =>
      have first : other ∈ (addParent name d parent).classes.keys ↔
          other ∈ d.classes.keys ∨ other = String.ofList parent.1 := mem_ensure
      rw [List.foldl_cons, ih, first, or_assoc]
      simp only [List.exists_mem_cons_iff]

theorem declare_of_named (named : identity t ≠ []) (d : ClassDiagram) (kind : ClassKind)
    (rest : List Line) :
    (d.declare kind t rest).state.relations =
        d.relations ++ (parents t).map (lineage (String.ofList (identity t))) ∧
      ∀ other, other ∈ (d.declare kind t rest).state.classes.keys ↔
        (other ∈ d.classes.keys ∨ other = String.ofList (identity t)) ∨
          ∃ parent ∈ parents t, other = String.ofList parent.1 := by
  have entered : ∃ described : ClassDiagram, described.relations = d.relations ∧
      (∀ other, other ∈ described.classes.keys ↔
        other ∈ d.classes.keys ∨ other = String.ofList (identity t)) ∧
      (d.declare kind t rest).state =
        (parents t).foldl (addParent (String.ofList (identity t))) described := by
    have full : ¬ (identity t).isEmpty = true := by rwa [List.isEmpty_iff]
    unfold declare
    dsimp only
    split
    · next empty => exact absurd empty full
    · refine ⟨_, ?_, fun other => ?_, rfl⟩
      · rfl
      · rw [keys_change, keys_change]
        exact mem_ensure
  obtain ⟨described, relations, keys, same⟩ := entered
  rw [same, relations_addParents, relations]
  refine ⟨rfl, fun other => ?_⟩
  rw [mem_addParents, keys]

/-! ## Lists of parents -/

/-- The two ways to name parents. -/
inductive Heritage
  | inherits
  | implements
deriving DecidableEq

namespace Heritage

def word : Heritage → String
  | inherits => "extends"
  | implements => "implements"

def kind : Heritage → RelationKind
  | inherits => .inherits
  | implements => .implements

/-- The word between blanks. -/
def phrase (heritage : Heritage) : List Char :=
  ' ' :: heritage.word.toList ++ [' ']

end Heritage

/-- The declaration of a class with a list of parents. -/
def inheriting (child : Word) (heritage : Heritage) (list : List Char) : List Char :=
  child.chars ++ (heritage.phrase ++ list)

/-- The names in a list. -/
def pieces (names : List Char) : List (List Char) :=
  ((splitAt ',' names).map trim).filter fun name => !name.isEmpty

/-- The parents that a text gives as a list, with those that follow if it goes on with another list. -/
def listed (kind : RelationKind) (s : List Char) : List (List Char × RelationKind) :=
  (pieces (parentPattern.splits s).1).map (·, kind) ++ (takeParents s).2

variable {child : Word} {heritage : Heritage}

theorem takeParents_inheriting (child : Word) (heritage : Heritage) (s : List Char) :
    takeParents (inheriting child heritage s) = (child.chars, listed heritage.kind s) := by
  have unread : ∀ c w, c :: w <:+ child.chars →
      parentPattern (c :: (w ++ (heritage.phrase ++ s))) = [] := by
    intro c w suffix
    have full : isBlank c = false := child.full (suffix.subset List.mem_cons_self)
    refine bind_eq_nil ?_ _
    rw [one, if_neg (Bool.eq_false_iff.mp full)]
  have here : (parentPattern (heritage.phrase ++ s)).head? = some (heritage.kind, s) := by
    cases heritage <;> rfl
  have found : parentPattern.find? (inheriting child heritage s) =
      some (child.chars, heritage.kind, s) := by
    rw [inheriting, find?_append unread, find?_of_head? here, Option.map_some, List.append_nil]
  have shorter : s.length < (inheriting child heritage s).length := by
    simp only [inheriting, Heritage.phrase, List.length_append, List.length_cons, List.length_nil]
    omega
  unfold takeParents
  rw [splits_of_find? found shorter]
  exact Prod.ext child.trim_chars rfl

theorem takeGeneric_of_not_mem (plain : '>' ∉ s) : takeGeneric s = (s, none) := by
  have none : before? ['>'] s = none :=
    before?_eq_none_iff.mpr fun ends => plain (ends.subset (List.mem_singleton_self _))
  rw [takeGeneric, none]
  rfl

theorem fst_cutBody (s : List Char) :
    (cutBody s).1 = trim (s.takeWhile fun c => !decide (c = '{')) := by
  rw [← fst_cutAt, cutBody]
  cases cutAt (· = '{') s with
  | none => rfl
  | some parts =>
      dsimp only
      cases cutLast '}' parts.2 <;> rfl

/-- A text that starts neither with a blank nor with the mark of a part of its own. -/
def Opens (s : List Char) : Prop :=
  ∃ c others, s = c :: others ∧ isBlank c = false ∧ c ≠ '{' ∧ c ≠ '<' ∧ c ≠ ','

theorem spelling_append {front : List Char} (head : ∀ b, front.head? = some b → isBlank b = false)
    (body : '{' ∉ front) (mark : '<' ∉ front) (opens : Opens s) :
    spelling (front ++ s) = front ++ spelling s := by
  obtain ⟨c, others, rfl, full, no_body, no_mark, _⟩ := opens
  have kept : ∀ d ∈ front, (!decide (d = '{')) = true := by
    intro d member
    rw [Bool.not_eq_true', decide_eq_false_iff_not]
    rintro rfl
    exact body member
  have first : (c :: trimEnd others).takeWhile (fun c => !decide (c = '{')) =
      c :: (trimEnd others).takeWhile fun c => !decide (c = '{') :=
    List.takeWhile_cons_of_pos (by rw [decide_eq_false no_body]; rfl)
  -- Each step starts at a character that is no mark, so it leaves what stands in front alone.
  unfold spelling
  rw [trim_append_cons head full, trim_cons_of_full full, fst_cutBody, fst_cutBody,
    List.takeWhile_append_of_pos kept, first, trim_append_cons head full,
    trim_cons_of_full full, takeStereotype_append head mark full no_mark]

/-- What a declaration says of the parents is what the list says. -/
theorem spelling_inheriting (opens : Opens s) :
    spelling (inheriting child heritage s) = inheriting child heritage (spelling s) := by
  have plain {c : Char} (other : isWord c = false) (apart : c ∉ heritage.phrase) :
      c ∉ child.chars ++ heritage.phrase := by
    rw [List.mem_append, not_or]
    exact ⟨child.not_mem other, apart⟩
  rw [inheriting, inheriting, ← List.append_assoc, ← List.append_assoc]
  refine spelling_append ?_ (plain rfl ?_) (plain rfl ?_) opens
  · intro b first
    rw [List.head?_append_of_ne_nil _ child.chars_ne_nil] at first
    exact child.full (List.mem_of_head? first)
  · cases heritage <;> decide
  · cases heritage <;> decide

theorem name_of_word (w : Word) : (nameAndLabel (stripColor w.chars)).1 = w.chars := by
  have plain : ¬ HoldsAs (trim w.chars) := by
    rw [w.trim_chars]
    exact not_holdsAs_word w
  rw [stripColor_of_not_mem (w.not_mem rfl), nameAndLabel_of_not_holdsAs plain, w.trim_chars,
    w.unquote_chars]

theorem identity_inheriting (opens : Opens s) :
    identity (inheriting child heritage s) = child.chars := by
  rw [identity, spelling_inheriting opens, takeParents_inheriting,
    takeGeneric_of_not_mem (child.not_mem rfl)]
  exact name_of_word child

/-- A class line with a list enters the class and what the list gives. -/
theorem declare_inheriting (child : Word) (heritage : Heritage) (opens : Opens s) (d : ClassDiagram)
    (kind : ClassKind) (rest : List Line) :
    (d.declare kind (inheriting child heritage s) rest).state.relations = d.relations ++
        (listed heritage.kind (spelling s)).map (lineage (String.ofList child.chars)) ∧
      ∀ other, other ∈ (d.declare kind (inheriting child heritage s) rest).state.classes.keys ↔
        (other ∈ d.classes.keys ∨ other = String.ofList child.chars) ∨
          ∃ parent ∈ listed heritage.kind (spelling s), other = String.ofList parent.1 := by
  have name : identity (inheriting child heritage s) = child.chars := identity_inheriting opens
  have list : parents (inheriting child heritage s) = listed heritage.kind (spelling s) := by
    rw [parents, spelling_inheriting opens, takeParents_inheriting]
  have described := declare_of_named (t := inheriting child heritage s)
    (by rw [name]; exact child.chars_ne_nil) d kind rest
  rwa [name, list] at described

end DiagramMarkup.ClassDiagram
