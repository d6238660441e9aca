import DiagramMarkup.Proofs.References.Nodes

/-! # Notes that are linked by relation lines

In a class diagram a relation line with a note at an end attaches the note to the other end and enters
no relation. The other end becomes a class unless it is one, even if it is a note itself.
-/

namespace DiagramMarkup.ClassDiagram

open Text Phrase

variable {d : ClassDiagram} {arrow : Arrow} {notes : List Note} {name note target : String}

def leftName (arrow : Arrow) : String :=
  String.ofList (unquote arrow.left)

def rightName (arrow : Arrow) : String :=
  String.ofList (unquote arrow.right)

/-- A note that an arrow has at an end, and the other end. The left end comes first. -/
def Links (d : ClassDiagram) (arrow : Arrow) (note target : String) : Prop :=
  d.namesNote (leftName arrow) = true ∧ note = leftName arrow ∧ target = rightName arrow ∨
    d.namesNote (leftName arrow) = false ∧ d.namesNote (rightName arrow) = true ∧
      note = rightName arrow ∧ target = leftName arrow

theorem exists_links
    (linked : d.namesNote (leftName arrow) = true ∨ d.namesNote (rightName arrow) = true) :
    ∃ note target, d.Links arrow note target := by
  cases left : d.namesNote (leftName arrow) with
  | true => exact ⟨_, _, .inl ⟨left, rfl, rfl⟩⟩
  | false =>
      rw [left] at linked
      exact ⟨_, _, .inr ⟨left, linked.resolve_left Bool.false_ne_true, rfl, rfl⟩⟩

theorem Links.namesNote (links : d.Links arrow note target) : d.namesNote note = true := by
  rcases links with ⟨left, rfl, _⟩ | ⟨_, right, rfl, _⟩
  · exact left
  · exact right

theorem Links.namesNote_target_iff (links : d.Links arrow note target) :
    d.namesNote target = true ↔
      d.namesNote (leftName arrow) = true ∧ d.namesNote (rightName arrow) = true := by
  rcases links with ⟨left, _, rfl⟩ | ⟨left, _, _, rfl⟩
  · exact (and_iff_right left).symm
  · rw [left]
    exact (and_iff_left_of_imp fun none => absurd none Bool.false_ne_true).symm

theorem Links.relate_eq (links : d.Links arrow note target) :
    d.relate arrow = d.attach note target := by
  unfold relate
  rcases links with ⟨left, rfl, rfl⟩ | ⟨left, right, rfl, rfl⟩
  · exact if_pos left
  · exact (if_neg (Bool.eq_false_iff.mp left)).trans (if_pos right)

theorem namesNote_iff :
    d.namesNote name = true ↔ name ∉ d.classes.keys ∧ ∃ note ∈ d.notes, note.name = name := by
  rw [ClassDiagram.namesNote, Bool.and_eq_true, Bool.not_eq_true', List.any_eq_true,
    ← Bool.not_eq_true, Table.contains_iff]
  simp only [decide_eq_true_eq]

/-- The first note of a name gets another target, and everything else stays. -/
def Anchored (notes anchored : List Note) (name target : String) : Prop :=
  ∃ before note behind, notes = before ++ note :: behind ∧ note.name = name ∧
    (∀ other ∈ before, other.name ≠ name) ∧
    anchored = before ++ { note with target := some target } :: behind

theorem anchored_anchor (known : ∃ note ∈ notes, note.name = name) (target : String) :
    Anchored notes (anchor notes name target) name target := by
  induction notes with
  | nil =>
      obtain ⟨_, member, _⟩ := known
      exact absurd member List.not_mem_nil
  | cons note notes ih =>
      rw [anchor]
      by_cases here : note.name = name
      · rw [if_pos here]
        exact ⟨[], note, notes, rfl, here, fun _ none => absurd none List.not_mem_nil, rfl⟩
      · rw [if_neg here]
        obtain ⟨before, first, behind, split, same, earlier, anchored⟩ :=
          ih (by simpa [here] using known)
        refine ⟨note :: before, first, behind, by rw [split]; rfl, same, ?_, by rw [anchored]; rfl⟩
        exact List.forall_mem_cons.mpr ⟨here, earlier⟩

/-- An arrow with a note at an end attaches that note, and nothing else happens to notes and relations.
At most the other end becomes a class. It is a class with the name of a note just where both ends are
notes. -/
theorem relate_of_note (d : ClassDiagram) (arrow : Arrow)
    (linked : d.namesNote (leftName arrow) = true ∨ d.namesNote (rightName arrow) = true) :
    ∃ note target, d.Links arrow note target ∧
      (d.relate arrow).relations = d.relations ∧
      Anchored d.notes (d.relate arrow).notes note target ∧
      (d.relate arrow).classes = d.classes.insertNew target (.bare target .plain) ∧
      ((∃ name ∈ (d.relate arrow).classes.keys, name ∉ d.classes.keys ∧
          ∃ note ∈ d.notes, note.name = name) ↔
        d.namesNote (leftName arrow) = true ∧ d.namesNote (rightName arrow) = true) := by
  obtain ⟨note, target, links⟩ := exists_links linked
  refine ⟨note, target, links, ?_, ?_, ?_, ?_⟩
  · rw [links.relate_eq]
    rfl
  · rw [links.relate_eq]
    exact anchored_anchor (namesNote_iff.mp links.namesNote).2 target
  · rw [links.relate_eq]
    rfl
  · have keys : ∀ name, name ∈ (d.relate arrow).classes.keys ↔
        name ∈ d.classes.keys ∨ name = target := by
      rw [links.relate_eq]
      exact fun _ => mem_ensure
    rw [← links.namesNote_target_iff, namesNote_iff]
    constructor
    · rintro ⟨name, member, new, named⟩
      obtain rfl := ((keys name).mp member).resolve_left new
      exact ⟨new, named⟩
    · exact fun ⟨new, named⟩ => ⟨target, (keys target).mpr (.inr rfl), new, named⟩

/-- A note at the right end is attached to the class at the left end. -/
theorem relate_class_to_note :
    ∃ d : ClassDiagram, ∃ arrow : Arrow, arrow? "A --> N1".toList = some arrow ∧
      d.notes = [⟨"N1", "a", none⟩] ∧ d.classes.keys = ["A"] ∧
      (d.namesNote (leftName arrow) = true ∨ d.namesNote (rightName arrow) = true) ∧
      (d.relate arrow).relations = [] ∧
      ¬ ∃ name ∈ (d.relate arrow).classes.keys, name ∉ d.classes.keys ∧
        ∃ note ∈ d.notes, note.name = name := by
  let d := (readAll turn {} [⟨1, "note \"a\" as N1"⟩, ⟨2, "class A"⟩]).1
  let arrow : Arrow := {
    left := "A".toList, right := "N1".toList, leftHead := .bare, rightHead := .pointer
    dotted := false, leftCount := none, rightCount := none, label := none }
  have linked : d.namesNote (leftName arrow) = true ∨ d.namesNote (rightName arrow) = true := by
    decide +kernel
  have one : ¬ (d.namesNote (leftName arrow) = true ∧ d.namesNote (rightName arrow) = true) := by
    decide +kernel
  obtain ⟨note, target, _, relations, _, _, both⟩ := relate_of_note d arrow linked
  have before : d.relations = [] := by decide +kernel
  exact ⟨d, arrow, by decide +kernel, by decide +kernel, by decide +kernel, linked,
    relations.trans before, fun here => one (both.mp here)⟩

/-- A note that is linked to a note makes a class of it, and loses its name to that class. -/
theorem readAll_linked_notes :
    ∃ d, readAll turn {} [⟨1, "note \"a\" as N1"⟩, ⟨2, "note \"b\" as N2"⟩] = (d, []) ∧
      d.namesNote "N1" = true ∧ d.namesNote "N2" = true ∧ d.classes.keys = [] ∧
      (turn d ⟨3, "N1 .. N2"⟩ []).state.classes.keys = ["N2"] ∧
      (turn d ⟨3, "N1 .. N2"⟩ []).state.settleNotes.notes.map Note.name = ["N1", "note-1"] := by
  refine ⟨(readAll turn {} [⟨1, "note \"a\" as N1"⟩, ⟨2, "note \"b\" as N2"⟩]).1, ?_⟩
  decide +kernel

end DiagramMarkup.ClassDiagram
