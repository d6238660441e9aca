import DiagramMarkup.Proofs.Notes.Names

/-! # Renaming of notes

The names that notes keep are those that no node has and no note before them was given by its author.
A note that gets another name takes none from a note behind it, because the names that are still to be
looked at count as taken, too.
-/

namespace DiagramMarkup.Note

variable {nodes earlier : List String} {next i : Nat} {notes renamed : List Note} {note new : Note}

/-- Notes that are renamed one after the other, given the names of the nodes, of the notes before them
and the number that the next generated name is tried with. A search goes on until it ends. -/
inductive Renames (nodes : List String) :
    (earlier : List String) → (next : Nat) → List Note → List Note → Prop
  /-- No note is left. -/
  | done {earlier : List String} {next : Nat} : Renames nodes earlier next [] []
  /-- The name is free. -/
  | keep {earlier : List String} {next : Nat} {note : Note} {notes renamed : List Note}
      (noNode : note.name ∉ nodes) (new : note.name ∉ earlier)
      (rest : Renames nodes (earlier ++ [note.name]) next notes renamed) :
      Renames nodes earlier next (note :: notes) (note :: renamed)
  /-- The name is that of a node or of a note before. -/
  | change {earlier : List String} {next after : Nat} {fresh : String} {note : Note}
      {notes renamed : List Note} (known : note.name ∈ nodes ∨ note.name ∈ earlier)
      (search : Search (nodes ++ earlier ++ (note :: notes).map name) next (nameAt earlier.length)
        (fresh, after))
      (rest : Renames nodes (earlier ++ [fresh]) after notes renamed) :
      Renames nodes earlier next (note :: notes) ({ note with name := fresh } :: renamed)

theorem renames_renameFrom (nodes earlier : List String) (next : Nat) (notes : List Note) :
    Renames nodes earlier next notes (renameFrom nodes earlier next notes) := by
  induction notes generalizing earlier next with
  | nil => exact .done
  | cons note notes ih =>
      unfold renameFrom
      dsimp only
      split
      · next known => exact .change known (search_freeName ..) (ih _ _)
      · next free =>
          rw [not_or] at free
          exact .keep free.1 free.2 (ih _ _)

namespace Renames

theorem generated (renames : Renames nodes earlier next notes renamed)
    (old : notes[i]? = some note) (now : renamed[i]? = some new) (differs : new.name ≠ note.name) :
    ∃ number, new.name = nameAt number := by
  induction renames generalizing i with
  | done => cases old
  | keep _ _ _ ih =>
      cases i with
      | zero =>
          cases old
          cases now
          exact absurd rfl differs
      | succ i => exact ih old now
  | change _ search _ ih =>
      cases i with
      | zero =>
          cases now
          exact search.generated.elim (fun first => ⟨_, first⟩) id
      | succ i => exact ih old now

/-- Which notes keep their names. Of the names that are still to be looked at and that no node has,
those of the notes before are the ones that these notes were given by their author. -/
theorem name_eq_iff (renames : Renames nodes earlier next notes renamed) {original : List String}
    (same : ∀ other ∈ notes.map name, other ∉ nodes → (other ∈ earlier ↔ other ∈ original))
    (old : notes[i]? = some note) (now : renamed[i]? = some new) :
    new.name = note.name ↔
      note.name ∉ nodes ∧ note.name ∉ original ∧ note.name ∉ (notes.take i).map name := by
  induction renames generalizing i original with
  | done => cases old
  | @keep earlier _ first notes _ noNode unused _ ih =>
      have unknown : first.name ∉ original := by
        rwa [← same first.name List.mem_cons_self noNode]
      cases i with
      | zero =>
          cases old
          cases now
          exact iff_of_true rfl ⟨noNode, unknown, List.not_mem_nil⟩
      | succ i =>
          have goes_on : ∀ other ∈ notes.map name, other ∉ nodes →
              (other ∈ earlier ++ [first.name] ↔ other ∈ original ++ [first.name]) := by
            intro other member no_node
            rw [List.mem_append, List.mem_append, same other (List.mem_cons_of_mem _ member) no_node]
          rw [ih goes_on old now, List.take_succ_cons, List.map_cons, List.mem_cons, List.mem_append,
            List.mem_singleton, not_or, not_or, and_assoc]
  | @change earlier _ _ fresh first notes _ known search _ ih =>
      have free := search.not_mem
      simp only [List.mem_append, List.map_cons, List.mem_cons, not_or] at free
      obtain ⟨⟨_, _⟩, differs, later⟩ := free
      have taken : first.name ∉ nodes → first.name ∈ original := fun no_node =>
        (same first.name List.mem_cons_self no_node).mp (known.resolve_left no_node)
      cases i with
      | zero =>
          cases old
          cases now
          exact iff_of_false differs fun ⟨no_node, unknown, _⟩ => unknown (taken no_node)
      | succ i =>
          have goes_on : ∀ other ∈ notes.map name, other ∉ nodes →
              (other ∈ earlier ++ [fresh] ↔ other ∈ original ++ [first.name]) := by
            intro other member no_node
            -- The fresh name is not to be looked at again, and the old one was known before.
            have apart : other ≠ fresh := fun here => later (here ▸ member)
            have before : other = first.name → other ∈ original :=
              fun here => here ▸ taken (here ▸ no_node)
            rw [List.mem_append, List.mem_append, List.mem_singleton, List.mem_singleton,
              or_iff_left apart, same other (List.mem_cons_of_mem _ member) no_node,
              or_iff_left_of_imp before]
          rw [ih goes_on old now, List.take_succ_cons, List.map_cons, List.mem_cons, List.mem_append,
            List.mem_singleton, not_or, not_or, and_assoc]

end Renames

/-- Notes under names of their own, made of given notes. -/
structure Separates (nodes : List String) (notes renamed : List Note) : Prop where
  /-- Every search for a name comes to its end. -/
  ends : Renames nodes [] notes.length notes renamed
  /-- The notes stay where they are, with their texts and targets. -/
  contents : renamed.map (fun note => (note.text, note.target)) =
    notes.map fun note => (note.text, note.target)
  distinct : (renamed.map name).Nodup
  apart : nodes.Disjoint (renamed.map name)
  /-- A name is kept just where no node has it and no note before was given it. -/
  kept : ∀ (i : Nat) (note new : Note), notes[i]? = some note → renamed[i]? = some new →
    (new.name = note.name ↔ note.name ∉ nodes ∧ note.name ∉ (notes.take i).map name)
  generated : ∀ (i : Nat) (note new : Note), notes[i]? = some note → renamed[i]? = some new →
    new.name ≠ note.name → ∃ number, new.name = nameAt number

theorem separates_renameColliding (nodes : List String) (notes : List Note) :
    Separates nodes notes (renameColliding nodes notes) := by
  have renames : Renames nodes [] notes.length notes (renameColliding nodes notes) :=
    renames_renameFrom ..
  refine
    { ends := renames
      contents := map_renameFrom _ (fun _ _ => rfl) ..
      distinct := nodup_map_name_renameColliding nodes notes
      apart := disjoint_map_name_renameColliding nodes notes
      kept := ?_
      generated := fun i note new old now => renames.generated old now }
  intro i note new old now
  have same : ∀ other ∈ notes.map name, other ∉ nodes →
      (other ∈ ([] : List String) ↔ other ∈ ([] : List String)) := fun _ _ _ => Iff.rfl
  have kept := renames.name_eq_iff same old now
  simpa only [List.not_mem_nil, not_false_eq_true, true_and] using kept

end DiagramMarkup.Note
