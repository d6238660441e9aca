import DiagramMarkup.Diagram.Note
import DiagramMarkup.Diagram.Table
import DiagramMarkup.Proofs.Tables
import Mathlib.Data.List.Lattice
import Mathlib.Data.List.Nodup
import Mathlib.Data.List.Perm.Subperm

/-! # The names of notes

A note whose name is taken gets a free one. There are more numbers than names that are taken, so that
one is found, and in the end no two notes share a name and none has that of a node.
-/

namespace DiagramMarkup.Note

theorem nameAt_injective : Function.Injective nameAt :=
  fun _ _ same => numbered_injective "note-" same

/-! ## Free names -/

/-- The search for a free name, for as long as it takes: a candidate that is taken gives way to the
next number. What is found comes with the number to go on from. -/
inductive Search (taken : List String) : (next : Nat) → (candidate : String) → String × Nat → Prop
  /-- The candidate is free. -/
  | found {next : Nat} {candidate : String} (free : candidate ∉ taken) :
      Search taken next candidate (candidate, next)
  /-- The candidate is taken. -/
  | onward {next : Nat} {candidate : String} {found : String × Nat} (known : candidate ∈ taken)
      (later : Search taken (next + 1) (nameAt next) found) : Search taken next candidate found

variable {taken : List String} {fuel next : Nat} {candidate : String} {found : String × Nat}

theorem Search.not_mem (search : Search taken next candidate found) : found.1 ∉ taken := by
  induction search with
  | found free => exact free
  | onward _ _ ih => exact ih

theorem Search.generated (search : Search taken next candidate found) :
    found.1 = candidate ∨ ∃ number, found.1 = nameAt number := by
  induction search with
  | found => exact .inl rfl
  | @onward next _ _ _ _ ih => exact .inr (ih.elim (fun first => ⟨next, first⟩) id)

theorem freeName_of_free (free : candidate ∉ taken) :
    freeName taken fuel next candidate = (candidate, next) := by
  cases fuel with
  | zero => rfl
  | succ fuel => simp only [freeName, if_neg free]

theorem search_of_reach (candidate : String)
    (free : ∃ tries < fuel, nameAt (next + tries) ∉ taken) :
    Search taken next candidate (freeName taken fuel next candidate) := by
  induction fuel generalizing next candidate with
  | zero =>
      obtain ⟨_, none, _⟩ := free
      omega
  | succ fuel ih =>
      by_cases known : candidate ∈ taken
      · rw [freeName, if_pos known]
        apply Search.onward known
        obtain ⟨tries, enough, free⟩ := free
        cases tries with
        | zero =>
            rw [Nat.add_zero] at free
            rw [freeName_of_free free]
            exact .found free
        | succ tries =>
            -- with every number that is taken the free one is one try nearer
            refine ih _ ⟨tries, by omega, ?_⟩
            rwa [Nat.add_right_comm, Nat.add_assoc]
      · rw [freeName_of_free known]
        exact .found known

/-- Of more numbered names than are taken, one is free. -/
theorem exists_free (taken : List String) (next : Nat) :
    ∃ tries < taken.length + 1, nameAt (next + tries) ∉ taken := by
  by_contra none
  push Not at none
  let names := (List.range (taken.length + 1)).map fun tries => nameAt (next + tries)
  have distinct : names.Nodup :=
    List.nodup_range.map fun _ _ same => Nat.add_left_cancel (nameAt_injective same)
  have all_taken : names ⊆ taken := by
    intro name member
    obtain ⟨tries, inside, rfl⟩ := List.mem_map.mp member
    exact none tries (List.mem_range.mp inside)
  have bound : names.length ≤ taken.length := (distinct.subperm all_taken).length_le
  simp only [names, List.length_map, List.length_range] at bound
  omega

/-- With one try more than names are taken, the search comes to its end. -/
theorem search_freeName (taken : List String) (next : Nat) (candidate : String) :
    Search taken next candidate (freeName taken (taken.length + 1) next candidate) :=
  search_of_reach candidate (exists_free taken next)

/-! ## Renamed notes -/

variable {nodes earlier : List String}

theorem map_renameFrom {β : Type} (f : Note → β)
    (same : ∀ (note : Note) (name : String), f { note with name } = f note)
    (nodes earlier : List String) (next : Nat) (notes : List Note) :
    (renameFrom nodes earlier next notes).map f = notes.map f := by
  induction notes generalizing earlier next with
  | nil => rfl
  | cons note notes ih =>
      unfold renameFrom
      dsimp only
      split
      · exact congrArg₂ List.cons (same note _) (ih _ _)
      · exact congrArg (f note :: ·) (ih _ _)

/-- Every note is named apart from the nodes and from the notes before it. -/
theorem separate_renameFrom (distinct : earlier.Nodup) (apart : nodes.Disjoint earlier)
    (next : Nat) (notes : List Note) :
    (earlier ++ (renameFrom nodes earlier next notes).map name).Nodup ∧
      nodes.Disjoint (earlier ++ (renameFrom nodes earlier next notes).map name) := by
  induction notes generalizing earlier next with
  | nil =>
      rw [renameFrom, List.map_nil, List.append_nil]
      exact ⟨distinct, apart⟩
  | cons note notes ih =>
      -- The first note joins the earlier ones under a name that is new to them and to the nodes.
      have goes_on {fresh : String} (no_node : fresh ∉ nodes) (new : fresh ∉ earlier)
          (next : Nat) :
          (earlier ++ fresh :: (renameFrom nodes (earlier ++ [fresh]) next notes).map name).Nodup ∧
            nodes.Disjoint
              (earlier ++ fresh :: (renameFrom nodes (earlier ++ [fresh]) next notes).map name) := by
        rw [List.append_cons]
        refine ih (Table.nodup_append_new distinct new) ?_ next
        rw [List.disjoint_append_right]
        exact ⟨apart, List.disjoint_singleton.mpr no_node⟩
      unfold renameFrom
      dsimp only
      split
      · have free := (search_freeName (nodes ++ earlier ++ (note :: notes).map name) next
          (nameAt earlier.length)).not_mem
        simp only [List.mem_append, not_or] at free
        exact goes_on free.1.1 free.1.2 _
      · rename_i free
        rw [not_or] at free
        exact goes_on free.1 free.2 next

theorem nodup_map_name_renameColliding (nodes : List String) (notes : List Note) :
    ((renameColliding nodes notes).map name).Nodup :=
  (separate_renameFrom List.nodup_nil (List.disjoint_nil_right nodes) _ notes).1

theorem disjoint_map_name_renameColliding (nodes : List String) (notes : List Note) :
    nodes.Disjoint ((renameColliding nodes notes).map name) :=
  (separate_renameFrom List.nodup_nil (List.disjoint_nil_right nodes) _ notes).2

theorem nodup_append_renameColliding (distinct : nodes.Nodup) (notes : List Note) :
    (nodes ++ (renameColliding nodes notes).map name).Nodup :=
  List.nodup_append'.mpr ⟨distinct, nodup_map_name_renameColliding nodes notes,
    disjoint_map_name_renameColliding nodes notes⟩

end DiagramMarkup.Note
