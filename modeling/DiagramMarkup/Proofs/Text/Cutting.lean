import DiagramMarkup.Text.Cut
import Mathlib.Data.List.Infix

/-! # Where texts are cut

A cut is found just where a text stands in another one, and it is the first place. The pieces between
the places of a character are those that are put together with it.
-/

namespace DiagramMarkup.Text

variable {mark s before behind : List Char} {c : Char}

theorem after?_append (start rest : List Char) : after? start (start ++ rest) = some rest := by
  induction start with
  | nil => cases rest <;> rfl
  | cons c start ih => simp [after?, ih]

theorem after?_eq_some_iff {start rest : List Char} :
    after? start s = some rest ↔ s = start ++ rest := by
  constructor
  · intro found
    induction start generalizing s with
    | nil =>
        rw [after?] at found
        exact Option.some.inj found
    | cons c start ih =>
        cases s with
        | nil => exact nomatch found
        | cons d s =>
            rw [after?] at found
            split at found
            · next same => rw [← same, ih found, List.cons_append]
            · exact nomatch found
  · rintro rfl
    exact after?_append start rest

theorem after?_eq_none_iff {start : List Char} : after? start s = none ↔ ¬ start <+: s := by
  rw [Option.eq_none_iff_forall_ne_some]
  simp only [ne_eq, after?_eq_some_iff]
  exact ⟨fun none ⟨rest, same⟩ => none rest same.symm, fun none rest same => none ⟨rest, same.symm⟩⟩

theorem hasStart_iff {start : List Char} : hasStart start s = true ↔ start <+: s := by
  rw [hasStart, Option.isSome_iff_ne_none, Ne, after?_eq_none_iff, not_not]

theorem hasEnd_iff {ending : List Char} : hasEnd ending s = true ↔ ending <:+ s := by
  rw [hasEnd, before?, Option.isSome_map, ← hasStart, hasStart_iff, List.reverse_prefix]

theorem before?_append (s ending : List Char) : before? ending (s ++ ending) = some s := by
  rw [before?, List.reverse_append, after?_append, Option.map_some, List.reverse_reverse]

theorem before?_eq_none_iff {ending : List Char} : before? ending s = none ↔ ¬ ending <:+ s := by
  rw [before?, Option.map_eq_none_iff, after?_eq_none_iff, List.reverse_prefix]

/-- A beginning does not reach over a character that it does not have. -/
theorem prefix_append_cons_iff {start t : List Char} (plain : c ∉ start) :
    start <+: s ++ c :: t ↔ start <+: s := by
  induction start generalizing s with
  | nil => simp only [List.nil_prefix]
  | cons d start ih =>
      rw [List.mem_cons, not_or] at plain
      cases s with
      | nil => simp only [List.nil_append, List.cons_prefix_cons, Ne.symm plain.1, false_and,
          List.prefix_nil, reduceCtorEq]
      | cons e s => rw [List.cons_append, List.cons_prefix_cons, List.cons_prefix_cons, ih plain.2]

theorem append_cons_prefix_append_cons_iff {start rest t : List Char} (plain : c ∉ start)
    (apart : c ∉ s) : start ++ c :: rest <+: s ++ c :: t ↔ start = s ∧ rest <+: t := by
  induction start generalizing s with
  | nil =>
      cases s with
      | nil => simp only [List.nil_append, List.cons_prefix_cons, true_and]
      | cons e s =>
          rw [List.mem_cons, not_or] at apart
          simp only [List.nil_append, List.cons_append, List.cons_prefix_cons, apart.1, false_and,
            List.nil_eq, reduceCtorEq]
  | cons d start ih =>
      rw [List.mem_cons, not_or] at plain
      cases s with
      | nil => simp only [List.nil_append, List.cons_append, List.cons_prefix_cons, Ne.symm plain.1,
          false_and, reduceCtorEq]
      | cons e s =>
          rw [List.mem_cons, not_or] at apart
          rw [List.cons_append, List.cons_append, List.cons_prefix_cons, ih plain.2 apart.2,
            List.cons.injEq, and_assoc]

/-! ## Cuts -/

theorem append_of_cut (found : cut mark s = some (before, behind)) :
    s = before ++ mark ++ behind := by
  induction s generalizing before with
  | nil =>
      obtain ⟨rest, here, same⟩ := Option.map_eq_some_iff.mp found
      obtain ⟨rfl, rfl⟩ := Prod.mk.inj same
      exact after?_eq_some_iff.mp here
  | cons c s ih =>
      rw [cut] at found
      split at found
      · next rest here =>
          obtain ⟨rfl, rfl⟩ := Prod.mk.inj (Option.some.inj found)
          exact after?_eq_some_iff.mp here
      · obtain ⟨⟨front, rest⟩, later, same⟩ := Option.map_eq_some_iff.mp found
        obtain ⟨rfl, rfl⟩ := Prod.mk.inj same
        rw [ih later]
        rfl

theorem cut_eq_none_iff : cut mark s = none ↔ ¬ mark <:+: s := by
  induction s with
  | nil =>
      rw [cut, Option.map_eq_none_iff, after?_eq_none_iff, List.prefix_nil, List.infix_nil]
  | cons c s ih =>
      rw [cut, List.infix_cons_iff, not_or, ← after?_eq_none_iff, ← ih]
      cases after? mark (c :: s) with
      | none => simp only [Option.map_eq_none_iff, true_and]
      | some rest => simp only [reduceCtorEq, false_and]

/-- A cut is made at the first place. -/
theorem not_infix_of_cut (notEmpty : mark ≠ []) (found : cut mark s = some (before, behind)) :
    ¬ mark <:+: before := by
  induction s generalizing before with
  | nil =>
      obtain ⟨rest, _, same⟩ := Option.map_eq_some_iff.mp found
      obtain ⟨rfl, rfl⟩ := Prod.mk.inj same
      rwa [List.infix_nil]
  | cons c s ih =>
      rw [cut] at found
      split at found
      · obtain ⟨rfl, rfl⟩ := Prod.mk.inj (Option.some.inj found)
        rwa [List.infix_nil]
      · next absent =>
          obtain ⟨⟨front, rest⟩, later, same⟩ := Option.map_eq_some_iff.mp found
          obtain ⟨rfl, rfl⟩ := Prod.mk.inj same
          rw [List.infix_cons_iff]
          rintro (first | inside)
          · refine after?_eq_none_iff.mp absent (first.trans ?_)
            rw [append_of_cut later, List.append_assoc, ← List.cons_append]
            exact List.prefix_append _ _
          · exact ih later inside

theorem infix_append_cons_iff {t : List Char} (apart : c ∉ mark) :
    mark <:+: s ++ c :: t ↔ mark <:+: s ∨ mark <:+: t := by
  rw [List.infix_append_iff, List.infix_cons_iff]
  constructor
  · rintro (inside | (first | inside) | ⟨front, rest, rfl, ends, starts⟩)
    · exact .inl inside
    · cases mark with
      | nil => exact Or.inl List.nil_infix
      | cons d mark =>
          have same := (List.cons_prefix_cons.mp first).1
          exact absurd (List.mem_cons.mpr (.inl same.symm)) apart
    · exact .inr inside
    · cases rest with
      | nil => exact .inl (by rw [List.append_nil]; exact ends.isInfix)
      | cons d rest =>
          have same := (List.cons_prefix_cons.mp starts).1
          exact absurd (List.mem_append_right _ (List.mem_cons.mpr (.inl same.symm))) apart
  · rintro (inside | inside)
    · exact .inl inside
    · exact .inr (.inl (.inr inside))

theorem cutAt_append {stops : Char → Bool} (none : ∀ d ∈ s, stops d = false) (here : stops c = true)
    (rest : List Char) : cutAt stops (s ++ c :: rest) = some (s, rest) := by
  induction s with
  | nil => exact if_pos here
  | cons d s ih =>
      obtain ⟨first, others⟩ := List.forall_mem_cons.mp none
      rw [List.cons_append, cutAt, if_neg (Bool.eq_false_iff.mp first), ih others]
      rfl

theorem cutAt_eq_none {stops : Char → Bool} (none : ∀ d ∈ s, stops d = false) :
    cutAt stops s = .none := by
  induction s with
  | nil => rfl
  | cons d s ih =>
      obtain ⟨first, others⟩ := List.forall_mem_cons.mp none
      rw [cutAt, if_neg (Bool.eq_false_iff.mp first), ih others]
      rfl

theorem fst_cutAt (stops : Char → Bool) (s : List Char) :
    ((cutAt stops s).map Prod.fst).getD s = s.takeWhile fun c => !stops c := by
  induction s with
  | nil => rfl
  | cons c s ih =>
      rw [cutAt, List.takeWhile_cons, ← ih]
      cases stops c with
      | true => rfl
      | false =>
          rw [if_neg Bool.false_ne_true]
          cases cutAt stops s <;> rfl

theorem cutLast_of_not_mem (plain : c ∉ s) : cutLast c s = none := by
  induction s with
  | nil => rfl
  | cons d s ih =>
      rw [List.mem_cons, not_or] at plain
      rw [cutLast, ih plain.2]
      exact if_neg (Ne.symm plain.1)

/-- The last place of a character has no other one behind it. -/
theorem cutLast_append (front : List Char) (plain : c ∉ s) :
    cutLast c (front ++ c :: s) = some (front, s) := by
  induction front with
  | nil =>
      rw [List.nil_append, cutLast, cutLast_of_not_mem plain]
      exact if_pos rfl
  | cons d front ih => rw [List.cons_append, cutLast, ih]

/-! ## Pieces -/

theorem splitAt_of_not_mem (plain : c ∉ s) : splitAt c s = [s] := by
  induction s with
  | nil => rfl
  | cons d s ih =>
      rw [List.mem_cons, not_or] at plain
      rw [splitAt, if_neg (Ne.symm plain.1), ih plain.2]

theorem splitAt_ne_nil (c : Char) (s : List Char) : splitAt c s ≠ [] := by
  fun_cases splitAt c s <;> exact List.cons_ne_nil _ _

theorem splitAt_append (front back : List Char) :
    splitAt c (front ++ c :: back) = splitAt c front ++ splitAt c back := by
  induction front with
  | nil => exact if_pos rfl
  | cons d front ih =>
      rw [List.cons_append, splitAt, splitAt, ih]
      by_cases same : d = c
      · rw [if_pos same, if_pos same, List.cons_append]
      · rw [if_neg same, if_neg same]
        cases pieces : splitAt c front with
        | nil => exact absurd pieces (splitAt_ne_nil c front)
        | cons piece pieces => rfl

theorem splitAt_append_cons (plain : c ∉ s) (rest : List Char) :
    splitAt c (s ++ c :: rest) = s :: splitAt c rest := by
  rw [splitAt_append, splitAt_of_not_mem plain]
  rfl

theorem exists_mem_splitAt {d : Char} (member : d ∈ s) (other : d ≠ c) :
    ∃ piece ∈ splitAt c s, d ∈ piece := by
  induction s with
  | nil => exact absurd member List.not_mem_nil
  | cons e s ih =>
      rw [splitAt]
      by_cases same : e = c
      · rw [if_pos same]
        rcases List.mem_cons.mp member with here | later
        · exact absurd (here.trans same) other
        · obtain ⟨piece, inside, has⟩ := ih later
          exact ⟨piece, List.mem_cons_of_mem _ inside, has⟩
      · rw [if_neg same]
        cases pieces : splitAt c s with
        | nil => exact absurd pieces (splitAt_ne_nil c s)
        | cons first others =>
            rw [pieces] at ih
            rcases List.mem_cons.mp member with here | later
            · exact ⟨e :: first, List.mem_cons_self, List.mem_cons.mpr (.inl here)⟩
            · obtain ⟨piece, inside, has⟩ := ih later
              rcases List.mem_cons.mp inside with rfl | inside
              · exact ⟨e :: piece, List.mem_cons_self, List.mem_cons_of_mem _ has⟩
              · exact ⟨piece, List.mem_cons_of_mem _ inside, has⟩

theorem not_mem_of_mem_splitAt {piece : List Char} (member : piece ∈ splitAt c s) : c ∉ piece := by
  induction s generalizing piece with
  | nil =>
      rw [List.mem_singleton.mp member]
      exact List.not_mem_nil
  | cons d s ih =>
      rw [splitAt] at member
      split at member
      · rcases List.mem_cons.mp member with rfl | member
        · exact List.not_mem_nil
        · exact ih member
      · next apart =>
          cases pieces : splitAt c s with
          | nil => exact absurd pieces (splitAt_ne_nil c s)
          | cons first others =>
              rw [pieces] at member ih
              rcases List.mem_cons.mp member with rfl | member
              · rw [List.mem_cons, not_or]
                exact ⟨Ne.symm apart, ih List.mem_cons_self⟩
              · exact ih (List.mem_cons_of_mem _ member)

/-- Pieces without a character that are put together with it come apart again. -/
theorem splitAt_intercalate {pieces : List (List Char)} (some : pieces ≠ [])
    (plain : ∀ piece ∈ pieces, c ∉ piece) : splitAt c ([c].intercalate pieces) = pieces := by
  induction pieces with
  | nil => exact absurd rfl some
  | cons piece pieces ih =>
      obtain ⟨first, others⟩ := List.forall_mem_cons.mp plain
      cases pieces with
      | nil =>
          rw [List.intercalate_singleton]
          exact splitAt_of_not_mem first
      | cons next pieces =>
          rw [List.intercalate_cons_cons, List.append_assoc, List.singleton_append,
            splitAt_append_cons first, ih (List.cons_ne_nil _ _) others]

/-! ## Written line breaks -/

theorem unescapeBreaks_eq_self (plain : ¬ ['\\', 'n'] <:+: s) : unescapeBreaks s = s := by
  change replaceFrom _ _ 0 s = s
  induction s with
  | nil => rfl
  | cons c s ih =>
      rw [List.infix_cons_iff, not_or, ← hasStart_iff] at plain
      rw [replaceFrom, if_neg plain.1, ih plain.2]

theorem mem_unescapeBreaks (written : ['\\', 'n'] <:+: s) : '\n' ∈ unescapeBreaks s := by
  change '\n' ∈ replaceFrom _ _ 0 s
  induction s with
  | nil => exact absurd (List.infix_nil.mp written) (List.cons_ne_nil _ _)
  | cons c s ih =>
      rw [List.infix_cons_iff, ← hasStart_iff] at written
      rw [replaceFrom]
      split
      · exact List.mem_append_left _ (List.mem_singleton_self '\n')
      · next absent => exact List.mem_cons_of_mem _ (ih (written.resolve_left absent))

end DiagramMarkup.Text
