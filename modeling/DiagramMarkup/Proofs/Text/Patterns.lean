import DiagramMarkup.Proofs.Text.Cutting
import DiagramMarkup.Text.Pattern

/-! # Readings of patterns

What is known of a part of a pattern is known of every reading of the whole, whichever of them is
preferred.
-/

namespace DiagramMarkup

namespace Text

variable {ok : Char → Bool} {s t w : List Char} {c : Char}

/-- A text that does not start with a character that satisfies a test. -/
def Stops (ok : Char → Bool) (s : List Char) : Prop :=
  ∀ c, s.head? = some c → ok c = false

theorem stops_nil : Stops ok [] :=
  fun _ none => nomatch none

@[simp] theorem stops_cons : Stops ok (c :: s) ↔ ok c = false :=
  ⟨fun stops => stops c rfl, fun other _ first => Option.some.inj first ▸ other⟩

theorem Stops.mono {narrow : Char → Bool} (stops : Stops ok s)
    (narrower : ∀ c, narrow c = true → ok c = true) : Stops narrow s := by
  intro c first
  rw [Bool.eq_false_iff]
  exact fun here => Bool.false_ne_true ((stops c first).symm.trans (narrower c here))

theorem stops_dropWhile (ok : Char → Bool) (s : List Char) : Stops ok (s.dropWhile ok) := by
  intro c first
  have head := List.head?_dropWhile_not ok s
  rw [first] at head
  exact head

theorem Stops.append (stops : Stops ok s) (some : s ≠ []) (t : List Char) : Stops ok (s ++ t) := by
  cases s with
  | nil => exact absurd rfl some
  | cons c s => exact stops_cons.mpr (stops_cons.mp stops)

theorem stops_append (all : ∀ c ∈ w, ok c = false) (stops : Stops ok t) : Stops ok (w ++ t) := by
  cases w with
  | nil => exact stops
  | cons c w => exact stops_cons.mpr (all c List.mem_cons_self)

theorem takeWhile_append_stops (all : ∀ c ∈ w, ok c = true) (stops : Stops ok s) :
    (w ++ s).takeWhile ok = w := by
  have none : s.takeWhile ok = [] := by
    cases s with
    | nil => rfl
    | cons c s => exact List.takeWhile_cons_of_neg (Bool.eq_false_iff.mp (stops_cons.mp stops))
  rw [List.takeWhile_append_of_pos all, none, List.append_nil]

theorem dropWhile_append_stops (all : ∀ c ∈ w, ok c = true) (stops : Stops ok s) :
    (w ++ s).dropWhile ok = s := by
  rw [List.dropWhile_append_of_pos all]
  cases s with
  | nil => rfl
  | cons c s => exact List.dropWhile_cons_of_neg (Bool.eq_false_iff.mp (stops_cons.mp stops))

end Text

open Text

namespace Pattern

variable {α β : Type} {p q : Pattern α} {s rest : List Char} {ok : Char → Bool}

theorem mem_bind {f : α → Pattern β} {reading : β × List Char} :
    reading ∈ (p >>= f) s ↔ ∃ first ∈ p s, reading ∈ f first.1 first.2 :=
  List.mem_flatMap

theorem mem_pure {a : α} {reading : α × List Char} :
    reading ∈ (pure a : Pattern α) s ↔ reading = (a, s) :=
  List.mem_singleton

theorem mem_orElse {reading : α × List Char} :
    reading ∈ (p <|> q) s ↔ reading ∈ p s ∨ reading ∈ q s :=
  List.mem_append

theorem mem_optional {reading : Option α × List Char} :
    reading ∈ optional p s ↔
      (∃ first ∈ p s, reading = (some first.1, first.2)) ∨ reading = (none, s) := by
  change reading ∈ (some <$> p <|> pure none : Pattern (Option α)) s ↔ _
  rw [mem_orElse, mem_pure]
  refine or_congr_left ?_
  change reading ∈ (p >>= fun a => pure (some a)) s ↔ _
  simp only [mem_bind, mem_pure]

theorem read?_eq_none (unread : ∀ reading, reading ∉ p s) : p.read? s = none := by
  rw [read?, List.eq_nil_iff_forall_not_mem.mpr unread]
  rfl

theorem exists_mem_of_read? {a : α} (read : p.read? s = some a) : ∃ rest, (a, rest) ∈ p s := by
  obtain ⟨reading, first, rfl⟩ := Option.map_eq_some_iff.mp read
  exact ⟨reading.2, List.mem_of_head? first⟩

/-! ## Parts of a text -/

theorem mem_one {c : Char} : (c, rest) ∈ one ok s ↔ s = c :: rest ∧ ok c = true := by
  cases s with
  | nil => simp [one]
  | cons d s =>
      by_cases first : ok d = true
      · simp only [one, if_pos first, List.mem_singleton, Prod.mk.injEq, List.cons.injEq]
        constructor
        · rintro ⟨rfl, rfl⟩
          exact ⟨⟨rfl, rfl⟩, first⟩
        · rintro ⟨⟨rfl, rfl⟩, _⟩
          exact ⟨rfl, rfl⟩
      · simp only [one, if_neg first, List.not_mem_nil, List.cons.injEq, false_iff]
        rintro ⟨⟨rfl, _⟩, here⟩
        exact first here

theorem mem_char {c : Char} {reading : Unit × List Char} :
    reading ∈ char c s ↔ s = c :: reading.2 := by
  cases s with
  | nil => simp [char]
  | cons d s =>
      by_cases same : d = c
      · simp [char, same, Prod.ext_iff, eq_comm]
      · simp [char, same]

theorem mem_text {t : String} {reading : String × List Char} :
    reading ∈ text t s ↔ reading.1 = t ∧ s = t.toList ++ reading.2 := by
  rw [text, ← after?_eq_some_iff]
  cases after? t.toList s with
  | none => simp
  | some rest => simp [Prod.ext_iff, eq_comm]

theorem mem_anyOf {ts : List String} {reading : String × List Char} :
    reading ∈ anyOf ts s ↔ reading.1 ∈ ts ∧ s = reading.1.toList ++ reading.2 := by
  induction ts with
  | nil => simp only [List.not_mem_nil, false_and, iff_false]; exact List.not_mem_nil
  | cons t ts ih =>
      rw [anyOf, mem_orElse, mem_text, ih, List.mem_cons, or_and_right]
      refine or_congr_left (and_congr_right ?_)
      rintro rfl
      rfl

/-- A reluctant run is a piece of the text, as any run is. -/
theorem append_of_mem_fewest {w : List Char} (member : (w, rest) ∈ fewest ok s) : s = w ++ rest := by
  induction s generalizing w with
  | nil =>
      cases List.mem_singleton.mp member
      rfl
  | cons c s ih =>
      rw [fewest] at member
      rcases List.mem_cons.mp member with same | member
      · cases same
        rfl
      · split at member
        · obtain ⟨⟨others, _⟩, more, same⟩ := List.mem_map.mp member
          cases same
          exact congrArg (c :: ·) (ih more)
        · exact absurd member List.not_mem_nil

theorem append_of_mem_fewest1 {w : List Char} (member : (w, rest) ∈ fewest1 ok s) :
    s = w ++ rest := by
  obtain ⟨⟨c, _⟩, first, member⟩ := mem_bind.mp member
  obtain ⟨⟨others, _⟩, more, same⟩ := mem_bind.mp member
  cases mem_pure.mp same
  rw [(mem_one.mp first).1]
  exact congrArg (c :: ·) (append_of_mem_fewest more)

theorem mem_run {w : List Char} :
    (w, rest) ∈ run ok s ↔ s = w ++ rest ∧ (∀ c ∈ w, ok c = true) ∧ Stops ok rest := by
  rw [run, List.mem_singleton, Prod.mk.injEq]
  constructor
  · rintro ⟨rfl, rfl⟩
    exact ⟨List.takeWhile_append_dropWhile.symm, List.all_eq_true.mp List.all_takeWhile,
      stops_dropWhile ok s⟩
  · rintro ⟨rfl, all, stops⟩
    exact ⟨(takeWhile_append_stops all stops).symm, (dropWhile_append_stops all stops).symm⟩

theorem mem_run1 {w : List Char} :
    (w, rest) ∈ run1 ok s ↔ (w, rest) ∈ run ok s ∧ w ≠ [] := by
  cases s with
  | nil =>
      rw [run1, run, List.mem_singleton]
      exact iff_of_false List.not_mem_nil fun ⟨same, notEmpty⟩ => notEmpty (Prod.mk.inj same).1
  | cons c s =>
      by_cases first : ok c = true
      · rw [run1, if_pos first, run, List.takeWhile_cons_of_pos first,
          List.dropWhile_cons_of_pos first, List.mem_singleton]
        refine ⟨fun same => ⟨same, ?_⟩, And.left⟩
        rw [(Prod.mk.inj same).1]
        exact List.cons_ne_nil _ _
      · rw [run1, if_neg first, run, List.takeWhile_cons_of_neg first, List.mem_singleton]
        exact iff_of_false List.not_mem_nil fun ⟨same, notEmpty⟩ => notEmpty (Prod.mk.inj same).1

theorem exists_head_of_mem_run1 {w : List Char} (member : (w, rest) ∈ run1 ok s) :
    ∃ c, w.head? = some c ∧ ok c = true := by
  obtain ⟨here, notEmpty⟩ := mem_run1.mp member
  obtain ⟨c, others, rfl⟩ := List.exists_cons_of_ne_nil notEmpty
  exact ⟨c, rfl, (mem_run.mp here).2.1 c List.mem_cons_self⟩

theorem mem_bind_unit {reading : Unit × List Char} :
    reading ∈ (p >>= fun _ => pure ()) s ↔ ∃ a, (a, reading.2) ∈ p s := by
  constructor
  · intro member
    obtain ⟨⟨a, _⟩, here, same⟩ := mem_bind.mp member
    cases mem_pure.mp same
    exact ⟨a, here⟩
  · rintro ⟨a, here⟩
    exact mem_bind.mpr ⟨_, here, mem_pure.mpr rfl⟩

theorem mem_blanks {reading : Unit × List Char} :
    reading ∈ blanks s ↔ ∃ w, (w, reading.2) ∈ run isBlank s :=
  mem_bind_unit

theorem mem_blanks1 {reading : Unit × List Char} :
    reading ∈ blanks1 s ↔ ∃ w, (w, reading.2) ∈ run1 isBlank s :=
  mem_bind_unit

theorem mem_restOfLine {reading : List Char × List Char} :
    reading ∈ restOfLine s ↔ reading = (s, []) ∧ '\n' ∉ s := by
  have all : s.all inLine = true ↔ '\n' ∉ s := by
    simp only [List.all_eq_true, inLine, decide_eq_true_eq]
    exact ⟨fun other here => other _ here rfl, fun none c member same => none (same ▸ member)⟩
  by_cases line : '\n' ∉ s
  · simp [restOfLine, all.mpr line, line]
  · simp [restOfLine, mt all.mp line, line]

/-- A pattern is found nowhere, if it reads no ending of the text. -/
theorem find?_eq_none (unread : ∀ rest, rest <:+ s → p rest = []) : p.find? s = none := by
  induction s with
  | nil => rw [find?, unread [] (List.suffix_refl [])]; rfl
  | cons c s ih =>
      rw [find?, unread (c :: s) (List.suffix_refl _)]
      dsimp only [List.head?_nil]
      rw [ih fun rest suffix => unread rest (suffix.trans (List.suffix_cons c s))]
      rfl

theorem find?_of_head? {reading : α × List Char} (here : (p s).head? = some reading) :
    p.find? s = some ([], reading.1, reading.2) := by
  cases s with
  | nil => rw [find?, here]; rfl
  | cons c s => rw [find?, here]

/-- A pattern is found behind a text in which it is not read. -/
theorem find?_append {front t : List Char} (unread : ∀ c w, c :: w <:+ front → p (c :: (w ++ t)) = []) :
    p.find? (front ++ t) = (p.find? t).map fun found => (front ++ found.1, found.2) := by
  induction front with
  | nil =>
      change p.find? t = (p.find? t).map id
      rw [Option.map_id_fun, id]
  | cons c front ih =>
      rw [List.cons_append, find?, unread c front (List.suffix_refl _)]
      dsimp only [List.head?_nil]
      rw [ih fun d w suffix => unread d w (suffix.trans (List.suffix_cons c front)), Option.map_map]
      rfl

theorem splits_of_find?_none (none : p.find? s = none) : p.splits s = (s, []) := by
  rw [splits, none]

theorem splits_of_find? {a : α} {before after : List Char} (found : p.find? s = some (before, a, after))
    (shorter : after.length < s.length) :
    p.splits s = (before, (a, (p.splits after).1) :: (p.splits after).2) := by
  rw [splits, found]
  dsimp only
  rw [dif_pos shorter]

end Pattern

end DiagramMarkup
