import DiagramMarkup.Proofs.Text.Patterns

/-! # Preferred readings

Of all readings of a text the first one counts. It is made of the first readings of the parts, where
these let the rest be read, too, so that a pattern can be followed from its first part to its last.
-/

namespace DiagramMarkup

open Text

namespace Pattern

variable {α β : Type} {p q : Pattern α} {f : α → Pattern β} {s t u w : List Char} {a : α} {b : β}
variable {ok : Char → Bool} {c : Char}

/-- The first reading of a text gives a value and leaves a rest. -/
def Prefers (p : Pattern α) (s : List Char) (a : α) (rest : List Char) : Prop :=
  (p s).head? = some (a, rest)

theorem Prefers.read? (prefers : p.Prefers s a t) : p.read? s = some a :=
  congrArg (Option.map Prod.fst) prefers

theorem Prefers.ne_nil (prefers : p.Prefers s a t) : p s ≠ [] :=
  List.ne_nil_of_mem (List.mem_of_head? prefers)

theorem head?_flatMap_of_ne_nil {others : List (α × List Char)} {readings : List (α × List Char)}
    (first : readings = (a, t) :: others) (reads : f a t ≠ []) :
    (readings.flatMap fun r => f r.1 r.2).head? = (f a t).head? := by
  obtain ⟨reading, more, same⟩ := List.exists_cons_of_ne_nil reads
  rw [first, List.flatMap_cons, List.head?_append, same]
  rfl

/-! ## Parts that are read -/

theorem prefers_pure (a : α) (s : List Char) : (pure a : Pattern α).Prefers s a s := rfl

theorem Prefers.bind (first : p.Prefers s a t) (second : (f a).Prefers t b u) :
    (p >>= f).Prefers s b u := by
  obtain ⟨others, readings⟩ := List.head?_eq_some_iff.mp first
  change ((p s).flatMap fun r => f r.1 r.2).head? = some (b, u)
  rw [readings, List.flatMap_cons, List.head?_append, second]
  rfl

theorem Prefers.map (prefers : p.Prefers s a t) (g : α → β) : (g <$> p).Prefers s (g a) t :=
  prefers.bind (f := fun a => pure (g a)) (prefers_pure (g a) t)

theorem Prefers.orElse (prefers : p.Prefers s a t) (q : Pattern α) : (p <|> q).Prefers s a t := by
  change (p s ++ q s).head? = some (a, t)
  rw [List.head?_append, prefers]
  rfl

theorem Prefers.orElse_of_nil (prefers : q.Prefers s a t) (none : p s = []) :
    (p <|> q).Prefers s a t := by
  change (p s ++ q s).head? = some (a, t)
  rw [none]
  exact prefers

theorem Prefers.optional (prefers : p.Prefers s a t) : (optional p).Prefers s (some a) t :=
  (prefers.map some).orElse _

theorem prefers_run (all : ∀ c ∈ w, ok c = true) (stops : Stops ok t) :
    (run ok).Prefers (w ++ t) w t := by
  change some ((w ++ t).takeWhile ok, (w ++ t).dropWhile ok) = some (w, t)
  rw [takeWhile_append_stops all stops, dropWhile_append_stops all stops]

theorem run1_append (all : ∀ c ∈ w, ok c = true) (stops : Stops ok t) (notEmpty : w ≠ []) :
    run1 ok (w ++ t) = [(w, t)] := by
  cases w with
  | nil => exact absurd rfl notEmpty
  | cons c w =>
      obtain ⟨first, others⟩ := List.forall_mem_cons.mp all
      rw [List.cons_append, run1, if_pos first, takeWhile_append_stops others stops,
        dropWhile_append_stops others stops]

theorem prefers_run1 (all : ∀ c ∈ w, ok c = true) (stops : Stops ok t) (notEmpty : w ≠ []) :
    (run1 ok).Prefers (w ++ t) w t := by
  rw [Prefers, run1_append all stops notEmpty]
  rfl

theorem prefers_blanks (all : ∀ c ∈ w, isBlank c = true) (stops : Stops isBlank t) :
    blanks.Prefers (w ++ t) () t :=
  (prefers_run all stops).bind (prefers_pure () t)

theorem prefers_blank (stops : Stops isBlank t) : blanks.Prefers (' ' :: t) () t :=
  prefers_blanks (List.forall_mem_singleton.mpr rfl : ∀ c ∈ [' '], isBlank c = true) stops

theorem prefers_blanks1 (all : ∀ c ∈ w, isBlank c = true) (stops : Stops isBlank t)
    (notEmpty : w ≠ []) : blanks1.Prefers (w ++ t) () t :=
  (prefers_run1 all stops notEmpty).bind (prefers_pure () t)

theorem prefers_blank1 (stops : Stops isBlank t) : blanks1.Prefers (' ' :: t) () t :=
  prefers_blanks1 (List.forall_mem_singleton.mpr rfl : ∀ c ∈ [' '], isBlank c = true) stops
    (List.cons_ne_nil _ _)

theorem prefers_unless_empty (some : w ≠ []) (a : α) (s : List Char) :
    (if w.isEmpty then failure else pure a : Pattern α).Prefers s a s := by
  have full : ¬ w.isEmpty = true := by rwa [List.isEmpty_iff]
  rw [if_neg full]
  exact prefers_pure a s

theorem prefers_restOfLine (line : '\n' ∉ s) : restOfLine.Prefers s s [] := by
  have all : s.all inLine = true := by
    rw [List.all_eq_true]
    exact fun c member => decide_eq_true fun feed => line (feed ▸ member)
  rw [Prefers, restOfLine, if_pos all]
  rfl

theorem prefers_char (c : Char) (s : List Char) : (char c).Prefers (c :: s) () s := by
  rw [Prefers, char, if_pos rfl]
  rfl

theorem prefers_text (t : String) (s : List Char) : (text t).Prefers (t.toList ++ s) t s := by
  rw [Prefers, text, after?_append]
  rfl

theorem prefers_quoted (plain : '"' ∉ w) (s : List Char) :
    quoted.Prefers ('"' :: w ++ '"' :: s) w s := by
  have all : ∀ c ∈ w, decide (c ≠ '"') = true := fun c member =>
    decide_eq_true fun quote => plain (quote ▸ member)
  exact (prefers_char '"' _).bind <| (prefers_run all (stops_cons.mpr rfl)).bind <|
    (prefers_char '"' s).bind (prefers_pure w s)

theorem bind_of_singleton (one : p s = [(a, t)]) (f : α → Pattern β) : (p >>= f) s = f a t := by
  change (p s).flatMap _ = _
  rw [one, List.flatMap_singleton]

/-- What stands between two marks is read in one way. -/
theorem enclosed_append {opening closing : Char} (plain : closing ∉ w) (notEmpty : w ≠ [])
    (t : List Char) :
    enclosed opening closing (opening :: w ++ closing :: t) = [(opening :: w ++ [closing], t)] := by
  have first : char opening (opening :: (w ++ closing :: t)) = [((), w ++ closing :: t)] := if_pos rfl
  have last : char closing (closing :: t) = [((), t)] := if_pos rfl
  have all : ∀ c ∈ w, decide (c ≠ closing) = true := fun c member =>
    decide_eq_true fun same => plain (same ▸ member)
  have inner : run1 (· ≠ closing) (w ++ closing :: t) = [(w, closing :: t)] :=
    run1_append all (stops_cons.mpr (by simp)) notEmpty
  exact (bind_of_singleton first _).trans <| (bind_of_singleton inner _).trans <|
    bind_of_singleton last _

/-! ## Parts that are missing -/

theorem bind_eq_nil (none : p s = []) (f : α → Pattern β) : (p >>= f) s = [] := by
  change (p s).flatMap _ = []
  rw [none]
  rfl

theorem prefers_optional_none (missing : p s = []) : (optional p).Prefers s none s :=
  (prefers_pure none s).orElse_of_nil (bind_eq_nil missing _)

theorem run1_eq_nil (stops : Stops ok s) : run1 ok s = [] := by
  cases s with
  | nil => rfl
  | cons c s => rw [run1, if_neg (Bool.eq_false_iff.mp (stops_cons.mp stops))]

theorem char_eq_nil (stops : Stops (· = c) s) : char c s = [] := by
  cases s with
  | nil => rfl
  | cons d s => rw [char, if_neg (of_decide_eq_false (stops_cons.mp stops))]

theorem enclosed_eq_nil {opening : Char} (stops : Stops (· = opening) s) (closing : Char) :
    enclosed opening closing s = [] :=
  bind_eq_nil (char_eq_nil stops) _

theorem prefers_repeated_nil (none : p s = []) : Prefers (repeated p) s [] s := by
  change (repeated p s).head? = some ([], s)
  rw [repeated, none]
  rfl

/-! ## Reluctant runs -/

theorem fewest_bind_cons (first : ok c = true) (g : List Char → Pattern β) (s : List Char) :
    (fewest ok >>= g) (c :: s) =
      g [] (c :: s) ++ (fewest ok >>= fun others => g (c :: others)) s := by
  have readings :
      fewest ok (c :: s) = ([], c :: s) :: (fewest ok s).map fun r => (c :: r.1, r.2) := by
    rw [fewest, if_pos first]
  change (fewest ok (c :: s)).flatMap _ = g [] (c :: s) ++ (fewest ok s).flatMap _
  rw [readings, List.flatMap_cons, List.flatMap_map]

theorem fewest1_bind_cons (first : ok c = true) (g : List Char → Pattern β) (s : List Char) :
    (fewest1 ok >>= g) (c :: s) = (fewest ok >>= fun others => g (c :: others)) s := by
  have readings : fewest1 ok (c :: s) = (fewest ok s).map fun r => (c :: r.1, r.2) := by
    change (one ok (c :: s)).flatMap
      (fun r => (fewest ok r.2).flatMap fun t => [(r.1 :: t.1, t.2)]) = _
    rw [one, if_pos first, List.flatMap_singleton, List.map_eq_flatMap]
  change (fewest1 ok (c :: s)).flatMap _ = (fewest ok s).flatMap _
  rw [readings, List.flatMap_map]

/-- A reluctant run ends at the first place where what follows it can be read. -/
theorem exists_head?_fewest_bind {g : List Char → Pattern β} (all : ∀ c ∈ w, ok c = true)
    (reads : g w t ≠ []) :
    ∃ first rest, first <+: w ∧ w ++ t = first ++ rest ∧ g first rest ≠ [] ∧
      ((fewest ok >>= g) (w ++ t)).head? = (g first rest).head? := by
  induction w generalizing g with
  | nil =>
      have start : ∃ others, fewest ok t = ([], t) :: others := by cases t <;> exact ⟨_, rfl⟩
      obtain ⟨others, readings⟩ := start
      exact ⟨[], t, List.nil_prefix, rfl, reads, head?_flatMap_of_ne_nil readings reads⟩
  | cons c w ih =>
      obtain ⟨first_ok, others_ok⟩ := List.forall_mem_cons.mp all
      by_cases here : g [] (c :: w ++ t) = []
      · obtain ⟨first, rest, start, split, later, same⟩ := ih (g := fun first => g (c :: first))
          others_ok reads
        refine ⟨c :: first, rest, List.cons_prefix_cons.mpr ⟨rfl, start⟩,
          congrArg (c :: ·) split, later, ?_⟩
        rw [List.cons_append, fewest_bind_cons first_ok, ← List.cons_append, here, List.nil_append,
          same]
      · exact ⟨[], c :: w ++ t, List.nil_prefix, rfl, here, head?_flatMap_of_ne_nil rfl here⟩

end Pattern

end DiagramMarkup
