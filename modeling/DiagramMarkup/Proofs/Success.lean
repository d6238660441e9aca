/-! # Computations that give a result

A computation that can fail gives a result where every one of its steps does.
-/

namespace DiagramMarkup

variable {σ ε β γ : Type}

/-- A computation gives a result. -/
def Succeeds (found : Except ε β) : Prop :=
  ∃ value, found = .ok value

theorem succeeds_ok (value : β) : Succeeds (.ok value : Except ε β) :=
  ⟨value, rfl⟩

theorem Succeeds.bind {found : Except ε β} {next : β → Except ε γ} (first : Succeeds found)
    (second : ∀ value, Succeeds (next value)) : Succeeds (found >>= next) := by
  obtain ⟨value, rfl⟩ := first
  exact second value

theorem exists_of_map_eq_ok {found : Except ε β} {f : β → γ} {value : γ}
    (same : found.map f = .ok value) : ∃ x, found = .ok x ∧ f x = value := by
  cases found with
  | error e => cases same
  | ok x => exact ⟨x, rfl, Except.ok.inj same⟩

theorem succeeds_map_iff {found : Except ε β} {f : β → γ} :
    Succeeds (found.map f) ↔ Succeeds found := by
  constructor
  · rintro ⟨_, same⟩
    obtain ⟨x, found, _⟩ := exists_of_map_eq_ok same
    exact ⟨x, found⟩
  · rintro ⟨x, rfl⟩
    exact succeeds_ok (f x)

theorem succeeds_mapM {f : β → Except ε γ} {items : List β} (each : ∀ x ∈ items, Succeeds (f x)) :
    Succeeds (items.mapM f) := by
  induction items with
  | nil => exact succeeds_ok []
  | cons x items ih =>
      rw [List.mapM_cons]
      apply (each x List.mem_cons_self).bind
      intro first
      apply (ih fun y member => each y (List.mem_cons_of_mem x member)).bind
      intro rest
      exact succeeds_ok (first :: rest)

/-- A fold gives a result if something holds at the start under which every step gives one, and which
every step keeps. -/
theorem succeeds_foldlM {P : σ → Prop} {f : σ → β → Except ε σ} {items : List β} {s : σ} (start : P s)
    (each : ∀ s, P s → ∀ x ∈ items, ∃ next, f s x = .ok next ∧ P next) :
    Succeeds (items.foldlM f s) := by
  induction items generalizing s with
  | nil => exact succeeds_ok s
  | cons x items ih =>
      obtain ⟨next, found, kept⟩ := each s start x List.mem_cons_self
      rw [List.foldlM_cons, found]
      exact ih kept fun s holds y member => each s holds y (List.mem_cons_of_mem x member)

/-! ## What a result satisfies -/

/-- A computation gives a result that satisfies a condition, or none. -/
def Ensures (P : β → Prop) (found : Except ε β) : Prop :=
  ∀ value, found = .ok value → P value

variable {P : β → Prop} {Q : γ → Prop}

theorem ensures_ok {value : β} (holds : P value) : Ensures P (.ok value : Except ε β) := by
  intro _ same
  cases same
  exact holds

theorem Ensures.imp {R : β → Prop} {found : Except ε β} (ensures : Ensures P found)
    (weaker : ∀ {value}, P value → R value) : Ensures R found :=
  fun value same => weaker (ensures value same)

theorem ensures_found (found : Except ε β) : Ensures (fun value => found = .ok value) found :=
  fun _ same => same

theorem Ensures.bind {found : Except ε β} {next : β → Except ε γ} (first : Ensures P found)
    (second : ∀ value, P value → Ensures Q (next value)) : Ensures Q (found >>= next) := by
  cases found with
  | error e =>
      intro _ none
      cases none
  | ok value => exact second value (first value rfl)

theorem ensures_mapM {f : σ → Except ε β} {items : List σ} (each : ∀ x ∈ items, Ensures P (f x)) :
    Ensures (fun values => ∀ y ∈ values, P y) (items.mapM f) := by
  induction items with
  | nil => exact ensures_ok fun _ member => absurd member List.not_mem_nil
  | cons x items ih =>
      rw [List.mapM_cons]
      refine (each x List.mem_cons_self).bind fun first holds => ?_
      refine (ih fun y member => each y (List.mem_cons_of_mem x member)).bind fun rest all => ?_
      exact ensures_ok (List.forall_mem_cons.mpr ⟨holds, all⟩)

theorem ensures_mem_mapM {f : σ → Except ε β} {items : List σ} {x : σ} (member : x ∈ items) :
    Ensures (fun values => ∃ y ∈ values, f x = .ok y) (items.mapM f) := by
  induction items with
  | nil => exact absurd member List.not_mem_nil
  | cons head items ih =>
      rw [List.mapM_cons]
      refine (ensures_found (f head)).bind fun first found => ?_
      rcases List.mem_cons.mp member with rfl | later
      · refine (ensures_found _).bind fun rest _ => ensures_ok ?_
        exact ⟨first, List.mem_cons_self, found⟩
      · refine (ih later).bind fun rest ⟨y, here, found⟩ => ensures_ok ?_
        exact ⟨y, List.mem_cons_of_mem first here, found⟩

/-- What every step of a fold keeps holds at its end, if it holds at its start. -/
theorem Ensures.foldlM {R : σ → Prop} {f : σ → β → Except ε σ} {items : List β} {s : σ} (start : R s)
    (kept : ∀ s, R s → ∀ x ∈ items, Ensures R (f s x)) : Ensures R (items.foldlM f s) := by
  induction items generalizing s with
  | nil => exact ensures_ok start
  | cons x items ih =>
      rw [List.foldlM_cons]
      refine (kept s start x List.mem_cons_self).bind fun next holds => ?_
      exact ih holds fun s holds y member => kept s holds y (List.mem_cons_of_mem x member)

/-- It also holds at the end if the step of some item brings it about. -/
theorem ensures_foldlM_of_mem {R : σ → Prop} {f : σ → β → Except ε σ} {items : List β} {x : β}
    (member : x ∈ items) (reached : ∀ s, Ensures R (f s x))
    (kept : ∀ s, R s → ∀ y ∈ items, Ensures R (f s y)) (s : σ) : Ensures R (items.foldlM f s) := by
  induction items generalizing s with
  | nil => exact absurd member List.not_mem_nil
  | cons head items ih =>
      have later (s : σ) (holds : R s) (y : β) (member : y ∈ items) : Ensures R (f s y) :=
        kept s holds y (List.mem_cons_of_mem head member)
      rw [List.foldlM_cons]
      rcases List.mem_cons.mp member with rfl | behind
      · exact (reached s).bind fun next holds => Ensures.foldlM holds later
      · exact (ensures_found (f s head)).bind fun next _ => ih behind later next

/-! ## Failure -/

theorem not_succeeds_error (e : ε) : ¬ Succeeds (.error e : Except ε β) := by
  rintro ⟨value, same⟩
  cases same

theorem not_succeeds_bind {found : Except ε β} {next : β → Except ε γ} (none : ¬ Succeeds found) :
    ¬ Succeeds (found >>= next) := by
  cases found with
  | error e => exact not_succeeds_error e
  | ok value => exact absurd (succeeds_ok value) none

theorem not_succeeds_next {found : Except ε β} {next : β → Except ε γ}
    (none : ∀ value, ¬ Succeeds (next value)) : ¬ Succeeds (found >>= next) := by
  cases found with
  | error e => exact not_succeeds_error e
  | ok value => exact none value

theorem not_succeeds_mapM {f : β → Except ε γ} {items : List β} (some_item : items ≠ [])
    (each : ∀ x, ¬ Succeeds (f x)) : ¬ Succeeds (items.mapM f) := by
  obtain ⟨x, rest, rfl⟩ := List.exists_cons_of_ne_nil some_item
  rw [List.mapM_cons]
  exact not_succeeds_bind (each x)

theorem not_succeeds_foldlM {f : σ → β → Except ε σ} {items : List β} {s : σ}
    (some_item : items ≠ []) (each : ∀ s x, ¬ Succeeds (f s x)) : ¬ Succeeds (items.foldlM f s) := by
  obtain ⟨x, rest, rfl⟩ := List.exists_cons_of_ne_nil some_item
  rw [List.foldlM_cons]
  exact not_succeeds_bind (each s x)

end DiagramMarkup
