import DiagramMarkup.Proofs.Reading
import DiagramMarkup.Proofs.Renumbering.Lines

/-! # Readings that skipped lines do not touch

A turn that takes lines below its own takes all of them up to some place, and looks no further. Where
every turn is of this kind, or else skips its line whatever stands below it, the lines that are
skipped can be left out and nothing else is read in another way.
-/

namespace DiagramMarkup

open scoped List

variable {σ α β : Type}

/-! ## Reading on below a line -/

/-- A reading of the lines below that is decided by the lines it takes: it stays the same where some
of the lines that it leaves are left out. -/
def Confined (read : (rest : List Line) → α × Remaining rest) : Prop :=
  ∀ rest, ∃ value taken left, rest = taken ++ left ∧
    ∀ fewer, fewer <+ left → (read (taken ++ fewer)).1 = value ∧ (read (taken ++ fewer)).2.1 = fewer

namespace Confined

theorem all (value : α) : Confined fun rest => (value, .all rest) :=
  fun rest => ⟨value, [], rest, rfl, fun _ _ => ⟨rfl, rfl⟩⟩

theorem map {read : (rest : List Line) → α × Remaining rest} (confined : Confined read)
    (f : α → β) : Confined fun rest => (f (read rest).1, (read rest).2) := by
  intro rest
  obtain ⟨value, taken, left, split, same⟩ := confined rest
  refine ⟨f value, taken, left, split, ?_⟩
  intro fewer sublist
  exact ⟨congrArg f (same fewer sublist).1, (same fewer sublist).2⟩

end Confined

/-- A reading of the lines below that is decided by the texts of the lines it takes. -/
structure Local (read : (rest : List Line) → α × Remaining rest) : Prop where
  confined : Confined read
  blind : Blind read

theorem Local.all (value : α) : Local fun rest => (value, .all rest) :=
  ⟨.all value, .all value⟩

/-! ## Collecting lines -/

/-- Lines are collected up to the first one that satisfies a test; `last` tells what becomes of that
one. -/
structure Collects (read : (rest : List Line) → List Line × Remaining rest) (ends : Line → Bool)
    (last : Line → List Line) : Prop where
  none : (read []).1 = []
  stop : ∀ line rest, ends line = true →
    (read (line :: rest)).1 = last line ∧ (read (line :: rest)).2.1 = rest
  more : ∀ line rest, ends line = false →
    (read (line :: rest)).1 = line :: (read rest).1 ∧
      (read (line :: rest)).2.1 = (read rest).2.1

namespace Collects

variable {read : (rest : List Line) → List Line × Remaining rest} {ends : Line → Bool}
  {last : Line → List Line}

theorem upTo (ends : Line → Bool) : Collects (upTo ends) ends fun _ => [] where
  none := rfl
  stop line rest here := by
    rw [DiagramMarkup.upTo, if_pos here]
    exact ⟨rfl, rfl⟩
  more line rest here := by
    rw [DiagramMarkup.upTo, if_neg (Bool.eq_false_iff.mp here)]
    exact ⟨rfl, rfl⟩

theorem through (ends : Line → Bool) : Collects (through ends) ends fun line => [line] where
  none := rfl
  stop line rest here := by
    rw [DiagramMarkup.through, if_pos here]
    exact ⟨rfl, rfl⟩
  more line rest here := by
    rw [DiagramMarkup.through, if_neg (Bool.eq_false_iff.mp here)]
    exact ⟨rfl, rfl⟩

theorem confined (collects : Collects read ends last) : Confined read := by
  intro rest
  induction rest with
  | nil =>
      refine ⟨[], [], [], rfl, ?_⟩
      intro fewer empty
      rw [List.sublist_nil.mp empty]
      exact ⟨collects.none, List.suffix_nil.mp (read []).2.2⟩
  | cons line rest ih =>
      cases here : ends line with
      | true => exact ⟨last line, [line], rest, rfl, fun fewer _ => collects.stop line fewer here⟩
      | false =>
          obtain ⟨body, taken, left, rfl, same⟩ := ih
          refine ⟨line :: body, line :: taken, left, rfl, ?_⟩
          intro fewer sublist
          obtain ⟨before, after⟩ := same fewer sublist
          obtain ⟨value, beyond⟩ := collects.more line (taken ++ fewer) here
          exact ⟨value.trans (congrArg (line :: ·) before), beyond.trans after⟩

theorem blind (collects : Collects read ends last)
    (looks : ∀ f line, ends (line.renumber f) = ends line)
    (texts : ∀ f line, (last (line.renumber f)).map Line.text = (last line).map Line.text) :
    Blind fun rest => ((read rest).1.map Line.text, (read rest).2) := by
  intro f rest
  suffices same : (read (rest.map (Line.renumber f))).1.map Line.text =
      (read rest).1.map Line.text ∧
      (read (rest.map (Line.renumber f))).2.1 = (read rest).2.1.map (Line.renumber f) from
    Prod.ext same.1 (Subtype.ext same.2)
  induction rest with
  | nil =>
      have left : (read []).2.1 = [] := List.suffix_nil.mp (read []).2.2
      rw [List.map_nil, collects.none, left]
      exact ⟨rfl, rfl⟩
  | cons line rest ih =>
      have looked := looks f line
      rw [List.map_cons]
      cases here : ends line with
      | true =>
          obtain ⟨value, left⟩ := collects.stop line rest here
          obtain ⟨value', left'⟩ :=
            collects.stop _ (rest.map (Line.renumber f)) (looked.trans here)
          rw [value, value', left, left']
          exact ⟨texts f line, rfl⟩
      | false =>
          obtain ⟨value, left⟩ := collects.more line rest here
          obtain ⟨value', left'⟩ :=
            collects.more _ (rest.map (Line.renumber f)) (looked.trans here)
          rw [value, value', left, left']
          exact ⟨congrArg (line.text :: ·) ih.1, ih.2⟩

theorem decided {value : List Line → α} (collects : Collects read ends last)
    (decides : OfTexts value) (looks : ∀ f line, ends (line.renumber f) = ends line)
    (texts : ∀ f line, (last (line.renumber f)).map Line.text = (last line).map Line.text) :
    Local fun rest => (value (read rest).1, (read rest).2) where
  confined := collects.confined.map value
  blind f rest := by
    obtain ⟨same, left⟩ := Prod.mk.inj (collects.blind looks texts f rest)
    exact Prod.ext (decides _ _ same) left

end Collects

namespace Local

variable {value : List Line → α} {ends : Line → Bool}

theorem upTo (decides : OfTexts value) (looks : ∀ f line, ends (line.renumber f) = ends line) :
    Local fun rest => (value (upTo ends rest).1, (DiagramMarkup.upTo ends rest).2) :=
  (Collects.upTo ends).decided decides looks fun _ _ => rfl

theorem through (decides : OfTexts value)
    (looks : ∀ f line, ends (line.renumber f) = ends line) :
    Local fun rest => (value (through ends rest).1, (DiagramMarkup.through ends rest).2) :=
  (Collects.through ends).decided decides looks fun _ _ => rfl

end Local

/-- A reading of the lines below that is refused by the line above them or by nothing. -/
inductive Offered (read? : (rest : List Line) → Option (α × Remaining rest)) : Prop where
  | never (none : ∀ rest, read? rest = none)
  | always {read : (rest : List Line) → α × Remaining rest} (decided : Local read)
      (some : ∀ rest, read? rest = some (read rest))

/-! ## Turns -/

/-- A turn from a state that skips its line whatever stands below it, and stays in the state, or else
takes it together with lines below whose texts decide what it reads. -/
inductive Steady (s : σ) (turn : (rest : List Line) → Turn σ rest) : Prop where
  | skips {reason : String} (skipped : ∀ rest, turn rest = .skip s reason)
  | takes {read : (rest : List Line) → σ × Remaining rest} (decided : Local read)
      (took : ∀ rest, turn rest = .took (read rest).1 (read rest).2)

theorem Steady.alone {s next : σ} {turn : (rest : List Line) → Turn σ rest}
    (took : ∀ rest, turn rest = .took1 next) : Steady s turn :=
  .takes (.all next) took

/-- A line that is taken with what is read below it, of which nothing but the value reaches the
state. -/
theorem Steady.reading {s : σ} {turn : (rest : List Line) → Turn σ rest}
    {read : (rest : List Line) → α × Remaining rest} (decided : Local read)
    (took : ∀ rest, turn rest = .took (turn rest).state (read rest).2)
    (same : ∀ rest rest', (read rest).1 = (read rest').1 → (turn rest).state = (turn rest').state) :
    Steady s turn := by
  refine .takes (⟨?confined, ?blind⟩ : Local fun rest => ((turn rest).state, (read rest).2)) took
  case confined =>
    intro rest
    obtain ⟨value, taken, left, rfl, kept⟩ := decided.confined rest
    refine ⟨(turn (taken ++ left)).state, taken, left, rfl, ?_⟩
    intro fewer sublist
    have whole := kept left (.refl left)
    have part := kept fewer sublist
    exact ⟨same _ _ (part.1.trans whole.1.symm), part.2⟩
  case blind =>
    intro f rest
    obtain ⟨value, left⟩ := Prod.mk.inj (decided.blind f rest)
    exact Prod.ext (same _ _ value) left

theorem Steady.fewer {s : σ} {turn : (rest : List Line) → Turn σ rest} (steady : Steady s turn)
    {rest fewer : List Line} (sublist : fewer <+ (turn rest).left.1) :
    (turn (Remaining.taken (turn rest).left ++ fewer)).state = (turn rest).state ∧
      (turn (Remaining.taken (turn rest).left ++ fewer)).left.1 = fewer := by
  cases steady with
  | skips skipped =>
      have none : Remaining.taken (turn rest).left = [] := by
        rw [skipped]
        simp only [Turn.left, Turn.skip, Remaining.all, Remaining.taken, Nat.sub_self, List.take_zero]
      rw [none, List.nil_append, skipped fewer, skipped rest]
      exact ⟨rfl, rfl⟩
  | @takes read decided took =>
      obtain ⟨value, taken, left, rfl, same⟩ := decided.confined rest
      obtain ⟨state, onward⟩ := same left (.refl left)
      have whole : (turn (taken ++ left)).left.1 = left := by rw [took]; exact onward
      have split : Remaining.taken (turn (taken ++ left)).left = taken := by
        have split := Remaining.taken_append (turn (taken ++ left)).left
        rw [whole] at split
        exact List.append_cancel_right split
      rw [whole] at sublist
      rw [split, took, took]
      exact ⟨(same fewer sublist).1.trans state.symm, (same fewer sublist).2⟩

theorem Steady.renumber {s : σ} {turn : (rest : List Line) → Turn σ rest} (steady : Steady s turn)
    (f : Nat → Nat) (rest : List Line) :
    turn (rest.map (Line.renumber f)) = (turn rest).renumber f := by
  cases steady with
  | skips skipped =>
      rw [skipped, skipped]
      rfl
  | takes decided took =>
      rw [took, took, decided.blind f rest]
      rfl

variable {turn : σ → Line → (rest : List Line) → Turn σ rest}

/-- What is left of some lines without those of some numbers. -/
def leaveOut (numbers : List Nat) (lines : List Line) : List Line :=
  lines.filter fun line => line.number ∉ numbers

theorem leaveOut_eq_self {numbers : List Nat} {lines : List Line}
    (apart : ∀ line ∈ lines, line.number ∉ numbers) : leaveOut numbers lines = lines :=
  List.filter_eq_self.mpr fun line here => decide_eq_true (apart line here)

theorem leaveOut_append (numbers : List Nat) (lines others : List Line) :
    leaveOut numbers (lines ++ others) = leaveOut numbers lines ++ leaveOut numbers others :=
  List.filter_append ..

theorem leaveOut_cons_cons {numbers : List Nat} {line : Line} {rest : List Line}
    (fresh : line.number ∉ rest.map Line.number) :
    leaveOut (line.number :: numbers) (line :: rest) = leaveOut numbers rest := by
  unfold leaveOut
  rw [List.filter_cons_of_neg (by simp)]
  apply List.filter_congr
  intro other here
  have apart : other.number ≠ line.number := fun same => fresh (same ▸ List.mem_map_of_mem here)
  simp only [List.mem_cons, apart, false_or]

theorem leaveOut_taken {s : σ} {taken left : List Line}
    (distinct : ((taken ++ left).map Line.number).Nodup) :
    leaveOut (diagnosed (readAll turn s left).2) taken = taken := by
  rw [List.map_append, List.nodup_append] at distinct
  apply leaveOut_eq_self
  intro line here skipped
  have below := (diagnosed_readAll s left).subset skipped
  exact distinct.2.2 _ (List.mem_map_of_mem here) _ below rfl

/-- Without the lines that are skipped, the same is read and nothing is skipped. -/
theorem readAll_leaveOut (steady : ∀ s line, Steady s (turn s line)) (s : σ) (lines : List Line)
    (distinct : (lines.map Line.number).Nodup) :
    readAll turn s (leaveOut (diagnosed (readAll turn s lines).2) lines) =
      ((readAll turn s lines).1, []) := by
  induction hn : lines.length using Nat.strongRecOn generalizing s lines with
  | ind n ih =>
      cases lines with
      | nil => simp only [readAll, leaveOut, List.filter_nil]
      | cons line rest =>
          cases steady s line with
          | skips skipped =>
              have below := List.nodup_cons.mp distinct
              rw [readAll_of_skipped (skipped rest)]
              exact (congrArg _ (leaveOut_cons_cons below.1)).trans
                (ih _ (by simp only [← hn, List.length_cons]; omega) s rest below.2 rfl)
          | @takes read decided took =>
              obtain ⟨next, taken, left, rfl, same⟩ := decided.confined rest
              -- the turn comes to the same state and leaves whatever is kept of the lines below
              have onward (fewer : List Line) (sublist : fewer <+ left) :
                  readAll turn s (line :: (taken ++ fewer)) = readAll turn next fewer := by
                rw [readAll_of_took (took _), (same fewer sublist).1, (same fewer sublist).2]
              rw [onward left (.refl left)]
              rw [show line :: (taken ++ left) = (line :: taken) ++ left from rfl] at distinct ⊢
              rw [leaveOut_append, leaveOut_taken distinct, List.cons_append,
                onward (leaveOut _ left) List.filter_sublist]
              rw [List.map_append, List.nodup_append] at distinct
              refine ih _ ?_ next left distinct.2.1 rfl
              simp only [← hn, List.length_cons, List.length_append]
              omega

end DiagramMarkup
