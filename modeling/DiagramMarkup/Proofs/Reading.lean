import DiagramMarkup.Source.Reading

/-! # What a reading keeps and skips

The lines are read in turns, and a turn may take several of them. What every turn keeps of the state
is kept by the whole reading, however many lines its turns take. Turns go through the lines from the
first to the last and never back, and a turn says at most one line: the one that it is at. So what a
reading says about lines comes in their order.
-/

namespace DiagramMarkup

namespace Remaining

variable {lines : List Line}

/-- The lines before those that are left. -/
def taken (r : Remaining lines) : List Line :=
  lines.take (lines.length - r.1.length)

theorem taken_append (r : Remaining lines) : taken r ++ r.1 = lines := by
  have left : r.1 = lines.drop (lines.length - r.1.length) := List.suffix_iff_eq_drop.mp r.2
  exact (congrArg (taken r ++ ·) left).trans (List.take_append_drop _ lines)

end Remaining

theorem upTo_append_cons {ends : Line → Bool} {body : List Line} {last : Line}
    (more : ∀ line ∈ body, ends line = false) (stop : ends last = true) (rest : List Line) :
    (upTo ends (body ++ last :: rest)).1 = body ∧ (upTo ends (body ++ last :: rest)).2.1 = rest := by
  induction body with
  | nil =>
      rw [List.nil_append, upTo, if_pos stop]
      exact ⟨rfl, rfl⟩
  | cons line body ih =>
      obtain ⟨first, others⟩ := List.forall_mem_cons.mp more
      obtain ⟨value, left⟩ := ih others
      rw [List.cons_append, upTo, if_neg (Bool.eq_false_iff.mp first)]
      exact ⟨congrArg (line :: ·) value, left⟩

/-- Lines are taken as long as they do not satisfy the test, and the one that does is dropped. -/
theorem upTo_eq (ends : Line → Bool) (lines : List Line) :
    (upTo ends lines).1 = lines.takeWhile (fun line => !ends line) ∧
      (upTo ends lines).2.1 = (lines.dropWhile fun line => !ends line).tail := by
  induction lines with
  | nil => exact ⟨rfl, rfl⟩
  | cons line lines ih =>
      rw [upTo, List.takeWhile_cons, List.dropWhile_cons]
      cases ends line with
      | true => exact ⟨rfl, rfl⟩
      | false => exact ⟨congrArg (line :: ·) ih.1, ih.2⟩

variable {σ : Type} {turn : σ → Line → (rest : List Line) → Turn σ rest}

theorem readAll_cons_fst (s : σ) (line : Line) (rest : List Line) :
    (readAll turn s (line :: rest)).1 =
      (readAll turn (turn s line rest).state (turn s line rest).left.1).1 := by
  rw [readAll]
  cases turn s line rest <;> rfl

@[simp] theorem Turn.state_took1 {rest : List Line} (s : σ) :
    (Turn.took1 s : Turn σ rest).state = s := rfl

/-- What holds at the start and is kept by every turn holds at the end. -/
theorem readAll_invariant {P : σ → Prop}
    (keeps : ∀ s line rest, P s → P (turn s line rest).state) {s : σ} (start : P s)
    (lines : List Line) : P (readAll turn s lines).1 := by
  induction hn : lines.length using Nat.strongRecOn generalizing s lines with
  | ind n ih =>
      cases lines with
      | nil => simpa only [readAll] using start
      | cons line rest =>
          rw [readAll_cons_fst]
          have shorter : (turn s line rest).left.1.length < n := by
            have suffix := (turn s line rest).left.2.length_le
            simp only [List.length_cons] at hn
            omega
          exact ih _ shorter (keeps s line rest start) _ rfl

/-! ## The lines that are skipped -/

open scoped List

/-- The line that a diagnostic is about. -/
def Diagnostic.source (d : Diagnostic) : Line :=
  ⟨d.line, d.text⟩

/-- The numbers of the lines that diagnostics are about. -/
def diagnosed (diagnostics : List Diagnostic) : List Nat :=
  diagnostics.map Diagnostic.line

theorem readAll_of_took {s next : σ} {line : Line} {rest : List Line} {left : Remaining rest}
    (took : turn s line rest = .took next left) :
    readAll turn s (line :: rest) = readAll turn next left.1 := by
  rw [readAll, took]

theorem readAll_of_skipped {s next : σ} {line : Line} {rest : List Line} {reason : String}
    {left : Remaining rest} (skipped : turn s line rest = .skipped next reason left) :
    readAll turn s (line :: rest) = ((readAll turn next left.1).1,
      ⟨line.number, line.text, reason⟩ :: (readAll turn next left.1).2) := by
  rw [readAll, skipped]

/-- The lines that are skipped are some of the lines, in their order and each at most once. -/
theorem sources_readAll (s : σ) (lines : List Line) :
    (readAll turn s lines).2.map Diagnostic.source <+ lines := by
  fun_induction readAll turn s lines with
  | case1 s => exact .slnil
  | case2 s line rest next left took shorter ih =>
      exact (ih.trans left.2.sublist).cons line
  | case3 s line rest next reason left skipped shorter last diagnostics later ih =>
      rw [later] at ih
      exact (ih.trans left.2.sublist).cons_cons line

theorem diagnosed_readAll (s : σ) (lines : List Line) :
    diagnosed (readAll turn s lines).2 <+ lines.map Line.number := by
  have sources : (readAll turn s lines).2.map Diagnostic.source <+ lines := sources_readAll s lines
  have numbers := sources.map Line.number
  rwa [List.map_map] at numbers

end DiagramMarkup
