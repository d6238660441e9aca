import DiagramMarkup.Proofs.Phrase.Arrows
import DiagramMarkup.Proofs.Reading
import DiagramMarkup.Proofs.References.Sequence
import DiagramMarkup.Source.Detection

/-! # Messages that are detected and read

A line that the rule for messages recognises has two names with an arrow between them and a colon. The
reader of conversations takes it for nothing else, unless a keyword makes it the declaration of a
participant, and enters one message between the two names.
-/

namespace DiagramMarkup

open Text Pattern Phrase

/-- The arrows that the rule for messages knows. -/
def messageArrows : List String :=
  ["->>", "->", "-->>", "-->", "<-", "<--"]

/-- A line that starts with a message: two names with an arrow between them, and then a colon. -/
structure Spoken (s left : List Char) (arrow : String) (right rest : List Char) : Prop where
  left_ne_nil : left ≠ []
  left_path : ∀ c ∈ left, isPathChar c = true
  right_ne_nil : right ≠ []
  right_path : ∀ c ∈ right, isPathChar c = true
  arrow_mem : arrow ∈ messageArrows
  written : ∃ before behind last : List Char,
    s = left ++ (before ++ (arrow.toList ++ (behind ++ (right ++ (last ++ ':' :: rest))))) ∧
      (∀ c ∈ before, isBlank c = true) ∧ (∀ c ∈ behind, isBlank c = true) ∧
        ∀ c ∈ last, isBlank c = true

theorem Detection.spoken_of_isMessage {s : List Char} (message : isMessage s = true) :
    ∃ left arrow right rest, Spoken s left arrow right rest := by
  have reads : messagePattern s ≠ [] := by
    simpa only [isMessage, reads, Bool.not_eq_true', List.isEmpty_eq_false_iff] using message
  obtain ⟨reading, member⟩ := List.exists_mem_of_ne_nil _ reads
  obtain ⟨⟨left, _⟩, first, member⟩ := mem_bind.mp member
  obtain ⟨⟨_, _⟩, gap, member⟩ := mem_bind.mp member
  obtain ⟨⟨arrow, _⟩, middle, member⟩ := mem_bind.mp member
  obtain ⟨⟨_, _⟩, next_gap, member⟩ := mem_bind.mp member
  obtain ⟨⟨right, _⟩, second, member⟩ := mem_bind.mp member
  obtain ⟨⟨_, _⟩, last_gap, colon⟩ := mem_bind.mp member
  obtain ⟨first, left_ne_nil⟩ := mem_run1.mp first
  obtain ⟨rfl, left_path, _⟩ := mem_run.mp first
  obtain ⟨before, gap⟩ := mem_blanks.mp gap
  obtain ⟨rfl, before_blank, _⟩ := mem_run.mp gap
  obtain ⟨arrow_mem, rfl⟩ := mem_anyOf.mp middle
  obtain ⟨behind, next_gap⟩ := mem_blanks.mp next_gap
  obtain ⟨rfl, behind_blank, _⟩ := mem_run.mp next_gap
  obtain ⟨second, right_ne_nil⟩ := mem_run1.mp second
  obtain ⟨rfl, right_path, _⟩ := mem_run.mp second
  obtain ⟨last, last_gap⟩ := mem_blanks.mp last_gap
  obtain ⟨rfl, last_blank, _⟩ := mem_run.mp last_gap
  obtain rfl := mem_char.mp colon
  exact ⟨left, arrow, right, reading.2, left_ne_nil, left_path, right_ne_nil, right_path, arrow_mem,
    before, behind, last, rfl, before_blank, behind_blank, last_blank⟩

/-! ## Names in messages -/

theorem isBlank_of_isPathChar {c : Char} (path : isPathChar c = true) : isBlank c = false := by
  rcases Bool.or_eq_true_iff.mp path with word | dot
  · exact isBlank_of_isWord word
  · rw [of_decide_eq_true dot]
    decide

theorem isPathChar_of_isBlank {c : Char} (blank : isBlank c = true) : isPathChar c = false := by
  rw [Bool.eq_false_iff]
  exact fun path => Bool.false_ne_true ((isBlank_of_isPathChar path).symm.trans blank)

theorem ne_of_isPathChar {c d : Char} (path : isPathChar c = true) (other : isPathChar d = false) :
    c ≠ d := by
  rintro rfl
  exact Bool.false_ne_true (other.symm.trans path)

theorem mem_messageArrows {arrow : String} :
    arrow ∈ messageArrows ↔ arrow = "->>" ∨ arrow = "->" ∨ arrow = "-->>" ∨ arrow = "-->" ∨
      arrow = "<-" ∨ arrow = "<--" := by
  simp only [messageArrows, List.mem_cons, List.not_mem_nil, or_false]

namespace Spoken

variable {s left right rest : List Char} {arrow : String}

theorem stops_arrow {ok : Char → Bool} (spoken : Spoken s left arrow right rest)
    (dash : ok '-' = false) (angle : ok '<' = false) (t : List Char) :
    Stops ok (arrow.toList ++ t) := by
  rcases mem_messageArrows.mp spoken.arrow_mem with rfl | rfl | rfl | rfl | rfl | rfl
  · exact stops_cons.mpr dash
  · exact stops_cons.mpr dash
  · exact stops_cons.mpr dash
  · exact stops_cons.mpr dash
  · exact stops_cons.mpr angle
  · exact stops_cons.mpr angle

theorem head?_left (spoken : Spoken s left arrow right rest) :
    ∃ c, s.head? = some c ∧ isPathChar c = true := by
  obtain ⟨before, behind, last, rfl, -⟩ := spoken.written
  obtain ⟨c, others, same⟩ := List.exists_cons_of_ne_nil spoken.left_ne_nil
  exact ⟨c, by rw [same]; rfl, spoken.left_path c (same ▸ List.mem_cons_self)⟩

end Spoken

/-! ## What a message is not taken for -/

/-- Whether a text starts with the keyword of a participant and a blank. -/
def OpensDeclaration (s : List Char) : Prop :=
  ∃ (kind : ParticipantKind) (rest : List Char),
    s = kind.name.toList ++ rest ∧ startsBlank rest = true

/-- The first character behind the first name and the blanks that follow it. -/
def secondStart? (s : List Char) : Option Char :=
  ((s.dropWhile isPathChar).dropWhile isBlank).head?

theorem secondStart?_append {name blanks t : List Char} (path : ∀ c ∈ name, isPathChar c = true)
    (blank : ∀ c ∈ blanks, isBlank c = true) (no_path : Stops isPathChar (blanks ++ t))
    (full : Stops isBlank t) : secondStart? (name ++ (blanks ++ t)) = t.head? := by
  rw [secondStart?, dropWhile_append_stops path no_path, dropWhile_append_stops blank full]

theorem Spoken.secondStart?_eq {s left right rest : List Char} {arrow : String}
    (spoken : Spoken s left arrow right rest) :
    secondStart? s = some '-' ∨ secondStart? s = some '<' := by
  obtain ⟨before, behind, last, rfl, before_blank, -⟩ := spoken.written
  rw [secondStart?_append spoken.left_path before_blank
    (stops_append (fun c member => isPathChar_of_isBlank (before_blank c member))
      (spoken.stops_arrow (by decide) (by decide) _)) (spoken.stops_arrow (by decide) (by decide) _)]
  rcases mem_messageArrows.mp spoken.arrow_mem with rfl | rfl | rfl | rfl | rfl | rfl
  · exact .inl rfl
  · exact .inl rfl
  · exact .inl rfl
  · exact .inl rfl
  · exact .inr rfl
  · exact .inr rfl

namespace SequenceDiagram

variable {s left right rest : List Char} {arrow : String}

theorem read?_declarationPattern (undeclared : ¬ OpensDeclaration s) :
    declarationPattern.read? s = none := by
  refine read?_eq_none fun reading member => undeclared ?_
  obtain ⟨⟨word, _⟩, first, member⟩ := mem_bind.mp member
  obtain ⟨⟨_, _⟩, gap, _⟩ := mem_bind.mp member
  obtain ⟨keyword, rfl⟩ := mem_anyOf.mp first
  obtain ⟨kind, _, rfl⟩ := List.mem_map.mp keyword
  obtain ⟨blanks, gap⟩ := mem_blanks1.mp gap
  obtain ⟨gap, notEmpty⟩ := mem_run1.mp gap
  obtain ⟨rfl, blank, _⟩ := mem_run.mp gap
  obtain ⟨c, others, rfl⟩ := List.exists_cons_of_ne_nil notEmpty
  exact ⟨kind, _, rfl, blank c List.mem_cons_self⟩

theorem divider?_of_spoken (spoken : Spoken s left arrow right rest) : divider? s = none := by
  obtain ⟨c, first, path⟩ := spoken.head?_left
  obtain ⟨others, rfl⟩ := List.head?_eq_some_iff.mp first
  have apart : c ≠ '=' := ne_of_isPathChar path (by decide)
  have inner : (c :: others).dropWhile (fun c => decide (c = '=')) = c :: others :=
    List.dropWhile_cons_of_neg (by simpa using apart)
  have start : hasStart ['=', '='] (c :: others) = false := by
    rw [Bool.eq_false_iff, Ne, hasStart_iff, List.cons_prefix_cons]
    exact fun same => apart same.1.symm
  unfold divider?
  dsimp only
  rw [inner, start]
  rfl

/-- The second word of a note tells its place. -/
theorem secondStart?_of_mem_notePattern
    {reading : (Placement × List (List Char) × Option (List Char)) × List Char}
    (member : reading ∈ notePattern s) :
    secondStart? s = some 'l' ∨ secondStart? s = some 'r' ∨ secondStart? s = some 'o' := by
  unfold notePattern at member
  dsimp only at member
  obtain ⟨⟨_, _⟩, form, member⟩ := mem_bind.mp member
  obtain ⟨⟨_, _⟩, word, member⟩ := mem_bind.mp member
  obtain ⟨⟨_, t⟩, gap, member⟩ := mem_bind.mp member
  obtain ⟨⟨_, _⟩, place, _⟩ := mem_bind.mp member
  obtain ⟨blanks, gap⟩ := mem_blanks1.mp gap
  obtain ⟨gap, notEmpty⟩ := mem_run1.mp gap
  obtain ⟨rfl, blank, full⟩ := mem_run.mp gap
  obtain ⟨-, rfl⟩ := mem_text.mp word
  have name : ∃ name, s = name ++ (blanks ++ t) ∧ ∀ c ∈ name, isPathChar c = true := by
    rcases mem_optional.mp form with ⟨⟨c, _⟩, first, same⟩ | same
    · cases same
      obtain ⟨rfl, letter⟩ := mem_one.mp first
      refine ⟨c :: "note".toList, rfl, List.forall_mem_cons.mpr ⟨?_, List.all_eq_true.mp rfl⟩⟩
      rcases Bool.or_eq_true_iff.mp letter with h | r
      · rw [of_decide_eq_true h]
        decide
      · rw [of_decide_eq_true r]
        decide
    · cases same
      exact ⟨"note".toList, rfl, List.all_eq_true.mp rfl⟩
  obtain ⟨name, rfl, path⟩ := name
  obtain ⟨b, others, rfl⟩ := List.exists_cons_of_ne_nil notEmpty
  rw [secondStart?_append path blank
    (stops_cons.mpr (isPathChar_of_isBlank (blank b List.mem_cons_self))) full]
  rcases mem_orElse.mp place with beside | above
  · obtain ⟨⟨side, _⟩, first, _⟩ := mem_bind.mp beside
    obtain ⟨known, rfl⟩ := mem_anyOf.mp first
    dsimp only at known ⊢
    rcases List.mem_pair.mp known with rfl | rfl
    · exact .inl rfl
    · exact .inr (.inl rfl)
  · obtain ⟨⟨_, _⟩, first, _⟩ := mem_bind.mp above
    obtain ⟨-, rfl⟩ := mem_text.mp first
    exact .inr (.inr rfl)

theorem read?_notePattern_of_spoken (spoken : Spoken s left arrow right rest) :
    notePattern.read? s = none := by
  refine read?_eq_none fun reading member => ?_
  rcases spoken.secondStart?_eq with start | start <;>
    rcases secondStart?_of_mem_notePattern member with word | word | word <;>
      exact absurd (start.symm.trans word) (by decide)

/-! ## What a message is taken for -/

theorem unquote_of_path {name : List Char} (path : ∀ c ∈ name, isPathChar c = true) :
    unquote name = name :=
  unquote_of_plain fun c member =>
    ⟨isBlank_of_isPathChar (path c member), ne_of_isPathChar (path c member) (by decide)⟩

theorem prefers_participantName {name t : List Char} (path : ∀ c ∈ name, isPathChar c = true)
    (notEmpty : name ≠ []) (stops : Stops (fun c => isNameChar c || c = '.') t) :
    participantName.Prefers (name ++ t) name t := by
  have all : ∀ c ∈ name, (isNameChar c || decide (c = '.')) = true := by
    intro c member
    rcases Bool.or_eq_true_iff.mp (path c member) with word | dot
    · rw [isNameChar, word, Bool.true_or, Bool.true_or]
    · rw [dot, Bool.or_true]
  refine (prefers_run1 all stops notEmpty).orElse_of_nil (enclosed_eq_nil ?_ _)
  refine Stops.append (fun c first => ?_) notEmpty t
  exact decide_eq_false (ne_of_isPathChar (path c (List.mem_of_head? first)) (by decide))

/-! ### Arrows -/

variable {second double t : List Char}

theorem prefers_sign (c : Char) (t : List Char) : (sign c).Prefers (c :: t) [c] t :=
  (prefers_char c t).bind (prefers_pure [c] t)

theorem prefers_maybe_sign {c : Char} {part : List Char} (written : part = [] ∨ part = [c])
    (stops : Stops (· = c) t) : (maybe (sign c)).Prefers (part ++ t) part t := by
  rcases written with rfl | rfl
  · exact (prefers_pure [] t).orElse_of_nil (bind_eq_nil (char_eq_nil stops) _)
  · exact (prefers_sign c t).orElse _

theorem prefers_maybe_style (stops : Stops (· = '[') t) : (maybe style).Prefers t [] t :=
  (prefers_pure [] t).orElse_of_nil (bind_eq_nil (char_eq_nil stops) _)

theorem prefers_leftArrow (written : second = [] ∨ second = ['-']) (no_dash : Stops (· = '-') t)
    (no_style : Stops (· = '[') t) :
    leftArrow.Prefers ('<' :: '-' :: (second ++ t)) ('<' :: '-' :: second) t := by
  have style_stops : Stops (· = '[') (second ++ t) := by
    rcases written with rfl | rfl
    · exact no_style
    · exact stops_cons.mpr (by decide)
  refine (prefers_sign '<' _).bind ?_
  refine (prefers_maybe_sign (.inl rfl) (stops_cons.mpr (by decide))).bind ?_
  refine (prefers_sign '-' _).bind ?_
  refine (prefers_maybe_style style_stops).bind ?_
  exact (prefers_maybe_sign written no_dash).bind (prefers_pure _ t)

theorem prefers_rightArrow (written : second = [] ∨ second = ['-'])
    (headed : double = [] ∨ double = ['>']) (no_angle : Stops (· = '>') t) :
    rightArrow.Prefers ('-' :: (second ++ '>' :: (double ++ t)))
      ('-' :: second ++ '>' :: double) t := by
  have style_stops : Stops (· = '[') (second ++ '>' :: (double ++ t)) := by
    rcases written with rfl | rfl <;> exact stops_cons.mpr (by decide)
  refine (prefers_sign '-' _).bind ?_
  refine (prefers_maybe_style style_stops).bind ?_
  refine (prefers_maybe_sign written (stops_cons.mpr (by decide))).bind ?_
  refine (prefers_sign '>' _).bind ?_
  refine (prefers_maybe_sign headed no_angle).bind ?_
  have value : ['-'] ++ [] ++ second ++ ['>'] ++ double = '-' :: second ++ '>' :: double := by simp
  rw [value]
  exact prefers_pure _ t

/-- An arrow is read whole, in front of what is no part of an arrow. -/
theorem prefers_arrow (known : arrow ∈ messageArrows)
    (stops : Stops (fun c => c = '-' || c = '[' || c = '>') t) :
    (leftArrow <|> rightArrow).Prefers (arrow.toList ++ t) arrow.toList t := by
  have no_dash : Stops (· = '-') t := stops.mono fun c dash => by rw [dash]; rfl
  have no_style : Stops (· = '[') t := stops.mono fun c opens => by rw [opens, Bool.or_true]; rfl
  have no_angle : Stops (· = '>') t := stops.mono fun c angle => by rw [angle, Bool.or_true]
  have not_left (t : List Char) : leftArrow ('-' :: t) = [] := bind_eq_nil (bind_eq_nil rfl _) _
  rcases mem_messageArrows.mp known with rfl | rfl | rfl | rfl | rfl | rfl
  · exact (prefers_rightArrow (.inl rfl) (.inr rfl) no_angle).orElse_of_nil (not_left _)
  · exact (prefers_rightArrow (.inl rfl) (.inl rfl) no_angle).orElse_of_nil (not_left _)
  · exact (prefers_rightArrow (.inr rfl) (.inr rfl) no_angle).orElse_of_nil (not_left _)
  · exact (prefers_rightArrow (.inr rfl) (.inl rfl) no_angle).orElse_of_nil (not_left _)
  · exact (prefers_leftArrow (.inl rfl) no_dash no_style).orElse _
  · exact (prefers_leftArrow (.inr rfl) no_dash no_style).orElse _

/-! ### Messages -/

/-- The message that two names make with an arrow between them: an arrow to the left swaps them, two
dashes answer, and a double head does not wait. -/
def messageBetween (left : List Char) (arrow : String) (right rest : List Char) : Message :=
  let leftward : Bool := arrow = "<-" || arrow = "<--"
  { source := String.ofList (if leftward then right else left)
    target := String.ofList (if leftward then left else right)
    kind :=
      if arrow.toList.count '-' = 2 then .reply else if arrow = "->>" then .async else .sync
    label := (label? rest).map String.ofList }

/-- Two names with an arrow between them and blanks around it. -/
def exchange (left before : List Char) (arrow : String) (behind right : List Char) : List Char :=
  left ++ (before ++ (arrow.toList ++ (behind ++ right)))

variable {before behind : List Char}

theorem not_arrow_part {c : Char} (other : isBlank c = true ∨ isPathChar c = true) :
    (decide (c = '-') || decide (c = '[') || decide (c = '>')) = false := by
  simp only [Bool.or_eq_false_iff, decide_eq_false_iff_not]
  refine ⟨⟨?_, ?_⟩, ?_⟩ <;> rintro rfl <;> exact absurd other (by decide)

theorem not_name_part {c : Char} (blank : isBlank c = true) :
    (isNameChar c || decide (c = '.')) = false := by
  rw [isNameChar_of_isBlank blank, Bool.false_or]
  exact decide_eq_false fun dot => absurd (dot ▸ blank) (by decide)

theorem prefers_messagePattern (spoken : Spoken s left arrow right rest)
    (before_blank : ∀ c ∈ before, isBlank c = true) (behind_blank : ∀ c ∈ behind, isBlank c = true) :
    messagePattern.Prefers (exchange left before arrow behind right) (left, arrow.toList, right) [] := by
  have right_stops {ok : Char → Bool} (other : ∀ c, isPathChar c = true → ok c = false) :
      Stops ok right :=
    fun c first => other c (spoken.right_path c (List.mem_of_head? first))
  have name_ends : Stops (fun c => isNameChar c || c = '.')
      (before ++ (arrow.toList ++ (behind ++ right))) :=
    stops_append (fun c member => not_name_part (before_blank c member))
      (spoken.stops_arrow (by decide) (by decide) _)
  have arrow_ends : Stops (fun c => c = '-' || c = '[' || c = '>') (behind ++ right) :=
    stops_append (fun c member => not_arrow_part (.inl (behind_blank c member)))
      (right_stops fun c path => not_arrow_part (.inr path))
  have last : participantName.Prefers right right [] := by
    have whole := prefers_participantName spoken.right_path spoken.right_ne_nil (t := []) stops_nil
    rwa [List.append_nil] at whole
  refine (prefers_participantName spoken.left_path spoken.left_ne_nil name_ends).bind ?_
  refine (prefers_blanks before_blank (spoken.stops_arrow (by decide) (by decide) _)).bind ?_
  refine (prefers_arrow spoken.arrow_mem arrow_ends).bind ?_
  refine (prefers_blanks behind_blank (right_stops fun c => isBlank_of_isPathChar)).bind ?_
  refine last.bind ?_
  exact Prefers.bind (t := []) rfl (prefers_pure _ [])

/-! ### Labels -/

theorem cutLabel_append {body : List Char} (plain : ∀ c ∈ body, c ≠ '"' ∧ c ≠ ':')
    (rest : List Char) : cutLabel false (body ++ ':' :: rest) = some (body, rest) := by
  induction body with
  | nil => rfl
  | cons c body ih =>
      obtain ⟨⟨quote, colon⟩, others⟩ := List.forall_mem_cons.mp plain
      rw [List.cons_append, cutLabel, if_neg quote, if_neg (by simp [colon]), ih others]
      rfl

theorem plain_of_isPathChar {c : Char} (path : isPathChar c = true) : c ≠ '"' ∧ c ≠ ':' :=
  ⟨ne_of_isPathChar path (by decide), ne_of_isPathChar path (by decide)⟩

theorem plain_of_isBlank {c : Char} (blank : isBlank c = true) : c ≠ '"' ∧ c ≠ ':' := by
  constructor <;> rintro rfl <;> exact absurd blank (by decide)

theorem plain_of_mem_arrow {c : Char} (known : arrow ∈ messageArrows) (member : c ∈ arrow.toList) :
    c ≠ '"' ∧ c ≠ ':' := by
  have none :
      messageArrows.all (fun arrow => !arrow.toList.elem '"' && !arrow.toList.elem ':') = true := rfl
  have free := List.all_eq_true.mp none arrow known
  constructor <;> rintro rfl <;> simp [member] at free

/-- The first colon and the first quote stand behind the names. -/
theorem plain_of_mem_exchange (spoken : Spoken s left arrow right rest)
    (before_blank : ∀ c ∈ before, isBlank c = true) (behind_blank : ∀ c ∈ behind, isBlank c = true)
    {c : Char} (member : c ∈ exchange left before arrow behind right) : c ≠ '"' ∧ c ≠ ':' := by
  simp only [exchange, List.mem_append] at member
  rcases member with here | here | here | here | here
  · exact plain_of_isPathChar (spoken.left_path c here)
  · exact plain_of_isBlank (before_blank c here)
  · exact plain_of_mem_arrow spoken.arrow_mem here
  · exact plain_of_isBlank (behind_blank c here)
  · exact plain_of_isPathChar (spoken.right_path c here)

theorem trim_exchange (spoken : Spoken s left arrow right rest) :
    trim (exchange left before arrow behind right) = exchange left before arrow behind right := by
  apply trim_eq_self
  · exact Stops.append (fun c first =>
      isBlank_of_isPathChar (spoken.left_path c (List.mem_of_head? first))) spoken.left_ne_nil _
  · intro c final
    simp only [exchange, ← List.append_assoc] at final
    rw [List.getLast?_append_of_ne_nil _ spoken.right_ne_nil] at final
    exact isBlank_of_isPathChar (spoken.right_path c (List.mem_of_getLast? final))

theorem splitLabel_of_spoken (spoken : Spoken s left arrow right rest) :
    ∃ before behind : List Char, (∀ c ∈ before, isBlank c = true) ∧
      (∀ c ∈ behind, isBlank c = true) ∧
        splitLabel s = (exchange left before arrow behind right, label? rest) := by
  obtain ⟨before, behind, last, rfl, before_blank, behind_blank, last_blank⟩ := spoken.written
  refine ⟨before, behind, before_blank, behind_blank, ?_⟩
  have split : left ++ (before ++ (arrow.toList ++ (behind ++ (right ++ (last ++ ':' :: rest))))) =
      (exchange left before arrow behind right ++ last) ++ ':' :: rest := by
    simp only [exchange, List.append_assoc]
  have plain : ∀ c ∈ exchange left before arrow behind right ++ last, c ≠ '"' ∧ c ≠ ':' := by
    intro c member
    rcases List.mem_append.mp member with here | here
    · exact plain_of_mem_exchange spoken before_blank behind_blank here
    · exact plain_of_isBlank (last_blank c here)
  rw [splitLabel, split, cutLabel_append plain]
  dsimp only
  rw [trim_append_blanks last_blank, trim_exchange spoken]

theorem message?_of_spoken (spoken : Spoken s left arrow right rest) :
    message? s = some (messageBetween left arrow right rest) := by
  obtain ⟨before, behind, before_blank, behind_blank, split⟩ := splitLabel_of_spoken spoken
  unfold message?
  rw [split]
  dsimp only
  rw [(prefers_messagePattern spoken before_blank behind_blank).read?, Option.map_some]
  dsimp only
  rw [unquote_of_path spoken.left_path, unquote_of_path spoken.right_path]
  rcases mem_messageArrows.mp spoken.arrow_mem with rfl | rfl | rfl | rfl | rfl | rfl <;> rfl

theorem turn_of_spoken (spoken : Spoken s left arrow right rest) (undeclared : ¬ OpensDeclaration s)
    {line : Line} (chars : line.chars = s) (d : SequenceDiagram) (lines : List Line) :
    let message := messageBetween left arrow right rest
    turn d line lines =
      .took1 (((d.ensure message.source).ensure message.target).addStep (.message message)) := by
  have note : d.note? line lines = none := by
    rw [note?, chars, read?_notePattern_of_spoken spoken]
  unfold turn
  dsimp only
  rw [note, chars, read?_declarationPattern undeclared, divider?_of_spoken spoken,
    message?_of_spoken spoken]

/-- A line that is recognised as a message, and starts with no keyword of a participant, has two names
with an arrow between them. It adds the message between these two and nothing else, wherever it is
read, and both names are participants then. -/
theorem readAll_of_isMessage {line : Line} (recognised : Detection.isMessage line.chars = true)
    (undeclared : ¬ OpensDeclaration line.chars) :
    (∃ left arrow right rest, Spoken line.chars left arrow right rest) ∧
      ∀ left arrow right rest, Spoken line.chars left arrow right rest →
        ∀ (d : SequenceDiagram) (lines : List Line), ∃ next : SequenceDiagram,
          readAll turn d (line :: lines) = readAll turn next lines ∧
          next.steps = d.steps ++ [.message (messageBetween left arrow right rest)] ∧
          ∀ name, name ∈ next.participants.keys ↔ name ∈ d.participants.keys ∨
            name = String.ofList left ∨ name = String.ofList right := by
  refine ⟨Detection.spoken_of_isMessage recognised, fun left arrow right rest spoken d lines => ?_⟩
  refine ⟨_, readAll_of_took (turn_of_spoken spoken undeclared rfl d lines), rfl, fun name => ?_⟩
  change name ∈ ((d.ensure _).ensure _).participants.keys ↔ _
  rw [mem_ensure, mem_ensure, or_assoc]
  refine or_congr_right ?_
  unfold messageBetween
  dsimp only
  split
  · exact or_comm
  · exact Iff.rfl

/-- An answer that points to the left, from the participant on its right. -/
theorem readAll_of_isMessage_answer :
    Detection.isMessage "Bob <-- web.api : done".toList = true ∧
      ¬ OpensDeclaration "Bob <-- web.api : done".toList ∧
      ∃ next : SequenceDiagram, readAll turn {} [⟨1, "Bob <-- web.api : done"⟩] = (next, []) ∧
        next.steps = [.message ⟨"web.api", "Bob", .reply, some "done"⟩] ∧
        "web.api" ∈ next.participants.keys ∧ "Bob" ∈ next.participants.keys := by
  have recognised : Detection.isMessage "Bob <-- web.api : done".toList = true := by decide +kernel
  have undeclared : ¬ OpensDeclaration "Bob <-- web.api : done".toList := by
    rintro ⟨kind, rest, same, -⟩
    have first := congrArg List.head? same
    cases kind <;> exact absurd first (by simp [ParticipantKind.name])
  have spoken : Spoken "Bob <-- web.api : done".toList "Bob".toList "<--" "web.api".toList
      " done".toList :=
    { left_ne_nil := by decide
      left_path := List.all_eq_true.mp rfl
      right_ne_nil := by decide
      right_path := List.all_eq_true.mp rfl
      arrow_mem := by decide
      written := ⟨[' '], [' '], [' '], rfl, List.forall_mem_singleton.mpr rfl,
        List.forall_mem_singleton.mpr rfl, List.forall_mem_singleton.mpr rfl⟩ }
  have whole : Detection.isMessage (Line.chars ⟨1, "Bob <-- web.api : done"⟩) = true := recognised
  obtain ⟨next, read, steps, names⟩ :=
    (readAll_of_isMessage whole undeclared).2 _ _ _ _ spoken {} []
  refine ⟨recognised, undeclared, next, ?_, ?_, ?_, ?_⟩
  · rw [read, readAll]
  · rw [steps]
    decide +kernel
  · exact (names _).mpr (.inr (.inr rfl))
  · exact (names _).mpr (.inr (.inl rfl))

end SequenceDiagram

end DiagramMarkup
