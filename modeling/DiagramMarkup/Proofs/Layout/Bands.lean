import DiagramMarkup.Proofs.Drawing.Columns
import DiagramMarkup.Proofs.Layout.Frames
import DiagramMarkup.Reading.Engine

/-! # The bands of a conversation

Below the heads of the participants every step takes a band of the lifelines, from where the one before
it ends. The row of a step is the middle of its band. A note makes its band as high as it needs, so that
it stays inside of it and meets neither a head nor another note.
-/

namespace DiagramMarkup

open Scalar

/-! ## Boxes side by side -/

/-- Where two names have boxes, the first one stands to the left of the second one, at a distance. -/
def Beside (boxes : Table (Box Rat)) (distance : Rat) (a b : String) : Prop :=
  ∀ first second, boxes.get? a = some first → boxes.get? b = some second →
    first.right + distance ≤ second.left

theorem Beside.shift {boxes : Table (Box Rat)} {distance : Rat} {a b : String}
    (beside : Beside boxes distance a b) (dx dy : Rat) :
    Beside (boxes.map (Box.shift dx dy)) distance a b := by
  refine Table.related_map fun first second there here => ?_
  rw [Box.right_shift, Box.left_shift, add_right_comm]
  exact add_le_add_left (beside first second there here) dx

namespace SequenceDiagram

/-! ## Bands -/

/-- The part of the lifelines that belongs to a step. -/
structure Band where
  top : Rat
  bottom : Rat
  /-- The name of the note in it. -/
  note? : Option String

namespace Band

def middle (band : Band) : Rat :=
  (band.top + band.bottom) / 2

def shift (dy : Rat) (band : Band) : Band :=
  { band with top := band.top + dy, bottom := band.bottom + dy }

/-- If there is a note in a band, it has a box that does not reach beyond the band. -/
def Holds (boxes : Table (Box Rat)) (band : Band) : Prop :=
  ∀ name ∈ band.note?, ∃ b, boxes.get? name = some b ∧ band.top ≤ b.top ∧ b.bottom ≤ band.bottom

theorem Holds.shift {boxes : Table (Box Rat)} {band : Band} (holds : band.Holds boxes) (dx dy : Rat) :
    (band.shift dy).Holds (boxes.map (Box.shift dx dy)) := by
  intro name named
  obtain ⟨b, found, top, bottom⟩ := holds name named
  refine ⟨b.shift dx dy, by rw [Table.get?_map, found, Option.map_some], ?_, ?_⟩
  · rw [Box.top_shift]
    exact add_le_add_left top dy
  · rw [Box.bottom_shift]
    exact add_le_add_left bottom dy

end Band

section

variable (settings : Settings Rat) (measure : Measure Rat)

/-- The band of a step that begins at some height, after a number of notes. A note needs its own height
and some padding. -/
def bandOf (y : Rat) (number : Nat) : Step → Band
  | .note note =>
    let height := larger settings.stepHeight ((measure.note note.text).height + noteRowPadding)
    ⟨y, y + height, some (Note.nameAt number)⟩
  | _ => ⟨y, y + settings.stepHeight, none⟩

/-- The bands of some steps, each from where the one before it ends. -/
def bandsFrom : Rat → Nat → List Step → List Band
  | _, _, [] => []
  | y, number, step :: steps =>
    let band := bandOf settings measure y number step
    band :: bandsFrom band.bottom (number + band.note?.toList.length) steps

end

variable {settings : Settings Rat} {measure : Measure Rat} {d : SequenceDiagram} {y : Rat}
  {number : Nat} {step : Step} {steps : List Step} {band : Band}

theorem top_bandOf : (bandOf settings measure y number step).top = y := by
  cases step <;> rfl

theorem bandOf_shift (dy : Rat) : bandOf settings measure (y + dy) number step =
    (bandOf settings measure y number step).shift dy := by
  cases step with
  | message message => exact (Band.mk.injEq ..).mpr ⟨rfl, add_right_comm .., rfl⟩
  | divider label => exact (Band.mk.injEq ..).mpr ⟨rfl, add_right_comm .., rfl⟩
  | note note => exact (Band.mk.injEq ..).mpr ⟨rfl, add_right_comm .., rfl⟩

theorem bandsFrom_shift (dy : Rat) : bandsFrom settings measure (y + dy) number steps =
    (bandsFrom settings measure y number steps).map (Band.shift dy) := by
  induction steps generalizing y number with
  | nil => rfl
  | cons step steps ih =>
      simp only [bandsFrom, bandOf_shift, List.map_cons]
      exact congrArg (_ :: ·) ih

theorem length_bandsFrom : (bandsFrom settings measure y number steps).length = steps.length := by
  induction steps generalizing y number with
  | nil => rfl
  | cons step steps ih => exact congrArg Nat.succ ih

theorem filterMap_bandsFrom :
    (bandsFrom settings measure y number steps).filterMap Band.note? = noteNamesFrom number steps := by
  induction steps generalizing y number with
  | nil => rfl
  | cons step steps ih =>
      cases step with
      | message message => exact ih
      | divider label => exact ih
      | note note => exact congrArg (Note.nameAt number :: ·) ih

section

variable (high : 0 < settings.stepHeight)

include high

theorem top_lt_bottom_bandOf (measure : Measure Rat) (y : Rat) (number : Nat) (step : Step) :
    y < (bandOf settings measure y number step).bottom := by
  cases step with
  | message message => exact lt_add_of_pos_right y high
  | divider label => exact lt_add_of_pos_right y high
  | note note =>
      apply lt_add_of_pos_right y
      rw [larger_eq_max]
      exact lt_max_of_lt_left high

theorem le_top_of_mem (member : band ∈ bandsFrom settings measure y number steps) :
    y ≤ band.top ∧ band.top < band.bottom := by
  induction steps generalizing y number with
  | nil => exact absurd member List.not_mem_nil
  | cons step steps ih =>
      have positive := top_lt_bottom_bandOf high measure y number step
      rcases List.mem_cons.mp member with rfl | later
      · rw [top_bandOf]
        exact ⟨le_refl y, positive⟩
      · obtain ⟨behind, own⟩ := ih later
        exact ⟨positive.le.trans behind, own⟩

theorem pairwise_bandsFrom : (bandsFrom settings measure y number steps).Pairwise
    fun upper lower => upper.bottom ≤ lower.top := by
  induction steps generalizing y number with
  | nil => exact List.Pairwise.nil
  | cons step steps ih => exact List.pairwise_cons.mpr ⟨fun _ later => (le_top_of_mem high later).1, ih⟩

theorem pairwise_middles :
    ((bandsFrom settings measure y number steps).map Band.middle).Pairwise (· < ·) := by
  rw [List.pairwise_map]
  apply (pairwise_bandsFrom high).imp_of_mem
  intro upper lower first second separate
  have upperHigh := (le_top_of_mem high first).2
  have lowerHigh := (le_top_of_mem high second).2
  unfold Band.middle
  linarith

end

/-! ## What the steps place -/

/-- What a step places lies in its band. -/
theorem placeStep_bandOf (settings : Settings Rat) (measure : Measure Rat) (p : Progress Rat)
    (step : Step) :
    let band := bandOf settings measure p.next p.notes step
    (placeStep settings measure p step).next = band.bottom ∧
      (placeStep settings measure p step).notes = p.notes + band.note?.toList.length ∧
        (placeStep settings measure p step).rows = p.rows ++ [band.middle] := by
  have middle (height : Rat) : p.next + height / 2 = (p.next + (p.next + height)) / 2 := by ring
  cases step with
  | message message => exact ⟨rfl, rfl, congrArg (p.rows ++ [·]) (middle _)⟩
  | divider label => exact ⟨rfl, rfl, congrArg (p.rows ++ [·]) (middle _)⟩
  | note note => exact ⟨rfl, rfl, congrArg (p.rows ++ [·]) (middle _)⟩

theorem rows_foldl_placeStep (steps : List Step) (p : Progress Rat) :
    (steps.foldl (placeStep settings measure) p).rows =
      p.rows ++ (bandsFrom settings measure p.next p.notes steps).map Band.middle := by
  induction steps generalizing p with
  | nil => exact (List.append_nil _).symm
  | cons step steps ih =>
      obtain ⟨next, notes, rows⟩ := placeStep_bandOf settings measure p step
      rw [List.foldl_cons, ih, next, notes, rows, List.append_assoc]
      rfl

/-- The place for the next row is below all bands. -/
theorem bottom_le_next (high : 0 < settings.stepHeight) (steps : List Step) (p : Progress Rat) :
    p.next ≤ (steps.foldl (placeStep settings measure) p).next ∧
      ∀ band ∈ bandsFrom settings measure p.next p.notes steps,
        band.bottom ≤ (steps.foldl (placeStep settings measure) p).next := by
  induction steps generalizing p with
  | nil => exact ⟨le_refl _, fun _ member => absurd member List.not_mem_nil⟩
  | cons step steps ih =>
      obtain ⟨next, notes, _⟩ := placeStep_bandOf settings measure p step
      obtain ⟨below, others⟩ := ih (placeStep settings measure p step)
      rw [next] at below others
      rw [notes] at others
      have positive := top_lt_bottom_bandOf high measure p.next p.notes step
      exact ⟨positive.le.trans below, List.forall_mem_cons.mpr ⟨below, others⟩⟩

theorem y_noteBox (placement : Placement) (size : Size Rat) (y first last : Rat) (many : Bool) :
    (noteBox placement size y first last many).y = y ∧
      (noteBox placement size y first last many).height = size.height := by
  cases placement <;> exact ⟨rfl, rfl⟩

theorem holds_placeStep {p : Progress Rat}
    (anchored : ∀ note, step = .note note → ∃ name ∈ note.participants, name ∈ p.boxes.keys) :
    (bandOf settings measure p.next p.notes step).Holds (placeStep settings measure p step).boxes := by
  intro name named
  cases step with
  | message message => cases named
  | divider label => cases named
  | note note =>
      cases Option.mem_some_iff.mp named
      obtain ⟨name, participant, known⟩ := anchored note rfl
      let size := measure.note note.text
      let height := larger settings.stepHeight (size.height + noteRowPadding)
      obtain ⟨first, last, many, same⟩ :=
        exists_placeNote participant known p.notes size (p.next + height / 2)
      let box := noteBox note.placement size (p.next + height / 2) first last many
      have found : (placeStep settings measure p (.note note)).boxes.get? (Note.nameAt p.notes) =
          some box := (congrArg (Table.get? · _) same).trans (Table.get?_insert ..)
      have fits : size.height + noteRowPadding ≤ height :=
        (le_max_right _ _).trans_eq (larger_eq_max _ _).symm
      have padded : (0 : Rat) ≤ noteRowPadding := by decide
      obtain ⟨middle, sized⟩ := y_noteBox note.placement size (p.next + height / 2) first last many
      refine ⟨box, found, ?_, ?_⟩
      · change p.next ≤ box.y - box.height / 2
        rw [middle, sized]
        linarith
      · change box.y + box.height / 2 ≤ p.next + height
        rw [middle, sized]
        linarith

theorem not_mem_of_mem_note? {name : String}
    (named : name ∈ (bandOf settings measure y number step).note?) :
    name ∉ noteNamesFrom
      (number + (bandOf settings measure y number step).note?.toList.length) steps := by
  cases step with
  | message message => cases named
  | divider label => cases named
  | note note =>
      cases Option.mem_some_iff.mp named
      exact nameAt_not_mem (Nat.lt_succ_self number) steps

/-- Every note about someone who has a box stays in its band. -/
theorem holds_foldl_placeStep {p : Progress Rat}
    (anchored : ∀ note, .note note ∈ steps → ∃ name ∈ note.participants, name ∈ p.boxes.keys) :
    ∀ band ∈ bandsFrom settings measure p.next p.notes steps,
      band.Holds (steps.foldl (placeStep settings measure) p).boxes := by
  induction steps generalizing p with
  | nil => exact fun _ member => absurd member List.not_mem_nil
  | cons step steps ih =>
      obtain ⟨next, notes, _⟩ := placeStep_bandOf settings measure p step
      have anchored' (note : SequenceNote) (member : .note note ∈ steps) :
          ∃ name ∈ note.participants, name ∈ (placeStep settings measure p step).boxes.keys := by
        obtain ⟨name, named, known⟩ := anchored note (List.mem_cons_of_mem step member)
        exact ⟨name, named, (foldl_placeStep [step] p).2.1 known⟩
      have others := ih anchored'
      rw [next, notes] at others
      refine List.forall_mem_cons.mpr ⟨?_, others⟩
      intro name named
      -- Later notes have other names, so that the box of this one stays as it is.
      have apart : name ∉ noteNamesFrom (placeStep settings measure p step).notes steps :=
        notes ▸ not_mem_of_mem_note? named
      rw [List.foldl_cons, get?_foldl_placeStep apart]
      exact holds_placeStep (fun note same => anchored note (same ▸ List.mem_cons_self)) name named

/-! ## Heads -/

theorem top_headBox (settings : Settings Rat) (measure : Measure Rat) (d : SequenceDiagram)
    (column : Nat) (p : Participant) :
    (d.headBox settings measure column p).top = settings.margin :=
  Box.top_of_hung rfl

theorem bottom_headBox (settings : Settings Rat) (measure : Measure Rat) (d : SequenceDiagram)
    (column : Nat) (p : Participant) :
    (d.headBox settings measure column p).bottom =
      settings.margin + d.headHeight settings measure :=
  Box.bottom_of_hung rfl

theorem right_headBox_le (wide : 0 ≤ settings.horizontalGap) (measure : Measure Rat) {i j : Nat}
    {p q : Participant} (first : p ∈ d.participants.values) (second : q ∈ d.participants.values)
    (before : i < j) :
    (d.headBox settings measure i p).right + settings.horizontalGap ≤
      (d.headBox settings measure j q).left := by
  let width (p : Participant) := (p.size measure settings.headHeight).width
  let pitch := d.pitch settings measure
  have fits : largest (d.participants.values.map width) + settings.horizontalGap ≤ pitch :=
    (le_max_left _ _).trans_eq (larger_eq_max _ _).symm
  have firstFits : width p ≤ largest (d.participants.values.map width) :=
    le_largest (List.mem_map_of_mem first)
  have secondFits : width q ≤ largest (d.participants.values.map width) :=
    le_largest (List.mem_map_of_mem second)
  have positive : 0 ≤ pitch := (add_nonneg (largest_nonneg _) wide).trans fits
  -- The middles of two heads are one pitch apart at least, and half of each head fits between them.
  have columns : ((i + 1 : Nat) : Rat) * pitch ≤ (j : Rat) * pitch :=
    mul_le_mul_of_nonneg_right (Nat.cast_le.mpr before) positive
  rw [Nat.cast_succ, add_mul, one_mul] at columns
  change settings.margin + i * pitch + pitch / 2 + width p / 2 + settings.horizontalGap ≤
    settings.margin + j * pitch + pitch / 2 - width q / 2
  linarith

/-! ## The whole layout -/

/-- The bands of all steps, below the heads. -/
def bands (settings : Settings Rat) (measure : Measure Rat) (d : SequenceDiagram) (t : Timeline Rat) :
    List Band :=
  bandsFrom settings measure (t.top + t.headHeight) 0 d.steps

/-- A conversation with its participants in columns and its steps in bands below their heads. -/
structure Banded (settings : Settings Rat) (measure : Measure Rat) (d : SequenceDiagram)
    (l : Layout Rat) (t : Timeline Rat) : Prop where
  timed : l.timeline = some t
  heads : ∀ p ∈ d.participants.values, ∃ b, l.boxes.get? p.name = some b ∧
    b.top = t.top ∧ b.bottom = t.top + t.headHeight
  columns : d.participants.values.Pairwise fun p q =>
    Beside l.boxes settings.horizontalGap p.name q.name
  rows : t.rows = (d.bands settings measure t).map Band.middle
  ended : ∀ band ∈ d.bands settings measure t, band.bottom < t.lifelineEnd
  notes : ∀ band ∈ d.bands settings measure t, band.Holds l.boxes

theorem banded_layout (linked : d.IsLinked) (anchored : d.IsAnchored)
    (apart : d.participants.keys.Disjoint d.noteNames) (high : 0 < settings.stepHeight)
    (wide : 0 ≤ settings.horizontalGap) (measure : Measure Rat) :
    ∃ t, Banded settings measure d (d.layout settings measure) t := by
  let start : Progress Rat :=
    ⟨d.heads settings measure, [], settings.margin + d.headHeight settings measure, 0⟩
  have known (note : SequenceNote) (member : .note note ∈ d.steps) :
      ∃ name ∈ note.participants, name ∈ start.boxes.keys := by
    obtain ⟨name, named⟩ := List.exists_mem_of_ne_nil _ (anchored note member)
    refine ⟨name, named, ?_⟩
    rw [show start.boxes.keys = d.participants.keys from keys_heads linked.keyed]
    exact linked.known (List.mem_flatMap.mpr ⟨_, member, named⟩)
  have placed (column : Nat) (p : Participant) (here : d.participants.values[column]? = some p) :
      (d.layout settings measure).boxes.get? p.name =
        some (d.headBox settings measure column p) := by
    have other : p.name ∉ d.noteNames := fun note =>
      apart (linked.keyed.mem_keys (List.mem_of_getElem? here)) note
    rw [boxes_layout, get?_foldl_placeStep other, get?_heads linked.keyed here]
  refine ⟨_, rfl, ?heads, ?columns, ?rows, ?ended, ?notes⟩
  case heads =>
    intro p member
    obtain ⟨column, here⟩ := List.mem_iff_getElem?.mp member
    exact ⟨_, placed column p here, top_headBox .., bottom_headBox ..⟩
  case columns =>
    rw [List.pairwise_iff_getElem]
    intro i j inside insideOther before first second found foundOther
    rw [placed i _ (List.getElem?_eq_getElem inside)] at found
    rw [placed j _ (List.getElem?_eq_getElem insideOther)] at foundOther
    cases found
    cases foundOther
    exact right_headBox_le wide measure (List.getElem_mem _) (List.getElem_mem _) before
  case rows => exact rows_foldl_placeStep d.steps start
  case ended =>
    intro band member
    have below := (bottom_le_next high d.steps start).2 band member
    have behind : 0 < settings.stepHeight / 2 := by linarith
    exact below.trans_lt (lt_add_of_pos_right _ behind)
  case notes => exact holds_foldl_placeStep known

theorem Banded.shift {l : Layout Rat} {t : Timeline Rat} (banded : Banded settings measure d l t)
    (dx dy : Rat) (bounds : Bounds Rat) :
    Banded settings measure d { l.shift dx dy with bounds } (t.shift dx dy) := by
  have moved : d.bands settings measure (t.shift dx dy) =
      (d.bands settings measure t).map (Band.shift dy) := by
    rw [bands, bands, ← bandsFrom_shift]
    exact congrArg (bandsFrom settings measure · 0 d.steps) (add_right_comm ..)
  constructor
  case timed => exact congrArg (Option.map _) banded.timed
  case heads =>
    intro p member
    obtain ⟨b, found, top, bottom⟩ := banded.heads p member
    refine ⟨b.shift dx dy, ?_, ?_, ?_⟩
    · exact (Table.get?_map _ _).trans (congrArg (Option.map _) found)
    · rw [Box.top_shift, top]
      rfl
    · rw [Box.bottom_shift, bottom]
      exact add_right_comm ..
  case columns => exact banded.columns.imp fun beside => beside.shift dx dy
  case rows =>
    change t.rows.map (fun row => row + dy) = _
    rw [moved, banded.rows, List.map_map, List.map_map]
    apply List.map_congr_left
    intro band _
    change (band.top + band.bottom) / 2 + dy = (band.top + dy + (band.bottom + dy)) / 2
    ring
  case ended =>
    rw [moved, List.forall_mem_map]
    exact fun band member => add_lt_add_left (banded.ended band member) dy
  case notes =>
    rw [moved, List.forall_mem_map]
    exact fun band member => (banded.notes band member).shift dx dy

namespace Banded

variable {l : Layout Rat} {t : Timeline Rat}

theorem length_rows (banded : Banded settings measure d l t) : t.rows.length = d.steps.length := by
  rw [banded.rows, List.length_map, bands, length_bandsFrom]

theorem between (banded : Banded settings measure d l t) (high : 0 < settings.stepHeight) :
    ∀ row ∈ t.rows, t.top + t.headHeight < row ∧ row < t.lifelineEnd := by
  rw [banded.rows, List.forall_mem_map]
  intro band member
  obtain ⟨below, positive⟩ := le_top_of_mem high member
  have above := banded.ended band member
  unfold Band.middle
  constructor <;> linarith

theorem names_notes (settings : Settings Rat) (measure : Measure Rat) (d : SequenceDiagram)
    (t : Timeline Rat) : (d.bands settings measure t).filterMap Band.note? = d.noteNames :=
  filterMap_bandsFrom

theorem pairwise_notes (banded : Banded settings measure d l t) (high : 0 < settings.stepHeight) :
    d.noteNames.Pairwise (Above l.boxes 0) := by
  rw [← names_notes settings measure d t, List.pairwise_filterMap]
  apply (pairwise_bandsFrom high).imp_of_mem
  intro upper lower first second separate a inUpper b inLower x y found foundOther
  obtain ⟨_, same, _, bottom⟩ := banded.notes upper first a inUpper
  obtain ⟨_, sameOther, top, _⟩ := banded.notes lower second b inLower
  cases found.symm.trans same
  cases foundOther.symm.trans sameOther
  linarith

theorem above_notes (banded : Banded settings measure d l t) (high : 0 < settings.stepHeight)
    {p : Participant} (member : p ∈ d.participants.values) {name : String} (note : name ∈ d.noteNames) :
    Above l.boxes 0 p.name name := by
  rw [← names_notes settings measure d t] at note
  obtain ⟨band, inside, named⟩ := List.mem_filterMap.mp note
  obtain ⟨_, same, _, bottom⟩ := banded.heads p member
  obtain ⟨_, sameOther, top, _⟩ := banded.notes band inside name named
  have below := (le_top_of_mem high inside).1
  intro x y found foundOther
  cases found.symm.trans same
  cases foundOther.symm.trans sameOther
  linarith

theorem apart (banded : Banded settings measure d l t) (high : 0 < settings.stepHeight)
    (wide : 0 ≤ settings.horizontalGap) (keyed : d.participants.Keyed Participant.name)
    (keys : l.boxes.keys = d.participants.keys ++ d.noteNames) :
    l.boxes.values.Pairwise fun a b => a.bounds.Apart b.bounds := by
  have ofAbove {a b : String} (above : Above l.boxes 0 a b) (x y : Box Rat)
      (found : l.boxes.get? a = some x) (foundOther : l.boxes.get? b = some y) :
      x.bounds.Apart y.bounds := by
    have distance := above x y found foundOther
    rw [add_zero] at distance
    exact Bounds.apart_of_bottom_le_top distance
  apply Table.pairwise_values
  rw [keys, keyed.keys_eq, List.pairwise_append, List.pairwise_map, List.forall_mem_map]
  refine ⟨?_, ?_, ?_⟩
  · apply banded.columns.imp
    intro p q beside x y found foundOther
    have distance := beside x y found foundOther
    exact Bounds.apart_of_right_le_left ((le_add_of_nonneg_right wide).trans distance)
  · exact (banded.pairwise_notes high).imp ofAbove
  · exact fun p member name note => ofAbove (banded.above_notes high member note)

end Banded

/-- As long as no participant has the name of a note, a conversation that is read has one row for every
step. The rows lead strictly downwards, from below the heads of the participants to the end of the
lifelines. The heads stand in columns, in the order of the participants, every note stays in the band of
its own step, and no two boxes have a common inside. -/
theorem banded_standard (lines : List Line) (measure : Measure Rat) {settings : Settings Rat}
    (high : 0 < settings.stepHeight) (wide : 0 ≤ settings.horizontalGap) :
    ∃ d diagnostics, Reader.standard .sequence lines = .ok (.sequence d, diagnostics) ∧
      (d.participants.keys.Disjoint d.noteNames →
        let l := (Content.sequence d).layout settings measure
        ∃ t, Banded settings measure d l t ∧ t.rows.length = d.steps.length ∧
          t.rows.Pairwise (· < ·) ∧
          (∀ row ∈ t.rows, t.top + t.headHeight < row ∧ row < t.lifelineEnd) ∧
          (d.bands settings measure t).Pairwise (fun upper lower => upper.bottom ≤ lower.top) ∧
          l.boxes.values.Pairwise fun a b => a.bounds.Apart b.bounds) := by
  have linked := linked_ofLines lines
  have anchored := anchored_ofLines lines
  refine ⟨_, _, rfl, fun apart => ?_⟩
  obtain ⟨t, banded⟩ := banded_layout linked anchored apart high wide measure
  obtain ⟨dx, dy, bounds, moved⟩ := ((ofLines lines).1.layout settings measure).exists_finish
    settings.margin
  have finished := banded.shift dx dy bounds
  rw [← moved] at finished
  have keys := (columns_layout linked anchored settings measure).keys
  have new : ∀ name ∈ (ofLines lines).1.noteNames,
      decide (name ∉ (ofLines lines).1.participants.keys) = true :=
    fun name note => decide_eq_true fun participant => apart participant note
  rw [List.filter_eq_self.mpr new] at keys
  have downwards := finished.rows ▸ pairwise_middles high
  exact ⟨_, finished, finished.length_rows, downwards, finished.between high,
    pairwise_bandsFrom high, finished.apart high wide linked.keyed keys⟩

/-- A divider, a message to someone who is not declared, and a note over two lifelines. -/
theorem banded_standard_greeting :
    let settings : Settings Rat := { Settings.standard with horizontalGap := 0, lifelineDistance := 0 }
    let measure : Measure Rat := fun text => ⟨8 * text.length, 80⟩
    let lines : List Line :=
      [⟨1, "participant Bob"⟩, ⟨2, "== start =="⟩, ⟨3, "Ann -> Bob : hello"⟩,
        ⟨4, "note over Ann, Bob : they meet"⟩, ⟨5, "note left of Bob : who"⟩]
    0 < settings.stepHeight ∧ 0 ≤ settings.horizontalGap ∧
      ∃ d diagnostics, Reader.standard .sequence lines = .ok (.sequence d, diagnostics) ∧
        d.participants.keys = ["Bob", "Ann"] ∧ d.noteNames = ["note-0", "note-1"] ∧
        let l := (Content.sequence d).layout settings measure
        ∃ t, Banded settings measure d l t ∧ t.rows.length = 4 ∧
          t.rows.Pairwise (· < ·) ∧
          (∀ row ∈ t.rows, t.top + t.headHeight < row ∧ row < t.lifelineEnd) ∧
          (d.bands settings measure t).Pairwise (fun upper lower => upper.bottom ≤ lower.top) ∧
          l.boxes.values.Pairwise fun a b => a.bounds.Apart b.bounds := by
  intro settings measure lines
  have high : 0 < settings.stepHeight := by decide
  have wide : 0 ≤ settings.horizontalGap := by decide
  obtain ⟨d, diagnostics, read, banded⟩ := banded_standard lines measure high wide
  cases read
  have participants : (ofLines lines).1.participants.keys = ["Bob", "Ann"] := by decide +kernel
  have notes : (ofLines lines).1.noteNames = ["note-0", "note-1"] := by decide +kernel
  have steps : (ofLines lines).1.steps.length = 4 := by decide +kernel
  have apart : (ofLines lines).1.participants.keys.Disjoint (ofLines lines).1.noteNames := by
    rw [participants, notes]
    exact List.disjoint_left.mpr (by decide)
  obtain ⟨t, inBands, count, others⟩ := banded apart
  exact ⟨high, wide, _, _, rfl, participants, notes, t, inBands, count.trans steps, others⟩

end SequenceDiagram

end DiagramMarkup
