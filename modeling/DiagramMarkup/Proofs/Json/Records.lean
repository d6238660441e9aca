import Mathlib.Data.List.Nodup
import DiagramMarkup.Json.Record
import DiagramMarkup.Proofs.Json.Texts
import DiagramMarkup.Proofs.Tables

/-! # Reading records back

What a field holds is found under its key wherever it stands, and a field that was left out is not
found, so that its absence is what is read.
-/

namespace DiagramMarkup.Json

variable {α : Type} {read : Json → Option α} {write : α → Json} {fields : List (String × Json)}
  {place size : Nat} {key other : String}

/-! ## Fields of objects -/

@[simp] theorem isRecord_object : (object fields).isRecord size = true := rfl

@[simp] theorem required_object :
    (object fields).required place key read = (fields.lookup key).bind read := rfl

/-- What is read for a field that may be missing or null. -/
def absentOr (read : Json → Option α) : Option Json → Option (Option α)
  | none => some none
  | some null => some none
  | some value => (read value).map some

@[simp] theorem optionalAt_object :
    (object fields).optionalAt place key read = absentOr read (fields.lookup key) := by
  unfold optionalAt absentOr field?
  rfl

@[simp] theorem absentOr_map_string (text : Option String) :
    absentOr string? (text.map string) = some text := by
  cases text <;> rfl

@[simp] theorem withDefault_object {default : α} : (object fields).withDefault place key read default =
    (fields.lookup key).elim (some default) read := by
  rw [withDefault, field?]
  cases fields.lookup key <;> rfl

@[simp] theorem lookup_optionalField_append (value : Option α) :
    (optionalField key write value ++ fields).lookup other =
      if other = key then (value.map write).or (fields.lookup other) else fields.lookup other := by
  cases value with
  | none => simp [optionalField]
  | some a =>
      by_cases same : other = key
      · simp [optionalField, same]
      · simp [optionalField, same, List.lookup_cons, beq_false_of_ne same]

@[simp] theorem lookup_optionalField (value : Option α) :
    (optionalField key write value).lookup other = if other = key then value.map write else none := by
  rw [← List.append_nil (optionalField key write value), lookup_optionalField_append]
  simp

/-- The fields behind the tag do not have its key, so that they are all left. -/
theorem tagged?_cons {tag : Json} (fresh : ∀ field ∈ fields, field.1 ≠ key) :
    tagged? key (object ((key, tag) :: fields)) = some (tag, object fields) := by
  have others : fields.filter (fun field => field.1 ≠ key) = fields :=
    List.filter_eq_self.mpr (by simpa using fresh)
  rw [tagged?]
  simp only [List.lookup_cons_self, Option.map_some, List.filter_cons, ne_eq, not_true,
    decide_false, Bool.false_eq_true, if_false]
  rw [others]

theorem forall_mem_optionalField {value : Option α} {p : String × Json → Prop}
    (each : ∀ a, p (key, write a)) : ∀ field ∈ optionalField key write value, p field := by
  cases value <;> simp [optionalField, each]

/-! ## Named alternatives, lists and tables -/

theorem alternative?_name {all : List α} {name : α → String} {a : α} (member : a ∈ all)
    (distinct : (all.map name).Nodup) : alternative? all name (string (name a)) = some a := by
  cases found : all.find? fun b => name b = name a with
  | none =>
      have unequal := List.find?_eq_none.mp found a member
      simp at unequal
  | some b =>
      have same : name b = name a := by simpa using List.find?_some found
      have unique := List.inj_on_of_nodup_map distinct (List.mem_of_find?_eq_some found) member same
      simp [alternative?, found, unique]

@[simp] theorem string?_string (s : String) : string? (string s) = some s := rfl

@[simp] theorem bool?_bool (b : Bool) : bool? (bool b) = some b := rfl

@[simp] theorem natural?_ofNat (n : Nat) : natural? (ofNat n) = some n := rfl

theorem mapM_map_eq_some {β : Type} {f : β → Option α} {g : α → β} (values : List α)
    (undone : ∀ a, f (g a) = some a) : (values.map g).mapM f = some values := by
  induction values with
  | nil => rfl
  | cons a values ih => simp [List.mapM_cons, undone, ih]

theorem list?_map {values : List α} (reads : ∀ a, read (write a) = some a) :
    list? read (array (values.map write)) = some values :=
  mapM_map_eq_some values reads

theorem table?_ofTable {t : Table α} (reads : ∀ a, read (write a) = some a) :
    table? read (ofTable write t) = some t := by
  have entries := mapM_map_eq_some (f := fun field => (read field.2).map fun a => (field.1, a))
    (g := fun entry => (entry.1, write entry.2)) t.entries (by simp [reads])
  simp [table?, ofTable, entries, Table.ofList_entries]

/-! ## What a text holds exactly -/

section Plain

variable {depth : Nat}

def PlainFields (depth : Nat) (fields : List (String × Json)) : Prop :=
  ∀ field ∈ fields, Plain depth field.2

@[simp] theorem plain_object : Plain (depth + 1) (object fields) ↔ PlainFields depth fields := by
  constructor
  · intro plain
    cases plain with
    | scalar scalar => cases scalar
    | object each => exact each
  · exact .object

@[simp] theorem plainFields_nil : PlainFields depth [] := by
  simp [PlainFields]

@[simp] theorem plainFields_cons {j : Json} :
    PlainFields depth ((key, j) :: fields) ↔ Plain depth j ∧ PlainFields depth fields :=
  List.forall_mem_cons

@[simp] theorem plainFields_append {others : List (String × Json)} :
    PlainFields depth (fields ++ others) ↔ PlainFields depth fields ∧ PlainFields depth others :=
  List.forall_mem_append

@[simp] theorem plain_string (s : String) : Plain depth (string s) :=
  .scalar trivial

@[simp] theorem plain_bool (b : Bool) : Plain depth (bool b) :=
  .scalar trivial

@[simp] theorem plain_ofNat {n : Nat} : Plain depth (ofNat n) ↔ n ≤ significandLimit := by
  constructor
  · rintro ⟨_, high⟩
    exact Int.ofNat_le.mp high
  · intro small
    exact .scalar ⟨by simp, Int.ofNat_le.mpr small⟩

@[simp] theorem plainFields_optionalField (text : Option String) :
    PlainFields depth (optionalField key string text) :=
  forall_mem_optionalField plain_string

@[simp] theorem plain_array_map {values : List α} :
    Plain (depth + 1) (array (values.map write)) ↔ ∀ a ∈ values, Plain depth (write a) := by
  constructor
  · intro plain
    cases plain with
    | scalar scalar => cases scalar
    | array each => simpa using each
  · intro each
    exact .array (by simpa using each)

@[simp] theorem plain_ofTable {t : Table α} :
    Plain (depth + 1) (ofTable write t) ↔ ∀ a ∈ t.values, Plain depth (write a) := by
  rw [ofTable, plain_object, PlainFields, Table.values, List.forall_mem_map, List.forall_mem_map]

end Plain

end DiagramMarkup.Json
