import DiagramMarkup.Diagram.Table

/-! # Lists that grow at their end, and the keys of a table

A new item stands behind the old ones. Where items are named for their numbers, their names differ as
the numbers do.

Keys are only ever added. A table whose entries stand under the names of their values keeps that as
long as a change of a value leaves its name alone.
-/

namespace DiagramMarkup

theorem numbered_injective (stem : String) {i j : Nat} (h : stem ++ toString i = stem ++ toString j) :
    i = j := by
  have digits : Nat.toDigits 10 i = Nat.toDigits 10 j := by
    rw [← Nat.toList_repr, ← Nat.toList_repr]
    exact congrArg String.toList ((String.append_right_inj stem).mp h)
  rw [← Nat.ofDigitChars_ten_toDigits (n := i), digits, Nat.ofDigitChars_ten_toDigits]

/-- What stands in a list with a new last item is an old item at its old place, or the new one behind
them. -/
theorem getElem?_append_singleton_iff {α : Type} {items : List α} {new item : α} {place : Nat} :
    (items ++ [new])[place]? = some item ↔
      place < items.length ∧ items[place]? = some item ∨ place = items.length ∧ item = new := by
  rcases Nat.lt_trichotomy place items.length with before | here | behind
  · simp only [List.getElem?_append_left before, before, true_and, Nat.ne_of_lt before, false_and,
      or_false]
  · simp only [here, List.getElem?_concat_length, Nat.lt_irrefl, false_and, false_or, true_and,
      Option.some.injEq, eq_comm]
  · have outside : (items ++ [new])[place]? = none := by
      apply List.getElem?_eq_none
      simp only [List.length_append, List.length_singleton]
      omega
    simp only [outside, reduceCtorEq, Nat.not_lt_of_gt behind, Nat.ne_of_gt behind, false_and,
      or_self]

namespace Table

variable {α β : Type} {t : Table α} {key other : String} {value : α}

theorem nodup_keys (t : Table α) : t.keys.Nodup :=
  t.distinct

theorem length_keys (t : Table α) : t.keys.length = t.size :=
  List.length_map _

@[simp] theorem keys_empty : (empty : Table α).keys = [] := rfl

theorem keys_insertNew (t : Table α) (key : String) (value : α) :
    (t.insertNew key value).keys = if key ∈ t.keys then t.keys else t.keys ++ [key] := by
  unfold insertNew
  split
  · rfl
  · exact List.map_append

/-- To enter a key that is known changes nothing. -/
theorem mem_or_eq_of_mem (known : key ∈ t.keys) : other ∈ t.keys ↔ other ∈ t.keys ∨ other = key := by
  constructor
  · exact .inl
  · rintro (member | rfl)
    · exact member
    · exact known

@[simp] theorem mem_keys_insertNew :
    other ∈ (t.insertNew key value).keys ↔ other ∈ t.keys ∨ other = key := by
  rw [keys_insertNew]
  split
  · exact mem_or_eq_of_mem ‹_›
  · rw [List.mem_append, List.mem_singleton]

theorem values_insertNew (fresh : key ∉ t.keys) :
    (t.insertNew key value).values = t.values ++ [value] := by
  unfold insertNew
  rw [dif_neg fresh]
  exact List.map_append

theorem values_modify_insertNew (fresh : key ∉ t.keys) (f : α → α) :
    ((t.insertNew key value).modify key f).values = t.values ++ [f value] := by
  have others (entry : String × α) (here : entry ∈ t.entries) :
      (if entry.1 = key then (entry.1, f entry.2) else entry) = entry := by
    rw [if_neg]
    rintro rfl
    exact fresh (List.mem_map_of_mem here)
  unfold insertNew modify values
  rw [dif_neg fresh]
  simp only [List.map_append, List.map_congr_left others, List.map_id', List.map_cons, List.map_nil,
    if_true]

theorem values_ne_nil (known : key ∈ t.keys) : t.values ≠ [] := by
  obtain ⟨entry, member, _⟩ := List.mem_map.mp known
  exact List.ne_nil_of_mem (List.mem_map_of_mem member)

@[simp] theorem keys_modify (t : Table α) (key : String) (f : α → α) :
    (t.modify key f).keys = t.keys := by
  simp only [keys, modify, List.map_map]
  apply List.map_congr_left
  intro entry _
  simp only [Function.comp_apply]
  split <;> rfl

@[simp] theorem mem_keys_insert :
    other ∈ (t.insert key value).keys ↔ other ∈ t.keys ∨ other = key := by
  rw [insert, keys_modify, mem_keys_insertNew]

theorem mem_keys_ofList {entries : List (String × α)} :
    key ∈ (ofList entries).keys ↔ key ∈ entries.map Prod.fst := by
  have from_table (t : Table α) :
      key ∈ (entries.foldl (fun t e => t.insert e.1 e.2) t).keys ↔
        key ∈ t.keys ∨ key ∈ entries.map Prod.fst := by
    induction entries generalizing t with
    | nil => simp only [List.foldl_nil, List.map_nil, List.not_mem_nil, or_false]
    | cons entry entries ih =>
        rw [List.foldl_cons, ih, mem_keys_insert, List.map_cons, List.mem_cons, or_assoc]
  exact (from_table empty).trans (or_iff_right List.not_mem_nil)

@[simp] theorem keys_map (f : α → β) : (t.map f).keys = t.keys := by
  simp only [keys, map, List.map_map]
  rfl

theorem exists_get? (known : key ∈ t.keys) : ∃ value, t.get? key = some value := by
  obtain ⟨entry, member, rfl⟩ := List.mem_map.mp known
  apply Option.isSome_iff_exists.mp
  rw [get?, List.lookup_isSome_iff]
  exact ⟨entry, member, beq_self_eq_true _⟩

theorem mem_keys_of_get? (found : t.get? key = some value) : key ∈ t.keys := by
  have present : (t.entries.lookup key).isSome := Option.isSome_iff_exists.mpr ⟨value, found⟩
  obtain ⟨entry, member, same⟩ := List.lookup_isSome_iff.mp present
  rw [eq_of_beq same]
  exact List.mem_map_of_mem member

theorem contains_iff : t.contains key = true ↔ key ∈ t.keys :=
  decide_eq_true_iff

/-! ## Values under keys -/

theorem get?_of_mem (member : (key, value) ∈ t.entries) : t.get? key = some value := by
  obtain ⟨before, behind, split⟩ := List.append_of_mem member
  have distinct := t.distinct
  rw [split, List.map_append, List.map_cons, List.nodup_append] at distinct
  refine List.lookup_eq_some_iff.mpr ⟨before, behind, split, fun entry here => ?_⟩
  have apart := distinct.2.2 entry.1 (List.mem_map_of_mem here) key List.mem_cons_self
  exact bne_iff_ne.mpr apart.symm

/-- What holds of the values under any two keys in their order holds of any two values. -/
theorem pairwise_values {R : α → α → Prop}
    (pairwise : t.keys.Pairwise fun a b => ∀ x y, t.get? a = some x → t.get? b = some y → R x y) :
    t.values.Pairwise R := by
  rw [keys, List.pairwise_map] at pairwise
  rw [values, List.pairwise_map]
  exact pairwise.imp_of_mem fun first second related =>
    related _ _ (get?_of_mem first) (get?_of_mem second)

theorem get?_map (f : α → β) (key : String) : (t.map f).get? key = (t.get? key).map f := by
  have on_list (entries : List (String × α)) :
      (entries.map fun e => (e.1, f e.2)).lookup key = (entries.lookup key).map f := by
    induction entries with
    | nil => rfl
    | cons entry entries ih =>
        obtain ⟨first, old⟩ := entry
        simp only [List.map_cons, List.lookup_cons, ih]
        cases key == first <;> rfl
  exact on_list t.entries

/-- What is known of the values under two keys tells the same of what they are changed to. -/
theorem related_map {R : β → β → Prop} {f : α → β} {a b : String}
    (related : ∀ x y, t.get? a = some x → t.get? b = some y → R (f x) (f y)) :
    ∀ x y, (t.map f).get? a = some x → (t.map f).get? b = some y → R x y := by
  intro _ _ first second
  rw [get?_map] at first second
  obtain ⟨x, there, rfl⟩ := Option.map_eq_some_iff.mp first
  obtain ⟨y, here, rfl⟩ := Option.map_eq_some_iff.mp second
  exact related x y there here

theorem get?_modify (t : Table α) (key : String) (f : α → α) :
    (t.modify key f).get? key = (t.get? key).map f := by
  have on_list (entries : List (String × α)) :
      (entries.map fun e => if e.1 = key then (e.1, f e.2) else e).lookup key =
        (entries.lookup key).map f := by
    induction entries with
    | nil => rfl
    | cons entry entries ih =>
        obtain ⟨first, old⟩ := entry
        by_cases changed : first = key
        · subst changed
          simp only [List.map_cons, if_true, List.lookup_cons, beq_self_eq_true, Option.map_some]
        · simp only [List.map_cons, if_neg changed, List.lookup_cons, ih,
            beq_false_of_ne (Ne.symm changed)]
  exact on_list t.entries

theorem get?_modify_of_ne (apart : other ≠ key) (f : α → α) :
    (t.modify key f).get? other = t.get? other := by
  have on_list (entries : List (String × α)) :
      (entries.map fun e => if e.1 = key then (e.1, f e.2) else e).lookup other =
        entries.lookup other := by
    induction entries with
    | nil => rfl
    | cons entry entries ih =>
        obtain ⟨first, old⟩ := entry
        by_cases changed : first = key
        · subst changed
          rw [List.map_cons, if_pos rfl, List.lookup_cons, List.lookup_cons, ih]
          simp only [beq_false_of_ne apart]
        · simp only [List.map_cons, if_neg changed, List.lookup_cons, ih]
  exact on_list t.entries

theorem get?_insertNew (t : Table α) (key : String) (value : α) :
    (t.insertNew key value).get? key = some ((t.get? key).getD value) := by
  by_cases known : key ∈ t.keys
  · obtain ⟨old, found⟩ := exists_get? known
    rw [insertNew, dif_pos known, found, Option.getD_some]
  · have absent : t.get? key = none := by
      rw [Option.eq_none_iff_forall_ne_some]
      exact fun old found => known (mem_keys_of_get? found)
    have behind : (t.insertNew key value).get? key =
        (t.get? key).or ([(key, value)].lookup key) := by
      rw [insertNew, dif_neg known, get?, List.lookup_append, get?]
    rw [behind, absent, Option.none_or, List.lookup_cons, beq_self_eq_true, Option.getD_none]

theorem get?_insertNew_of_ne (apart : other ≠ key) :
    (t.insertNew key value).get? other = t.get? other := by
  unfold insertNew
  split
  · rfl
  · simp only [get?, List.lookup_append, List.lookup_cons, beq_false_of_ne apart, List.lookup_nil,
      Option.or_none]

theorem get?_insert_of_ne (apart : other ≠ key) : (t.insert key value).get? other = t.get? other := by
  rw [insert, get?_modify_of_ne apart, get?_insertNew_of_ne apart]

theorem get?_insert (t : Table α) (key : String) (value : α) :
    (t.insert key value).get? key = some value := by
  rw [insert, get?_modify, get?_insertNew, Option.map_some]

theorem keys_insert (t : Table α) (key : String) (value : α) :
    (t.insert key value).keys = if key ∈ t.keys then t.keys else t.keys ++ [key] := by
  rw [insert, keys_modify, keys_insertNew]

theorem entries_insert (fresh : key ∉ t.keys) :
    (t.insert key value).entries = t.entries ++ [(key, value)] := by
  have others (entry : String × α) (here : entry ∈ t.entries) :
      (if entry.1 = key then (entry.1, value) else entry) = entry := by
    rw [if_neg]
    rintro rfl
    exact fresh (List.mem_map_of_mem here)
  unfold insert insertNew modify
  rw [dif_neg fresh]
  simp only [List.map_append, List.map_congr_left others, List.map_id', List.map_cons, List.map_nil,
    if_true]

theorem entries_foldl_insert {entries : List (String × α)} {t : Table α}
    (distinct : (t.keys ++ entries.map Prod.fst).Nodup) :
    (entries.foldl (fun t e => t.insert e.1 e.2) t).entries = t.entries ++ entries := by
  induction entries generalizing t with
  | nil => exact (List.append_nil _).symm
  | cons entry entries ih =>
      rw [List.map_cons, List.append_cons] at distinct
      have fresh : entry.1 ∉ t.keys := by
        intro known
        have apart := (List.nodup_append.mp (List.nodup_append.mp distinct).1).2.2
        exact apart entry.1 known entry.1 (List.mem_singleton_self _) rfl
      have keys : (t.insert entry.1 entry.2).keys = t.keys ++ [entry.1] := by
        rw [keys_insert, if_neg fresh]
      rw [← keys] at distinct
      rw [List.foldl_cons, ih distinct, entries_insert fresh, List.append_assoc]
      rfl

theorem entries_ofList {entries : List (String × α)} (distinct : (entries.map Prod.fst).Nodup) :
    (ofList entries).entries = entries :=
  entries_foldl_insert distinct

theorem ext_entries {t u : Table α} (same : t.entries = u.entries) : t = u := by
  cases t
  cases u
  cases same
  rfl

theorem ofList_entries (t : Table α) : ofList t.entries = t :=
  ext_entries (entries_ofList t.distinct)

/-! ## Entries under the names of their values -/

/-- Every entry stands under the name of its value. -/
def Keyed (name : α → String) (t : Table α) : Prop :=
  ∀ entry ∈ t.entries, entry.1 = name entry.2

variable {name : α → String}

theorem keyed_empty : (empty : Table α).Keyed name :=
  fun _ member => absurd member List.not_mem_nil

theorem Keyed.insertNew (keyed : t.Keyed name) (same : name value = key) :
    (t.insertNew key value).Keyed name := by
  unfold Table.insertNew
  split
  · exact keyed
  · intro entry member
    rcases List.mem_append.mp member with member | member
    · exact keyed entry member
    · cases List.mem_singleton.mp member
      exact same.symm

theorem Keyed.modify {f : α → α} (keyed : t.Keyed name) (same : ∀ value, name (f value) = name value) :
    (t.modify key f).Keyed name := by
  intro entry member
  obtain ⟨old, here, rfl⟩ := List.mem_map.mp member
  have old_name := keyed old here
  split
  · exact old_name.trans (same old.2).symm
  · exact old_name

theorem Keyed.keys_eq (keyed : t.Keyed name) : t.keys = t.values.map name := by
  rw [keys, values, List.map_map]
  exact List.map_congr_left keyed

theorem Keyed.mem_keys (keyed : t.Keyed name) (member : value ∈ t.values) : name value ∈ t.keys := by
  rw [keyed.keys_eq]
  exact List.mem_map_of_mem member

end Table

end DiagramMarkup
