/-! # Ordered tables

A table keeps its entries in the order in which their keys were first entered, and every key once.
-/

namespace DiagramMarkup

/-- Entries under distinct keys, in the order of their first insertion. -/
structure Table (α : Type) where
  entries : List (String × α) := []
  distinct : (entries.map Prod.fst).Nodup := by exact List.nodup_nil
deriving Repr, DecidableEq

namespace Table

variable {α β : Type}

def empty : Table α := {}

instance : Inhabited (Table α) := ⟨empty⟩

/-- The keys in the order in which they were added. -/
def keys (t : Table α) : List String :=
  t.entries.map Prod.fst

/-- The values in the order in which their keys were added. -/
def values (t : Table α) : List α :=
  t.entries.map Prod.snd

def size (t : Table α) : Nat :=
  t.entries.length

def isEmpty (t : Table α) : Bool :=
  t.entries.isEmpty

def contains (t : Table α) (key : String) : Bool :=
  key ∈ t.keys

/-- The value under a key. -/
def get? (t : Table α) (key : String) : Option α :=
  t.entries.lookup key

theorem nodup_append_new {keys : List String} {key : String} (h : keys.Nodup) (hk : key ∉ keys) :
    (keys ++ [key]).Nodup := by
  rw [List.nodup_append]
  refine ⟨h, by simp, ?_⟩
  intro a ha b hb hab
  simp only [List.mem_singleton] at hb
  exact hk (hb ▸ hab ▸ ha)

/-- Enters a value under a key that is not present yet; a present key keeps its value. -/
def insertNew (t : Table α) (key : String) (value : α) : Table α :=
  if h : key ∈ t.keys then t
  else
    { entries := t.entries ++ [(key, value)]
      distinct := by
        simpa only [List.map_append, List.map_cons, List.map_nil] using
          nodup_append_new t.distinct h }

/-- Changes the value under a key, if it is present. -/
def modify (t : Table α) (key : String) (f : α → α) : Table α where
  entries := t.entries.map fun e => if e.1 = key then (e.1, f e.2) else e
  distinct := by
    have same : (t.entries.map fun e => if e.1 = key then (e.1, f e.2) else e).map Prod.fst =
        t.entries.map Prod.fst := by
      rw [List.map_map]
      apply List.map_congr_left
      intro e _
      simp only [Function.comp_apply]
      split <;> rfl
    rw [same]
    exact t.distinct

/-- Enters a value under a key; the value of a present key is replaced where it stands. -/
def insert (t : Table α) (key : String) (value : α) : Table α :=
  (t.insertNew key value).modify key fun _ => value

/-- The table of a list of entries, of which the last one under a key gives the value and the first
one the place. -/
def ofList (entries : List (String × α)) : Table α :=
  entries.foldl (fun t e => t.insert e.1 e.2) empty

/-- The table with every value changed. -/
def map (f : α → β) (t : Table α) : Table β where
  entries := t.entries.map fun e => (e.1, f e.2)
  distinct := by
    have same : (t.entries.map fun e => (e.1, f e.2)).map Prod.fst = t.entries.map Prod.fst := by
      rw [List.map_map]
      rfl
    rw [same]
    exact t.distinct

end Table

end DiagramMarkup
