import DiagramMarkup.Markup.Tree

/-! # Searching trees

The elements of a tree that satisfy a test, wherever they stand, in the order of the document.
-/

namespace DiagramMarkup.Markup

variable {α : Type}

/-- Whether an attribute has a name and a text. -/
def Attribute.hasText (name value : String) (a : Attribute α) : Bool :=
  decide (a.name = name) &&
    match a.value with
    | [.text s] => decide (s = value)
    | _ => false

/-- Whether a tree is an element of a tag. -/
def isTagged (tag : String) : Markup α → Bool
  | element other _ _ => decide (other = tag)
  | text _ => false

/-- Whether a tree is an element of a tag, among whose attributes one has a name and a text. -/
def isMarked (tag name value : String) : Markup α → Bool
  | element other attributes _ =>
    decide (other = tag) && attributes.any (Attribute.hasText name value)
  | text _ => false

mutual

/-- A tree itself, if it satisfies a test, and behind it what is found inside. -/
def search (test : Markup α → Bool) : Markup α → List (Markup α)
  | text s => if test (.text s) then [.text s] else []
  | element name attributes children =>
    let inside := searchAll test children
    if test (.element name attributes children) then .element name attributes children :: inside
    else inside

def searchAll (test : Markup α → Bool) : List (Markup α) → List (Markup α)
  | [] => []
  | tree :: trees => search test tree ++ searchAll test trees

end

variable {test : Markup α → Bool} {name : String} {attributes : List (Attribute α)}
  {children trees others : List (Markup α)} {tree : Markup α}

theorem search_element_of_not (plain : test (.element name attributes children) = false) :
    (element name attributes children).search test = searchAll test children := by
  rw [search, plain]
  rfl

theorem search_element_of (marked : test (.element name attributes children) = true)
    (inside : searchAll test children = []) :
    (element name attributes children).search test = [.element name attributes children] := by
  rw [search, marked, inside]
  rfl

theorem searchAll_append :
    searchAll test (trees ++ others) = searchAll test trees ++ searchAll test others := by
  induction trees with
  | nil => rfl
  | cons tree trees ih => rw [List.cons_append, searchAll, ih, searchAll, List.append_assoc]

theorem searchAll_eq_nil (none : ∀ tree ∈ trees, tree.search test = []) :
    searchAll test trees = [] := by
  induction trees with
  | nil => rfl
  | cons tree trees ih =>
      rw [searchAll, none tree List.mem_cons_self, List.nil_append]
      exact ih fun other member => none other (List.mem_cons_of_mem tree member)

/-- Trees that are found, and in which nothing else is. -/
theorem searchAll_eq_self (found : ∀ tree ∈ trees, tree.search test = [tree]) :
    searchAll test trees = trees := by
  induction trees with
  | nil => rfl
  | cons tree trees ih =>
      rw [searchAll, found tree List.mem_cons_self,
        ih fun other member => found other (List.mem_cons_of_mem tree member)]
      rfl

mutual

/-- What satisfies a narrower test is found among what satisfies a wider one. -/
theorem filter_search {wide narrow : Markup α → Bool} (within : ∀ tree, narrow tree → wide tree)
    (tree : Markup α) : (tree.search wide).filter narrow = tree.search narrow := by
  cases tree with
  | text s =>
      cases found : narrow (.text s) with
      | true =>
          simp only [search, found, within _ found, if_true, List.filter_cons, List.filter_nil]
      | false =>
          simp only [search, found]
          split <;> simp only [List.filter_cons, List.filter_nil, found, Bool.false_eq_true, if_false]
  | element name attributes children =>
      have inside := filter_searchAll within children
      cases found : narrow (.element name attributes children) with
      | true => simp only [search, found, within _ found, if_true, List.filter_cons, inside]
      | false =>
          simp only [search, found, Bool.false_eq_true, if_false]
          split
          · simp only [List.filter_cons, found, Bool.false_eq_true, if_false, inside]
          · exact inside

theorem filter_searchAll {wide narrow : Markup α → Bool} (within : ∀ tree, narrow tree → wide tree)
    (trees : List (Markup α)) : (searchAll wide trees).filter narrow = searchAll narrow trees := by
  cases trees with
  | nil => rfl
  | cons tree trees =>
      rw [searchAll, List.filter_append, filter_search within tree, filter_searchAll within trees,
        searchAll]

end

end DiagramMarkup.Markup
