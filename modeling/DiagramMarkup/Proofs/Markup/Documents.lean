import DiagramMarkup.Proofs.Markup.Reading
import DiagramMarkup.Proofs.Text.Cutting

/-! # What is read from printed trees

Whether a tree is printed on one line or over several ones, its tags nest, and the values of its
attributes and its texts are read as they were put in.
-/

namespace DiagramMarkup.Markup

variable {α : Type} {write : α → String}

/-! ## Items of trees -/

mutual

/-- The items of a tree: its texts and the values of its attributes as they are. -/
def items (write : α → String) : Markup α → List Item
  | text s => s.toList.map .char
  | element name attributes [] => [.empty name (attributes.map (Attribute.read write))]
  | element name attributes children =>
    .start name (attributes.map (Attribute.read write)) :: (allItems write children ++ [.stop name])

def allItems (write : α → String) : List (Markup α) → List Item
  | [] => []
  | tree :: trees => items write tree ++ allItems write trees

end

/-- An element whose names can be read, and in which a text stands alone. -/
inductive Proper : Markup α → Prop
  | leaf {name : String} {attributes : List (Attribute α)} {s : String} : IsName name →
      (∀ a ∈ attributes, IsName a.name) → Proper (element name attributes [text s])
  | branch {name : String} {attributes : List (Attribute α)} {children : List (Markup α)} :
      IsName name → (∀ a ∈ attributes, IsName a.name) → (∀ child ∈ children, Proper child) →
        Proper (element name attributes children)

theorem items_element_cons {name : String} {attributes : List (Attribute α)} {child : Markup α}
    {children : List (Markup α)} :
    (element name attributes (child :: children)).items write =
      .start name (attributes.map (Attribute.read write)) ::
        (allItems write (child :: children) ++ [.stop name]) := rfl

theorem scans_printAll {trees : List (Markup α)}
    (each : ∀ tree ∈ trees, Scans (tree.print write) (tree.items write)) :
    Scans (printAll write trees) (allItems write trees) := by
  induction trees with
  | nil => exact .nil
  | cons tree trees ih =>
      obtain ⟨first, others⟩ := List.forall_mem_cons.mp each
      exact first.append (ih others)

theorem scans_element {name : String} {attributes : List (Attribute α)}
    {children : List (Markup α)} (isName : IsName name) (names : ∀ a ∈ attributes, IsName a.name)
    (inside : Scans (printAll write children) (allItems write children)) :
    Scans ((element name attributes children).print write)
      ((element name attributes children).items write) := by
  cases children with
  | nil => exact scans_emptyTag isName names
  | cons child children =>
      exact (scans_startTag isName names).append (inside.append (scans_endTag isName))

/-- What is printed for a tree is read as its items. -/
theorem Proper.scans {tree : Markup α} (proper : tree.Proper) :
    Scans (tree.print write) (tree.items write) := by
  induction proper with
  | leaf isName names =>
      apply scans_element isName names
      exact scans_printAll (List.forall_mem_singleton.mpr (scans_text _))
  | branch isName names _ ih => exact scans_element isName names (scans_printAll ih)

mutual

theorem nested_items (tree : Markup α) : Nested (tree.items write) := by
  match tree with
  | text s => exact nested_chars s.toList
  | element name attributes [] => exact .empty name _ .nil
  | element name attributes (child :: children) =>
      exact .element name _ (nested_allItems (child :: children)) .nil

theorem nested_allItems (trees : List (Markup α)) : Nested (allItems write trees) := by
  match trees with
  | [] => exact .nil
  | tree :: trees => exact (nested_items tree).append (nested_allItems trees)

end

/-! ## Values of attributes -/

def Item.attributes : Item → List (String × String)
  | start _ attributes | empty _ attributes => attributes
  | stop _ | char _ => []

/-- The values of all attributes of one name, in their order. -/
def attributeValues (name : String) (items : List Item) : List String :=
  items.flatMap fun item => (item.attributes.filter fun a => a.1 = name).map Prod.snd

@[simp] theorem attributeValues_nil (name : String) : attributeValues name [] = [] := rfl

@[simp] theorem attributeValues_cons (name : String) (item : Item) (items : List Item) :
    attributeValues name (item :: items) =
      (item.attributes.filter fun a => a.1 = name).map Prod.snd ++ attributeValues name items := by
  simp [attributeValues]

@[simp] theorem attributeValues_append (name : String) (items others : List Item) :
    attributeValues name (items ++ others) =
      attributeValues name items ++ attributeValues name others := by
  simp [attributeValues]

@[simp] theorem attributeValues_chars (name : String) (s : List Char) :
    attributeValues name (s.map .char) = [] := by
  induction s with
  | nil => rfl
  | cons c s ih => simp [ih, Item.attributes]

@[simp] theorem Attribute.read_text (name value : String) :
    (Attribute.text name value : Attribute α).read write = (name, value) := by
  simp [Attribute.read, Attribute.text, plainValue, Piece.print]

@[simp] theorem Attribute.fst_read (a : Attribute α) : (a.read write).1 = a.name := rfl

theorem attributeValues_element (key name : String) (attributes : List (Attribute α))
    (children : List (Markup α)) :
    attributeValues key ((element name attributes children).items write) =
      ((attributes.map (Attribute.read write)).filter fun a => a.1 = key).map Prod.snd ++
        attributeValues key (allItems write children) := by
  cases children <;> simp [items, allItems, Item.attributes]

theorem attributeValues_allItems (key : String) (trees : List (Markup α)) :
    attributeValues key (allItems write trees) =
      trees.flatMap fun tree => attributeValues key (tree.items write) := by
  induction trees with
  | nil => rfl
  | cons tree trees ih => simp [allItems, ih]

/-! ## Documents over several lines -/

/-- A text is read as items that nest and have the attributes of others. -/
def Shows (s : List Char) (items : List Item) : Prop :=
  ∃ all, Scans s all ∧ Nested all ∧ ∀ name, attributeValues name all = attributeValues name items

theorem Shows.nil : Shows [] [] :=
  ⟨[], .nil, .nil, fun _ => rfl⟩

theorem Shows.append {s t : List Char} {items others : List Item} (first : Shows s items)
    (second : Shows t others) : Shows (s ++ t) (items ++ others) := by
  obtain ⟨all, scans, nested, same⟩ := first
  obtain ⟨all', scans', nested', same'⟩ := second
  exact ⟨all ++ all', scans.append scans', nested.append nested', by simp [same, same']⟩

theorem scans_char {c : Char} (left : c ≠ '<') (ampersand : c ≠ '&') : Scans [c] [.char c] := by
  apply scans_item
  intro rest
  simp [item?, character?, left]

theorem shows_chars {s : List Char} (blank : ∀ c ∈ s, c = ' ' ∨ c = '\n') : Shows s [] := by
  refine ⟨s.map .char, ?_, nested_chars s, by simp⟩
  induction s with
  | nil => exact .nil
  | cons c s ih =>
      obtain ⟨first, others⟩ := List.forall_mem_cons.mp blank
      have char : Scans [c] [.char c] := by
        rcases first with rfl | rfl <;> exact scans_char (by decide) (by decide)
      exact char.append (ih others)

theorem Shows.line {s : List Char} {items : List Item} (shows : Shows s items) (level : Nat) :
    Shows (line level s) items := by
  have front : Shows (List.replicate (2 * level) ' ') [] :=
    shows_chars fun c member => .inl (List.eq_of_mem_replicate member)
  have behind : Shows ['\n'] [] := shows_chars (by simp)
  have whole := (front.append shows).append behind
  rwa [List.nil_append, List.append_nil] at whole

theorem Scans.shows {s : List Char} {items : List Item} (scans : Scans s items)
    (nested : Nested items) : Shows s items :=
  ⟨items, scans, nested, fun _ => rfl⟩

theorem shows_printAllLines {trees : List (Markup α)} {level : Nat}
    (each : ∀ tree ∈ trees, Shows (tree.printLines write level) (tree.items write)) :
    Shows (printAllLines write level trees) (allItems write trees) := by
  induction trees with
  | nil => exact .nil
  | cons tree trees ih =>
      obtain ⟨first, others⟩ := List.forall_mem_cons.mp each
      exact first.append (ih others)

/-- An element whose tags stand on lines of their own, without what surrounds these. -/
theorem exists_items_element (write : α → String) {name : String}
    {attributes : List (Attribute α)} {inside : List Char} {items : List Item}
    (isName : IsName name) (names : ∀ a ∈ attributes, IsName a.name) (shows : Shows inside items)
    (level : Nat) :
    ∃ all, Scans (startTag write name attributes ++
        (['\n'] ++ inside ++ List.replicate (2 * level) ' ' ++ endTag name))
        (.start name (attributes.map (Attribute.read write)) :: (all ++ [.stop name])) ∧
      Nested all ∧ ∀ name, attributeValues name all = attributeValues name items := by
  have newline : Shows ['\n'] [] := shows_chars (by simp)
  have blanks : Shows (List.replicate (2 * level) ' ') [] :=
    shows_chars fun c member => .inl (List.eq_of_mem_replicate member)
  obtain ⟨all, scans, nested, same⟩ := (newline.append shows).append blanks
  refine ⟨all, ?_, nested, by simpa using same⟩
  exact (scans_startTag isName names).append (scans.append (scans_endTag isName))

theorem printLines_element_cons {name : String} {attributes : List (Attribute α)} {child : Markup α}
    {children : List (Markup α)} (level : Nat) :
    (element name attributes (child :: children)).printLines write level =
      List.replicate (2 * level) ' ' ++
        (startTag write name attributes ++
          (['\n'] ++ printAllLines write (level + 1) (child :: children) ++
            List.replicate (2 * level) ' ' ++ endTag name)) ++ ['\n'] := by
  simp [printLines, line]

theorem shows_element {name : String} {attributes : List (Attribute α)} {children : List (Markup α)}
    (isName : IsName name) (names : ∀ a ∈ attributes, IsName a.name) (level : Nat)
    (inside : Shows (printAllLines write (level + 1) children) (allItems write children)) :
    Shows ((element name attributes children).printLines write level)
      ((element name attributes children).items write) := by
  cases children with
  | nil => exact ((scans_emptyTag isName names).shows (.empty name _ .nil)).line level
  | cons child children =>
      obtain ⟨all, scans, nested, same⟩ := exists_items_element write isName names inside level
      have tags : Shows (startTag write name attributes ++ (['\n'] ++
          printAllLines write (level + 1) (child :: children) ++ List.replicate (2 * level) ' ' ++
            endTag name)) ((element name attributes (child :: children)).items write) := by
        refine ⟨_, scans, .element name _ nested .nil, fun key => ?_⟩
        simp [items_element_cons, same]
      have whole := tags.line level
      rwa [line, ← printLines_element_cons] at whole

theorem shows_texts (s : String) (level : Nat) :
    Shows (printAllLines write level [text s]) (allItems write [text s]) := by
  refine shows_printAllLines (List.forall_mem_singleton.mpr ?_)
  exact ((scans_text _).shows (nested_chars _)).line level

/-- What is printed for a tree over several lines is read as its items, up to blanks. -/
theorem Proper.shows {tree : Markup α} (proper : tree.Proper) (level : Nat) :
    Shows (tree.printLines write level) (tree.items write) := by
  induction proper generalizing level with
  | leaf isName names => exact shows_element isName names _ (shows_texts _ _)
  | branch isName names _ ih =>
      exact shows_element isName names _ (shows_printAllLines fun tree member => ih tree member _)

/-! ## Documents -/

theorem undeclared_append (s : List Char) : undeclared (declaration ++ s) = s := by
  rw [undeclared, Text.after?_append]
  rfl

theorem undeclared_of_isName {name : String} (isName : IsName name) (s : List Char) :
    undeclared ('<' :: (name.toList ++ s)) = '<' :: (name.toList ++ s) := by
  have first := isName.first
  cases chars : name.toList with
  | nil => simp [chars] at first
  | cons c others =>
      have letter : '?' ≠ c := by
        rintro rfl
        simp [chars] at first
      have front : declaration = '<' :: '?' :: declaration.drop 2 := rfl
      rw [undeclared, front, List.cons_append, Text.after?, if_pos rfl, Text.after?, if_neg letter]
      rfl

/-- An element with something in it, which has a start tag and an end tag. -/
def HasChildren (tree : Markup α) : Prop :=
  ∃ name attributes child children, tree = element name attributes (child :: children)

section Root

variable {name : String} {attributes : List (Attribute α)} {children : List (Markup α)}
  {tree : Markup α}

theorem HasChildren.isRoot (root : tree.HasChildren) : IsRoot (tree.items write) := by
  obtain ⟨name, attributes, child, children, rfl⟩ := root
  refine ⟨[], name, attributes.map (Attribute.read write), allItems write (child :: children), [],
    rfl, ?_, ?_, nested_allItems _⟩ <;> simp [IsBlank]

theorem items?_nil : items? [] = some [] := by
  rw [items?]
  rfl

theorem Scans.items? {s : List Char} {items : List Item} (scans : Scans s items) :
    items? s = some items := by
  simpa [items?_nil] using scans []

theorem Proper.names (proper : (element name attributes children).Proper) :
    IsName name ∧ ∀ a ∈ attributes, IsName a.name := by
  cases proper with
  | leaf isName names | branch isName names _ => exact ⟨isName, names⟩

theorem Proper.shows_children (proper : (element name attributes children).Proper) (level : Nat) :
    Shows (printAllLines write level children) (allItems write children) := by
  cases proper with
  | leaf _ _ => exact shows_texts _ level
  | branch _ _ each => exact shows_printAllLines fun tree member => (each tree member).shows level

theorem Proper.undeclared_print (proper : tree.Proper) (root : tree.HasChildren) :
    undeclared (tree.print write) = tree.print write := by
  obtain ⟨name, attributes, child, children, rfl⟩ := root
  have front : (element name attributes (child :: children)).print write =
      '<' :: (name.toList ++ (attributes.flatMap (Attribute.print write) ++
        '>' :: (printAll write (child :: children) ++ endTag name))) := by
    simp [print, startTag, printStart]
  rw [front, undeclared_of_isName proper.names.1]

/-- A tree that is printed on one line is a document, also behind a declaration. -/
theorem Proper.isDocument_print (proper : tree.Proper) (root : tree.HasChildren) :
    IsDocument (tree.print write) (tree.items write) where
  read := by rw [proper.undeclared_print root, proper.scans.items?]
  root := root.isRoot

theorem Proper.isDocument_declaration (proper : tree.Proper) (root : tree.HasChildren) :
    IsDocument (declaration ++ tree.print write) (tree.items write) where
  read := by rw [undeclared_append, proper.scans.items?]
  root := root.isRoot

theorem Proper.exists_isDocument_printLines (write : α → String) (proper : tree.Proper)
    (root : tree.HasChildren) :
    ∃ all, IsDocument (declaration ++ '\n' :: tree.printLines write 0) all ∧
      ∀ key, attributeValues key all = attributeValues key (tree.items write) := by
  obtain ⟨name, attributes, child, children, rfl⟩ := root
  obtain ⟨isName, names⟩ := proper.names
  obtain ⟨all, scans, nested, same⟩ :=
    exists_items_element write isName names (proper.shows_children 1) 0
  have newline : Scans ['\n'] [.char '\n'] := scans_char (by decide) (by decide)
  let first : Item := .start name (attributes.map (Attribute.read write))
  refine ⟨[.char '\n'] ++ (first :: (all ++ [.stop name]) ++ [.char '\n']), ⟨?_, ?_⟩, ?_⟩
  · rw [undeclared_append, printLines_element_cons]
    exact (newline.append (scans.append newline)).items?
  · refine ⟨[.char '\n'], name, attributes.map (Attribute.read write), all, [.char '\n'],
      by simp [first], ?_, ?_, nested⟩ <;> simp [IsBlank]
  · intro key
    simp [first, items_element_cons, same, Item.attributes]

end Root

/-! ## Texts -/

mutual

def texts : Markup α → List String
  | text s => [s]
  | element _ _ children => allTexts children

def allTexts : List (Markup α) → List String
  | [] => []
  | tree :: trees => texts tree ++ allTexts trees

end

/-- The texts that stand alone in an element. What has been read behind the first tag of an element
is kept until another tag follows. -/
def leavesFrom : (begun : Option (List Char)) → List Item → List String
  | _, [] => []
  | _, .start _ _ :: items => leavesFrom (some []) items
  | _, .empty _ _ :: items => leavesFrom none items
  | some s, .stop _ :: items => String.ofList s :: leavesFrom none items
  | none, .stop _ :: items => leavesFrom none items
  | some s, .char c :: items => leavesFrom (some (s ++ [c])) items
  | none, .char _ :: items => leavesFrom none items

def leaves (items : List Item) : List String :=
  leavesFrom none items

theorem leavesFrom_chars (s t : List Char) (items : List Item) :
    leavesFrom (some s) (t.map .char ++ items) = leavesFrom (some (s ++ t)) items := by
  induction t generalizing s with
  | nil => simp
  | cons c t ih => simp [leavesFrom, ih]

theorem leavesFrom_allItems {trees : List (Markup α)}
    (each : ∀ tree ∈ trees, ∀ begun items,
      leavesFrom begun (tree.items write ++ items) = tree.texts ++ leavesFrom none items)
    (items : List Item) :
    leavesFrom none (allItems write trees ++ items) = allTexts trees ++ leavesFrom none items := by
  induction trees with
  | nil => rfl
  | cons tree trees ih =>
      obtain ⟨first, others⟩ := List.forall_mem_cons.mp each
      simp [allItems, allTexts, first, ih others]

theorem Proper.leavesFrom_items {tree : Markup α} (proper : tree.Proper)
    (begun : Option (List Char)) (items : List Item) :
    leavesFrom begun (tree.items write ++ items) = tree.texts ++ leavesFrom none items := by
  induction proper generalizing begun items with
  | leaf _ _ => simp [allItems, Markup.items, leavesFrom, leavesFrom_chars, texts, allTexts]
  | @branch name attributes children _ _ _ ih =>
      cases children with
      | nil => rfl
      | cons child children =>
          obtain ⟨first, others⟩ := List.forall_mem_cons.mp ih
          simp [items_element_cons, leavesFrom, texts, allItems, allTexts, first,
            leavesFrom_allItems others]

/-- The texts of a tree are read as they were put in. -/
theorem Proper.leaves_items {tree : Markup α} (proper : tree.Proper) :
    leaves (tree.items write) = tree.texts := by
  simpa [leaves, leavesFrom] using proper.leavesFrom_items none []

end DiagramMarkup.Markup
