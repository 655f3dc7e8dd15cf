import SourceReducer.Proofs.Statement.Grammar

/-! The tree of a program, written out. Nodes are numbered in the order in which they start, so the
nodes of an item stand together, the item's own node first. The builder makes exactly the nodes that
are written out here. -/
namespace SourceReducer.Statement

mutual

/-- The number of nodes of an item. -/
def Item.size : Item → Nat
  | .block _ _ body => itemsSize body + 1
  | .statement words _ => words.length + 1

def itemsSize : List Item → Nat
  | [] => 0
  | item :: rest => item.size + itemsSize rest

end

/-- The positions of items whose nodes follow each other from `base` on. -/
def itemsChildren (base : Nat) : List Item → List Nat
  | [] => []
  | item :: rest => base :: itemsChildren (base + item.size) rest

/-- A node with its position and the number of nodes in its subtree. -/
structure Numbered where
  index : Nat
  size : Nat
  node : Node

/-- The nodes of words from position `base` on. -/
def wordsNumbered (parent base : Nat) : List Word → List Numbered
  | [] => []
  | w :: rest =>
      { index := base, size := 1
        node := { kind := "word", span := Span.clamped w.start w.stop, parent := some parent } } ::
        wordsNumbered parent (base + 1) rest

mutual

/-- The nodes of an item from position `base` on. -/
def Item.numbered (parent base : Nat) : Item → List Numbered
  | .block start close body =>
      { index := base, size := itemsSize body + 1
        node := { kind := "block", span := Span.clamped start (close + 1), parent := some parent
                  children := itemsChildren (base + 1) body } } ::
        itemsNumbered base (base + 1) body
  | .statement words close =>
      { index := base, size := words.length + 1
        node := { kind := "statement"
                  span := Span.clamped (firstOffset words close) (close + 1)
                  parent := some parent
                  children := List.range' (base + 1) words.length } } ::
        wordsNumbered base (base + 1) words

def itemsNumbered (parent base : Nat) : List Item → List Numbered
  | [] => []
  | item :: rest => item.numbered parent base ++ itemsNumbered parent (base + item.size) rest

end

/-- The nodes of a program that is `size` bytes long. -/
def programNumbered (size : Nat) (items : List Item) : List Numbered :=
  { index := 0, size := itemsSize items + 1
    node :=
      { kind := "program", span := Span.clamped 0 size, children := itemsChildren 1 items } } ::
    itemsNumbered 0 1 items

/-- A node with further children. -/
def adopt (children : List Nat) (node : Node) : Node :=
  { node with children := node.children ++ children }

theorem modify_append_left {α : Type} (xs ys : List α) (f : α → α) {i : Nat} (h : i < xs.length) :
    (xs ++ ys).modify i f = xs.modify i f ++ ys := by
  apply List.ext_getElem?
  intro j
  by_cases hj : j < xs.length
  · rw [List.getElem?_modify, List.getElem?_append_left hj, List.getElem?_append_left (by simpa),
      List.getElem?_modify]
  · have hij : i ≠ j := by omega
    rw [List.getElem?_modify_ne _ _ hij, List.getElem?_append_right (by omega),
      List.getElem?_append_right (by simpa using hj), List.length_modify]

theorem modify_append_length {α : Type} (xs ys : List α) (x : α) (f : α → α) :
    (xs ++ x :: ys).modify xs.length f = xs ++ f x :: ys := by
  induction xs with
  | nil => rfl
  | cons y xs ih => simp [ih]

@[simp] theorem length_wordsNumbered (parent base : Nat) (words : List Word) :
    (wordsNumbered parent base words).length = words.length := by
  induction words generalizing base with
  | nil => rfl
  | cons w words ih => simp [wordsNumbered, ih]

@[simp] theorem length_itemsNumbered (parent base : Nat) (items : List Item) :
    (itemsNumbered parent base items).length = itemsSize items := by
  induction items using items_induction generalizing parent base with
  | nil => rfl
  | block start close body rest hbody hrest =>
    simp only [itemsNumbered, Item.numbered, itemsSize, Item.size, List.length_append,
      List.length_cons, hbody, hrest]
  | statement words close rest hrest =>
    simp only [itemsNumbered, Item.numbered, itemsSize, Item.size, List.length_append,
      List.length_cons, length_wordsNumbered, hrest]

@[simp] theorem adopt_nil : adopt [] = id := by
  funext node
  simp [adopt]

theorem adopt_adopt (as bs : List Nat) (node : Node) :
    adopt bs (adopt as node) = adopt (as ++ bs) node := by
  simp [adopt]

/-! The builder on a list of nodes, of which `p` is the innermost open one. -/

section Build

variable {nodes : List Node} {p : Nat} {opened : List Nat}

theorem start_eq (kind : String) (offset : Nat) :
    Builder.start ⟨nodes.toArray, p :: opened⟩ kind offset =
      ⟨(nodes.modify p (adopt [nodes.length]) ++
        [({ kind, span := Span.clamped offset offset, parent := some p } : Node)]).toArray,
        nodes.length :: p :: opened⟩ := by
  simp only [Builder.start, List.head?_cons, List.size_toArray, List.modify_toArray,
    List.push_toArray]
  rfl

theorem finish_eq {i : Nat} (hi : i = nodes.length) (top : Node) (rest : List Node) (offset : Nat) :
    Builder.finish ⟨(nodes ++ top :: rest).toArray, i :: opened⟩ offset =
      ⟨(nodes ++ { top with span := Span.clamped top.span.start offset } :: rest).toArray,
        opened⟩ := by
  subst hi
  simp [Builder.finish, modify_append_length]

theorem leaf_eq (kind : String) (start stop : Nat) :
    Builder.leaf ⟨nodes.toArray, p :: opened⟩ kind start stop =
      ⟨(nodes.modify p (adopt [nodes.length]) ++
        [({ kind, span := Span.clamped start stop, parent := some p } : Node)]).toArray,
        p :: opened⟩ := by
  rw [Builder.leaf, start_eq, finish_eq (by simp)]
  simp [Span.clamped]

theorem addWords_eq (hp : p < nodes.length) (words : List Word) :
    words.foldl (fun (b : Builder) w => b.leaf "word" w.start w.stop)
        ⟨nodes.toArray, p :: opened⟩ =
      ⟨(nodes.modify p (adopt (List.range' nodes.length words.length)) ++
        (wordsNumbered p nodes.length words).map Numbered.node).toArray, p :: opened⟩ := by
  induction words generalizing nodes with
  | nil => simp [wordsNumbered]
  | cons w words ih =>
    rw [List.foldl_cons, leaf_eq, ih (by simp; omega), modify_append_left _ _ _ (by simpa),
      List.modify_modify_eq]
    simp only [List.length_append, List.length_modify, List.length_cons, List.length_nil,
      List.append_assoc, List.cons_append, List.nil_append, wordsNumbered, List.map_cons,
      List.range'_succ, Function.comp_def, adopt_adopt]

/-- A node that is started, gets its children and is finished. -/
theorem enclose_eq (kind : String) (offset stop : Nat) (children : List Nat)
    (below : List Node) :
    Builder.finish ⟨((nodes.modify p (adopt [nodes.length]) ++
        [({ kind, span := Span.clamped offset offset, parent := some p } : Node)]).modify
          nodes.length (adopt children) ++ below).toArray, nodes.length :: p :: opened⟩ stop =
      ⟨(nodes.modify p (adopt [nodes.length]) ++
        ({ kind, span := Span.clamped offset stop, parent := some p, children } : Node) ::
          below).toArray, p :: opened⟩ := by
  have hlen : (nodes.modify p (adopt [nodes.length])).length = nodes.length := by simp
  have hmod := modify_append_length (nodes.modify p (adopt [nodes.length])) []
    ({ kind, span := Span.clamped offset offset, parent := some p } : Node) (adopt children)
  rw [hlen] at hmod
  rw [hmod, List.append_assoc, List.cons_append, List.nil_append, finish_eq hlen.symm]
  simp [adopt, Span.clamped]

theorem addItems_eq (hp : p < nodes.length) (items : List Item) :
    addItems ⟨nodes.toArray, p :: opened⟩ items =
      ⟨(nodes.modify p (adopt (itemsChildren nodes.length items)) ++
        (itemsNumbered p nodes.length items).map Numbered.node).toArray, p :: opened⟩ := by
  induction items using items_induction generalizing nodes p opened with
  | nil => simp [addItems, itemsChildren, itemsNumbered]
  | block start close body rest hbody hrest =>
    simp only [addItems, Item.addTo]
    rw [start_eq, hbody (by simp), enclose_eq, hrest (by simp; omega),
      modify_append_left _ _ _ (by simpa), List.modify_modify_eq]
    simp [itemsChildren, itemsNumbered, Item.numbered, Item.size, Function.comp_def, adopt_adopt]
  | statement words close rest hrest =>
    simp only [addItems, Item.addTo]
    rw [start_eq, addWords_eq (by simp), enclose_eq, hrest (by simp; omega),
      modify_append_left _ _ _ (by simpa), List.modify_modify_eq]
    simp [itemsChildren, itemsNumbered, Item.numbered, Item.size, Function.comp_def, adopt_adopt]

end Build

/-- The tree with the nodes that are written out for a program. -/
def treeOf (size : Nat) (items : List Item) : Tree :=
  { nodes := ((programNumbered size items).map Numbered.node).toArray }

theorem programTree_eq (size : Nat) (items : List Item) :
    programTree size items = .ok (treeOf size items) := by
  have hroot : ({} : Builder).start "program" 0 =
      ⟨[({ kind := "program", span := Span.clamped 0 0 } : Node)].toArray, [0]⟩ := rfl
  rw [programTree, hroot, addItems_eq (by simp)]
  have hfinish := @finish_eq [] [] 0 rfl
    (adopt (itemsChildren 1 items) { kind := "program", span := Span.clamped 0 0 })
    ((itemsNumbered 0 1 items).map Numbered.node) size
  simp only [List.nil_append] at hfinish
  simp only [List.length_singleton, List.modify_zero_cons, List.cons_append, List.nil_append,
    hfinish]
  simp [Builder.build, treeOf, programNumbered, adopt, Span.clamped]

/-- A text parses exactly if it can be read, and then to the tree of what was read. -/
theorem parse_eq_ok_iff {text : String} {t : Tree} :
    parse text = .ok t ↔
      ∃ items, readProgram text = .ok items ∧ t = treeOf (byteSize text.toList) items := by
  unfold parse
  cases readProgram text with
  | error e => simp [bind, Except.bind]
  | ok items => simp [bind, Except.bind, programTree_eq, eq_comm]

@[simp] theorem size_treeOf (size : Nat) (items : List Item) :
    (treeOf size items).size = itemsSize items + 1 := by
  simp [treeOf, Tree.size, programNumbered]

/-! Positions count from 0 on. -/

theorem map_index_wordsNumbered (parent base : Nat) (words : List Word) :
    (wordsNumbered parent base words).map Numbered.index = List.range' base words.length := by
  induction words generalizing base with
  | nil => rfl
  | cons w words ih => simp [wordsNumbered, ih, List.range'_succ]

theorem map_index_itemsNumbered (parent base : Nat) (items : List Item) :
    (itemsNumbered parent base items).map Numbered.index =
      List.range' base (itemsSize items) := by
  induction items using items_induction generalizing parent base with
  | nil => rfl
  | block start close body rest hbody hrest =>
    simp only [itemsNumbered, Item.numbered, itemsSize, Item.size, List.map_append, List.map_cons,
      hbody, hrest]
    rw [← List.range'_append_1, List.range'_succ]
  | statement words close rest hrest =>
    simp only [itemsNumbered, Item.numbered, itemsSize, Item.size, List.map_append, List.map_cons,
      map_index_wordsNumbered, hrest]
    rw [← List.range'_append_1, List.range'_succ]

theorem map_index_programNumbered (size : Nat) (items : List Item) :
    (programNumbered size items).map Numbered.index = List.range (itemsSize items + 1) := by
  simp [programNumbered, map_index_itemsNumbered, List.range_eq_range', List.range'_succ]

theorem index_of_getElem? {size i : Nat} {items : List Item} {r : Numbered}
    (h : (programNumbered size items)[i]? = some r) : r.index = i := by
  have hi := congrArg (fun l => l[i]?) (map_index_programNumbered size items)
  simp only [List.getElem?_map, h, Option.map_some] at hi
  obtain ⟨hlt, heq⟩ := List.getElem?_eq_some_iff.1 hi.symm
  simpa using heq.symm

/-- Looking a node up finds the one that is written out under its position. -/
theorem node?_treeOf {size i : Nat} {items : List Item} {node : Node} :
    (treeOf size items).node? i = some node ↔
      ∃ r ∈ programNumbered size items, r.index = i ∧ r.node = node := by
  simp only [treeOf, Tree.node?, List.getElem?_toArray, List.getElem?_map, Option.map_eq_some_iff]
  constructor
  · rintro ⟨r, hr, rfl⟩
    exact ⟨r, List.mem_of_getElem? hr, index_of_getElem? hr, rfl⟩
  · rintro ⟨r, hr, rfl, rfl⟩
    obtain ⟨j, hj⟩ := List.getElem?_of_mem hr
    obtain rfl := index_of_getElem? hj
    exact ⟨r, hj, rfl⟩

end SourceReducer.Statement
