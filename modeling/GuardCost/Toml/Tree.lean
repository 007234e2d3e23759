/-
GuardCost/Toml/Tree.lean

Tables under construction.  A table can be spread over a document, but no
part of it may be stated twice, so a node remembers how it came about: a
table is `implicit` while it has only been passed through on the way to
another one, and `dotted` if a dotted key made it.  A header may complete an
implicit table, a dotted key may extend only a table of dotted keys, and a
value is never extended.

`descend` walks along a path, making implicit tables on the way and entering
the last element of an array of tables; `Draft` is the state between two
statements, with the table of the last header still apart from the rest.

In a finished document a table keeps its entries in the order in which they
were first mentioned, and has no key twice.  What a date says does not matter
here, only that it is one.
-/

namespace GuardCost.Toml

/-! ### Values -/

/-- A value of a document. -/
inductive Value where
  | text (s : String)
  | integer (n : Int)
  | float (x : Float)
  | boolean (b : Bool)
  | date
  | array (items : List Value)
  | table (entries : List (String × Value))

/-- A part of a document under construction. -/
inductive Node where
  | leaf (v : Value)
  | table (implicit dotted : Bool) (entries : List (String × Node))
  /-- The elements that `[[…]]` headers made. -/
  | tables (elements : List Node)

namespace Node

/-- Put another node at a key that is there. -/
def replace (key : String) (node : Node) (entries : List (String × Node)) :
    List (String × Node) :=
  entries.map fun entry => if entry.1 == key then (entry.1, node) else entry

/-- Edit the table at the end of a path.  `dotted` says that the path is that
of a dotted key, which must not enter a table that a header has stated. -/
def descend (dotted : Bool) (edit : Node → Option Node) : List String → Node → Option Node
  | [], node => edit node
  | key :: path, table implicit isDotted entries =>
    match entries.lookup key with
    | none =>
      (descend dotted edit path (table true dotted [])).map fun child =>
        table implicit isDotted (entries ++ [(key, child)])
    | some (leaf _) => none
    | some (tables elements) =>
      match elements.getLast? with
      | none => none
      | some last =>
        (descend dotted edit path last).map fun child =>
          table implicit isDotted (replace key (tables (elements.dropLast ++ [child])) entries)
    | some (table childImplicit childDotted childEntries) =>
      if dotted && !childImplicit then none
      else
        (descend dotted edit path (table childImplicit childDotted childEntries)).map
          fun child => table implicit isDotted (replace key child entries)
  | _ :: _, _ => none

/-- Put a value at a new key of a table; a table of dotted keys takes only
dotted keys, and any other table only plain ones. -/
def putValue (plain : Bool) (key : String) (v : Value) : Node → Option Node
  | table implicit dotted entries =>
    if dotted == plain || (entries.lookup key).isSome then none
    else some (table implicit dotted (entries ++ [(key, leaf v)]))
  | _ => none

/-- Put a value at the end of a dotted key. -/
def put (path : List String) (key : String) (v : Value) (node : Node) : Option Node :=
  descend true (putValue path.isEmpty key v) path node

mutual

/-- The finished value of a node. -/
def toValue : Node → Value
  | leaf v => v
  | table _ _ entries => .table (entriesToValue entries)
  | tables elements => .array (elementsToValue elements)

/-- The finished entries of a table. -/
def entriesToValue : List (String × Node) → List (String × Value)
  | [] => []
  | (key, node) :: rest => (key, toValue node) :: entriesToValue rest

/-- The finished elements of an array of tables. -/
def elementsToValue : List Node → List Value
  | [] => []
  | node :: rest => toValue node :: elementsToValue rest

end

/-- The entries of a finished table. -/
def entries : Node → List (String × Value)
  | table _ _ es => entriesToValue es
  | _ => []

end Node

/-- A dotted key with its value: the path, the last key, the value. -/
abbrev Pair := List String × String × Value

/-- The entries of a table from its keys and values, in order. -/
def entriesOfPairs? (pairs : List Pair) : Option (List (String × Value)) :=
  (pairs.foldlM (fun node (path, key, v) => Node.put path key v node)
    (Node.table false false [])).map Node.entries

/-! ### Statements -/

/-- A statement of a document. -/
inductive Statement where
  | pair (path : List String) (key : String) (v : Value)
  /-- A header `[path.key]`. -/
  | header (path : List String) (key : String)
  /-- A header `[[path.key]]`. -/
  | arrayHeader (path : List String) (key : String)

/-- Where the table under construction belongs. -/
inductive Place where
  | root
  | table (path : List String) (key : String)
  | element (path : List String) (key : String)

/-- A document between two statements. -/
structure Draft where
  root : Node
  current : Node
  place : Place

namespace Draft

/-- The document before its first statement. -/
def empty : Draft := ⟨.table false false [], .table false false [], .root⟩

/-- Put the table under construction where it belongs. -/
def finish (d : Draft) : Option Node :=
  match d.place with
  | .root => some d.current
  | .table path key =>
    d.root.descend false (fun
      | .table implicit dotted entries =>
        if (entries.lookup key).isSome then none
        else some (.table implicit dotted (entries ++ [(key, d.current)]))
      | _ => none) path
  | .element path key =>
    d.root.descend false (fun
      | .table implicit dotted entries =>
        match entries.lookup key with
        | some (.tables elements) =>
          some (.table implicit dotted
            (Node.replace key (.tables (elements ++ [d.current])) entries))
        | _ => none
      | _ => none) path

/-- Start an element of an array of tables. -/
def openElement (root : Node) (path : List String) (key : String) : Option Draft :=
  (root.descend false (fun
    | .table implicit dotted entries =>
      match entries.lookup key with
      | none => some (.table implicit dotted (entries ++ [(key, .tables [])]))
      | some (.tables _) => some (.table implicit dotted entries)
      | _ => none
    | _ => none) path).map fun root => ⟨root, .table false false [], .element path key⟩

/-- The entries that a header finds at its key: those of an implicit table. -/
def found? (key : String) (entries : List (String × Node)) : Option (List (String × Node)) :=
  match entries.lookup key with
  | none => some []
  | some (.table true false childEntries) => some childEntries
  | _ => none

/-- The table at the end of a path, or nothing where there is none yet. -/
def entriesAt (path : List String) (node : Node) : List (String × Node) :=
  match path, node with
  | [], .table _ _ entries => entries
  | key :: path, .table _ _ entries =>
    match entries.lookup key with
    | some (.tables elements) =>
      match elements.getLast? with
      | some last => entriesAt path last
      | none => []
    | some child => entriesAt path child
    | none => []
  | _, _ => []

/-- Start a table; an implicit one at its place is taken over. -/
def openTable (root : Node) (path : List String) (key : String) : Option Draft :=
  match found? key (entriesAt path root) with
  | none => none
  | some entries =>
    (root.descend false (fun
      | .table implicit dotted siblings =>
        some (.table implicit dotted (siblings.filter fun entry => entry.1 != key))
      | _ => none) path).map fun root => ⟨root, .table false false entries, .table path key⟩

/-- Take a statement. -/
def add (d : Draft) : Statement → Option Draft
  | .pair path key v => (d.current.put path key v).map fun current => { d with current }
  | .header path key => d.finish.bind fun root => openTable root path key
  | .arrayHeader path key => d.finish.bind fun root => openElement root path key

end Draft

/-- The document of a list of statements. -/
def documentOfStatements? (statements : List Statement) : Option (List (String × Value)) :=
  ((statements.foldlM Draft.add Draft.empty).bind Draft.finish).map Node.entries

end GuardCost.Toml
