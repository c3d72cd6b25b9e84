/-!
# TOML values

A document is a table. Tables are filled entry by entry under dotted keys and under headers; a
table that a header or an inline table has defined is not defined again, and dotted keys extend
only tables that dotted keys have made.
-/

namespace HalBench.Toml

/-- A TOML value; of numbers and dates only the kind is kept. -/
inductive Value where
  | text (s : String)
  | truth (b : Bool)
  | number
  | date
  | array (items : List Value)
  | table (entries : List (String × Value))
  deriving Repr, Inhabited

/-- A table that is being filled, or what stands in it. An implicit table was made by the key or
header of something in it, a dotted one by a dotted key. -/
inductive Node where
  | value (v : Value)
  | table (implicit dotted : Bool) (entries : List (String × Node))
  | tables (items : List Node)
  deriving Repr, Inhabited

namespace Node

def put (key : String) (node : Node) : List (String × Node) → List (String × Node)
  | [] => [(key, node)]
  | (k, n) :: r => if k = key then (key, node) :: r else (k, n) :: put key node r

def empty : Node := table false false []

mutual

def toValue : Node → Value
  | value v => v
  | table _ _ entries => .table (entryValues entries)
  | tables items => .array (itemValues items)

def itemValues : List Node → List Value
  | [] => []
  | x :: r => x.toValue :: itemValues r

def entryValues : List (String × Node) → List (String × Value)
  | [] => []
  | e :: r => entryValue e :: entryValues r

def entryValue : String × Node → String × Value
  | (k, x) => (k, x.toValue)

end

/-- Changes the table under a path, making the tables on the way; in an array of tables the last
one is meant. Dotted keys do not pass tables that a header has defined. -/
def within (dotted : Bool) (change : Node → Option Node) : List String → Node → Option Node
  | [], node => change node
  | key :: path, table implicit byKey entries => do
    let next ← match entries.lookup key with
      | none => within dotted change path (table true dotted [])
      | some (value _) => none
      | some (table isImplicit d es) =>
        if dotted && !isImplicit then none
        else within dotted change path (table isImplicit d es)
      | some (tables items) => do
        let last ← items.getLast?
        let changed ← within dotted change path last
        some (tables (items.dropLast ++ [changed]))
    some (table implicit byKey (put key next entries))
  | _ :: _, _ => none

def add (key : String) (v : Value) : Node → Option Node
  | table implicit dotted entries =>
    if (entries.lookup key).isSome then none
    else some (table implicit dotted (entries ++ [(key, value v)]))
  | _ => none

def addDotted (path : List String) (v : Value) (node : Node) : Option Node := do
  let key ← path.getLast?
  within true (fun inner =>
    match inner with
    | table _ dotted _ => if dotted == path.dropLast.isEmpty then none else inner.add key v
    | _ => none) path.dropLast node

def define (path : List String) (node : Node) : Option Node := do
  let key ← path.getLast?
  within false (fun inner =>
    match inner with
    | table implicit dotted entries =>
      match entries.lookup key with
      | none => some (table implicit dotted (put key empty entries))
      | some (table true false es) =>
        some (table implicit dotted (put key (table false false es) entries))
      | some _ => none
    | _ => none) path.dropLast node

def defineItem (path : List String) (node : Node) : Option Node := do
  let key ← path.getLast?
  within false (fun inner =>
    match inner with
    | table implicit dotted entries =>
      match entries.lookup key with
      | none => some (table implicit dotted (put key (tables [empty]) entries))
      | some (tables items) =>
        some (table implicit dotted (put key (tables (items ++ [empty])) entries))
      | some _ => none
    | _ => none) path.dropLast node

end Node

inductive Statement where
  | entry (path : List String) (value : Value)
  | header (path : List String)
  | itemHeader (path : List String)
  deriving Repr, Inhabited

/-- Fills a document from its lines; entries go into the table of the last header. -/
def fill : List Statement → List String → Node → Option Node
  | [], _, node => some node
  | .entry path v :: r, current, node => do
    let node ← node.within false (Node.addDotted path v) current
    fill r current node
  | .header path :: r, _, node => do
    let node ← node.define path
    fill r path node
  | .itemHeader path :: r, _, node => do
    let node ← node.defineItem path
    fill r path node

def inlineTable (entries : List (List String × Value)) : Option Value :=
  (entries.foldlM (fun node e => Node.addDotted e.1 e.2 node) Node.empty).map Node.toValue

end HalBench.Toml
