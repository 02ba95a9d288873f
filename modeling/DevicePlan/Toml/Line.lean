import DevicePlan.Document.Value

/-!
# The lines of a TOML document

What a TOML document says, line by line, and the table that the lines build together. Tables may be
opened once; a table that was only passed through on the way to another may still be opened, which
gives it a new place after its neighbours, and one that dotted keys made may only be extended by
dotted keys. `assemble?` is nothing for lines that break these rules.
-/

namespace DevicePlan.Toml

inductive Line where
  | header (parents : List String) (key : String)
  | arrayHeader (parents : List String) (key : String)
  | entry (parents : List String) (key : String) (value : Value)

inductive Origin where
  | header
  | passage
  | dottedKey
deriving DecidableEq

inductive Node where
  | leaf (value : Value)
  | table (origin : Origin) (members : List (String × Node))
  | tables (last : List (String × Node)) (earlier : List (List (String × Node)))

abbrev Members := List (String × Node)

def alter (key : String) (change : Option Node → Option Node) : Members → Option Members
  | [] => (change none).map fun node => [(key, node)]
  | (name, node) :: rest =>
    if name = key then (change (some node)).map fun node => (name, node) :: rest
    else (alter key change rest).map ((name, node) :: ·)

/-- Change the members of the table that a path of headers leads to. Of an array of tables the path
takes the last one. -/
def within (change : Members → Option Members) : List String → Members → Option Members
  | [], members => change members
  | key :: path, members =>
    alter key (fun
      | none => (within change path []).map (.table .passage)
      | some (.table origin inner) => (within change path inner).map (.table origin)
      | some (.tables last earlier) => (within change path last).map (.tables · earlier)
      | some (.leaf _) => none) members

/-- Give a key a value. The key must be new, and the tables that its first parts name must not have
been made otherwise than by dotted keys. -/
def addEntry (value : Value) (key : String) : List String → Members → Option Members
  | [], members =>
    alter key (fun
      | none => some (.leaf value)
      | some _ => none) members
  | first :: path, members =>
    alter first (fun
      | none => (addEntry value key path []).map (.table .dottedKey)
      | some (.table .header _) => none
      | some (.table .passage inner) =>
        if path.isEmpty then none else (addEntry value key path inner).map (.table .passage)
      | some (.table .dottedKey inner) => (addEntry value key path inner).map (.table .dottedKey)
      | some (.tables last earlier) =>
        if path.isEmpty then none else (addEntry value key path last).map (.tables · earlier)
      | some (.leaf _) => none) members

/-- Open a table. It must be new, or only passed through so far, and becomes the last member. -/
def openTable (key : String) (members : Members) : Option Members :=
  match members.lookup key with
  | none => some (members ++ [(key, .table .header [])])
  | some (.table .passage inner) =>
    some (members.filter (fun member => member.1 != key) ++ [(key, .table .header inner)])
  | some _ => none

def openElement (key : String) : Members → Option Members :=
  alter key fun
    | none => some (.tables [] [])
    | some (.tables last earlier) => some (.tables [] (last :: earlier))
    | some _ => none

def build (path : List String) (members : Members) : List Line → Option Members
  | [] => some members
  | .header parents key :: rest => do
    let members ← within (openTable key) parents members
    build (parents ++ [key]) members rest
  | .arrayHeader parents key :: rest => do
    let members ← within (openElement key) parents members
    build (parents ++ [key]) members rest
  | .entry parents key value :: rest => do
    let members ← within (addEntry value key parents) path members
    build path members rest

mutual

def Node.value : Node → Value
  | .leaf value => value
  | .table _ members => .table (memberValues members)
  | .tables last earlier => .tables ((tableValues earlier).reverse ++ [.table (memberValues last)])

def memberValues : List (String × Node) → List (String × Value)
  | [] => []
  | (key, node) :: rest => (key, node.value) :: memberValues rest

def tableValues : List (List (String × Node)) → List Value
  | [] => []
  | members :: rest => .table (memberValues members) :: tableValues rest

end

def assemble? (lines : List Line) : Option (List (String × Value)) :=
  (build [] [] lines).map memberValues

end DevicePlan.Toml
