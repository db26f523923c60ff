import HyperSchema.Settings.Entry

/-!
Tables of TOML as they are filled. A table is written once: under its own header, by the headers of
tables inside of it, or by dotted keys.
-/

namespace HyperSchema.Toml

/-- What a table has come from. -/
inductive Origin where
  | header
  | innerHeader
  | dottedKey
deriving DecidableEq, Repr

inductive Node where
  /-- A value is closed: nothing can be added to it. -/
  | value (e : Entry)
  | table (origin : Origin) (nodes : List (String × Node))
  /-- Tables that share a header, the latest first. -/
  | series (tables : List (List (String × Node)))

abbrev Nodes := List (String × Node)

mutual
def Node.entry : Node → Entry
  | .value e => e
  | .table _ nodes => .table (Node.entries nodes)
  | .series tables => .items (Node.seriesEntries tables).reverse

def Node.entries : List (String × Node) → List (String × Entry)
  | [] => []
  | (key, node) :: nodes => (key, node.entry) :: Node.entries nodes

def Node.seriesEntries : List (List (String × Node)) → List Entry
  | [] => []
  | nodes :: tables => .table (Node.entries nodes) :: Node.seriesEntries tables
end

namespace Nodes

def replace (nodes : Nodes) (key : String) (node : Node) : Nodes :=
  nodes.map fun (k, n) => if k = key then (k, node) else (k, n)

/-- Changes the table at the end of a path, making the tables that are missing on the way. Of tables
that share a header the latest is meant. Dotted keys lead into no table that has its own header. -/
def edit? (change : Origin → Nodes → Option Nodes) (dotted : Bool) (origin : Origin)
    (nodes : Nodes) : List String → Option Nodes
  | [] => change origin nodes
  | key :: path =>
    match nodes.lookup key with
    | none =>
      let origin := if dotted then Origin.dottedKey else .innerHeader
      (edit? change dotted origin [] path).map fun inner => nodes ++ [(key, .table origin inner)]
    | some (.table origin inner) =>
      if dotted && origin == .header then none
      else (edit? change dotted origin inner path).map fun inner =>
        replace nodes key (.table origin inner)
    | some (.series (latest :: earlier)) =>
      (edit? change dotted .header latest path).map fun latest =>
        replace nodes key (.series (latest :: earlier))
    | _ => none

/-- Gives a new key its value. What a dotted key ends in has come from dotted keys alone. -/
def addValue? (nodes : Nodes) (path : List String) (key : String) (e : Entry) : Option Nodes :=
  edit? (fun origin nodes =>
    if (origin == .dottedKey) == path.isEmpty || (nodes.lookup key).isSome then none
    else some (nodes ++ [(key, .value e)])) (!path.isEmpty) .header nodes path

/-- Opens the table of a header, which is new or has come from headers inside of it. -/
def openTable? (nodes : Nodes) (path : List String) (key : String) : Option Nodes :=
  edit? (fun _ nodes =>
    match nodes.lookup key with
    | none => some (nodes ++ [(key, .table .header [])])
    | some (.table .innerHeader inner) => some (replace nodes key (.table .header inner))
    | _ => none) false .header nodes path

/-- Opens a further table of a series. -/
def openSeries? (nodes : Nodes) (path : List String) (key : String) : Option Nodes :=
  edit? (fun _ nodes =>
    match nodes.lookup key with
    | none => some (nodes ++ [(key, .series [[]])])
    | some (.series tables) => some (replace nodes key (.series ([] :: tables)))
    | _ => none) false .header nodes path

end Nodes

end HyperSchema.Toml
