import HyperSchema.Text.Pieces

namespace HyperSchema

/-- Files by their paths, and folders by paths that end in a slash. Both are relative to a common
root, and there is nothing outside of it but empty folders around it. -/
abbrev Folder := List (String × String)

namespace Folder

def stepsOf (path : String) : List String :=
  (Text.splitAt '/' path).filter fun step => step ≠ "" ∧ step ≠ "."

def isFolderPath (path : String) : Bool := path.toList.getLast? == some '/'

/-- The steps of a file inside of a folder. -/
def below? (folder : List String) (path : String) : Option (List String) :=
  let steps := stepsOf path
  if steps.take folder.length = folder then some (steps.drop folder.length) else none

/-- Whether there is such a folder: it is the root, is given, or holds something. -/
def hasFolder (f : Folder) (folder : List String) : Bool :=
  folder.isEmpty || f.any fun (path, _) =>
    match below? folder path with
    | some [] => isFolderPath path
    | some _ => true
    | none => false

/-- Where a path leads: to a folder by its steps from the root, or out of the root. -/
inductive Place where
  | inside (steps : List String)
  | outside
deriving DecidableEq, Repr

/-- Every step leads into a folder, and a step up takes the step before it back. -/
def step? (f : Folder) : Place → String → Option Place
  | place, "" | place, "." => some place
  | .inside [], ".." | .outside, ".." => some .outside
  | .inside steps, ".." => some (.inside steps.dropLast)
  | .inside steps, step =>
    if f.hasFolder (steps ++ [step]) then some (.inside (steps ++ [step])) else none
  | .outside, _ => none

/-- Follows a path from the root, or from outside of it when a slash stands in front. -/
def resolve? (f : Folder) (path : String) : Option Place :=
  let start := if path.toList.head? = some '/' then Place.outside else .inside []
  (Text.splitAt '/' path).foldlM (step? f) start

/-- What stands right inside of a folder, by its name. There is no text when it cannot be read, as
with a folder. -/
structure Item where
  name : String
  text : Option String
deriving DecidableEq, Repr

/-- What a folder holds; none when there is no such folder. -/
def itemsIn? (f : Folder) (path : String) : Option (List Item) :=
  if path = "" then none
  else (f.resolve? path).map fun
    | .outside => []
    | .inside folder => f.filterMap fun (path, text) =>
      match below? folder path with
      | some [name] => some ⟨name, if isFolderPath path then none else some text⟩
      | _ => none

/-- The path of what stands right inside of a folder. -/
def pathIn (folder name : String) : String :=
  if isFolderPath folder then folder ++ name else folder ++ "/" ++ name

/-- What stands behind the last point of a name; a point in front begins no extension. -/
def extension? (name : String) : Option String :=
  let back := name.toList.reverse
  match back.dropWhile (· != '.') with
  | _ :: _ :: _ => some (String.ofList (back.takeWhile (· != '.')).reverse)
  | _ => none

end Folder

end HyperSchema
