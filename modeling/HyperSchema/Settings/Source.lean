import HyperSchema.Json.Reader
import HyperSchema.Settings.KeyPath
import HyperSchema.Settings.Toml

namespace HyperSchema

namespace Entry

mutual
def ofJson : Json → Entry
  | .null | .unreadable => .nothing
  | .bool b => .flag b
  | .integer n => .integer n
  | .real x => .real x
  | .string s => .text s
  | .array js => .items (ofItems js)
  | .object members => .table (ofMembers members)

def ofItems : List Json → List Entry
  | [] => []
  | j :: js => ofJson j :: ofItems js

def ofMembers : List (String × Json) → Entries
  | [] => []
  | (key, j) :: members => (key, ofJson j) :: ofMembers members
end

/-- What a variable stands for: a flag, a number, a list where one is due, else text. -/
def ofVariable (key value : String) : Entry :=
  let cs := value.toList
  let word := String.ofList (cs.map Char.toLower)
  if word = "true" then .flag true
  else if word = "false" then .flag false
  else match Decimal.readInteger Decimal.lowestLong Decimal.highestLong cs with
    | .ok n => .integer n
    | .error _ =>
      match Decimal.readDouble cs with
      | .ok x => .real x
      | .error _ =>
        if key = "reserved_slot_names" then .items ((Text.splitAt ',' value).map .text)
        else .text value

end Entry

namespace Settings

/-- The name that settings files have before their extension. -/
def fileName : String := "protoslot"

/-- In front of the name of every variable that is a setting. -/
def variableLead : List Char := "protoslot_".toList

def ofVariables (environment : List (String × String)) : Entries :=
  environment.filterMap fun (name, value) =>
    (Text.dropLead? variableLead (name.toList.map Char.toLower)).map fun key =>
      let key := String.ofList key
      (key, Entry.ofVariable key value)

def ofJsonText? (text : String) : Option Entries :=
  match Json.readValue? text with
  | some (.object members) => some (Entry.ofMembers members)
  | _ => none

/-- A format of settings files, with the endings of their names. -/
structure Format where
  endings : List String
  read? : String → Option Entries

namespace Format

def toml : Format := ⟨["toml"], Toml.read?⟩

def json : Format := ⟨["json"], ofJsonText?⟩

end Format

/-- The files of a folder by their names, without a text when it cannot be read. -/
abbrev Files := String → Option (Option String)

/-- The first file whose ending belongs to a format. -/
def file? (formats : List Format) (files : Files) : Option (Format × Option String) :=
  formats.findSome? fun format =>
    format.endings.findSome? fun ending => (files (fileName ++ "." ++ ending)).map (format, ·)

/-- The entries of the settings file. There are none when there is no such file, when it cannot be
opened and when a file without an ending stands in its place. -/
def fileEntries? (formats : List Format) (files : Files) : Option Entries :=
  if (files fileName).isSome then some []
  else match file? formats files with
    | some (format, some text) => format.read? (String.ofList (Toml.skipMark text.toList))
    | some (_, none) | none => some []

def ofToml (text : String) : Except ConfigError Settings :=
  match Toml.read? text with
  | some entries => ofEntries (Entries.insertAll [] entries)
  | none => .error .malformed

/-- The environment stands above the file. -/
def loadFrom (formats : List Format) (files : Files) (environment : List (String × String)) :
    Except ConfigError Settings :=
  match fileEntries? formats files with
  | some entries =>
    ofEntries ((Entries.insertAll [] entries).insertAll (ofVariables environment))
  | none => .error .malformed

/-- Loads settings from files that can all be read. -/
def load (files environment : List (String × String)) : Except ConfigError Settings :=
  loadFrom [.toml, .json] (fun name => (files.lookup name).map some) environment

end Settings

end HyperSchema
