import HyperSchema.Folder
import HyperSchema.Registry
import HyperSchema.Settings.Source

namespace HyperSchema

/-- What there is to remark on while documents are loaded and their schemas are compiled. -/
inductive Remark where
  | unreadable (file : String)
  | malformed (file text : String)
  | loaded (file : String) (schema : SchemaId)
  | folderRead (folder : String) (schemas : Nat)
  | folderMissing (folder : String)
  | happened (e : Event)
deriving DecidableEq, Repr

/-- What the log writes for a remark after so many others: a line with the time and its own words,
or nothing when its filter does not let the remark pass. -/
abbrev LogWriter := Nat → Remark → String

def LogWriter.silent : LogWriter := fun _ _ => ""

/-- Remarks for the log and entries of the report, which share the standard output. -/
inductive Printed where
  | remark (r : Remark)
  | entry (line : String)
deriving DecidableEq, Repr

/-- What is printed of a folder of schema documents: an entry for each schema, in the order of
identifiers, among the remarks. -/
structure Report where
  printed : List Printed
  failed : Bool
deriving DecidableEq, Repr

namespace Report

def isDocument (name : String) : Bool := Folder.extension? name == some "json"

/-- The schema of a document. Other files have none, and neither has what cannot be read as one. -/
def schemaIn? (item : Folder.Item) : Option Schema :=
  if isDocument item.name then item.text.bind Schema.read? else none

/-- Keeps the schema of every document, one after the other. -/
def storeOf (items : List Folder.Item) : Store :=
  (items.filterMap schemaIn?).foldl Store.keep .empty

/-- What there is to remark on a document. -/
def remark? (folder : String) (item : Folder.Item) : Option Remark :=
  let file := Folder.pathIn folder item.name
  if isDocument item.name then
    match item.text, schemaIn? item with
    | _, some s => some (.loaded file s.id)
    | some text, none => some (.malformed file text)
    | none, none => some (.unreadable file)
  else none

def names (xs : List String) : String :=
  "\x7b" ++ Text.joinWith ", " (xs.map Text.quoted) ++ "\x7d"

def summary (p : Prototype) : String :=
  p.schema.text ++ " v" ++ toString p.version ++ ": " ++ toString p.slots.length ++
    " slots, keys " ++ names p.keySlotNames ++ ", bases " ++ SchemaId.displayList p.bases

def entry (id : SchemaId) : Except Failure Prototype → String
  | .ok p => summary p
  | .error e => id.text ++ ": " ++ e.message

/-- Compiles one schema after the other with the same registry. What it notes on the way is printed
before the entry. -/
def ofSchemas : List SchemaId → StateM Registry Report
  | [] => pure ⟨[], false⟩
  | id :: ids => do
    let before := (← get).log.length
    let outcome ← (Registry.prototype id).run
    let noted := ((← get).log.drop before).map .happened
    let rest ← ofSchemas ids
    return {
      printed := noted.map .remark ++ .entry (entry id outcome) :: rest.printed
      failed := !outcome.isOk || rest.failed }

def ofStore (c : Conventions) (store : Store) : Report :=
  ((ofSchemas store.ids).run { conventions := c, store }).1

def folderOf (settings : Settings) : String := settings.schemaDirectory.getD "."

/-- The report on what a folder holds; a folder that is not there is a failure. -/
def ofItems (c : Conventions) (folder : String) : Option (List Folder.Item) → Report
  | none => ⟨[.remark (.folderMissing folder)], true⟩
  | some items =>
    let loaded := items.filterMap (remark? folder) ++
      [.folderRead folder (items.filterMap schemaIn?).length]
    let report := ofStore c (storeOf items)
    { report with printed := loaded.map .remark ++ report.printed }

def exitCode (r : Report) : UInt32 := if r.failed then 1 else 0

/-- The text of what is printed after so many remarks, an entry to a line. -/
def textAfter (write : LogWriter) : Nat → List Printed → String
  | _, [] => ""
  | made, .remark r :: rest => write made r ++ textAfter write (made + 1) rest
  | made, .entry line :: rest => line ++ "\n" ++ textAfter write made rest

def textWith (write : LogWriter) (r : Report) : String := textAfter write 0 r.printed

/-- The text of the report without the log. -/
def text (r : Report) : String := r.textWith .silent

end Report

/-- What a run finds around it, and whatever else decides what it prints. -/
structure Surroundings where
  form : TextForm := .standard
  /-- The formats of settings files, in the order in which they are tried. -/
  formats : List Settings.Format := [.toml, .json]
  files : Settings.Files
  environment : List (String × String)
  /-- What stands right inside of a folder, in any order; none when the folder cannot be read. -/
  itemsIn? : String → Option (List Folder.Item)
  /-- The filter of the log that the environment gives, if it is one. -/
  filter? : Option String := none
  log : (filter : String) → LogWriter := fun _ => .silent
  /-- Why settings cannot be read, in the words of their reader. -/
  settingsFault : String := "cannot be read"

/-- What a run leaves behind. -/
structure Output where
  text : String
  errors : String
  exitCode : UInt32
deriving DecidableEq, Repr

namespace Surroundings

def settings (s : Surroundings) : Except ConfigError Settings :=
  Settings.loadFrom s.formats s.files s.environment

/-- The report on the folder that the settings name. -/
def report (s : Surroundings) (settings : Settings) : Report :=
  let folder := Report.folderOf settings
  Report.ofItems ⟨s.form, settings⟩ folder (s.itemsIn? folder)

/-- The log under the filter of the environment, or else that of the settings. -/
def writer (s : Surroundings) (settings : Settings) : LogWriter :=
  s.log (s.filter?.getD settings.logFilter)

/-- Reads the settings and reports on the folder that they name. -/
def output (s : Surroundings) : Output :=
  match s.settings with
  | .error e => ⟨"", (Failure.config e).messageWith s.settingsFault ++ "\n", 1⟩
  | .ok settings =>
    let report := s.report settings
    ⟨report.textWith (s.writer settings), "", report.exitCode⟩

/-- Nothing but a folder with files that can all be read, and a silent log. -/
def ofFolder (folder : Folder) (environment : List (String × String)) : Surroundings where
  files name := (folder.lookup name).map some
  environment
  itemsIn? := folder.itemsIn?

end Surroundings

/-- The report that is made in a folder with nothing around it. -/
def Report.run (folder : Folder) (environment : List (String × String)) :
    Except ConfigError Report :=
  let s := Surroundings.ofFolder folder environment
  s.settings.map s.report

end HyperSchema
