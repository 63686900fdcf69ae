/-
Where the settings of a run come from.

* `nearest?`: the nearest file of a name on the way up from a directory;
* `ofPlainFile`, `ofProjectFile`, `ofEnvironment`: the layers;
* `load`: all layers together. An option given to the program goes before a
  variable of the environment, that before the plain file, and that before the
  project file; a setting that none of them makes has its default.

A configuration file that is no TOML document counts as empty; one that is no
text at all, or goes beyond the limits of its reader, is a fault.
-/
import LintRepair.Config.Basic
import LintRepair.Disk
import LintRepair.Number.Literal
import LintRepair.Toml.Reader

namespace LintRepair.Config

open Text Json Utf8

/-! ### Configuration files -/

/-- The name of the plain configuration file. -/
def plainFileName : String := ".jsmendrc"

/-- The name of the project file. -/
def projectFileName : String := "pyproject.toml"

/-- The directories from one up to the outermost. -/
def ancestors (dir : Location) : List Location :=
  (List.range (dir.length + 1)).reverse.map dir.take

/-- The nearest file of a name on the way up from a directory. -/
def nearest? (disk : Disk) (name : String) (dir : Location) : Option (Location × Bytes) :=
  (ancestors dir).findSome? fun d => (disk.file? (d ++ [name])).map (d ++ [name], ·)

/-- The fields of a document; none if it is malformed. -/
def documentFields (t : Text) : Except Fault Fields :=
  match Toml.read t with
  | .ok fs => .ok fs
  | .error .malformed => .ok []
  | .error (.tooLong digits) => .error (.tooLong digits)
  | .error .tooDeep => .error .tooDeep

/-- The text of a configuration file. -/
def fileText (bs : Bytes) : Except Fault Text :=
  (Utf8.decode bs).mapError .notText

/-- The fields that are settings. -/
def known (fs : Fields) : Fields := fs.filter fun f => names.contains f.1

/-- The settings of a plain file. -/
def ofPlainFile (t : Text) : Except Fault Fields := (documentFields t).map known

/-- The settings of a project file, which stand in a table of their own among
those of the tools. -/
def ofProjectFile (t : Text) : Except Fault Fields := do
  match (Fields.get? (← documentFields t) "tool").getD (.object []) with
  | .object tools =>
    match (Fields.get? tools "jsmend").getD (.object []) with
    | .object fs => return known fs
    | v => throw (.lacks v.kind "items")
  | v => throw (.lacks v.kind "get")

/-! ### Variables of the environment -/

/-- A flag as a variable spells it. -/
def flag (name value : String) : Except Fault Value :=
  let word := String.ofList (lower (trim value.toList))
  if ["1", "true", "yes", "on"].contains word then .ok (.bool true)
  else if ["0", "false", "no", "off"].contains word then .ok (.bool false)
  else .error (.notFlag name value)

/-- A whole number as a variable spells it. -/
def whole (value : String) : Except Fault Value :=
  match Number.whole value.toList with
  | .ok n => .ok (.int n)
  | .error .malformed => .error (.notWhole value)
  | .error (.tooLong digits) => .error (.tooLong digits)

/-- A number as a variable spells it. -/
def real (value : String) : Except Fault Value :=
  match Number.real? value.toList with
  | some x => .ok (.float x)
  | none => .error (.notReal value)

/-- The parts of a text between commas. -/
def commaParts (t : Text) : List Text := t.splitOn ','

/-- Names between commas; blank ones do not count. -/
def nameList (value : String) : Value :=
  .array ((((commaParts value.toList).map trim).filter (!·.isEmpty)).map
    fun t => .string (String.ofList t))

/-- The name of the variable for a setting. -/
def variableName (name : String) : String :=
  "JSMEND_" ++ String.ofList (name.toList.map Char.toUpper)

/-- The value that a variable gives to a setting. -/
def convert (name value : String) : Except Fault Value :=
  let variableName := variableName name
  match name with
  | "relint_after_each_fix" | "halt_on_syntax_failure" | "prefer_const" =>
    flag variableName value
  | "relint_batch_size" | "history_limit" | "cache_size" => whole value
  | "relint_timeout" => real value
  | "disabled_rules" => .ok (nameList value)
  | _ => .ok (.string value)

/-- The settings of the environment. -/
def ofEnvironment (environment : Keyed String) : Except Fault Fields := do
  let found ← names.mapM fun name => match environment.lookup (variableName name) with
    | some value => do return some (name, ← convert name value)
    | none => return none
  return found.filterMap id

/-! ### All layers -/

/-- Fields with those of another layer over them; null leaves a field as it
was. -/
def overlay (below above : Fields) : Fields :=
  above.foldl (fun fs f => match f.2 with
    | .null => fs
    | v => Fields.put f.1 v fs) below

/-- The fields of all layers. -/
def merged (disk : Disk) (dir : Location) (environment : Keyed String) (options : Fields) :
    Except Fault Fields := do
  let project ← match nearest? disk projectFileName dir with
    | some (_, bs) => do ofProjectFile (← fileText bs)
    | none => pure []
  let plain ← match nearest? disk plainFileName dir with
    | some (_, bs) => do ofPlainFile (← fileText bs)
    | none => pure []
  let above ← ofEnvironment environment
  return overlay (overlay (overlay (overlay [] project) plain) above) (known options)

/-- The settings of a run in a directory. -/
def load (disk : Disk) (dir : Location) (environment : Keyed String) (options : Fields) :
    Except Fault Settings := do
  ofFields (← merged disk dir environment options)

end LintRepair.Config
