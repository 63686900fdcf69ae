/-
The configuration of a run.

* `Config`: the settings, with their defaults;
* `Config.ofFields`: the settings that given fields make, checked one after
  another;
* `Fault`: why there is no configuration.

The settings that only switch something on or off may hold any value, which
then counts as true or false.
-/
import LintRepair.Json.Whole
import LintRepair.Number.Literal
import LintRepair.Rules.Console
import LintRepair.Text.Utf8

namespace LintRepair.Config

open Text Json

/-- The settings of a run. -/
structure Settings where
  /-- Whether diagnostics are asked for anew between the waves of a run. -/
  relintAfterEachFix : Value := .bool true
  /-- How many repairs make a wave. -/
  relintBatchSize : Whole := 5
  /-- How many seconds a linter may take. -/
  relintTimeout : Quantity := .fraction 10.0
  /-- The name under which a linter sees the text. -/
  fileName : String := "temp.js"
  /-- Whether a run stops after a repair that broke the program. -/
  haltOnSyntaxFailure : Value := .bool true
  consoleMode : Rules.Console.Mode := .comment
  /-- Whether `no-var` declares a name that is never written with `const`. -/
  preferConst : Value := .bool true
  /-- The rules that are registered but switched off. -/
  disabledRules : List String := []
  /-- How many records of repairs are kept. -/
  historyLimit : Whole := 100
  /-- How many contexts are kept. -/
  cacheSize : Whole := 1000
  /-- The command that runs a linter. -/
  relintCommand : Option String := none

/-- The names of the settings, in the order in which they are listed. -/
def names : List String :=
  ["relint_after_each_fix", "relint_batch_size", "relint_timeout", "file_name",
    "halt_on_syntax_failure", "no_console_mode", "prefer_const", "disabled_rules",
    "history_limit", "cache_size", "relint_command"]

/-- Why there is no configuration. -/
inductive Fault
  | batchSize
  | timeout
  | fileName
  | consoleMode
  | disabledRules
  | historyLimit
  | cacheSize
  | emptyCommand
  /-- A variable holds no flag. -/
  | notFlag (name value : String)
  /-- A variable holds no whole number. -/
  | notWhole (value : String)
  /-- A variable holds no number. -/
  | notReal (value : String)
  /-- A whole number has too many digits. -/
  | tooLong (digits : Nat)
  /-- Values in a configuration file are nested too deeply. -/
  | tooDeep
  /-- A value of this kind lacks what is asked of it. -/
  | lacks (kind member : String)
  /-- No setting has this name. -/
  | unknownName (name : String)
  /-- A configuration file is no text. -/
  | notText (fault : Utf8.Fault)
  deriving DecidableEq, Repr

/-- What sort of mistake a fault is. -/
inductive Mistake
  /-- A setting has a value that is not admitted. -/
  | value
  /-- A value of the wrong kind came to light only while it was used. -/
  | kind
  /-- A setting was given that does not exist. -/
  | name
  /-- A value is nested too deeply to be read. -/
  | depth
  deriving DecidableEq, Repr

/-- The sort of mistake that a fault is. -/
def Fault.mistake : Fault → Mistake
  | .lacks _ _ => .kind
  | .unknownName _ => .name
  | .tooDeep => .depth
  | _ => .value

/-- The wording of a fault. -/
def Fault.message : Fault → String
  | .batchSize => "relint_batch_size must be a positive integer"
  | .timeout => "relint_timeout must be a positive number"
  | .fileName => "file_name must be a non-empty string"
  | .consoleMode => "no_console_mode must be one of comment, remove"
  | .disabledRules => "disabled_rules must be a list of rule ids"
  | .historyLimit => "history_limit must be a positive integer"
  | .cacheSize => "cache_size must be a positive integer"
  | .emptyCommand => "relint_command must not be empty"
  | .notFlag name value => name ++ " must be a boolean, got '" ++ value ++ "'"
  | .notWhole value =>
    "invalid literal for int() with base 10: " ++ String.ofList ((quoted value).toList.take 200)
  | .notReal value => "could not convert string to float: " ++ quoted value
  | .tooLong digits => Number.tooLongText digits
  | .tooDeep => "maximum recursion depth exceeded"
  | .lacks kind member => "'" ++ kind ++ "' object has no attribute '" ++ member ++ "'"
  | .notText fault => fault.message
  | .unknownName name =>
    "JsmendConfig.__init__() got an unexpected keyword argument '" ++ name ++ "'"

/-! ### Checking settings -/

/-- A setting that is a positive whole number. -/
def positive (fault : Fault) (v : Value) : Except Fault Whole :=
  match Whole.ofJson? v with
  | some w => if w.value < 1 then .error fault else .ok w
  | none => .error fault

/-- A setting that is a positive number of seconds. -/
def duration (v : Value) : Except Fault Quantity :=
  match Quantity.ofJson? v with
  | some s => if s.atMost 0 then .error .timeout else .ok s
  | none => .error .timeout

/-- A setting that is a name. -/
def nonEmpty (fault : Fault) : Value → Except Fault String
  | .string s => if s.isEmpty then .error fault else .ok s
  | _ => .error fault

/-- The setting of what becomes of a console call. -/
def mode : Value → Except Fault Rules.Console.Mode
  | .string w =>
    match Rules.Console.Mode.ofWord? w with
    | some m => .ok m
    | none => .error .consoleMode
  | _ => .error .consoleMode

/-- The setting of the rules that are switched off. -/
def rules : Value → Except Fault (List String)
  | .array items => items.mapM (nonEmpty .disabledRules)
  | _ => .error .disabledRules

/-- The setting of a command. -/
def command : Value → Except Fault (Option String)
  | .null => .ok none
  | .string s => if (trim s.toList).isEmpty then .error .emptyCommand else .ok (some s)
  | v => .error (.lacks v.kind "strip")

/-- A checked setting, or its default where the field is missing. -/
def checked {α : Type} (fs : Fields) (name : String) (standard : α)
    (check : Value → Except Fault α) : Except Fault α :=
  match Fields.get? fs name with
  | some v => check v
  | none => .ok standard

/-- The settings that fields make. -/
def ofFields (fs : Fields) : Except Fault Settings := do
  match fs.find? fun f => !names.contains f.1 with
  | some f => throw (.unknownName f.1)
  | none => pure ()
  let standard : Settings := {}
  let relintBatchSize ← checked fs "relint_batch_size" standard.relintBatchSize
    (positive .batchSize)
  let relintTimeout ← checked fs "relint_timeout" standard.relintTimeout duration
  let fileName ← checked fs "file_name" standard.fileName (nonEmpty .fileName)
  let consoleMode ← checked fs "no_console_mode" standard.consoleMode mode
  let disabledRules ← checked fs "disabled_rules" standard.disabledRules rules
  let historyLimit ← checked fs "history_limit" standard.historyLimit (positive .historyLimit)
  let cacheSize ← checked fs "cache_size" standard.cacheSize (positive .cacheSize)
  let relintCommand ← checked fs "relint_command" standard.relintCommand command
  let switch (name : String) (standard : Value) : Value :=
    (Fields.get? fs name).getD standard
  return { relintBatchSize, relintTimeout, fileName, consoleMode, disabledRules
           historyLimit, cacheSize, relintCommand
           relintAfterEachFix := switch "relint_after_each_fix" standard.relintAfterEachFix
           haltOnSyntaxFailure := switch "halt_on_syntax_failure" standard.haltOnSyntaxFailure
           preferConst := switch "prefer_const" standard.preferConst }

/-- The settings as fields. -/
def Settings.toFields (s : Settings) : Fields :=
  [("relint_after_each_fix", s.relintAfterEachFix),
    ("relint_batch_size", s.relintBatchSize.toJson),
    ("relint_timeout", s.relintTimeout.toJson),
    ("file_name", .string s.fileName),
    ("halt_on_syntax_failure", s.haltOnSyntaxFailure),
    ("no_console_mode", .string s.consoleMode.word),
    ("prefer_const", s.preferConst),
    ("disabled_rules", .array (s.disabledRules.map .string)),
    ("history_limit", s.historyLimit.toJson),
    ("cache_size", s.cacheSize.toJson),
    ("relint_command", (s.relintCommand.map .string).getD .null)]

end LintRepair.Config
