/-
The fixers that a configuration asks for: all built-in ones, with those of the
disabled rules switched off.
-/
import LintRepair.Config.Basic
import LintRepair.Repair.Registry
import LintRepair.Rules.Catalog

namespace LintRepair.Config

open Check Repair

/-- What the settings choose about the built-in fixers. -/
def Settings.options (s : Settings) : Rules.Options :=
  { console := s.consoleMode, preferConst := s.preferConst.isTrue }

/-- The registry of the built-in fixers under the settings. -/
def Settings.registry (accepts : Acceptor) (s : Settings) : Registry :=
  (Registry.empty.registerAll (Rules.catalog accepts s.options)).disableAll s.disabledRules

/-- The rules to be switched off that no fixer is registered for. -/
def Settings.unknownRules (accepts : Acceptor) (s : Settings) : List String :=
  s.disabledRules.filter fun rule => !(s.registry accepts).isRegistered rule

end LintRepair.Config
