/-
The built-in fixers.

* `Options`: what can be chosen about them;
* `catalog`: all of them, in the order in which they are registered.
-/
import LintRepair.Rules.Binding
import LintRepair.Rules.Brace
import LintRepair.Rules.Comma
import LintRepair.Rules.Console
import LintRepair.Rules.Loop
import LintRepair.Rules.Quote
import LintRepair.Rules.Semicolon
import LintRepair.Rules.Template
import LintRepair.Rules.Ternary
import LintRepair.Rules.Unused

namespace LintRepair.Rules

open Check Repair

/-- What can be chosen about the built-in fixers. -/
structure Options where
  /-- What becomes of a console call. -/
  console : Console.Mode := .comment
  /-- Whether `no-var` declares a name that is never written with `const`. -/
  preferConst : Bool := true
  deriving DecidableEq, Repr

/-- A fixer whose edit stays within a line or so. -/
def simple (accepts : Acceptor) (kind rule description : String) (m : Method) : Fixer :=
  m.fixer accepts kind rule "simple" description

/-- A fixer whose edit needs the structure of the program. -/
def complex (accepts : Acceptor) (kind rule description : String) (m : Method) : Fixer :=
  m.fixer accepts kind rule "complex" description

/-- The built-in fixers, one for each rule. -/
def catalog (accepts : Acceptor) (o : Options) : List Fixer :=
  [simple accepts "SemiFixer" "semi"
      "Insert or remove statement-terminating semicolons" Semicolon.semi,
    simple accepts "NoExtraSemiFixer" "no-extra-semi"
      "Remove unnecessary semicolons" Semicolon.noExtraSemi,
    simple accepts "NoTrailingSpacesFixer" "no-trailing-spaces"
      "Remove trailing whitespace" Whitespace.noTrailingSpaces,
    simple accepts "EolLastFixer" "eol-last"
      "Ensure the file ends with a single newline" Whitespace.eolLast,
    simple accepts "QuotesFixer" "quotes"
      "Convert string literals to the configured quote style" Quote.quotes,
    simple accepts "EqeqeqFixer" "eqeqeq"
      "Use strict equality operators" Operator.eqeqeq,
    simple accepts "CommaDangleFixer" "comma-dangle"
      "Add or remove trailing commas" Comma.commaDangle,
    simple accepts "NoConsoleFixer" "no-console"
      "Comment out or remove console calls" (Console.noConsole o.console),
    simple accepts "SpaceBeforeBlocksFixer" "space-before-blocks"
      "Normalize the space before opening braces" Whitespace.spaceBeforeBlocks,
    simple accepts "NoPlusplusFixer" "no-plusplus"
      "Replace increment and decrement operators with compound assignment"
      Operator.noPlusplus,
    simple accepts "BraceStyleFixer" "brace-style"
      "Place braces in one-true-brace style" Brace.braceStyle,
    complex accepts "IndentFixer" "indent"
      "Correct line indentation" Whitespace.indent,
    complex accepts "NoVarFixer" "no-var"
      "Replace var with let or const" (Binding.noVar o.preferConst),
    complex accepts "PreferConstFixer" "prefer-const"
      "Declare never-reassigned bindings with const" Binding.preferConst,
    complex accepts "PreferForOfFixer" "prefer-for-of"
      "Convert counted loops over arrays to for...of" Loop.preferForOf,
    complex accepts "PreferTemplateFixer" "prefer-template"
      "Replace string concatenation with template literals" Template.preferTemplate,
    complex accepts "NoTernaryFixer" "no-ternary"
      "Expand conditional expressions into if/else statements" Ternary.noTernary,
    complex accepts "CurlyFixer" "curly"
      "Add braces around control statement bodies" Brace.curly,
    complex accepts "NoUnusedVarsFixer" "no-unused-vars"
      "Remove unused variables, parameters and functions" Unused.noUnusedVars]

/-- The built-in fixer of a rule. -/
def builtin? (accepts : Acceptor) (o : Options) (rule : String) : Option Fixer :=
  (catalog accepts o).find? (·.rule == rule)

end LintRepair.Rules
