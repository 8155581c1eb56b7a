import Turnstile.Host.FileTree
import Turnstile.Number.Decimal
import Turnstile.Timespan

/-!
# What can be wrong with a definition

A definition is refused for one reason, the first that is found. `Fault` names the reasons, and
`ConfigError.message` is the one place where they are put into words.
-/

namespace Turnstile

/-- A field of a definition that can hold a bad value. -/
inductive Setting where
  | parameters
  | timeout
  | limitLines
  | limitChars
  | contextLines
  | grep
  | remove
  | startupWait
  | startupPort
  | workdir
  deriving DecidableEq, Repr

/-- A field as it is written in a definition. -/
def Setting.name : Setting → String
  | .parameters => "parameters"
  | .timeout => "timeout"
  | .limitLines => "output_filter.limit_lines"
  | .limitChars => "output_filter.limit_chars"
  | .contextLines => "output_filter.grep_context_lines"
  | .grep => "output_filter.grep"
  | .remove => "output_filter.remove_from_output"
  | .startupWait => "startup_wait"
  | .startupPort => "startup_wait_port"
  | .workdir => "command_workdir"

/-- Why a value is refused. -/
inductive ValueFault where
  | notANumber (text : String)
  | negative (x : Binary64)
  | span (e : Timespan.RangeError)
  | notACount (x : Binary64)
  | zero
  | notAPort (n : Nat)
  /-- The default of a parameter is an array or an object. -/
  | nestedDefault (parameter : String)
  | relativePath (path : String)
  | homeUnknown
  deriving DecidableEq, Repr

/-- What a value that stands for a parameter must be. -/
def scalarExpected : String := "expected a string, number or boolean"

def ValueFault.message : ValueFault → String
  | .notANumber text => "`" ++ text ++ "` is not a number"
  | .negative x => FloatLayout.plain.render x ++ " is negative"
  | .span e => e.message
  | .notACount x => "expected a non-negative integer, got " ++ FloatLayout.plain.render x
  | .zero => "must be greater than zero"
  | .notAPort n => toString n ++ " is not a TCP port"
  | .nestedDefault name => "default of `" ++ name ++ "`: " ++ scalarExpected
  | .relativePath path => "`" ++ path ++ "` is not an absolute path"
  | .homeUnknown => "home directory is unknown"

/-- Why a definition is refused. -/
inductive Fault where
  /-- It is not written in the right form. -/
  | malformed
  | emptyCommand
  | badValue (field : Setting) (fault : ValueFault)
  | badRegex (field : Setting)
  /-- A placeholder of the command is not declared. -/
  | undeclared (name : String)
  /-- A declared parameter does not occur in the command. -/
  | unused (name : String)
  | duplicate (name : String)
  deriving DecidableEq, Repr

/-- Why a tool is not to be had. -/
inductive ConfigError where
  | unreadable (path : String) (cause : FileError)
  | refused (tool : String) (fault : Fault)
  deriving DecidableEq, Repr

def Fault.message (tool : String) : Fault → String
  | .malformed => "failed to parse tool definition `" ++ tool ++ "`"
  | .emptyCommand => "tool `" ++ tool ++ "`: `command` must not be empty"
  | .badValue field fault =>
    "tool `" ++ tool ++ "`: invalid `" ++ field.name ++ "`: " ++ fault.message
  | .badRegex field => "tool `" ++ tool ++ "`: invalid regex in `" ++ field.name ++ "`"
  | .undeclared name =>
    "tool `" ++ tool ++ "`: `%" ++ name ++
      "%` is used in `command` but not declared in `parameters`"
  | .unused name =>
    "tool `" ++ tool ++ "`: parameter `" ++ name ++ "` is declared but never used in `command`"
  | .duplicate name =>
    "tool `" ++ tool ++ "`: parameter `" ++ name ++ "` is declared more than once"

def ConfigError.message : ConfigError → String
  | .unreadable path cause => "failed to read tool definition " ++ path ++ ": " ++ cause.message
  | .refused tool fault => fault.message tool

end Turnstile
