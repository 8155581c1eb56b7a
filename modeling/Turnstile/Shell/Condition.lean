import Turnstile.Host.FileTree
import Turnstile.Shell.Arithmetic
import Turnstile.Shell.Syntax

/-!
# Conditions

The conditions of the command `test`: texts and numbers are compared, files are looked at, and
conditions are joined. Up to four arguments the number of arguments decides what they mean, so that
a text that looks like an operator can be compared; beyond that they are read by a grammar.
-/

namespace Turnstile.Shell

/-- What is wrong with a condition. -/
inductive ConditionFault where
  | illegalNumber (s : String)
  | unexpectedOperator (s : String)
  | argumentExpected (s : String)
  | closingParenthesis
  deriving DecidableEq, Repr

def ConditionFault.message : ConditionFault → String
  | .illegalNumber s => "Illegal number: " ++ s
  | .unexpectedOperator s => s ++ ": unexpected operator"
  | .argumentExpected s => s ++ ": argument expected"
  | .closingParenthesis => "closing paren expected"

namespace Condition

/-- What conditions about files depend on. -/
structure Scene where
  files : FileTree
  cwd : Place

def isUnary (op : String) : Bool :=
  ["-b", "-c", "-d", "-e", "-f", "-g", "-G", "-h", "-k", "-L", "-n", "-O", "-p", "-r", "-s", "-S",
    "-t", "-u", "-w", "-x", "-z"].contains op

def isBinary (op : String) : Bool :=
  ["=", "!=", "<", ">", "-eq", "-ne", "-gt", "-ge", "-lt", "-le", "-nt", "-ot", "-ef"].contains op

/-- The number that a text writes in base ten, with blanks around it. -/
def number (s : String) : Except ConditionFault Int :=
  let isSpace := fun c => c = ' ' || c = '\t' || c = '\n'
  let cs := ((s.toList.dropWhile isSpace).reverse.dropWhile isSpace).reverse
  let (negative, digits) := match cs with
    | '-' :: rest => (true, rest)
    | '+' :: rest => (false, rest)
    | cs => (false, cs)
  if digits.isEmpty || !digits.all Char.isDigit then .error (.illegalNumber s)
  else
    let n := ((Arithmetic.inBase? 10 digits).getD 0 : Nat)
    .ok (if negative then -n else n)

/-- The node that a path leads to. -/
def node? (w : Scene) (path : String) : Option (Place × FileNode) :=
  (w.files.find w.cwd (Utf8.decodeLossy (toBytes path))).toOption

/-- The files that are no files of the tree. -/
def devices : List String := ["/dev/null", "/dev/zero"]

/-- A condition on one operand. No file is executable. -/
def unary (w : Scene) (op operand : String) : Bool :=
  let isDevice := devices.contains operand
  match op with
  | "-n" => !operand.isEmpty
  | "-z" => operand.isEmpty
  | "-e" | "-r" | "-w" => isDevice || (node? w operand).isSome
  | "-O" | "-G" => (node? w operand).isSome
  | "-d" => (node? w operand).any (·.2 == .directory)
  | "-x" => (node? w operand).any (·.2 == .directory)
  | "-f" => !isDevice && (node? w operand).any (·.2 != .directory)
  | "-s" => (node? w operand).any fun n => match n.2 with
    | .file content => !content.isEmpty
    | .directory => true
  | "-c" => isDevice
  | _ => false

/-- A condition on two operands. -/
def binary (w : Scene) (a op b : String) : Except ConditionFault Bool :=
  let compare := fun (f : Int → Int → Bool) => do return f (← number a) (← number b)
  match op with
  | "=" => .ok (a == b)
  | "!=" => .ok (a != b)
  | "<" => .ok (a < b)
  | ">" => .ok (b < a)
  | "-eq" => compare (· == ·)
  | "-ne" => compare (· != ·)
  | "-gt" => compare (· > ·)
  | "-ge" => compare (· ≥ ·)
  | "-lt" => compare (· < ·)
  | "-le" => compare (· ≤ ·)
  | "-ef" => .ok ((node? w a).isSome && (node? w a).map (·.1) == (node? w b).map (·.1))
  | "-nt" => .ok ((node? w a).isSome && (node? w b).isNone)
  | "-ot" => .ok ((node? w a).isNone && (node? w b).isSome)
  | op => .error (.unexpectedOperator op)

mutual

/-- Conditions joined by `-o`, with what is left of the arguments. -/
def disjunction (w : Scene) : Nat → List String → Except ConditionFault (Bool × List String)
  | 0, _ => .error (.argumentExpected "")
  | fuel + 1, args => do
    match ← conjunction w fuel args with
    | (a, "-o" :: rest) =>
      let (b, rest) ← disjunction w fuel rest
      return (a || b, rest)
    | r => return r

/-- Conditions joined by `-a`. -/
def conjunction (w : Scene) : Nat → List String → Except ConditionFault (Bool × List String)
  | 0, _ => .error (.argumentExpected "")
  | fuel + 1, args => do
    match ← negation w fuel args with
    | (a, "-a" :: rest) =>
      let (b, rest) ← conjunction w fuel rest
      return (a && b, rest)
    | r => return r

/-- A condition with exclamation marks in front. -/
def negation (w : Scene) : Nat → List String → Except ConditionFault (Bool × List String)
  | 0, _ => .error (.argumentExpected "")
  | fuel + 1, args => do
    match args with
    | "!" :: rest =>
      let (a, rest) ← negation w fuel rest
      return (!a, rest)
    | args => primary w fuel args

/-- A single condition. -/
def primary (w : Scene) : Nat → List String → Except ConditionFault (Bool × List String)
  | 0, _ => .error (.argumentExpected "")
  | fuel + 1, args => do
    match args with
    | [] => throw (.argumentExpected "")
    | "(" :: rest =>
      match ← disjunction w fuel rest with
      | (a, ")" :: rest) => return (a, rest)
      | _ => throw .closingParenthesis
    | a :: op :: b :: rest =>
      if isBinary op then return (← binary w a op b, rest)
      else if isUnary a then return (unary w a op, b :: rest)
      else return (!a.isEmpty, op :: b :: rest)
    | [a, b] =>
      if isUnary a then return (unary w a b, [])
      else if isBinary b then throw (.argumentExpected b)
      else return (!a.isEmpty, [b])
    | [a] => if isUnary a && a != "-t" then throw (.argumentExpected a) else return (!a.isEmpty, [])

end

/-- Reads all arguments by the grammar. If some are left, the last one that was read is to blame. -/
def byGrammar (w : Scene) (args : List String) : Except ConditionFault Bool := do
  let (a, rest) ← disjunction w (4 * args.length + 4) args
  if rest.isEmpty then return a
  else throw (.unexpectedOperator ((args.take (args.length - rest.length)).getLastD ""))

/-- Whether a condition holds. -/
def evaluate (w : Scene) : List String → Except ConditionFault Bool
  | [] => .ok false
  | [a] => .ok (!a.isEmpty)
  | ["!", a] => .ok a.isEmpty
  | ["(", a, ")"] => .ok (!a.isEmpty)
  | ["!", a, b] =>
    if isBinary a then binary w "!" a b
    else if isUnary a then .ok (!unary w a b)
    else byGrammar w ["!", a, b]
  | [a, op, b] => if isBinary op then binary w a op b else byGrammar w [a, op, b]
  | ["!", a, op, b] =>
    if isBinary op then do return !(← binary w a op b) else byGrammar w ["!", a, op, b]
  | args => byGrammar w args

end Condition

end Turnstile.Shell
