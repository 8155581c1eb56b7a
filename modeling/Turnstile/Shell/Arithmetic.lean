import Turnstile.Number.Decimal
import Turnstile.Number.Word
import Turnstile.Shell.Variables

/-!
# Arithmetic of the shell

Expressions over signed 64-bit words, which wrap around. `Arithmetic.evaluate` reads an expression
and computes it; assignments in it change variables, and what a logical operator or a choice does
not need is not computed.
-/

namespace Turnstile.Shell

/-- An arithmetic expression. -/
inductive Arithmetic where
  | number (n : Int)
  | variable (name : String)
  | unary (op : String) (e : Arithmetic)
  | binary (op : String) (a b : Arithmetic)
  | choice (test yes no : Arithmetic)
  /-- Assigns a value, combined with the old one by an operator if there is one. -/
  | assign (name : String) (op : Option String) (e : Arithmetic)
  deriving Repr, Inhabited

namespace Arithmetic

/-- Why an expression has no value. -/
inductive Fault where
  | noPrimary
  | noEnd
  | noParenthesis
  | noColon
  | divisionByZero
  | notANumber (text : String)
  | readOnly (name : String)
  deriving DecidableEq, Repr

/-- What is said about an expression without value. -/
def Fault.message (expression : String) : Fault → String
  | .noPrimary => inExpression "expecting primary"
  | .noEnd => inExpression "expecting EOF"
  | .noParenthesis => inExpression "expecting ')'"
  | .noColon => inExpression "expecting ':'"
  | .divisionByZero => inExpression "division by zero"
  | .notANumber text => "Illegal number: " ++ text
  | .readOnly name => name ++ ": is read only"
where
  inExpression (s : String) := "arithmetic expression: " ++ s ++ ": \"" ++ expression ++ "\""

/-- A token of an expression. -/
inductive Token where
  | number (n : Int)
  | name (s : String)
  | op (s : String)
  deriving DecidableEq, Repr

/-- The value of a digit in any base up to 16. -/
def digit? (c : Char) : Option Nat :=
  if c.isDigit then some (c.toNat - '0'.toNat)
  else if 'a' ≤ c ∧ c ≤ 'f' then some (c.toNat - 'a'.toNat + 10)
  else if 'A' ≤ c ∧ c ≤ 'F' then some (c.toNat - 'A'.toNat + 10)
  else none

/-- The value of digits in a base; none if there are others. -/
def inBase? (base : Nat) (cs : List Char) : Option Nat :=
  cs.foldlM (fun n c => do
    let d ← digit? c
    if d < base then return n * base + d else none) 0

/-- A number without sign: hexadecimal behind `0x`, octal behind `0`, else decimal. -/
def numeral? (cs : List Char) : Option Nat :=
  match cs with
  | '0' :: 'x' :: rest | '0' :: 'X' :: rest => if rest.isEmpty then none else inBase? 16 rest
  | '0' :: rest => inBase? 8 rest
  | [] => none
  | cs => inBase? 10 cs

/-- A number with an optional sign and blanks around it. An empty text is zero. -/
def value? (s : String) : Option Int :=
  let isBlank := fun c => c = ' ' || c = '\t' || c = '\n'
  match ((s.toList.dropWhile isBlank).reverse.dropWhile isBlank).reverse with
  | [] => some 0
  | '-' :: rest => (numeral? rest).map fun n => Word.wrap (-n)
  | '+' :: rest => (numeral? rest).map fun n => Word.wrap n
  | cs => (numeral? cs).map fun n => Word.wrap n

/-- The operators, the longer ones first. -/
def operators : List String :=
  ["<<=", ">>=", "<<", ">>", "<=", ">=", "==", "!=", "&&", "||", "+=", "-=", "*=", "/=", "%=", "&=",
    "^=", "|=", "+", "-", "*", "/", "%", "<", ">", "!", "~", "&", "^", "|", "=", "?", ":", "(", ")"]

/-- The tokens of an expression. -/
def tokens? : Nat → List Char → Option (List Token)
  | 0, _ => none
  | fuel + 1, cs =>
    match cs with
    | [] => some []
    | c :: rest =>
      if c = ' ' || c = '\t' || c = '\n' then tokens? fuel rest
      else if c.isDigit then do
        let word := cs.takeWhile Char.isAlphanum
        return .number (Word.wrap (← numeral? word)) :: (← tokens? fuel (cs.drop word.length))
      else if c.isAlpha || c = '_' then do
        let word := cs.takeWhile fun c => c.isAlphanum || c = '_'
        return .name (String.ofList word) :: (← tokens? fuel (cs.drop word.length))
      else do
        let op ← operators.find? fun o => o.toList.isPrefixOf cs
        return .op op :: (← tokens? fuel (cs.drop op.length))

/-- How tightly a binary operator binds. -/
def precedence? : String → Option Nat
  | "||" => some 1
  | "&&" => some 2
  | "|" => some 3
  | "^" => some 4
  | "&" => some 5
  | "==" | "!=" => some 6
  | "<" | "<=" | ">" | ">=" => some 7
  | "<<" | ">>" => some 8
  | "+" | "-" => some 9
  | "*" | "/" | "%" => some 10
  | _ => none

/-- The operator that an assignment combines with; absent for a plain one. -/
def assignment? (op : String) : Option (Option String) :=
  if op == "=" then some none
  else if ["<<=", ">>=", "+=", "-=", "*=", "/=", "%=", "&=", "^=", "|="].contains op then
    some (some (String.ofList op.toList.dropLast))
  else none

mutual

/-- Reads an expression with assignments and choices. -/
def read : Nat → List Token → Except Fault (Arithmetic × List Token)
  | 0, _ => .error .noPrimary
  | fuel + 1, ts => do
    if let .name name :: .op op :: rest := ts then
      if let some combine := assignment? op then
        let (e, rest) ← read fuel rest
        return (.assign name combine e, rest)
    let (test, rest) ← readBinary fuel 1 ts
    match rest with
    | .op "?" :: rest =>
      let (yes, rest) ← read fuel rest
      match rest with
      | .op ":" :: rest =>
        let (no, rest) ← read fuel rest
        return (.choice test yes no, rest)
      | _ => throw .noColon
    | _ => return (test, rest)

/-- Reads operands joined by operators that bind at least as tightly as asked. -/
def readBinary : Nat → Nat → List Token → Except Fault (Arithmetic × List Token)
  | 0, _, _ => .error .noPrimary
  | fuel + 1, least, ts => do
    let (a, rest) ← readUnary fuel ts
    readOperators fuel least a rest

/-- Reads the operators and operands behind an operand. -/
def readOperators : Nat → Nat → Arithmetic → List Token → Except Fault (Arithmetic × List Token)
  | 0, _, _, _ => .error .noPrimary
  | fuel + 1, least, a, ts =>
    match ts with
    | .op op :: rest =>
      match precedence? op with
      | some p =>
        if least ≤ p then do
          let (b, rest) ← readBinary fuel (p + 1) rest
          readOperators fuel least (.binary op a b) rest
        else .ok (a, ts)
      | none => .ok (a, ts)
    | _ => .ok (a, ts)

/-- Reads an operand with the signs before it. -/
def readUnary : Nat → List Token → Except Fault (Arithmetic × List Token)
  | 0, _ => .error .noPrimary
  | fuel + 1, ts =>
    match ts with
    | .number n :: rest => .ok (.number n, rest)
    | .name name :: rest => .ok (.variable name, rest)
    | .op "(" :: rest => do
      let (e, rest) ← read fuel rest
      match rest with
      | .op ")" :: rest => return (e, rest)
      | _ => throw .noParenthesis
    | .op op :: rest =>
      if op == "-" || op == "+" || op == "!" || op == "~" then do
        let (e, rest) ← readUnary fuel rest
        return (.unary op e, rest)
      else .error .noPrimary
    | [] => .error .noPrimary

end

def ofBool (b : Bool) : Int := if b then 1 else 0

/-- The word whose bits are those of two words, combined bit by bit. -/
def bitwise (f : Nat → Nat → Nat) (a b : Int) : Int :=
  Word.wrap (f (Word.bits a) (Word.bits b))

/-- The value of an operator, the logical ones excepted. -/
def apply (op : String) (a b : Int) : Except Fault Int :=
  match op with
  | "+" => .ok (Word.wrap (a + b))
  | "-" => .ok (Word.wrap (a - b))
  | "*" => .ok (Word.wrap (a * b))
  | "/" => if b = 0 then .error .divisionByZero else .ok (Word.wrap (Int.tdiv a b))
  | "%" => if b = 0 then .error .divisionByZero else .ok (Word.wrap (Int.tmod a b))
  | "<" => .ok (ofBool (a < b))
  | "<=" => .ok (ofBool (a ≤ b))
  | ">" => .ok (ofBool (b < a))
  | ">=" => .ok (ofBool (b ≤ a))
  | "==" => .ok (ofBool (a = b))
  | "!=" => .ok (ofBool (a ≠ b))
  | "<<" => .ok (Word.wrap (a * Nat.pow 2 (b % 64).toNat))
  | ">>" => .ok (a.shiftRight (b % 64).toNat)
  | "&" => .ok (bitwise (· &&& ·) a b)
  | "^" => .ok (bitwise (· ^^^ ·) a b)
  | "|" => .ok (bitwise (· ||| ·) a b)
  | _ => .error .noPrimary

/-- The value of a variable. -/
def lookUp (vs : Variables) (name : String) : Except Fault Int :=
  let text := (vs.value? name).getD ""
  match value? text with
  | some n => .ok n
  | none => .error (.notANumber text)

/-- Computes an expression. -/
def compute (vs : Variables) : Arithmetic → Except Fault (Int × Variables)
  | .number n => .ok (n, vs)
  | .variable name => do return (← lookUp vs name, vs)
  | .unary op e => do
    let (n, vs) ← compute vs e
    let n := match op with
      | "-" => Word.wrap (-n)
      | "!" => ofBool (n = 0)
      | "~" => Word.wrap (-n - 1)
      | _ => n
    return (n, vs)
  | .binary op a b => do
    let (m, vs) ← compute vs a
    if op == "&&" && m = 0 then return (0, vs)
    if op == "||" && m ≠ 0 then return (1, vs)
    let (n, vs) ← compute vs b
    if op == "&&" || op == "||" then return (ofBool (n ≠ 0), vs)
    return (← apply op m n, vs)
  | .choice test yes no => do
    let (n, vs) ← compute vs test
    if n ≠ 0 then compute vs yes else compute vs no
  | .assign name combine e => do
    let (n, vs) ← compute vs e
    let n ← match combine with
      | none => pure n
      | some op => do apply op (← lookUp vs name) n
    if vs.isReadOnly name then throw (.readOnly name)
    return (n, vs.set name (toString n))

/-- Reads and computes an expression; an empty one is zero. -/
def evaluate (vs : Variables) (expression : String) : Except Fault (Int × Variables) := do
  let cs := expression.toList
  match tokens? (cs.length + 1) cs with
  | none => throw .noPrimary
  | some [] => return (0, vs)
  | some ts =>
    let (e, rest) ← read (4 * cs.length + 8) ts
    if !rest.isEmpty then throw .noEnd
    compute vs e

end Arithmetic

end Turnstile.Shell
