import Turnstile.Number.Decimal
import Turnstile.Toml.Basic

/-!
# The scalars of TOML

Readers for numbers, dates and strings. A reader of a whole token takes the token and answers with
its value; a reader of a string takes what follows the opening quote and answers with the text and
the rest of the input.
-/

namespace Turnstile.Toml

/-! ## Numbers -/

/-- The digits of a list in which single underscores may stand between digits; `none` unless the
list is such a group. -/
def digitGroup? (isDig : Char → Bool) : List Char → Option (List Char)
  | [] => none
  | [c] => if isDig c then some [c] else none
  | c :: '_' :: rest => if isDig c then (digitGroup? isDig rest).map (c :: ·) else none
  | c :: rest => if isDig c then (digitGroup? isDig rest).map (c :: ·) else none

/-- The value of a digit in a base up to sixteen. -/
def baseDigit? (base : Nat) (c : Char) : Option Nat :=
  let v :=
    if '0' ≤ c ∧ c ≤ '9' then some (c.toNat - '0'.toNat)
    else if 'a' ≤ c ∧ c ≤ 'f' then some (c.toNat - 'a'.toNat + 10)
    else if 'A' ≤ c ∧ c ≤ 'F' then some (c.toNat - 'A'.toNat + 10)
    else none
  v.filter (· < base)

/-- The number that a group of digits writes in a base. -/
def baseNumber? (base : Nat) (cs : List Char) : Option Nat :=
  (digitGroup? (fun c => (baseDigit? base c).isSome) cs).map fun ds =>
    ds.foldl (fun n c => n * base + (baseDigit? base c).getD 0) 0

/-- Splits off a sign; true is minus. -/
def splitSign : List Char → Bool × List Char
  | '-' :: rest => (true, rest)
  | '+' :: rest => (false, rest)
  | cs => (false, cs)

/-- The digits of a decimal whole number, which has no zero in front unless it is zero. -/
def wholeDigits? (cs : List Char) : Option (List Char) :=
  match cs with
  | '0' :: _ :: _ => none
  | _ => digitGroup? isDigit cs

/-- Integers are kept up to 128 bits; longer ones are refused. -/
def inIntegerRange (n : Int) : Bool := -(Nat.pow 2 127) ≤ n && n < Nat.pow 2 128

/-- The value of an integer token. -/
def readInteger? (cs : List Char) : Option Int :=
  let value : Option Int := match cs with
    | '0' :: 'x' :: rest => (baseNumber? 16 rest).map Int.ofNat
    | '0' :: 'o' :: rest => (baseNumber? 8 rest).map Int.ofNat
    | '0' :: 'b' :: rest => (baseNumber? 2 rest).map Int.ofNat
    | _ =>
      let (negative, body) := splitSign cs
      (wholeDigits? body).map fun ds =>
        let n : Int := natOfDigits ds
        if negative then -n else n
  value.filter inIntegerRange

/-- The exponent after its letter: a sign, and digits with or without zeros in front. -/
def readFloatExponent? (cs : List Char) : Option Int :=
  let (negative, body) := splitSign cs
  (digitGroup? isDigit body).map fun ds =>
    let n : Int := natOfDigits ds
    if negative then -n else n

/-- The value of a float token. A float has a fraction or an exponent or both; one beyond the
greatest finite number is refused. -/
def readTokenFloat? (cs : List Char) : Option Binary64 :=
  let (negative, body) := splitSign cs
  if body = ['i', 'n', 'f'] then some (.infinite negative)
  else if body = ['n', 'a', 'n'] then some .nan
  else do
    let isMark := fun c => c = '.' || c = 'e' || c = 'E'
    let whole ← wholeDigits? (body.takeWhile (!isMark ·))
    let rest := body.dropWhile (!isMark ·)
    let (fraction, rest) ← match rest with
      | '.' :: rest => do
        let isExp := fun c => c = 'e' || c = 'E'
        let ds ← digitGroup? isDigit (rest.takeWhile (!isExp ·))
        pure (ds, rest.dropWhile (!isExp ·))
      | _ => pure ([], rest)
    let exponent ← match rest with
      | [] => if fraction.isEmpty then none else pure 0
      | _ :: rest => readFloatExponent? rest
    let x := Binary64.ofDecimal negative (natOfDigits (whole ++ fraction))
      (exponent - (fraction.length : Int))
    match x with
    | .infinite _ => none
    | x => some x

/-! ## Dates and times -/

/-- The number that exactly `n` digits write, and the rest. -/
def fixedDigits? (n : Nat) (cs : List Char) : Option (Nat × List Char) :=
  let ds := cs.take n
  if ds.length = n && ds.all isDigit then some (natOfDigits ds, cs.drop n) else none

/-- The rest after an expected character. -/
def expectChar? (c : Char) : List Char → Option (List Char)
  | d :: rest => if c = d then some rest else none
  | [] => none

/-- The number of days of a month. -/
def daysInMonth (year month : Nat) : Nat :=
  if month = 2 then
    if year % 4 = 0 ∧ (year % 100 ≠ 0 ∨ year % 400 = 0) then 29 else 28
  else if month ∈ [4, 6, 9, 11] then 30 else 31

/-- A calendar date at the head of a list, and the rest. -/
def readDate? (cs : List Char) : Option (List Char × List Char) := do
  let (year, rest) ← fixedDigits? 4 cs
  let rest ← expectChar? '-' rest
  let (month, rest) ← fixedDigits? 2 rest
  let rest ← expectChar? '-' rest
  let (day, rest) ← fixedDigits? 2 rest
  if 1 ≤ month ∧ month ≤ 12 ∧ 1 ≤ day ∧ day ≤ daysInMonth year month then
    return (cs.take 10, rest)
  else none

/-- The fraction of a second as it is written back: nine digits at most, without zeros at the end.
-/
def fractionText (ds : List Char) : List Char :=
  let kept := ((ds.take 9).reverse.dropWhile (· = '0')).reverse
  if kept.isEmpty then [] else '.' :: kept

/-- A time of day at the head of a list, and the rest. The seconds may be left out. -/
def readTime? (cs : List Char) : Option (List Char × List Char) := do
  let (hour, rest) ← fixedDigits? 2 cs
  let rest ← expectChar? ':' rest
  let (minute, rest) ← fixedDigits? 2 rest
  if 23 < hour ∨ 59 < minute then none
  else match rest with
    | ':' :: rest =>
      let (second, rest) ← fixedDigits? 2 rest
      if 60 < second then none
      else match rest with
        | '.' :: rest =>
          let ds := rest.takeWhile isDigit
          if ds.isEmpty then none
          else return (cs.take 8 ++ fractionText ds, rest.dropWhile isDigit)
        | _ => return (cs.take 8, rest)
    | _ => return (cs.take 5, rest)

/-- The offset of a time at the end of a token. -/
def readOffset? : List Char → Option (List Char)
  | ['Z'] => some ['Z']
  | ['z'] => some ['Z']
  | sign :: rest => do
    if sign ≠ '+' ∧ sign ≠ '-' then none
    let (hour, rest') ← fixedDigits? 2 rest
    let rest' ← expectChar? ':' rest'
    let (minute, rest') ← fixedDigits? 2 rest'
    if rest'.isEmpty && hour ≤ 23 && minute ≤ 59 then return sign :: rest else none
  | [] => none

/-- The text of a token that is a date, a time, or both with or without an offset. -/
def readDatetime? (cs : List Char) : Option String :=
  match readDate? cs with
  | some (date, []) => some (String.ofList date)
  | some (date, c :: rest) =>
    if c = 'T' ∨ c = 't' ∨ c = ' ' then do
      let (time, rest) ← readTime? rest
      match rest with
      | [] => return String.ofList (date ++ 'T' :: time)
      | rest => return String.ofList (date ++ 'T' :: time ++ (← readOffset? rest))
    else none
  | none =>
    match readTime? cs with
    | some (time, []) => some (String.ofList time)
    | _ => none

/-- The value of a token that is no string, array or table. -/
def readToken? (cs : List Char) : Option Toml :=
  if cs = ['t', 'r', 'u', 'e'] then some (.boolean true)
  else if cs = ['f', 'a', 'l', 's', 'e'] then some (.boolean false)
  else match readInteger? cs with
    | some n => some (.integer n)
    | none => match readTokenFloat? cs with
      | some x => some (.float x)
      | none => (readDatetime? cs).map .datetime

/-! ## Strings -/

/-- True of the characters that may stand unescaped in strings and comments. -/
def isTextChar (c : Char) : Bool :=
  c = '\t' || (0x20 ≤ c.toNat && c.toNat ≠ 0x7F)

/-- The character with a number, unless the number is a surrogate or too great. -/
def charOfNat? (n : Nat) : Option Char :=
  if n < 0xD800 ∨ (0xE000 ≤ n ∧ n ≤ 0x10FFFF) then some (Char.ofNat n) else none

/-- The character that exactly `n` hexadecimal digits name, and the rest. -/
def hexEscape? (n : Nat) (cs : List Char) : Option (Char × List Char) := do
  let ds := cs.take n
  if ds.length ≠ n then none
  let value ← ds.foldlM (fun acc c => (baseDigit? 16 c).map (acc * 16 + ·)) 0
  return (← charOfNat? value, cs.drop n)

/-- The character after a backslash, and the rest. -/
def readEscape? : List Char → Option (Char × List Char)
  | 'b' :: rest => some ('\x08', rest)
  | 't' :: rest => some ('\t', rest)
  | 'n' :: rest => some ('\n', rest)
  | 'f' :: rest => some ('\x0c', rest)
  | 'r' :: rest => some ('\r', rest)
  | 'e' :: rest => some ('\x1b', rest)
  | '"' :: rest => some ('"', rest)
  | '\\' :: rest => some ('\\', rest)
  | 'x' :: rest => hexEscape? 2 rest
  | 'u' :: rest => hexEscape? 4 rest
  | 'U' :: rest => hexEscape? 8 rest
  | _ => none

/-- The rest after a newline. -/
def newline? : List Char → Option (List Char)
  | '\n' :: rest => some rest
  | '\r' :: '\n' :: rest => some rest
  | _ => none

/-- Drops blanks within a line. -/
def skipSpaces (cs : List Char) : List Char := cs.dropWhile fun c => c = ' ' || c = '\t'

/-- A string on one line with escapes, after its opening quote. -/
def basicString? : Nat → List Char → List Char → Option (String × List Char)
  | 0, _, _ => none
  | fuel + 1, acc, cs =>
    match cs with
    | '"' :: rest => some (String.ofList acc.reverse, rest)
    | '\\' :: rest => do
      let (c, rest) ← readEscape? rest
      basicString? fuel (c :: acc) rest
    | c :: rest => if isTextChar c then basicString? fuel (c :: acc) rest else none
    | [] => none

/-- A string on one line without escapes, after its opening quote. -/
def literalString? (cs : List Char) : Option (String × List Char) :=
  let body := cs.takeWhile fun c => isTextChar c && c ≠ '\''
  match cs.drop body.length with
  | '\'' :: rest => some (String.ofList body, rest)
  | _ => none

/-- The number of quotes at the head of a list, five at most: two of the text and three that
close. -/
def closingQuotes (quote : Char) (cs : List Char) : Nat :=
  ((cs.take 5).takeWhile (· = quote)).length

/-- Drops the blanks and newlines after a backslash at the end of a line; `none` if something else
stands on the line. -/
def skipContinuation? (cs : List Char) : Option (List Char) :=
  (newline? (skipSpaces cs)).map fun rest =>
    rest.dropWhile fun c => c = ' ' || c = '\t' || c = '\n' || c = '\r'

/-- A string over several lines, after its opening quotes and the newline that may follow them. -/
def multilineString? (quote : Char) (escapes : Bool) :
    Nat → List Char → List Char → Option (String × List Char)
  | 0, _, _ => none
  | fuel + 1, acc, cs =>
    let n := closingQuotes quote cs
    if 3 ≤ n then
      some (String.ofList (acc.reverse ++ List.replicate (n - 3) quote), cs.drop n)
    else
      match cs with
      | [] => none
      | '\r' :: '\n' :: rest => multilineString? quote escapes fuel ('\n' :: '\r' :: acc) rest
      | '\n' :: rest => multilineString? quote escapes fuel ('\n' :: acc) rest
      | c :: rest =>
        if c = '\\' && escapes then
          match skipContinuation? rest with
          | some rest => multilineString? quote escapes fuel acc rest
          | none =>
            match readEscape? rest with
            | some (c, rest) => multilineString? quote escapes fuel (c :: acc) rest
            | none => none
        else if isTextChar c then multilineString? quote escapes fuel (c :: acc) rest
        else none

/-- A string of any of the four kinds at the head of a list, and the rest; the outer `none` means
that no string stands there. -/
def readString? (cs : List Char) : Option (Option (String × List Char)) :=
  let start := fun (rest : List Char) => (newline? rest).getD rest
  match cs with
  | '"' :: '"' :: '"' :: rest =>
    some (multilineString? '"' true (rest.length + 1) [] (start rest))
  | '\'' :: '\'' :: '\'' :: rest =>
    some (multilineString? '\'' false (rest.length + 1) [] (start rest))
  | '"' :: rest => some (basicString? (rest.length + 1) [] rest)
  | '\'' :: rest => some (literalString? rest)
  | _ => none

end Turnstile.Toml
