import Turnstile.Number.Decimal
import Turnstile.Number.Word

/-!
# JSON

A value, its text in two layouts, and a reader.

* `Json.compact` and `Json.pretty` write a value; strings escape the quote, the backslash and the
  control characters, and nothing else.
* `Json.read?` reads one value. An integer numeral is an integer when it fits in 64 bits, signed or
  unsigned; every other numeral is a binary number near it (`quickFloat?`).
-/

namespace Turnstile

/-- A number of a JSON document. -/
inductive JsonNumber where
  | integer (n : Int)
  | float (x : Binary64)
  deriving DecidableEq, Repr

/-- A JSON value; the members of an object are in the order in which they were written. -/
inductive Json where
  | null
  | bool (b : Bool)
  | number (n : JsonNumber)
  | string (s : String)
  | array (items : List Json)
  | object (members : List (String × Json))
  deriving Repr, Inhabited

namespace Json

def ofNat (n : Nat) : Json := .number (.integer n)

def ofInt (n : Int) : Json := .number (.integer n)

/-- The value of an optional thing, null if there is none. -/
def ofOption {α : Type} (f : α → Json) : Option α → Json
  | none => .null
  | some a => f a

/-- The last member of an object with a given name. -/
def get? (name : String) : Json → Option Json
  | .object members => (members.reverse.find? fun m => m.1 == name).map (·.2)
  | _ => none

/-! ## Writing -/

/-- The text of a number. -/
def numberText : JsonNumber → String
  | .integer n => toString n
  | .float x => FloatLayout.json.render x

/-- Two lower-case hexadecimal digits. -/
def hexPair (n : Nat) : List Char :=
  [Nat.digitChar (n / 16 % 16), Nat.digitChar (n % 16)]

/-- How a character stands inside a string. -/
def escapeChar (c : Char) : List Char :=
  if c = '"' then ['\\', '"']
  else if c = '\\' then ['\\', '\\']
  else if c = '\n' then ['\\', 'n']
  else if c = '\r' then ['\\', 'r']
  else if c = '\t' then ['\\', 't']
  else if c = '\x08' then ['\\', 'b']
  else if c = '\x0c' then ['\\', 'f']
  else if c.toNat < 0x20 then ['\\', 'u', '0', '0'] ++ hexPair c.toNat
  else [c]

/-- A string in quotes. -/
def quoteChars (cs : List Char) : List Char :=
  '"' :: (cs.flatMap escapeChar ++ ['"'])

/-- A string in quotes. -/
def quote (s : String) : String := String.ofList (quoteChars s.toList)

mutual

/-- The text of a value on one line, without blanks. -/
def compact : Json → String
  | .null => "null"
  | .bool b => if b then "true" else "false"
  | .number n => numberText n
  | .string s => quote s
  | .array items => "[" ++ compactItems items ++ "]"
  | .object members => "\x7b" ++ compactMembers members ++ "\x7d"

/-- The items of an array, separated by commas. -/
def compactItems : List Json → String
  | [] => ""
  | [v] => v.compact
  | v :: rest => v.compact ++ "," ++ compactItems rest

/-- The members of an object, separated by commas. -/
def compactMembers : List (String × Json) → String
  | [] => ""
  | [(k, v)] => quote k ++ ":" ++ v.compact
  | (k, v) :: rest => quote k ++ ":" ++ v.compact ++ "," ++ compactMembers rest

end

/-- The blanks before a line at a depth of nesting. -/
def indentation (depth : Nat) : String := String.ofList (List.replicate (2 * depth) ' ')

mutual

/-- The text of a value with one item or member a line. -/
def prettyAt (depth : Nat) : Json → String
  | .array [] => "[]"
  | .array items => "[\n" ++ prettyItems (depth + 1) items ++ "\n" ++ indentation depth ++ "]"
  | .object [] => "\x7b\x7d"
  | .object members =>
    "\x7b\n" ++ prettyMembers (depth + 1) members ++ "\n" ++ indentation depth ++ "\x7d"
  | .null => "null"
  | .bool b => if b then "true" else "false"
  | .number n => numberText n
  | .string s => quote s

def prettyItems (depth : Nat) : List Json → String
  | [] => ""
  | [v] => indentation depth ++ prettyAt depth v
  | v :: rest => indentation depth ++ prettyAt depth v ++ ",\n" ++ prettyItems depth rest

def prettyMembers (depth : Nat) : List (String × Json) → String
  | [] => ""
  | [(k, v)] => indentation depth ++ quote k ++ ": " ++ prettyAt depth v
  | (k, v) :: rest =>
    indentation depth ++ quote k ++ ": " ++ prettyAt depth v ++ ",\n" ++ prettyMembers depth rest

end

/-- The text of a value over several lines, indented by two blanks a level. -/
def pretty (v : Json) : String := prettyAt 0 v

/-! ## Reading -/

/-- Drops the blanks that may stand between tokens. -/
def skipBlanks (cs : List Char) : List Char :=
  cs.dropWhile fun c => c = ' ' || c = '\n' || c = '\r' || c = '\t'

/-- The number that four hexadecimal digits write, and the rest. -/
def readUnit? : List Char → Option (Nat × List Char)
  | a :: b :: c :: d :: rest => do
    let value := fun (c : Char) =>
      if isDigit c then some (digitValue c)
      else if 'a' ≤ c ∧ c ≤ 'f' then some (c.toNat - 'a'.toNat + 10)
      else if 'A' ≤ c ∧ c ≤ 'F' then some (c.toNat - 'A'.toNat + 10)
      else none
    let n := (((← value a) * 16 + (← value b)) * 16 + (← value c)) * 16 + (← value d)
    return (n, rest)
  | _ => none

/-- The character after a backslash, and the rest. Surrogates must come in pairs. -/
def readEscape? : List Char → Option (Char × List Char)
  | 'n' :: rest => some ('\n', rest)
  | 't' :: rest => some ('\t', rest)
  | 'r' :: rest => some ('\r', rest)
  | 'b' :: rest => some ('\x08', rest)
  | 'f' :: rest => some ('\x0c', rest)
  | '"' :: rest => some ('"', rest)
  | '\\' :: rest => some ('\\', rest)
  | '/' :: rest => some ('/', rest)
  | 'u' :: rest => do
    let (n, rest) ← readUnit? rest
    if 0xD800 ≤ n ∧ n < 0xDC00 then
      match rest with
      | '\\' :: 'u' :: rest =>
        let (m, rest) ← readUnit? rest
        if 0xDC00 ≤ m ∧ m < 0xE000 then
          return (Char.ofNat (0x10000 + (n - 0xD800) * 0x400 + (m - 0xDC00)), rest)
        else none
      | _ => none
    else if 0xDC00 ≤ n ∧ n < 0xE000 then none
    else return (Char.ofNat n, rest)
  | _ => none

/-- The rest of a string after its opening quote, with the characters read so far in reverse. -/
def readString? : Nat → List Char → List Char → Option (String × List Char)
  | 0, _, _ => none
  | fuel + 1, acc, cs =>
    match cs with
    | [] => none
    | '"' :: rest => some (String.ofList acc.reverse, rest)
    | '\\' :: rest => do
      let (c, rest) ← readEscape? rest
      readString? fuel (c :: acc) rest
    | c :: rest => if c.toNat < 0x20 then none else readString? fuel (c :: acc) rest

/-- Gathers digits in a word, up to the first that does not fit; what is left are the digits from
there on. -/
def gatherDigits (word : Nat) : List Char → Nat × List Char
  | [] => (word, [])
  | c :: rest =>
    let next := word * 10 + digitValue c
    if next < Word.count then gatherDigits next rest else (word, c :: rest)

/-- The binary number of a numeral that is no integer of 64 bits. Its digits are gathered in a word,
those that do not fit are dropped, and the word is scaled by a power of ten; so the number is near
the numeral, but not always the nearest. -/
def quickFloat? (negative : Bool) (whole fraction : List Char) (exponent : Int) :
    Option Binary64 :=
  let (word, dropped) := gatherDigits 0 whole
  let (word, unused) := gatherDigits word fraction
  let places : Int := (dropped.length : Int) - (fraction.length - unused.length : Nat) + exponent
  match Binary64.scaleByTen? 4 (.ofNat word) places with
  | some (.finite _ m e) => some (.finite negative m e)
  | _ => none

/-- The value of a numeral. -/
def readNumeral? (cs : List Char) : Option JsonNumber :=
  let (negative, body) := match cs with
    | '-' :: rest => (true, rest)
    | _ => (false, cs)
  let whole := body.takeWhile isDigit
  let rest := body.dropWhile isDigit
  if whole.isEmpty || (1 < whole.length && whole.head? = some '0') then none
  else if rest.isEmpty then
    let n : Int := natOfDigits whole
    let n := if negative then -n else n
    if negative && n = 0 then some (.float (.zero true))
    else if Word.isSigned n || Word.isUnsigned n then some (.integer n)
    else (quickFloat? negative whole [] 0).map .float
  else do
    let (fraction, rest) ← match rest with
      | '.' :: after =>
        let fraction := after.takeWhile isDigit
        if fraction.isEmpty then none else some (fraction, after.dropWhile isDigit)
      | _ => some ([], rest)
    let exponent ← match rest with
      | [] => some 0
      | c :: digits => if c = 'e' || c = 'E' then readExponent? digits else none
    return .float (← quickFloat? negative whole fraction exponent)

/-- True of the characters that numerals are made of. -/
def isNumeralChar (c : Char) : Bool :=
  isDigit c || c = '-' || c = '+' || c = '.' || c = 'e' || c = 'E'

mutual

/-- Reads a value. Each step uses up fuel, and each two steps a character, so fuel of twice the
length is enough. -/
def readValue? : Nat → List Char → Option (Json × List Char)
  | 0, _ => none
  | fuel + 1, cs =>
    match skipBlanks cs with
    | 'n' :: 'u' :: 'l' :: 'l' :: rest => some (.null, rest)
    | 't' :: 'r' :: 'u' :: 'e' :: rest => some (.bool true, rest)
    | 'f' :: 'a' :: 'l' :: 's' :: 'e' :: rest => some (.bool false, rest)
    | '"' :: rest => (readString? fuel [] rest).map fun (s, rest) => (.string s, rest)
    | '[' :: rest =>
      match skipBlanks rest with
      | ']' :: rest => some (.array [], rest)
      | rest => (readItems? fuel [] rest).map fun (items, rest) => (.array items, rest)
    | '\x7b' :: rest =>
      match skipBlanks rest with
      | '\x7d' :: rest => some (.object [], rest)
      | rest => (readMembers? fuel [] rest).map fun (members, rest) => (.object members, rest)
    | cs =>
      (readNumeral? (cs.takeWhile isNumeralChar)).map fun n =>
        (.number n, cs.dropWhile isNumeralChar)

/-- Reads the items of an array up to its closing bracket. -/
def readItems? : Nat → List Json → List Char → Option (List Json × List Char)
  | 0, _, _ => none
  | fuel + 1, acc, cs => do
    let (v, rest) ← readValue? fuel cs
    match skipBlanks rest with
    | ',' :: rest => readItems? fuel (v :: acc) rest
    | ']' :: rest => return ((v :: acc).reverse, rest)
    | _ => none

/-- Reads the members of an object up to its closing brace. -/
def readMembers? : Nat → List (String × Json) → List Char →
    Option (List (String × Json) × List Char)
  | 0, _, _ => none
  | fuel + 1, acc, cs =>
    match skipBlanks cs with
    | '"' :: rest => do
      let (name, rest) ← readString? fuel [] rest
      match skipBlanks rest with
      | ':' :: rest =>
        let (v, rest) ← readValue? fuel rest
        match skipBlanks rest with
        | ',' :: rest => readMembers? fuel ((name, v) :: acc) rest
        | '\x7d' :: rest => return (((name, v) :: acc).reverse, rest)
        | _ => none
      | _ => none
    | _ => none

end

/-- The value that a whole text writes. -/
def read? (s : String) : Option Json := do
  let cs := s.toList
  let (v, rest) ← readValue? (2 * cs.length + 2) cs
  if (skipBlanks rest).isEmpty then return v else none

end Json

end Turnstile
