import Turnstile.Number.Decimal
import Turnstile.Number.Word
import Turnstile.Shell.Arithmetic

/-!
# Formatted output

* `Format.echo` writes its arguments with blanks between them.
* `Format.printf` writes arguments as the directives of a format say. The format is used again for
  as long as there are arguments left; a directive without argument writes an empty text or zero.

Both know the backslash escapes. One of them, `\c`, ends all output.
-/

namespace Turnstile.Shell.Format

/-! ## Escapes -/

/-- The value of an octal digit. -/
def octal? (c : Char) : Option Nat :=
  if '0' ≤ c ∧ c ≤ '7' then some (c.toNat - '0'.toNat) else none

/-- The number of up to `most` octal digits, and what is behind them. -/
def octalNumber : Nat → Nat → List Char → Nat × List Char
  | 0, n, cs => (n, cs)
  | _, n, [] => (n, [])
  | most + 1, n, c :: rest =>
    match octal? c with
    | some d => octalNumber most (n * 8 + d) rest
    | none => (n, c :: rest)

/-- The characters of letters behind a backslash. -/
def named? : Char → Option Char
  | 'a' => some '\x07'
  | 'b' => some '\x08'
  | 'f' => some '\x0c'
  | 'n' => some '\n'
  | 'r' => some '\r'
  | 't' => some '\t'
  | 'v' => some '\x0b'
  | '\\' => some '\\'
  | _ => none

/-- What is behind a backslash: a character and the rest. Other characters leave the backslash
standing. -/
def escape : List Char → Char × List Char
  | [] => ('\\', [])
  | c :: rest =>
    match named? c with
    | some d => (d, rest)
    | none =>
      if (octal? c).isSome then
        let (n, rest) := octalNumber 3 0 (c :: rest)
        (Char.ofNat (n % 256), rest)
      else ('\\', c :: rest)

/-- A text with its escapes replaced, and whether one of them ends the output. Behind a zero there
may be three more octal digits. The fuel bounds the number of characters. -/
def unescape : Nat → List Char → List Char × Bool
  | 0, _ => ([], false)
  | _, [] => ([], false)
  | _ + 1, '\\' :: 'c' :: _ => ([], true)
  | fuel + 1, '\\' :: '0' :: rest =>
    let (n, rest) := octalNumber 3 0 rest
    let (more, stops) := unescape fuel rest
    (Char.ofNat (n % 256) :: more, stops)
  | fuel + 1, '\\' :: rest =>
    let (c, rest) := escape rest
    let (more, stops) := unescape fuel rest
    (c :: more, stops)
  | fuel + 1, c :: rest =>
    let (more, stops) := unescape fuel rest
    (c :: more, stops)

/-! ## Arguments with blanks between them -/

/-- Arguments with blanks between them and a newline behind; a leading `-n` leaves the newline
out. -/
def echo (args : List String) : String :=
  let (args, ending) := match args with
    | "-n" :: rest => (rest, "")
    | args => (args, "\n")
  let text := (String.intercalate " " args).toList
  let (out, stops) := unescape (text.length + 1) text
  String.ofList out ++ (if stops then "" else ending)

/-- The same without escapes, unless they are asked for. -/
def plainEcho : List String → String
  | "-n" :: rest => String.intercalate " " rest
  | "-e" :: rest => echo rest
  | "-E" :: rest => String.intercalate " " rest ++ "\n"
  | args => String.intercalate " " args ++ "\n"

/-! ## Directives -/

/-- How a directive lays out what it writes. -/
structure Layout where
  flags : List Char := []
  width : Nat := 0
  precision : Option Nat := none
  deriving Inhabited

namespace Layout

/-- Blanks beside a text, up to the width. -/
def pad (l : Layout) (text : String) : String :=
  let blanks := String.ofList (List.replicate (l.width - text.length) ' ')
  if l.flags.contains '-' then text ++ blanks else blanks ++ text

/-- A number with a sign, filled up to the width. -/
def number (l : Layout) (sign digits : String) : String :=
  let digits := String.ofList (List.replicate ((l.precision.getD 1) - digits.length) '0') ++ digits
  if l.flags.contains '0' && !l.flags.contains '-' && l.precision.isNone then
    sign ++ String.ofList (List.replicate (l.width - sign.length - digits.length) '0') ++ digits
  else l.pad (sign ++ digits)

/-- The sign of a number that can be negative. -/
def sign (l : Layout) (isNegative : Bool) : String :=
  if isNegative then "-" else if l.flags.contains '+' then "+" else if l.flags.contains ' ' then " "
  else ""

end Layout

/-- What is wrong with an argument that must be a number. -/
inductive Doubt where
  | notNumeric (s : String)
  | notCompletelyConverted (s : String)
  deriving DecidableEq

def Doubt.message : Doubt → String
  | .notNumeric s => s ++ ": expected numeric value"
  | .notCompletelyConverted s => s ++ ": not completely converted"

/-- The integer at the start of an argument, and what is wrong with the argument. Behind a quote
stands a character, whose number counts. -/
def integer (s : String) : Int × Option Doubt :=
  match s.toList with
  | '\'' :: c :: _ | '"' :: c :: _ => (c.toNat, none)
  | [] => (0, none)
  | cs =>
    let body := cs.dropWhile fun c => c = ' ' || c = '\t' || c = '\n'
    let (negative, body) := match body with
      | '-' :: rest => (true, rest)
      | '+' :: rest => (false, rest)
      | body => (false, body)
    let (base, body) := match body with
      | '0' :: 'x' :: rest | '0' :: 'X' :: rest => (16, rest)
      | '0' :: rest => (8, '0' :: rest)
      | body => (10, body)
    let digits := body.takeWhile fun c => match Arithmetic.digit? c with
      | some d => d < base
      | none => false
    let n : Nat := (Arithmetic.inBase? base digits).getD 0
    let doubt := if digits.isEmpty then some (Doubt.notNumeric s)
      else if digits.length < body.length then some (.notCompletelyConverted s)
      else none
    (if negative then -n else n, doubt)

/-- The number at an argument, which may have a fraction. -/
def real (s : String) : Binary64 × Option Doubt :=
  if s.isEmpty then (.ofInt 0, none)
  else match readFloat? s with
    | some x => (x, none)
    | none =>
      let (n, doubt) := integer s
      (.ofInt n, doubt)

/-- The digits of a number in a base. -/
def digitsIn (base n : Nat) (capital : Bool) : String :=
  let digits := String.ofList (Nat.toDigits base n)
  if capital then digits.toUpper else digits

/-- What a directive writes for an argument, whether output ends there, and what is wrong. -/
def directive (l : Layout) (letter : Char) (arg : Option String) :
    String × Bool × Option Doubt :=
  let s := arg.getD ""
  match letter with
  | 's' => (l.pad (match l.precision with
      | some n => String.ofList (s.toList.take n)
      | none => s), false, none)
  | 'c' => (l.pad (String.ofList (s.toList.take 1)), false, none)
  | 'b' =>
    let (cs, stops) := unescape (s.length + 1) s.toList
    (l.pad (String.ofList cs), stops, none)
  | 'd' | 'i' =>
    let (n, doubt) := integer s
    (l.number (l.sign (decide (n < 0))) (toString n.natAbs), false, doubt)
  | 'u' | 'o' | 'x' | 'X' =>
    let (n, doubt) := integer s
    let word := Word.bits n
    let text := match letter with
      | 'u' => toString word
      | 'o' => (if l.flags.contains '#' && word != 0 then "0" else "") ++ digitsIn 8 word false
      | 'x' => (if l.flags.contains '#' && word != 0 then "0x" else "") ++ digitsIn 16 word false
      | _ => (if l.flags.contains '#' && word != 0 then "0X" else "") ++ digitsIn 16 word true
    (l.number "" text, false, doubt)
  | _ =>
    let (x, doubt) := real s
    let text := fixed (l.precision.getD 6) x
    let digits := if text.toList.head? = some '-' then String.ofList (text.toList.drop 1) else text
    ({ l with precision := none }.number (l.sign x.isNegative) digits, false, doubt)

/-- The letters of directives. -/
def letters : List Char := "scbdiuoxXfFeEgG".toList

/-- The layout of a directive, given the arguments that asterisks take: the layout, the arguments
that are left, and the format from the letter on. -/
def readLayout (args : List String) (cs : List Char) : Layout × List String × List Char :=
  let flags := cs.takeWhile fun c => "-+ #0".toList.contains c
  let cs := cs.drop flags.length
  let (width, args, cs) := readCount args cs
  let flags := if width < 0 then '-' :: flags else flags
  match cs with
  | '.' :: cs =>
    let (precision, args, cs) := readCount args cs
    (⟨flags, width.natAbs, if precision < 0 then none else some precision.natAbs⟩, args, cs)
  | cs => (⟨flags, width.natAbs, none⟩, args, cs)
where
  readCount (args : List String) (cs : List Char) : Int × List String × List Char :=
    match cs with
    | '*' :: rest => ((integer (args.headD "")).1, args.drop 1, rest)
    | cs =>
      let digits := cs.takeWhile Char.isDigit
      (((Arithmetic.inBase? 10 digits).getD 0 : Nat), args, cs.drop digits.length)

/-- What one use of a format gives. -/
structure Pass where
  out : List String := []
  args : List String
  doubts : List Doubt := []
  stops : Bool := false
  /-- The letter of a directive that is none. -/
  bad : Option Char := none

/-- Uses a format once. The fuel bounds the number of its characters. -/
def usage : Nat → List Char → Pass → Pass
  | 0, _, p => p
  | _, [], p => p
  | fuel + 1, '%' :: '%' :: rest, p => usage fuel rest { p with out := "%" :: p.out }
  | fuel + 1, '%' :: rest, p =>
    let (l, args, cs) := readLayout p.args rest
    match cs with
    | letter :: rest =>
      if letters.contains letter then
        let (text, stops, doubt) := directive l letter args.head?
        let p := { p with
          out := text :: p.out
          args := args.drop 1
          doubts := p.doubts ++ doubt.toList
          stops }
        if stops then p else usage fuel rest p
      else { p with bad := some letter, stops := true }
    | [] => { p with bad := some '%', stops := true }
  | _ + 1, '\\' :: 'c' :: _, p => { p with stops := true }
  | fuel + 1, '\\' :: '"' :: rest, p => usage fuel rest { p with out := "\"" :: p.out }
  | fuel + 1, '\\' :: rest, p =>
    let (c, rest) := escape rest
    usage fuel rest { p with out := String.ofList [c] :: p.out }
  | fuel + 1, c :: rest, p => usage fuel rest { p with out := String.ofList [c] :: p.out }

/-- Uses a format until no argument is left. The fuel bounds the number of arguments. -/
def usages (format : List Char) : Nat → Pass → Pass
  | 0, p => p
  | fuel + 1, p =>
    let q := usage (format.length + 1) format p
    if q.stops || q.args.isEmpty || q.args.length == p.args.length then q
    else usages format fuel q

/-- What formatted output comes to. -/
structure Result where
  out : String
  /-- What is wrong with the arguments and the format. -/
  messages : List String
  status : Nat

/-- What a format writes for arguments. A directive that is none ends the output. -/
def printf (format : String) (args : List String) : Result :=
  let p := usages format.toList (args.length + 1) { args }
  let out := String.join p.out.reverse
  let messages := p.doubts.map (·.message)
  match p.bad with
  | some c => ⟨out, messages ++ ["%" ++ String.ofList [c] ++ ": invalid directive"], 2⟩
  | none => ⟨out, messages, if messages.isEmpty then 0 else 1⟩

end Turnstile.Shell.Format
