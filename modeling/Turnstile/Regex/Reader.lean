import Turnstile.Regex.Named
import Turnstile.Regex.Syntax
import Turnstile.Text.Blank

/-!
# Reading regular expressions

`Regex.parse?` reads the written form of an expression: literals, classes, groups, repetitions,
assertions and flags. Flags take effect while reading, so the tree has none. An expression is
refused when it is malformed, nested too deeply, or too heavy.
-/

namespace Turnstile.Regex

/-- What the flags of an expression switch on. -/
structure Flags where
  /-- `i`: case does not count. -/
  ignoreCase : Bool := false
  /-- `m`: the line assertions hold at every line. -/
  multiLine : Bool := false
  /-- `s`: a dot matches a newline. -/
  dotAll : Bool := false
  /-- `U`: repetitions prefer fewer copies unless marked. -/
  swapGreed : Bool := false
  /-- `u`: classes are those of Unicode. -/
  unicode : Bool := true
  /-- `R`: carriage returns end lines. -/
  crlf : Bool := false
  /-- `x`: blanks and comments do not count. -/
  verbose : Bool := false
  deriving DecidableEq, Repr

/-- Sets one flag; `none` if there is no such flag. -/
def Flags.set? (f : Flags) (on : Bool) : Char → Option Flags
  | 'i' => some { f with ignoreCase := on }
  | 'm' => some { f with multiLine := on }
  | 's' => some { f with dotAll := on }
  | 'U' => some { f with swapGreed := on }
  | 'u' => some { f with unicode := on }
  | 'R' => some { f with crlf := on }
  | 'x' => some { f with verbose := on }
  | _ => none

/-- Drops what does not count in verbose mode: blanks and comments up to the end of the line. -/
def skipVerbose (f : Flags) (cs : List Char) : List Char :=
  if f.verbose then
    let rec go : Nat → List Char → List Char
      | 0, cs => cs
      | fuel + 1, cs =>
        match cs.dropWhile isBlank with
        | '#' :: rest => go fuel (rest.dropWhile (· ≠ '\n'))
        | rest => rest
    go (cs.length + 1) cs
  else cs

/-! ## Escapes -/

/-- What a backslash and the characters after it stand for. -/
inductive Escape where
  | char (c : Char)
  | class (s : CharSet)
  | look (a : Assertion)

/-- The characters with a meaning of their own. -/
def metaChars : List Char :=
  ['\\', '.', '+', '*', '?', '(', ')', '|', '[', ']', '\x7b', '\x7d', '^', '$', '#', '&', '-', '~']

/-- True of the characters that may be escaped although they have no meaning of their own. -/
def isPlainEscape (c : Char) : Bool :=
  c.toNat < 0x80 && !c.isAlphanum && c ≠ '<' && c ≠ '>'

/-- The value of hexadecimal digits, at least one; `none` if another character is among them. -/
def hexNumber? (ds : List Char) : Option Nat :=
  if ds.isEmpty then none
  else ds.foldlM (fun acc c => (CharSet.hexValue? c).map (acc * 16 + ·)) 0

/-- The character with a number. -/
def scalar? (n : Nat) : Option Char :=
  if n < 0xD800 ∨ (0xE000 ≤ n ∧ n ≤ 0x10FFFF) then some (Char.ofNat n) else none

/-- A character by its number: `count` digits, or any digits between braces. -/
def hexEscape? (f : Flags) (count : Nat) (cs : List Char) : Option (Char × List Char) := do
  match skipVerbose f cs with
  | '\x7b' :: rest =>
    let digits := rest.takeWhile (· ≠ '\x7d')
    let rest := rest.drop digits.length
    if rest.isEmpty then none
    return (← scalar? (← hexNumber? digits), rest.drop 1)
  | cs =>
    let digits := cs.take count
    if digits.length ≠ count then none
    let c ← scalar? (← hexNumber? digits)
    -- outside Unicode mode two digits name an octet, which must be a character by itself
    if count = 2 ∧ !f.unicode ∧ 0x80 ≤ c.toNat then none
    return (c, cs.drop count)

/-- A class by the name of a property, after `p` or `P`. -/
def propertyEscape? (f : Flags) (cs : List Char) : Option (CharSet × List Char) := do
  if !f.unicode then none
  match skipVerbose f cs with
  | '\x7b' :: rest =>
    let name := rest.takeWhile (· ≠ '\x7d')
    let rest := rest.drop name.length
    if rest.isEmpty then none
    let split := fun (marks : List Char) =>
      (String.ofList (name.takeWhile (!marks.contains ·)),
        String.ofList ((name.dropWhile (!marks.contains ·)).drop 1))
    let differs := (name.zip (name.drop 1)).contains ('!', '=')
    let s ← if differs then
        let (property, value) := split ['!']
        (CharSet.propertyValue? property (value.drop 1).toString).map CharSet.complement
      else if name.contains ':' then
        let (property, value) := split [':']
        CharSet.propertyValue? property value
      else if name.contains '=' then
        let (property, value) := split ['=']
        CharSet.propertyValue? property value
      else CharSet.property? (String.ofList name)
    return (s, rest.drop 1)
  | c :: rest =>
    if c = '\\' then none
    return (← CharSet.property? (String.ofList [c]), rest)
  | [] => none

/-- A set with the other case of its members, if case does not count. -/
def foldCase (f : Flags) (s : CharSet) : CharSet :=
  if !f.ignoreCase then s
  else if f.unicode then CharSet.foldClosure s
  else
    let letters : CharSet := ⟨[(0x41, 0x5A), (0x61, 0x7A)]⟩
    let moved := (s.inter letters).ranges.flatMap fun (lo, hi) =>
      (List.range (hi + 1 - lo)).map fun i =>
        let n := lo + i
        if n < 0x61 then n + 32 else n - 32
    s.union (CharSet.ofPoints moved)

/-- A word assertion in braces after `b`. The outer `none` means that no name stands there, so that
the braces are a repetition. -/
def wordName? (f : Flags) (cs : List Char) : Option (Option (Assertion × List Char)) :=
  let isNameChar := fun (c : Char) => c.isAlpha || c = '-'
  let inner := skipVerbose f cs
  match inner with
  | c :: _ =>
    if isNameChar c then
      let name := inner.takeWhile isNameChar
      match inner.drop name.length with
      | '\x7d' :: rest =>
        let a := match String.ofList name with
          | "start" => some (Assertion.wordStart f.unicode)
          | "end" => some (.wordEnd f.unicode)
          | "start-half" => some (.wordStartHalf f.unicode)
          | "end-half" => some (.wordEndHalf f.unicode)
          | _ => none
        some (a.map fun a => (a, rest))
      | _ => some none
    else none
  | [] => some none

/-- An escape, after its backslash. -/
def readEscape? (f : Flags) (cs : List Char) : Option (Escape × List Char) := do
  match cs with
  | [] => none
  | c :: rest =>
    match c with
    | 'x' => (hexEscape? f 2 rest).map fun (c, rest) => (.char c, rest)
    | 'u' => (hexEscape? f 4 rest).map fun (c, rest) => (.char c, rest)
    | 'U' => (hexEscape? f 8 rest).map fun (c, rest) => (.char c, rest)
    | 'p' => (propertyEscape? f rest).map fun (s, rest) => (.class (foldCase f s), rest)
    | 'P' =>
      (propertyEscape? f rest).map fun (s, rest) => (.class (foldCase f s).complement, rest)
    | 'd' => some (.class (if f.unicode then .digits else .asciiDigits), rest)
    | 'D' => some (.class (if f.unicode then .digits else .asciiDigits : CharSet).complement, rest)
    | 's' => some (.class (if f.unicode then .blanks else .asciiBlanks), rest)
    | 'S' => some (.class (if f.unicode then .blanks else .asciiBlanks : CharSet).complement, rest)
    | 'w' => some (.class (if f.unicode then .words else .asciiWords), rest)
    | 'W' => some (.class (if f.unicode then .words else .asciiWords : CharSet).complement, rest)
    | 'a' => some (.char '\x07', rest)
    | 'f' => some (.char '\x0c', rest)
    | 't' => some (.char '\t', rest)
    | 'n' => some (.char '\n', rest)
    | 'r' => some (.char '\r', rest)
    | 'v' => some (.char '\x0b', rest)
    | 'A' => some (.look .textStart, rest)
    | 'z' => some (.look .textEnd, rest)
    | 'B' => some (.look (.notWordBoundary f.unicode), rest)
    | '<' => some (.look (.wordStart f.unicode), rest)
    | '>' => some (.look (.wordEnd f.unicode), rest)
    | 'b' =>
      match rest with
      | '\x7b' :: inner =>
        match wordName? f inner with
        | some answer => answer.map fun (a, rest) => (.look a, rest)
        | none => some (.look (.wordBoundary f.unicode), rest)
      | _ => some (.look (.wordBoundary f.unicode), rest)
    | c => if metaChars.contains c || isPlainEscape c then some (.char c, rest) else none

/-! ## Classes in brackets -/

/-- How two operands of a class combine. -/
inductive ClassOp where
  | inter | diff | symmDiff

/-- The operands read so far: a finished left side with its operator, and the members of the side
under way. -/
structure ClassState where
  left : Option (CharSet × ClassOp) := none
  members : List CharSet := []

/-- The set of all operands read so far. -/
def ClassState.value (f : Flags) (s : ClassState) : CharSet :=
  let right := CharSet.unionAll s.members
  match s.left with
  | none => right
  | some (left, op) =>
    let left := foldCase f left
    let right := foldCase f right
    match op with
    | .inter => left.inter right
    | .diff => left.diff right
    | .symmDiff => left.symmDiff right

/-- Adds a member to the side under way. -/
def ClassState.add (s : ClassState) (set : CharSet) : ClassState :=
  { s with members := set :: s.members }

/-- Closes the side under way with an operator. -/
def ClassState.operate (f : Flags) (s : ClassState) (op : ClassOp) : ClassState :=
  { left := some (s.value f, op) }

/-- An ASCII class such as `[:alpha:]`, after its opening bracket. -/
def posixClass? (cs : List Char) : Option (CharSet × List Char) := do
  let rest ← match cs with
    | ':' :: rest => some rest
    | _ => none
  let (negated, rest) := match rest with
    | '^' :: rest => (true, rest)
    | _ => (false, rest)
  let name := rest.takeWhile (· ≠ ':')
  match rest.drop name.length with
  | ':' :: ']' :: rest =>
    let s ← CharSet.posix? (String.ofList name)
    return (if negated then s.complement else s, rest)
  | _ => none

/-- A member of a class that may be the end of a range. -/
def classItem? (f : Flags) (cs : List Char) : Option ((Char ⊕ CharSet) × List Char) :=
  match cs with
  | '\\' :: rest =>
    match readEscape? f rest with
    | some (.char c, rest) => some (.inl c, rest)
    | some (.class s, rest) => some (.inr s, rest)
    | _ => none
  | c :: rest => some (.inl c, rest)
  | [] => none

/-- The set of a member. -/
def itemSet : Char ⊕ CharSet → CharSet
  | .inl c => .singleton c
  | .inr s => s

/-- A member or a range of a class. -/
def classRange? (f : Flags) (cs : List Char) : Option (CharSet × List Char) := do
  let (first, rest) ← classItem? f cs
  match skipVerbose f rest with
  | [] => none
  | '-' :: after =>
    match skipVerbose f after with
    | [] => none
    | ']' :: _ => return (itemSet first, '-' :: after)
    | '-' :: _ => return (itemSet first, '-' :: after)
    | after =>
      let (second, rest) ← classItem? f after
      match first, second with
      | .inl lo, .inl hi => if lo ≤ hi then return (.range lo hi, rest) else none
      | _, _ => none
  | rest => return (itemSet first, rest)

/-- The members that may stand at once after the opening bracket: hyphens, and a closing bracket
if it comes first. -/
def leadingMembers (f : Flags) : Nat → ClassState → List Char → ClassState × List Char
  | 0, s, cs => (s, cs)
  | fuel + 1, s, cs =>
    match cs with
    | '-' :: rest => leadingMembers f fuel (s.add (.singleton '-')) (skipVerbose f rest)
    | ']' :: rest =>
      if s.members.isEmpty then (s.add (.singleton ']'), skipVerbose f rest) else (s, cs)
    | _ => (s, cs)

mutual

/-- A class, after its opening bracket, with how deeply it is nested. -/
def readClass? (f : Flags) : Nat → List Char → Option (CharSet × Nat × List Char)
  | 0, _ => none
  | fuel + 1, cs => do
    let (negated, cs) := match skipVerbose f cs with
      | '^' :: rest => (true, skipVerbose f rest)
      | cs => (false, cs)
    let (state, cs) := leadingMembers f (cs.length + 1) {} cs
    let (s, depth, rest) ← readClassMembers? f fuel state 0 cs
    let s := foldCase f s
    return (if negated then s.complement else s, depth + 1, rest)

/-- The members of a class up to its closing bracket. -/
def readClassMembers? (f : Flags) : Nat → ClassState → Nat → List Char →
    Option (CharSet × Nat × List Char)
  | 0, _, _, _ => none
  | fuel + 1, state, depth, cs =>
    match skipVerbose f cs with
    | [] => none
    | ']' :: rest => some (state.value f, depth, rest)
    | '[' :: rest =>
      match posixClass? rest with
      | some (s, rest) => readClassMembers? f fuel (state.add s) depth rest
      | none => do
        let (s, inner, rest) ← readClass? f fuel rest
        readClassMembers? f fuel (state.add s) (max depth inner) rest
    | '&' :: '&' :: rest => readClassMembers? f fuel (state.operate f .inter) depth rest
    | '-' :: '-' :: rest => readClassMembers? f fuel (state.operate f .diff) depth rest
    | '~' :: '~' :: rest => readClassMembers? f fuel (state.operate f .symmDiff) depth rest
    | cs => do
      let (s, rest) ← classRange? f cs
      readClassMembers? f fuel (state.add s) depth rest

end

/-! ## Repetitions and groups -/

/-- A decimal number with blanks around it; the inner `none` means that no digits stand there. -/
def readCount? (cs : List Char) : Option (Option Nat × List Char) :=
  let cs := cs.dropWhile isBlank
  let digits := cs.takeWhile Char.isDigit
  let rest := (cs.drop digits.length).dropWhile isBlank
  if digits.isEmpty then some (none, rest)
  else
    let n := digits.foldl (fun n c => n * 10 + (c.toNat - '0'.toNat)) 0
    if n < 4294967296 then some (some n, rest) else none

/-- The bounds of a counted repetition, after its opening brace. -/
def readBounds? (f : Flags) (cs : List Char) : Option ((Nat × Option Nat) × List Char) := do
  let (least, rest) ← readCount? cs
  let least ← least
  match rest with
  | '\x7d' :: rest => return ((least, some least), rest)
  | ',' :: rest =>
    match skipVerbose f rest with
    | '\x7d' :: rest => return ((least, none), rest)
    | rest =>
      let (most, rest) ← readCount? rest
      let most ← most
      match rest with
      | '\x7d' :: rest => if least ≤ most then return ((least, some most), rest) else none
      | _ => none
  | _ => none

/-- Flags up to a colon or a closing parenthesis, which is left in place. No flag may be named
twice, and a minus needs a flag after it. -/
def readFlags? (f : Flags) : Bool → List Char → List Char → Option (Flags × List Char × List Char)
  | _, _, [] => none
  | minus, seen, c :: rest =>
    if c = ':' ∨ c = ')' then
      if seen.head? = some '-' then none else some (f, seen, c :: rest)
    else if seen.contains c then none
    else if c = '-' then readFlags? f true (c :: seen) rest
    else do readFlags? (← f.set? (!minus) c) minus (c :: seen) rest

/-- True of the characters of a group's name. -/
def isNameChar (first : Bool) (c : Char) : Bool :=
  c = '_' || (CharSet.property "Alphabetic").contains c.toNat ||
    (!first && (c = '.' || c = '[' || c = ']' ||
      (CharSet.unionAll [.digits, .category "Nl", .category "No"]).contains c.toNat))

/-- The rest of a group's name, up to the closing angle bracket. -/
def readName? (cs : List Char) : Option (String × List Char) :=
  let name := cs.takeWhile (· ≠ '>')
  match name, cs.drop name.length with
  | c :: more, '>' :: rest =>
    if isNameChar true c && more.all (isNameChar false) then some (String.ofList name, rest)
    else none
  | _, _ => none

/-- How deeply an expression may be nested. -/
def maxDepth : Nat := 250

/-- What stands in a sequence: an expression with its depth, or a change of flags, which cannot be
repeated. -/
inductive Part where
  | expr (r : Regex) (depth : Nat)
  | flags

/-- The alternatives finished so far and the parts of the one under way, both in reverse. -/
structure Sequence where
  branches : List (Regex × Nat) := []
  parts : List Part := []

/-- The expression of the alternative under way, with its depth. -/
def Sequence.current (s : Sequence) : Regex × Nat :=
  let exprs := s.parts.reverse.filterMap fun
    | .expr r _ => some r
    | .flags => none
  let depth := s.parts.foldl (fun d p => match p with
    | .expr _ e => max d e
    | .flags => d) 0
  match s.parts with
  | [] => (.empty, 0)
  | [_] => (match exprs with
    | [r] => r
    | _ => .empty, depth)
  | _ => (.concat exprs, depth + 1)

/-- Starts the next alternative. -/
def Sequence.nextBranch (s : Sequence) : Sequence :=
  { branches := s.current :: s.branches }

/-- The expression of all alternatives, with its depth. -/
def Sequence.value (s : Sequence) : Regex × Nat :=
  match s.branches with
  | [] => s.current
  | _ =>
    let all := (s.current :: s.branches).reverse
    (.alternate (all.map (·.1)), all.foldl (fun d b => max d b.2) 0 + 1)

def Sequence.push (s : Sequence) (r : Regex) (depth : Nat) : Sequence :=
  { s with parts := .expr r depth :: s.parts }

/-- Repeats the last part; a question mark after the operator turns its preference round. -/
def Sequence.repeat? (f : Flags) (least : Nat) (most : Option Nat) (s : Sequence)
    (rest : List Char) : Option (Sequence × List Char) :=
  match s.parts with
  | .expr r depth :: parts =>
    let (marked, rest) := match skipVerbose f rest with
      | '?' :: rest => (true, rest)
      | _ => (false, rest)
    let greedy := marked == f.swapGreed
    some ({ s with parts := .expr (mkRepetition least most greedy r) (depth + 1) :: parts }, rest)
  | _ => none

/-- The set of a literal character. -/
def literal (f : Flags) (c : Char) : Regex :=
  .set (foldCase f (.singleton c))

/-- The expression of a class. Outside Unicode mode it may hold ASCII characters only. -/
def classExpr? (f : Flags) (s : CharSet) : Option Regex :=
  if f.unicode || s.isAscii then some (.set s) else none

/-- The expression of a dot. -/
def dot? (f : Flags) : Option Regex :=
  if !f.unicode then none
  else if f.dotAll then some (.set .all)
  else if f.crlf then some (.set (CharSet.ofPoints [0x0A, 0x0D]).complement)
  else some (.set (CharSet.singleton '\n').complement)

mutual

/-- Reads alternatives up to the end or a closing parenthesis, which is left in place. Answers with
the expression, its depth, the names of groups seen, and the rest. -/
def readAlternatives? : Nat → Flags → List String → Sequence → List Char →
    Option (Regex × Nat × List String × List Char)
  | 0, _, _, _, _ => none
  | fuel + 1, f, names, s, cs =>
    match skipVerbose f cs with
    | [] => some (s.value.1, s.value.2, names, [])
    | ')' :: rest => some (s.value.1, s.value.2, names, ')' :: rest)
    | '|' :: rest => readAlternatives? fuel f names s.nextBranch rest
    | '(' :: rest => readGroup? fuel f names s rest
    | '[' :: rest => do
      let (members, depth, rest) ← readClass? f fuel rest
      readAlternatives? fuel f names (s.push (← classExpr? f members) depth) rest
    | '?' :: rest => do
      let (s, rest) ← s.repeat? f 0 (some 1) rest
      readAlternatives? fuel f names s rest
    | '*' :: rest => do
      let (s, rest) ← s.repeat? f 0 none rest
      readAlternatives? fuel f names s rest
    | '+' :: rest => do
      let (s, rest) ← s.repeat? f 1 none rest
      readAlternatives? fuel f names s rest
    | '\x7b' :: rest => do
      let ((least, most), rest) ← readBounds? f rest
      let (s, rest) ← s.repeat? f least most rest
      readAlternatives? fuel f names s rest
    | '\\' :: rest => do
      let (e, rest) ← readEscape? f rest
      let r ← match e with
        | .char c => some (literal f c)
        | .class members => classExpr? f members
        | .look a => some (.look a)
      readAlternatives? fuel f names (s.push r 0) rest
    | '.' :: rest => do readAlternatives? fuel f names (s.push (← dot? f) 0) rest
    | '^' :: rest =>
      let a := if f.multiLine then Assertion.lineStart f.crlf else .textStart
      readAlternatives? fuel f names (s.push (.look a) 0) rest
    | '$' :: rest =>
      let a := if f.multiLine then Assertion.lineEnd f.crlf else .textEnd
      readAlternatives? fuel f names (s.push (.look a) 0) rest
    | c :: rest => readAlternatives? fuel f names (s.push (literal f c) 0) rest

/-- Reads a group after its opening parenthesis, and goes on with the sequence after it. -/
def readGroup? : Nat → Flags → List String → Sequence → List Char →
    Option (Regex × Nat × List String × List Char)
  | 0, _, _, _, _ => none
  | fuel + 1, f, names, s, cs =>
    let inside := fun (inner : Flags) (names : List String) (rest : List Char) => do
      let (r, depth, names, rest) ← readAlternatives? fuel inner names {} rest
      match rest with
      | ')' :: rest => readAlternatives? fuel f names (s.push r (depth + 1)) rest
      | _ => none
    let named := fun (rest : List Char) => do
      let (name, rest) ← readName? rest
      if names.contains name then none else inside f (name :: names) rest
    match skipVerbose f cs with
    | '?' :: 'P' :: '<' :: rest => named rest
    | '?' :: '<' :: '=' :: _ => none
    | '?' :: '<' :: '!' :: _ => none
    | '?' :: '<' :: rest => named rest
    | '?' :: rest => do
      match ← readFlags? f false [] rest with
      | (inner, seen, ')' :: rest) =>
        if seen.isEmpty then none
        else readAlternatives? fuel inner names { s with parts := .flags :: s.parts } rest
      | (inner, _, ':' :: rest) => inside inner names rest
      | _ => none
    | cs => inside f names cs

end

/-- The expression that a text writes. -/
def parse? (s : String) : Option Regex := do
  let cs := s.toList
  let (r, depth, _, rest) ← readAlternatives? (2 * cs.length + 2) {} [] {} cs
  if rest.isEmpty && depth ≤ maxDepth && r.weight ≤ maxWeight then return r else none

end Turnstile.Regex
