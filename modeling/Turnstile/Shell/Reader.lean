import Turnstile.Shell.Syntax

/-!
# Reading commands

`Script.read` reads a script, line by line: the commands of the lines before the first one with a
fault, and that fault. Reading a line sees words and operators (`token`), of which words in the
place of a command can be keywords.

The functions take fuel. Each call uses up a unit, and no more than a few calls come between two
characters, so fuel in proportion to the length of the script is enough.
-/

namespace Turnstile.Shell

/-- What is wrong with a script. -/
inductive SyntaxFault where
  | unterminatedQuote
  | missing (closing : String)
  | unterminatedBackquote
  | badLoopVariable
  | badFunctionName
  /-- A token in the wrong place, and the only one that could stand there. -/
  | unexpected (token : String) (expected : Option String)
  /-- The fuel ran out. -/
  | tooDeep
  deriving DecidableEq, Repr

def SyntaxFault.message : SyntaxFault → String
  | .unterminatedQuote => "Syntax error: Unterminated quoted string"
  | .missing closing => "Syntax error: Missing '" ++ closing ++ "'"
  | .unterminatedBackquote => "Syntax error: EOF in backquote substitution"
  | .badLoopVariable => "Syntax error: Bad for loop variable"
  | .badFunctionName => "Syntax error: Bad function name"
  | .unexpected token none => "Syntax error: " ++ token ++ " unexpected"
  | .unexpected token (some expected) =>
    "Syntax error: " ++ token ++ " unexpected (expecting " ++ expected ++ ")"
  | .tooDeep => "Syntax error: nested too deeply"

/-- A token of a line. -/
inductive Token where
  | finish
  | newline
  | op (s : String)
  | redirect (descriptor : Option Nat) (op : String)
  | word (w : Word)
  deriving Inhabited

/-- What is left of a script. -/
structure Source where
  rest : List Char
  line : Nat := 1
  /-- A token that was read ahead. -/
  ahead : Option Token := none

abbrev Read := StateT Source (Except (Nat × SyntaxFault))

namespace Read

def fail {α : Type} (fault : SyntaxFault) : Read α := do
  throw ((← get).line, fault)

/-- The next characters, without taking them. -/
def upcoming : Read (List Char) := return (← get).rest

/-- Takes a number of characters. -/
def skip (n : Nat) : Read Unit :=
  modify fun s =>
    { s with
      rest := s.rest.drop n
      line := s.line + (s.rest.take n).count '\n' }

/-- Takes the characters of a class. -/
def takeWhile (p : Char → Bool) : Read String := do
  let cs := (← upcoming).takeWhile p
  skip cs.length
  return String.ofList cs

/-- Adds text behind parts that are held in reverse; texts of one kind are joined. -/
def addText (acc : List Part) (s : String) (quoted : Bool) : List Part :=
  match acc with
  | .text before q :: more =>
    if q = quoted then .text (before ++ s) q :: more else .text s quoted :: acc
  | _ => .text s quoted :: acc

end Read

open Read

/-- True of the characters that a name may start with. -/
def isNameStart (c : Char) : Bool := c.isAlpha || c = '_'

/-- True of the characters of names. -/
def isNameChar (c : Char) : Bool := c.isAlphanum || c = '_'

/-- True of a name of a variable. -/
def isName (s : String) : Bool :=
  match s.toList with
  | [] => false
  | c :: rest => isNameStart c && rest.all isNameChar

/-- True of the characters that end a word. -/
def endsWord (c : Char) : Bool :=
  c = ' ' || c = '\t' || c = '\n' || c = '&' || c = '|' || c = ';' || c = '(' || c = ')' ||
    c = '<' || c = '>'

/-- True of the parameters whose name is one character that is no letter. -/
def isSpecialParam (c : Char) : Bool :=
  c.isDigit || c = '@' || c = '*' || c = '#' || c = '?' || c = '-' || c = '$' || c = '!'

/-- Where the parts of a word are read. -/
inductive Context where
  /-- A word of a command. -/
  | word
  /-- Between double quotes. -/
  | quotes
  /-- The word of an expansion, up to its brace. -/
  | braces (quoted : Bool)
  /-- An arithmetic expression, inside some parentheses of its own. -/
  | arithmetic (depth : Nat)
  /-- A document that is read by a command. -/
  | document
  deriving DecidableEq

/-- True where text counts as quoted. -/
def Context.quotes? : Context → Bool
  | .word | .braces false => false
  | _ => true

/-- The keyword that a token is in the place of a command. -/
def Token.keyword? : Token → Option String
  | .word [.text s false] => some s
  | _ => none

/-- The words that end a list of commands. -/
def closers : List String := ["then", "do", "done", "elif", "else", "esac", "fi", "\x7d"]

/-- True of tokens that end a list of commands. -/
def Token.isCloser (t : Token) : Bool :=
  match t with
  | .finish => true
  | .op s => s == ")" || s == ";;"
  | t => (t.keyword?.map closers.contains).getD false

/-- The keywords. -/
def keywords : List String :=
  closers ++ ["!", "case", "for", "if", "in", "until", "while", "\x7b"]

/-- A token in messages. -/
def Token.shown (t : Token) : String :=
  match t with
  | .finish => "end of file"
  | .newline => "newline"
  | .op s => "\"" ++ s ++ "\""
  | .redirect .. => "redirection"
  | .word _ => match t.keyword? with
    | some s => if keywords.contains s then "\"" ++ s ++ "\"" else "word"
    | none => "word"

/-- The lines of a document up to its delimiter, and what follows it. -/
def splitDocument (delimiter : List Char) (stripTabs : Bool) :
    Nat → List Char → List Char → List Char × List Char
  | 0, acc, cs => (acc.reverse, cs)
  | fuel + 1, acc, cs =>
    if cs.isEmpty then (acc.reverse, [])
    else
      let line := cs.takeWhile (· ≠ '\n')
      let after := (cs.drop line.length).drop 1
      let line := if stripTabs then line.dropWhile (· = '\t') else line
      if line = delimiter then (acc.reverse, after)
      else splitDocument delimiter stripTabs fuel ('\n' :: line.reverse ++ acc) after

/-- The text of a word as it is written, without quotes, and whether it has any. -/
def plainText (w : Word) : String × Bool :=
  w.foldl (fun (s, quoted) p => match p with
    | .text t q => (s ++ t, quoted || q)
    | _ => (s, quoted)) ("", false)

/-- Splits an assignment. -/
def assignment? (w : Word) : Option (String × Word) :=
  match w with
  | .text s false :: more =>
    let name := s.toList.takeWhile (· ≠ '=')
    match s.toList.drop name.length with
    | _ :: value =>
      if isName (String.ofList name) then
        some (String.ofList name,
          if value.isEmpty then more else .text (String.ofList value) false :: more)
      else none
    | [] => none
  | _ => none

/-- The commands one after the other. -/
def inSequence : List Command → Command
  | [] => .nothing
  | [c] => c
  | c :: rest => .sequence c (inSequence rest)

mutual

/-- Reads parts of a word; `acc` holds in reverse those read so far. -/
def parts : Nat → Context → List Part → Read (List Part)
  | 0, _, _ => fail .tooDeep
  | fuel + 1, ctx, acc => do
    let quoted := ctx.quotes?
    let isDocument := ctx = .document
    match ← upcoming with
    | [] =>
      match ctx with
      | .word | .document => return acc.reverse
      | .quotes => fail .unterminatedQuote
      | .braces _ => fail (.missing "\x7d")
      | .arithmetic _ => fail (.missing "))")
    | '\\' :: '\n' :: _ => do skip 2; parts fuel ctx acc
    | '\\' :: c :: _ =>
      skip 2
      let escapes := c = '$' || c = '\x60' || c = '\\' || (c = '"' && !isDocument) ||
        (c = '\x7d' && ctx = .braces true)
      if !quoted || escapes then parts fuel ctx (addText acc (String.ofList [c]) true)
      else parts fuel ctx (addText acc (String.ofList ['\\', c]) true)
    | '\'' :: rest =>
      if quoted then do skip 1; parts fuel ctx (addText acc "'" true)
      else
        let inner := rest.takeWhile (· ≠ '\'')
        if inner.length = rest.length then do skip (rest.length + 1); fail .unterminatedQuote
        else do
          skip (inner.length + 2)
          parts fuel ctx (addText acc (String.ofList inner) true)
    | '"' :: _ =>
      skip 1
      match ctx with
      | .quotes => return acc.reverse
      | .document => parts fuel ctx (addText acc "\"" true)
      | .arithmetic _ => parts fuel ctx acc
      | _ =>
        let inner ← parts fuel .quotes []
        parts fuel ctx ((if inner.isEmpty then [.text "" true] else inner.reverse) ++ acc)
    | '$' :: _ => do skip 1; parts fuel ctx (← dollar fuel quoted acc)
    | '\x60' :: _ => do
      skip 1
      let body ← backquoted fuel isDocument []
      parts fuel ctx (.output body quoted :: acc)
    | '\x7d' :: _ =>
      match ctx with
      | .braces _ => skip 1; return acc.reverse
      | _ => skip 1; parts fuel ctx (addText acc "\x7d" quoted)
    | ')' :: rest =>
      match ctx with
      | .word => return acc.reverse
      | .arithmetic 0 =>
        if rest.head? = some ')' then do skip 2; return acc.reverse
        else do skip 1; fail (.missing "))")
      | .arithmetic (depth + 1) => do
        skip 1
        parts fuel (.arithmetic depth) (addText acc ")" true)
      | _ => do skip 1; parts fuel ctx (addText acc ")" quoted)
    | '(' :: _ =>
      match ctx with
      | .word => return acc.reverse
      | .arithmetic depth => do
        skip 1
        parts fuel (.arithmetic (depth + 1)) (addText acc "(" true)
      | _ => do skip 1; parts fuel ctx (addText acc "(" quoted)
    | c :: _ =>
      if ctx = .word && endsWord c then return acc.reverse
      else do skip 1; parts fuel ctx (addText acc (String.ofList [c]) quoted)

/-- Reads what follows a dollar sign. -/
def dollar : Nat → Bool → List Part → Read (List Part)
  | 0, _, _ => fail .tooDeep
  | fuel + 1, quoted, acc => do
    match ← upcoming with
    | '(' :: '(' :: _ => do
      skip 2
      return .arithmetic (← parts fuel (.arithmetic 0) []) quoted :: acc
    | '(' :: _ => do
      skip 1
      let body ← listUntil fuel ")"
      return .output body quoted :: acc
    | '\x7b' :: _ => do
      skip 1
      return (← braced fuel quoted) :: acc
    | c :: _ =>
      if isNameStart c then return .param (← takeWhile isNameChar) quoted :: acc
      else if isSpecialParam c then do
        skip 1
        return .param (String.ofList [c]) quoted :: acc
      else return addText acc "$" quoted
    | [] => return addText acc "$" quoted

/-- Reads an expansion between braces, after the opening one. -/
def braced : Nat → Bool → Read Part
  | 0, _ => fail .tooDeep
  | fuel + 1, quoted => do
    match ← upcoming with
    | '#' :: '\x7d' :: _ => do skip 2; return .param "#" quoted
    | '#' :: c :: _ =>
      if isNameStart c || isSpecialParam c then do
        skip 1
        let name ← paramName
        match ← upcoming with
        | '\x7d' :: _ => do skip 1; return .paramLength name quoted
        | _ => do let _ ← parts fuel (.braces quoted) []; return .bad
      else operation fuel "#" quoted
    | _ =>
      let name ← paramName
      if name.isEmpty then do let _ ← parts fuel (.braces quoted) []; return .bad
      else operation fuel name quoted
where
  paramName : Read String := do
    match ← upcoming with
    | c :: _ =>
      if isNameStart c then takeWhile isNameChar
      else if c.isDigit then takeWhile Char.isDigit
      else if isSpecialParam c then do skip 1; return String.ofList [c]
      else return ""
    | [] => return ""

/-- Reads the operation of an expansion and its word. -/
def operation : Nat → String → Bool → Read Part
  | 0, _, _ => fail .tooDeep
  | fuel + 1, name, quoted => do
    let finish (n : Nat) (op : ParamOp) (colon : Bool) : Read Part := do
      skip n
      -- a pattern is one, even where the expansion stands in quotes
      let isPattern := match op with
        | .trimStart _ | .trimEnd _ => true
        | _ => false
      return .paramWith name op colon (← parts fuel (.braces (quoted && !isPattern)) []) quoted
    let simple? : Char → Option ParamOp
      | '-' => some .useDefault
      | '=' => some .assignDefault
      | '?' => some .complain
      | '+' => some .useOther
      | _ => none
    match ← upcoming with
    | '\x7d' :: _ => do skip 1; return .param name quoted
    | ':' :: c :: _ =>
      match simple? c with
      | some op => finish 2 op true
      | none => do let _ ← parts fuel (.braces quoted) []; return .bad
    | '%' :: '%' :: _ => finish 2 (.trimEnd true) false
    | '%' :: _ => finish 1 (.trimEnd false) false
    | '#' :: '#' :: _ => finish 2 (.trimStart true) false
    | '#' :: _ => finish 1 (.trimStart false) false
    | c :: _ =>
      match simple? c with
      | some op => finish 1 op false
      | none => do let _ ← parts fuel (.braces quoted) []; return .bad
    | [] => fail (.missing "\x7d")

/-- Reads commands between backquotes, after the first one. -/
def backquoted : Nat → Bool → List Char → Read Command
  | 0, _, _ => fail .tooDeep
  | fuel + 1, inDocument, acc => do
    match ← upcoming with
    | [] => fail .unterminatedBackquote
    | '\x60' :: _ => do
      skip 1
      let outer ← get
      set { outer with rest := acc.reverse, ahead := none : Source }
      let body ← wholeList fuel
      set { outer with line := (← get).line : Source }
      return body
    | '\\' :: c :: _ => do
      skip 2
      if c = '\x60' || c = '\\' || c = '$' then backquoted fuel inDocument (c :: acc)
      else backquoted fuel inDocument (c :: '\\' :: acc)
    | c :: _ => do skip 1; backquoted fuel inDocument (c :: acc)

/-- Reads a token. -/
def token : Nat → Read Token
  | 0 => fail .tooDeep
  | fuel + 1 => do
    if let some t := (← get).ahead then
      modify fun s => { s with ahead := none }
      return t
    match ← upcoming with
    | [] => return .finish
    | ' ' :: _ | '\t' :: _ => do skip 1; token fuel
    | '\\' :: '\n' :: _ => do skip 2; token fuel
    | '#' :: _ => do let _ ← takeWhile (· ≠ '\n'); token fuel
    | '\n' :: _ => do skip 1; return .newline
    | '&' :: '&' :: _ => do skip 2; return .op "&&"
    | '|' :: '|' :: _ => do skip 2; return .op "||"
    | ';' :: ';' :: _ => do skip 2; return .op ";;"
    | '&' :: _ => do skip 1; return .op "&"
    | '|' :: _ => do skip 1; return .op "|"
    | ';' :: _ => do skip 1; return .op ";"
    | '(' :: _ => do skip 1; return .op "("
    | ')' :: _ => do skip 1; return .op ")"
    | cs =>
      let digits := cs.takeWhile Char.isDigit
      let redirection? : List Char → Option String
        | '<' :: '<' :: '-' :: _ => some "<<-"
        | '<' :: '<' :: _ => some "<<"
        | '<' :: '&' :: _ => some "<&"
        | '<' :: '>' :: _ => some "<>"
        | '<' :: _ => some "<"
        | '>' :: '>' :: _ => some ">>"
        | '>' :: '&' :: _ => some ">&"
        | '>' :: '|' :: _ => some ">|"
        | '>' :: _ => some ">"
        | _ => none
      match redirection? (cs.drop digits.length) with
      | some op =>
        skip (digits.length + op.length)
        let descriptor := if digits.isEmpty then none
          else some (digits.foldl (fun n c => n * 10 + (c.toNat - 48)) 0)
        return .redirect descriptor op
      | none => return .word (← parts fuel .word [])

/-- The next token, without taking it. -/
def peek : Nat → Read Token
  | 0 => fail .tooDeep
  | fuel + 1 => do
    let t ← token fuel
    modify fun s => { s with ahead := some t }
    return t

/-- Reads the target of a redirection. A document stands on the lines that follow. -/
def redirect : Nat → Option Nat → String → Read Redirect
  | 0, _, _ => fail .tooDeep
  | fuel + 1, descriptor, op => do
    match ← token fuel with
    | .word w =>
      if op == "<<" || op == "<<-" then
        let (delimiter, quoted) := plainText w
        let rest ← upcoming
        let thisLine := rest.takeWhile (· ≠ '\n')
        let (body, after) := splitDocument delimiter.toList (op == "<<-") (rest.length + 1) []
          ((rest.drop thisLine.length).drop 1)
        let outer ← get
        let content ← if quoted then pure [Part.text (String.ofList body) true]
          else do
            set { outer with rest := body, ahead := none : Source }
            parts fuel .document []
        set { outer with rest := thisLine ++ '\n' :: after : Source }
        return .mk (descriptor.getD 0) .document content
      else
        let kind : RedirectKind := match op with
          | "<" => .input
          | ">>" => .append
          | "<>" => .both
          | "<&" | ">&" => .copy
          | _ => .output
        let standard := if op.toList.head? = some '<' then 0 else 1
        return .mk (descriptor.getD standard) kind w
    | t => fail (.unexpected t.shown none)

/-- Reads the redirections that follow a command. -/
def redirects : Nat → List Redirect → Read (List Redirect)
  | 0, _ => fail .tooDeep
  | fuel + 1, acc => do
    match ← peek fuel with
    | .redirect descriptor op =>
      let _ ← token fuel
      redirects fuel ((← redirect fuel descriptor op) :: acc)
    | _ => return acc.reverse

/-- Skips newlines. -/
def newlines : Nat → Read Unit
  | 0 => fail .tooDeep
  | fuel + 1 => do
    match ← peek fuel with
    | .newline => do let _ ← token fuel; newlines fuel
    | _ => return

/-- Takes the keyword or the operator that must stand here. -/
def expect : Nat → String → Read Unit
  | 0, _ => fail .tooDeep
  | fuel + 1, s => do
    let t ← token fuel
    let isThere := match t with
      | .op o => o == s
      | t => t.keyword? == some s
    if isThere then return
    else fail (.unexpected t.shown (some ("\"" ++ s ++ "\"")))

/-- Reads the words, assignments and redirections of a simple command. -/
def simple : Nat → Nat → List (String × Word) → List Word → List Redirect → Read Command
  | 0, _, _, _, _ => fail .tooDeep
  | fuel + 1, line, assigns, words, rs => do
    match ← peek fuel with
    | .word w =>
      let _ ← token fuel
      match words, assignment? w with
      | [], some a => simple fuel line (a :: assigns) words rs
      | _, _ =>
        match words, assigns, rs, ← peek fuel with
        | [], [], [], .op "(" =>
          let (name, quoted) := plainText w
          if quoted || !isName name then fail .badFunctionName
          let _ ← token fuel
          expect fuel ")"
          newlines fuel
          return .define name (← command fuel)
        | _, _, _, _ => simple fuel line assigns (w :: words) rs
    | .redirect descriptor op =>
      let _ ← token fuel
      simple fuel line assigns words ((← redirect fuel descriptor op) :: rs)
    | t =>
      if words.isEmpty && assigns.isEmpty && rs.isEmpty then fail (.unexpected t.shown none)
      else return .simple line assigns.reverse words.reverse rs.reverse

/-- Reads a command. -/
def command : Nat → Read Command
  | 0 => fail .tooDeep
  | fuel + 1 => do
    let line := (← get).line
    let t ← peek fuel
    let withRedirects (c : Command) : Read Command := do
      let rs ← redirects fuel []
      return if rs.isEmpty then c else .redirected c rs
    match t, t.keyword? with
    | .op "(", _ => do
      let _ ← token fuel
      withRedirects (.subshell (← closedList fuel ")"))
    | _, some "\x7b" => do
      let _ ← token fuel
      withRedirects (← closedList fuel "\x7d")
    | _, some "if" => do
      let _ ← token fuel
      withRedirects (← conditional fuel)
    | _, some "while" => do
      let _ ← token fuel
      let test ← closedList fuel "do"
      withRedirects (.loop true test (← closedList fuel "done"))
    | _, some "until" => do
      let _ ← token fuel
      let test ← closedList fuel "do"
      withRedirects (.loop false test (← closedList fuel "done"))
    | _, some "for" => do
      let _ ← token fuel
      withRedirects (← forEach fuel)
    | _, some "case" => do
      let _ ← token fuel
      match ← token fuel with
      | .word w =>
        newlines fuel
        expect fuel "in"
        newlines fuel
        withRedirects (.select w (← arms fuel []))
      | t => fail (.unexpected t.shown none)
    | t, some k =>
      if closers.contains k then fail (.unexpected t.shown none) else simple fuel line [] [] []
    | _, none => simple fuel line [] [] []

/-- Reads a conditional after its first keyword. -/
def conditional : Nat → Read Command
  | 0 => fail .tooDeep
  | fuel + 1 => do
    let test ← closedList fuel "then"
    let yes ← list fuel
    let t ← token fuel
    match t.keyword? with
    | some "elif" => return .conditional test yes (← conditional fuel)
    | some "else" => return .conditional test yes (← closedList fuel "fi")
    | some "fi" => return .conditional test yes .nothing
    | _ => fail (.unexpected t.shown (some "\"fi\""))

/-- Reads a loop over words after its keyword. -/
def forEach : Nat → Read Command
  | 0 => fail .tooDeep
  | fuel + 1 => do
    match (← token fuel).keyword? with
    | some name =>
      if !isName name then fail .badLoopVariable
      newlines fuel
      let words ← match (← peek fuel).keyword? with
        | some "in" => do
          let _ ← token fuel
          let ws ← wordsOfLine fuel []
          pure (some ws)
        | _ => do
          match ← peek fuel with
          | .op ";" => do let _ ← token fuel; pure none
          | _ => pure none
      newlines fuel
      expect fuel "do"
      return .forEach name words (← closedList fuel "done")
    | none => fail .badLoopVariable

/-- Reads words up to the end of a line or a semicolon. -/
def wordsOfLine : Nat → List Word → Read (List Word)
  | 0, _ => fail .tooDeep
  | fuel + 1, acc => do
    match ← token fuel with
    | .word w => wordsOfLine fuel (w :: acc)
    | .newline | .op ";" => return acc.reverse
    | t => fail (.unexpected t.shown none)

/-- Reads the arms of a selection up to its last keyword. -/
def arms : Nat → List (List Word × Command) → Read (List (List Word × Command))
  | 0, _ => fail .tooDeep
  | fuel + 1, acc => do
    let t ← token fuel
    match t, t.keyword? with
    | _, some "esac" => return acc.reverse
    | .op "(", _ => do
      match ← token fuel with
      | .word w => arm w acc fuel
      | t => fail (.unexpected t.shown none)
    | .word w, _ => arm w acc fuel
    | t, _ => fail (.unexpected t.shown (some "\")\""))

/-- Reads an arm whose first pattern is read. -/
def arm (first : Word) (acc : List (List Word × Command)) :
    Nat → Read (List (List Word × Command))
  | 0 => fail .tooDeep
  | fuel + 1 => do
    let patterns ← alternatives fuel [first]
    newlines fuel
    let t ← peek fuel
    let body ← if t.isCloser then pure Command.nothing else list fuel
    match ← peek fuel with
    | .op ";;" => do
      let _ ← token fuel
      newlines fuel
      arms fuel ((patterns, body) :: acc)
    | t =>
      if t.keyword? == some "esac" then arms fuel ((patterns, body) :: acc)
      else fail (.unexpected t.shown (some "\";;\""))

/-- Reads the other patterns of an arm and the parenthesis behind them. -/
def alternatives : Nat → List Word → Read (List Word)
  | 0, _ => fail .tooDeep
  | fuel + 1, acc => do
    match ← token fuel with
    | .op ")" => return acc.reverse
    | .op "|" => do
      match ← token fuel with
      | .word w => alternatives fuel (w :: acc)
      | t => fail (.unexpected t.shown none)
    | t => fail (.unexpected t.shown (some "\")\""))

/-- Reads a list and the keyword or operator that closes it. -/
def closedList : Nat → String → Read Command
  | 0, _ => fail .tooDeep
  | fuel + 1, closer => do
    let c ← list fuel
    expect fuel closer
    return c

/-- Reads a list that may be empty and the operator that closes it. -/
def listUntil : Nat → String → Read Command
  | 0, _ => fail .tooDeep
  | fuel + 1, closer => do
    newlines fuel
    match ← peek fuel with
    | .op s => if s == closer then do let _ ← token fuel; return .nothing else closedList fuel closer
    | _ => closedList fuel closer

/-- Reads the list that a whole source holds. -/
def wholeList : Nat → Read Command
  | 0 => fail .tooDeep
  | fuel + 1 => do
    newlines fuel
    match ← peek fuel with
    | .finish => do let _ ← token fuel; return .nothing
    | _ =>
      let c ← list fuel
      match ← token fuel with
      | .finish => return c
      | t => fail (.unexpected t.shown none)

/-- Reads commands on any number of lines. At the end of the input there are none, so that what is
missing is what should close them. -/
def list : Nat → Read Command
  | 0 => fail .tooDeep
  | fuel + 1 => do
    newlines fuel
    if let .finish := ← peek fuel then return .nothing
    let (c, goesOn) ← terminated fuel
    if !goesOn then
      match ← peek fuel with
      | .newline => pure ()
      | _ => return c
    newlines fuel
    if (← peek fuel).isCloser then return c
    return .sequence c (← list fuel)

/-- Reads commands on one line. -/
def lineList : Nat → Read Command
  | 0 => fail .tooDeep
  | fuel + 1 => do
    let (c, goesOn) ← terminated fuel
    match ← peek fuel with
    | .newline | .finish => return c
    | t =>
      if goesOn then return .sequence c (← lineList fuel)
      else fail (.unexpected t.shown none)

/-- Reads a command with the operator behind it that ends it, if there is one. -/
def terminated : Nat → Read (Command × Bool)
  | 0 => fail .tooDeep
  | fuel + 1 => do
    let c ← chain fuel
    match ← peek fuel with
    | .op ";" => do let _ ← token fuel; return (c, true)
    | .op "&" => do let _ ← token fuel; return (.background c, true)
    | _ => return (c, false)

/-- Reads pipelines joined by `&&` and `||`. -/
def chain : Nat → Read Command
  | 0 => fail .tooDeep
  | fuel + 1 => do chainFrom (← pipeline fuel) fuel

/-- Reads the rest of a chain. -/
def chainFrom (c : Command) : Nat → Read Command
  | 0 => fail .tooDeep
  | fuel + 1 => do
    match ← peek fuel with
    | .op "&&" => do
      let _ ← token fuel
      newlines fuel
      chainFrom (.both c (← pipeline fuel)) fuel
    | .op "||" => do
      let _ ← token fuel
      newlines fuel
      chainFrom (.either c (← pipeline fuel)) fuel
    | _ => return c

/-- Reads commands joined by bars. -/
def pipeline : Nat → Read Command
  | 0 => fail .tooDeep
  | fuel + 1 => do
    if (← peek fuel).keyword? == some "!" then
      let _ ← token fuel
      return .negated (← pipeline fuel)
    else
      match ← piped fuel with
      | [c] => return c
      | cs => return .pipeline cs

/-- Reads the commands of a pipeline. -/
def piped : Nat → Read (List Command)
  | 0 => fail .tooDeep
  | fuel + 1 => do
    let c ← command fuel
    match ← peek fuel with
    | .op "|" => do
      let _ ← token fuel
      newlines fuel
      return c :: (← piped fuel)
    | _ => return [c]

end

/-- A script: the commands of its lines, up to the first line with a fault. -/
structure Script where
  lines : List Command
  fault : Option (Nat × SyntaxFault) := none

namespace Script

/-- Reads the lines from a source on. -/
def readFrom (fuel : Nat) : Nat → List Command → Source → Script
  | 0, acc, _ => { lines := acc.reverse }
  | rounds + 1, acc, s =>
    let step : Read (Option (Option Command)) := do
      match ← peek fuel with
      | .finish => return none
      | .newline => do let _ ← token fuel; return some none
      | _ => return some (some (← lineList fuel))
    match step s with
    | .error e => { lines := acc.reverse, fault := some e }
    | .ok (none, _) => { lines := acc.reverse }
    | .ok (some none, s) => readFrom fuel rounds acc s
    | .ok (some (some c), s) => readFrom fuel rounds (c :: acc) s

/-- Reads a script. -/
def read (text : String) : Script :=
  let cs := text.toList
  readFrom (20 * cs.length + 100) (2 * cs.length + 2) [] { rest := cs }

end Script

end Turnstile.Shell
