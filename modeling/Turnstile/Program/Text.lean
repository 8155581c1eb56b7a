import Turnstile.Number.Decimal
import Turnstile.Program.Launch
import Turnstile.Regex.Matcher

/-!
# Programs that work on text

Most of them take all their input and then make a report of it (`Call.digest`). A line of input
counts as a line also if the newline at its end is missing.
-/

namespace Turnstile.Program

open Shell

/-- The lines of octets, without their newlines. -/
def linesOf (data : Bytes) : List String :=
  let (last, done) := data.foldr (fun b (line, done) =>
    if b = 10 then (([] : List Char), String.ofList line :: done)
    else (Char.ofNat b.toNat :: line, done)) (([] : List Char), ([] : List String))
  let all := String.ofList last :: done
  -- behind the last newline there is no line
  if data.getLast? = some 10 || data.isEmpty then all.dropLast else all

/-- Lines, each with its newline. -/
def unlines (ls : List String) : Bytes := toBytes (String.join (ls.map (· ++ "\n")))

/-- The number of newlines. -/
def newlines (data : Bytes) : Nat := data.count 10

/-- The octets up to a number of newlines. -/
def takeLines : Nat → Bytes → Bytes → Bytes
  | 0, acc, _ => acc.reverse
  | _, acc, [] => acc.reverse
  | n + 1, acc, b :: rest =>
    if b = 10 then takeLines n (b :: acc) rest else takeLines (n + 1) (b :: acc) rest

/-- The octets behind a number of newlines. -/
def dropLines : Nat → Bytes → Bytes
  | 0, bs => bs
  | _, [] => []
  | n + 1, b :: rest => if b = 10 then dropLines n rest else dropLines (n + 1) rest

/-- Old-style arguments such as `-5`, written as `-n 5`. -/
def withoutShorthand (c : Call) : Call :=
  match c.arguments with
  | a :: rest =>
    match a.toList with
    | '-' :: d :: ds =>
      if (d :: ds).all Char.isDigit then { c with arguments := "-n" :: String.ofList (d :: ds) :: rest }
      else c
    | _ => c
  | [] => c

/-- Reports that are headed by the names of files, when there are several. -/
def perFile (c : Call) (operands : List String) (isEnough : Bytes → Bool) (f : Bytes → Bytes) :
    Launch :=
  match operands with
  | [] | [_] => c.digest operands 1 isEnough fun data => { out := f data }
  | os =>
    let (blocks, errors) := os.foldl (fun (blocks, errors) o =>
      match c.content o with
      | .ok data => (blocks ++ ["==> " ++ o ++ " <==\n" ++ ofBytes (f data)], errors)
      | .error e => (blocks, errors ++
          c.complaint ("cannot open " ++ "'" ++ o ++ "' for reading: " ++ e.reason)))
      (([] : List String), "")
    c.answer (String.intercalate "\n" blocks) errors (if errors.isEmpty then 0 else 1)

/-- The first octets of the file that holds zeros without end. -/
def zeros (c : Call) (n : Nat) : Launch :=
  { files := c.files, written := [(1, List.replicate n 0)], next := .finish 0 }

/-- The first lines or octets. A count behind a hyphen leaves out that many at the end. -/
def head (c : Call) : Launch :=
  (withoutShorthand c).withArguments "qv" "nc" 1 fun a =>
    let lines := (a.value? 'n').getD "10"
    let limit := (a.value? 'c').getD lines
    match limit.toList with
    | '-' :: ds =>
      match (String.ofList ds).toNat? with
      | some n => perFile c a.operands (fun _ => false) fun data =>
          if a.has 'c' then data.take (data.length - n)
          else takeLines ((linesOf data).length - n) [] data
      | none => c.fail ("invalid number of lines: '" ++ limit ++ "'")
    | _ =>
      match limit.toNat? with
      | some n =>
        if a.has 'c' && a.operands == ["/dev/zero"] then zeros c n
        else perFile c a.operands
          (fun data => if a.has 'c' then n ≤ data.length else n ≤ newlines data)
          fun data => if a.has 'c' then data.take n else takeLines n [] data
      | none => c.fail ("invalid number of lines: '" ++ limit ++ "'")

/-- The last lines or octets. A count behind a plus sign names the first one. -/
def tail (c : Call) : Launch :=
  (withoutShorthand c).withArguments "qvf" "nc" 1 fun a =>
    let lines := (a.value? 'n').getD "10"
    let limit := (a.value? 'c').getD lines
    let (fromStart, digits) := match limit.toList with
      | '+' :: ds => (true, ds)
      | '-' :: ds => (false, ds)
      | ds => (false, ds)
    match (String.ofList digits).toNat? with
    | some n => perFile c a.operands (fun _ => false) fun data =>
        match a.has 'c', fromStart with
        | true, true => data.drop (n - 1)
        | true, false => data.drop (data.length - n)
        | false, true => dropLines (n - 1) data
        | false, false => dropLines ((linesOf data).length - n) data
    | none => c.fail ("invalid number of lines: '" ++ limit ++ "'")

/-- A number with blanks in front, up to a width. -/
def alignRight (width n : Nat) : String :=
  let s := toString n
  String.ofList (List.replicate (width - s.length) ' ') ++ s

/-- Words, separated by blanks. -/
def wordCount (data : Bytes) : Nat :=
  (data.foldl (fun (n, inWord) b =>
    let isBlank := b = 32 || (9 ≤ b && b ≤ 13)
    if isBlank then (n, false) else (if inWord then n else n + 1, true)) ((0 : Nat), false)).1

/-- Counts of lines, words and octets. -/
def wc (c : Call) : Launch :=
  c.withArguments "lwcm" "" 1 fun a =>
    let shows := fun letter => a.options.isEmpty || a.has letter
    let counts := fun (data : Bytes) =>
      (if shows 'l' then [newlines data] else []) ++ (if shows 'w' then [wordCount data] else []) ++
        (if shows 'c' || shows 'm' then [data.length] else [])
    let line := fun (width : Nat) (ns : List Nat) (name : String) =>
      String.intercalate " " (ns.map (alignRight width)) ++
        (if name.isEmpty then "" else " " ++ name) ++ "\n"
    match a.operands with
    | [] => c.digest [] 1 (fun _ => false) fun data =>
        let ns := counts data
        { out := toBytes (line (if ns.length = 1 then 1 else 7) ns "") }
    | os =>
      let read := os.map fun o => (o, c.content o)
      let data := read.filterMap fun (o, r) => r.toOption.map (o, ·)
      let total := data.flatMap (·.2)
      let width := if os.length = 1 && (counts []).length = 1 then 1
        else (toString total.length).length
      let errors := read.filterMap fun (o, r) => match r with
        | .error e => some (c.complaint (o ++ ": " ++ e.reason))
        | .ok _ => none
      let lines := data.map fun (o, bs) => line width (counts bs) o
      let sums := data.map (fun (_, bs) => counts bs)
      let totals := sums.foldl (fun acc ns => List.zipWith (· + ·) acc ns)
        (List.replicate (counts []).length 0)
      let last := if 1 < os.length then [line width totals "total"] else []
      c.answer (String.join (lines ++ last)) (String.join errors) (if errors.isEmpty then 0 else 1)

/-- The number at the start of a line. -/
def leadingNumber (s : String) : Int :=
  let cs := s.toList.dropWhile fun c => c = ' ' || c = '\t'
  match cs with
  | '-' :: rest => -(natOfDigits (rest.takeWhile isDigit) : Int)
  | cs => natOfDigits (cs.takeWhile isDigit)

/-- Lines in ascending order. -/
def sort (c : Call) : Launch :=
  c.withArguments "rnufbs" "kto" 2 fun a =>
    c.digest a.operands 2 (fun _ => false) fun data =>
      let le := fun (x y : String) =>
        if a.has 'n' then
          leadingNumber x < leadingNumber y || (leadingNumber x == leadingNumber y && x ≤ y)
        else if a.has 'f' then x.map Char.toUpper < y.map Char.toUpper ||
          (x.map Char.toUpper == y.map Char.toUpper && x ≤ y)
        else x ≤ y
      let sorted := (linesOf data).mergeSort fun x y => if a.has 'r' then le y x else le x y
      let same := fun (x y : String) =>
        if a.has 'n' then leadingNumber x == leadingNumber y else x == y
      let kept := if a.has 'u' then
          sorted.foldr (fun x acc => match acc with
            | y :: rest => if same x y then x :: rest else x :: acc
            | [] => [x]) []
        else sorted
      { out := unlines kept }

/-- Lines with the number of times that each comes in a row. -/
def runs (ls : List String) : List (Nat × String) :=
  ls.foldr (fun x acc => match acc with
    | (n, y) :: rest => if x == y then (n + 1, x) :: rest else (1, x) :: acc
    | [] => [(1, x)]) []

/-- Lines without those that repeat the one before. -/
def uniq (c : Call) : Launch :=
  c.withArguments "cdu" "" 1 fun a =>
    c.digest a.operands 1 (fun _ => false) fun data =>
      let kept := (runs (linesOf data)).filter fun (n, _) =>
        (!a.has 'd' || 1 < n) && (!a.has 'u' || n = 1)
      { out := unlines (kept.map fun (n, s) => if a.has 'c' then alignRight 7 n ++ " " ++ s else s) }

/-- A basic expression in the terms of an extended one: its operators are written with a backslash
where the others are written without. -/
def extended : List Char → List Char
  | [] => []
  | '\\' :: c :: rest =>
    if ['(', ')', '\x7b', '\x7d', '|', '+', '?'].contains c then c :: extended rest
    else '\\' :: c :: extended rest
  | c :: rest =>
    if ['(', ')', '\x7b', '\x7d', '|', '+', '?'].contains c then '\\' :: c :: extended rest
    else c :: extended rest

/-- A text as an expression for itself. -/
def literally (cs : List Char) : List Char :=
  cs.flatMap fun c => if c.isAlphanum || c = '_' || c = ' ' || 127 ≤ c.toNat then [c] else ['\\', c]

/-- Lines that an expression matches. -/
def grep (c : Call) : Launch :=
  c.withArguments "ivcnqFEGwxshHoal" "em" 2 fun a =>
    let (pattern, operands) := match a.value? 'e' with
      | some p => (some p, a.operands)
      | none => (a.operands.head?, a.operands.drop 1)
    match pattern with
    | none => c.answer "" ("Usage: grep [OPTION]... PATTERNS [FILE]...\n" ++
        "Try 'grep --help' for more information.\n") 2
    | some pattern =>
      let body := if a.has 'F' then literally pattern.toList
        else if a.has 'E' then pattern.toList else extended pattern.toList
      let body := if a.has 'x' then "^(?:".toList ++ body ++ ")$".toList
        else if a.has 'w' then "\\b(?:".toList ++ body ++ ")\\b".toList else body
      let source := String.ofList ((if a.has 'i' then "(?i)".toList else []) ++ body)
      match Matcher.ofSource? source with
      | none => c.fail "Invalid regular expression" 2
      | some m =>
        let select := fun (data : Bytes) =>
          let numbered : List (String × Nat) := (linesOf data).zipIdx 1
          let hits := numbered.filter fun (s, _) => m.isMatch s.toList != a.has 'v'
          match (a.value? 'm').bind String.toNat? with
          | some n => hits.take n
          | none => hits
        let show' := fun (label : String) (hits : List (String × Nat)) =>
          if a.has 'q' then ""
          else if a.has 'l' then if hits.isEmpty then "" else label ++ "\n"
          else
            let label := if label.isEmpty || a.has 'h' then "" else label ++ ":"
            if a.has 'c' then label ++ toString hits.length ++ "\n"
            else String.join (hits.map fun (s, n) =>
              label ++ (if a.has 'n' then toString n ++ ":" else "") ++ s ++ "\n")
        match operands with
        | [] | ["-"] | [_] =>
          let label := if a.has 'l' then operands.headD "(standard input)"
            else if a.has 'H' then operands.headD "" else ""
          c.digest operands 2 (fun data => a.has 'q' && !(select data).isEmpty) fun data =>
            let hits := select data
            { out := toBytes (show' label hits), code := if hits.isEmpty then 1 else 0 }
        | os =>
          let read : List (String × Except FileError (List (String × Nat))) :=
            os.map fun o => (o, (c.content o).map select)
          let errors := read.filterMap fun (o, r) => match r with
            | .error e => some (c.complaint (o ++ ": " ++ e.reason))
            | .ok _ => none
          let hits := read.filterMap fun (o, r) => r.toOption.map (o, ·)
          c.answer (String.join (hits.map fun (o, hs) => show' o hs)) (String.join errors)
            (if !errors.isEmpty then 2 else if hits.all (·.2.isEmpty) then 1 else 0)

/-- The character that a backslash and a letter stand for, and the rest. -/
def escapeSequence : List Char → Char × List Char
  | 'n' :: rest => ('\n', rest)
  | 't' :: rest => ('\t', rest)
  | 'r' :: rest => ('\r', rest)
  | 'a' :: rest => ('\x07', rest)
  | 'b' :: rest => ('\x08', rest)
  | 'f' :: rest => ('\x0c', rest)
  | 'v' :: rest => ('\x0b', rest)
  | '\\' :: rest => ('\\', rest)
  | cs =>
    let digits := (cs.take 3).takeWhile fun c => '0' ≤ c && c ≤ '7'
    match digits, cs with
    | [], c :: rest => (c, rest)
    | [], [] => ('\\', [])
    | ds, cs => (Char.ofNat (ds.foldl (fun n d => n * 8 + digitValue d) 0 % 256), cs.drop ds.length)

/-- The characters of a set of a translation. -/
def characterSet : Nat → List Char → List Char
  | 0, _ => []
  | fuel + 1, cs =>
    match cs with
    | [] => []
    | '[' :: ':' :: rest =>
      let name := String.ofList (rest.takeWhile Char.isAlpha)
      let members := (Shell.Pattern.named? name).getD []
      let all := (List.range 256).map Char.ofNat
      all.filter (fun c => members.any (Wildcard.ClassMember.holds false c)) ++
        characterSet fuel (rest.drop (name.length + 2))
    | c :: rest =>
      let (a, rest) := if c = '\\' then escapeSequence rest else (c, rest)
      match rest with
      | '-' :: d :: more =>
        let (b, more) := if d = '\\' then escapeSequence more else (d, more)
        (List.range (b.toNat + 1 - a.toNat)).map (fun i => Char.ofNat (a.toNat + i)) ++
          characterSet fuel more
      | rest => a :: characterSet fuel rest

/-- Translates, deletes or squeezes characters. -/
def tr (c : Call) : Launch :=
  c.withArguments "dscC" "" 1 fun a =>
    let sets := a.operands.map fun o => characterSet (o.length + 1) o.toList
    let complement := a.has 'c' || a.has 'C'
    match sets with
    | [] => c.misuse "missing operand"
    | first :: more =>
      let isIn := fun (ch : Char) => first.contains ch != complement
      let second := more.headD []
      let translate := fun (ch : Char) =>
        if complement then if isIn ch then second.getLast?.getD ch else ch
        else match first.findIdx? (· == ch) with
          | some i => (second[i]?).getD (second.getLast?.getD ch)
          | none => ch
      let squeezed := if more.isEmpty || a.has 'd' then (if a.has 'd' then second.contains else isIn)
        else second.contains
      c.digest [] 1 (fun _ => false) fun data =>
        let cs := (ofBytes data).toList
        let cs := if a.has 'd' then cs.filter (!isIn ·)
          else if more.isEmpty then cs else cs.map translate
        let cs := if a.has 's' then
            (cs.foldl (fun acc ch =>
              if acc.head? = some ch && squeezed ch then acc else ch :: acc) []).reverse
          else cs
        { out := toBytes (String.ofList cs) }

/-- A list of ranges such as `1,3-5,7-`; the upper end may be open. -/
def ranges? (s : String) : Option (List (Nat × Option Nat)) :=
  (s.splitOn ",").mapM fun piece =>
    match piece.splitOn "-" with
    | [a] => a.toNat?.map fun n => (n, some n)
    | ["", b] => b.toNat?.map fun n => (1, some n)
    | [a, ""] => a.toNat?.map fun n => (n, none)
    | [a, b] => do return ((← a.toNat?), some (← b.toNat?))
    | _ => none

/-- True of a number in one of the ranges. -/
def inRanges (rs : List (Nat × Option Nat)) (n : Nat) : Bool :=
  rs.any fun (lo, hi) => lo ≤ n && (hi.all fun h => n ≤ h)

/-- Parts of lines. -/
def cut (c : Call) : Launch :=
  c.withArguments "sn" "dfcb" 1 fun a =>
    let places := ((a.value? 'f').or (a.value? 'c')).or (a.value? 'b')
    match places.bind ranges? with
    | none => c.misuse "you must specify a list of bytes, characters, or fields"
    | some rs =>
      let delimiter := (a.value? 'd').getD "\t"
      let ofLine := fun (s : String) =>
        if a.has 'f' then
          let fields := s.splitOn delimiter
          if fields.length = 1 then if a.has 's' then none else some s
          else some (String.intercalate delimiter
            ((fields.zipIdx 1).filter (fun (_, i) => inRanges rs i) |>.map (·.1)))
        else some (String.ofList ((s.toList.zipIdx 1).filter (fun (_, i) => inRanges rs i) |>.map (·.1)))
      c.digest a.operands 1 (fun _ => false) fun data =>
        { out := unlines ((linesOf data).filterMap ofLine) }

/-- Lines in reverse order. -/
def tac (c : Call) : Launch :=
  c.withArguments "" "" 1 fun a =>
    c.digest a.operands 1 (fun _ => false) fun data => { out := unlines (linesOf data).reverse }

/-- Lines with their characters in reverse order. -/
def rev (c : Call) : Launch :=
  c.withArguments "" "" 1 fun a =>
    c.digest a.operands 1 (fun _ => false) fun data =>
      { out := unlines ((linesOf data).map fun s => String.ofList s.toList.reverse) }

/-- The numbers from a first to a last one. -/
def seq (c : Call) : Launch :=
  let integer? := fun (s : String) => match s.toList with
    | '-' :: ds => (String.ofList ds).toNat?.map fun n => -(n : Int)
    | '+' :: ds => (String.ofList ds).toNat?.map fun n => (n : Int)
    | _ => s.toNat?.map fun n => (n : Int)
  let (separator, operands) := match c.arguments with
    | "-s" :: s :: rest => (s, rest)
    | rest => ("\n", rest)
  let output := fun (first step last : Int) =>
    if step = 0 then c.misuse "invalid Zero increment value: '0'"
    else
      let count := if 0 < step then (last - first) / step + 1 else (first - last) / (-step) + 1
      let values := (List.range count.toNat).map fun (i : Nat) => toString (first + step * (i : Int))
      c.answer (if values.isEmpty then "" else String.intercalate separator values ++ "\n")
  match operands with
  | [] => c.misuse "missing operand"
  | os =>
    match os.find? fun o => (integer? o).isNone with
    | some bad => c.misuse ("invalid floating point argument: '" ++ bad ++ "'")
    | none =>
      match os.filterMap integer? with
      | [last] => output 1 1 last
      | [first, last] => output first 1 last
      | [first, step, last] => output first step last
      | _ => c.misuse ("extra operand '" ++ (os[3]?).getD "" ++ "'")

/-- Writes a line over and over. -/
def yes (c : Call) : Launch :=
  let line := toBytes (String.intercalate " " (if c.arguments.isEmpty then ["y"] else c.arguments) ++ "\n")
  let times := 4096 / line.length + 1
  { files := c.files, next := .flood (List.replicate times line).flatten }

/-- A number of seconds with an optional unit, in nanoseconds. -/
def interval? (s : String) : Option Nat :=
  let cs := s.toList
  let (digits, unit) := match cs.getLast? with
    | some 's' => (cs.dropLast, 1)
    | some 'm' => (cs.dropLast, 60)
    | some 'h' => (cs.dropLast, 3600)
    | some 'd' => (cs.dropLast, 86400)
    | _ => (cs, 1)
  match readFloat? (String.ofList digits) with
  | some (.infinite false) => some (Nat.pow 10 30)
  | some x =>
    match Timespan.ofSeconds x with
    | .ok t => some (t.nanos * unit)
    | .error _ => none
  | none => none

/-- Waits. -/
def sleep (c : Call) : Launch :=
  match c.arguments with
  | [] => c.misuse "missing operand"
  | as =>
    match as.mapM interval? with
    | some spans => { files := c.files, next := .pause (c.now + spans.foldl (· + ·) 0) }
    | none =>
      let bad := as.filter fun a => (interval? a).isNone
      c.answer "" (String.join (bad.map fun a =>
        c.complaint ("invalid time interval '" ++ a ++ "'")) ++
        "Try 'sleep --help' for more information.\n") 1

/-- The last component of a path, without an ending. -/
def basename (c : Call) : Launch :=
  match c.arguments with
  | [] => c.misuse "missing operand"
  | path :: rest =>
    let trimmed := (path.toList.reverse.dropWhile (· = '/')).reverse
    let name := if trimmed.isEmpty then (if path.isEmpty then [] else ['/'])
      else (trimmed.reverse.takeWhile (· ≠ '/')).reverse
    let ending := (rest.headD "").toList
    let name := if ending.isSuffixOf name && ending.length < name.length then
        name.take (name.length - ending.length) else name
    c.answer (String.ofList name ++ "\n")

/-- A path without its last component. -/
def dirname (c : Call) : Launch :=
  match c.arguments with
  | [] => c.misuse "missing operand"
  | paths =>
    let parent := fun (path : String) =>
      let trimmed := path.toList.reverse.dropWhile (· = '/')
      let before := (trimmed.dropWhile (· ≠ '/')).dropWhile (· = '/')
      if !before.isEmpty then String.ofList before.reverse
      else if path.toList.head? = some '/' then "/" else "."
    c.answer (String.join (paths.map fun p => parent p ++ "\n"))

/-- The values of variables of the environment. -/
def printenv (c : Call) : Launch :=
  match c.arguments with
  | [] => c.answer (String.join (c.env.map fun (n, v) => n ++ "=" ++ v ++ "\n"))
  | names =>
    let values := names.filterMap fun n => c.env.lookup n
    c.answer (String.join (values.map (· ++ "\n"))) "" (if values.length = names.length then 0 else 1)

end Turnstile.Program
