import Turnstile.CharSet.Category
import Turnstile.CharSet.Folding
import Turnstile.CharSet.Property
import Turnstile.CharSet.Script

/-!
# Named classes of characters

The classes that patterns name: by escapes (`digits`, `blanks`, `words`), by POSIX names between
brackets (`posix?`), and by the names of Unicode properties (`property?`), which are compared
without regard to case, blanks, hyphens and underscores.
-/

namespace Turnstile.CharSet

/-- The table of the first entry one of whose names satisfies a condition. -/
def tableNamed? (isName : String → Bool) (tables : List (List String × String)) :
    Option String :=
  (tables.find? fun t => t.1.any isName).map (·.2)

/-- The characters of a general category, by its two-letter name. -/
def category (name : String) : CharSet :=
  ((tableNamed? (· == name) categoryTable).map ofTable).getD empty

/-- The characters with a binary property. -/
def property (name : String) : CharSet :=
  ((tableNamed? (· == name) propertyTable).map ofTable).getD empty

/-- The union of several sets. -/
def unionAll (sets : List CharSet) : CharSet := ofRanges (sets.flatMap (·.ranges))

/-- The decimal digits of all scripts. -/
def digits : CharSet := category "Nd"

/-- The blank characters. -/
def blanks : CharSet := property "White_Space"

/-- The characters that words are made of: letters, marks, decimal digits, connectors and joiners.
-/
def words : CharSet :=
  unionAll [property "Alphabetic", category "Mn", category "Mc", category "Me", digits,
    category "Pc", property "Join_Control"]

def asciiDigits : CharSet := ⟨[(0x30, 0x39)]⟩

def asciiBlanks : CharSet := ⟨[(0x09, 0x0D), (0x20, 0x20)]⟩

def asciiWords : CharSet := ⟨[(0x30, 0x39), (0x41, 0x5A), (0x5F, 0x5F), (0x61, 0x7A)]⟩

/-- The ASCII classes with names of their own. -/
def posix? : String → Option CharSet
  | "alnum" => some ⟨[(0x30, 0x39), (0x41, 0x5A), (0x61, 0x7A)]⟩
  | "alpha" => some ⟨[(0x41, 0x5A), (0x61, 0x7A)]⟩
  | "ascii" => some ⟨[(0x00, 0x7F)]⟩
  | "blank" => some ⟨[(0x09, 0x09), (0x20, 0x20)]⟩
  | "cntrl" => some ⟨[(0x00, 0x1F), (0x7F, 0x7F)]⟩
  | "digit" => some asciiDigits
  | "graph" => some ⟨[(0x21, 0x7E)]⟩
  | "lower" => some ⟨[(0x61, 0x7A)]⟩
  | "print" => some ⟨[(0x20, 0x7E)]⟩
  | "punct" => some ⟨[(0x21, 0x2F), (0x3A, 0x40), (0x5B, 0x60), (0x7B, 0x7E)]⟩
  | "space" => some asciiBlanks
  | "upper" => some ⟨[(0x41, 0x5A)]⟩
  | "word" => some asciiWords
  | "xdigit" => some ⟨[(0x30, 0x39), (0x41, 0x46), (0x61, 0x66)]⟩
  | _ => none

/-- A name reduced to what counts when names are compared. A leading "is" does not count either. -/
def looseName (name : String) : String :=
  let cs := name.toList
  let startsWithIs := match cs with
    | i :: s :: _ => i.toLower = 'i' && s.toLower = 's'
    | _ => false
  let body := if startsWithIs then cs.drop 2 else cs
  let kept := (body.filter fun c => c ≠ ' ' && c ≠ '_' && c ≠ '-' && c.toNat < 0x80).map Char.toLower
  String.ofList (if startsWithIs && kept = ['c'] then ['i', 's', 'c'] else kept)

/-- The categories that a name of one letter, or a word for it, puts together. -/
def categoryGroup? : String → Option (List String)
  | "l" | "letter" => some ["Lu", "Ll", "Lt", "Lm", "Lo"]
  | "lc" | "casedletter" => some ["Lu", "Ll", "Lt"]
  | "m" | "mark" | "combiningmark" => some ["Mn", "Mc", "Me"]
  | "n" | "number" => some ["Nd", "Nl", "No"]
  | "p" | "punctuation" | "punct" => some ["Pc", "Pd", "Ps", "Pe", "Pi", "Pf", "Po"]
  | "s" | "symbol" => some ["Sm", "Sc", "Sk", "So"]
  | "z" | "separator" => some ["Zs", "Zl", "Zp"]
  | "c" | "other" => some ["Cc", "Cf", "Cs", "Co", "Cn"]
  | _ => none

/-- The characters of a general category under any of its names, given in its loose form. -/
def categoryLoose? (name : String) : Option CharSet :=
  if name = "any" then some all
  else if name = "ascii" then some ⟨[(0, 0x7F)]⟩
  else if name = "assigned" then some (category "Cn").complement
  else match categoryGroup? name with
    | some parts => some (unionAll (parts.map category))
    | none => (tableNamed? (looseName · == name) categoryTable).map ofTable

/-- The characters of a script under any of its names, given in its loose form. -/
def scriptLoose? (name : String) : Option CharSet :=
  (tableNamed? (looseName · == name) scriptTable).map ofTable

/-- The characters that a property name on its own stands for: a binary property, else a general
category, else a script. Three short names are read as categories only. -/
def property? (name : String) : Option CharSet :=
  let name := looseName name
  let binary := if name = "cf" || name = "sc" || name = "lc" then none
    else (tableNamed? (looseName · == name) propertyTable).map ofTable
  binary <|> categoryLoose? name <|> scriptLoose? name

/-- The characters for which a property has a value. -/
def propertyValue? (name value : String) : Option CharSet :=
  let name := looseName name
  let value := looseName value
  if name = "gc" || name = "generalcategory" then categoryLoose? value
  else if name = "sc" || name = "script" || name = "scx" || name = "scriptextensions" then
    scriptLoose? value
  else none

end Turnstile.CharSet
