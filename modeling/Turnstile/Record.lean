import Turnstile.Json
import Turnstile.Toml.Document

/-!
# Records

Reading values with known fields. A record comes from a TOML document, from a TOML value that was
read before, or from JSON; the three forms differ in small points (`Form`), and TOML is read in the
terms of JSON (`fromToml`).

A reader gives `none` for a value of the wrong type.
-/

namespace Turnstile.Record

/-- How a record is written. -/
inductive Form where
  /-- As a TOML document of its own. -/
  | document
  /-- As a table of the configuration, read as a value first. -/
  | stored
  /-- As JSON. -/
  | json
  deriving DecidableEq, Repr

mutual

/-- A TOML value in the terms of JSON. A date of a document is a table of its own, a date of a
stored value a text. -/
def fromToml (form : Form) : Toml → Json
  | .string s => .string s
  | .integer n => .number (.integer n)
  | .float x => .number (.float x)
  | .boolean b => .bool b
  | .datetime text =>
    if form = .stored then .string text else .object [("datetime", .string text)]
  | .array items => .array (fromTomlItems form items)
  | .table entries => .object (fromTomlEntries form entries)

def fromTomlItems (form : Form) : List Toml → List Json
  | [] => []
  | v :: rest => fromToml form v :: fromTomlItems form rest

def fromTomlEntries (form : Form) : List (String × Toml) → List (String × Json)
  | [] => []
  | (name, v) :: rest => (name, fromToml form v) :: fromTomlEntries form rest

end

/-- The named fields of a record. A record may also be written as the list of its first fields;
more items than fields are refused, except in a document. -/
def fields? (form : Form) (names : List String) : Json → Option Json
  | .object members => some (.object members)
  | .array items =>
    if form ≠ .document && names.length < items.length then none
    else some (.object (names.zip items))
  | _ => none

/-- A field with a value for its absence. -/
def fieldOr {α : Type} (absent : α) (read : Json → Option α) (name : String) (v : Json) :
    Option α :=
  match v.get? name with
  | none => some absent
  | some v => read v

/-- A field that may be absent or null. -/
def optional? {α : Type} (read : Json → Option α) (name : String) (v : Json) :
    Option (Option α) :=
  match v.get? name with
  | none => some none
  | some .null => some none
  | some v => (read v).map some

def string? : Json → Option String
  | .string s => some s
  | _ => none

def bool? : Json → Option Bool
  | .bool b => some b
  | _ => none

def list? {α : Type} (read : Json → Option α) : Json → Option (List α)
  | .array items => items.mapM read
  | _ => none

/-- A name out of a few, also in the form of a table whose one entry has that name and nothing in
it. -/
def choice? {α : Type} (form : Form) (ofName : String → Option α) : Json → Option α
  | .string s => ofName s
  | .object [(name, v)] =>
    let isEmpty := match form, v with
      | .json, .null => true
      | .json, _ => false
      | _, .array [] => true
      | _, .object [] => true
      | _, _ => false
    if isEmpty then ofName name else none
  | _ => none

end Turnstile.Record
