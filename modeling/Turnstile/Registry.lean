import Turnstile.Environment
import Turnstile.Text.Quoted
import Turnstile.Tool.Definition

/-!
# The registry

The tools that are offered in the host's environment, in ascending order of their ids. The first
definition of an id counts (`Registry.register`).

* `Registry.prompt` describes the tools to an agent; a tool whose every command is denied is left
  out.
* `Tool.schema` describes a tool's parameters as a JSON schema.
-/

namespace Turnstile

/-- Tools by id, in ascending order. -/
structure Registry where
  environment : Environment := .laptop
  tools : List Tool := []

/-- Puts a tool in its place among tools in ascending order of their ids. -/
def Tool.insertInto (t : Tool) : List Tool → List Tool
  | [] => [t]
  | u :: rest => if t.id < u.id then t :: u :: rest else u :: t.insertInto rest

namespace Registry

/-- The tool of an id. -/
def find? (r : Registry) (id : String) : Option Tool := r.tools.find? (·.id == id)

def ids (r : Registry) : List String := r.tools.map (·.id)

/-- True if a tool may be added: it is offered here, and its id is new. -/
def admits (r : Registry) (t : Tool) : Bool :=
  t.available.allows r.environment && (r.find? t.id).isNone

/-- Adds a tool, unless the registry does not admit it. -/
def register (r : Registry) (t : Tool) : Registry :=
  if r.admits t then { r with tools := t.insertInto r.tools } else r

/-- Adds tools one after another. -/
def registerAll (r : Registry) (ts : List Tool) : Registry := ts.foldl register r

end Registry

/-! ## The prompt -/

namespace Parameter

/-- Whether a value must be given, in words. -/
def necessity (p : Parameter) : String :=
  match p.default with
  | some default => "optional, default " ++ Text.quoted default
  | none => if p.required then "required" else "optional"

/-- The line about a parameter. -/
def describe (p : Parameter) : String :=
  "  - " ++ p.name ++ ": " ++ p.description ++ " (" ++ p.necessity ++ ")\n"

end Parameter

namespace Tool

/-- The lines about a tool. -/
def describe (t : Tool) : String :=
  let description := if t.description.isEmpty then "" else t.description ++ "\n"
  let parameters := if t.parameters.isEmpty then ""
    else "Parameters:\n" ++ String.join (t.parameters.map (·.describe))
  let asked := t.gate.askUser.map (·.source)
  let confirmation := if asked.isEmpty then ""
    else "Requires user confirmation for: " ++ String.intercalate ", " asked ++ "\n"
  "## " ++ t.id ++ "\n" ++ description ++
    "Invocation: use tool_call with \x7b\"tool_id\": \"" ++ t.id ++
    "\", \"params\": \x7b...\x7d\x7d\n" ++ parameters ++ confirmation ++ "\n"

end Tool

/-- The description of all tools that can do anything. -/
def Registry.prompt (r : Registry) : String :=
  let offered := r.tools.filter fun t => !t.gate.isFullyDenied
  "<tools>\n" ++ String.join (offered.map (·.describe)) ++ "</tools>"

/-! ## Schemas -/

/-- The schema of a parameter. -/
def Parameter.schema (p : Parameter) : Json :=
  .object <| ("type", .string "string") ::
    (if p.description.isEmpty then [] else [("description", .string p.description)]) ++
    (match p.default with
      | some default => [("default", .string default)]
      | none => [])

/-- True of a parameter that must be given. -/
def Parameter.isNecessary (p : Parameter) : Bool := p.required && p.default.isNone

/-- The schema of the object of a tool's values. -/
def Tool.schema (t : Tool) : Json :=
  .object <| ("type", .string "object") ::
    (if t.description.isEmpty then [] else [("description", .string t.description)]) ++
    [("properties", .object (t.parameters.map fun p => (p.name, p.schema))),
      ("required", .array ((t.parameters.filter (·.isNecessary)).map fun p => .string p.name)),
      ("additionalProperties", .bool false)]

/-- The schema of the tool of an id. -/
def Registry.schema? (r : Registry) (id : String) : Option Json := (r.find? id).map (·.schema)

end Turnstile
