import Mathlib.Tactic.SplitIfs
import Turnstile.Proofs.Tool.Rendering
import Turnstile.Registry

/-!
# The schema of a tool and its renderer

`Json.Validates` is what the keywords of a tool's schema mean: the type of a value, the schemas of
an object's members, the members that it must have, and the schema of all others. The description
and the default of a schema say nothing about values.

**Theorem** (`Registry.schema?_agrees`): a command is rendered exactly from the values that the tool
accepts (`Tool.Accepts`). If all values are texts, these are the objects that its schema validates;
and whatever the schema validates is rendered.

Two walks over the parameters meet in the condition on a single one: what it needs to have a text
(`Parameter.exists_value_iff`), and what its schema asks of a value
(`Parameter.validates_schema_iff`).
-/

namespace Turnstile

/-! ### What schemas mean -/

namespace Json

/-- The name of a value's kind in schemas. -/
def typeName : Json → String
  | .null => "null"
  | .bool _ => "boolean"
  | .number _ => "number"
  | .string _ => "string"
  | .array _ => "array"
  | .object _ => "object"

/-- The members of an object; another value has none. -/
def members : Json → List (String × Json)
  | .object members => members
  | _ => []

/-- A schema validates a value if each of its keywords does. True validates any value, and false
none; so false for the additional members of an object forbids them. -/
inductive Validates : Json → Json → Prop
  | always (v : Json) : Validates (.bool true) v
  | keywords {s : List (String × Json)} {v : Json}
      (type : ∀ name, get? "type" (.object s) = some (.string name) → v.typeName = name)
      (property : ∀ m ∈ v.members, ∀ properties sub,
        get? "properties" (.object s) = some properties →
        properties.get? m.1 = some sub → Validates sub m.2)
      (additional : ∀ m ∈ v.members, ∀ sub, get? "additionalProperties" (.object s) = some sub →
        (∀ properties, get? "properties" (.object s) = some properties →
          properties.get? m.1 = none) → Validates sub m.2)
      (required : ∀ names, get? "required" (.object s) = some (.array names) →
        v.typeName = "object" → ∀ name, .string name ∈ names → name ∈ v.members.map (·.1)) :
      Validates (.object s) v

/-- The schema `false` accepts nothing. -/
theorem not_validates_false (v : Json) : ¬ Validates (.bool false) v := nofun

/-- Only texts are of the type of texts. -/
theorem typeName_eq_string_iff {v : Json} : v.typeName = "string" ↔ ∃ s, v = .string s := by
  cases v <;> simp [typeName]

/-- A member that is found is a member. -/
theorem get?_object_eq_some {members : List (String × Json)} {name : String} {v : Json}
    (h : get? name (.object members) = some v) : (name, v) ∈ members := by
  obtain ⟨m, hfind, rfl⟩ := Option.map_eq_some_iff.mp h
  have hmem : m ∈ members := List.mem_reverse.mp (List.mem_of_find?_eq_some hfind)
  have hname : m.1 = name := by simpa using List.find?_some hfind
  rwa [← hname]

/-- A member is missing if no member has the name. -/
theorem get?_object_eq_none_iff {members : List (String × Json)} {name : String} :
    get? name (.object members) = none ↔ name ∉ members.map (·.1) := by
  rw [get?, Option.map_eq_none_iff, List.find?_eq_none, List.mem_map]
  simp only [List.mem_reverse, beq_iff_eq, not_exists, not_and]

end Json

/-! ### What is rendered -/

/-- In an object, the value of a name is the one that stands beside it. -/
theorem Bindings.lookup_eq_some_iff_mem {bindings : Bindings} (h : (bindings.map (·.1)).Nodup)
    {name : String} {v : Json} : bindings.lookup name = some v ↔ (name, v) ∈ bindings := by
  induction bindings with
  | nil => simp
  | cons b bindings ih =>
      obtain ⟨other, w⟩ := b
      obtain ⟨hnew, hnodup⟩ := List.nodup_cons.mp h
      rw [List.lookup_cons, List.mem_cons]
      by_cases hname : name = other
      · subst hname
        have habsent : (name, v) ∉ bindings := fun hmem => hnew (List.mem_map.mpr ⟨_, hmem, rfl⟩)
        simp [habsent, eq_comm]
      · rw [beq_false_of_ne hname]
        simp [hname, ih hnodup]

namespace Parameter

/-- A parameter that is bound to nothing has a text unless it is necessary. -/
theorem exists_value_of_isUnbound {p : Parameter} :
    (∃ text, (match (none : Option String).or p.default with
      | some v => .ok v
      | none => if p.required then .error (.missing p.name) else .ok "") =
        (.ok text : Except BindingFault String)) ↔ ¬ (p.required = true ∧ p.default = none) := by
  cases p.default with
  | some text => simp
  | none => cases p.required <;> simp

/-- A parameter has a text if its value has no parts, and one that is necessary has a value. -/
theorem exists_value_iff {p : Parameter} {bindings : Bindings} :
    (∃ text, p.value bindings = .ok text) ↔
      (∀ v, bindings.lookup p.name = some v → ¬ v.IsNested) ∧
        (p.required = true → p.default = none →
          ∃ v, bindings.lookup p.name = some v ∧ v ≠ .null) := by
  unfold value
  cases bindings.lookup p.name with
  | none =>
      refine exists_value_of_isUnbound.trans ?_
      simp
  | some v =>
      cases v with
      | null =>
          refine exists_value_of_isUnbound.trans ?_
          simp [Json.IsNested]
      | bool | number | string => simp [bindingText?, Json.IsNested]
      | array | object => simp [bindingText?, Json.IsNested]

end Parameter

namespace Tool

/-- Values that a tool can be run with. -/
structure Accepts (t : Tool) (bindings : Bindings) : Prop where
  declared : ∀ b ∈ bindings, ∃ p ∈ t.parameters, p.name = b.1
  flat : ∀ b ∈ bindings, ¬ b.2.IsNested
  given : ∀ p ∈ t.parameters, p.required = true → p.default = none →
    ∃ v, (p.name, v) ∈ bindings ∧ v ≠ .null

/-- Parameters that all have values have them together. -/
theorem exists_mapM_value {bindings : Bindings} {ps : List Parameter}
    (h : ∀ p ∈ ps, ∃ text, p.value bindings = .ok text) :
    ∃ values, ps.mapM (fun p => return (p.name, ← p.value bindings)) =
      (.ok values : Except BindingFault (List (String × String))) := by
  induction ps with
  | nil => exact ⟨[], rfl⟩
  | cons p ps ih =>
      obtain ⟨text, htext⟩ := h p List.mem_cons_self
      obtain ⟨values, hvalues⟩ := ih fun q hq => h q (List.mem_cons_of_mem _ hq)
      refine ⟨(p.name, text) :: values, ?_⟩
      rw [List.mapM_cons, htext, hvalues]
      rfl

/-- A command is rendered if all names are declared and all parameters have texts. -/
theorem exists_render_iff {t : Tool} {bindings : Bindings} :
    (∃ command, t.render bindings = .ok command) ↔
      (∀ b ∈ bindings, ∃ p ∈ t.parameters, p.name = b.1) ∧
        ∀ p ∈ t.parameters, ∃ text, p.value bindings = .ok text := by
  cases hunknown : bindings.find? fun b => !t.parameters.any (·.name == b.1) with
  | some b =>
      have hb : b ∈ bindings := List.mem_of_find?_eq_some hunknown
      have hfault : ∀ command, t.render bindings ≠ .ok command := by
        intro command
        unfold render
        rw [hunknown]
        exact nofun
      refine iff_of_false (fun ⟨command, h⟩ => hfault command h) fun h => ?_
      obtain ⟨p, hp, hname⟩ := h.1 b hb
      have hnone := List.find?_some hunknown
      simp only [Bool.not_eq_true', List.any_eq_false, beq_iff_eq] at hnone
      exact hnone p hp hname
  | none =>
      have hdeclared : ∀ b ∈ bindings, ∃ p ∈ t.parameters, p.name = b.1 := by
        simpa [List.find?_eq_none] using hunknown
      have hrender : (∃ command, t.render bindings = .ok command) ↔
          ∀ p ∈ t.parameters, ∃ text, p.value bindings = .ok text := by
        constructor
        · rintro ⟨command, hcommand⟩
          exact (toList_of_render hcommand).1
        · intro hvalues
          obtain ⟨values, hvalues⟩ := exists_mapM_value hvalues
          refine ⟨Template.fill t.command fun name => values.lookup name, ?_⟩
          unfold render
          rw [hunknown, hvalues]
          rfl
      rw [hrender]
      exact ⟨fun h => ⟨hdeclared, h⟩, And.right⟩

/-- **A command is rendered exactly from values that the tool accepts.** -/
theorem exists_render_iff_accepts {t : Tool} {bindings : Bindings}
    (h : (bindings.map (·.1)).Nodup) :
    (∃ command, t.render bindings = .ok command) ↔ t.Accepts bindings := by
  rw [exists_render_iff]
  simp only [Parameter.exists_value_iff, Bindings.lookup_eq_some_iff_mem h]
  constructor
  · rintro ⟨hdeclared, hvalues⟩
    refine ⟨hdeclared, fun b hb => ?_, fun p hp => (hvalues p hp).2⟩
    obtain ⟨p, hp, hname⟩ := hdeclared b hb
    exact (hvalues p hp).1 b.2 (by rwa [hname])
  · intro haccepts
    exact ⟨haccepts.declared, fun p hp => ⟨fun v hv => haccepts.flat _ hv, haccepts.given p hp⟩⟩

end Tool

/-! ### What is validated -/

/-- A parameter is a text. -/
theorem Parameter.get?_type_schema (p : Parameter) :
    p.schema.get? "type" = some (.string "string") := by
  unfold schema
  cases p.default <;> split_ifs <;> rfl

/-- The schema of a parameter validates texts. -/
theorem Parameter.validates_schema_iff {p : Parameter} {v : Json} :
    p.schema.Validates v ↔ ∃ s, v = .string s := by
  have htype := p.get?_type_schema
  unfold schema at htype ⊢
  constructor
  · intro h
    cases h with
    | keywords type => exact Json.typeName_eq_string_iff.mp (type _ htype)
  · rintro ⟨s, rfl⟩
    have hkind : (Json.string s).typeName ≠ "object" := by simp [Json.typeName]
    refine .keywords ?_ (fun m hm => (List.not_mem_nil hm).elim)
      (fun m hm => (List.not_mem_nil hm).elim) (fun _ _ hobject => absurd hobject hkind)
    intro name hname
    rw [htype] at hname
    cases hname
    rfl

namespace Tool

variable (t : Tool)

/-- The properties of a tool's schema. -/
def properties : List (String × Json) := t.parameters.map fun p => (p.name, p.schema)

/-- The names that a tool's schema requires. -/
def requiredNames : List Json := (t.parameters.filter (·.isNecessary)).map fun p => .string p.name

/-- The bindings are an object. -/
theorem get?_type_schema : t.schema.get? "type" = some (.string "object") := by
  unfold schema
  split_ifs <;> rfl

/-- The schema has the tool's parameters as properties. -/
theorem get?_properties_schema : t.schema.get? "properties" = some (.object t.properties) := by
  unfold schema
  split_ifs <;> rfl

/-- It has the names that are required. -/
theorem get?_required_schema : t.schema.get? "required" = some (.array t.requiredNames) := by
  unfold schema
  split_ifs <;> rfl

/-- It has no room for other members. -/
theorem get?_additional_schema :
    t.schema.get? "additionalProperties" = some (.bool false) := by
  unfold schema
  split_ifs <;> rfl

variable {t}

/-- A name is required if its parameter is, and has no default. -/
theorem mem_requiredNames_iff {name : String} :
    .string name ∈ t.requiredNames ↔
      ∃ p ∈ t.parameters, p.required = true ∧ p.default = none ∧ p.name = name := by
  simp [requiredNames, Parameter.isNecessary, and_assoc]

/-- A name is no property exactly if no parameter has it. -/
theorem get?_properties_eq_none_iff {name : String} :
    Json.get? name (.object t.properties) = none ↔ ∀ p ∈ t.parameters, p.name ≠ name := by
  rw [Json.get?_object_eq_none_iff]
  simp [properties]

/-- Each property has the schema of a parameter. -/
theorem exists_of_get?_properties {name : String} {sub : Json}
    (h : Json.get? name (.object t.properties) = some sub) :
    ∃ p ∈ t.parameters, p.name = name ∧ sub = p.schema := by
  obtain ⟨p, hp, heq⟩ := List.mem_map.mp (Json.get?_object_eq_some h)
  cases heq
  exact ⟨p, hp, rfl, rfl⟩

/-- The schema of a tool validates objects with texts for declared parameters, the necessary ones
among them. -/
theorem validates_schema_iff {bindings : Bindings} :
    t.schema.Validates (.object bindings) ↔
      (∀ b ∈ bindings, (∃ p ∈ t.parameters, p.name = b.1) ∧ ∃ s, b.2 = .string s) ∧
        ∀ p ∈ t.parameters, p.required = true → p.default = none →
          p.name ∈ bindings.map (·.1) := by
  have htype := t.get?_type_schema
  have hproperties := t.get?_properties_schema
  have hrequired := t.get?_required_schema
  have hadditional := t.get?_additional_schema
  unfold schema at htype hproperties hrequired hadditional ⊢
  constructor
  · intro h
    cases h with
    | keywords type property additional required =>
        refine ⟨fun b hb => ?_, fun p hp hneeded hdefault => ?_⟩
        · cases hsub : Json.get? b.1 (.object t.properties) with
          | none =>
              have hfalse := additional b hb _ hadditional fun properties h => by
                rw [hproperties] at h
                cases h
                exact hsub
              exact (Json.not_validates_false _ hfalse).elim
          | some sub =>
              obtain ⟨p, hp, hname, rfl⟩ := exists_of_get?_properties hsub
              have hvalid := property b hb _ _ hproperties hsub
              exact ⟨⟨p, hp, hname⟩, Parameter.validates_schema_iff.mp hvalid⟩
        · have hname := mem_requiredNames_iff.mpr ⟨p, hp, hneeded, hdefault, rfl⟩
          exact required _ hrequired rfl _ hname
  · rintro ⟨hbindings, hneeded⟩
    refine .keywords ?_ ?_ ?_ ?_
    · intro name h
      rw [htype] at h
      cases h
      rfl
    · intro b hb properties sub h hsub
      rw [hproperties] at h
      cases h
      obtain ⟨p, -, -, rfl⟩ := exists_of_get?_properties hsub
      exact Parameter.validates_schema_iff.mpr (hbindings b hb).2
    · intro b hb sub _ habsent
      obtain ⟨p, hp, hname⟩ := (hbindings b hb).1
      exact absurd hname (get?_properties_eq_none_iff.mp (habsent _ hproperties) p hp)
    · intro names h _ name hname
      rw [hrequired] at h
      cases h
      obtain ⟨p, hp, hrequired, hdefault, rfl⟩ := mem_requiredNames_iff.mp hname
      exact hneeded p hp hrequired hdefault

/-- The schema of a tool validates the objects of texts that the tool accepts. -/
theorem validates_schema_iff_accepts {bindings : Bindings} :
    t.schema.Validates (.object bindings) ↔
      (∀ b ∈ bindings, ∃ s, b.2 = .string s) ∧ t.Accepts bindings := by
  rw [validates_schema_iff]
  constructor
  · rintro ⟨hbindings, hneeded⟩
    refine ⟨fun b hb => (hbindings b hb).2, fun b hb => (hbindings b hb).1, fun b hb => ?_, ?_⟩
    · obtain ⟨s, hs⟩ := (hbindings b hb).2
      rw [hs]
      exact not_false
    · intro p hp hrequired hdefault
      obtain ⟨b, hb, hname⟩ := List.mem_map.mp (hneeded p hp hrequired hdefault)
      obtain ⟨s, hs⟩ := (hbindings b hb).2
      exact ⟨b.2, by rwa [← hname], by simp [hs]⟩
  · rintro ⟨htexts, haccepts⟩
    refine ⟨fun b hb => ⟨haccepts.declared b hb, htexts b hb⟩, ?_⟩
    intro p hp hrequired hdefault
    obtain ⟨v, hv, -⟩ := haccepts.given p hp hrequired hdefault
    exact List.mem_map.mpr ⟨_, hv, rfl⟩

end Tool

/-! ### The agreement -/

namespace Registry

/-- **The schema that a registry shows agrees with what its renderer takes.** Values are rendered if
the tool accepts them; the schema validates those objects of texts, and no object that is not
rendered. -/
theorem schema?_agrees {r : Registry} {id : String} {t : Tool} (hfind : r.find? id = some t)
    {bindings : Bindings} (hkeys : (bindings.map (·.1)).Nodup) :
    ((∃ command, t.render bindings = .ok command) ↔ t.Accepts bindings) ∧
      ∃ schema, r.schema? id = some schema ∧
        ((∀ b ∈ bindings, ∃ s, b.2 = .string s) →
          ((∃ command, t.render bindings = .ok command) ↔ schema.Validates (.object bindings))) ∧
        (schema.Validates (.object bindings) → ∃ command, t.render bindings = .ok command) := by
  have hrender := Tool.exists_render_iff_accepts (t := t) hkeys
  have hvalidates : t.schema.Validates (.object bindings) ↔
      (∀ b ∈ bindings, ∃ s, b.2 = .string s) ∧ t.Accepts bindings :=
    Tool.validates_schema_iff_accepts
  refine ⟨hrender, t.schema, by rw [schema?, hfind, Option.map_some], fun htexts => ?_, fun h => ?_⟩
  · rw [hrender, hvalidates]
    exact ⟨fun haccepts => ⟨htexts, haccepts⟩, And.right⟩
  · exact hrender.mpr (hvalidates.mp h).2

/-- A tool with a parameter that is necessary, one with a default, and one that may be left out. -/
def searching : Tool where
  id := "grep"
  command := "grep %flags% %pattern% %path%"
  description := "Searches files."
  parameters := [
    { name := "flags", description := "", required := false, default := none },
    { name := "pattern", description := "What to search for", required := true, default := none },
    { name := "path", description := "", required := true, default := some "." }]
  timeout := .ofWholeSeconds 120
  gate := .ofPolicy {}

/-- The registry of this tool. -/
def searchingRegistry : Registry := ({} : Registry).register searching

/-- The pattern alone is accepted and validated. With null for the flags the command is rendered
too, though the schema does not validate null. -/
theorem schema?_agrees_searching :
    searchingRegistry.find? "grep" = some searching ∧
      searching.Accepts [("pattern", .string "x")] ∧
      searching.Accepts [("pattern", .string "x"), ("flags", .null)] ∧
      ∃ schema, searchingRegistry.schema? "grep" = some schema ∧
        schema.Validates (.object [("pattern", .string "x")]) ∧
        ¬ schema.Validates (.object [("pattern", .string "x"), ("flags", .null)]) := by
  have hfind : searchingRegistry.find? "grep" = some searching := by rfl
  have hrendered : searching.render [("pattern", .string "x")] = .ok "grep  x ." := by rfl
  have hrendered' : searching.render [("pattern", .string "x"), ("flags", .null)] =
      .ok "grep  x ." := by rfl
  have hkeys : (([("pattern", .string "x")] : Bindings).map (·.1)).Nodup := by decide
  have hkeys' : (([("pattern", .string "x"), ("flags", .null)] : Bindings).map (·.1)).Nodup := by
    decide
  obtain ⟨haccepts, schema, hschema, hvalid, -⟩ := schema?_agrees hfind hkeys
  obtain ⟨haccepts', -⟩ := schema?_agrees hfind hkeys'
  refine ⟨hfind, haccepts.mp ⟨_, hrendered⟩, haccepts'.mp ⟨_, hrendered'⟩, schema, hschema,
    (hvalid (by simp)).mp ⟨_, hrendered⟩, ?_⟩
  rw [schema?, hfind] at hschema
  cases hschema
  intro hnull
  obtain ⟨htexts, -⟩ := Tool.validates_schema_iff_accepts.mp hnull
  simpa using htexts ("flags", .null) (by simp)

end Registry

end Turnstile
