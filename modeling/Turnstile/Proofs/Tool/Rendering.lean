import Turnstile.Proofs.Tool.Checking

/-!
# Rendering in a single pass

A command is rendered from the one reading of its template: each literal piece gives its character,
and each occurrence of a parameter gives the text that stands for it (`Parameter.Supplies`), as it
is.

**Theorem** (`ofSource_render_single_pass`): for a checked definition, this is all that rendering
does. The reading depends on the template alone, each name in it is that of one declared parameter,
and a value counts at the occurrences of its own parameter and nowhere else.
-/

namespace Turnstile

/-! ### The text of a parameter -/

namespace Parameter

/-- No value is given for a parameter, or null is. -/
def IsUnbound (p : Parameter) (bindings : Bindings) : Prop :=
  ∀ v, bindings.lookup p.name = some v → v = .null

/-- The text that stands for a parameter: that of a value which is not null, else the default, else,
unless a value is required, nothing. -/
inductive Supplies (p : Parameter) (bindings : Bindings) : String → Prop
  | value {v : Json} {text : String} (hbound : bindings.lookup p.name = some v)
      (hspells : v.Spells text) : p.Supplies bindings text
  | default {text : String} (hunbound : p.IsUnbound bindings) (hdefault : p.default = some text) :
      p.Supplies bindings text
  | nothing (hunbound : p.IsUnbound bindings) (hdefault : p.default = none)
      (hoptional : p.required = false) : p.Supplies bindings ""

theorem supplies_of_isUnbound {p : Parameter} {bindings : Bindings} {text : String}
    (h : p.IsUnbound bindings)
    (hvalue : (match (none : Option String).or p.default with
      | some v => .ok v
      | none => if p.required then .error (.missing p.name) else .ok "") =
        (.ok text : Except BindingFault String)) : p.Supplies bindings text := by
  cases hdefault : p.default with
  | some v =>
      rw [hdefault] at hvalue
      cases hvalue
      exact .default h hdefault
  | none =>
      rw [hdefault] at hvalue
      cases hrequired : p.required with
      | true =>
          rw [hrequired] at hvalue
          cases hvalue
      | false =>
          rw [hrequired] at hvalue
          cases hvalue
          exact .nothing h hdefault hrequired

/-- The value of a parameter is the text that stands for it. -/
theorem supplies_of_value {p : Parameter} {bindings : Bindings} {text : String}
    (h : p.value bindings = .ok text) : p.Supplies bindings text := by
  unfold value at h
  cases hbound : bindings.lookup p.name with
  | none =>
      rw [hbound] at h
      exact supplies_of_isUnbound (fun v hv => by rw [hbound] at hv; cases hv) h
  | some v =>
      rw [hbound] at h
      cases v with
      | null =>
          refine supplies_of_isUnbound (fun v hv => ?_) h
          rw [hbound] at hv
          cases hv
          rfl
      | string s =>
          cases h
          exact .value hbound (.string _)
      | number n =>
          cases h
          exact .value hbound (.number n)
      | bool b =>
          cases h
          exact .value hbound (.bool b)
      | array items => cases h
      | object members => cases h

/-- Only the value of its own name counts for a parameter. -/
theorem value_congr {p : Parameter} {bindings bindings' : Bindings}
    (h : bindings.lookup p.name = bindings'.lookup p.name) :
    p.value bindings = p.value bindings' := by
  unfold value
  rw [h]

/-! ### Declared parameters -/

/-- The parameters of a checked definition have names of their own, and each name that its command
refers to is one of these. -/
theorem names_of_check {command : String} {sources : List ParameterSource} {ps : List Parameter}
    (h : check command sources = .ok ps) :
    (ps.map (·.name)).Nodup ∧ ∀ name ∈ Template.referenced command, name ∈ ps.map (·.name) := by
  obtain ⟨⟨hconsistent, hsame⟩, hof⟩ := check_eq_ok_iff.mp h
  rw [map_name_of_isOf hof]
  exact ⟨hconsistent.distinct, fun name => (hsame name).mpr⟩

end Parameter

/-! ### The reading and its texts -/

namespace Tool

/-- The parameters of a definition are checked against its command. -/
theorem check_of_ofSource {d : Defaults} {id : String} {s : ToolSource} {t : Tool}
    (h : ofSource d id s = .ok t) : Parameter.check t.command s.parameters = .ok t.parameters :=
  (ofSource_eq_ok_iff.mp h).parameters

/-- A command is rendered with a text for each parameter. -/
theorem value_of_mapM {bindings : Bindings} {ps : List Parameter}
    {values : List (String × String)}
    (h : ps.mapM (fun p => return (p.name, ← p.value bindings)) = .ok values) :
    (∀ p ∈ ps, ∃ text, p.value bindings = .ok text) ∧
      ∀ name, values.lookup name =
        (ps.find? (·.name == name)).bind fun p => (p.value bindings).toOption := by
  induction ps generalizing values with
  | nil =>
      cases h
      exact ⟨fun p hp => (List.not_mem_nil hp).elim, fun _ => rfl⟩
  | cons p ps ih =>
      simp only [List.mapM_cons, bind_eq_ok_iff] at h
      obtain ⟨entry, ⟨text, htext, hentry⟩, rest, hrest, heq⟩ := h
      cases hentry
      cases heq
      obtain ⟨hvalues, hlookup⟩ := ih hrest
      refine ⟨fun q hq => ?_, fun name => ?_⟩
      · obtain rfl | hq := List.mem_cons.mp hq
        · exact ⟨text, htext⟩
        · exact hvalues q hq
      · rw [List.find?_cons, List.lookup_cons, hlookup]
        by_cases hname : p.name = name
        · rw [hname, beq_self_eq_true]
          simp [htext, Except.toOption]
        · rw [beq_false_of_ne hname, beq_false_of_ne (Ne.symm hname)]

/-- What the pieces of a command give when it is rendered. -/
def segment (t : Tool) (bindings : Bindings) : Template.Piece → List Char :=
  Template.Piece.text fun name =>
    (t.parameters.find? (·.name == name)).bind fun p => (p.value bindings).toOption

theorem toList_of_render {t : Tool} {bindings : Bindings} {command : String}
    (h : t.render bindings = .ok command) :
    (∀ p ∈ t.parameters, ∃ text, p.value bindings = .ok text) ∧
      command.toList = (Template.pieces t.command.toList).flatMap (t.segment bindings) := by
  unfold render at h
  split at h
  · cases h
  · obtain ⟨values, hvalues, hfill⟩ := bind_eq_ok_iff.mp h
    obtain ⟨hparameters, hlookup⟩ := value_of_mapM hvalues
    cases hfill
    refine ⟨hparameters, ?_⟩
    rw [Template.fill, String.toList_ofList, segment, funext hlookup]

/-- The texts of the pieces of a command: a literal gives its character, and an occurrence of a
parameter the text that stands for this one. -/
structure Segments (t : Tool) (bindings : Bindings) (ps : List Template.Piece)
    (segment : Template.Piece → List Char) : Prop where
  literal : ∀ c, segment (.literal c) = [c]
  parameter : ∀ name, .parameter name ∈ ps → ∃ p ∈ t.parameters, p.name = name ∧
    ∃ text, p.Supplies bindings text ∧ segment (.parameter name) = text.toList

/-- If the names are declared and the parameters have values, no occurrence is left without. -/
theorem segments_segment {t : Tool} {bindings : Bindings} {ps : List Template.Piece}
    (hnames : ∀ name, .parameter name ∈ ps → name ∈ t.parameters.map (·.name))
    (hvalues : ∀ p ∈ t.parameters, ∃ text, p.value bindings = .ok text) :
    t.Segments bindings ps (t.segment bindings) where
  literal c := rfl
  parameter name hname := by
    obtain ⟨p, hp⟩ : ∃ p, t.parameters.find? (·.name == name) = some p := by
      rw [← Option.isSome_iff_exists, List.find?_isSome]
      obtain ⟨q, hq, hqname⟩ := List.mem_map.mp (hnames name hname)
      exact ⟨q, hq, beq_iff_eq.mpr hqname⟩
    have hmem := List.mem_of_find?_eq_some hp
    obtain ⟨text, htext⟩ := hvalues p hmem
    have hpname : p.name = name := by simpa using List.find?_some hp
    refine ⟨p, hmem, hpname, text, Parameter.supplies_of_value htext, ?_⟩
    simp [segment, Template.Piece.text, hp, htext, Except.toOption]

/-- The value of a parameter counts at its own occurrences only. -/
theorem segment_congr {t : Tool} {bindings bindings' : Bindings} {name : String}
    (h : ∀ other, other ≠ name → bindings.lookup other = bindings'.lookup other)
    {piece : Template.Piece} (hpiece : piece ≠ .parameter name) :
    t.segment bindings piece = t.segment bindings' piece := by
  cases piece with
  | literal c => rfl
  | parameter other =>
      have hother : other ≠ name := fun heq => hpiece (congrArg _ heq)
      have hvalue : ((t.parameters.find? (·.name == other)).bind fun p =>
            (p.value bindings).toOption) =
          (t.parameters.find? (·.name == other)).bind fun p => (p.value bindings').toOption := by
        refine Option.bind_congr fun p hp => ?_
        have hpname : p.name = other := by simpa using List.find?_some hp
        rw [Parameter.value_congr (hpname ▸ h other hother)]
      unfold segment
      simp only [Template.Piece.text, hvalue]

/-- **Rendering is a single pass over the one reading of the template**: whatever the values are,
they stand at the occurrences of their parameters as they are, and each occurrence is that of a
declared parameter. Values that differ in one parameter make a difference at its occurrences
only. -/
theorem ofSource_render_single_pass {d : Defaults} {id : String} {s : ToolSource} {t : Tool}
    (h : ofSource d id s = .ok t) :
    ∃ ps, (∀ qs, Template.Reads t.command.toList qs ↔ qs = ps) ∧
      (t.parameters.map (·.name)).Nodup ∧
      (∀ bindings command, t.render bindings = .ok command →
        ∃ segment, t.Segments bindings ps segment ∧ command.toList = ps.flatMap segment) ∧
      ∀ bindings bindings' command command' name,
        (∀ other, other ≠ name → bindings.lookup other = bindings'.lookup other) →
        t.render bindings = .ok command → t.render bindings' = .ok command' →
        ∃ segment segment', t.Segments bindings ps segment ∧ t.Segments bindings' ps segment' ∧
          command.toList = ps.flatMap segment ∧ command'.toList = ps.flatMap segment' ∧
          ∀ piece, piece ≠ .parameter name → segment piece = segment' piece := by
  obtain ⟨hnodup, hnames⟩ := Parameter.names_of_check (check_of_ofSource h)
  have hrender {bindings : Bindings} {command : String} (h : t.render bindings = .ok command) :
      t.Segments bindings (Template.pieces t.command.toList) (t.segment bindings) ∧
        command.toList = (Template.pieces t.command.toList).flatMap (t.segment bindings) := by
    obtain ⟨hvalues, hcommand⟩ := toList_of_render h
    refine ⟨segments_segment (fun name hname => hnames name ?_) hvalues, hcommand⟩
    exact Template.mem_referenced.mpr hname
  refine ⟨Template.pieces t.command.toList, fun qs => Template.reads_iff, hnodup, ?_, ?_⟩
  · intro bindings command hcommand
    exact ⟨t.segment bindings, hrender hcommand⟩
  · intro bindings bindings' command command' name hsame hcommand hcommand'
    obtain ⟨hsegments, htext⟩ := hrender hcommand
    obtain ⟨hsegments', htext'⟩ := hrender hcommand'
    exact ⟨_, _, hsegments, hsegments', htext, htext', fun _ hpiece => segment_congr hsame hpiece⟩

/-- A definition with percent signs of all kinds, and a default that looks like a placeholder. -/
def percentSource : ToolSource where
  command := "echo 50%% %x%%y% a%x%%% 9% %"
  parameters := [{ name := "x" },
    { name := "y", required := false, default := some (.string "%x%") }]

/-- The definition once it is checked. -/
def percentTool : Tool where
  id := "echo"
  command := "echo 50%% %x%%y% a%x%%% 9% %"
  parameters := [{ name := "x", description := "", required := true, default := none },
    { name := "y", description := "", required := false, default := some "%x%" }]
  timeout := .ofWholeSeconds 120
  gate := .ofPolicy {}

/-- A value that looks like a placeholder is left as it is, and so is such a default. -/
theorem render_placeholder_value :
    ofSource {} "echo" percentSource = .ok percentTool ∧
      percentTool.render [("x", .string "%y%")] = .ok "echo 50% %y%%x% a%y%% 9% %" ∧
      ∃ ps, (∀ qs, Template.Reads percentTool.command.toList qs ↔ qs = ps) ∧
        ∃ segment, percentTool.Segments [("x", .string "%y%")] ps segment ∧
          "echo 50% %y%%x% a%y%% 9% %".toList = ps.flatMap segment := by
  have hchecked : ofSource {} "echo" percentSource = .ok percentTool := rfl
  have hrendered : percentTool.render [("x", .string "%y%")] =
      .ok "echo 50% %y%%x% a%y%% 9% %" := rfl
  obtain ⟨ps, hreads, -, hrender, -⟩ := ofSource_render_single_pass hchecked
  exact ⟨hchecked, hrendered, ps, hreads, hrender _ _ hrendered⟩

end Tool

end Turnstile
