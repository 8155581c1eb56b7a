import Turnstile.Proofs.Registry.Loading
import Turnstile.Proofs.Template.Escaping

/-!
# Tools are well formed

What runs a tool relies on its fields without checking them again: on a command that says something,
on limits that let something through, on expressions that are compiled, on criteria of readiness
that can be met, and on a working directory that does not depend on the current one.

**Theorem** (`Tool.ofSource_wellFormed`): whatever the surroundings, and however its numbers are
written, a definition that is accepted makes a tool of that kind (`Tool.WellFormed`), and so is
every tool of a registry that was loaded or to which documents were added (`Registry.Built`).

* Each part of a definition is well formed by its own check (`filter_wellFormed`,
  `readiness_isSome_iff`, `criteria_wellFormed`, `isAbsolute_of_checkWorkdir`).
* A registry has only tools that were registered (`Registry.mem_of_mem_register`), and only what is
  made of a definition is.
-/

namespace Turnstile

/-! ### Fields that are given -/

/-- True of a field that is missing or has a blank text. -/
def LooseNumber.IsAbsent : Option LooseNumber → Prop
  | none => True
  | some (.text s) => ∀ c ∈ s.toList, isBlank c = true
  | some (.integer _) | some (.float _) => False

namespace LooseNumber

variable {α : Type} {setting : Setting} {f : Binary64 → Except ValueFault α}
  {v : Option LooseNumber}

/-- A number without a value is one that is absent. -/
theorem value_eq_none_iff {n : LooseNumber} : n.value = .ok none ↔ IsAbsent (some n) := by
  cases n with
  | integer n => simp [value, IsAbsent]
  | float x => simp [value, IsAbsent]
  | text s =>
      unfold value IsAbsent
      dsimp only [Text.isAllBlank]
      rw [← List.all_eq_true]
      split_ifs with hblank
      · simp [hblank]
      · cases readFloat? (Text.trim s) <;> simp [hblank]

/-- An accepted field has a value exactly if it is given. -/
theorem isSome_iff_of_field {a? : Option α} (h : field setting f v = .ok a?) :
    a?.isSome ↔ ¬ IsAbsent v := by
  cases a? with
  | none =>
      refine iff_of_false (by simp) (not_not.mpr ?_)
      cases v with
      | none => trivial
      | some n => exact value_eq_none_iff.mp (field_eq_none_iff.mp h n rfl)
  | some a =>
      refine iff_of_true rfl ?_
      obtain ⟨n, x, rfl, hvalue, -⟩ := field_eq_some_iff.mp h
      intro habsent
      cases (value_eq_none_iff.mpr habsent).symm.trans hvalue

end LooseNumber

/-! ### Texts without padding -/

namespace Text

/-- A trimmed text has no blanks around it. -/
theorem isUnpadded_trim (s : String) : IsUnpadded (trim s) := by
  have hhead (cs : List Char) : ∀ c, (cs.dropWhile isBlank).head? = some c → isBlank c = false := by
    intro c hc
    have hnot := List.head?_dropWhile_not isBlank cs
    rw [hc] at hnot
    exact hnot
  unfold IsUnpadded trim trimChars
  rw [String.toList_ofList, List.head?_reverse, List.getLast?_reverse]
  refine ⟨fun c hc => ?_, hhead _⟩
  -- What is left of a text that is trimmed at its end still begins as before.
  obtain ⟨before, hsuffix⟩ :=
    List.dropWhile_suffix isBlank (l := (s.toList.dropWhile isBlank).reverse)
  refine hhead s.toList c ?_
  rw [← List.reverse_reverse (s.toList.dropWhile isBlank), List.head?_reverse, ← hsuffix,
    List.getLast?_append, hc]
  rfl

/-- To trim a text twice is to trim it once. -/
theorem trim_trim (s : String) : trim (trim s) = trim s := trim_of_isUnpadded (isUnpadded_trim s)

end Text

/-! ### Parts of a tool -/

/-- A filter whose limits let something through and whose expressions are compiled of a text that is
not empty. -/
structure OutputFilter.WellFormed (f : OutputFilter) : Prop where
  limitLines : ∀ n, f.limitLines = some n → 1 ≤ n
  limitChars : ∀ n, f.limitChars = some n → 1 ≤ n
  grep : ∀ m, f.grep = some m → m.source ≠ "" ∧ Matcher.ofSource? m.source = some m
  remove : ∀ m, f.remove = some m → m.source ≠ "" ∧ Matcher.ofSource? m.source = some m

/-- Criteria that a service can meet. -/
structure ReadinessCriteria.WellFormed (c : ReadinessCriteria) : Prop where
  port : ∀ p, c.port = some p → 1 ≤ p ∧ p ≤ 65535
  keyword : ∀ keyword, c.keyword = some keyword → keyword ≠ ""

/-- A definition that gives at least one criterion of readiness. -/
def ToolSource.AsksReadiness (s : ToolSource) : Prop :=
  ¬ LooseNumber.IsAbsent s.startupWait ∨ ¬ LooseNumber.IsAbsent s.startupPort ∨
    ∃ keyword, s.startupKeyword = some keyword ∧ keyword ≠ ""

/-- A tool that can be run without checking its fields again. -/
structure Tool.WellFormed (d : Defaults) (s : ToolSource) (t : Tool) : Prop where
  command_ne : t.command ≠ ""
  trim_command : Text.trim t.command = t.command
  filter : ∀ f, t.filter = some f → f.WellFormed
  isService : t.readiness.isSome ↔ s.AsksReadiness
  readiness : ∀ c, t.readiness = some c → c.WellFormed
  workdir : ∀ path, t.workdir = some path → Path.isAbsolute path = true
  timeout : LooseNumber.IsAbsent s.timeout → t.timeout = d.timeout

namespace Tool

/-- A filter that passes the check is well formed. -/
theorem filter_wellFormed {written : FilterSource} {f : OutputFilter}
    (h : checkFilter written = .ok f) : f.WellFormed := by
  simp only [checkFilter, bind_eq_ok_iff] at h
  obtain ⟨limitLines, hlines, limitChars, hchars, _, -, grep, hgrep, remove, hremove, heq⟩ := h
  cases heq
  have hpositive {setting : Setting} {v : Option LooseNumber} {limit : Option Nat}
      (h : LooseNumber.field setting LooseNumber.positive v = .ok limit) :
      ∀ n, limit = some n → 1 ≤ n := by
    rintro n rfl
    obtain ⟨_, x, -, -, hx⟩ := LooseNumber.field_eq_some_iff.mp h
    exact Nat.one_le_iff_ne_zero.mpr (LooseNumber.positive_eq_ok_iff.mp hx).2
  refine ⟨hpositive hlines, hpositive hchars, ?_, ?_⟩
  · rintro m rfl
    exact (source_of_matcher? hgrep).2
  · rintro m rfl
    exact (source_of_matcher? hremove).2

variable {s : ToolSource}

/-- A tool waits to be ready exactly if its definition asks for it. -/
theorem readiness_isSome_iff {criteria : Option ReadinessCriteria}
    (h : checkReadiness s = .ok criteria) : criteria.isSome ↔ s.AsksReadiness := by
  obtain ⟨wait?, hwait, port?, hport, rfl⟩ := checkReadiness_eq_ok_iff.mp h
  have hkeyword : (s.startupKeyword.filter (!·.isEmpty)).isSome ↔
      ∃ keyword, s.startupKeyword = some keyword ∧ keyword ≠ "" := by
    cases s.startupKeyword with
    | none => simp
    | some keyword => simp [Option.filter]
  unfold ToolSource.AsksReadiness
  rw [← LooseNumber.isSome_iff_of_field hwait, ← LooseNumber.isSome_iff_of_field hport, ← hkeyword]
  cases wait? <;> cases port? <;> cases s.startupKeyword.filter (!·.isEmpty) <;> simp

/-- The criteria that pass the check are well formed. -/
theorem criteria_wellFormed {c : ReadinessCriteria} (h : checkReadiness s = .ok (some c)) :
    c.WellFormed := by
  obtain ⟨wait?, -, port?, hport, hc⟩ := checkReadiness_eq_ok_iff.mp h
  split_ifs at hc
  cases hc
  refine ⟨?_, ?_⟩
  · rintro p rfl
    obtain ⟨_, x, -, -, hx⟩ := LooseNumber.field_eq_some_iff.mp hport
    exact (LooseNumber.port_eq_ok_iff.mp hx).2
  · intro keyword hkeyword
    obtain ⟨-, hne⟩ := Option.filter_eq_some_iff.mp hkeyword
    simpa using hne

/-- **A tool that is made of a definition is well formed.** -/
theorem wellFormed_of_ofSource {d : Defaults} {id : String} {t : Tool}
    (h : ofSource d id s = .ok t) : t.WellFormed d s := by
  have hchecked := ofSource_eq_ok_iff.mp h
  refine {
    command_ne := ?_
    trim_command := ?_
    filter := ?_
    isService := readiness_isSome_iff hchecked.readiness
    readiness := ?_
    workdir := ?_
    timeout := ?_ }
  · rw [hchecked.command]
    exact hchecked.command_ne
  · rw [hchecked.command, Text.trim_trim]
  · intro f hf
    have hfilter := hchecked.filter
    rw [hf] at hfilter
    obtain ⟨written, -, hcheck⟩ := mapM_eq_ok_some_iff.mp hfilter
    exact filter_wellFormed hcheck
  · intro c hc
    have hreadiness := hchecked.readiness
    rw [hc] at hreadiness
    exact criteria_wellFormed hreadiness
  · intro path hpath
    have hworkdir := hchecked.workdir
    rw [hpath] at hworkdir
    exact isAbsolute_of_checkWorkdir hworkdir
  · intro habsent
    obtain ⟨limit?, hlimit, htimeout⟩ := hchecked.timeout
    have hnone := mt (LooseNumber.isSome_iff_of_field hlimit).mp (not_not.mpr habsent)
    rw [htimeout, Option.not_isSome_iff_eq_none.mp hnone, Option.getD_none]

end Tool

/-! ### Registries -/

namespace Registry

/-- Registries as they come about: a new one is empty, one is loaded for a host, and documents are
registered one by one. The list has the surroundings in which their definitions were checked. -/
inductive Built : List Defaults → Registry → Prop
  | new (e : Environment) : Built [] { environment := e }
  | load (c : Config) (h : HostView) : Built [c.defaults h] (c.registry h)
  | registerToml {ds : List Defaults} {r : Registry} {home : Option String} {id text : String}
      {t : Tool} : Built ds r → Tool.ofToml { home } id text = .ok t →
      Built ({ home } :: ds) (r.register t)

variable {t u : Tool}

/-- A tool of a registry was added just now or was there. -/
theorem mem_of_mem_register {r : Registry} (h : u ∈ (r.register t).tools) :
    u = t ∨ u ∈ r.tools := by
  unfold register at h
  split_ifs at h
  · exact Tool.mem_insertInto.mp h
  · exact .inr h

/-- A tool of a registry was added or was there. -/
theorem mem_of_mem_registerAll {r : Registry} {ts : List Tool} (h : u ∈ (r.registerAll ts).tools) :
    u ∈ ts ∨ u ∈ r.tools := by
  induction ts generalizing r with
  | nil => exact .inr h
  | cons t ts ih =>
      rcases ih h with hrest | hfirst
      · exact .inl (List.mem_cons_of_mem t hrest)
      · rcases mem_of_mem_register hfirst with rfl | hmem
        · exact .inl List.mem_cons_self
        · exact .inr hmem

/-- Every tool that is loaded is made of a definition. -/
theorem exists_ofSource_of_mem_registry {c : Config} {h : HostView}
    (hu : u ∈ (c.registry h).tools) : ∃ s, Tool.ofSource (c.defaults h) u.id s = .ok u := by
  rcases mem_of_mem_registerAll hu with hmem | hmem
  · obtain ⟨d, hd, hok⟩ := List.mem_filterMap.mp hmem
    have hdefinition : d = .ok u := by
      cases d with
      | error e => cases hok
      | ok t =>
          cases hok
          rfl
    rw [hdefinition, Config.definitions_eq, List.mem_append, List.mem_map, List.mem_map] at hd
    rcases hd with ⟨entry, -, hinline⟩ | ⟨path, -, hfile⟩
    · rw [Config.id_of_inlineDefinition hinline]
      exact Config.exists_ofSource_of_inlineDefinition hinline
    · rw [Config.id_of_fileDefinition hfile]
      exact Config.exists_ofSource_of_fileDefinition hfile
  · cases hmem

/-- **So is every tool of a registry**, in the surroundings of one of its definitions. -/
theorem Built.exists_ofSource {ds : List Defaults} {r : Registry} (h : Built ds r)
    (hu : u ∈ r.tools) : ∃ d ∈ ds, ∃ s, Tool.ofSource d u.id s = .ok u := by
  induction h with
  | new e => cases hu
  | load c h => exact ⟨_, List.mem_singleton.mpr rfl, exists_ofSource_of_mem_registry hu⟩
  | registerToml _ ht ih =>
      rcases mem_of_mem_register hu with rfl | hmem
      · obtain ⟨s, -, hs⟩ := Tool.ofSource?_eq_ok_iff.mp ht
        refine ⟨_, List.mem_cons_self, s, ?_⟩
        rwa [Tool.id_of_ofSource hs]
      · obtain ⟨d, hd, hs⟩ := ih hmem
        exact ⟨d, List.mem_cons_of_mem _ hd, hs⟩

end Registry

namespace Tool

/-- **Tools are well formed**: what is made of a definition that is accepted, in whatever
surroundings, and so each tool of a registry, in the surroundings in which it was checked. -/
theorem ofSource_wellFormed :
    (∀ d id s t, ofSource d id s = .ok t → t.WellFormed d s) ∧
      ∀ ds r, Registry.Built ds r →
        ∀ t ∈ r.tools, ∃ d ∈ ds, ∃ s, ofSource d t.id s = .ok t ∧ t.WellFormed d s := by
  refine ⟨fun d id s t h => wellFormed_of_ofSource h, fun ds r hbuilt t ht => ?_⟩
  obtain ⟨d, hd, s, hs⟩ := hbuilt.exists_ofSource ht
  exact ⟨d, hd, s, hs, wellFormed_of_ofSource hs⟩

/-- A service whose time limit is blank, defined in a configuration that has another limit than
usual. -/
def serverSource : ToolSource where
  command := " serve\n"
  timeout := some (.text " ")
  outputFilter := some { limitLines := some (.text "3"), remove := some "" }
  startupPort := some (.float (.ofInt 8080))
  startupKeyword := some ""

/-- The settings of a host with one tool, a server. -/
def serverConfig : Config where
  defaultTimeout := 9
  tools := [("server", .table [
    ("command", .string " serve\n"),
    ("timeout", .string " "),
    ("output_filter", .table [("limit_lines", .string "3"), ("remove_from_output", .string "")]),
    ("startup_wait_port", .float (.ofInt 8080)),
    ("startup_wait_keyword", .string "")])]

/-- The tool of these settings. -/
def serverTool : Tool where
  id := "server"
  command := "serve"
  timeout := .ofWholeSeconds 9
  filter := some { limitLines := some 3 }
  readiness := some { deadline := .ofWholeSeconds 10, port := some 8080, keyword := none }
  gate := .ofPolicy {}

/-- A server that waits for its port is well formed, by every way into a registry. -/
theorem ofSource_wellFormed_server :
    let host : HostView := { files := {}, cwd := [] }
    let d := serverConfig.defaults host
    ofSource d "server" serverSource = .ok serverTool ∧ serverTool.WellFormed d serverSource ∧
      Registry.Built [d] (serverConfig.registry host) ∧
      serverTool ∈ (serverConfig.registry host).tools ∧
      ∃ s, ofSource d "server" s = .ok serverTool ∧ serverTool.WellFormed d s := by
  intro host d
  have hok : ofSource d "server" serverSource = .ok serverTool := rfl
  have hfiles : serverConfig.definitionFiles host = [] := by
    simp [Config.definitionFiles, serverConfig, Path.sortUnique]
  have hdefinitions : serverConfig.definitions host = [.ok serverTool] := by
    rw [Config.definitions_eq, hfiles]
    rfl
  have hmem : serverTool ∈ (serverConfig.registry host).tools := by
    rw [Config.registry, hdefinitions]
    exact List.mem_singleton.mpr rfl
  have hbuilt : Registry.Built [d] (serverConfig.registry host) := .load serverConfig host
  obtain ⟨hwellFormed, hregistered⟩ := ofSource_wellFormed
  obtain ⟨d', hd', s, hs⟩ := hregistered _ _ hbuilt serverTool hmem
  cases List.mem_singleton.mp hd'
  exact ⟨hok, hwellFormed _ _ _ _ hok, hbuilt, hmem, s, hs⟩

end Tool

end Turnstile
