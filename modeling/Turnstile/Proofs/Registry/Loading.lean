import Turnstile.Config
import Turnstile.Proofs.Host.Listing
import Turnstile.Proofs.Registry.Registration
import Turnstile.Proofs.Tool.Rendering

/-!
# What a configuration loads

**Theorem** (`Config.registry_loads`): in the registry of a host an id stands for the first of its
candidates that is valid and offered. The candidates of an id are the inline definition under it and
then the files with that stem, in ascending order of their paths. A definition that is invalid or
not offered could as well be missing, and of the patterns only the set of files counts that they
match.

* Registration finds the first offered tool of an id (`Registry.find?_registerAll`). A definition
  makes a tool of its own id (`id_of_inlineDefinition`, `id_of_fileDefinition`), so the candidates
  of an id are all that can make a tool of it (`find?_filterMap_toOption`).
* The order of patterns decides which spelling of a path is listed, and nothing else; and the
  definition in a file is the same by all of them (`toOption_fileDefinition_eq`).
-/

namespace Turnstile

/-- The tool of a definition, if the definition is valid and the tool is offered. -/
def Environment.usable? (e : Environment) (d : Except ConfigError Tool) : Option Tool :=
  d.toOption.filter (·.available.allows e)

namespace Tool

variable {d : Defaults} {id : String} {t : Tool}

/-- A tool has the id under which it was defined. -/
theorem id_of_ofSource {s : ToolSource} (h : ofSource d id s = .ok t) : t.id = id :=
  (ofSource_eq_ok_iff.mp h).id

end Tool

namespace Config

/-! ### Definitions and their ids -/

/-- The definition of an inline table. -/
def inlineDefinition (c : Config) (h : HostView) (entry : String × Toml) :
    Except ConfigError Tool :=
  Tool.ofSource? (c.defaults h) entry.1 (ToolSource.ofStored? entry.2)

/-- The definition in a file. -/
def fileDefinition (c : Config) (h : HostView) (path : String) : Except ConfigError Tool :=
  Tool.ofFile (c.defaults h) h.files h.cwd path

/-- The files that the patterns match, in the order of the patterns. -/
def matched (c : Config) (h : HostView) : List String :=
  c.definitionPaths.flatMap fun pattern =>
    h.files.filesMatching h.cwd (Path.expandHome h.home pattern)

/-- The definitions of an id: the inline one, then those of the files with that stem. -/
def candidates (c : Config) (h : HostView) (id : String) : List (Except ConfigError Tool) :=
  (c.tools.filter (·.1 == id)).map (c.inlineDefinition h) ++
    ((c.definitionFiles h).filter (Path.stem · == id)).map (c.fileDefinition h)

variable {c : Config} {h : HostView} {id : String} {e : Environment}

/-- Definitions of the settings come first, and then those of files. -/
theorem definitions_eq (c : Config) (h : HostView) : c.definitions h =
    c.tools.map (c.inlineDefinition h) ++ (c.definitionFiles h).map (c.fileDefinition h) := rfl

/-- The files are listed by their paths, each once. -/
theorem isListing_definitionFiles (c : Config) (h : HostView) :
    Path.IsListing (c.matched h) (c.definitionFiles h) :=
  Path.isListing_sortUnique _

/-- An inline table that makes a tool holds a definition. -/
theorem exists_ofSource_of_inlineDefinition {entry : String × Toml} {t : Tool}
    (hd : c.inlineDefinition h entry = .ok t) :
    ∃ s, Tool.ofSource (c.defaults h) entry.1 s = .ok t := by
  obtain ⟨s, -, hs⟩ := Tool.ofSource?_eq_ok_iff.mp hd
  exact ⟨s, hs⟩

/-- So does a file, under its stem. -/
theorem exists_ofSource_of_fileDefinition {path : String} {t : Tool}
    (hd : c.fileDefinition h path = .ok t) :
    ∃ s, Tool.ofSource (c.defaults h) (Path.stem path) s = .ok t := by
  unfold fileDefinition Tool.ofFile at hd
  cases htext : h.files.readText h.cwd path with
  | error e => simp [htext] at hd
  | ok text =>
      rw [htext] at hd
      obtain ⟨s, -, hs⟩ := Tool.ofSource?_eq_ok_iff.mp hd
      exact ⟨s, hs⟩

/-- A definition of the settings has its key as its id. -/
theorem id_of_inlineDefinition {entry : String × Toml} {t : Tool}
    (hd : c.inlineDefinition h entry = .ok t) : t.id = entry.1 := by
  obtain ⟨s, hs⟩ := exists_ofSource_of_inlineDefinition hd
  exact Tool.id_of_ofSource hs

/-- A definition in a file has the stem of the path as its id. -/
theorem id_of_fileDefinition {path : String} {t : Tool} (hd : c.fileDefinition h path = .ok t) :
    t.id = Path.stem path := by
  obtain ⟨s, hs⟩ := exists_ofSource_of_fileDefinition hd
  exact Tool.id_of_ofSource hs

/-- Where each definition makes a tool of its own name, the definitions of a name are all that can
make a tool of that id. -/
theorem find?_filterMap_toOption {α : Type} {name : α → String}
    {define : α → Except ConfigError Tool} (hname : ∀ a t, define a = .ok t → t.id = name a)
    (as : List α) :
    ((as.map define).filterMap (·.toOption)).find? (Tool.isOffered e id) =
      ((as.filter (name · == id)).map define).findSome? e.usable? := by
  rw [List.find?_eq_findSome?_guard, ← List.head?_filterMap, ← List.head?_filterMap,
    List.filterMap_filterMap, List.filterMap_map, List.filterMap_map, List.filterMap_filter]
  congr 1
  refine List.filterMap_congr fun a _ => ?_
  cases hd : define a with
  | error fault => simp [hd, Environment.usable?, Except.toOption]
  | ok t =>
      simp [hd, Environment.usable?, Except.toOption, Tool.isOffered, hname a t hd, Option.guard,
        Option.filter, ite_and]

/-- **The tool of an id** is the first of its candidates that is valid and offered. -/
theorem find?_registry (c : Config) (h : HostView) (id : String) :
    (c.registry h).find? id = (c.candidates h id).findSome? c.environment.usable? := by
  rw [registry, Registry.find?_registerAll, definitions_eq, List.filterMap_append,
    List.find?_append, candidates, List.findSome?_append,
    find?_filterMap_toOption fun _ _ => id_of_inlineDefinition,
    find?_filterMap_toOption fun _ _ => id_of_fileDefinition]
  rfl

/-- There is one table in which each id stands for that tool, and it is what is loaded. -/
theorem eq_registry_iff {r : Registry} : r = c.registry h ↔
    r.environment = c.environment ∧ r.ids.Pairwise (· < ·) ∧
      ∀ id, r.find? id = (c.candidates h id).findSome? c.environment.usable? := by
  have henvironment : (c.registry h).environment = c.environment :=
    Registry.environment_registerAll _ _
  have hids : (c.registry h).ids.Pairwise (· < ·) :=
    Registry.pairwise_ids_registerAll List.Pairwise.nil _
  constructor
  · rintro rfl
    exact ⟨henvironment, hids, find?_registry c h⟩
  · rintro ⟨hr, hrids, hfind⟩
    exact Registry.eq_of_find?_eq (hr.trans henvironment.symm) hrids hids fun id =>
      (hfind id).trans (find?_registry c h id).symm

/-! ### Definitions that do not count -/

/-- Only what is valid and offered is registered. -/
theorem registerAll_usable (r : Registry) (ds : List (Except ConfigError Tool)) :
    r.registerAll (ds.filterMap (·.toOption)) =
      r.registerAll (ds.filterMap r.environment.usable?) := by
  rw [← Registry.registerAll_filter_allows, List.filter_filterMap]
  rfl

/-- A definition that is invalid or not offered could as well be missing. -/
theorem registry_without {before after : List (Except ConfigError Tool)}
    {d : Except ConfigError Tool} (hds : c.definitions h = before ++ d :: after)
    (hd : c.environment.usable? d = none) :
    c.registry h = Registry.registerAll { environment := c.environment }
      ((before ++ after).filterMap (·.toOption)) := by
  rw [registry, hds, registerAll_usable, registerAll_usable]
  simp only [List.filterMap_append, List.filterMap_cons, hd]

/-! ### Patterns -/

/-- The definition in a file does not depend on the spelling of its path. -/
theorem toOption_fileDefinition_eq {p q : String} (hp : h.files.isFileAt h.cwd p)
    (hq : h.files.isFileAt h.cwd q) (hkey : Path.key p = Path.key q) :
    (c.fileDefinition h p).toOption = (c.fileDefinition h q).toOption := by
  unfold fileDefinition Tool.ofFile
  rw [FileTree.readText_eq_of_key_eq hp hq hkey, Path.stem_eq_of_key_eq hkey]
  cases h.files.readText h.cwd q with
  | error e => rfl
  | ok text => rfl

/-- There is a file at each path that is listed. -/
theorem isFileAt_of_mem_definitionFiles {p : String} (hp : p ∈ c.definitionFiles h) :
    h.files.isFileAt h.cwd p := by
  obtain ⟨pattern, -, hmatch⟩ := List.mem_flatMap.mp ((isListing_definitionFiles c h).subset hp)
  exact FileTree.isFileAt_of_mem_filesMatching hmatch

/-- Patterns that match the same files load the same tools. -/
theorem registry_eq_of_same_files {paths : List String}
    (hfiles : ∀ k, k ∈ (({ c with definitionPaths := paths }).matched h).map Path.key ↔
      k ∈ (c.matched h).map Path.key) :
    ({ c with definitionPaths := paths }).registry h = c.registry h := by
  let c' := { c with definitionPaths := paths }
  have hkeys : (c'.definitionFiles h).map Path.key = (c.definitionFiles h).map Path.key :=
    (isListing_definitionFiles c' h).map_key_eq (isListing_definitionFiles c h) hfiles
  have hdefinitions : (c'.definitionFiles h).map (fun p => (c.fileDefinition h p).toOption) =
      (c.definitionFiles h).map (fun p => (c.fileDefinition h p).toOption) :=
    Path.map_eq_of_map_key_eq hkeys fun p hp q hq hkey =>
      toOption_fileDefinition_eq (isFileAt_of_mem_definitionFiles hp)
        (isFileAt_of_mem_definitionFiles hq) hkey
  have hfilterMap : ∀ paths : List String,
      (paths.map (c.fileDefinition h)).filterMap (·.toOption) =
        (paths.map fun p => (c.fileDefinition h p).toOption).filterMap id := by
    intro paths
    rw [List.filterMap_map, List.filterMap_map]
    rfl
  calc c'.registry h
      = Registry.registerAll { environment := c.environment }
          ((c.tools.map (c.inlineDefinition h)).filterMap (·.toOption) ++
            ((c'.definitionFiles h).map (c.fileDefinition h)).filterMap (·.toOption)) := by
        rw [registry, definitions_eq, List.filterMap_append]
        rfl
    _ = c.registry h := by
        rw [hfilterMap, hdefinitions, ← hfilterMap, registry, definitions_eq,
          List.filterMap_append]

/-- Neither the order of the patterns nor their repetition counts. -/
theorem registry_eq_of_same_patterns {paths : List String}
    (hpaths : ∀ pattern, pattern ∈ paths ↔ pattern ∈ c.definitionPaths) :
    ({ c with definitionPaths := paths }).registry h = c.registry h := by
  refine registry_eq_of_same_files fun k => ?_
  simp only [matched, List.mem_map, List.mem_flatMap, hpaths]

/-- **What a configuration loads**: the table in which each id stands for the first of its
candidates that is valid and offered, where the files are listed in strictly ascending order of
their paths. It is the same without any definition that is invalid or not offered, and with other
patterns that match the same files, in particular with the same patterns in another order or
repeated. -/
theorem registry_loads (c : Config) (h : HostView) :
    (∀ r, r = c.registry h ↔ r.environment = c.environment ∧ r.ids.Pairwise (· < ·) ∧
      ∀ id, r.find? id = (c.candidates h id).findSome? c.environment.usable?) ∧
    Path.IsListing (c.matched h) (c.definitionFiles h) ∧
    (∀ before d after, c.definitions h = before ++ d :: after →
      c.environment.usable? d = none →
      c.registry h = Registry.registerAll { environment := c.environment }
        ((before ++ after).filterMap (·.toOption))) ∧
    (∀ paths, (∀ k, k ∈ (({ c with definitionPaths := paths }).matched h).map Path.key ↔
        k ∈ (c.matched h).map Path.key) →
      ({ c with definitionPaths := paths }).registry h = c.registry h) ∧
    ∀ paths, (∀ pattern, pattern ∈ paths ↔ pattern ∈ c.definitionPaths) →
      ({ c with definitionPaths := paths }).registry h = c.registry h :=
  ⟨fun _ => eq_registry_iff, isListing_definitionFiles c h, fun _ _ _ => registry_without,
    fun _ => registry_eq_of_same_files, fun _ => registry_eq_of_same_patterns⟩

end Config

end Turnstile
