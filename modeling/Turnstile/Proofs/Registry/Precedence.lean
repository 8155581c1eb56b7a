import Turnstile.Proofs.Registry.Registration

/-!
# Which of several definitions a registry keeps

Tools are registered one after another into an empty registry (`Registry.ofTools`). Of the tools
before it, only those stand in a tool's way that have its id and are offered in the environment
(`Tool.IsFirstOffered`).

**Theorem** (`ofTools_keeps_first`): an id stands for the first of its tools that is offered, these
are the tools that registration accepts, and what it does not accept changes nothing. The order of
tools counts only among those of one id.
-/

namespace Turnstile

/-- A tool is offered in an environment, and none of the tools before it that have its id is. -/
def Tool.IsFirstOffered (e : Environment) (before : List Tool) (t : Tool) : Prop :=
  t.available.allows e = true ∧ ∀ u ∈ before, u.id = t.id → u.available.allows e = false

namespace Registry

variable {e : Environment} {ts : List Tool} {t : Tool} {id : String}

/-- The registry of an environment after tools were registered one after another. -/
def ofTools (e : Environment) (ts : List Tool) : Registry :=
  registerAll { environment := e } ts

/-- A registry is in the environment that it was made for. -/
theorem environment_ofTools (e : Environment) (ts : List Tool) :
    (ofTools e ts).environment = e :=
  environment_registerAll _ ts

/-- Its ids ascend strictly. -/
theorem pairwise_ids_ofTools (e : Environment) (ts : List Tool) :
    (ofTools e ts).ids.Pairwise (· < ·) :=
  pairwise_ids_registerAll List.Pairwise.nil ts

/-! ### What is found -/

/-- It finds the first tool of the list that has the id and is offered. -/
theorem find?_ofTools (e : Environment) (ts : List Tool) (id : String) :
    (ofTools e ts).find? id = ts.find? (Tool.isOffered e id) :=
  find?_registerAll _ ts id

/-- A tool is found exactly if none before it in the list has its id and is offered. -/
theorem find?_ofTools_eq_some_iff :
    (ofTools e ts).find? id = some t ↔
      ∃ before after, ts = before ++ t :: after ∧ t.id = id ∧ t.IsFirstOffered e before := by
  rw [find?_ofTools, List.find?_eq_some_iff_append]
  simp only [Tool.isOffered, Tool.IsFirstOffered, Bool.and_eq_true, beq_iff_eq,
    Bool.not_eq_true', Bool.and_eq_false_imp]
  constructor
  · rintro ⟨⟨rfl, hoffered⟩, before, after, hts, hbefore⟩
    exact ⟨before, after, hts, rfl, hoffered, hbefore⟩
  · rintro ⟨before, after, hts, rfl, hoffered, hbefore⟩
    exact ⟨⟨rfl, hoffered⟩, before, after, hts, hbefore⟩

/-- Nothing is found exactly if no tool of the id is offered. -/
theorem find?_ofTools_eq_none_iff :
    (ofTools e ts).find? id = none ↔ ∀ t ∈ ts, t.id = id → t.available.allows e = false := by
  rw [find?_ofTools, List.find?_eq_none]
  simp only [Tool.isOffered, Bool.and_eq_true, beq_iff_eq, not_and, Bool.not_eq_true]

/-- Among tools of different ids, each that is offered is found. -/
theorem find?_ofTools_eq_some_iff_mem (hdistinct : (ts.map (·.id)).Nodup) :
    (ofTools e ts).find? id = some t ↔ t ∈ ts ∧ t.id = id ∧ t.available.allows e = true := by
  rw [find?_ofTools_eq_some_iff]
  constructor
  · rintro ⟨before, after, rfl, hid, hfirst⟩
    exact ⟨List.mem_append_right _ List.mem_cons_self, hid, hfirst.1⟩
  · rintro ⟨hmem, hid, hoffered⟩
    obtain ⟨before, after, rfl⟩ := List.append_of_mem hmem
    refine ⟨before, after, rfl, hid, hoffered, fun u hu hsame => ?_⟩
    rw [List.map_append, List.nodup_append] at hdistinct
    exact (hdistinct.2.2 u.id (List.mem_map_of_mem hu) t.id (by simp) hsame).elim

/-- The ids of a registry are those under which it finds something. -/
theorem mem_ids_iff {r : Registry} : id ∈ r.ids ↔ r.find? id ≠ none := by
  rw [Ne, find?_eq_none, ids, List.mem_map]
  push Not
  rfl

/-- An id is in the registry exactly if some tool of the list with the id is offered. -/
theorem mem_ids_ofTools_iff :
    id ∈ (ofTools e ts).ids ↔ ∃ t ∈ ts, t.id = id ∧ t.available.allows e = true := by
  rw [mem_ids_iff, Ne, find?_ofTools_eq_none_iff]
  push Not
  simp only [Bool.not_eq_false]

/-- Only tools that are offered come into the registry. -/
theorem allows_of_mem_ofTools (h : t ∈ (ofTools e ts).tools) : t.available.allows e = true := by
  have hfind := (find?_eq_some_iff (pairwise_ids_ofTools e ts)).mpr ⟨h, rfl⟩
  obtain ⟨before, after, -, -, hfirst⟩ := find?_ofTools_eq_some_iff.mp hfind
  exact hfirst.1

/-! ### What registration accepts -/

/-- A tool that is not admitted changes nothing. -/
theorem register_of_admits_eq_false {r : Registry} (h : r.admits t = false) : r.register t = r := by
  rw [register, h]
  rfl

/-- A tool is admitted exactly if it is the first of its id that is offered. -/
theorem admits_ofTools_iff : (ofTools e ts).admits t = true ↔ t.IsFirstOffered e ts := by
  rw [admits, environment_ofTools, Bool.and_eq_true, Option.isNone_iff_eq_none,
    find?_ofTools_eq_none_iff]
  rfl

/-! ### Other orders -/

/-- The order of tools of different ids does not count. -/
theorem ofTools_eq_of_perm {ts' : List Tool} (hperm : ts.Perm ts')
    (hdistinct : (ts.map (·.id)).Nodup) : ofTools e ts' = ofTools e ts := by
  have hdistinct' : (ts'.map (·.id)).Nodup := (hperm.map _).nodup_iff.mp hdistinct
  have hsame (id : String) : (ofTools e ts').find? id = (ofTools e ts).find? id := by
    refine Option.ext fun t => ?_
    rw [find?_ofTools_eq_some_iff_mem hdistinct', find?_ofTools_eq_some_iff_mem hdistinct,
      hperm.mem_iff]
  refine eq_of_find?_eq ?_ (pairwise_ids_ofTools e ts') (pairwise_ids_ofTools e ts) hsame
  rw [environment_ofTools, environment_ofTools]

/-- **A registry keeps the first definition of an id that is offered.** -/
theorem ofTools_keeps_first (e : Environment) (ts : List Tool) :
    (∀ id t, (ofTools e ts).find? id = some t ↔
      ∃ before after, ts = before ++ t :: after ∧ t.id = id ∧ t.IsFirstOffered e before) ∧
    (∀ id, (ofTools e ts).find? id = none ↔
      ∀ t ∈ ts, t.id = id → t.available.allows e = false) ∧
    (∀ before t after, ts = before ++ t :: after →
      ((ofTools e before).admits t = true ↔ t.IsFirstOffered e before) ∧
      ((ofTools e before).admits t = false →
        (ofTools e before).register t = ofTools e before)) ∧
    (ofTools e ts).ids.Pairwise (· < ·) ∧
    (∀ id, id ∈ (ofTools e ts).ids ↔ ∃ t ∈ ts, t.id = id ∧ t.available.allows e = true) ∧
    (∀ t ∈ (ofTools e ts).tools, t.available.allows e = true) ∧
    ∀ ts', ts.Perm ts' → (ts.map (·.id)).Nodup →
      ofTools e ts' = ofTools e ts ∧ (ofTools e ts').ids = (ofTools e ts).ids ∧
        (ofTools e ts').prompt = (ofTools e ts).prompt ∧
        ∀ id, (ofTools e ts').schema? id = (ofTools e ts).schema? id := by
  refine ⟨fun _ _ => find?_ofTools_eq_some_iff, fun _ => find?_ofTools_eq_none_iff,
    fun _ _ _ _ => ⟨admits_ofTools_iff, register_of_admits_eq_false⟩, pairwise_ids_ofTools e ts,
    fun _ => mem_ids_ofTools_iff, fun _ => allows_of_mem_ofTools, fun ts' hperm hdistinct => ?_⟩
  have hsame : ofTools e ts' = ofTools e ts := ofTools_eq_of_perm hperm hdistinct
  rw [hsame]
  exact ⟨rfl, rfl, rfl, fun _ => rfl⟩

/-- Three shells, the first of them for a laptop only, and another tool. -/
theorem ofTools_keeps_first_shell :
    let tool (id command : String) : Tool :=
      { id, command, timeout := .ofWholeSeconds 120, gate := .ofPolicy {} }
    let laptop : Tool := { tool "shell" "sh" with available := { whenIsolated := false } }
    let shell := tool "shell" "bash"
    let other := tool "shell" "zsh"
    let list := tool "ls" "ls"
    let r := ofTools .isolated [laptop, shell, other, list]
    r.find? "shell" = some shell ∧ r.find? "sh" = none ∧
      (ofTools .isolated [laptop]).admits shell = true ∧
      (ofTools .isolated [laptop, shell]).admits other = false ∧
      (ofTools .isolated [laptop, shell]).register other = ofTools .isolated [laptop, shell] ∧
      "ls" ∈ r.ids ∧ ofTools .isolated [list, shell] = ofTools .isolated [shell, list] := by
  intro tool laptop shell other list r
  have hfirst : shell.IsFirstOffered .isolated [laptop] :=
    ⟨rfl, List.forall_mem_singleton.mpr fun _ => rfl⟩
  have hnotFirst : ¬ other.IsFirstOffered .isolated [laptop, shell] := fun h =>
    absurd (h.2 shell (by simp) rfl) (by decide)
  obtain ⟨hfind, hnone, hadmits, -, hids, -, -⟩ :=
    ofTools_keeps_first .isolated [laptop, shell, other, list]
  obtain ⟨-, -, -, -, -, -, hperm⟩ := ofTools_keeps_first .isolated [shell, list]
  have hrefused : (ofTools .isolated [laptop, shell]).admits other = false :=
    eq_false_of_ne_true fun h =>
      hnotFirst ((hadmits [laptop, shell] other [list] rfl).1.mp h)
  exact ⟨(hfind "shell" shell).mpr ⟨[laptop], [other, list], rfl, rfl, hfirst⟩,
    (hnone "sh").mpr (by simp [laptop, shell, other, list, tool]),
    (hadmits [laptop] shell [other, list] rfl).1.mpr hfirst, hrefused,
    (hadmits [laptop, shell] other [list] rfl).2 hrefused,
    (hids "ls").mpr ⟨list, by simp, rfl, rfl⟩,
    (hperm [list, shell] (.swap _ _ _) (by decide)).1⟩

end Registry

end Turnstile
