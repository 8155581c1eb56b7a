import Mathlib.Data.List.Sort
import Mathlib.Data.String.Basic
import Mathlib.Tactic.SplitIfs
import Turnstile.Registry

/-!
# Registration, one tool after another

After tools were added to a registry, what it finds for an id is what it found before, or else the
first of them that has the id and is offered in its environment (`Registry.find?_registerAll`). A
tool that is not offered stands in nobody's way.

The ids of a registry ascend strictly as long as tools are only added to it
(`Registry.pairwise_ids_registerAll`), and such a registry is determined by its environment and by
what it finds (`Registry.eq_of_find?_eq`).
-/

namespace Turnstile

namespace Tool

variable {t u : Tool} {ts : List Tool} {id : String} {e : Environment}

/-! ### Tools in order -/

/-- A tool that is added joins those that were there. -/
theorem mem_insertInto : u ∈ t.insertInto ts ↔ u = t ∨ u ∈ ts := by
  induction ts with
  | nil => simp [insertInto]
  | cons v rest ih =>
      rw [insertInto]
      split_ifs with hlt
      · simp
      · rw [List.mem_cons, ih, List.mem_cons]
        exact or_left_comm

/-- A tool of a new id is added at its place, so ids go on ascending strictly. -/
theorem pairwise_insertInto (hts : ts.Pairwise fun u v => u.id < v.id)
    (hnew : ∀ u ∈ ts, u.id ≠ t.id) : (t.insertInto ts).Pairwise fun u v => u.id < v.id := by
  induction ts with
  | nil => exact List.pairwise_singleton _ _
  | cons u rest ih =>
      obtain ⟨hu, hrest⟩ := List.pairwise_cons.mp hts
      obtain ⟨hne, hnew⟩ := List.forall_mem_cons.mp hnew
      rw [insertInto]
      split_ifs with hlt
      · refine List.pairwise_cons.mpr ⟨fun v hv => ?_, hts⟩
        rcases List.mem_cons.mp hv with rfl | hv
        · exact hlt
        · exact hlt.trans (hu v hv)
      · refine List.pairwise_cons.mpr ⟨fun v hv => ?_, ih hrest hnew⟩
        rcases mem_insertInto.mp hv with rfl | hv
        · exact lt_of_le_of_ne (not_lt.mp hlt) hne
        · exact hu v hv

/-- A tool that is added under a new id is found by it. -/
theorem find?_insertInto_self (hnew : ∀ u ∈ ts, u.id ≠ t.id) :
    (t.insertInto ts).find? (·.id == t.id) = some t := by
  induction ts with
  | nil => simp [insertInto]
  | cons u rest ih =>
      obtain ⟨hne, hnew⟩ := List.forall_mem_cons.mp hnew
      rw [insertInto]
      split_ifs with hlt
      · simp
      · rw [List.find?_cons_of_neg (by simpa using hne), ih hnew]

/-- For any other id, the same is found as before. -/
theorem find?_insertInto_of_ne (hne : t.id ≠ id) :
    (t.insertInto ts).find? (·.id == id) = ts.find? (·.id == id) := by
  induction ts with
  | nil => simp [insertInto, hne]
  | cons u rest ih =>
      rw [insertInto]
      split_ifs with hlt
      · rw [List.find?_cons_of_neg (by simpa using hne)]
      · rw [List.find?_cons, List.find?_cons, ih]

/-- True of a tool that has the id and is offered in the environment. -/
def isOffered (e : Environment) (id : String) (t : Tool) : Bool :=
  t.id == id && t.available.allows e

/-- A tool is not offered under an id that it does not have. -/
theorem find?_singleton_of_ne (hne : t.id ≠ id) : [t].find? (isOffered e id) = none := by
  simp [isOffered, hne]

end Tool

namespace Registry

variable {r r₁ r₂ : Registry} {t : Tool} {ts : List Tool} {id : String}

/-! ### What is found -/

/-- Nothing is found exactly for the ids that no tool has. -/
theorem find?_eq_none : r.find? id = none ↔ ∀ t ∈ r.tools, t.id ≠ id := by
  simp [find?]

/-- A registry stays in its environment. -/
theorem environment_register (r : Registry) (t : Tool) :
    (r.register t).environment = r.environment := by
  unfold register
  split_ifs
  · rfl
  · rfl

/-- A tool that is not offered leaves the registry as it was. -/
theorem register_of_not_allows (h : t.available.allows r.environment = false) :
    r.register t = r := by
  simp [register, admits, h]

/-- What is found after one tool was added: what was found before, else that tool. -/
theorem find?_register (r : Registry) (t : Tool) (id : String) :
    (r.register t).find? id = (r.find? id).or ([t].find? (Tool.isOffered r.environment id)) := by
  by_cases hid : t.id = id
  · subst hid
    cases hallows : t.available.allows r.environment with
    | false => simp [register_of_not_allows hallows, Tool.isOffered, hallows]
    | true =>
        have hoffered : [t].find? (Tool.isOffered r.environment t.id) = some t := by
          simp [Tool.isOffered, hallows]
        rw [hoffered, register, admits, hallows, Bool.true_and]
        cases hfind : r.find? t.id with
        | some u => simp [hfind]
        | none => exact Tool.find?_insertInto_self (find?_eq_none.mp hfind)
  · rw [Tool.find?_singleton_of_ne hid, Option.or_none, register]
    split_ifs with hadmits
    · exact Tool.find?_insertInto_of_ne hid
    · rfl

/-- A registry stays in its environment, however many tools are added. -/
theorem environment_registerAll (r : Registry) (ts : List Tool) :
    (r.registerAll ts).environment = r.environment := by
  induction ts generalizing r with
  | nil => rfl
  | cons t ts ih => exact (ih (r.register t)).trans (environment_register r t)

/-- **What is found after registration**: what was found before, else the first tool of the id that
is offered. -/
theorem find?_registerAll (r : Registry) (ts : List Tool) (id : String) :
    (r.registerAll ts).find? id = (r.find? id).or (ts.find? (Tool.isOffered r.environment id)) := by
  induction ts generalizing r with
  | nil => exact Option.or_none.symm
  | cons t ts ih =>
      calc ((r.register t).registerAll ts).find? id
          = ((r.register t).find? id).or (ts.find? (Tool.isOffered r.environment id)) := by
            rw [ih, environment_register]
        _ = (r.find? id).or (([t] ++ ts).find? (Tool.isOffered r.environment id)) := by
            rw [find?_register, Option.or_assoc, ← List.find?_append]

/-- What is not offered could as well be missing. -/
theorem registerAll_filter_allows (r : Registry) (ts : List Tool) :
    r.registerAll (ts.filter (·.available.allows r.environment)) = r.registerAll ts := by
  induction ts generalizing r with
  | nil => rfl
  | cons t ts ih =>
      have hrest := ih (r.register t)
      rw [environment_register] at hrest
      cases hallows : t.available.allows r.environment with
      | false =>
          rw [List.filter_cons_of_neg (by simpa using hallows)]
          rw [register_of_not_allows hallows] at hrest
          rw [hrest, registerAll, registerAll, List.foldl_cons, register_of_not_allows hallows]
      | true =>
          rw [List.filter_cons_of_pos (by simpa using hallows)]
          exact hrest

/-! ### Registries as tables -/

/-- One tool more keeps the ids strictly ascending. -/
theorem pairwise_ids_register (h : r.ids.Pairwise (· < ·)) (t : Tool) :
    (r.register t).ids.Pairwise (· < ·) := by
  unfold register
  split_ifs with hadmits
  · have hnew : r.find? t.id = none := by
      simpa using (Bool.and_eq_true_iff.mp hadmits).2
    exact List.pairwise_map.mpr
      (Tool.pairwise_insertInto (List.pairwise_map.mp h) (find?_eq_none.mp hnew))
  · exact h

/-- Ids ascend strictly however many tools are added. -/
theorem pairwise_ids_registerAll (h : r.ids.Pairwise (· < ·)) (ts : List Tool) :
    (r.registerAll ts).ids.Pairwise (· < ·) := by
  induction ts generalizing r with
  | nil => exact h
  | cons t ts ih => exact ih (pairwise_ids_register h t)

/-- Where ids ascend strictly, the only tool of an id is the one that is found. -/
theorem find?_eq_some_iff (h : r.ids.Pairwise (· < ·)) :
    r.find? id = some t ↔ t ∈ r.tools ∧ t.id = id := by
  constructor
  · intro hfind
    exact ⟨List.mem_of_find?_eq_some hfind, by simpa using List.find?_some hfind⟩
  · rintro ⟨hmem, rfl⟩
    obtain ⟨before, after, htools⟩ := List.append_of_mem hmem
    refine List.find?_eq_some_iff_append.mpr ⟨by simp, before, after, htools, fun u hu => ?_⟩
    rw [ids, htools, List.map_append, List.pairwise_append] at h
    have hlt := h.2.2 u.id (List.mem_map_of_mem hu) t.id (by simp)
    simpa using hlt.ne

/-- Registries in which the same is found are the same. -/
theorem eq_of_find?_eq (he : r₁.environment = r₂.environment) (h₁ : r₁.ids.Pairwise (· < ·))
    (h₂ : r₂.ids.Pairwise (· < ·)) (hfind : ∀ id, r₁.find? id = r₂.find? id) : r₁ = r₂ := by
  have hmem : ∀ t, t ∈ r₁.tools ↔ t ∈ r₂.tools := by
    intro t
    have h : r₁.find? t.id = some t ↔ t ∈ r₁.tools ∧ t.id = t.id := find?_eq_some_iff h₁
    rw [hfind, find?_eq_some_iff h₂] at h
    simpa using h.symm
  have hasymm : Std.Asymm fun t u : Tool => t.id < u.id := ⟨fun _ _ h => h.asymm⟩
  have htools : r₁.tools = r₂.tools :=
    (List.pairwise_map.mp h₁).eq_of_mem_iff (List.pairwise_map.mp h₂) hmem
  cases r₁
  cases r₂
  simp_all

end Registry

end Turnstile
