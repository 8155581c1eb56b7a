import Mathlib.Data.List.Forall2
import Turnstile.Proofs.Template.Reading
import Turnstile.Tool.Definition

/-!
# Parameters and the placeholders of a command

The parameters of a definition are checked in two rounds. `Parameter.declare` goes through the
declarations one by one, and `Parameter.check` compares their names with the placeholders of the
command. `WellDeclared` says what a definition must be like, and `FirstFault` what is reported of
one that is not.

**Theorem** (`Parameter.check_exact`): a definition is accepted exactly if it is well declared, the
parameters are then the declared ones with their defaults as texts, and otherwise the fault that is
reported is the first one.

* A declaration is accepted, or it is at fault, given the names before it
  (`ofSource_eq_ok_iff`, `ofSource_eq_error_iff`).
* A list of declarations is accepted as a whole, or there is a first one at fault
  (`declare_eq_ok_iff`, `declare_eq_error_iff`).
* Consistent declarations are compared with the placeholders, whose first name without declaration
  is the same in the list of names and in the reading of the command
  (`check_eq_error_iff_of_consistent`, `Template.find?_referenced`).
-/

namespace Turnstile

/-- Two checks in a row succeed if the second does on what the first one found. -/
theorem bind_eq_ok_iff {ε α β : Type} {x : Except ε α} {f : α → Except ε β} {b : β} :
    x >>= f = .ok b ↔ ∃ a, x = .ok a ∧ f a = .ok b := by
  cases x with
  | error e => exact ⟨fun h => (nomatch h), fun ⟨_, h, _⟩ => (nomatch h)⟩
  | ok a => exact ⟨fun h => ⟨a, rfl, h⟩, fun ⟨_, h, hf⟩ => by cases h; exact hf⟩

/-- They fail with the fault of the first, or else with that of the second. -/
theorem bind_eq_error_iff {ε α β : Type} {x : Except ε α} {f : α → Except ε β} {e : ε} :
    x >>= f = .error e ↔ x = .error e ∨ ∃ a, x = .ok a ∧ f a = .error e := by
  cases x with
  | error e' =>
      refine ⟨fun h => .inl ?_, ?_⟩
      · cases h
        rfl
      · rintro (h | ⟨_, ⟨⟩, -⟩)
        cases h
        rfl
  | ok a =>
      refine ⟨fun h => .inr ⟨a, rfl, h⟩, ?_⟩
      rintro (⟨⟨⟩⟩ | ⟨_, ⟨⟩, h⟩)
      exact h

/-! ### Defaults and their texts -/

/-- The text of a value that is not null. -/
inductive Json.Spells : Json → String → Prop
  | string (s : String) : Spells (.string s) s
  | number (n : JsonNumber) : Spells (.number n) (Json.numberText n)
  | bool (b : Bool) : Spells (.bool b) (if b then "true" else "false")

/-- A value with parts. -/
def Json.IsNested : Json → Prop
  | .array _ | .object _ => True
  | _ => False

/-- A value has no text exactly if it is nested. -/
theorem bindingText?_eq_none_iff {v : Json} : bindingText? v = none ↔ v.IsNested := by
  cases v <;> simp [bindingText?, Json.IsNested]

/-- A value has the text that it spells. -/
theorem bindingText?_eq_some_iff {v : Json} {text : String} :
    bindingText? v = some (some text) ↔ v.Spells text := by
  constructor
  · intro h
    cases v with
    | null => cases h
    | string s =>
        cases h
        exact .string _
    | number n =>
        cases h
        exact .number n
    | bool b =>
        cases h
        exact .bool b
    | array items => cases h
    | object members => cases h
  · intro h
    cases h with
    | string s => rfl
    | number n => rfl
    | bool b => rfl

/-- The default of a declaration is an array or an object. -/
def ParameterSource.HasNestedDefault (p : ParameterSource) : Prop :=
  ∃ v, p.default = some v ∧ v.IsNested

namespace Parameter

variable {declared : List String} {p : ParameterSource} {q : Parameter}
  {sources : List ParameterSource} {ps : List Parameter} {fault : Fault}

/-- A parameter is the declared one. Its default is the text of the declared default; null has
none. -/
structure IsOf (p : ParameterSource) (q : Parameter) : Prop where
  name : q.name = p.name
  description : q.description = p.description
  required : q.required = p.required
  default : ∀ text, q.default = some text ↔ ∃ v, p.default = some v ∧ v.Spells text

/-! ### One declaration -/

/-- What is wrong with a declaration, given the names that are declared before it. -/
inductive FaultOf (declared : List String) (p : ParameterSource) : Fault → Prop
  | duplicate : p.name ∈ declared → FaultOf declared p (.duplicate p.name)
  | nestedDefault : p.name ∉ declared → p.HasNestedDefault →
      FaultOf declared p (.badValue .parameters (.nestedDefault p.name))

/-- A name that was declared before is a fault, whatever else is wrong. -/
theorem ofSource_of_mem (h : p.name ∈ declared) :
    ofSource declared p = .error (.duplicate p.name) := by
  rw [ofSource, if_pos (List.contains_iff_mem.mpr h)]

/-- A nested default is a fault of a name that is new. -/
theorem ofSource_of_hasNestedDefault (hnew : p.name ∉ declared) (h : p.HasNestedDefault) :
    ofSource declared p = .error (.badValue .parameters (.nestedDefault p.name)) := by
  obtain ⟨v, hdefault, hnested⟩ := h
  rw [ofSource, if_neg (by rwa [List.contains_iff_mem]), hdefault, Option.map_some,
    bindingText?_eq_none_iff.mpr hnested]

/-- The text of a default that is no array and no object. -/
theorem exists_ofSource (hnew : p.name ∉ declared) (h : ¬ p.HasNestedDefault) :
    ∃ q, ofSource declared p = .ok q ∧ IsOf p q := by
  unfold ofSource
  rw [if_neg (by rwa [List.contains_iff_mem])]
  cases hdefault : p.default with
  | none => exact ⟨_, rfl, rfl, rfl, rfl, by simp [hdefault]⟩
  | some v =>
      rw [Option.map_some]
      cases htext : bindingText? v with
      | none => exact (h ⟨v, hdefault, bindingText?_eq_none_iff.mp htext⟩).elim
      | some text =>
          refine ⟨_, rfl, rfl, rfl, rfl, fun t => ?_⟩
          simp only [Option.join_some, hdefault, Option.some.injEq, exists_eq_left',
            ← bindingText?_eq_some_iff, htext]

/-- The checked form of a declaration. -/
theorem IsOf.unique {q' : Parameter} (h : IsOf p q) (h' : IsOf p q') : q = q' := by
  have hname : q.name = q'.name := h.name.trans h'.name.symm
  have hdescription : q.description = q'.description := h.description.trans h'.description.symm
  have hrequired : q.required = q'.required := h.required.trans h'.required.symm
  have hdefault : q.default = q'.default :=
    Option.ext fun text => (h.default text).trans (h'.default text).symm
  cases q
  cases q'
  simp_all only

/-- A declaration is taken exactly if its name is new and its default is not nested. -/
theorem ofSource_eq_ok_iff :
    ofSource declared p = .ok q ↔
      p.name ∉ declared ∧ ¬ p.HasNestedDefault ∧ IsOf p q := by
  by_cases hnew : p.name ∈ declared
  · simp [ofSource_of_mem hnew, hnew]
  · by_cases hnested : p.HasNestedDefault
    · simp [ofSource_of_hasNestedDefault hnew hnested, hnested]
    · obtain ⟨q', hq', hof⟩ := exists_ofSource hnew hnested
      rw [hq', Except.ok.injEq]
      constructor
      · rintro rfl
        exact ⟨hnew, hnested, hof⟩
      · rintro ⟨-, -, h⟩
        exact hof.unique h

/-- It is refused exactly with the fault that it has. -/
theorem ofSource_eq_error_iff : ofSource declared p = .error fault ↔ FaultOf declared p fault := by
  constructor
  · intro h
    by_cases hnew : p.name ∈ declared
    · rw [ofSource_of_mem hnew] at h
      cases h
      exact .duplicate hnew
    · by_cases hnested : p.HasNestedDefault
      · rw [ofSource_of_hasNestedDefault hnew hnested] at h
        cases h
        exact .nestedDefault hnew hnested
      · obtain ⟨q, hq, -⟩ := exists_ofSource hnew hnested
        rw [hq] at h
        cases h
  · intro h
    cases h with
    | duplicate hdeclared => exact ofSource_of_mem hdeclared
    | nestedDefault hnew hnested => exact ofSource_of_hasNestedDefault hnew hnested

/-! ### All declarations -/

/-- Nothing is wrong with declarations among themselves. -/
structure Consistent (sources : List ParameterSource) : Prop where
  distinct : (sources.map (·.name)).Nodup
  flat : ∀ p ∈ sources, ¬ p.HasNestedDefault

/-- A declaration comes before consistent ones of other names. -/
theorem consistent_cons_iff :
    (Consistent (p :: sources) ∧ ∀ q ∈ p :: sources, q.name ∉ declared) ↔
      (p.name ∉ declared ∧ ¬ p.HasNestedDefault) ∧
        Consistent sources ∧ ∀ q ∈ sources, q.name ∉ p.name :: declared := by
  constructor
  · rintro ⟨⟨hdistinct, hflat⟩, hfresh⟩
    obtain ⟨hother, hdistinct⟩ := List.nodup_cons.mp hdistinct
    obtain ⟨hp, hflat⟩ := List.forall_mem_cons.mp hflat
    obtain ⟨hnew, hfresh⟩ := List.forall_mem_cons.mp hfresh
    refine ⟨⟨hnew, hp⟩, ⟨hdistinct, hflat⟩, fun q hq hmem => ?_⟩
    obtain hsame | hmem := List.mem_cons.mp hmem
    · exact hother (List.mem_map.mpr ⟨q, hq, hsame⟩)
    · exact hfresh q hq hmem
  · rintro ⟨⟨hnew, hp⟩, ⟨hdistinct, hflat⟩, hfresh⟩
    have hother : p.name ∉ sources.map (·.name) := by
      intro hmem
      obtain ⟨q, hq, hname⟩ := List.mem_map.mp hmem
      exact hfresh q hq (List.mem_cons.mpr (.inl hname))
    refine ⟨⟨List.nodup_cons.mpr ⟨hother, hdistinct⟩, List.forall_mem_cons.mpr ⟨hp, hflat⟩⟩, ?_⟩
    refine List.forall_mem_cons.mpr ⟨hnew, fun q hq hmem => ?_⟩
    exact hfresh q hq (List.mem_cons_of_mem _ hmem)

/-- What is wrong with a declaration depends on the set of the names before it. -/
theorem FaultOf.congr {other : List String} (hsame : ∀ name, name ∈ declared ↔ name ∈ other)
    (h : FaultOf declared p fault) : FaultOf other p fault := by
  cases h with
  | duplicate hdeclared => exact .duplicate ((hsame _).mp hdeclared)
  | nestedDefault hnew hnested =>
      exact .nestedDefault (fun hmem => hnew ((hsame _).mpr hmem)) hnested

/-- A name counts as declared from its declaration on. -/
theorem mem_names_append_cons {before : List ParameterSource} (name : String) :
    name ∈ before.map (·.name) ++ p.name :: declared ↔
      name ∈ (p :: before).map (·.name) ++ declared := by
  simp only [List.mem_append, List.mem_cons, List.map_cons]
  exact or_left_comm.trans or_assoc.symm

/-- **The declarations are accepted as a whole**, each as it is. -/
theorem declare_eq_ok_iff :
    declare declared sources = .ok ps ↔
      (Consistent sources ∧ ∀ q ∈ sources, q.name ∉ declared) ∧ List.Forall₂ IsOf sources ps := by
  induction sources generalizing declared ps with
  | nil =>
      constructor
      · rintro ⟨⟩
        exact ⟨⟨⟨List.nodup_nil, by simp⟩, by simp⟩, .nil⟩
      · rintro ⟨-, ⟨⟩⟩
        rfl
  | cons p sources ih =>
      simp only [declare, bind_eq_ok_iff, ofSource_eq_ok_iff, ih, List.forall₂_cons_left_iff,
        consistent_cons_iff]
      constructor
      · rintro ⟨q, ⟨hnew, hflat, hof⟩, rest, ⟨hsources, hrest⟩, ⟨⟩⟩
        exact ⟨⟨⟨hnew, hflat⟩, hsources⟩, q, rest, hof, hrest, rfl⟩
      · rintro ⟨⟨⟨hnew, hflat⟩, hsources⟩, q, rest, hof, hrest, rfl⟩
        exact ⟨q, ⟨hnew, hflat, hof⟩, rest, ⟨hsources, hrest⟩, rfl⟩

/-- **Or a first declaration is at fault**: those before it are accepted. -/
theorem declare_eq_error_iff :
    declare declared sources = .error fault ↔
      ∃ before p after, sources = before ++ p :: after ∧
        (Consistent before ∧ ∀ q ∈ before, q.name ∉ declared) ∧
        FaultOf (before.map (·.name) ++ declared) p fault := by
  induction sources generalizing declared with
  | nil =>
      constructor
      · rintro ⟨⟩
      · rintro ⟨before, p, after, hsources, -⟩
        exact absurd hsources (by simp)
  | cons p sources ih =>
      simp only [declare, bind_eq_error_iff, ofSource_eq_ok_iff, ofSource_eq_error_iff, ih]
      constructor
      · rintro (hfault | ⟨q, ⟨hnew, hflat, -⟩, ⟨before, p', after, rfl, hbefore, hfault⟩ |
          ⟨rest, -, ⟨⟩⟩⟩)
        · exact ⟨[], p, sources, rfl, ⟨⟨List.nodup_nil, by simp⟩, by simp⟩, hfault⟩
        · exact ⟨p :: before, p', after, rfl, consistent_cons_iff.mpr ⟨⟨hnew, hflat⟩, hbefore⟩,
            hfault.congr mem_names_append_cons⟩
      · rintro ⟨before, p', after, hsources, hbefore, hfault⟩
        cases before with
        | nil =>
            cases hsources
            exact .inl hfault
        | cons b before =>
            cases hsources
            obtain ⟨⟨hnew, hflat⟩, hbefore⟩ := consistent_cons_iff.mp hbefore
            obtain ⟨q, -, hof⟩ := exists_ofSource hnew hflat
            exact .inr ⟨q, ⟨hnew, hflat, hof⟩, .inl ⟨before, p', after, rfl, hbefore,
              hfault.congr fun name => (mem_names_append_cons name).symm⟩⟩

/-! ### Declarations and placeholders -/

/-- A definition whose declarations are consistent and are those of its placeholders. -/
structure WellDeclared (command : String) (sources : List ParameterSource) : Prop where
  consistent : Consistent sources
  same : ∀ name, name ∈ sources.map (·.name) ↔ name ∈ Template.referenced command

/-- The fault that is reported first. Faults among the declarations come before those that the
placeholders have with them, and a placeholder without declaration comes before a declaration
without placeholder. -/
inductive FirstFault (command : String) (sources : List ParameterSource) : Fault → Prop
  | declaration {before after : List ParameterSource} {p : ParameterSource} {fault : Fault} :
      sources = before ++ p :: after → Consistent before →
      FaultOf (before.map (·.name)) p fault → FirstFault command sources fault
  | undeclared {before after : List Template.Piece} {name : String} : Consistent sources →
      Template.Reads command.toList (before ++ .parameter name :: after) →
      (∀ other, .parameter other ∈ before → other ∈ sources.map (·.name)) →
      name ∉ sources.map (·.name) → FirstFault command sources (.undeclared name)
  | unused {before after : List ParameterSource} {p : ParameterSource} : Consistent sources →
      (∀ name ∈ Template.referenced command, name ∈ sources.map (·.name)) →
      sources = before ++ p :: after → (∀ q ∈ before, q.name ∈ Template.referenced command) →
      p.name ∉ Template.referenced command → FirstFault command sources (.unused p.name)

variable {command : String}

/-- Parameters have the names that were declared, in order. -/
theorem map_name_of_isOf (h : List.Forall₂ IsOf sources ps) :
    ps.map (·.name) = sources.map (·.name) := by
  induction h with
  | nil => rfl
  | cons hof _ ih => rw [List.map_cons, List.map_cons, hof.name, ih]

/-- Declarations are taken exactly if they are consistent, each as its parameter. -/
theorem declare_nil_eq_ok_iff :
    declare [] sources = .ok ps ↔ Consistent sources ∧ List.Forall₂ IsOf sources ps := by
  rw [declare_eq_ok_iff]
  simp only [List.not_mem_nil, not_false_eq_true, implies_true, and_true]

/-- They are refused with the fault of the first that is not consistent with those before. -/
theorem declare_nil_eq_error_iff :
    declare [] sources = .error fault ↔ ∃ before p after, sources = before ++ p :: after ∧
      Consistent before ∧ FaultOf (before.map (·.name)) p fault := by
  rw [declare_eq_error_iff]
  simp only [List.not_mem_nil, not_false_eq_true, implies_true, and_true, List.append_nil]

/-- The first placeholder that is not declared, if there is one. -/
def undeclared? (command : String) (names : List String) : Option String :=
  (Template.referenced command).find? (!names.contains ·)

/-- The first declared name without placeholder, if there is one. -/
def unused? (command : String) (names : List String) : Option String :=
  names.find? (!(Template.referenced command).contains ·)

/-- Nothing is undeclared if every name of the command is declared. -/
theorem undeclared?_eq_none_iff {names : List String} :
    undeclared? command names = none ↔ ∀ name ∈ Template.referenced command, name ∈ names := by
  simp [undeclared?, List.find?_eq_none]

/-- Otherwise it is the first placeholder whose name is missing. -/
theorem undeclared?_eq_some_iff {names : List String} {name : String} :
    undeclared? command names = some name ↔
      ∃ before after, Template.Reads command.toList (before ++ .parameter name :: after) ∧
        (∀ other, .parameter other ∈ before → other ∈ names) ∧ name ∉ names := by
  rw [undeclared?, Template.find?_referenced_eq_some_iff]
  simp only [Bool.not_eq_true', Bool.not_eq_false', List.contains_eq_mem, decide_eq_true_eq,
    decide_eq_false_iff_not]
  constructor
  · rintro ⟨hname, before, after, hreads, hbefore⟩
    exact ⟨before, after, hreads, hbefore, hname⟩
  · rintro ⟨before, after, hreads, hbefore, hname⟩
    exact ⟨hname, before, after, hreads, hbefore⟩

/-- Nothing is unused if every declared name is in the command. -/
theorem unused?_eq_none_iff {names : List String} :
    unused? command names = none ↔ ∀ name ∈ names, name ∈ Template.referenced command := by
  simp [unused?, List.find?_eq_none]

/-- Otherwise it is the first declaration whose name is missing. -/
theorem unused?_eq_some_iff {name : String} :
    unused? command (sources.map (·.name)) = some name ↔
      ∃ before p after, sources = before ++ p :: after ∧
        (∀ q ∈ before, q.name ∈ Template.referenced command) ∧
        p.name ∉ Template.referenced command ∧ p.name = name := by
  rw [unused?, List.find?_map, Option.map_eq_some_iff]
  simp only [List.find?_eq_some_iff_append, Function.comp_apply, Bool.not_not, Bool.not_eq_true',
    List.contains_eq_mem, decide_eq_true_eq, decide_eq_false_iff_not]
  constructor
  · rintro ⟨p, ⟨hunused, before, after, hsources, hbefore⟩, hname⟩
    exact ⟨before, p, after, hsources, hbefore, hunused, hname⟩
  · rintro ⟨before, p, after, hsources, hbefore, hunused, hname⟩
    exact ⟨p, ⟨hunused, before, after, hsources, hbefore⟩, hname⟩

/-- Consistent declarations are compared with the placeholders. -/
theorem check_of_declare (h : declare [] sources = .ok ps) :
    check command sources =
      match undeclared? command (sources.map (·.name)), unused? command (sources.map (·.name)) with
      | some name, _ => .error (.undeclared name)
      | none, some name => .error (.unused name)
      | none, none => .ok ps := by
  have hnames := map_name_of_isOf (declare_nil_eq_ok_iff.mp h).2
  unfold check undeclared? unused?
  rw [h, ← hnames]
  dsimp only [bind, Except.bind]
  split
  · next hundeclared =>
      rw [hundeclared]
      rfl
  · next hdeclared =>
      rw [hdeclared]
      split
      · next hunused =>
          rw [hunused]
          rfl
      · next hused =>
          rw [hused]
          rfl

/-- A fault of the declarations comes before all others. -/
theorem check_of_declare_error (h : declare [] sources = .error fault) :
    check command sources = .error fault := by
  unfold check
  rw [h]
  rfl

/-- No declaration of consistent ones has a fault. -/
theorem not_faultOf_of_consistent {before after : List ParameterSource}
    (h : Consistent (before ++ p :: after)) : ¬ FaultOf (before.map (·.name)) p fault := by
  intro hfault
  cases hfault with
  | duplicate hmem =>
      have hdistinct := h.distinct
      rw [List.map_append, List.nodup_append] at hdistinct
      exact hdistinct.2.2 p.name hmem p.name (by simp) rfl
  | nestedDefault _ hnested => exact h.flat p (by simp) hnested

/-- Consistent declarations are taken. -/
theorem exists_declare_of_consistent (h : Consistent sources) :
    ∃ ps, declare [] sources = .ok ps := by
  cases hdeclare : declare [] sources with
  | ok ps => exact ⟨ps, rfl⟩
  | error fault =>
      obtain ⟨before, p, after, rfl, -, hfault⟩ := declare_nil_eq_error_iff.mp hdeclare
      exact (not_faultOf_of_consistent h hfault).elim

/-- Declarations are right if they are consistent and neither name test finds anything. -/
theorem wellDeclared_iff :
    WellDeclared command sources ↔ Consistent sources ∧
      undeclared? command (sources.map (·.name)) = none ∧
      unused? command (sources.map (·.name)) = none := by
  rw [undeclared?_eq_none_iff, unused?_eq_none_iff]
  constructor
  · rintro ⟨hconsistent, hsame⟩
    exact ⟨hconsistent, fun name => (hsame name).mpr, fun name => (hsame name).mp⟩
  · rintro ⟨hconsistent, hdeclared, hused⟩
    exact ⟨hconsistent, fun name => ⟨hused name, hdeclared name⟩⟩

/-- **What is accepted**, and with which parameters. -/
theorem check_eq_ok_iff :
    check command sources = .ok ps ↔
      WellDeclared command sources ∧ List.Forall₂ IsOf sources ps := by
  rw [wellDeclared_iff]
  cases hdeclare : declare [] sources with
  | error fault =>
      rw [check_of_declare_error hdeclare]
      refine iff_of_false nofun fun h => ?_
      obtain ⟨qs, hqs⟩ := exists_declare_of_consistent h.1.1
      rw [hdeclare] at hqs
      cases hqs
  | ok qs =>
      have hps : List.Forall₂ IsOf sources ps ↔ qs = ps := by
        rw [← Except.ok.injEq (ε := Fault), ← hdeclare, declare_nil_eq_ok_iff]
        exact (and_iff_right (declare_nil_eq_ok_iff.mp hdeclare).1).symm
      rw [check_of_declare hdeclare, hps]
      have hconsistent := (declare_nil_eq_ok_iff.mp hdeclare).1
      cases undeclared? command (sources.map (·.name)) with
      | some name => simp
      | none =>
          cases unused? command (sources.map (·.name)) with
          | some name => simp
          | none => simp [hconsistent]

/-- Of consistent declarations only those faults are reported that they have with the
placeholders. -/
theorem check_eq_error_iff_of_consistent (h : Consistent sources) :
    check command sources = .error fault ↔
      (∃ name, undeclared? command (sources.map (·.name)) = some name ∧
        fault = .undeclared name) ∨
      (undeclared? command (sources.map (·.name)) = none ∧
        ∃ name, unused? command (sources.map (·.name)) = some name ∧ fault = .unused name) := by
  obtain ⟨ps, hdeclare⟩ := exists_declare_of_consistent h
  rw [check_of_declare hdeclare]
  cases undeclared? command (sources.map (·.name)) with
  | some name => simp [eq_comm]
  | none =>
      cases unused? command (sources.map (·.name)) with
      | some name => simp [eq_comm]
      | none => simp

/-- **What is reported** of a definition that is not accepted. -/
theorem check_eq_error_iff :
    check command sources = .error fault ↔ FirstFault command sources fault := by
  constructor
  · intro h
    cases hdeclare : declare [] sources with
    | error first =>
        rw [check_of_declare_error hdeclare] at h
        cases h
        obtain ⟨before, p, after, hsources, hbefore, hfault⟩ := declare_nil_eq_error_iff.mp hdeclare
        exact .declaration hsources hbefore hfault
    | ok ps =>
        have hconsistent := (declare_nil_eq_ok_iff.mp hdeclare).1
        rcases (check_eq_error_iff_of_consistent hconsistent).mp h with
          ⟨name, hundeclared, rfl⟩ | ⟨hdeclared, name, hunused, rfl⟩
        · obtain ⟨before, after, hreads, hbefore, hname⟩ := undeclared?_eq_some_iff.mp hundeclared
          exact .undeclared hconsistent hreads hbefore hname
        · obtain ⟨before, p, after, hsources, hbefore, hname, rfl⟩ := unused?_eq_some_iff.mp hunused
          exact .unused hconsistent (undeclared?_eq_none_iff.mp hdeclared) hsources hbefore hname
  · intro h
    cases h with
    | @declaration before after p _ hsources hbefore hfault =>
        apply check_of_declare_error
        exact declare_nil_eq_error_iff.mpr ⟨before, p, after, hsources, hbefore, hfault⟩
    | @undeclared before after name hconsistent hreads hbefore hname =>
        have hundeclared := undeclared?_eq_some_iff.mpr ⟨before, after, hreads, hbefore, hname⟩
        exact (check_eq_error_iff_of_consistent hconsistent).mpr (.inl ⟨name, hundeclared, rfl⟩)
    | @unused before after p hconsistent hdeclared hsources hbefore hname =>
        have hunused := unused?_eq_some_iff.mpr ⟨before, p, after, hsources, hbefore, hname, rfl⟩
        exact (check_eq_error_iff_of_consistent hconsistent).mpr
          (.inr ⟨undeclared?_eq_none_iff.mpr hdeclared, p.name, hunused, rfl⟩)

/-- **The parameters of a definition are checked exactly.** -/
theorem check_exact (command : String) (sources : List ParameterSource) :
    ((∃ ps, check command sources = .ok ps) ↔ WellDeclared command sources) ∧
      (∀ ps, check command sources = .ok ps ↔
        WellDeclared command sources ∧ List.Forall₂ IsOf sources ps) ∧
      ∀ fault, check command sources = .error fault ↔ FirstFault command sources fault := by
  refine ⟨⟨?_, fun h => ?_⟩, fun _ => check_eq_ok_iff, fun _ => check_eq_error_iff⟩
  · rintro ⟨ps, h⟩
    exact (check_eq_ok_iff.mp h).1
  · obtain ⟨ps, hdeclare⟩ := exists_declare_of_consistent h.consistent
    exact ⟨ps, check_eq_ok_iff.mpr ⟨h, (declare_nil_eq_ok_iff.mp hdeclare).2⟩⟩

/-- A repeated name comes before all faults of the placeholders. -/
example : check "cp %from% %to%" [{ name := "to" }, { name := "to", default := some (.array []) }] =
    .error (.duplicate "to") := by cbv

/-- A placeholder without declaration comes before a declaration without placeholder. -/
example : check "cp %from% %to%" [{ name := "target" }, { name := "to" }] =
    .error (.undeclared "from") := by cbv

end Parameter

end Turnstile
