import Turnstile.Proofs.Tool.Declaration

/-!
# What the check of a definition accepts

The parts of a definition are checked one after another. Here is once, for each check, what it means
that it accepts: for a number in a field (`LooseNumber.field_eq_some_iff`, `field_eq_none_iff`), for
a count (`positive_eq_ok_iff`, `port_eq_ok_iff`), for the parts that are not numbers, and for a
definition as a whole (`Tool.ofSource_eq_ok_iff`), where `Tool.Checked` has one clause for each
part.
-/

namespace Turnstile

/-! ### Numbers -/

namespace LooseNumber

variable {α : Type} {setting : Setting} {f : Binary64 → Except ValueFault α}
  {v : Option LooseNumber}

/-- A field has a value exactly if one is written, and it passes the check. -/
theorem field_eq_some_iff {a : α} : field setting f v = .ok (some a) ↔
    ∃ n x, v = some n ∧ n.value = .ok (some x) ∧ f x = .ok a := by
  constructor
  · intro h
    unfold field at h
    cases v with
    | none => cases h
    | some n =>
        dsimp only at h
        rcases hvalue : n.value with e | _ | x
        · simp [hvalue] at h
        · simp [hvalue] at h
        · rw [hvalue] at h
          dsimp only at h
          cases hf : f x with
          | error e => simp [hf] at h
          | ok b =>
              simp only [hf, Except.ok.injEq, Option.some.injEq] at h
              exact ⟨n, x, rfl, hvalue, h ▸ hf⟩
  · rintro ⟨n, x, rfl, hvalue, hf⟩
    simp only [field, hvalue, hf]

/-- A field has none exactly if none is written, or it is written as missing. -/
theorem field_eq_none_iff :
    field setting f v = .ok none ↔ ∀ n, v = some n → n.value = .ok none := by
  constructor
  · rintro h n rfl
    unfold field at h
    dsimp only at h
    rcases hvalue : n.value with e | _ | x
    · simp [hvalue] at h
    · rfl
    · rw [hvalue] at h
      dsimp only at h
      cases hf : f x <;> simp [hf] at h
  · intro h
    cases v with
    | none => rfl
    | some n => simp only [field, h n rfl]

/-- A number that is written reaches the check of its field. -/
theorem field_eq_ok_iff {n : LooseNumber} {x : Binary64} {a : α} (h : n.value = .ok (some x)) :
    field setting f (some n) = .ok (some a) ↔ f x = .ok a := by
  rw [field_eq_some_iff]
  constructor
  · rintro ⟨n, y, hn, hy, hf⟩
    cases hn
    cases h.symm.trans hy
    exact hf
  · intro hf
    exact ⟨n, x, rfl, h, hf⟩

variable {x : Binary64} {n : Nat}

/-- A positive number is any number but zero. -/
theorem positive_eq_ok_iff : positive x = .ok n ↔ count x = .ok n ∧ n ≠ 0 := by
  rw [positive, bind_eq_ok_iff]
  constructor
  · rintro ⟨k, hk, h⟩
    split_ifs at h with hzero
    cases h
    exact ⟨hk, hzero⟩
  · rintro ⟨hn, hzero⟩
    exact ⟨n, hn, by rw [if_neg hzero]; rfl⟩

/-- A port is a number from 1 to 65535. -/
theorem port_eq_ok_iff : port x = .ok n ↔ count x = .ok n ∧ 1 ≤ n ∧ n ≤ 65535 := by
  rw [port, bind_eq_ok_iff]
  constructor
  · rintro ⟨k, hk, h⟩
    split_ifs at h with hport
    cases h
    exact ⟨hk, hport⟩
  · rintro ⟨hn, hport⟩
    exact ⟨n, hn, by rw [if_pos hport]; rfl⟩

end LooseNumber

/-! ### The other parts -/

/-- A check of what may be missing succeeds on something exactly if the check of it does. -/
theorem mapM_eq_ok_some_iff {ε α β : Type} {f : α → Except ε β} {a? : Option α} {b : β} :
    a?.mapM f = .ok (some b) ↔ ∃ a, a? = some a ∧ f a = .ok b := by
  cases a? with
  | none => exact ⟨fun h => (nomatch h), fun ⟨_, h, _⟩ => (nomatch h)⟩
  | some a =>
      rw [Option.mapM_some]
      cases hf : f a with
      | error e =>
          refine ⟨fun h => (nomatch h), ?_⟩
          rintro ⟨_, ⟨⟩, hb⟩
          cases hf.symm.trans hb
      | ok b' =>
          constructor
          · intro h
            cases h
            exact ⟨a, rfl, hf⟩
          · rintro ⟨_, ⟨⟩, hb⟩
            cases hf.symm.trans hb
            rfl

namespace Tool

/-- The matcher of an expression is compiled of its text, which is not empty. -/
theorem source_of_matcher? {setting : Setting} {source? : Option String} {m : Matcher}
    (h : matcher? setting source? = .ok (some m)) :
    source? = some m.source ∧ m.source ≠ "" ∧ Matcher.ofSource? m.source = some m := by
  unfold matcher? at h
  cases source? with
  | none => cases h
  | some source =>
      dsimp only at h
      split at h
      · cases h
      · next hempty =>
          cases hm : Matcher.ofSource? source with
          | none => simp [hm] at h
          | some m' =>
              obtain rfl : m' = m := by simpa [hm] using h
              obtain ⟨r, -, rfl⟩ := Option.map_eq_some_iff.mp hm
              exact ⟨rfl, by simpa using hempty, hm⟩

/-- A working directory that passes the check is absolute. -/
theorem isAbsolute_of_checkWorkdir {home : Option String} {written path : String}
    (h : checkWorkdir home written = .ok (some path)) : Path.isAbsolute path = true := by
  unfold checkWorkdir at h
  dsimp only at h
  split at h
  · cases h
  · split at h
    · cases h
    · split at h
      · next habsolute =>
          cases h
          exact habsolute
      · cases h

/-- The criteria of readiness are what is written of them, unless nothing is. -/
theorem checkReadiness_eq_ok_iff {s : ToolSource} {criteria : Option ReadinessCriteria} :
    checkReadiness s = .ok criteria ↔
      ∃ wait?, LooseNumber.field .startupWait LooseNumber.span s.startupWait = .ok wait? ∧
        ∃ port?, LooseNumber.field .startupPort LooseNumber.port s.startupPort = .ok port? ∧
          criteria =
            if wait?.isNone && port?.isNone && (s.startupKeyword.filter (!·.isEmpty)).isNone then
              none
            else
              some {
                deadline := wait?.getD defaultStartupWait
                port := port?
                keyword := s.startupKeyword.filter (!·.isEmpty) } := by
  simp only [checkReadiness, bind_eq_ok_iff]
  refine exists_congr fun wait? => and_congr_right fun _ => exists_congr fun port? =>
    and_congr_right fun _ => ?_
  split_ifs <;> exact ⟨fun h => by cases h; rfl, fun h => by rw [h]; rfl⟩

/-! ### A definition as a whole -/

/-- What a definition and the tool it makes have to do with each other, part by part. -/
structure Checked (d : Defaults) (id : String) (s : ToolSource) (t : Tool) : Prop where
  id : t.id = id
  command_ne : Text.trim s.command ≠ ""
  command : t.command = Text.trim s.command
  description : t.description = s.description
  parameters : Parameter.check t.command s.parameters = .ok t.parameters
  timeout : ∃ limit?, LooseNumber.field .timeout LooseNumber.span s.timeout = .ok limit? ∧
    t.timeout = limit?.getD d.timeout
  filter : s.outputFilter.mapM checkFilter = .ok t.filter
  readiness : checkReadiness s = .ok t.readiness
  workdir : checkWorkdir d.home s.workdir = .ok t.workdir
  available : t.available = s.available
  gate : t.gate = .ofPolicy s.confirmation
  env : t.env = s.env

variable {d : Defaults} {id : String} {s : ToolSource} {t : Tool}

/-- **A definition is accepted exactly if** each of its parts passes its own check. -/
theorem ofSource_eq_ok_iff : ofSource d id s = .ok t ↔ Checked d id s t := by
  unfold ofSource
  dsimp only
  constructor
  · intro h
    split at h
    · cases h
    · next hcommand =>
        simp only [bind_eq_ok_iff] at h
        obtain ⟨parameters, hparameters, timeout, htimeout, filter, hfilter, readiness, hreadiness,
          workdir, hworkdir, heq⟩ := h
        cases heq
        exact ⟨rfl, by simpa using hcommand, rfl, rfl, hparameters, ⟨timeout, htimeout, rfl⟩,
          hfilter, hreadiness, hworkdir, rfl, rfl, rfl⟩
  · intro h
    obtain ⟨limit?, hlimit, htimeout⟩ := h.timeout
    rw [if_neg (by simpa using h.command_ne), ← h.command]
    simp only [bind_eq_ok_iff]
    refine ⟨_, h.parameters, _, hlimit, _, h.filter, _, h.readiness, _, h.workdir, ?_⟩
    rw [← htimeout, ← h.id, ← h.description, ← h.available, ← h.gate, ← h.env]
    rfl

/-- What is made of a definition that may be missing was made of one. -/
theorem ofSource?_eq_ok_iff {s? : Option ToolSource} :
    ofSource? d id s? = .ok t ↔ ∃ s, s? = some s ∧ ofSource d id s = .ok t := by
  unfold ofSource?
  cases s? with
  | none => simp
  | some s => cases hs : ofSource d id s <;> simp [hs]

end Tool

end Turnstile
