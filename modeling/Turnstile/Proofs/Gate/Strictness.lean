import Mathlib.Tactic.SplitIfs
import Mathlib.Tactic.Tauto
import Turnstile.Gate
import Turnstile.Proofs.CommandGlob.Language

/-!
# How strict a policy is

The gate's decision on a command, read off the declared lists: `IsFirst` names the pattern that is
reported. **Theorem** (`evaluate_strictness`): a command is denied exactly by the first deny pattern
that matches it, else it needs approval exactly by the first ask pattern that matches it, and else
it is allowed; and no decision gets milder when a policy is tightened (`Policy.Tightened`), or
changes its kind when its lists are reordered (`Policy.Reordered`).

The kind of a decision depends only on whether some pattern of each list matches
(`severity_evaluate`), so both laws are about the existence of a matching pattern. A policy that
denies everything does so on account of a single pattern (`isFullyDenied_iff`).
-/

namespace Turnstile

/-- Milder decisions come first: a command is allowed, needs approval, or is denied. -/
def Decision.severity : Decision → Nat
  | .allow => 0
  | .requireConfirmation _ => 1
  | .deny _ => 2

namespace Policy

/-- One pattern more in one of the lists, at any place, or no regard to case. -/
inductive Tightened (p : Policy) : Policy → Prop where
  | deny (before after : List String) (pattern : String) :
      p.deny = before ++ after → Tightened p { p with deny := before ++ pattern :: after }
  | askUser (before after : List String) (pattern : String) :
      p.askUser = before ++ after → Tightened p { p with askUser := before ++ pattern :: after }
  | ignoreCase : Tightened p { p with ignoreCase := true }

/-- The same patterns in each list, in whatever order. -/
structure Reordered (p other : Policy) : Prop where
  deny : p.deny.Perm other.deny
  askUser : p.askUser.Perm other.askUser
  ignoreCase : p.ignoreCase = other.ignoreCase

/-- A declared pattern matches a command. -/
def accepts (p : Policy) (command pattern : String) : Bool :=
  (CommandGlob.ofSource pattern p.ignoreCase).isMatch command

/-- The first pattern of a list that matches a command. -/
def IsFirst (p : Policy) (command : String) (patterns : List String) (pattern : String) : Prop :=
  p.accepts command pattern = true ∧
    ∃ before after, patterns = before ++ pattern :: after ∧
      ∀ earlier ∈ before, p.accepts command earlier = false

variable (p : Policy) (command : String)

/-- The pattern that is found is the first that accepts the command. -/
theorem find?_accepts_eq_some_iff {patterns : List String} {pattern : String} :
    patterns.find? (p.accepts command) = some pattern ↔ p.IsFirst command patterns pattern := by
  simp [List.find?_eq_some_iff_append, IsFirst]

/-- Searching the compiled globs is searching the declared patterns. -/
theorem find?_compiled (patterns : List String) :
    (patterns.map (CommandGlob.ofSource · p.ignoreCase)).find? (·.isMatch command) =
      (patterns.find? (p.accepts command)).map (CommandGlob.ofSource · p.ignoreCase) := by
  rw [List.find?_map]
  rfl

end Policy

namespace Gate

variable (p : Policy) (command : String)

/-- The decision, by the first matching pattern of each list. -/
theorem evaluate_ofPolicy :
    (ofPolicy p).evaluate command =
      match p.deny.find? (p.accepts command), p.askUser.find? (p.accepts command) with
      | some pattern, _ => .deny pattern
      | none, some pattern => .requireConfirmation pattern
      | none, none => .allow := by
  unfold evaluate ofPolicy
  dsimp only
  rw [p.find?_compiled, p.find?_compiled]
  cases p.deny.find? (p.accepts command) with
  | some pattern => rfl
  | none =>
      cases p.askUser.find? (p.accepts command) with
      | some pattern => rfl
      | none => rfl

/-- A command is denied by the first pattern that denies it. -/
theorem evaluate_eq_deny_iff (pattern : String) :
    (ofPolicy p).evaluate command = .deny pattern ↔ p.IsFirst command p.deny pattern := by
  rw [evaluate_ofPolicy, ← p.find?_accepts_eq_some_iff]
  cases p.deny.find? (p.accepts command) with
  | some first => simp
  | none => cases p.askUser.find? (p.accepts command) <;> simp

/-- Where none denies it, it is confirmed for the first pattern that asks for that. -/
theorem evaluate_eq_requireConfirmation_iff (pattern : String) :
    (ofPolicy p).evaluate command = .requireConfirmation pattern ↔
      (∀ d ∈ p.deny, p.accepts command d = false) ∧ p.IsFirst command p.askUser pattern := by
  have hnone : (∀ d ∈ p.deny, p.accepts command d = false) ↔
      p.deny.find? (p.accepts command) = none := by simp
  rw [evaluate_ofPolicy, ← p.find?_accepts_eq_some_iff, hnone]
  cases p.deny.find? (p.accepts command) with
  | some first => simp
  | none => cases p.askUser.find? (p.accepts command) <;> simp

/-- It is allowed exactly if no pattern accepts it. -/
theorem evaluate_eq_allow_iff :
    (ofPolicy p).evaluate command = .allow ↔
      (∀ d ∈ p.deny, p.accepts command d = false) ∧
        ∀ a ∈ p.askUser, p.accepts command a = false := by
  have hnone (patterns : List String) : (∀ d ∈ patterns, p.accepts command d = false) ↔
      patterns.find? (p.accepts command) = none := by simp
  rw [evaluate_ofPolicy, hnone, hnone]
  cases p.deny.find? (p.accepts command) with
  | some first => simp
  | none => cases p.askUser.find? (p.accepts command) <;> simp

/-! ### The kind of a decision -/

/-- The kind depends only on whether a pattern of each list matches. -/
theorem severity_evaluate :
    ((ofPolicy p).evaluate command).severity =
      if p.deny.any (p.accepts command) then 2
      else if p.askUser.any (p.accepts command) then 1 else 0 := by
  rw [evaluate_ofPolicy, ← List.isSome_find?, ← List.isSome_find?]
  cases p.deny.find? (p.accepts command) with
  | some first => rfl
  | none => cases p.askUser.find? (p.accepts command) <;> rfl

variable {p} {stricter : Policy}

/-- More patterns that accept more accept what fewer did. -/
theorem any_accepts_of_subset {patterns more : List String} (hmem : patterns ⊆ more)
    (haccepts : ∀ pattern, p.accepts command pattern = true →
      stricter.accepts command pattern = true)
    (h : patterns.any (p.accepts command) = true) :
    more.any (stricter.accepts command) = true := by
  rw [List.any_eq_true] at *
  obtain ⟨pattern, hpattern, hmatch⟩ := h
  exact ⟨pattern, hmem hpattern, haccepts pattern hmatch⟩

/-- A policy that has all patterns of another is not milder, as long as each of them matches no
fewer commands. -/
theorem severity_le (hdeny : p.deny ⊆ stricter.deny) (haskUser : p.askUser ⊆ stricter.askUser)
    (haccepts : ∀ pattern, p.accepts command pattern = true →
      stricter.accepts command pattern = true) :
    ((ofPolicy p).evaluate command).severity ≤
      ((ofPolicy stricter).evaluate command).severity := by
  rw [severity_evaluate, severity_evaluate]
  by_cases hd : p.deny.any (p.accepts command) = true
  · have hd' := any_accepts_of_subset command hdeny haccepts hd
    simp [hd, hd']
  · by_cases ha : p.askUser.any (p.accepts command) = true
    · have ha' := any_accepts_of_subset command haskUser haccepts ha
      rw [if_neg hd, if_pos ha, if_pos ha']
      split_ifs <;> decide
    · rw [if_neg hd, if_neg ha]
      exact Nat.zero_le _

/-- A tighter policy is not milder. -/
theorem severity_le_of_tightened (h : p.Tightened stricter) :
    ((ofPolicy p).evaluate command).severity ≤
      ((ofPolicy stricter).evaluate command).severity := by
  have hinsert (before after : List String) (pattern : String) :
      before ++ after ⊆ before ++ pattern :: after := by
    intro q hq
    simp only [List.mem_append, List.mem_cons] at *
    tauto
  cases h with
  | deny before after pattern hdeny =>
      apply severity_le command
      · rw [hdeny]
        exact hinsert before after pattern
      · exact List.Subset.refl _
      · exact fun _ => id
  | askUser before after pattern haskUser =>
      apply severity_le command
      · exact List.Subset.refl _
      · rw [haskUser]
        exact hinsert before after pattern
      · exact fun _ => id
  | ignoreCase =>
      apply severity_le command
      · exact List.Subset.refl _
      · exact List.Subset.refl _
      · intro pattern hmatch
        exact CommandGlob.isMatch_ignoringCase hmatch

/-- A reordered policy has the same patterns, so neither of the two is milder. -/
theorem severity_eq_of_reordered {other : Policy} (h : p.Reordered other) :
    ((ofPolicy p).evaluate command).severity = ((ofPolicy other).evaluate command).severity := by
  have haccepts (pattern : String) :
      p.accepts command pattern = other.accepts command pattern := by
    rw [Policy.accepts, h.ignoreCase]
    rfl
  apply Nat.le_antisymm
  · apply severity_le command h.deny.subset h.askUser.subset
    intro pattern hmatch
    rwa [← haccepts]
  · apply severity_le command h.deny.symm.subset h.askUser.symm.subset
    intro pattern hmatch
    rwa [haccepts]

/-! ### Denial of everything -/

/-- The gate denies everything on account of a single pattern. -/
theorem isFullyDenied_iff {p : Policy} :
    (ofPolicy p).isFullyDenied = true ↔
      ∃ pattern ∈ p.deny, ∀ command, p.accepts command pattern = true := by
  rw [isFullyDenied, ofPolicy, List.any_map, List.any_eq_true]
  exact exists_congr fun pattern => and_congr_right fun _ =>
    CommandGlob.matchesEverything_iff pattern p.ignoreCase

/-- Then every command is denied, by the first pattern that matches it. -/
theorem exists_evaluate_eq_deny {p : Policy} (h : (ofPolicy p).isFullyDenied = true)
    (command : String) : ∃ pattern, (ofPolicy p).evaluate command = .deny pattern := by
  obtain ⟨pattern, hpattern, haccepts⟩ := isFullyDenied_iff.mp h
  rw [evaluate_ofPolicy]
  cases hfind : p.deny.find? (p.accepts command) with
  | some first => exact ⟨first, rfl⟩
  | none => exact absurd (haccepts command) (List.find?_eq_none.mp hfind pattern hpattern)

/-- **What the gate decides, and that a tighter policy decides no milder.** -/
theorem evaluate_strictness (p : Policy) (command : String) :
    (∀ pattern, (ofPolicy p).evaluate command = .deny pattern ↔
        p.IsFirst command p.deny pattern) ∧
      (∀ pattern, (ofPolicy p).evaluate command = .requireConfirmation pattern ↔
        (∀ d ∈ p.deny, p.accepts command d = false) ∧ p.IsFirst command p.askUser pattern) ∧
      ((ofPolicy p).evaluate command = .allow ↔
        (∀ d ∈ p.deny, p.accepts command d = false) ∧
          ∀ a ∈ p.askUser, p.accepts command a = false) ∧
      (∀ stricter, p.Tightened stricter →
        ((ofPolicy p).evaluate command).severity ≤
          ((ofPolicy stricter).evaluate command).severity) ∧
      ∀ other, p.Reordered other →
        ((ofPolicy p).evaluate command).severity =
          ((ofPolicy other).evaluate command).severity :=
  ⟨evaluate_eq_deny_iff p command, evaluate_eq_requireConfirmation_iff p command,
    evaluate_eq_allow_iff p command, fun _ => severity_le_of_tightened command,
    fun _ => severity_eq_of_reordered command⟩

/-- An ask pattern is reported in the place of a later one, and denied once a deny pattern that
differs from the command in case is compared without regard to case. -/
theorem evaluate_strictness_push :
    let p : Policy := { deny := ["GIT PUSH *"], askUser := ["git *", "*push*"] }
    let reordered : Policy := { p with askUser := ["*push*", "git *"] }
    let folded : Policy := { p with ignoreCase := true }
    let command := "git push origin"
    p.Reordered reordered ∧ p.Tightened folded ∧
      (ofPolicy p).evaluate command = .requireConfirmation "git *" ∧
      (ofPolicy reordered).evaluate command = .requireConfirmation "*push*" ∧
      (ofPolicy folded).evaluate command = .deny "GIT PUSH *" ∧
      ((ofPolicy p).evaluate command).severity =
        ((ofPolicy reordered).evaluate command).severity ∧
      ((ofPolicy p).evaluate command).severity ≤
        ((ofPolicy folded).evaluate command).severity := by
  intro p reordered folded command
  have hreordered : p.Reordered reordered := ⟨.refl _, .swap _ _ _, rfl⟩
  have hfolded : p.Tightened folded := .ignoreCase
  obtain ⟨-, -, -, htightened, hsame⟩ := evaluate_strictness p command
  exact ⟨hreordered, hfolded, by decide, by decide, by decide, hsame reordered hreordered,
    htightened folded hfolded⟩

end Gate

end Turnstile
