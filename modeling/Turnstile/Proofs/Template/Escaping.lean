import Turnstile.Proofs.Tool.Rendering

/-!
# Texts as templates for themselves

`Template.escape` doubles the percent signs of a text. The reading of an escaped text consists of
literals only (`pieces_escape`): percent signs are read in pairs from the left, and an escaped text
has nothing but pairs.

**Theorem** (`Tool.ofSource_escape`): an escaped text is a command without placeholders. A
definition with it and without parameters is accepted as long as nothing else is wrong with it, and
renders to the text.
-/

namespace Turnstile

namespace Template

/-- A character as a template for itself. -/
def escapeChar (c : Char) : List Char := if c = '%' then ['%', '%'] else [c]

/-- A text as a template for itself: each percent sign is doubled. -/
def escape (text : String) : String := String.ofList (text.toList.flatMap escapeChar)

/-- A percent sign is doubled. -/
theorem escapeChar_percent : escapeChar '%' = ['%', '%'] := rfl

/-- Every other character stands for itself. -/
theorem escapeChar_of_ne {c : Char} (h : c ≠ '%') : escapeChar c = [c] := if_neg h

/-- A text is escaped character by character. -/
theorem toList_escape (text : String) :
    (escape text).toList = text.toList.flatMap escapeChar :=
  String.toList_ofList

/-! ### The reading of an escaped text -/

/-- **An escaped text is read as its characters.** -/
theorem pieces_escape (cs : List Char) : pieces (cs.flatMap escapeChar) = cs.map .literal := by
  induction cs with
  | nil => rfl
  | cons c cs ih =>
      rw [List.flatMap_cons, List.map_cons, ← ih]
      by_cases hpercent : c = '%'
      · subst hpercent
        exact pieces_percent _
      · rw [escapeChar_of_ne hpercent]
        exact piecesFrom_none_cons hpercent _

/-- An escaped text has no placeholder. -/
theorem referenced_escape (text : String) : referenced (escape text) = [] := by
  refine List.eq_nil_iff_forall_not_mem.mpr fun name hname => ?_
  rw [mem_referenced, toList_escape, pieces_escape] at hname
  obtain ⟨c, -, hc⟩ := List.mem_map.mp hname
  cases hc

/-- An escaped text is filled in as the text itself, whatever the values. -/
theorem fill_escape (text : String) (value : String → Option String) :
    fill (escape text) value = text := by
  have hchars (cs : List Char) : (cs.map Piece.literal).flatMap (Piece.text value) = cs := by
    rw [List.flatMap_map]
    exact List.flatMap_singleton' cs
  rw [fill, toList_escape, pieces_escape, hchars, String.ofList_toList]

end Template

/-! ### Both ends of an escaped text -/

namespace Text

/-- Neither the first nor the last character of a text is blank. -/
def IsUnpadded (s : String) : Prop :=
  (∀ c, s.toList.head? = some c → isBlank c = false) ∧
    ∀ c, s.toList.getLast? = some c → isBlank c = false

/-- Nothing is trimmed in front of a character that is not blank. -/
theorem dropWhile_isBlank {cs : List Char} (h : ∀ c, cs.head? = some c → isBlank c = false) :
    cs.dropWhile isBlank = cs := by
  cases cs with
  | nil => rfl
  | cons c cs => rw [List.dropWhile_cons_of_neg (by simp [h c rfl])]

/-- Nothing is trimmed off such a text. -/
theorem trim_of_isUnpadded {s : String} (h : IsUnpadded s) : trim s = s := by
  have hlast : ∀ c, s.toList.reverse.head? = some c → isBlank c = false := by
    intro c hc
    exact h.2 c (by rwa [List.head?_reverse] at hc)
  rw [trim, trimChars, dropWhile_isBlank h.1, dropWhile_isBlank hlast, List.reverse_reverse,
    String.ofList_toList]

end Text

namespace Template

/-- An escaped text begins like the text. -/
theorem head?_escape (cs : List Char) : (cs.flatMap escapeChar).head? = cs.head? := by
  cases cs with
  | nil => rfl
  | cons c cs =>
      rw [List.flatMap_cons]
      by_cases hpercent : c = '%'
      · rw [hpercent, escapeChar_percent]
        rfl
      · rw [escapeChar_of_ne hpercent]
        rfl

/-- It ends like the text, too. -/
theorem getLast?_escape (cs : List Char) : (cs.flatMap escapeChar).getLast? = cs.getLast? := by
  have hreverse (c : Char) : (escapeChar c).reverse = escapeChar c := by
    by_cases hpercent : c = '%'
    · rw [hpercent, escapeChar_percent]
      rfl
    · rw [escapeChar_of_ne hpercent]
      rfl
  rw [← List.head?_reverse, ← List.head?_reverse, List.reverse_flatMap, ← head?_escape cs.reverse]
  congr 2
  exact funext hreverse

/-- So an escape pads nothing. -/
theorem isUnpadded_escape {text : String} (h : Text.IsUnpadded text) :
    Text.IsUnpadded (escape text) := by
  rw [Text.IsUnpadded, toList_escape, head?_escape, getLast?_escape]
  exact h

/-- Only the empty text has an empty escape. -/
theorem escape_ne_empty {text : String} (h : text ≠ "") : escape text ≠ "" := by
  intro hempty
  have hhead := head?_escape text.toList
  rw [← toList_escape, hempty] at hhead
  exact h (String.toList_eq_nil_iff.mp (List.head?_eq_none_iff.mp hhead.symm))

end Template

/-! ### Definitions with an escaped command -/

/-- No parameters are declared for a command without placeholders. -/
theorem Parameter.check_nil_iff {command : String} (h : Template.referenced command = [])
    {ps : List Parameter} : check command [] = .ok ps ↔ ps = [] := by
  rw [check_eq_ok_iff, List.forall₂_nil_left_iff]
  refine and_iff_right ⟨⟨List.nodup_nil, by simp⟩, fun name => ?_⟩
  rw [h, List.map_nil]

namespace Tool

variable {d : Defaults} {id : String} {s : ToolSource} {t : Tool}

/-- A definition keeps its command, without the blanks around it. -/
theorem command_of_ofSource (h : ofSource d id s = .ok t) : t.command = Text.trim s.command :=
  (ofSource_eq_ok_iff.mp h).command

/-- A definition that declares no parameter has none. -/
theorem parameters_of_ofSource (h : ofSource d id s = .ok t) (hnone : s.parameters = []) :
    t.parameters = [] := by
  have hcheck := check_of_ofSource h
  rw [hnone, Parameter.check_eq_ok_iff] at hcheck
  exact List.forall₂_nil_left_iff.mp hcheck.2

/-- A definition is accepted with any command that its parameters fit. -/
theorem ofSource_with_command {command : String} (h : ofSource d id s = .ok t)
    (hne : command ≠ "") (htrim : Text.trim command = command)
    (hparameters : Parameter.check command s.parameters = .ok t.parameters) :
    ofSource d id { s with command } = .ok { t with command } := by
  have hchecked := ofSource_eq_ok_iff.mp h
  exact ofSource_eq_ok_iff.mpr {
    hchecked with
    command_ne := by rwa [htrim]
    command := htrim.symm
    parameters := hparameters }

/-- A tool without parameters is rendered without bindings. -/
theorem render_nil (h : t.parameters = []) :
    t.render [] = .ok (Template.fill t.command fun _ => none) := by
  unfold render
  rw [h]
  rfl

/-- A definition of nothing but a command. -/
theorem ofSource_plain (d : Defaults) (id : String) :
    ofSource d id { command := "true" } =
      .ok { id, command := "true", timeout := d.timeout, gate := .ofPolicy {} } := rfl

/-- **An escaped text is a command that renders to the text**: it has no placeholders, a definition
without parameters is as good with it as with any other command, and what is rendered is the
text. -/
theorem ofSource_escape (d : Defaults) (id : String) {text : String} (hne : text ≠ "")
    (hunpadded : Text.IsUnpadded text) :
    Template.referenced (Template.escape text) = [] ∧
      (∃ t, ofSource d id { command := Template.escape text } = .ok t) ∧
      (∀ s t, s.parameters = [] → ofSource d id s = .ok t →
        ofSource d id { s with command := Template.escape text } =
          .ok { t with command := Template.escape text }) ∧
      ∀ s t, s.command = Template.escape text → s.parameters = [] → ofSource d id s = .ok t →
        t.render [] = .ok text := by
  have hreferenced := Template.referenced_escape text
  have htrim : Text.trim (Template.escape text) = Template.escape text :=
    Text.trim_of_isUnpadded (Template.isUnpadded_escape hunpadded)
  have haccepted (s : ToolSource) (t : Tool) (hnone : s.parameters = [])
      (h : ofSource d id s = .ok t) :
      ofSource d id { s with command := Template.escape text } =
        .ok { t with command := Template.escape text } := by
    refine ofSource_with_command h (Template.escape_ne_empty hne) htrim ?_
    rw [hnone, Parameter.check_nil_iff hreferenced, parameters_of_ofSource h hnone]
  have hminimal := haccepted { command := "true" } _ rfl (ofSource_plain d id)
  refine ⟨hreferenced, ⟨_, hminimal⟩, haccepted, fun s t hcommand hnone h => ?_⟩
  rw [render_nil (parameters_of_ofSource h hnone), command_of_ofSource h, hcommand, htrim,
    Template.fill_escape]

/-- A command with percent signs of all kinds. -/
theorem ofSource_escape_percents :
    let text := "echo %a% %%b% 100%"
    let source : ToolSource := { command := Template.escape text, description := "Percents" }
    let tool : Tool :=
      { id := "echo", command := Template.escape text, description := "Percents"
        timeout := .ofWholeSeconds 120, gate := .ofPolicy {} }
    text ≠ "" ∧ Text.IsUnpadded text ∧ Template.escape text = "echo %%a%% %%%%b%% 100%%" ∧
      Template.referenced (Template.escape text) = [] ∧
      ofSource {} "echo" source = .ok tool ∧ tool.render [] = .ok text := by
  intro text source tool
  have hne : text ≠ "" := by decide
  have hhead : text.toList.head? = some 'e' := by decide
  have hlast : text.toList.getLast? = some '%' := by decide
  have hunpadded : Text.IsUnpadded text := by
    refine ⟨fun c hc => ?_, fun c hc => ?_⟩
    · rw [hhead] at hc
      cases hc
      decide
    · rw [hlast] at hc
      cases hc
      decide
  have hescape : Template.escape text = "echo %%a%% %%%%b%% 100%%" := by decide
  obtain ⟨hreferenced, -, haccepted, hrender⟩ := ofSource_escape {} "echo" hne hunpadded
  have hplain : ofSource {} "echo" { command := "true", description := "Percents" } =
      .ok { id := "echo", command := "true", description := "Percents"
            timeout := .ofWholeSeconds 120, gate := .ofPolicy {} } := rfl
  have hescaped : ofSource {} "echo" source = .ok tool :=
    haccepted { command := "true", description := "Percents" } _ rfl hplain
  exact ⟨hne, hunpadded, hescape, hreferenced, hescaped, hrender source tool rfl rfl hescaped⟩

end Tool

end Turnstile
