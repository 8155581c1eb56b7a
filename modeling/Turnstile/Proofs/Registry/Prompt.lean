import Turnstile.Proofs.Gate.Strictness
import Turnstile.Proofs.Registry.Precedence
import Turnstile.Proofs.Runner.Foretelling

/-!
# Tools that the prompt leaves out

The prompt describes the tools of a registry one after the other. It *leaves out* a tool if it is
the prompt of the registry without the tool (`Registry.LeavesOut`), and it *lists* a tool if the
tool's description is what it has more (`Registry.Lists`). Each tool is either listed or left out.

**Theorem** (`Registry.prompt_leaves_out_denied`): a tool that is left out is of no use. Its gate
denies every command, and in every course of a runner each order of the tool is answered with the
denial and spawns nothing, whether or not the user approved. A tool is listed unless one of its deny
patterns matches every command.
-/

namespace Turnstile

/-- Every tool has a description. -/
theorem Tool.describe_ne_empty (t : Tool) : t.describe ≠ "" := by
  intro h
  have hlength := congrArg String.length h
  simp [Tool.describe, String.length_append] at hlength

/-! ### The prompt with and without a tool -/

namespace Registry

variable {r : Registry} {t : Tool}

/-- The registry without the tool of an id. -/
def without (r : Registry) (id : String) : Registry :=
  { r with tools := r.tools.filter (·.id != id) }

/-- The prompt is no other than without the tool. -/
def LeavesOut (r : Registry) (t : Tool) : Prop := r.prompt = (r.without t.id).prompt

/-- The prompt describes the tool, in the midst of what it says without it. -/
def Lists (r : Registry) (t : Tool) : Prop :=
  ∃ before after, r.prompt = before ++ t.describe ++ after ∧
    (r.without t.id).prompt = before ++ after

/-- A tool that is listed is not left out. -/
theorem not_leavesOut_of_lists (h : r.Lists t) : ¬ r.LeavesOut t := by
  obtain ⟨before, after, hwith, hwithout⟩ := h
  rw [LeavesOut, hwith, hwithout]
  simpa using t.describe_ne_empty

/-- A tool between the tools before it and those after it. -/
theorem exists_tools_eq (hids : r.ids.Pairwise (· < ·)) (ht : t ∈ r.tools) :
    ∃ before after, r.tools = before ++ t :: after ∧ (r.without t.id).tools = before ++ after := by
  obtain ⟨before, after, htools⟩ := List.append_of_mem ht
  rw [ids, htools, List.map_append, List.map_cons, List.pairwise_append, List.pairwise_cons] at hids
  obtain ⟨-, ⟨hafter, -⟩, hbefore⟩ := hids
  have hne_before : ∀ u ∈ before, (u.id != t.id) = true := by
    intro u hu
    exact bne_iff_ne.mpr (hbefore u.id (List.mem_map_of_mem hu) t.id List.mem_cons_self).ne
  have hne_after : ∀ u ∈ after, (u.id != t.id) = true := by
    intro u hu
    exact bne_iff_ne.mpr (hafter u.id (List.mem_map_of_mem hu)).ne'
  refine ⟨before, after, htools, ?_⟩
  rw [without, htools, List.filter_append, List.filter_cons_of_neg (by simp),
    List.filter_eq_self.mpr hne_before, List.filter_eq_self.mpr hne_after]

/-- What the prompt says of tools. -/
def described (ts : List Tool) : String :=
  String.join ((ts.filter fun t => !t.gate.isFullyDenied).map (·.describe))

/-- A prompt is the descriptions of the tools, between its marks. -/
theorem prompt_eq (r : Registry) : r.prompt = "<tools>\n" ++ described r.tools ++ "</tools>" := rfl

/-- Descriptions are joined. -/
theorem described_append (ts us : List Tool) :
    described (ts ++ us) = described ts ++ described us := by
  rw [described, List.filter_append, List.map_append, String.join_append]
  rfl

/-- A tool that is denied throughout adds nothing. -/
theorem described_cons_of_denied (h : t.gate.isFullyDenied = true) (ts : List Tool) :
    described (t :: ts) = described ts := by
  rw [described, List.filter_cons_of_neg (by simp [h])]
  rfl

/-- Any other tool adds its description. -/
theorem described_cons_of_not_denied (h : t.gate.isFullyDenied = false) (ts : List Tool) :
    described (t :: ts) = t.describe ++ described ts := by
  rw [described, List.filter_cons_of_pos (by simp [h]), List.map_cons, String.join_cons]
  rfl

/-- A tool that is denied throughout is left out. -/
theorem leavesOut_of_denied (hids : r.ids.Pairwise (· < ·)) (ht : t ∈ r.tools)
    (h : t.gate.isFullyDenied = true) : r.LeavesOut t := by
  obtain ⟨before, after, htools, hwithout⟩ := exists_tools_eq hids ht
  rw [LeavesOut, prompt_eq, prompt_eq, htools, hwithout, described_append, described_append,
    described_cons_of_denied h]

/-- Any other tool is listed. -/
theorem lists_of_not_denied (hids : r.ids.Pairwise (· < ·)) (ht : t ∈ r.tools)
    (h : t.gate.isFullyDenied = false) : r.Lists t := by
  obtain ⟨before, after, htools, hwithout⟩ := exists_tools_eq hids ht
  refine ⟨"<tools>\n" ++ described before, described after ++ "</tools>", ?_, ?_⟩
  · rw [prompt_eq, htools, described_append, described_cons_of_not_denied h]
    simp only [String.append_assoc]
  · rw [prompt_eq, hwithout, described_append]
    simp only [String.append_assoc]

/-- **A tool is left out exactly if its gate denies everything.** -/
theorem leavesOut_iff (hids : r.ids.Pairwise (· < ·)) (ht : t ∈ r.tools) :
    r.LeavesOut t ↔ t.gate.isFullyDenied = true := by
  refine ⟨fun h => ?_, leavesOut_of_denied hids ht⟩
  by_contra hnot
  exact not_leavesOut_of_lists (lists_of_not_denied hids ht (Bool.eq_false_iff.mpr hnot)) h

end Registry

/-! ### Orders that are denied -/

variable {σ : Type}

/-- A job is answered with a denial of its command, and spawns nothing. -/
structure Job.Denied (job : Job σ) (command pattern : String) : Prop where
  answered : ∃ result, job.stage = .going (.finished (.invocation (.ok result))) ∧
    result.command = command ∧ result.decision = .deny pattern ∧ result.status = .denied pattern
  not_spawned : ∀ t ∈ job.turns, ∀ request, .spawn request ∉ t.deeds

/-- An order whose check says that it is denied. -/
theorem Job.denied_of_check {registry : Registry} {job : Job σ}
    {checked : Except ToolError CheckResult} {isConfirmed : Bool} {command pattern : String}
    (hfollows : Follows checked isConfirmed job.stage) (haccount : Account registry job)
    (hchecked : checked = .ok { command, decision := .deny pattern }) :
    job.Denied command pattern := by
  have hforetells := hfollows.foretells
  obtain ⟨result, hstage⟩ := hforetells.refused _ hchecked fun hpasses =>
    hpasses.not_denied pattern rfl
  have hresult := hforetells.answered _ result hchecked hstage
  have hstatus : result.status = .denied pattern := (hresult.denied pattern).mpr rfl
  have hrefused : job.Refused := ⟨.ok result, hstage, by rw [IsRefusal, hstatus]; trivial⟩
  exact ⟨⟨result, hstage, hresult.command, hresult.decision, hstatus⟩,
    fun t ht => (haccount.gateSafe.refused hrefused t ht).1⟩

namespace Runner

variable [Platform σ] {r : Runner σ} {id command pattern : String} {bindings : Bindings}

/-- A tool is of no use with some values: its check says that the command is denied, and so does
whoever is asked to run it, whether or not the user approved, and nothing is spawned. -/
structure Denies (r : Runner σ) (id : String) (bindings : Bindings) (command pattern : String) :
    Prop where
  checked : r.check id bindings = .ok { command, decision := .deny pattern }
  invoked : ∀ isConfirmed cancelAt, ∃ result,
    (r.invoke id bindings isConfirmed cancelAt).2 = some (.ok result) ∧
      result.status = .denied pattern
  /-- Wherever it is ordered in the course of a runner. -/
  ordered : ∀ os, ∀ job ∈ ((Course.start r).play os).jobs, ∀ o, job.call.order? = some o →
    o.id = id → o.bindings = bindings → job.Denied command pattern

/-- An invocation that nobody interrupts returns the denial. -/
theorem invoke_denied {tool : Tool} (hfind : r.registry.find? id = some tool)
    (hrender : tool.render bindings = .ok command)
    (hdenied : tool.gate.evaluate command = .deny pattern) (isConfirmed : Bool)
    (cancelAt : Option Instant) :
    ∃ result, (r.invoke id bindings isConfirmed cancelAt).2 = some (.ok result) ∧
      result.status = .denied pattern := by
  have hdecision : (r.invocationOf tool command cancelAt).decision = .deny pattern := hdenied
  obtain ⟨result, hstatus, hanswer⟩ : ∃ result : InvocationResult,
      result.status = .denied pattern ∧
        (answer { r with count := r.count + 1 } (r.invocationOf tool command cancelAt)
          (.denied pattern) none).2 = .finished (.invocation (.ok result)) :=
    ⟨_, rfl, rfl⟩
  refine ⟨result, ?_, hstatus⟩
  unfold invoke
  rw [beginInvocation_rendered hfind hrender]
  unfold obeyGate
  rw [hdecision]
  dsimp only
  rw [hanswer, drive_finished]

/-- **What the gate denies is denied to everyone.** -/
theorem denies_of_evaluate {tool : Tool} (hfind : r.registry.find? id = some tool)
    (hrender : tool.render bindings = .ok command)
    (hdenied : tool.gate.evaluate command = .deny pattern) :
    r.Denies id bindings command pattern := by
  have hchecked : r.check id bindings = .ok { command, decision := .deny pattern } := by
    rw [check_rendered hfind hrender, hdenied]
  refine ⟨hchecked, invoke_denied hfind hrender hdenied, ?_⟩
  rintro os job hjob o ho rfl rfl
  have haccount := (Course.accounted_play (Course.accounted_start r) os).jobs job hjob
  exact Job.denied_of_check (Course.follows_play r os job hjob o ho) haccount hchecked

end Runner

namespace Registry

/-- **The prompt leaves out the tools that are denied everything**, and lists all others. Whether
a glob matches everything is seen from its pattern; a tool that is left out cannot be used, whatever
the user approves. -/
theorem prompt_leaves_out_denied [Platform σ] (r : Runner σ) {e : Environment} {ts : List Tool}
    (hregistry : r.registry = ofTools e ts) :
    (∀ source ignoreCase, (CommandGlob.ofSource source ignoreCase).matchesEverything = true ↔
      ∀ command, (CommandGlob.ofSource source ignoreCase).isMatch command = true) ∧
    ∀ t ∈ r.registry.tools, ∀ p : Policy, t.gate = .ofPolicy p →
      (r.registry.LeavesOut t → ∀ bindings command, t.render bindings = .ok command →
        ∃ pattern, t.gate.evaluate command = .deny pattern ∧
          r.Denies t.id bindings command pattern) ∧
      ((∀ pattern ∈ p.deny, ∃ command, p.accepts command pattern = false) →
        r.registry.Lists t) := by
  have hids : r.registry.ids.Pairwise (· < ·) := by
    rw [hregistry]
    exact pairwise_ids_ofTools e ts
  refine ⟨CommandGlob.matchesEverything_iff, fun t ht p hgate => ⟨?_, fun hpartial => ?_⟩⟩
  · intro hout bindings command hrender
    have hdenied := (leavesOut_iff hids ht).mp hout
    rw [hgate] at hdenied
    obtain ⟨pattern, hpattern⟩ := Gate.exists_evaluate_eq_deny hdenied command
    rw [← hgate] at hpattern
    have hfind : r.registry.find? t.id = some t := (find?_eq_some_iff hids).mpr ⟨ht, rfl⟩
    exact ⟨pattern, hpattern, Runner.denies_of_evaluate hfind hrender hpattern⟩
  · apply lists_of_not_denied hids ht
    rw [Bool.eq_false_iff, hgate]
    intro hdenied
    obtain ⟨pattern, hmem, haccepts⟩ := Gate.isFullyDenied_iff.mp hdenied
    obtain ⟨command, hcommand⟩ := hpartial pattern hmem
    rw [haccepts command] at hcommand
    cases hcommand

/-- A tool that is denied everything. -/
def removeTool : Tool where
  id := "remove"
  command := "rm -r ."
  timeout := .ofWholeSeconds 120
  gate := .ofPolicy { deny := ["sudo *", "**"] }

/-- A tool that is denied all commands but the empty one. -/
def anyTool : Tool where
  id := "any"
  command := "sh"
  timeout := .ofWholeSeconds 120
  gate := .ofPolicy { deny := ["?*", "\\*"], ignoreCase := true }

/-- One of these tools is left out and of no use, and the other is listed. -/
theorem prompt_leaves_out_denied_remove :
    let r : Runner Machine :=
      { Course.listRunner "/" with registry := ofTools .laptop [removeTool, anyTool] }
    r.registry.LeavesOut removeTool ∧ r.Denies "remove" [] "rm -r ." "**" ∧
      r.registry.Lists anyTool ∧
      ∃ job ∈ ((Course.start r).play [.call (.run (.invokeConfirmed "remove" []))]).jobs,
        job.Denied "rm -r ." "**" := by
  intro r
  have hids : r.registry.ids.Pairwise (· < ·) := pairwise_ids_ofTools _ _
  have hmem (t : Tool) (ht : t ∈ [removeTool, anyTool]) (hoffered : t.available.allows .laptop) :
      t ∈ r.registry.tools :=
    ((find?_eq_some_iff hids).mp
      ((find?_ofTools_eq_some_iff_mem (by decide)).mpr ⟨ht, rfl, hoffered⟩)).1
  have hremove : removeTool ∈ r.registry.tools := hmem removeTool (by simp) rfl
  have hany : anyTool ∈ r.registry.tools := hmem anyTool (by simp) rfl
  have hout : r.registry.LeavesOut removeTool := leavesOut_of_denied hids hremove (by decide)
  obtain ⟨-, htools⟩ := prompt_leaves_out_denied r rfl
  obtain ⟨pattern, hpattern, hdenies⟩ :=
    (htools removeTool hremove _ rfl).1 hout [] "rm -r ." rfl
  obtain rfl : pattern = "**" := by
    have heval : removeTool.gate.evaluate "rm -r ." = .deny "**" := by decide
    rw [heval] at hpattern
    cases hpattern
    rfl
  have hpartly : ∀ pattern ∈ ["?*", "\\*"],
      ∃ command, Policy.accepts { deny := ["?*", "\\*"], ignoreCase := true } command pattern =
        false :=
    List.forall_mem_cons.mpr ⟨⟨"", by decide⟩, List.forall_mem_singleton.mpr ⟨"", by decide⟩⟩
  let order : Entry := .invokeConfirmed "remove" []
  obtain ⟨job, hjob, hcall⟩ :
      ∃ job ∈ ((Course.start r).play [.call (.run order)]).jobs, job.call = .run order :=
    ⟨_, List.mem_singleton.mpr rfl, rfl⟩
  have hdenied := hdenies.ordered _ job hjob order.order (by rw [hcall]; rfl) rfl rfl
  exact ⟨hout, hdenies, (htools anyTool hany _ rfl).2 hpartly, job, hjob, hdenied⟩

end Registry

end Turnstile
