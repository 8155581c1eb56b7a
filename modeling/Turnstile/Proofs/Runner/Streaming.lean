import Turnstile.Proofs.Process.Supervision
import Turnstile.Proofs.Runner.Effects
import Turnstile.Proofs.Text.Decoding

/-!
# Streamed output and captured output

While somebody listens, each chunk that a process writes is decoded and reported by itself
(`Runner.reportChunk`), while the text of its capture is decoded as a whole (`Capture.text`). Any
processes write, and the runner reports what arrived whenever it comes to it (`Runner.Traffic`).

**Theorem** (`Runner.streamed_eq_text_iff`): what is heard of the output of an invocation is the
text of its capture exactly if none of the chunks cuts a character. One that is cut is heard as
replacement characters (`Runner.streamed_of_cut_character`).
-/

namespace Turnstile

/-! ### Chunks of a world -/

namespace World

theorem ne_nil_of_mem_chunksOf {size : Nat} (hsize : 0 < size) {fuel : Nat} {data chunk : Bytes}
    (h : chunk ∈ chunksOf size fuel data) : chunk ≠ [] := by
  induction fuel generalizing data with
  | zero => cases h
  | succ fuel ih =>
      cases data with
      | nil => cases h
      | cons b data =>
          unfold chunksOf at h
          rw [if_neg (by simp)] at h
          rcases List.mem_cons.mp h with rfl | hrest
          · intro hnil
            have hlength := congrArg List.length hnil
            simp only [List.length_take, List.length_cons, List.length_nil] at hlength
            omega
          · exact ih hrest

/-- No piece is empty. -/
theorem ne_nil_of_mem_pieces {data chunk : Bytes} (h : chunk ∈ pieces data) : chunk ≠ [] :=
  ne_nil_of_mem_chunksOf (by decide) h

end World

namespace Runner

/-! ### What is heard -/

/-- The text that an event shows of the output of an invocation. -/
def outputOf? (invocation : String) : Event → Option String
  | .output _ i chunk => if i = invocation then some chunk else none
  | .started .. | .completed .. => none

/-- The texts that were reported of the output of an invocation, in order. -/
def streamedChunks {σ : Type} (r : Runner σ) (invocation : String) : List String :=
  ((r.events.getD []).filterMap (outputOf? invocation)).reverse

/-- What was heard of the output of an invocation. -/
def streamed {σ : Type} (r : Runner σ) (invocation : String) : String :=
  String.join (r.streamedChunks invocation)

section Reporting

variable {σ : Type} {r : Runner σ} {p : ProcessId} {tool invocation : String}

/-- A chunk of the process of an invocation is heard, decoded by itself. -/
theorem streamedChunks_reportChunk (h : r.events.isSome)
    (howner : r.streams.lookup p = some (tool, invocation)) (chunk : Bytes) :
    (r.reportChunk (p, chunk)).streamedChunks invocation =
      r.streamedChunks invocation ++ [Utf8.decodeLossy chunk] := by
  obtain ⟨events, hevents⟩ := Option.isSome_iff_exists.mp h
  unfold reportChunk
  simp [howner, streamedChunks, report, hevents, outputOf?]

/-- A chunk of another process is not. -/
theorem streamedChunks_reportChunk_ne {q : ProcessId}
    (hother : ∀ tool, r.streams.lookup q ≠ some (tool, invocation)) (chunk : Bytes) :
    (r.reportChunk (q, chunk)).streamedChunks invocation = r.streamedChunks invocation := by
  unfold reportChunk
  cases howner : r.streams.lookup q with
  | none => rfl
  | some owner =>
      obtain ⟨tool, i⟩ := owner
      have hi : i ≠ invocation := by
        rintro rfl
        exact hother tool howner
      cases hevents : r.events with
      | none => simp [streamedChunks, report, hevents]
      | some events => simp [streamedChunks, report, hevents, outputOf?, hi]

/-- Of chunks that are reported one after the other, those of the process are heard. -/
theorem streamedChunks_reportChunks (hlistens : r.events.isSome)
    (howner : r.streams.lookup p = some (tool, invocation))
    (halone : ∀ q tool, r.streams.lookup q = some (tool, invocation) → q = p)
    (arrived : List (ProcessId × Bytes)) :
    (arrived.foldl reportChunk r).streamedChunks invocation =
      r.streamedChunks invocation ++
        ((arrived.filter (·.1 == p)).map (·.2)).map Utf8.decodeLossy := by
  induction arrived generalizing r with
  | nil => simp
  | cons c arrived ih =>
      obtain ⟨q, chunk⟩ := c
      obtain ⟨outputs, -, hreport⟩ := reportChunk_eq r (q, chunk)
      have hstreams : (r.reportChunk (q, chunk)).streams = r.streams := by rw [hreport]
      have hlistens' : (r.reportChunk (q, chunk)).events.isSome := by
        rw [hreport, Option.isSome_map]
        exact hlistens
      rw [List.foldl_cons, ih hlistens' (hstreams ▸ howner) (hstreams ▸ halone)]
      by_cases hq : q = p
      · subst hq
        rw [streamedChunks_reportChunk hlistens howner]
        simp
      · rw [streamedChunks_reportChunk_ne fun tool h => hq (halone q tool h)]
        simp [hq]

end Reporting

/-! ### Traffic -/

/-- Something that happens to the output of processes. -/
inductive Traffic where
  /-- What a process wrote is read. -/
  | read (p : ProcessId) (data : Bytes)
  /-- The runner reports what was read. -/
  | report

/-- A runner after something happened. -/
def happen (r : Runner Machine) : Traffic → Runner Machine
  | .read p data =>
    { r with system := { r.system with world := r.system.world.captureData p data } }
  | .report => r.reportOutput

/-- A runner after a list of things happened. -/
def pass (r : Runner Machine) (traffic : List Traffic) : Runner Machine := traffic.foldl happen r

namespace Traffic

/-- The chunks in which something comes from a process. -/
def chunksOf (p : ProcessId) : Traffic → List Bytes
  | .read q data => if q = p then World.pieces data else []
  | .report => []

/-- A read of the process is handed on in its pieces. -/
theorem chunksOf_read_self (p : ProcessId) (data : Bytes) :
    chunksOf p (.read p data) = World.pieces data :=
  if_pos rfl

/-- A read of another process is none of its chunks. -/
theorem chunksOf_read_ne {p q : ProcessId} (hne : q ≠ p) (data : Bytes) :
    chunksOf p (.read q data) = [] :=
  if_neg hne

theorem ne_nil_of_mem_chunksOf {p : ProcessId} {t : Traffic} {chunk : Bytes}
    (h : chunk ∈ t.chunksOf p) : chunk ≠ [] := by
  cases t with
  | report => cases h
  | read q data =>
      by_cases hq : q = p
      · subst hq
        rw [chunksOf_read_self] at h
        exact World.ne_nil_of_mem_pieces h
      · rw [chunksOf_read_ne hq] at h
        cases h

end Traffic

/-- An invocation that is listened to: its process is the only one that counts for it, nothing cut
the capture off, and what was heard, with what is still to be reported, are its chunks. -/
structure Follows (r : Runner Machine) (p : ProcessId) (invocation : String)
    (chunks : List Bytes) : Prop where
  listens : r.events.isSome
  owner : ∃ tool, r.streams.lookup p = some (tool, invocation)
  alone : ∀ q tool, r.streams.lookup q = some (tool, invocation) → q = p
  captured : r.system.world.captures.lookup p = some { chunks := chunks.reverse }
  heard : r.streamedChunks invocation ++ (r.system.world.waiting p).map Utf8.decodeLossy =
    chunks.map Utf8.decodeLossy

namespace Follows

variable {r : Runner Machine} {p : ProcessId} {invocation : String} {chunks : List Bytes}

/-- What is read waits to be reported. -/
theorem read (h : r.Follows p invocation chunks) (q : ProcessId) (data : Bytes) :
    (r.happen (.read q data)).Follows p invocation
      (chunks ++ Traffic.chunksOf p (.read q data)) := by
  have hheard := h.heard
  by_cases hq : q = p
  · subst hq
    have hcaptured := World.lookup_captureData_open h.captured rfl data
    have hwaiting := World.waiting_captureData_open h.captured rfl data
    rw [Traffic.chunksOf_read_self]
    refine ⟨h.listens, h.owner, h.alone, ?_, ?_⟩
    · rw [List.reverse_append]
      exact hcaptured
    · rw [List.map_append, ← hheard, List.append_assoc, ← List.map_append, ← hwaiting]
      rfl
  · obtain ⟨hcaptured, hwaiting⟩ := World.captureData_sameOutput (Ne.symm hq) r.system.world data
    rw [Traffic.chunksOf_read_ne hq, List.append_nil]
    refine ⟨h.listens, h.owner, h.alone, hcaptured.trans h.captured, ?_⟩
    rw [← hheard, ← hwaiting]
    rfl

/-- What waits is reported, each chunk by itself. -/
theorem report (h : r.Follows p invocation chunks) :
    (r.happen .report).Follows p invocation chunks ∧
      (r.happen .report).system.world.waiting p = [] := by
  obtain ⟨outputs, -, hreport⟩ := reportOutput_eq_outputs r
  have hwaiting : r.reportOutput.system.world.waiting p = [] := by
    rw [hreport]
    rfl
  have hheard : r.reportOutput.streamedChunks invocation = chunks.map Utf8.decodeLossy := by
    obtain ⟨tool, howner⟩ := h.owner
    rw [reportOutput_eq, ← h.heard]
    exact streamedChunks_reportChunks
      (r := { r with system := (Platform.takeChunks r.system).2 }) h.listens howner h.alone
      r.system.world.chunks.reverse
  refine ⟨⟨?_, ?_, ?_, ?_, ?_⟩, hwaiting⟩
  · change r.reportOutput.events.isSome
    rw [hreport, Option.isSome_map]
    exact h.listens
  · change ∃ tool, r.reportOutput.streams.lookup p = some (tool, invocation)
    rw [hreport]
    exact h.owner
  · change ∀ q tool, r.reportOutput.streams.lookup q = some (tool, invocation) → q = p
    rw [hreport]
    exact h.alone
  · change r.reportOutput.system.world.captures.lookup p = some { chunks := chunks.reverse }
    rw [hreport]
    exact h.captured
  · change r.reportOutput.streamedChunks invocation ++
      (r.reportOutput.system.world.waiting p).map Utf8.decodeLossy = chunks.map Utf8.decodeLossy
    rw [hwaiting, hheard, List.map_nil, List.append_nil]

/-- Traffic is followed with its chunks. -/
theorem happen (h : r.Follows p invocation chunks) (t : Traffic) :
    (r.happen t).Follows p invocation (chunks ++ t.chunksOf p) := by
  cases t with
  | read q data => exact h.read q data
  | report =>
      rw [Traffic.chunksOf, List.append_nil]
      exact h.report.1

/-- Any traffic is followed, in order. -/
theorem pass (h : r.Follows p invocation chunks) (traffic : List Traffic) :
    (r.pass traffic).Follows p invocation (chunks ++ traffic.flatMap (Traffic.chunksOf p)) := by
  induction traffic generalizing r chunks with
  | nil => simpa [Runner.pass] using h
  | cons t traffic ih =>
      have hnext := ih (h.happen t)
      rwa [List.append_assoc] at hnext

/-- Once everything is reported, the chunks were heard one by one, and the capture has them all. -/
theorem streamed_report (h : r.Follows p invocation chunks) :
    (r.happen .report).streamed invocation = String.join (chunks.map Utf8.decodeLossy) ∧
      (Platform.capture (r.happen .report).system p).text = Utf8.decodeLossy chunks.flatten := by
  obtain ⟨hfollows, hwaiting⟩ := h.report
  have hheard := hfollows.heard
  rw [hwaiting, List.map_nil, List.append_nil] at hheard
  have hcapture : Platform.capture (r.happen .report).system p = { chunks := chunks.reverse } := by
    change ((r.happen .report).system.world.captures.lookup p).getD {} = _
    rw [hfollows.captured]
    rfl
  constructor
  · rw [streamed, hheard]
  · rw [hcapture, Capture.text, Capture.bytes, List.reverse_reverse]

end Follows

/-- A process that was started is listened to from its first octet on. -/
theorem follows_start {r r' : Runner Machine} {inv : Invocation} {op : Operation}
    (hlistens : r.events.isSome) (hreported : r.system.world.chunks = [])
    (hnew : ∀ q tool, r.streams.lookup q ≠ some (tool, inv.id))
    (hsilent : r.streamedChunks inv.id = []) (h : r.start inv = (r', op))
    (hstarted : ∀ a, op ≠ .finished a) :
    ∃ p, r'.Follows p inv.id [] := by
  rcases hspawn : Platform.spawn (r.requestOf inv) r.system with ⟨result, system⟩
  cases result with
  | error e =>
      rw [start_error hspawn] at h
      cases h
      exact absurd rfl (hstarted _)
  | ok p =>
      rw [start_ok hspawn] at h
      cases h
      obtain ⟨t, -, -, -, hcapture, hchunks⟩ := Machine.spawn_eq_ok hspawn
      refine ⟨p, hlistens, ⟨inv.tool.id, List.lookup_cons_self⟩, ?_, hcapture, ?_⟩
      · intro q tool hq
        by_contra hne
        have hqp : (q == p) = false := by simpa using hne
        rw [List.lookup_cons, hqp] at hq
        exact hnew q tool hq
      · have hwaiting : system.world.waiting p = [] := by
          rw [World.waiting, hchunks, hreported]
          rfl
        have hsilent' : streamedChunks
            { r with system, streams := (p, inv.tool.id, inv.id) :: r.streams } inv.id = [] :=
          hsilent
        rw [hsilent', hwaiting]
        rfl

/-! ### When nothing is lost -/

/-- Texts of chunks are joined as their characters are. -/
theorem join_decodeLossy (chunks : List Bytes) :
    String.join (chunks.map Utf8.decodeLossy) =
      String.ofList (chunks.flatMap Utf8.decodeLossyChars) := by
  induction chunks with
  | nil => rfl
  | cons chunk chunks ih => simp [ih, Utf8.decodeLossy]

/-- **What is heard of the output is its text exactly if no chunk cuts a character.** -/
theorem streamed_eq_text_iff {r : Runner Machine} {p : ProcessId} {invocation : String}
    (h : r.Follows p invocation []) (traffic : List Traffic) :
    ((r.pass traffic).happen .report).streamed invocation =
        (Platform.capture ((r.pass traffic).happen .report).system p).text ↔
      (traffic.flatMap (Traffic.chunksOf p)).IsChain (¬ Utf8.Cuts · ·) := by
  have hne : ∀ chunk ∈ traffic.flatMap (Traffic.chunksOf p), chunk ≠ [] := by
    intro chunk hchunk
    obtain ⟨t, -, ht⟩ := List.mem_flatMap.mp hchunk
    exact Traffic.ne_nil_of_mem_chunksOf ht
  obtain ⟨hstreamed, htext⟩ := (h.pass traffic).streamed_report
  rw [hstreamed, htext, List.nil_append, join_decodeLossy, Utf8.decodeLossy,
    String.ofList_inj]
  exact Utf8.flatMap_decodeLossyChars_eq_iff hne

/-- A runner that listens to a process that has written nothing yet. -/
def listeningRunner : Runner Machine where
  registry := {}
  killGrace := .ofWholeSeconds 1
  pollInterval := .ofWholeSeconds 1
  system := { world := { files := {}, captures := [(100, {})] }, cwd := [] }
  events := some []
  streams := [(100, "tee", "invocation-1")]

/-- The runner listens to its process from the start. -/
theorem listeningRunner_follows : listeningRunner.Follows 100 "invocation-1" [] where
  listens := rfl
  owner := ⟨"tee", rfl⟩
  alone := by
    intro q tool hq
    by_contra hne
    have hother : (q == 100) = false := by simpa using hne
    simp [listeningRunner, List.lookup_cons, hother] at hq
  captured := rfl
  heard := rfl

/-- The two octets of a character in one chunk are heard as that character. -/
theorem streamed_eq_text_of_whole :
    listeningRunner.Follows 100 "invocation-1" [] ∧
      ((listeningRunner.pass [.read 100 [0xC3, 0xA9]]).happen .report).streamed "invocation-1" =
        (Platform.capture
          ((listeningRunner.pass [.read 100 [0xC3, 0xA9]]).happen .report).system 100).text :=
  ⟨listeningRunner_follows,
    (streamed_eq_text_iff listeningRunner_follows [.read 100 [0xC3, 0xA9]]).mpr (by decide)⟩

/-- In two chunks they are heard as two replacement characters. -/
theorem streamed_of_cut_character :
    ((listeningRunner.pass [.read 100 [0xC3], .report, .read 100 [0xA9]]).happen .report).streamed
        "invocation-1" = "\uFFFD\uFFFD" ∧
      (Platform.capture
        ((listeningRunner.pass [.read 100 [0xC3], .report, .read 100 [0xA9]]).happen
          .report).system 100).text = "\u00E9" := by
  decide +kernel

end Runner

end Turnstile
