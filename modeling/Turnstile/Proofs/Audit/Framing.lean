import Turnstile.CommandLine.Session
import Turnstile.Proofs.Host.Appending
import Turnstile.Proofs.Json.RoundTrip
import Turnstile.Proofs.Text.Encoding

/-!
# The audit trail is read back

The file of an audit trail is opened for each session and added to, entry by entry
(`AuditSettings.logSessions`). A line of it is read by `AuditEntry.ofLine?`: as text, as a value,
and by the names of its members. Texts in an entry are any texts; the numbers are those of the
fields' types (`AuditEntry.Fits`).

**Theorem** (`AuditSettings.logSessions_framing`): whatever was logged in any number of sessions,
the added octets fall at their newlines into one line for each entry, in order, with nothing left
over; and each line is read as its entry.

The text of an entry stays on its line since the text of a plain value holds no control character
(`Json.Plain.le_toNat`), and octets of other characters are no newlines
(`Utf8.newline_mem_encode_iff`).
-/

namespace Turnstile

/-! ### Reading entries -/

namespace Json

/-- The text that a value is. -/
def text? : Json → Option String
  | .string s => some s
  | _ => none

/-- The integer that a value is. -/
def integer? : Json → Option Int
  | .number (.integer n) => some n
  | _ => none

/-- The number without sign that a value is. -/
def nat? (v : Json) : Option Nat := v.integer?.bind Int.toNat?

end Json

namespace AuditResult

/-- The result that a record tells. -/
def ofJson? (v : Json) : Option AuditResult := do
  match ← (← v.get? "type").text? with
  | "success" =>
    match ← v.get? "exit_code" with
    | .null => return .success none
    | code => return .success (some (← code.integer?))
  | "blocked" => return .blocked (← (← v.get? "pattern").text?)
  | "confirmation" => return .confirmation (← (← v.get? "pattern").text?)
  | "error" => return .error (← (← v.get? "message").text?)
  | "timeout" => return .timeout
  | "cancelled" => return .cancelled
  | "started" => return .started (← Readiness.ofName? (← (← v.get? "readiness").text?))
  | _ => none

/-- The record of a result tells that result. -/
theorem ofJson?_toJson (result : AuditResult) : ofJson? result.toJson = some result := by
  cases result with
  | success exitCode => cases exitCode <;> rfl
  | blocked pattern => rfl
  | confirmation pattern => rfl
  | error message => rfl
  | timeout => rfl
  | cancelled => rfl
  | started readiness => cases readiness <;> rfl

end AuditResult

namespace AuditEntry

/-- The entry that a record tells. -/
def ofJson? (v : Json) : Option AuditEntry := do
  return {
    timestamp := ← (← v.get? "timestamp").text?
    invocationId := ← (← v.get? "invocation_id").text?
    tool := ← (← v.get? "tool").text?
    command := ← (← v.get? "command").text?
    result := ← AuditResult.ofJson? (← v.get? "result")
    durationMillis := ← (← v.get? "duration_ms").nat? }

/-- The record of an entry tells that entry. -/
theorem ofJson?_toJson (e : AuditEntry) : ofJson? e.toJson = some e := by
  have hresult := AuditResult.ofJson?_toJson e.result
  have hduration : (Json.ofNat e.durationMillis).nat? = some e.durationMillis := rfl
  simp [ofJson?, toJson, Json.get?, Json.text?, hresult, hduration]

/-- The numbers of the entry are words. -/
structure Fits (e : AuditEntry) : Prop where
  duration : e.durationMillis < Word.count
  exitCode : ∀ code, e.result = .success (some code) → Word.isSigned code = true

end AuditEntry

/-- A result with an exit code of 64 bits is a plain value. -/
theorem AuditResult.plain_toJson {result : AuditResult}
    (h : ∀ code, result = .success (some code) → Word.isSigned code = true) :
    result.toJson.Plain := by
  cases result with
  | success exitCode =>
      cases exitCode with
      | none => exact .object (by simp [Json.ofOption, Json.Plain.string, Json.Plain.null])
      | some code =>
          have hcode : (Json.ofInt code).Plain := .integer (by simp [h code rfl])
          exact .object (by simp [Json.ofOption, Json.Plain.string, hcode])
  | timeout => exact .object (by simp [Json.Plain.string])
  | cancelled => exact .object (by simp [Json.Plain.string])
  | blocked | confirmation | error | started => exact .object (by simp [Json.Plain.string])

namespace AuditEntry

/-- So is an entry of which all numbers fit. -/
theorem Fits.plain_toJson {e : AuditEntry} (h : e.Fits) : e.toJson.Plain := by
  have hresult := AuditResult.plain_toJson h.exitCode
  have hduration : (Json.ofNat e.durationMillis).Plain :=
    .integer (by simp [Word.isUnsigned, h.duration])
  exact .object (by simp [Json.Plain.string, hresult, hduration])

/-! ### Lines -/

/-- The octets of an entry's line, without its newline. -/
def octets (e : AuditEntry) : Bytes := Utf8.encode e.record

/-- The entry that a line without its newline tells. -/
def ofLine? (line : Bytes) : Option AuditEntry := do
  ofJson? (← Json.read? (← Utf8.decode? line))

/-- A line is the octets of its entry, and a line feed. -/
theorem encode_line (e : AuditEntry) : Utf8.encode e.line = e.octets ++ [Utf8.newline] := by
  rw [line, Utf8.encode_append, octets]
  rfl

/-- No text in an entry ends its line. -/
theorem Fits.newline_not_mem {e : AuditEntry} (h : e.Fits) : Utf8.newline ∉ e.octets := by
  rw [octets, record, Utf8.newline_mem_encode_iff]
  intro hmem
  exact absurd (h.plain_toJson.le_toNat hmem) (by decide)

/-- A line tells the entry that it was written for. -/
theorem Fits.ofLine?_octets {e : AuditEntry} (h : e.Fits) : ofLine? e.octets = some e := by
  have hread := Json.read?_compact h.plain_toJson
  have hentry := ofJson?_toJson e
  simp [ofLine?, octets, record, Utf8.decode?_encode, hread, hentry]

/-- The lines of entries fall apart at their newlines. -/
theorem splitOn_lines {entries : List AuditEntry} (h : ∀ e ∈ entries, e.Fits) :
    (entries.flatMap fun e => Utf8.encode e.line).splitOn Utf8.newline =
      entries.map octets ++ [[]] := by
  induction entries with
  | nil => exact List.splitOn_nil _
  | cons e entries ih =>
      have he := (h e List.mem_cons_self).newline_not_mem
      have hrest := ih fun e' he' => h e' (List.mem_cons_of_mem _ he')
      rw [List.flatMap_cons, encode_line, List.append_assoc, List.singleton_append,
        List.splitOn_append_cons_self_of_not_mem he, hrest, List.map_cons, List.cons_append]

end AuditEntry

/-! ### Sessions -/

/-- Adds the lines of entries at the end of a file. -/
def FileTree.logAll (t : FileTree) (place : Place) (entries : List AuditEntry) : FileTree :=
  entries.foldl (fun t e => t.append place (Utf8.encode e.line)) t

/-- Opens the trail for each session and adds its entries. What is traced is kept in no file. -/
def AuditSettings.logSessions (a : AuditSettings) (cwd : Place) :
    List (List AuditEntry) → FileTree → Except FileError FileTree
  | [], files => .ok files
  | entries :: sessions, files => do
    match ← a.openTrail files cwd with
    | (.jsonLines place, files) => a.logSessions cwd sessions (files.logAll place entries)
    | (.tracing, files) => a.logSessions cwd sessions files

/-- What a runner logs to a file is one entry, with what was run and how it ended. -/
theorem Runner.log_files {r : Runner Machine} {place : Place}
    (h : r.audit = some (.jsonLines place)) (inv : Invocation) (result : AuditResult) :
    ∃ e : AuditEntry, e.invocationId = inv.id ∧ e.tool = inv.tool.id ∧ e.command = inv.command ∧
      e.result = result ∧
      (r.log inv result).system.world.files = r.system.world.files.logAll place [e] := by
  unfold Runner.log
  rw [h]
  exact ⟨_, rfl, rfl, rfl, rfl, rfl⟩

/-- What it traces instead is the record of this entry, and no file changes. -/
theorem Runner.log_traced {r : Runner Machine} (h : r.audit = some .tracing) (inv : Invocation)
    (result : AuditResult) :
    ∃ e : AuditEntry, e.invocationId = inv.id ∧ e.tool = inv.tool.id ∧ e.command = inv.command ∧
      e.result = result ∧ (r.log inv result).system.traced = e.record :: r.system.traced ∧
      (r.log inv result).system.world.files = r.system.world.files := by
  unfold Runner.log
  rw [h]
  exact ⟨_, rfl, rfl, rfl, rfl, rfl, rfl⟩

section

variable {a : AuditSettings} {files opened : FileTree} {cwd place : Place} {content : Bytes}

/-- Entries are added behind what the file has. -/
theorem FileTree.FileAt.logAll (h : files.FileAt cwd a.destination place content)
    (entries : List AuditEntry) :
    (files.logAll place entries).FileAt cwd a.destination place
      (content ++ entries.flatMap fun e => Utf8.encode e.line) := by
  induction entries generalizing files content with
  | nil => simpa [FileTree.logAll] using h
  | cons e entries ih =>
      have hrest := ih (h.append (Utf8.encode e.line))
      rwa [List.append_assoc] at hrest

namespace AuditSettings

/-- A file that is there is opened as the trail. -/
theorem openTrail_of_fileAt (hfile : a.destination ≠ "stdout")
    (h : files.FileAt cwd a.destination place content) :
    a.openTrail files cwd = .ok (.jsonLines place, files) := by
  simp [openTrail, hfile, h.openForWriting, bind, Except.bind, pure, Except.pure]

/-- A trail that is a file was opened for writing. -/
theorem openForWriting_of_openTrail (h : a.openTrail files cwd = .ok (.jsonLines place, opened)) :
    a.destination ≠ "stdout" ∧
      files.openForWriting cwd a.destination = .ok (place, opened) := by
  unfold openTrail at h
  split_ifs at h with hout
  · cases h
  · refine ⟨by simpa using hout, ?_⟩
    cases hwriting : files.openForWriting cwd a.destination with
    | error e => simp [hwriting, bind, Except.bind] at h
    | ok written =>
        obtain ⟨p, t⟩ := written
        simp only [hwriting, bind, Except.bind, pure, Except.pure, Except.ok.injEq, Prod.mk.injEq,
          AuditSink.jsonLines.injEq] at h
        rw [h.1, h.2]

/-- Sessions add all their entries to a file that is there. -/
theorem logSessions_of_fileAt (hfile : a.destination ≠ "stdout")
    (h : files.FileAt cwd a.destination place content) (sessions : List (List AuditEntry)) :
    ∃ after, a.logSessions cwd sessions files = .ok after ∧
      after.FileAt cwd a.destination place
        (content ++ sessions.flatten.flatMap fun e => Utf8.encode e.line) := by
  induction sessions generalizing files content with
  | nil => exact ⟨files, rfl, by simpa using h⟩
  | cons entries sessions ih =>
      obtain ⟨after, hlog, hafter⟩ := ih (h.logAll entries)
      refine ⟨after, ?_, ?_⟩
      · rw [logSessions, openTrail_of_fileAt hfile h]
        exact hlog
      · rwa [List.flatten_cons, List.flatMap_append, ← List.append_assoc]

/-- **Whatever was logged, each line of the trail is read as its entry, and nothing else is there.**
-/
theorem logSessions_framing (hopen : a.openTrail files cwd = .ok (.jsonLines place, opened))
    (first : List AuditEntry) (more : List (List AuditEntry))
    (hfits : ∀ e ∈ (first :: more).flatten, e.Fits) :
    ∃ old added after lines,
      (files.read cwd a.destination = .ok old ∨
        files.read cwd a.destination = .error .notFound ∧ old = []) ∧
      a.logSessions cwd (first :: more) files = .ok after ∧
      after.read cwd a.destination = .ok (old ++ added) ∧
      added.splitOn Utf8.newline = lines ++ [[]] ∧
      lines.map AuditEntry.ofLine? = (first :: more).flatten.map some := by
  obtain ⟨hfile, hwriting⟩ := openForWriting_of_openTrail hopen
  obtain ⟨old, hopened, hold⟩ := FileTree.fileAt_of_openForWriting hwriting
  obtain ⟨after, hlog, hafter⟩ := logSessions_of_fileAt hfile hopened (first :: more)
  have hsessions : a.logSessions cwd (first :: more) files = .ok after := by
    rw [logSessions, openTrail_of_fileAt hfile hopened] at hlog
    rw [logSessions, hopen]
    exact hlog
  refine ⟨old, _, after, _, hold, hsessions, hafter.read, AuditEntry.splitOn_lines hfits, ?_⟩
  rw [List.map_map]
  exact List.map_congr_left fun e he => (hfits e he).ofLine?_octets

/-- The command of this entry has quotes, a backslash, control characters, and a line of its own
that looks like an entry. -/
def forging : AuditEntry where
  timestamp := "2026-01-01T00:00:00.000Z"
  invocationId := "1-1"
  tool := "echo"
  command := "echo '\\'\r\n\x7b\"tool\":\"su\",\"result\":\x7b\"type\":\"timeout\"\x7d\x7d\n\u0000é"
  result := .success (some (-1))
  durationMillis := 7

/-- The entry of a command that a pattern with a newline keeps from being run. -/
def turnedAway : AuditEntry :=
  { forging with invocationId := "1-2", result := .blocked "echo 😀\n\t*" }

/-- A file with an old line. -/
def keptFiles : FileTree := { nodes := [(["trail"], .file (Utf8.encode "old\n"))] }

/-- Two sessions are added to the old line, and each of their three lines is read as its entry. -/
theorem logSessions_framing_forging :
    let a : AuditSettings := { isEnabled := true, destination := "trail" }
    a.openTrail keptFiles [] = .ok (.jsonLines ["trail"], keptFiles) ∧
      forging.Fits ∧ turnedAway.Fits ∧
      ∃ old added after lines,
        (keptFiles.read [] "trail" = .ok old ∨
          keptFiles.read [] "trail" = .error .notFound ∧ old = []) ∧
        a.logSessions [] [[forging, turnedAway], [forging]] keptFiles = .ok after ∧
        after.read [] "trail" = .ok (old ++ added) ∧
        added.splitOn Utf8.newline = lines ++ [[]] ∧
        lines.map AuditEntry.ofLine? = [some forging, some turnedAway, some forging] := by
  intro a
  have hpieces : (Path.splitSlashes a.destination.toList).map String.ofList = ["trail"] := by decide
  have hlocate : keptFiles.locate [] a.destination = .ok ["trail"] := by
    rw [FileTree.locate, if_neg (by decide), hpieces, if_neg (by decide)]
    rfl
  have hopen : a.openTrail keptFiles [] = .ok (.jsonLines ["trail"], keptFiles) :=
    openTrail_of_fileAt (by decide) ⟨hlocate, rfl⟩
  have hforging : forging.Fits := ⟨by decide, fun code h => by cases h; decide⟩
  have hturned : turnedAway.Fits := ⟨by decide, fun code h => by cases h⟩
  have hfits : ∀ e ∈ [[forging, turnedAway], [forging]].flatten, e.Fits := by
    simp [hforging, hturned]
  exact ⟨hopen, hforging, hturned,
    logSessions_framing hopen [forging, turnedAway] [[forging]] hfits⟩

end AuditSettings

end

end Turnstile
