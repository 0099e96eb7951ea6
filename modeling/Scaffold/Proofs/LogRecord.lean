import Scaffold.Proofs.Confinement
import Scaffold.Proofs.FamilyPaths
import Scaffold.Proofs.LogLines
import Scaffold.Proofs.Runs

/-!
# What the log of a run tells

A run with a log adds an entry for everything that happens. The entries, the result of the run and
the calls that the sink gets are three records of one run, and they agree.

* `Chronicle`: a run, the entries in its log and the account they give.
* `record_run`, `recordAll_run`: recording adds one line an operation and changes nothing else.
* `log_tells_what_happened`: the log of every run that can be logged is a chronicle of it.
-/

namespace Scaffold

open Text (Bytes)

/-- What an entry says: what happened and how it went. -/
def LogEntry.said (e : LogEntry) : Operation × Status := (e.operation, e.metadata.status)

/-- The lines of some entries. -/
def LogEntry.lines (entries : List LogEntry) : Bytes :=
  entries.flatMap fun e => Text.encode e.line

theorem LogEntry.lines_cons (e : LogEntry) (entries : List LogEntry) :
    lines (e :: entries) = lines [e] ++ lines entries := by
  simp [lines]

/-- The session with another content of the file at a location. -/
def Session.withFile (s : Session) (l : Location) (content : Bytes) : Session :=
  { s with files := s.files.put l (.file content) }

theorem Session.withFile_withFile (s : Session) (l : Location) (content content' : Bytes) :
    (s.withFile l content).withFile l content' = s.withFile l content' := by
  simp only [withFile, FileSystem.put_put]

/-- The world with another content of the file at a location. -/
def Execution.withFile {n : Type → Type} [Monad n] [MonadLiftT (StateM Session) n]
    (x : Execution n) (w : x.World) (l : Location) (content : Bytes) : x.World :=
  x.withSession w ((x.session w).withFile l content)

section

variable {n : Type → Type} [Monad n] [MonadLiftT (StateM Session) n] (x : Execution n)

theorem Execution.session_withFile (w : x.World) (l : Location) (content : Bytes) :
    x.session (x.withFile w l content) = (x.session w).withFile l content :=
  x.session_withSession _ _

theorem Execution.withFile_withFile (w : x.World) (l : Location) (content content' : Bytes) :
    x.withFile (x.withFile w l content) l content' = x.withFile w l content' := by
  simp only [withFile, x.session_withSession, x.withSession_withSession, Session.withFile_withFile]

end

namespace Run

variable {n : Type → Type} [Monad n] [MonadLiftT (StateM Session) n]

/-! ### Chronicles -/

/-- An entry bears the mark of a run and is named after its time. -/
structure Stamped (config : Config) (e : LogEntry) : Prop where
  id : e.id = e.time.entryId
  source : e.metadata.source = source
  solution : e.metadata.solution = some config.solution

/-- A run from the world `w` with its log at `l`: the entries that it adds, its result, and the
world `w'` in which the sink leaves it. -/
structure Chronicle (x : Execution n) (sink : Sink n) (definition : String) (config : Config)
    (w : x.World) (log : Path) (l : Location) (first : LogEntry) (rest : List LogEntry)
    (result : Except RunError Summary) (w' : x.World) : Prop where
  /-- Besides the calls of the sink, the run changes the log only. -/
  run : x.run (into Session.host sink definition config) w =
    (result, x.withFile w' l ((x.session w).files.contentAt l ++ LogEntry.lines (first :: rest)))
  /-- The log then is what it was before, followed by the entries. -/
  read : (x.session (x.run (into Session.host sink definition config) w).2).files.read
      (x.session (x.run (into Session.host sink definition config) w).2).here log =
    .ok ((x.session w).files.contentAt l ++ LogEntry.lines (first :: rest))
  /-- Every entry is one line. -/
  lines : Text.splitLines (LogEntry.lines (first :: rest)) =
    (first :: rest).map fun e => Text.encode e.line
  stamped : ∀ e ∈ first :: rest, Stamped config e
  /-- The entries say what happens, once the first of them is in the log. -/
  account : Account x sink definition config
    (x.withFile w l ((x.session w).files.contentAt l ++ LogEntry.lines [first]))
    ((first :: rest).map LogEntry.said) result w'
  /-- The run succeeds exactly when the last entry says so. -/
  succeeds : (∃ summary, result = .ok summary) ↔
    ∃ count, ((first :: rest).map LogEntry.said).getLast? =
      some (.runCompleted count config.dryRun, .success)

/-- A run can be logged: there is a log, it can be added to when the run starts, and no artifact
goes where it is. In a session nothing but the files decides whether a file can be added to, so the
log can then be added to until the end. -/
structure Loggable (s : Session) (definition : String) (config : Config) (log : Path)
    (l : Location) : Prop where
  isLog : config.log = some log
  writable : s.files.writable s.here log = .ok l
  apart : ∀ e, Entity.parse definition = .ok e → ∀ a ∈ e.family config.solution,
    FileSystem.resolve s.here (a.under (root config e)) ≠ FileSystem.resolve s.here log

/-- A log that has not the extension of artifacts is out of their way. -/
theorem Loggable.of_extension {s : Session} {config : Config} {log : Path} {l : Location}
    (definition : String) (hlog : config.log = some log)
    (hwritable : s.files.writable s.here log = .ok l)
    (hl : ∀ title : String, l.getLast? ≠ some (title ++ "." ++ Artifact.extension)) :
    Loggable s definition config log l where
  isLog := hlog
  writable := hwritable
  apart := by
    intro e hparse a ha
    rw [← FileSystem.writable_eq_resolve hwritable]
    exact resolve_under_ne_of_extension hparse hl s.here (root config e) a ha

/-! ### Recording -/

variable {config : Config} {log : Path} {l : Location} {s : Session}

/-- Recording an operation adds a line to the log and changes nothing else. -/
theorem record_run (hlog : config.log = some log)
    (hwritable : s.files.writable s.here log = .ok l) (started : Nat) (t : Operation × Status) :
    ∃ e : LogEntry, e.said = t ∧ Stamped config e ∧
      record Session.host config started t s =
        ((), s.withFile l (s.files.contentAt l ++ LogEntry.lines [e])) := by
  obtain ⟨operation, status⟩ := t
  let e : LogEntry := .stamped operation
    ⟨source, some config.solution, some (s.uptime - started), status⟩ s.now
  refine ⟨e, rfl, ⟨rfl, rfl, rfl⟩, ?_⟩
  have happend : s.files.append s.here log (Text.encode e.line) =
      .ok (s.files.put l (.file (s.files.contentAt l ++ LogEntry.lines [e]))) := by
    rw [FileSystem.append, hwritable, LogEntry.lines, List.flatMap_singleton]
    rfl
  have hadd : Log.add Session.host log e s =
      (.ok (), s.withFile l (s.files.contentAt l ++ LogEntry.lines [e])) := by
    change s.settle (s.files.append s.here log (Text.encode e.line)) = _
    rw [happend]
    rfl
  simp only [record, hlog]
  rw [Session.run_bind, Session.run_bind, Session.run_bind]
  generalize hresult : Log.add Session.host log _ _ = result
  have hok : result = (.ok (), s.withFile l (s.files.contentAt l ++ LogEntry.lines [e])) :=
    hresult.symm.trans hadd
  rw [hok]
  rfl

theorem recordAll_cons (started : Nat) (t : Operation × Status) (ts : List (Operation × Status)) :
    recordAll Session.host config started (t :: ts) s =
      recordAll Session.host config started ts (record Session.host config started t s).2 :=
  rfl

/-- Recording operations one after the other adds their lines in this order. -/
theorem recordAll_run (hlog : config.log = some log)
    (hwritable : s.files.writable s.here log = .ok l) (started : Nat) (t : Operation × Status)
    (ts : List (Operation × Status)) :
    ∃ entries : List LogEntry, entries.map LogEntry.said = t :: ts ∧
      (∀ e ∈ entries, Stamped config e) ∧
      recordAll Session.host config started (t :: ts) s =
        ((), s.withFile l (s.files.contentAt l ++ LogEntry.lines entries)) := by
  obtain ⟨e, hsaid, hstamped, hrecord⟩ := record_run hlog hwritable started t
  induction ts generalizing s t e with
  | nil =>
    refine ⟨[e], ?_, ?_, ?_⟩
    · rw [List.map_singleton, hsaid]
    · intro e' he'
      rw [List.mem_singleton.mp he']
      exact hstamped
    · rw [recordAll_cons, hrecord]
      rfl
  | cons t' ts ih =>
    -- The file is there by now, with the first line at its end.
    have hopens : (s.withFile l (s.files.contentAt l ++ LogEntry.lines [e])).files.Opens s.here log
        l (s.files.contentAt l ++ LogEntry.lines [e]) := .put hwritable
    obtain ⟨e', hsaid', hstamped', hrecord'⟩ := record_run hlog hopens.writable started t'
    obtain ⟨entries, hsaids, hstampeds, hrecords⟩ :=
      ih hopens.writable t' e' hsaid' hstamped' hrecord'
    refine ⟨e :: entries, ?_, List.forall_mem_cons.mpr ⟨hstamped, hstampeds⟩, ?_⟩
    · rw [List.map_cons, hsaid, hsaids]
    · rw [recordAll_cons, hrecord, hrecords, hopens.contentAt, Session.withFile_withFile,
        List.append_assoc, ← LogEntry.lines_cons]

/-! ### Every run has a chronicle -/

variable {x : Execution n} {sink : Sink n} {definition : String} {w w' : x.World}

/-- An account of a run that is written down in stamped entries makes a chronicle. -/
theorem chronicle_of_account {first : LogEntry} {rest : List LogEntry}
    {result : Except RunError Summary}
    (hrun : x.run (into Session.host sink definition config) w =
      (result, x.withFile w' l ((x.session w).files.contentAt l ++ LogEntry.lines (first :: rest))))
    (hwritable : (x.session w').files.writable (x.session w').here log = .ok l)
    (hstamped : ∀ e ∈ first :: rest, Stamped config e)
    (haccount : Account x sink definition config
      (x.withFile w l ((x.session w).files.contentAt l ++ LogEntry.lines [first]))
      ((first :: rest).map LogEntry.said) result w') :
    Chronicle x sink definition config w log l first rest result w' where
  run := hrun
  read := by
    rw [hrun, Execution.session_withFile]
    exact (FileSystem.Opens.put hwritable).read
  lines := LogEntry.splitLines_entries (first :: rest)
  stamped := hstamped
  account := haccount
  succeeds := haccount.succeeds

theorem exists_chronicle_of_error (sink : Sink n)
    (h : Loggable (x.session w) definition config log l) {e : ParseError}
    (hparse : Entity.parse definition = .error e) :
    ∃ first rest result w', Chronicle x sink definition config w log l first rest result w' := by
  obtain ⟨first, hsaid, hstamped, hrecord⟩ := record_run h.isLog h.writable
    (x.session w).uptime (.parseFailed e.message, .failed)
  have hrun := run_into_of_error x sink config w hparse
  rw [hrecord] at hrun
  let w' := x.withFile w l ((x.session w).files.contentAt l ++ LogEntry.lines [first])
  refine ⟨first, [], .error (.parse e), w', chronicle_of_account ?_ ?_ ?_ ?_⟩
  · rw [hrun, Execution.withFile_withFile]
    rfl
  · rw [Execution.session_withFile]
    exact (FileSystem.Opens.put h.writable).writable
  · intro e' he'
    rw [List.mem_singleton.mp he']
    exact hstamped
  · rw [List.map_singleton, hsaid]
    exact .unread hparse

theorem exists_chronicle_of_ok (h : Loggable (x.session w) definition config log l)
    {entity : Entity} (hparse : Entity.parse definition = .ok entity)
    (hsink : sink.Confined x (root config entity) (entity.family config.solution)) :
    ∃ first rest result w', Chronicle x sink definition config w log l first rest result w' := by
  obtain ⟨first, hsaid, hstamped, hrecord⟩ := record_run h.isLog h.writable
    (x.session w).uptime (.entityParsed entity, .success)
  let before := (x.session w).files.contentAt l
  let w₁ := x.withFile w l (before ++ LogEntry.lines [first])
  have hrecord₁ : x.withSession w (record Session.host config (x.session w).uptime
      (.entityParsed entity, .success) (x.session w)).2 = w₁ := by
    rw [hrecord]
    rfl
  cases hwrite : x.run (sink.writeAll (root config entity) (entity.family config.solution)) w₁ with
  | mk report w₂ =>
    have hdelivery := Sink.run_writeAll x sink (root config entity)
      (entity.family config.solution) w₁
    rw [hwrite] at hdelivery
    -- The first entry is in the log by now, and the sink leaves it there.
    have hopens₁ : (x.session w₁).files.Opens (x.session w₁).here log l
        (before ++ LogEntry.lines [first]) := by
      rw [Execution.session_withFile]
      exact .put h.writable
    have hopens₂ : (x.session w₂).files.Opens (x.session w₂).here log l
        (before ++ LogEntry.lines [first]) := by
      refine hdelivery.opens hsink ?_ hopens₁
      intro a ha
      rw [Execution.session_withFile, FileSystem.writable_eq_resolve h.writable]
      exact h.apart entity hparse a ha
    obtain ⟨t, ts, hclosing⟩ := List.exists_cons_of_ne_nil (closing_ne_nil config report)
    obtain ⟨rest, hsaids, hstampeds, hrecords⟩ := recordAll_run h.isLog hopens₂.writable
      (x.session w).uptime t ts
    rw [← hclosing] at hsaids hrecords
    rw [hopens₂.contentAt, List.append_assoc, ← LogEntry.lines_cons] at hrecords
    have hrun := run_into_of_ok x sink config w hparse hrecord₁ hwrite
    rw [hrecords] at hrun
    refine ⟨first, rest, _, w₂, chronicle_of_account hrun hopens₂.writable ?_ ?_⟩
    · exact List.forall_mem_cons.mpr ⟨hstamped, hstampeds⟩
    · rw [List.map_cons, hsaid, hsaids]
      exact account_of_delivery hparse hdelivery

/-- A run that can be logged, into a sink that keeps to its artifacts, has a chronicle. -/
theorem exists_chronicle (h : Loggable (x.session w) definition config log l)
    (hsink : ∀ e, Entity.parse definition = .ok e →
      sink.Confined x (root config e) (e.family config.solution)) :
    ∃ first rest result w', Chronicle x sink definition config w log l first rest result w' := by
  cases hparse : Entity.parse definition with
  | error e => exact exists_chronicle_of_error sink h hparse
  | ok entity => exact exists_chronicle_of_ok h hparse (hsink entity hparse)

/-- **The log of a run tells what happens in it.** Whenever a run can be logged and its sink keeps
to its artifacts, the run has a chronicle; and the sinks of this library do, whether they write
files, keep artifacts in memory, or fail at any step. -/
theorem log_tells_what_happened (definition : String) (config : Config) (log : Path)
    (l : Location) :
    (∀ (n : Type → Type) [Monad n] [MonadLiftT (StateM Session) n] (x : Execution n)
        (sink : Sink n) (w : x.World),
      Loggable (x.session w) definition config log l →
      (∀ e, Entity.parse definition = .ok e →
        sink.Confined x (root config e) (e.family config.solution)) →
      ∃ first rest result w',
        Chronicle x sink definition config w log l first rest result w') ∧
    ∀ s : Session, Loggable s definition config log l →
      (∃ first rest result w',
        Chronicle .machine (Sink.disk Session.host) definition config s log l
          first rest result w') ∧
      (∀ memory : Sink.Memory, ∃ first rest result w',
        Chronicle (.beside Sink.Memory) Sink.memory definition config (memory, s) log l
          first rest result w') ∧
      ∀ (failAt : Nat) (fault : Fault) (failing : Sink.Failing), ∃ first rest result w',
        Chronicle (.beside Sink.Failing) (Sink.failing failAt fault) definition config
          (failing, s) log l first rest result w' := by
  refine ⟨fun n _ _ x sink w h hsink => exists_chronicle h hsink, fun s h => ⟨?_, ?_, ?_⟩⟩
  · exact exists_chronicle (x := .machine) h fun e _ => Sink.confined_disk _ _
  · intro memory
    exact exists_chronicle (x := .beside Sink.Memory) (w := (memory, s)) h
      fun e _ => Sink.confined_memory _ _
  · intro failAt fault failing
    exact exists_chronicle (x := .beside Sink.Failing) (w := (failing, s)) h
      fun e _ => Sink.confined_failing failAt fault _ _

/-- A log beside the output, when nothing is there yet. -/
theorem log_tells_what_happened_from_nothing :
    let definition := "public class Order \x7b public int OrderId \x7b get; set; \x7d \x7d"
    let config : Config := ⟨"Acme", ⟨"out"⟩, some ⟨"run.jsonl"⟩, false⟩
    Loggable {} definition config ⟨"run.jsonl"⟩ ["run.jsonl"] ∧
      (∃ first rest result w',
        Chronicle .machine (Sink.disk Session.host) definition config ({} : Session)
          ⟨"run.jsonl"⟩ ["run.jsonl"] first rest result w') ∧
      ∃ first rest result w',
        Chronicle (.beside Sink.Failing) (Sink.failing 3 .noEntry) definition config
          (({}, {}) : Sink.Failing × Session) ⟨"run.jsonl"⟩ ["run.jsonl"] first rest result w' := by
  intro definition config
  have hl : ∀ title : String,
      ["run.jsonl"].getLast? ≠ some (title ++ "." ++ Artifact.extension) := by
    intro title heq
    have hlast := congrArg (·.toList.getLast?) (Option.some.inj heq)
    simp [Artifact.extension] at hlast
  have hwritable : FileSystem.writable {} [] ⟨"run.jsonl"⟩ = .ok ["run.jsonl"] := rfl
  have hloggable : Loggable {} definition config ⟨"run.jsonl"⟩ ["run.jsonl"] :=
    .of_extension definition rfl hwritable hl
  have htold := log_tells_what_happened definition config ⟨"run.jsonl"⟩ ["run.jsonl"]
  refine ⟨hloggable, ?_, ?_⟩
  · exact htold.1 (StateM Session) .machine (Sink.disk Session.host) {} hloggable
      fun e _ => Sink.confined_disk _ _
  · exact (htold.2 {} hloggable).2.2 3 .noEntry {}

end Run

end Scaffold
