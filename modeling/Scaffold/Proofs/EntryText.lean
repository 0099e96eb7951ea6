import Scaffold.Log.Json
import Scaffold.Proofs.InstantText
import Scaffold.Proofs.JsonRecord

/-!
# Log entries and their texts

An entry of the log is read back from its text: its name, its time to the nanosecond, its operation
with everything that it carries, and its metadata.

* `Entity.decodes_json`, `Operation.decodes_json`, `Metadata.decodes_json`: the parts of an entry.
* `LogEntry.Countable`: that the counts in an entry are counts that can be read.
* `LogEntry.ofJson_compact`: an entry is read back from its text.
-/

namespace Scaffold

open Json (Decodes Reader decodes_text decodes_count decodes_record decodes_choice)
open Json.Reader (countLimit)

/-! ### Entities -/

/-- Whether a property is a key candidate is written but not read: it follows from the name. -/
theorem Property.decodes_json (p : Property) : Decodes Property.reader p.json p :=
  decodes_record (r := ⟨some p.name, some p.type⟩)
    (.member (.known rfl rfl ((decodes_text p.name).bind_pure _))
      (.member (.known rfl rfl ((decodes_text p.type).bind_pure _))
        (.member (.unknown rfl (Json.decodes_skip_bool p.isKey)) (.done _))))
    (Reading.complete_eq p)

theorem Entity.decodes_json (e : Entity) : Decodes Entity.reader e.json e :=
  have hproperties : Decodes (Reader.list Property.reader) (.array (e.properties.map Property.json))
      e.properties := Json.decodes_list fun p _ => p.decodes_json
  decodes_record (r := ⟨some e.name, some e.properties⟩)
    (.member (.known rfl rfl ((decodes_text e.name).bind_pure _))
      (.member (.known rfl rfl (hproperties.bind_pure _)) (.done _)))
    rfl

/-! ### Operations -/

theorem Path.decodes_text (p : Path) : Decodes Path.reader (.text p.text) p :=
  (Json.decodes_text p.text).map Path.mk

theorem Json.decodes_single {α : Type} {name : String} {read : Reader α} {v : Json} {a : α}
    (h : Decodes read v a) : Decodes (Reader.single name read) (.object [(name, v)]) a :=
  decodes_record (r := some a)
    (.member (.known (List.find?_cons_of_pos (beq_self_eq_true name)) rfl (h.map some)) (.done _))
    rfl

theorem Json.decodes_pair {α β : Type} (first second : String) {readFirst : Reader α}
    {readSecond : Reader β} {v w : Json} {a : α} {b : β} (hne : first ≠ second)
    (ha : Decodes readFirst v a) (hb : Decodes readSecond w b) :
    Decodes (Reader.pair first readFirst second readSecond)
      (.object [(first, v), (second, w)]) (a, b) := by
  refine decodes_record (r := (some a, some b))
    (.member (.known (List.find?_cons_of_pos (beq_self_eq_true first)) rfl (ha.bind_pure _))
      (.member ?_ (.done _))) rfl
  apply Json.TakesMember.known
  · refine (List.find?_cons_of_neg ?_).trans (List.find?_cons_of_pos ?_)
    · simpa using hne
    · exact beq_self_eq_true second
  · rfl
  · exact hb.bind_pure _

/-- Whether the counts in an operation are counts that can be read. -/
def Operation.Countable : Operation → Prop
  | .artifactWritten _ bytes => bytes ≤ countLimit
  | .runCompleted artifactCount _ => artifactCount ≤ countLimit
  | _ => True

theorem Operation.decodes_json {o : Operation} (h : o.Countable) :
    Decodes Operation.reader o.json o := by
  cases o with
  | entityParsed entity =>
    exact decodes_choice rfl ((Json.decodes_single entity.decodes_json).map entityParsed)
  | parseFailed error =>
    exact decodes_choice rfl ((Json.decodes_single (decodes_text error)).map parseFailed)
  | artifactWritten path bytes =>
    have hpair := Json.decodes_pair "path" "bytes" (by decide)
      path.decodes_text (decodes_count h)
    exact decodes_choice rfl (hpair.map fun p => artifactWritten p.1 p.2)
  | artifactFailed path error =>
    have hpair := Json.decodes_pair "path" "error" (by decide)
      path.decodes_text (decodes_text error)
    exact decodes_choice rfl (hpair.map fun p => artifactFailed p.1 p.2)
  | runCompleted artifactCount dryRun =>
    have hpair := Json.decodes_pair "artifact_count" "dry_run" (by decide)
      (decodes_count h) (Json.decodes_bool dryRun)
    exact decodes_choice rfl (hpair.map fun p => runCompleted p.1 p.2)

/-! ### Metadata -/

theorem Status.decodes_name (s : Status) : Decodes Status.reader (.text s.name) s := by
  cases s <;> exact Json.decodes_bare rfl

/-- Whether the duration is a count that can be read. -/
def Metadata.Countable (m : Metadata) : Prop := ∀ n, m.duration = some n → n ≤ countLimit

theorem Metadata.decodes_json {m : Metadata} (h : m.Countable) :
    Decodes Metadata.reader m.json m := by
  have hsolution : Decodes (Reader.optional Reader.text) (m.solution.elim .null .text)
      m.solution := by
    cases m.solution with
    | none => exact Json.decodes_none _
    | some s => exact (decodes_text s).optional nofun
  have hduration : Decodes (Reader.optional Reader.count) (m.duration.elim .null .number)
      m.duration := by
    unfold Countable at h
    cases hn : m.duration with
    | none => exact Json.decodes_none _
    | some n => exact (decodes_count (h n hn)).optional nofun
  exact decodes_record
    (r := ⟨some m.source, some m.solution, some m.duration, some m.status⟩)
    (.member (.known rfl rfl ((decodes_text m.source).bind_pure _))
      (.member (.known rfl rfl (hsolution.bind_pure _))
        (.member (.known rfl rfl (hduration.bind_pure _))
          (.member (.known rfl rfl (m.status.decodes_name.bind_pure _)) (.done _)))))
    rfl

/-! ### Entries -/

theorem Instant.decodes_text (t : Instant) : Decodes Instant.reader (.text t.text) t := by
  intro rest hrest
  rw [Instant.reader, Json.Reader.bind_of_ok (Json.decodes_text t.text rest hrest),
    Instant.ofText?_text]
  rfl

/-- Whether the counts in an entry are counts that can be read. -/
structure LogEntry.Countable (e : LogEntry) : Prop where
  operation : e.operation.Countable
  metadata : e.metadata.Countable

theorem LogEntry.decodes_json {e : LogEntry} (h : e.Countable) :
    Decodes LogEntry.reader e.json e :=
  decodes_record (r := ⟨some e.id, some e.time, some e.operation, some e.metadata⟩)
    (.member (.known rfl rfl ((decodes_text e.id).bind_pure _))
      (.member (.known rfl rfl (e.time.decodes_text.bind_pure _))
        (.member (.known rfl rfl ((Operation.decodes_json h.operation).bind_pure _))
          (.member (.known rfl rfl ((Metadata.decodes_json h.metadata).bind_pure _)) (.done _)))))
    rfl

/-- An entry is read back from its text. -/
theorem LogEntry.ofJson_compact {e : LogEntry} (h : e.Countable) :
    LogEntry.ofJson e.json.compact = .ok e := by
  have hread := LogEntry.decodes_json h [] .nil
  rw [List.append_nil] at hread
  rw [LogEntry.ofJson, Json.Reader.run, hread]
  rfl

end Scaffold
