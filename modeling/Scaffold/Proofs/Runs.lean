import Scaffold.Proofs.Execution
import Scaffold.Run

/-!
# What happens in a run

A run records that the definition has been read, or that it cannot be, has the sink take the family
of the entity, and records what has become of it. Its outcome is one of three: the definition is
not read, every artifact is written, or a step of the sink fails.

* `run_into_of_error`, `run_into_of_ok`: the steps of a run, carried out one after the other.
* `exists_delivery`: a run is one delivery between what it records.
* `Account`: what happens in a run and what there is to say about it, by its outcome.
* `account_of_delivery`: what a run records is the account of its delivery.
* `Account.succeeds`: the result can be told from the end of the account.
-/

namespace Scaffold.Run

variable {n : Type → Type} [Monad n] [MonadLiftT (StateM Session) n]

/-! ### The steps of a run -/

section

variable (x : Execution n) (sink : Sink n) {definition : String} (config : Config) (w : x.World)

/-- A definition that cannot be read is recorded, and that is all. -/
theorem run_into_of_error {e : ParseError} (hparse : Entity.parse definition = .error e) :
    x.run (into Session.host sink definition config) w =
      (.error (.parse e), x.withSession w (record Session.host config (x.session w).uptime
        (.parseFailed e.message, .failed) (x.session w)).2) := by
  have hstart : x.withSession w (Session.host.uptime (x.session w)).2 = w :=
    x.withSession_session w
  rw [into, x.run_bind, x.run_lift, hstart, hparse]
  simp only [x.run_bind, x.run_lift, x.run_pure]
  rfl

/-- A definition that can be read is recorded, then the family of its entity is written, and then
what has become of it is recorded. -/
theorem run_into_of_ok {entity : Entity} (hparse : Entity.parse definition = .ok entity)
    {w' w'' : x.World} {report : WriteReport}
    (hrecord : x.withSession w (record Session.host config (x.session w).uptime
      (.entityParsed entity, .success) (x.session w)).2 = w')
    (hwrite : x.run (sink.writeAll (root config entity) (entity.family config.solution)) w' =
      (report, w'')) :
    x.run (into Session.host sink definition config) w =
      (match report.toExcept with
        | .error e => .error (.write e)
        | .ok written => .ok ⟨entity, config, root config entity, written⟩,
        x.withSession w'' (recordAll Session.host config (x.session w).uptime
          (closing config report) (x.session w'')).2) := by
  have hstart : x.withSession w (Session.host.uptime (x.session w)).2 = w :=
    x.withSession_session w
  have huptime : (Session.host.uptime (x.session w)).1 = (x.session w).uptime := rfl
  rw [into, x.run_bind, x.run_lift, hstart, hparse, huptime]
  simp only [x.run_bind, x.run_lift]
  rw [hrecord, hwrite]
  cases report.toExcept with
  | error e => exact x.run_pure _ _
  | ok written => exact x.run_pure _ _

/-- What a run gives, by what became of its artifacts. -/
def outcome (config : Config) (entity : Entity) (report : WriteReport) :
    Except RunError Summary :=
  match report.toExcept with
  | .error e => .error (.write e)
  | .ok written => .ok ⟨entity, config, root config entity, written⟩

/-- The session once it is recorded that a definition has been read. -/
def begun (config : Config) (entity : Entity) (s : Session) : Session :=
  (record Session.host config s.uptime (.entityParsed entity, .success) s).2

/-- The session once it is recorded what has become of the artifacts of a run that started at a
given time. -/
def closed (config : Config) (started : Nat) (report : WriteReport) (s : Session) : Session :=
  (recordAll Session.host config started (closing config report) s).2

/-- A run is one delivery between what it records. -/
theorem exists_delivery {entity : Entity} (hparse : Entity.parse definition = .ok entity) :
    ∃ written failure w',
      sink.Delivery x (root config entity) (x.withSession w (begun config entity (x.session w)))
        (entity.family config.solution) written failure w' ∧
      x.run (into Session.host sink definition config) w =
        (outcome config entity ⟨written, failure⟩, x.withSession w'
          (closed config (x.session w).uptime ⟨written, failure⟩ (x.session w'))) := by
  let w₁ := x.withSession w (begun config entity (x.session w))
  have hdelivery := Sink.run_writeAll x sink (root config entity)
    (entity.family config.solution) w₁
  cases hwrite : x.run (sink.writeAll (root config entity) (entity.family config.solution)) w₁ with
  | mk report w' =>
    rw [hwrite] at hdelivery
    exact ⟨_, _, w', hdelivery, run_into_of_ok x sink config w hparse rfl hwrite⟩

end

/-! ### Accounts -/

/-- What is to be said of an artifact that has been written. -/
def writtenEntry (written : Written) : Operation × Status :=
  (.artifactWritten written.path written.bytes, .success)

/-- What happens in a run into a sink from one world to another, what there is to say about it, and
what its result is. -/
inductive Account (x : Execution n) (sink : Sink n) (definition : String) (config : Config)
    (w : x.World) : List (Operation × Status) → Except RunError Summary → x.World → Prop where
  /-- The definition cannot be read, and the sink is not used. -/
  | unread {e} :
      Entity.parse definition = .error e →
      Account x sink definition config w
        [(.parseFailed e.message, .failed)] (.error (.parse e)) w
  /-- Every artifact is written. -/
  | completed {entity written w'} :
      Entity.parse definition = .ok entity →
      sink.Delivery x (root config entity) w (entity.family config.solution) written none w' →
      Account x sink definition config w
        ((.entityParsed entity, .success) :: written.map writtenEntry ++
          [(.runCompleted written.length config.dryRun, .success)])
        (.ok ⟨entity, config, root config entity, written⟩) w'
  /-- The sink fails, after some artifacts or before any. -/
  | stopped {entity written e w'} :
      Entity.parse definition = .ok entity →
      sink.Delivery x (root config entity) w (entity.family config.solution) written (some e) w' →
      Account x sink definition config w
        ((.entityParsed entity, .success) :: written.map writtenEntry ++
          [(.artifactFailed e.path e.fault.message, .failed),
           (.runCompleted written.length config.dryRun,
             if written = [] then .failed else .incomplete)])
        (.error (.write e)) w'

variable {x : Execution n} {sink : Sink n} {definition : String} {config : Config}
  {w w' : x.World}

theorem closing_of_none (written : List Written) :
    closing config ⟨written, none⟩ = written.map writtenEntry ++
      [(.runCompleted written.length config.dryRun, .success)] := by
  simp only [closing, status, Option.toList_none, List.map_nil, List.append_nil]
  rfl

theorem closing_of_some (written : List Written) (e : WriteError) :
    closing config ⟨written, some e⟩ = written.map writtenEntry ++
      [(.artifactFailed e.path e.fault.message, .failed),
       (.runCompleted written.length config.dryRun,
         if written = [] then .failed else .incomplete)] := by
  simp only [closing, Option.toList_some, List.map_cons, List.map_nil, List.append_assoc]
  cases written <;> rfl

theorem closing_ne_nil (config : Config) (report : WriteReport) : closing config report ≠ [] :=
  List.concat_ne_nil _ _

/-- The closing entries complete the account of a delivery. -/
theorem account_of_delivery {entity : Entity} {report : WriteReport}
    (hparse : Entity.parse definition = .ok entity)
    (h : sink.Delivery x (root config entity) w (entity.family config.solution) report.written
      report.failure w') :
    Account x sink definition config w
      ((.entityParsed entity, .success) :: closing config report)
      (match report.toExcept with
        | .error e => .error (.write e)
        | .ok written => .ok ⟨entity, config, root config entity, written⟩) w' := by
  obtain ⟨written, failure⟩ := report
  cases failure with
  | none =>
    rw [closing_of_none]
    exact .completed hparse h
  | some e =>
    rw [closing_of_some]
    exact .stopped hparse h

/-- A run succeeds exactly when the last that is said of it is its success. -/
theorem Account.succeeds {said : List (Operation × Status)} {result : Except RunError Summary}
    (h : Account x sink definition config w said result w') :
    (∃ summary, result = .ok summary) ↔
      ∃ count, said.getLast? = some (.runCompleted count config.dryRun, .success) := by
  cases h with
  | unread =>
    constructor
    · rintro ⟨summary, hresult⟩
      cases hresult
    · rintro ⟨count, hlast⟩
      cases hlast
  | completed =>
    constructor
    · intro _
      exact ⟨_, List.getLast?_concat⟩
    · intro _
      exact ⟨_, rfl⟩
  | stopped =>
    constructor
    · rintro ⟨summary, hresult⟩
      cases hresult
    · rintro ⟨count, hlast⟩
      rw [List.getLast?_append] at hlast
      obtain ⟨_, hstatus⟩ := Prod.mk.inj (Option.some.inj hlast)
      split at hstatus
      · cases hstatus
      · cases hstatus

end Scaffold.Run
