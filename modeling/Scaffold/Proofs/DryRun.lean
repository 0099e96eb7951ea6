import Scaffold.Proofs.Deliveries
import Scaffold.Proofs.LogRecord

/-!
# Trying a run out

A run that is only tried out goes through the same steps as one that writes files, but keeps its
artifacts in memory. It cannot fail to write, leaves everything but the log as it is, and tells how
the other run goes if nothing stops it. What the other run writes before it is stopped is a
beginning of what has been told.

* `Recorded`: what recording changes, whether or not the log can be written to.
* `Delivery.of_receptive`: what is delivered to a sink that takes everything.
* `Foretells`: how the two runs compare.
* `dry_run_foretells`: in every session they do.
-/

namespace Scaffold

namespace Sink

variable {n : Type → Type} [Monad n] [MonadLiftT (StateM Session) n]

/-! ### Sinks that take everything -/

/-- A sink that can always be prepared, takes every artifact, and leaves the session alone. -/
structure Receptive (x : Execution n) (sink : Sink n) : Prop where
  prepare : ∀ root w, (x.run (sink.prepare root) w).1 = .ok () ∧
    x.session (x.run (sink.prepare root) w).2 = x.session w
  write : ∀ root a w, (∃ path, (x.run (sink.write root a) w).1 = .ok path) ∧
    x.session (x.run (sink.write root a) w).2 = x.session w

theorem receptive_memory : Receptive (.beside Memory) memory :=
  ⟨fun _ _ => ⟨rfl, rfl⟩, fun root a _ => ⟨⟨a.under root, rfl⟩, rfl⟩⟩

variable {x : Execution n} {sink : Sink n} {root : Path} {w w' : x.World}
  {artifacts : List Artifact} {written : List Written} {failure : Option WriteError}

theorem Takes.not_refused (h : Takes x sink root w artifacts written failure w')
    (hsink : Receptive x sink) : failure = none := by
  induction h with
  | done => rfl
  | refused hcall =>
    obtain ⟨⟨_, hok⟩, _⟩ := hsink.write root _ _
    rw [hcall] at hok
    cases hok
  | taken _ _ ih => exact ih

/-- Nothing fails in a delivery to such a sink, and the session stays as it is. -/
theorem Delivery.of_receptive (h : Delivery x sink root w artifacts written failure w')
    (hsink : Receptive x sink) : failure = none ∧ x.session w' = x.session w := by
  constructor
  · cases h with
    | unprepared hcall =>
      obtain ⟨hok, _⟩ := hsink.prepare root w
      rw [hcall] at hok
      cases hok
    | prepared _ htakes => exact htakes.not_refused hsink
  · let Untouched (v : x.World) : Prop := x.session v = x.session w
    have hprepare : ∀ v, Untouched v → Untouched (x.run (sink.prepare root) v).2 :=
      fun v hv => (hsink.prepare root v).2.trans hv
    have hwrite : ∀ a ∈ artifacts, ∀ v, Untouched v → Untouched (x.run (sink.write root a) v).2 :=
      fun a _ v hv => (hsink.write root a v).2.trans hv
    exact h.preserves hprepare hwrite rfl

end Sink

namespace Run

variable {definition : String} {config : Config} {s : Session}

/-! ### What recording changes -/

/-- Nothing is changed but warnings and the file that the path of the log leads to. -/
structure Recorded (config : Config) (s s' : Session) : Prop where
  session : s' = { s with files := s'.files, warnings := s'.warnings }
  files : ∀ l, s'.files.get? l = s.files.get? l ∨
    s.files.get? l ≠ some .directory ∧
      ∃ log, config.log = some log ∧ l = FileSystem.resolve s.here log

namespace Recorded

variable {s' s'' : Session}

theorem refl (s : Session) : Recorded config s s := ⟨rfl, fun _ => Or.inl rfl⟩

theorem here (h : Recorded config s s') : s'.here = s.here := by
  rw [h.session]

theorem trans (h : Recorded config s s') (h' : Recorded config s' s'') :
    Recorded config s s'' := by
  constructor
  · rw [h'.session, h.session]
  · intro l
    rcases h.files l with hsame | hlog
    · have hl := h'.files l
      rw [hsame, h.here] at hl
      exact hl
    · exact Or.inr hlog

end Recorded

theorem respects_add {log : Path} (hlog : config.log = some log) (e : LogEntry) :
    Session.Respects (Recorded config) (Log.add Session.host log e) := by
  intro s
  change Recorded config s (s.settle (s.files.append s.here log (Text.encode e.line))).2
  cases happend : s.files.append s.here log (Text.encode e.line) with
  | error fault => exact .refl s
  | ok files =>
    obtain ⟨l, hwritable, hput⟩ := bind_eq_ok_iff.mp happend
    cases hput
    refine ⟨rfl, fun k => ?_⟩
    change (s.files.put l _).get? k = _ ∨ _
    rw [FileSystem.get?_put k (FileSystem.writable_ne_nil hwritable)]
    by_cases hk : k = l
    · subst hk
      exact Or.inr ⟨FileSystem.get?_of_writable hwritable, log, hlog,
        FileSystem.writable_eq_resolve hwritable⟩
    · exact Or.inl (if_neg hk)

theorem compositional_recorded (config : Config) :
    Compositional fun α (program : StateM Session α) =>
      Session.Respects (Recorded config) program :=
  Session.compositional_respects .refl .trans

/-- Whether or not the log can be written to, recording touches nothing else. -/
theorem respects_record (config : Config) (started : Nat) (t : Operation × Status) :
    Session.Respects (Recorded config) (record Session.host config started t) :=
  (compositional_recorded config).record (fun s => .refl s) (fun s => .refl s)
    (fun _ _ => ⟨rfl, fun _ => Or.inl rfl⟩) (fun _ hlog e => respects_add hlog e) started t

theorem respects_recordAll (config : Config) (started : Nat) (ts : List (Operation × Status)) :
    Session.Respects (Recorded config) (recordAll Session.host config started ts) :=
  (compositional_recorded config).recordAll (respects_record config started) ts

/-! ### The run in memory -/

/-- What a run in memory comes to when the definition can be read: it tells what is to be written,
and only records something. -/
theorem generate_dry_of_ok (config : Config) (hdry : config.dryRun = true) (s : Session)
    {entity : Entity} (hparse : Entity.parse definition = .ok entity) :
    ∃ s', generate Session.host definition config s =
      (.ok ⟨entity, config, root config entity,
        Sink.listing (root config entity) (entity.family config.solution)⟩, s') ∧
      Recorded config s s' := by
  obtain ⟨written, failure, w', hdelivery, hrun⟩ := exists_delivery (.beside Sink.Memory)
    Sink.memory config ({}, s) hparse
  obtain ⟨rfl, hsession⟩ := hdelivery.of_receptive Sink.receptive_memory
  obtain rfl := hdelivery.written_eq Sink.faithful_memory (List.cons_ne_nil _ _)
  rw [generate, if_pos hdry, Execution.run'_beside, hrun]
  refine ⟨_, rfl, ?_⟩
  have hbegun : w'.2 = begun config entity s := hsession
  have hfirst : Recorded config s w'.2 := by
    rw [hbegun]
    exact respects_record config _ _ s
  exact hfirst.trans (respects_recordAll config _ _ w'.2)

theorem generate_of_error (s : Session) {e : ParseError}
    (hparse : Entity.parse definition = .error e) :
    generate Session.host definition config s = (.error (.parse e),
      (record Session.host config s.uptime (.parseFailed e.message, .failed) s).2) := by
  by_cases hdry : config.dryRun = true
  · rw [generate, if_pos hdry, Execution.run'_beside,
      run_into_of_error (.beside Sink.Memory) Sink.memory config ({}, s) hparse]
    rfl
  · rw [generate, if_neg hdry]
    exact run_into_of_error .machine (Sink.disk Session.host) config s hparse

/-! ### Comparing the runs -/

/-- How a run that is only tried out in a session compares to the one that writes files there. -/
structure Foretells (config : Config) (s : Session) (tried real : Except RunError Summary × Session) :
    Prop where
  /-- To try a run out fails to write nothing. -/
  unfailing : ∀ e, tried.1 ≠ .error (.write e)
  /-- It changes no file and no directory except for the log. -/
  recorded : Recorded config s tried.2
  unread : ∀ e, tried.1 = .error (.parse e) ↔ real.1 = .error (.parse e)
  /-- It tells what a run that succeeds has done. -/
  completed : ∀ summary, real.1 = .ok summary →
    tried.1 = .ok { summary with config := { config with dryRun := true } }
  /-- What is written before a failure is a proper beginning of what it tells. -/
  stopped : ∀ e, real.1 = .error (.write e) →
    ∃ summary written s', tried.1 = .ok summary ∧
      (Sink.disk Session.host).Delivery .machine summary.root
        (begun { config with dryRun := false } summary.entity s)
        (summary.entity.family config.solution) written (some e) s' ∧
      real.2 = closed { config with dryRun := false } s.uptime ⟨written, some e⟩ s' ∧
      written <+: summary.written ∧ written ≠ summary.written

/-- **A run that is tried out foretells the run that writes files**, whatever is in the session and
wherever the other one may be stopped. -/
theorem dry_run_foretells (definition : String) (config : Config) (s : Session) :
    Foretells config s
      (generate Session.host definition { config with dryRun := true } s)
      (generate Session.host definition { config with dryRun := false } s) := by
  cases hparse : Entity.parse definition with
  | error e =>
    rw [generate_of_error s hparse, generate_of_error s hparse]
    have hrecord := respects_record { config with dryRun := true } s.uptime
      (.parseFailed e.message, .failed) s
    constructor
    case unfailing =>
      intro e' h
      cases h
    case recorded => exact ⟨hrecord.session, hrecord.files⟩
    case unread => exact fun _ => Iff.rfl
    case completed =>
      intro summary h
      cases h
    case stopped =>
      intro e' h
      cases h
  | ok entity =>
    obtain ⟨tried, htried, hrecorded⟩ :=
      generate_dry_of_ok { config with dryRun := true } rfl s hparse
    obtain ⟨written, failure, s', hdelivery, hreal⟩ := exists_delivery .machine
      (Sink.disk Session.host) { config with dryRun := false } s hparse
    have hgenerate : generate Session.host definition { config with dryRun := false } s =
        (outcome { config with dryRun := false } entity ⟨written, failure⟩,
          closed { config with dryRun := false } s.uptime ⟨written, failure⟩ s') := hreal
    rw [htried, hgenerate]
    constructor
    case unfailing =>
      intro e' h
      cases h
    case recorded => exact ⟨hrecorded.session, hrecorded.files⟩
    case unread =>
      intro e
      cases failure <;> simp [outcome, WriteReport.toExcept]
    case completed =>
      intro summary h
      cases failure with
      | some e => cases h
      | none =>
        obtain rfl := hdelivery.written_eq Sink.faithful_disk (List.cons_ne_nil _ _)
        cases h
        rfl
    case stopped =>
      intro e h
      cases failure with
      | none => cases h
      | some e' =>
        cases h
        obtain ⟨hbefore, hne⟩ := hdelivery.written_prefix Sink.faithful_disk (List.cons_ne_nil _ _)
        exact ⟨_, written, s', rfl, hdelivery, rfl, hbefore, hne⟩

end Run

end Scaffold
