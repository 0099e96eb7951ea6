import Scaffold.Proofs.Elsewhere
import Scaffold.Proofs.FamilyNames

/-!
# Runs with a log and without one

To keep a log changes nothing in a run, whichever of the records fail. What a sink can tell about
the world is said by a relation between worlds; when records are not seen in related worlds, a run
with a log and one without have the same result, except for the log that is named in it, and their
sinks get the same calls.

The sink that puts artifacts into files sees everything but the log, as long as the log is not in
its way.

* `Host.LogsUnseen`, `Sink.Indifferent`: what a sink cannot tell.
* `into_unlogged`, `into_untraced`: runs of any sort with and without a log, and with and without
  a record of the calls.
* `Session.faulty`: a session in which records fail at will.
* `log_interferes_with_nothing`: all of this, for every sink and for the files of a session.
-/

namespace Scaffold

open Text (Bytes)

/-! ### What is not seen -/

/-- A record in the log, with all that it takes, is not seen in related worlds. -/
structure Host.LogsUnseen {W : Type} (host : Host (StateM W)) (log : Path) (R : W → W → Prop) :
    Prop where
  append : ∀ bytes, Unseen R (host.append log bytes)
  warn : ∀ text, Unseen R (host.warn text)
  now : Unseen R host.now
  uptime : Unseen R host.uptime

/-- In related worlds the calls of the sink give the same and do the same to its state. -/
structure Sink.Indifferent {W σ : Type} (sink : Sink (StateT σ (StateM W))) (R : W → W → Prop)
    (root : Path) (artifacts : List Artifact) : Prop where
  prepare : ∀ a w w', R w w' →
    (sink.prepare root a w).1 = (sink.prepare root a w').1 ∧
      R (sink.prepare root a w).2 (sink.prepare root a w').2
  write : ∀ artifact ∈ artifacts, ∀ a w w', R w w' →
    (sink.write root artifact a w).1 = (sink.write root artifact a w').1 ∧
      R (sink.write root artifact a w).2 (sink.write root artifact a w').2

theorem Sink.Indifferent.tied {W σ : Type} {sink : Sink (StateT σ (StateM W))} {R : W → W → Prop}
    {root : Path} {artifacts : List Artifact} (h : sink.Indifferent R root artifacts) :
    Relational.Beside σ (Tied R) _ _ Eq (sink.prepare root) (sink.prepare root) ∧
      ∀ artifact ∈ artifacts, Relational.Beside σ (Tied R) _ _ Eq (sink.write root artifact)
        (sink.write root artifact) := by
  have htied : ∀ {α : Type} {p : StateT σ (StateM W) α},
      (∀ a w w', R w w' → (p a w).1 = (p a w').1 ∧ R (p a w).2 (p a w').2) →
      Relational.Beside σ (Tied R) α α Eq p p := by
    intro α p hp a w w' hw
    obtain ⟨hresult, hworld⟩ := hp a w w' hw
    exact ⟨⟨congrArg Prod.fst hresult, congrArg Prod.snd hresult⟩, hworld⟩
  exact ⟨htied h.prepare, fun artifact hartifact => htied (h.write artifact hartifact)⟩

/-- The summary of the same run with another log. -/
def Summary.logging (log : Option Path) (summary : Summary) : Summary :=
  { summary with config := { summary.config with log } }

namespace Run

open Sink (Call)

section

variable {W : Type} {R : W → W → Prop} {n : Type → Type} [Monad n] [MonadLiftT (StateM W) n]
  {Rel : ∀ α β : Type, (α → β → Prop) → n α → n β → Prop} {host : Host (StateM W)} {sink : Sink n}
  {definition : String} {config : Config} {log : Path}

theorem unseen_record (hlog : host.LogsUnseen log R) (config : Config)
    (hconfig : ∀ other, config.log = some other → other = log) (started : Nat)
    (t : Operation × Status) : Unseen R (record host config started t) := by
  refine (compositional_unseen R).record hlog.uptime hlog.now hlog.warn ?_ started t
  intro other hother e
  rw [hconfig other hother]
  exact hlog.append _

theorem unseen_recordAll (hlog : host.LogsUnseen log R) (config : Config)
    (hconfig : ∀ other, config.log = some other → other = log) (started : Nat)
    (ts : List (Operation × Status)) : Unseen R (recordAll host config started ts) :=
  (compositional_unseen R).recordAll (unseen_record hlog config hconfig started) ts

variable (sink) in
/-- A run with a log and one without are related if their sinks are and what is not seen does not
matter. -/
theorem into_unlogged (hR : Relational Rel)
    (hunseen : ∀ {α β : Type} {p : StateM W α} {q : StateM W β}, Unseen R p → Unseen R q →
      Rel α β (fun _ _ => True) (liftM p) (liftM q))
    (hlog : host.LogsUnseen log R)
    (hprepare : ∀ e, Entity.parse definition = .ok e →
      Rel _ _ Eq (sink.prepare (root config e)) (sink.prepare (root config e)))
    (hwrite : ∀ e, Entity.parse definition = .ok e → ∀ a ∈ e.family config.solution,
      Rel _ _ Eq (sink.write (root config e) a) (sink.write (root config e) a)) :
    Rel _ _ (fun x y => x = y.map (Summary.logging (some log)))
      (into host sink definition { config with log := some log })
      (into host sink definition { config with log := none }) := by
  have hsome : ∀ other, some log = some other → other = log :=
    fun other hother => (Option.some.inj hother).symm
  have hnone : ∀ other, none = some other → other = log := fun other hother => nomatch hother
  exact hR.into (fun _ _ => True) (hunseen hlog.uptime hlog.uptime)
    (fun i j _ t => hunseen (unseen_record hlog _ hsome i t) (unseen_record hlog _ hnone j t))
    (fun i j _ ts =>
      hunseen (unseen_recordAll hlog _ hsome i ts) (unseen_recordAll hlog _ hnone j ts))
    hprepare hwrite (fun _ => rfl) fun _ _ _ => rfl

variable (host sink definition config) in
/-- A run goes the same way whether the calls of its sink are recorded or not. -/
theorem into_untraced [LawfulMonad n] (hR : Relational Rel)
    (hsame : ∀ {α : Type} {r : α → α → Prop} (p : n α), (∀ a, r a a) → Rel α α r p p) :
    Relational.Forgetting (List Call) Rel _ _ Eq (into host sink.traced definition config)
      (into host sink definition config) := by
  have hlift : ∀ {α : Type} {r : α → α → Prop} (p : StateM W α), (∀ a, r a a) →
      Relational.Forgetting (List Call) Rel α α r (liftM p) (liftM p) :=
    fun p hr => Relational.Forgetting.lift hR (hsame _ hr)
  refine hR.forgetting.into Eq (hlift _ fun _ => rfl) ?_ ?_ ?_ ?_ (fun _ => rfl) fun _ _ _ => rfl
  · rintro i _ rfl t
    exact hlift _ fun _ => trivial
  · rintro i _ rfl ts
    exact hlift _ fun _ => trivial
  · intro e _
    exact Relational.Forgetting.recording hR (hsame _ fun _ => rfl) _
  · intro e _ a _
    exact Relational.Forgetting.recording hR (hsame _ fun _ => rfl) _

end

/-! ### Runs into a sink with a state -/

section

variable {W σ : Type} {R : W → W → Prop} {host : Host (StateM W)}
  {sink : Sink (StateT σ (StateM W))} {definition : String} {config : Config} {log : Path}

variable (host sink definition config) in
theorem run_into_untraced (a : σ) (w : W) :
    into host sink definition config a w =
      (((into host sink.traced definition config [] a w).1.1.1,
        (into host sink.traced definition config [] a w).1.2),
        (into host sink.traced definition config [] a w).2) := by
  have hrun := into_untraced host sink definition config (relational_tied (Eq (α := W))).beside
    (fun p hr a w w' hw => by
      subst hw
      exact ⟨⟨hr _, rfl⟩, rfl⟩) [] a w w rfl
  obtain ⟨⟨hresult, hstate⟩, hworld⟩ := hrun
  exact Prod.ext (Prod.ext hresult.symm hstate.symm) hworld.symm

theorem exists_run_unlogged (hlog : host.LogsUnseen log R)
    (hsink : ∀ e, Entity.parse definition = .ok e →
      sink.Indifferent R (root config e) (e.family config.solution))
    (a : σ) {w w' : W} (hw : R w w') :
    ∃ result calls a' v v',
      into host sink.traced definition { config with log := some log } [] a w =
        (((result.map (Summary.logging (some log)), calls), a'), v) ∧
      into host sink.traced definition { config with log := none } [] a w' =
        (((result, calls), a'), v') ∧
      R v v' := by
  have hR := (relational_tied R).beside (σ := σ)
  have hunseen : ∀ {α β : Type} {p : StateM W α} {q : StateM W β}, Unseen R p → Unseen R q →
      Relational.Beside (List Call) (Relational.Beside σ (Tied R)) α β (fun _ _ => True)
        (liftM p) (liftM q) := fun hp hq =>
    Relational.Beside.lift hR (Relational.Beside.lift (relational_tied R) (hp.tied hq))
  have hrun := into_unlogged sink.traced hR.beside hunseen hlog
    (fun e he => Relational.Beside.recording hR (hsink e he).tied.1 (.prepare _))
    (fun e he artifact hartifact =>
      Relational.Beside.recording hR ((hsink e he).tied.2 artifact hartifact) (.write _ _))
    [] a w w' hw
  obtain ⟨⟨⟨hresult, hcalls⟩, hstate⟩, hworld⟩ := hrun
  exact ⟨_, _, _, _, _, Prod.ext (Prod.ext (Prod.ext hresult hcalls) hstate) rfl, rfl, hworld⟩

end

/-! ### Runs into files -/

/-- A log is aside from the files of a service when its path leads neither to an artifact nor to a
folder, nor to a place that a folder lies in. -/
structure IsAside (here : Location) (log root : Path) (artifacts : List Artifact) : Prop where
  artifacts : ∀ a ∈ artifacts,
    FileSystem.resolve here log ≠ FileSystem.resolve here (a.under root)
  folders : ∀ f : Folder, ∀ p ∈ (f.under root).chain,
    FileSystem.resolve here log ≠ FileSystem.resolve here p
  start : FileSystem.resolve here log ≠ FileSystem.start here root

section

variable {here : Location} {log root : Path} {artifacts : List Artifact}

theorem IsAside.folder_clear (h : IsAside here log root artifacts) (f : Folder) :
    ¬ FileSystem.OnTheWay here (f.under root) (FileSystem.resolve here log) := by
  rw [FileSystem.onTheWay_iff_exists_mem_chain]
  rintro (hstart | ⟨p, hp, hplace⟩)
  · refine h.start (hstart.trans ?_)
    rw [FileSystem.start, FileSystem.start, Folder.under, f.isName.isPiece.isAbsolute_join]
  · exact h.folders f p hp hplace

theorem IsAside.artifact_clear (h : IsAside here log root artifacts) {a : Artifact}
    (ha : a ∈ artifacts) (hname : Path.IsName a.fileName) :
    ¬ FileSystem.OnTheWay here (a.under root) (FileSystem.resolve here log) := by
  rw [Artifact.under, FileSystem.onTheWay_join hname.isPiece]
  rintro (hfolder | hplace)
  · exact h.folder_clear a.folder hfolder
  · exact h.artifacts a ha hplace

end

end Run

namespace Session

/-- A session in which adding to a file fails, besides, whenever it is told to. -/
def faulty (fails : Path → Bytes → Session → Option Fault) : Host (StateM Session) :=
  { host with
    append := fun p bytes s =>
      match fails p bytes s with
      | some fault => (.error fault, s)
      | none => host.append p bytes s }

/-- Without such a fault it is a session like any other. -/
theorem faulty_none : faulty (fun _ _ _ => none) = host := rfl

variable {here : Location} {s s' : Session}

theorem SameOff.symm {l : Location} (h : SameOff here l s s') : SameOff here l s' s :=
  ⟨h.right, h.left, h.files.symm, h.terminal.symm, h.now.symm, h.uptime.symm⟩

/-- What is added to a log, if anything, is at the place of the log. -/
theorem sameOff_append (fails : Path → Bytes → Session → Option Fault) (log : Path) (bytes : Bytes)
    (h : SameOff here (FileSystem.resolve here log) s s') :
    SameOff here (FileSystem.resolve here log) ((faulty fails).append log bytes s).2 s' := by
  change SameOff _ _ (match fails log bytes s with
    | some fault => ((.error fault : Except Fault Unit), s)
    | none => s.settle (s.files.append s.here log bytes)).2 s'
  obtain rfl := h.left
  split
  · exact h
  · cases happend : s.files.append s.here log bytes with
    | error fault => exact h
    | ok files =>
      exact { h with files := (FileSystem.agreeOff_append happend).symm.trans h.files }

theorem logsUnseen (fails : Path → Bytes → Session → Option Fault) (log : Path) :
    (faulty fails).LogsUnseen log (SameOff here (FileSystem.resolve here log)) where
  append bytes := fun _ _ h =>
    ⟨sameOff_append fails log bytes h, (sameOff_append fails log bytes h.symm).symm⟩
  warn _ := fun _ _ h =>
    ⟨⟨h.left, h.right, h.files, h.terminal, h.now, h.uptime⟩,
      ⟨h.left, h.right, h.files, h.terminal, h.now, h.uptime⟩⟩
  now := fun _ _ h => ⟨h, h⟩
  uptime := fun _ _ h => ⟨h, h⟩

end Session

namespace Run

open Sink (Call)

variable {definition : String} {config : Config} {log : Path}

variable (definition config) in
theorem run_disk_untraced (host : Host (StateM Session)) (s : Session) :
    into host (Sink.disk Session.host) definition config s =
      ((into host (Sink.disk Session.host).traced definition config [] s).1.1,
        (into host (Sink.disk Session.host).traced definition config [] s).2) := by
  have hrun := into_untraced host (Sink.disk Session.host) definition config
    (relational_tied (Eq (α := Session)))
    (fun p hr s s' hs => by
      subst hs
      exact ⟨hr _, rfl⟩) [] s s rfl
  obtain ⟨hresult, hworld⟩ := hrun
  exact Prod.ext hresult.symm hworld.symm

theorem exists_run_disk_unlogged (fails : Path → Bytes → Session → Option Fault) (s : Session)
    (haside : ∀ e, Entity.parse definition = .ok e →
      IsAside s.here log (root config e) (e.family config.solution)) :
    ∃ result calls t t',
      into (Session.faulty fails) (Sink.disk Session.host).traced definition
          { config with log := some log } [] s =
        ((result.map (Summary.logging (some log)), calls), t) ∧
      into (Session.faulty fails) (Sink.disk Session.host).traced definition
          { config with log := none } [] s = ((result, calls), t') ∧
      Session.SameOff s.here (FileSystem.resolve s.here log) t t' := by
  have hR := relational_tied (Session.SameOff s.here (FileSystem.resolve s.here log))
  have hunseen : ∀ {α β : Type} {p : StateM Session α} {q : StateM Session β},
      Unseen (Session.SameOff s.here (FileSystem.resolve s.here log)) p →
      Unseen (Session.SameOff s.here (FileSystem.resolve s.here log)) q →
      Relational.Beside (List Call) (Tied _) α β (fun _ _ => True) (liftM p) (liftM q) :=
    fun hp hq => Relational.Beside.lift hR (hp.tied hq)
  have hrun := into_unlogged (Sink.disk Session.host).traced hR.beside hunseen
    (Session.logsUnseen fails log)
    (fun e he => Relational.Beside.recording hR
      (Session.tied_makeFolders (haside e he).folder_clear) (.prepare _))
    (fun e he a ha => Relational.Beside.recording hR
      (Session.tied_writeArtifact ((haside e he).artifact_clear ha
        (Entity.isName_of_mem_family (Definition.isName_of_parse he) ha))) (.write _ _))
    [] s s (.refl _ s)
  obtain ⟨⟨hresult, hcalls⟩, hworld⟩ := hrun
  exact ⟨_, _, _, _, Prod.ext (Prod.ext hresult hcalls) rfl, rfl, hworld⟩

/-- **A log does not interfere.** If records in the log are not seen by a sink, a run with a log and
one without have the same result, except for the log that is named in it, their sinks get the same
calls and end in the same state, and the worlds stay the same to the sink; the records may fail or
not. So it is with the files of a session when the log is not in the way of the service: everywhere
but at the place of the log the same files and directories are left. -/
theorem log_interferes_with_nothing :
    (∀ {W σ : Type} {R : W → W → Prop} {host : Host (StateM W)}
      {sink : Sink (StateT σ (StateM W))} {definition : String} {config : Config} {log : Path},
      host.LogsUnseen log R →
      (∀ e, Entity.parse definition = .ok e →
        sink.Indifferent R (root config e) (e.family config.solution)) →
      ∀ (a : σ) (w w' : W), R w w' →
        let logged : Config := { config with log := some log }
        let unlogged : Config := { config with log := none }
        ∃ result calls a' v v',
          into host sink definition logged a w =
            ((result.map (Summary.logging (some log)), a'), v) ∧
          into host sink definition unlogged a w' = ((result, a'), v') ∧
          into host sink.traced definition logged [] a w =
            (((result.map (Summary.logging (some log)), calls), a'), v) ∧
          into host sink.traced definition unlogged [] a w' = (((result, calls), a'), v') ∧
          R v v') ∧
    ∀ (fails : Path → Bytes → Session → Option Fault) (s : Session) (definition : String)
      (config : Config) (log : Path),
      (∀ e, Entity.parse definition = .ok e →
        IsAside s.here log (root config e) (e.family config.solution)) →
      let logged : Config := { config with log := some log }
      let unlogged : Config := { config with log := none }
      let host := Session.faulty fails
      let sink := Sink.disk Session.host
      ∃ result calls t t',
        into host sink definition logged s = (result.map (Summary.logging (some log)), t) ∧
        into host sink definition unlogged s = (result, t') ∧
        into host sink.traced definition logged [] s =
          ((result.map (Summary.logging (some log)), calls), t) ∧
        into host sink.traced definition unlogged [] s = ((result, calls), t') ∧
        t.SameOff s.here (FileSystem.resolve s.here log) t' := by
  constructor
  · intro W σ R host sink definition config log hlog hsink a w w' hw logged unlogged
    obtain ⟨result, calls, a', v, v', hlogged, hunlogged, hworlds⟩ :=
      exists_run_unlogged hlog hsink a hw
    refine ⟨result, calls, a', v, v', ?_, ?_, hlogged, hunlogged, hworlds⟩
    · rw [run_into_untraced, hlogged]
    · rw [run_into_untraced, hunlogged]
  · intro fails s definition config log haside logged unlogged host sink
    obtain ⟨result, calls, t, t', hlogged, hunlogged, hworlds⟩ :=
      exists_run_disk_unlogged fails s haside
    refine ⟨result, calls, t, t', ?_, ?_, hlogged, hunlogged, hworlds⟩
    · rw [run_disk_untraced, hlogged]
    · rw [run_disk_untraced, hunlogged]

/-- A run into memory, and one into the files below `out` of which the first record fails. -/
theorem log_interferes_with_nothing_beside_output :
    let definition := "public class Order \x7b public int OrderId \x7b get; set; \x7d \x7d"
    let config : Config := ⟨"Acme", ⟨"out"⟩, none, false⟩
    let logged : Config := { config with log := some ⟨"run.jsonl"⟩ }
    let fails (_ : Path) (_ : Bytes) (s : Session) : Option Fault :=
      if s.warnings.isEmpty then some .notText else none
    let R := Session.SameOff [] ["run.jsonl"]
    let sink : Sink (StateT Sink.Memory (StateM Session)) := Sink.memory
    (Session.faulty fails).LogsUnseen ⟨"run.jsonl"⟩ R ∧
      (∀ e, Entity.parse definition = .ok e →
        sink.Indifferent R (root config e) (e.family config.solution)) ∧
      (∃ result calls mem' s s',
        into (Session.faulty fails) sink definition logged {} {} =
          ((result.map (Summary.logging (some ⟨"run.jsonl"⟩)), mem'), s) ∧
        into (Session.faulty fails) sink definition config {} {} = ((result, mem'), s') ∧
        into (Session.faulty fails) sink.traced definition logged [] {} {} =
          (((result.map (Summary.logging (some ⟨"run.jsonl"⟩)), calls), mem'), s) ∧
        into (Session.faulty fails) sink.traced definition config [] {} {} =
          (((result, calls), mem'), s') ∧
        R s s') ∧
      (∀ e, Entity.parse definition = .ok e →
        IsAside [] ⟨"run.jsonl"⟩ (root config e) (e.family config.solution)) ∧
      ∃ result calls s s',
        into (Session.faulty fails) (Sink.disk Session.host) definition logged {} =
          (result.map (Summary.logging (some ⟨"run.jsonl"⟩)), s) ∧
        into (Session.faulty fails) (Sink.disk Session.host) definition config {} = (result, s') ∧
        into (Session.faulty fails) (Sink.disk Session.host).traced definition logged [] {} =
          ((result.map (Summary.logging (some ⟨"run.jsonl"⟩)), calls), s) ∧
        into (Session.faulty fails) (Sink.disk Session.host).traced definition config [] {} =
          ((result, calls), s') ∧
        R s s' := by
  intro definition config logged fails R sink
  have hunseen : (Session.faulty fails).LogsUnseen ⟨"run.jsonl"⟩ R :=
    Session.logsUnseen fails ⟨"run.jsonl"⟩
  have hsink : ∀ e, Entity.parse definition = .ok e →
      sink.Indifferent R (root config e) (e.family config.solution) :=
    fun e _ => ⟨fun _ _ _ h => ⟨rfl, h⟩, fun _ _ _ _ _ h => ⟨rfl, h⟩⟩
  have haside : ∀ e, Entity.parse definition = .ok e →
      IsAside [] ⟨"run.jsonl"⟩ (root config e) (e.family config.solution) := by
    intro e he
    have hlog : FileSystem.resolve [] ⟨"run.jsonl"⟩ = ["run.jsonl"] := by decide +kernel
    constructor
    · -- The place of an artifact is further down.
      intro a ha heq
      have hname := Entity.isName_of_mem_family (Definition.isName_of_parse he) ha
      have hlength := congrArg List.length heq
      rw [hlog, Artifact.resolve_under [] _ hname] at hlength
      simp at hlength
    · have hread : Entity.parse definition = .ok ⟨"Order", [.of "OrderId" "int"]⟩ := by
        decide +kernel
      obtain rfl := Except.ok.inj (hread.symm.trans he)
      intro f
      cases f <;> decide +kernel
    · rw [hlog, FileSystem.start, ite_self]
      exact List.cons_ne_nil _ _
  exact ⟨hunseen, hsink, log_interferes_with_nothing.1 hunseen hsink {} {} {} (.refl _ {}), haside,
    log_interferes_with_nothing.2 fails {} definition config ⟨"run.jsonl"⟩ haside⟩

end Run

end Scaffold
