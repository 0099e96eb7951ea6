import Scaffold.Proofs.Asking
import Scaffold.Proofs.DryRun
import Scaffold.Proofs.Effect

/-!
# After a failure

How much a run that fails has changed depends on how far it has got. While it collects what it
needs it has not touched the files. A definition that cannot be read leaves at most a line in the
log. Once artifacts are written, those before the failure are there completely, and where the later
ones would go there is what was there before; only if the service root leads through such a place
and back may a directory have been made there.

* `record_files`: recording appends one line to the log, or does nothing to the files.
* `Delivery.files_of_failure`: the files after a delivery that fails.
* `Aftermath`, `aftermath_of_failure`: what every run that fails leaves behind.
* `generate_blocked`, `directory_in_place_of_artifact`: a directory that is made where an artifact
  would go.
-/

namespace Scaffold

open Text (Bytes)

namespace Sink

/-! ### A delivery that fails -/

variable {root : Path} {s s' : Session} {artifacts : List Artifact} {written : List Written}
  {e : WriteError}

/-- When a delivery to the files of a session fails, the artifacts before the failure are there,
and nothing else has changed but for new directories on the way to the folders. -/
theorem Delivery.files_of_failure
    (h : (disk Session.host).Delivery .machine root s artifacts written (some e) s')
    (hne : artifacts ≠ [])
    (hapart : artifacts.Pairwise fun a b =>
      FileSystem.resolve s.here (a.under root) ≠ FileSystem.resolve s.here (b.under root)) :
    ∃ taken rest, artifacts = taken ++ rest ∧ rest ≠ [] ∧ s' = { s with files := s'.files } ∧
      (∀ a ∈ taken, s'.files.Opens s.here (a.under root)
        (FileSystem.resolve s.here (a.under root)) (Text.encode a.content)) ∧
      ∀ l, ¬ Places taken root s.here l → s'.files.get? l = s.files.get? l ∨
        s.files.get? l = none ∧ s'.files.get? l = some .directory ∧
          ∃ f : Folder, FileSystem.OnTheWay s.here (f.under root) l := by
  rcases h.steps with ⟨e', hprepare, _⟩ | ⟨s₁, hprepare, htakes⟩
  · have hgrows := Session.grows_of_makeFolders hprepare
    exact ⟨[], artifacts, rfl, hne, hgrows.session, List.forall_mem_nil _, fun l _ => hgrows.files l⟩
  · have hgrows := Session.grows_of_makeFolders hprepare
    obtain ⟨taken, rest, hparts, hrest, hsession, hopens, hsame⟩ := htakes.files (hgrows.here ▸ hapart)
    rw [hgrows.here] at hopens hsame
    have hleft : rest ≠ [] := by
      intro hnil
      cases hrest.mpr hnil
    refine ⟨taken, rest, hparts, hleft, ?_, hopens, fun l hl => ?_⟩
    · rw [hsession, hgrows.session]
    · rw [hsame l hl]
      exact hgrows.files l

end Sink

namespace Run

variable {overrides : Overrides} {config : Config} {definition : String} {s s' : Session}

/-! ### Recording -/

/-- Only the file that the path of the log leads to is not kept. -/
theorem Recorded.keeps (h : Recorded config s s') :
    s.files.Keeps (fun l => ∃ log, config.log = some log ∧ l = FileSystem.resolve s.here log)
      s'.files := by
  intro l entry hl hfree
  rcases h.files l with hsame | ⟨hfile, hlog⟩
  · rw [hsame, hl]
  · rcases hfree with rfl | hfree
    · exact absurd hl hfile
    · exact absurd hlog hfree

/-- Off the log nothing changes. -/
theorem Recorded.get?_eq (h : Recorded config s s') {l : Location}
    (hl : ∀ log, config.log = some log → l ≠ FileSystem.resolve s.here log) :
    s'.files.get? l = s.files.get? l := by
  rcases h.files l with hsame | ⟨_, log, hlog, hplace⟩
  · exact hsame
  · exact absurd hplace (hl log hlog)

/-- An operation that is recorded is one line at the end of the log; if the log cannot be written
to, or there is none, the files are as before. -/
theorem record_files (config : Config) (started : Nat) (t : Operation × Status) (s : Session) :
    (record Session.host config started t s).2.files = s.files ∨
      ∃ log l entry, config.log = some log ∧ s.files.writable s.here log = .ok l ∧
        LogEntry.said entry = t ∧ Text.splitLines (Text.encode entry.line) = [Text.encode entry.line] ∧
        (record Session.host config started t s).2.files =
          s.files.put l (.file (s.files.contentAt l ++ Text.encode entry.line)) := by
  cases hlog : config.log with
  | none =>
    obtain ⟨operation, status⟩ := t
    simp only [record, hlog]
    exact Or.inl rfl
  | some log =>
    cases hwritable : s.files.writable s.here log with
    | error fault =>
      refine Or.inl ?_
      obtain ⟨operation, status⟩ := t
      have hadd : ∀ entry, Log.add Session.host log entry s = (.error fault, s) := by
        intro entry
        change s.settle (s.files.append s.here log (Text.encode entry.line)) = _
        rw [FileSystem.append, hwritable]
        rfl
      simp only [record, hlog]
      rw [Session.run_bind, Session.run_bind, Session.run_bind]
      generalize hresult : Log.add Session.host log _ _ = result
      have herror : result = (.error fault, s) := hresult.symm.trans (hadd _)
      rw [herror]
      rfl
    | ok l =>
      obtain ⟨entry, hsaid, _, hrecord⟩ := record_run hlog hwritable started t
      have hline : LogEntry.lines [entry] = Text.encode entry.line := List.flatMap_singleton ..
      have hlines : Text.splitLines (LogEntry.lines [entry]) = [Text.encode entry.line] :=
        LogEntry.splitLines_entries [entry]
      rw [hline] at hlines hrecord
      refine Or.inr ⟨log, l, entry, rfl, hwritable, hsaid, hlines, ?_⟩
      rw [hrecord]
      rfl

/-! ### How a run fails -/

/-- With its settings a run fails to read the definition, or it fails in the delivery. -/
theorem generate_failed {error : RunError}
    (h : generate Session.host definition config s = (.error error, s')) :
    (∃ e, Entity.parse definition = .error e ∧ error = .parse e ∧
      s' = (record Session.host config s.uptime (.parseFailed e.message, .failed) s).2) ∨
    ∃ entity written e s₁, Entity.parse definition = .ok entity ∧ error = .write e ∧
      (Sink.disk Session.host).Delivery .machine (root config entity) (begun config entity s)
        (entity.family config.solution) written (some e) s₁ ∧
      s' = closed config s.uptime ⟨written, some e⟩ s₁ := by
  cases hparse : Entity.parse definition with
  | error e =>
    cases (generate_of_error s hparse).symm.trans h
    exact Or.inl ⟨e, rfl, rfl, rfl⟩
  | ok entity =>
    by_cases hdry : config.dryRun = true
    · obtain ⟨_, htried, _⟩ := generate_dry_of_ok config hdry s hparse
      cases htried.symm.trans h
    · obtain ⟨written, failure, s₁, hdelivery, hrun⟩ := exists_delivery .machine
        (Sink.disk Session.host) config s hparse
      rw [generate, if_neg hdry] at h
      have hsame := hrun.symm.trans h
      cases failure with
      | none => cases (Prod.mk.inj hsame).1
      | some e =>
        obtain ⟨herror, rfl⟩ := Prod.mk.inj hsame
        cases herror
        exact Or.inr ⟨entity, written, e, s₁, rfl, rfl, hdelivery, rfl⟩

/-! ### What is left -/

/-- The run gets as far as to generate the family of an entity. -/
def Generates (overrides : Overrides) (s : Session) (config : Config) (entity : Entity) : Prop :=
  ∃ definition s₁, collect Session.host overrides s = (.ok (definition, config), s₁) ∧
    Entity.parse definition = .ok entity

/-- No artifact of the run goes where its log is. -/
def LogAside (overrides : Overrides) (s : Session) : Prop :=
  ∀ config entity, Generates overrides s config entity → ∀ log, givenLog overrides = some log →
    ∀ a ∈ entity.family config.solution,
      FileSystem.resolve s.here (a.under (root config entity)) ≠ FileSystem.resolve s.here log

/-- What a run that fails has done to the files, by its error. -/
def Aftermath (overrides : Overrides) (s s' : Session) : RunError → Prop
  | .input _ | .terminal _ | .outputPath _ => s'.files = s.files
  | .parse e => s'.files = s.files ∨
      ∃ log l entry, givenLog overrides = some log ∧ s.files.writable s.here log = .ok l ∧
        LogEntry.said entry = (.parseFailed e.message, .failed) ∧
        Text.splitLines (Text.encode entry.line) = [Text.encode entry.line] ∧
        s'.files = s.files.put l (.file (s.files.contentAt l ++ Text.encode entry.line))
  | .write _ => ∃ config entity k, Generates overrides s config entity ∧ k < 14 ∧
      (∀ a ∈ (entity.family config.solution).take k,
        s'.files.read s.here (a.under (root config entity)) = .ok (Text.encode a.content)) ∧
      ∀ a ∈ (entity.family config.solution).drop k, ∀ l,
        l = FileSystem.resolve s.here (a.under (root config entity)) →
        s'.files.get? l = s.files.get? l ∨
          s.files.get? l = none ∧ s'.files.get? l = some .directory ∧
            ".." ∈ (root config entity).steps ∧
            ∃ f : Folder, FileSystem.OnTheWay s.here (f.under (root config entity)) l

/-- A failed delivery between what is recorded leaves the first artifacts and the places of the
others alone. -/
theorem aftermath_of_delivery {entity : Entity} {written : List Written} {e : WriteError}
    {s₁ : Session} (hentity : Path.IsName entity.name)
    (hlog : ∀ log, config.log = some log → ∀ a ∈ entity.family config.solution,
      FileSystem.resolve s.here (a.under (root config entity)) ≠ FileSystem.resolve s.here log)
    (h : (Sink.disk Session.host).Delivery .machine (root config entity) (begun config entity s)
      (entity.family config.solution) written (some e) s₁) :
    ∃ k < 14,
      (∀ a ∈ (entity.family config.solution).take k,
        (closed config s.uptime ⟨written, some e⟩ s₁).files.read s.here
          (a.under (root config entity)) = .ok (Text.encode a.content)) ∧
      ∀ a ∈ (entity.family config.solution).drop k, ∀ l,
        l = FileSystem.resolve s.here (a.under (root config entity)) →
        (closed config s.uptime ⟨written, some e⟩ s₁).files.get? l = s.files.get? l ∨
          s.files.get? l = none ∧
            (closed config s.uptime ⟨written, some e⟩ s₁).files.get? l = some .directory ∧
            ".." ∈ (root config entity).steps ∧
            ∃ f : Folder, FileSystem.OnTheWay s.here (f.under (root config entity)) l := by
  have hbegun : Recorded config s (begun config entity s) := respects_record config _ _ s
  have hclosed : Recorded config s₁ (closed config s.uptime ⟨written, some e⟩ s₁) :=
    respects_recordAll config _ _ s₁
  have hplaces : (entity.family config.solution).Pairwise fun a b =>
      FileSystem.resolve s.here (a.under (root config entity)) ≠
        FileSystem.resolve s.here (b.under (root config entity)) :=
    Entity.places_apart hentity s.here (root config entity)
  obtain ⟨taken, rest, hparts, hrest, hsession, hopens, hothers⟩ :=
    h.files_of_failure (List.cons_ne_nil _ _) (hbegun.here ▸ hplaces)
  rw [hbegun.here] at hopens hothers
  have hhere : s₁.here = s.here := by
    rw [hsession]
    exact hbegun.here
  have hlength := congrArg List.length hparts
  rw [Entity.family_length, List.length_append] at hlength
  have hpositive := List.length_pos_iff.mpr hrest
  refine ⟨taken.length, by omega, ?_, ?_⟩
  · rw [hparts, List.take_left]
    intro a ha
    refine ((hopens a ha).of_keeps (hhere ▸ hclosed.keeps) ?_).read
    rintro ⟨log, hlog', hplace⟩
    exact hlog log hlog' a (hparts ▸ List.mem_append_left rest ha) hplace
  · rw [hparts, List.drop_left]
    rintro a ha l rfl
    have hmem : a ∈ entity.family config.solution := hparts ▸ List.mem_append_right taken ha
    have hoff := fun log hlog' => hlog log hlog' a hmem
    have hlater : ¬ Sink.Places taken (root config entity) s.here
        (FileSystem.resolve s.here (a.under (root config entity))) := by
      rintro ⟨b, hb, hplace⟩
      rw [hparts] at hplaces
      exact (List.pairwise_append.mp hplaces).2.2 b hb a ha hplace.symm
    rw [hclosed.get?_eq (hhere ▸ hoff), ← hbegun.get?_eq hoff]
    refine (hothers _ hlater).imp_right fun ⟨hnone, hnew, f, hway⟩ => ⟨hnone, hnew, ?_, f, hway⟩
    by_contra hback
    exact FileSystem.not_onTheWay_of_no_parent (Entity.isName_of_mem_family hentity hmem) hback hway

/-- Where the way to the first folder leads through the place of an artifact, a run without a log
fails and leaves a directory there. -/
theorem generate_blocked {entity : Entity} {a : Artifact} {u : Unit}
    (hparse : Entity.parse definition = .ok entity) (hdry : config.dryRun = false)
    (hlog : config.log = none) (ha : a ∈ entity.family config.solution)
    (hmade : (Session.host.makeDirectories (Folder.commands.under (root config entity)) s).1 = .ok u)
    (hway : FileSystem.OnTheWay s.here (Folder.commands.under (root config entity))
      (FileSystem.resolve s.here (a.under (root config entity)))) :
    ∃ e s', generate Session.host definition config s = (.error (.write e), s') ∧
      s'.files.get? (FileSystem.resolve s.here (a.under (root config entity))) =
        some .directory := by
  have he := Definition.isName_of_parse hparse
  obtain ⟨written, failure, s₁, hdelivery, hrun⟩ := exists_delivery .machine
    (Sink.disk Session.host) config s hparse
  change (Sink.disk Session.host).Delivery .machine (root config entity) (begun config entity s)
    (entity.family config.solution) written failure s₁ at hdelivery
  rw [begun_of_no_log hlog] at hdelivery
  have hblocked : s₁.files.get? (FileSystem.resolve s.here (a.under (root config entity))) =
      some .directory := by
    rcases hdelivery.steps with ⟨_, hprepare, _⟩ | ⟨s₂, hprepare, htakes⟩
    · exact Session.reaches_first_of_makeFolders hprepare hmade _ hway
    · have hreaches := Session.reaches_first_of_makeFolders hprepare hmade
      exact (htakes.keeps (Sink.confined_disk _ _)).files.directory _ (hreaches _ hway)
  have hfailed : ∃ e, failure = some e := by
    cases failure with
    | some e => exact ⟨e, rfl⟩
    | none =>
      obtain ⟨_, hopens, _⟩ := files_of_delivery hdelivery
        (Entity.places_apart he s.here (root config entity))
      have hfile := (hopens a ha).file
      rw [hblocked] at hfile
      cases hfile
  obtain ⟨e, rfl⟩ := hfailed
  refine ⟨e, s₁, ?_, hblocked⟩
  have hinto : generate Session.host definition config s =
      Execution.machine.run (into Session.host (Sink.disk Session.host) definition config) s := by
    rw [generate, hdry]
    rfl
  rw [hinto, hrun]
  exact congrArg _ (closed_of_no_log hlog _ _)

/-- **A run that fails leaves everything as it was, up to the point that it has reached.** If it
fails before it generates anything, the files are the same; a definition that cannot be read is at
most one more line in the log; and a failed write stops after some of the artifacts, each of which
is there completely, with the places of the others as they were. Only a directory may be new there,
if the service root leads through it and back. -/
theorem aftermath_of_failure (overrides : Overrides) (s s' : Session) (error : RunError)
    (hlog : LogAside overrides s)
    (hrun : interactive Session.host overrides s = (.error error, s')) :
    Aftermath overrides s s' error := by
  rw [interactive_run] at hrun
  have hterminal := atTerminal_collect overrides s
  have hcollected := collect_isCollected overrides s
  cases hcollect : collect Session.host overrides s with
  | mk result s₁ =>
  rw [hcollect] at hrun hterminal hcollected
  change s₁ = _ at hterminal
  have hfiles : s₁.files = s.files := by rw [hterminal]
  have hhere : s₁.here = s.here := by rw [hterminal]
  cases result with
  | error e =>
    cases hrun
    cases error with
    | input fault => exact hfiles
    | terminal fault => exact hfiles
    | outputPath fault => exact hfiles
    | parse e => exact hcollected.elim
    | write e => exact hcollected.elim
  | ok settled =>
    obtain ⟨definition, config⟩ := settled
    obtain ⟨hgiven, -⟩ := hcollected
    rcases generate_failed hrun with ⟨e, hparse, rfl, rfl⟩ |
      ⟨entity, written, e, s₂, hparse, rfl, hdelivery, rfl⟩
    · have hrecord := record_files config s₁.uptime (.parseFailed e.message, .failed) s₁
      rw [hgiven, hfiles, hhere] at hrecord
      exact hrecord
    · have hgenerates : Generates overrides s config entity := ⟨definition, s₁, hcollect, hparse⟩
      obtain ⟨k, hk, hfirst, hlater⟩ := aftermath_of_delivery (Definition.isName_of_parse hparse)
        (fun log hlog' => hhere ▸ hlog config entity hgenerates log (hgiven ▸ hlog')) hdelivery
      rw [hhere] at hfirst hlater
      rw [hfiles] at hlater
      exact ⟨config, entity, k, hgenerates, hk, hfirst, hlater⟩

/-- A run that is to write below a file, with a log. -/
theorem aftermath_below_a_file :
    let overrides : Overrides := ⟨"S", "n.cs", "n.cs", "run.jsonl", false⟩
    let s : Session := { files := ⟨[(["n.cs"], .file (Text.encode "public class N \x7b \x7d"))]⟩ }
    let error := RunError.write ⟨⟨"n.cs/S.Shared/Services/N/Commands"⟩, .notADirectory⟩
    ∃ s', LogAside overrides s ∧ interactive Session.host overrides s = (.error error, s') ∧
      Aftermath overrides s s' error := by
  intro overrides s error
  have herror : (interactive Session.host overrides s).1 = .error error := by decide +kernel
  have hlog : LogAside overrides s := by
    rintro config entity ⟨definition, s₁, _, hparse⟩ log hgiven
    obtain rfl : log = ⟨"run.jsonl"⟩ := by
      have hrun : givenLog overrides = some ⟨"run.jsonl"⟩ := by decide +kernel
      exact Option.some.inj (hgiven.symm.trans hrun)
    have hplace : FileSystem.resolve s.here ⟨"run.jsonl"⟩ = ["run.jsonl"] := by decide +kernel
    rw [hplace]
    refine resolve_under_ne_of_extension hparse ?_ s.here (root config entity)
    intro title htitle
    have hend := congrArg (fun name : String => name.toList.getLast?) (Option.some.inj htitle)
    simp [Artifact.extension] at hend
  have hrun : interactive Session.host overrides s =
      (.error error, (interactive Session.host overrides s).2) := Prod.ext herror rfl
  exact ⟨_, hlog, hrun, aftermath_of_failure overrides s _ error hlog hrun⟩

/-- An output path may lead through the place of an artifact and back. The directory that is made
there is what stops the run, after five artifacts, and where this one would go nothing was
before. -/
theorem directory_in_place_of_artifact :
    let overrides : Overrides :=
      ⟨"S", "n.cs", "S.Shared/Services/N/DTOs/NDTO.cs/../../../../..", "", false⟩
    let s : Session := { files := ⟨[(["n.cs"], .file (Text.encode "public class N \x7b \x7d"))]⟩ }
    givenLog overrides = none ∧ ∃ e s' config entity,
      interactive Session.host overrides s = (.error (.write e), s') ∧
      Generates overrides s config entity ∧
      ¬ ∃ k < 14,
        (∀ a ∈ (entity.family config.solution).take k,
          s'.files.read s.here (a.under (root config entity)) = .ok (Text.encode a.content)) ∧
        ∀ a ∈ (entity.family config.solution).drop k,
          s'.files.get? (FileSystem.resolve s.here (a.under (root config entity))) =
            s.files.get? (FileSystem.resolve s.here (a.under (root config entity))) := by
  intro overrides s
  let n : Entity := ⟨"N", []⟩
  let config : Config := ⟨"S", ⟨"S.Shared/Services/N/DTOs/NDTO.cs/../../../../.."⟩, none, false⟩
  let above : Path := ⟨"S.Shared/Services/N/DTOs/NDTO.cs/../../../../../S.Shared/Services/N"⟩
  let place : Location := ["S.Shared", "Services", "N", "DTOs", "NDTO.cs"]
  let dto : Artifact := Draft.artifact ⟨.dtos, n.dtoName, n.dtoFile config.solution⟩
  have hparse : Entity.parse "public class N \x7b \x7d" = .ok n := by decide +kernel
  have hroot : root config n = above := by decide +kernel
  have hsteps : above.steps = place ++ ["..", "..", "..", "..", ".."] ++ place.take 3 := by
    decide +kernel
  have hcollect : (collect Session.host overrides s).1 =
      .ok ("public class N \x7b \x7d", config) := by
    decide +kernel
  have hmade : (Session.host.makeDirectories (Folder.commands.under (root config n)) s).1 =
      .ok () := by
    rw [hroot]
    decide +kernel
  have hmem : dto ∈ n.family config.solution := by
    simp [Entity.family, Entity.drafts, dto]
  have hstart : ∀ p, FileSystem.start s.here p = [] := fun _ => ite_self _
  have hplace : FileSystem.resolve s.here (dto.under (root config n)) = place := by
    have hname := Entity.isName_of_mem_family (Definition.isName_of_parse hparse) hmem
    rw [Artifact.resolve_under _ _ hname, hroot, FileSystem.resolve, hsteps, hstart above]
    rfl
  have hway : FileSystem.OnTheWay s.here (Folder.commands.under (root config n))
      (FileSystem.resolve s.here (dto.under (root config n))) := by
    refine ⟨place, ⟨["..", "..", "..", "..", ".."] ++ place.take 3 ++ ["Commands"], ?_⟩, ?_⟩
    · rw [hroot, Folder.under, Folder.commands.isName.isPiece.steps_join, hsteps]
      rfl
    · rw [hplace, hstart]
      rfl
  have hsession : (collect Session.host overrides s).2 = s := by
    have hterminal : (collect Session.host overrides s).2.terminal = s.terminal := by
      decide +kernel
    rw [atTerminal_collect overrides s, hterminal]
  have hsettled : collect Session.host overrides s =
      (.ok ("public class N \x7b \x7d", config), s) := Prod.ext hcollect hsession
  have hgenerate := generate_blocked (s := s) hparse rfl rfl hmem hmade hway
  obtain ⟨e, s', hrun, hdirectory⟩ := hgenerate
  refine ⟨by decide +kernel, e, s', config, n, ?_, ⟨_, s, hsettled, hparse⟩, ?_⟩
  · rw [interactive_run, hsettled]
    exact hrun
  · rintro ⟨k, _, hfirst, hlater⟩
    rw [← List.take_append_drop k (n.family config.solution)] at hmem
    rcases List.mem_append.mp hmem with hmem | hmem
    · have hfile := FileSystem.get?_of_read (hfirst dto hmem)
      rw [hdirectory] at hfile
      cases hfile
    · have hsame := hlater dto hmem
      rw [hdirectory, hplace] at hsame
      have hnone : s.files.get? place = none := by decide +kernel
      rw [hnone] at hsame
      cases hsame

end Run

end Scaffold
