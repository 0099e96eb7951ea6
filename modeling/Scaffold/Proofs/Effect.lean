import Scaffold.Proofs.Deliveries
import Scaffold.Proofs.Directories
import Scaffold.Proofs.FamilyNames
import Scaffold.Proofs.Runs

/-!
# What a run does to the files

A run that succeeds without a log leaves exactly its artifacts behind, each under a path of its
own, and the directories on the way to their folders. Whatever else was there is there still, and
unchanged.

* `Effect`: this, said of a run from one session to another.
* `delivery_of_generate`, `generate_of_delivery`: a run that succeeds is a delivery without a
  failure. `generate_succeeds`: when a run succeeds.
* `generate_effect`: every run that succeeds has this effect.
-/

namespace Scaffold.Run

open Text (Bytes)

/-- The effect of a run that succeeds: what its summary says, and how the files differ. -/
structure Effect (definition : String) (config : Config) (s : Session) (summary : Summary)
    (s' : Session) : Prop where
  parsed : Entity.parse definition = .ok summary.entity
  settings : summary.config = config
  root : summary.root = config.output.join (summary.entity.serviceRoot config.solution)
  /-- The artifacts are written in the order of the family, each under its relative path. -/
  written : summary.written = (summary.entity.family config.solution).map fun a =>
    ⟨summary.root.join a.relativePath, a.content.utf8ByteSize⟩
  /-- No two paths are the same, however they are spelled. -/
  apart : (summary.written.map (·.path.components)).Nodup
  /-- Every artifact is there, and its file has the size that is reported. -/
  contents : ∀ a ∈ summary.entity.family config.solution,
    s'.files.read s.here (summary.root.join a.relativePath) = .ok (Text.encode a.content) ∧
    s'.files.get? (FileSystem.resolve s.here (summary.root.join a.relativePath)) =
      some (.file (Text.encode a.content)) ∧
    (Text.encode a.content).length = a.content.utf8ByteSize
  /-- The places on the way to the folders are directories. -/
  folders : ∀ f : Folder, ∀ l, FileSystem.OnTheWay s.here (f.under summary.root) l →
    s'.files.get? l = some .directory
  /-- Nothing is removed, and only the files of artifacts may have another content. -/
  kept : s.files.Keeps (fun l => ∃ w ∈ summary.written, l = FileSystem.resolve s.here w.path)
    s'.files
  /-- Where nothing was, there is an artifact, a directory on the way to a folder, or nothing. -/
  new : ∀ l, s.files.get? l = none →
    (∃ w ∈ summary.written, l = FileSystem.resolve s.here w.path) ∨
    (∃ f : Folder, FileSystem.OnTheWay s.here (f.under summary.root) l) ∨
    s'.files.get? l = none
  /-- Nothing but the files has changed. -/
  session : s' = { s with files := s'.files }

variable {definition : String} {config : Config} {s s' : Session} {summary : Summary}

/-! ### Runs without a log -/

theorem record_of_no_log (hlog : config.log = none) (started : Nat) (t : Operation × Status) :
    record Session.host config started t s = ((), s) := by
  obtain ⟨operation, status⟩ := t
  simp only [record, hlog]
  rfl

theorem recordAll_of_no_log (hlog : config.log = none) (started : Nat)
    (ts : List (Operation × Status)) :
    recordAll Session.host config started ts s = ((), s) := by
  induction ts with
  | nil => rfl
  | cons t ts ih =>
    have hfirst := record_of_no_log (s := s) hlog started t
    rw [recordAll]
    change recordAll Session.host config started ts
      (record Session.host config started t s).2 = _
    rw [hfirst, ih]

theorem begun_of_no_log (hlog : config.log = none) (entity : Entity) :
    begun config entity s = s := by
  rw [begun, record_of_no_log hlog]

theorem closed_of_no_log (hlog : config.log = none) (started : Nat) (report : WriteReport) :
    closed config started report s = s := by
  rw [closed, recordAll_of_no_log hlog]

/-- A run that succeeds without a log is a delivery without a failure. -/
theorem delivery_of_generate (hdry : config.dryRun = false) (hlog : config.log = none)
    (hrun : generate Session.host definition config s = (.ok summary, s')) :
    ∃ entity written, Entity.parse definition = .ok entity ∧
      summary = ⟨entity, config, root config entity, written⟩ ∧
      (Sink.disk Session.host).Delivery .machine (root config entity) s
        (entity.family config.solution) written none s' := by
  have hinto : Execution.machine.run
      (into Session.host (Sink.disk Session.host) definition config) s = (.ok summary, s') := by
    rw [generate, hdry] at hrun
    exact hrun
  cases hparse : Entity.parse definition with
  | error e =>
    have hfailed := (run_into_of_error .machine (Sink.disk Session.host) config s hparse).symm.trans
      hinto
    cases (Prod.mk.inj hfailed).1
  | ok entity =>
    obtain ⟨written, failure, s₂, hdelivery, heq⟩ := exists_delivery .machine
      (Sink.disk Session.host) config s hparse
    obtain ⟨hsummary, hs'⟩ := Prod.mk.inj (hinto.symm.trans heq)
    cases failure with
    | some e => cases hsummary
    | none =>
      cases hsummary
      obtain rfl : s' = s₂ := hs'.trans (closed_of_no_log hlog _ _)
      have hstart : Execution.machine.withSession s
          (begun config entity (Execution.machine.session s)) = s :=
        begun_of_no_log hlog entity
      exact ⟨entity, written, rfl, rfl, hstart ▸ hdelivery⟩

/-- An artifact can be written when its folder is there and its path has no fault. -/
theorem writable_under {fs : FileSystem} {here l : Location} {root : Path} {a : Artifact}
    (hname : Path.IsName a.fileName) (hshort : a.fileName.utf8ByteSize ≤ FileSystem.nameLimit)
    (hnul : '\x00' ∉ (a.folder.under root).text.toList) (hnul' : '\x00' ∉ a.fileName.toList)
    (hpath : (a.folder.under root).text.utf8ByteSize + 1 + a.fileName.utf8ByteSize ≤
      FileSystem.pathLimit)
    (hwalk : fs.walk (FileSystem.start here root) root.steps = .ok l)
    (hl : fs.get? l = some .directory)
    (hfolder : fs.get? (l ++ [a.folder.name]) = some .directory)
    (hfree : fs.get? (l ++ [a.folder.name] ++ [a.fileName]) ≠ some .directory) :
    fs.writable here (a.under root) = .ok (l ++ [a.folder.name] ++ [a.fileName]) := by
  have hcheck : FileSystem.checkPath (a.under root) = .ok () :=
    FileSystem.checkPath_join_name hname hnul hnul' hpath
  have hshort' : a.folder.name.utf8ByteSize ≤ FileSystem.nameLimit := by
    cases a.folder <;> decide
  refine FileSystem.writable_join_name hname hshort hcheck ?_ hfolder hfree
  refine FileSystem.walk_join_name a.folder.isName hshort' hwalk hl ?_
  rw [hfolder]
  rfl

/-- A run without a log succeeds when the artifacts of its entity can be delivered. -/
theorem generate_of_delivery {entity : Entity} {written : List Written}
    (hparse : Entity.parse definition = .ok entity) (hdry : config.dryRun = false)
    (hlog : config.log = none)
    (h : (Sink.disk Session.host).Delivery .machine (root config entity) s
      (entity.family config.solution) written none s') :
    generate Session.host definition config s =
      (.ok ⟨entity, config, root config entity, written⟩, s') := by
  obtain ⟨written', failure, s₂, hdelivery, hrun⟩ := exists_delivery .machine
    (Sink.disk Session.host) config s hparse
  have hstart : Execution.machine.withSession s
      (begun config entity (Execution.machine.session s)) = s :=
    begun_of_no_log hlog entity
  rw [hstart] at hdelivery
  obtain ⟨rfl, rfl, rfl⟩ := hdelivery.unique h
  rw [generate, hdry]
  exact hrun.trans (congrArg (Prod.mk _) (closed_of_no_log hlog _ _))

/-- A run without a log succeeds when its folders can be made and then every artifact can be
written. -/
theorem generate_succeeds {entity : Entity} (hparse : Entity.parse definition = .ok entity)
    (hdry : config.dryRun = false) (hlog : config.log = none)
    (hmade : Sink.makeFolders Session.host (root config entity) Folder.all s = (.ok (), s'))
    (hwritable : ∀ a ∈ entity.family config.solution,
      ∃ l, s'.files.writable s'.here (a.under (root config entity)) = .ok l) :
    ∃ summary s'', generate Session.host definition config s = (.ok summary, s'') := by
  obtain ⟨written, s₂, htakes⟩ := Sink.exists_takes (root config entity) hwritable
  exact ⟨_, s₂, generate_of_delivery hparse hdry hlog (.prepared hmade htakes)⟩

/-! ### The files after a delivery -/

/-- When folders have been made and artifacts at different places have been written to the files of
a session, the artifacts and the directories on the way to the folders are there, and nothing else
is new. -/
theorem files_of_delivery {root : Path} {artifacts : List Artifact} {written : List Written}
    (h : (Sink.disk Session.host).Delivery .machine root s artifacts written none s')
    (hapart : artifacts.Pairwise fun a b =>
      FileSystem.resolve s.here (a.under root) ≠ FileSystem.resolve s.here (b.under root)) :
    s' = { s with files := s'.files } ∧
      (∀ a ∈ artifacts, s'.files.Opens s.here (a.under root)
        (FileSystem.resolve s.here (a.under root)) (Text.encode a.content)) ∧
      (∀ f : Folder, s'.files.Reaches s.here (f.under root)) ∧
      ∀ l, s.files.get? l = none → Sink.Places artifacts root s.here l ∨
        (∃ f : Folder, FileSystem.OnTheWay s.here (f.under root) l) ∨ s'.files.get? l = none := by
  obtain ⟨s₁, hprepare, htakes⟩ := h.prepare
  obtain ⟨hgrows, hreaches⟩ := Session.folders_of_makeFolders hprepare
  have hkeeps := htakes.keeps (Sink.confined_disk root artifacts)
  obtain ⟨hsession, hopens, hsame⟩ := htakes.disk (hgrows.here ▸ hapart)
  rw [hgrows.here] at hreaches hopens hsame
  refine ⟨?_, hopens, ?_, ?_⟩
  · rw [hsession, hgrows.session]
  · intro f
    exact (hreaches f).of_keeps hkeeps.files
  · intro l hl
    by_cases hplace : Sink.Places artifacts root s.here l
    · exact Or.inl hplace
    · rcases hgrows.files l with hkept | ⟨_, _, f, hway⟩
      · exact Or.inr (Or.inr ((hsame l hplace).trans (hkept.trans hl)))
      · exact Or.inr (Or.inl ⟨f, hway⟩)

/-- **A run that succeeds leaves its artifacts behind and nothing else.** Without a log, and not
only tried out, it has exactly the effect that its summary reports, whatever was there before. -/
theorem generate_effect (definition : String) (config : Config) (s s' : Session)
    (summary : Summary) (hdry : config.dryRun = false) (hlog : config.log = none)
    (hrun : generate Session.host definition config s = (.ok summary, s')) :
    Effect definition config s summary s' := by
  obtain ⟨entity, written, hparse, rfl, hdelivery⟩ := delivery_of_generate hdry hlog hrun
  have he := Definition.isName_of_parse hparse
  have hroot : (root config entity).text ≠ "" :=
    Entity.text_join_serviceRoot he config.output config.solution
  -- The path under which an artifact is kept is the one that its relative path gives.
  have hpath : ∀ a ∈ entity.family config.solution,
      (root config entity).join a.relativePath = a.under (root config entity) := by
    intro a ha
    exact (Artifact.under_eq_join hroot (Entity.isName_of_mem_family he ha)).symm
  have hwritten : written = Sink.listing (root config entity) (entity.family config.solution) :=
    hdelivery.written_eq Sink.faithful_disk (List.cons_ne_nil _ _)
  have hsites : ∀ l, Sink.Places (entity.family config.solution) (root config entity) s.here l ↔
      ∃ w ∈ written, l = FileSystem.resolve s.here w.path := by
    intro l
    rw [hwritten]
    simp [Sink.Places, Sink.listing]
  have hkeeps := hdelivery.keeps (Sink.confined_disk _ _)
  obtain ⟨hsession, hopens, hfolders, hnew⟩ := files_of_delivery hdelivery
    (Entity.places_apart he s.here (root config entity))
  constructor
  case parsed => exact hparse
  case settings => rfl
  case root => rfl
  case written =>
    refine hwritten.trans (List.map_congr_left fun a ha => ?_)
    exact congrArg (Written.mk · a.content.utf8ByteSize) (hpath a ha).symm
  case apart =>
    have hapart := Entity.components_under_nodup he config.solution (root config entity)
    rw [hwritten, Sink.listing, List.map_map]
    exact hapart
  case contents =>
    intro a ha
    have hopen := hopens a ha
    simp only [hpath a ha]
    exact ⟨hopen.read, hopen.file, Text.length_encode a.content⟩
  case folders => exact hfolders
  case kept => exact hkeeps.files.mono fun l hl => (hsites l).mp hl
  case new =>
    intro l hl
    rcases hnew l hl with hplace | hrest
    · exact Or.inl ((hsites l).mp hplace)
    · exact Or.inr hrest
  case session => exact hsession

/-- A run over the remains of an older one: a folder and a file in it, which is replaced. -/
theorem generate_effect_over_remains :
    let definition := "public class Order \x7b public int OrderId \x7b get; set; \x7d \x7d"
    let config : Config := ⟨"Acme", ⟨"out"⟩, none, false⟩
    let service : Location := ["out", "Acme.Shared", "Services", "Order"]
    let remains : List (Location × Entry) :=
      [(service ++ ["DTOs", "OrderDTO.cs"], .file [0x3f]), (service ++ ["DTOs"], .directory),
        (service, .directory), (service.take 3, .directory), (service.take 2, .directory),
        (service.take 1, .directory)]
    let s : Session := { files := ⟨remains⟩ }
    ∃ summary s', generate Session.host definition config s = (.ok summary, s') ∧
      Effect definition config s summary s' := by
  intro definition config service remains s
  let order : Entity := ⟨"Order", [.of "OrderId" "int"]⟩
  let below : Path := ⟨"out/Acme.Shared/Services/Order"⟩
  have hparse : Entity.parse definition = .ok order := by decide +kernel
  have hroot : root config order = below := by decide +kernel
  -- Four of the folders are made.
  let files : FileSystem :=
    ⟨(service ++ ["Handlers"], .directory) :: (service ++ ["Validators"], .directory) ::
      (service ++ ["Queries"], .directory) :: (service ++ ["Commands"], .directory) :: remains⟩
  cases hmade : Sink.makeFolders Session.host (root config order) Folder.all s with
  | mk result s₁ =>
  have hevaluated : ((Sink.makeFolders Session.host below Folder.all s).1,
      (Sink.makeFolders Session.host below Folder.all s).2.files.entries) =
        (.ok (), files.entries) := by
    decide +kernel
  rw [← hroot, hmade] at hevaluated
  obtain ⟨rfl, hentries⟩ := Prod.mk.inj hevaluated
  have hfiles : s₁.files = files := congrArg FileSystem.mk hentries
  have hhere : s₁.here = [] := (Session.folders_of_makeFolders hmade).1.here
  -- Then every artifact can be written.
  have hwalk : files.walk (FileSystem.start [] below) below.steps = .ok service := by
    decide +kernel
  have hservice : files.get? service = some .directory := by decide +kernel
  have hfolders : ∀ f : Folder, files.get? (service ++ [f.name]) = some .directory ∧
      '\x00' ∉ (f.under below).text.toList ∧ (f.under below).text.utf8ByteSize ≤ 100 := by
    intro f
    cases f <;> decide +kernel
  have hnames : ∀ a ∈ order.family "Acme",
      files.get? (service ++ [a.folder.name] ++ [a.fileName]) ≠ some .directory ∧
        '\x00' ∉ a.fileName.toList ∧ a.fileName.utf8ByteSize ≤ 100 := by
    decide +kernel
  have hwritable : ∀ a ∈ order.family "Acme",
      ∃ l, s₁.files.writable s₁.here (a.under (root config order)) = .ok l := by
    intro a ha
    rw [hfiles, hhere, hroot]
    have hname := Entity.isName_of_mem_family (Definition.isName_of_parse hparse) ha
    obtain ⟨hfree, hnul, hshort⟩ := hnames a ha
    obtain ⟨hfolder, hnul', hshort'⟩ := hfolders a.folder
    have hpath : (a.folder.under below).text.utf8ByteSize + 1 + a.fileName.utf8ByteSize ≤
        FileSystem.pathLimit := by
      rw [FileSystem.pathLimit]
      omega
    have hlimit : a.fileName.utf8ByteSize ≤ FileSystem.nameLimit :=
      hshort.trans (by decide)
    exact ⟨_, writable_under hname hlimit hnul' hnul hpath hwalk hservice hfolder hfree⟩
  obtain ⟨summary, s', hrun⟩ := generate_succeeds hparse rfl rfl hmade hwritable
  exact ⟨summary, s', hrun, generate_effect definition config s s' summary rfl rfl hrun⟩

end Scaffold.Run
