import Scaffold.Proofs.Effect
import Scaffold.Proofs.Remaking

/-!
# One run after another

What a run without a log leaves behind depends on what was there before only where it writes
nothing, and where it writes depends on the settings and on the name of the entity. So a run
replaces everything that an earlier run for an entity of the same name has left, and runs for
entities of different names can be made in either order.

* `Laid`: what stands where after a delivery without a failure.
* `Laid.replaces`, `Laid.commutes`: two deliveries to the same places, and to places apart.
* `exists_delivery_after`: neither delivery stands in the way of the other.
* `ways_clear`: places of artifacts and ways to folders are never the same.
* `runs_independent`: any two runs that succeed by themselves succeed one after the other.
-/

namespace Scaffold

/-- Nothing that can be told from the outside differs between two sessions: at every location the
same stands, and all that is not a file is equal. -/
structure Session.Same (s s' : Session) : Prop where
  session : s' = { s with files := s'.files }
  files : ∀ l, s'.files.get? l = s.files.get? l

namespace Sink

variable {root root₁ root₂ : Path} {artifacts artifacts₁ artifacts₂ : List Artifact}
  {written written₁ written₂ : List Written} {s s' u s₁ s₂ s₁₂ s₂₁ : Session}

/-! ### What stands where -/

/-- The places on the way to the folders below a root. -/
def Ways (root : Path) (here l : Location) : Prop :=
  ∃ f : Folder, FileSystem.OnTheWay here (f.under root) l

/-- The files once artifacts have been delivered below a root: the artifacts in their places,
directories on the way to the folders, and elsewhere what was there before. -/
structure Laid (root : Path) (artifacts : List Artifact) (s s' : Session) : Prop where
  session : s' = { s with files := s'.files }
  artifact : ∀ a ∈ artifacts, s'.files.get? (FileSystem.resolve s.here (a.under root)) =
    some (.file (Text.encode a.content))
  directory : ∀ l, Ways root s.here l → s'.files.get? l = some .directory
  elsewhere : ∀ l, ¬ Places artifacts root s.here l → ¬ Ways root s.here l →
    s'.files.get? l = s.files.get? l
  /-- No directory is taken away. -/
  kept : ∀ l, s.files.get? l = some .directory → s'.files.get? l = some .directory

namespace Laid

theorem here (h : Laid root artifacts s s') : s'.here = s.here := by
  rw [h.session]

/-- In the place of an artifact there is a file. -/
theorem exists_file {l : Location} (h : Laid root artifacts s s')
    (hl : Places artifacts root s.here l) : ∃ content, s'.files.get? l = some (.file content) := by
  obtain ⟨a, ha, rfl⟩ := hl
  exact ⟨_, h.artifact a ha⟩

/-- So no artifact is on the way to a folder of its own root. -/
theorem not_ways (h : Laid root artifacts s s') {l : Location}
    (hl : Places artifacts root s.here l) : ¬ Ways root s.here l := by
  intro hway
  obtain ⟨content, hfile⟩ := h.exists_file hl
  rw [h.directory l hway] at hfile
  cases hfile

end Laid

theorem laid_of_delivery
    (h : (disk Session.host).Delivery .machine root s artifacts written none s')
    (hapart : artifacts.Pairwise fun a b =>
      FileSystem.resolve s.here (a.under root) ≠ FileSystem.resolve s.here (b.under root)) :
    Laid root artifacts s s' := by
  obtain ⟨hsession, hopens, hfolders, hnew⟩ := Run.files_of_delivery h hapart
  have hkeeps := h.keeps (confined_disk root artifacts)
  constructor
  case session => exact hsession
  case artifact => exact fun a ha => (hopens a ha).file
  case directory =>
    rintro l ⟨f, hway⟩
    exact hfolders f l hway
  case elsewhere =>
    intro l hplace hway
    cases hl : s.files.get? l with
    | none => exact ((hnew l hl).resolve_left hplace).resolve_left hway
    | some e => exact hkeeps.files l e hl (Or.inr hplace)
  case kept => exact hkeeps.files.directory

/-! ### Two deliveries -/

/-- Of two deliveries to the same places nothing is left of the first. -/
theorem Laid.replaces (h₁ : Laid root artifacts₁ s s₁) (h₂ : Laid root artifacts₂ s s₂)
    (h₁₂ : Laid root artifacts₂ s₁ s₁₂)
    (hplaces : ∀ l, Places artifacts₁ root s.here l ↔ Places artifacts₂ root s.here l) :
    s₂.Same s₁₂ := by
  constructor
  · rw [h₁₂.session, h₁.session, h₂.session]
  · intro l
    by_cases hplace : Places artifacts₂ root s.here l
    · obtain ⟨a, ha, rfl⟩ := hplace
      rw [h₂.artifact a ha, ← h₁.here, h₁₂.artifact a ha]
    by_cases hway : Ways root s.here l
    · rw [h₂.directory l hway, h₁₂.directory l (h₁.here ▸ hway)]
    rw [h₂.elsewhere l hplace hway, h₁₂.elsewhere l (h₁.here ▸ hplace) (h₁.here ▸ hway),
      h₁.elsewhere l (mt (hplaces l).mp hplace) hway]

/-- Two deliveries to places apart, each off the ways of the other, can be made in either order. -/
theorem Laid.commutes (h₁ : Laid root₁ artifacts₁ s s₁) (h₂ : Laid root₂ artifacts₂ s s₂)
    (h₁₂ : Laid root₂ artifacts₂ s₁ s₁₂) (h₂₁ : Laid root₁ artifacts₁ s₂ s₂₁)
    (hplaces : ∀ l, Places artifacts₁ root₁ s.here l → ¬ Places artifacts₂ root₂ s.here l)
    (hways₁ : ∀ l, Places artifacts₁ root₁ s.here l → ¬ Ways root₂ s.here l)
    (hways₂ : ∀ l, Places artifacts₂ root₂ s.here l → ¬ Ways root₁ s.here l) :
    s₁₂.Same s₂₁ := by
  constructor
  · rw [h₂₁.session, h₂.session, h₁₂.session, h₁.session]
  · intro l
    by_cases hplace₁ : Places artifacts₁ root₁ s.here l
    · -- The second delivery leaves it as the first one has made it.
      have hsame := h₁₂.elsewhere l (h₁.here ▸ hplaces l hplace₁) (h₁.here ▸ hways₁ l hplace₁)
      obtain ⟨a, ha, rfl⟩ := hplace₁
      rw [hsame, h₁.artifact a ha, ← h₂.here, h₂₁.artifact a ha]
    by_cases hplace₂ : Places artifacts₂ root₂ s.here l
    · have hsame := h₂₁.elsewhere l (h₂.here ▸ hplace₁) (h₂.here ▸ hways₂ l hplace₂)
      obtain ⟨a, ha, rfl⟩ := hplace₂
      rw [hsame, h₂.artifact a ha, ← h₁.here, h₁₂.artifact a ha]
    by_cases hway₁ : Ways root₁ s.here l
    · rw [h₂₁.directory l (h₂.here ▸ hway₁), h₁₂.kept l (h₁.directory l hway₁)]
    by_cases hway₂ : Ways root₂ s.here l
    · rw [h₁₂.directory l (h₁.here ▸ hway₂), h₂₁.kept l (h₂.directory l hway₂)]
    rw [h₁₂.elsewhere l (h₁.here ▸ hplace₂) (h₁.here ▸ hway₂), h₁.elsewhere l hplace₁ hway₁,
      h₂₁.elsewhere l (h₂.here ▸ hplace₁) (h₂.here ▸ hway₁), h₂.elsewhere l hplace₂ hway₂]

/-! ### Delivering once more -/

/-- What could be delivered can be delivered further ahead, unless a directory has come to stand in
the place of an artifact. -/
theorem exists_delivery_ahead
    (h : (disk Session.host).Delivery .machine root s artifacts written none s')
    (hapart : artifacts.Pairwise fun a b =>
      FileSystem.resolve s.here (a.under root) ≠ FileSystem.resolve s.here (b.under root))
    (hahead : Session.Ahead (Ways root s.here) s u)
    (hfree : ∀ l, Places artifacts root s.here l → u.files.get? l ≠ some .directory) :
    ∃ written' u', (disk Session.host).Delivery .machine root u artifacts written' none u' := by
  have hlaid := laid_of_delivery h hapart
  obtain ⟨t, hmade, htakes⟩ := h.prepare
  obtain ⟨hgrows, -⟩ := Session.folders_of_makeFolders hmade
  obtain ⟨-, hopens, hsame⟩ := htakes.disk (hgrows.here ▸ hapart)
  rw [hgrows.here] at hopens hsame
  obtain ⟨v, hmade', hahead'⟩ := Session.exists_makeFolders hmade hahead fun f _ l hl => ⟨f, hl⟩
  have hgrows' := Session.grows_of_makeFolders hmade'
  have hhere : v.here = s.here := hgrows'.here.trans hahead.here
  -- The directories that there are in the end have been there before the artifacts.
  have hkeep : ∀ k, s'.files.get? k = some .directory → v.files.get? k = some .directory := by
    intro k hk
    have hplace : ¬ Places artifacts root s.here k := by
      intro hplace
      obtain ⟨content, hfile⟩ := hlaid.exists_file hplace
      rw [hk] at hfile
      cases hfile
    exact hahead'.directory k ((hsame k hplace).symm.trans hk)
  have hwritable : ∀ a ∈ artifacts, ∃ l, v.files.writable v.here (a.under root) = .ok l := by
    intro a ha
    rw [hhere]
    refine ⟨_, FileSystem.writable_of_keeps hkeep (hopens a ha).writable ?_⟩
    rcases hgrows'.files (FileSystem.resolve s.here (a.under root)) with heq | ⟨_, _, hway⟩
    · rw [heq]
      exact hfree _ ⟨a, ha, rfl⟩
    · rw [hahead.here] at hway
      exact absurd hway (hlaid.not_ways ⟨a, ha, rfl⟩)
  obtain ⟨written', u', htakes'⟩ := exists_takes root hwritable
  exact ⟨written', u', .prepared hmade' htakes'⟩

/-- After a delivery another one succeeds if it would have succeeded without the first, provided
that the artifacts of each are off the ways of the other. -/
theorem exists_delivery_after (h₁ : Laid root₁ artifacts₁ s s₁)
    (h₂ : (disk Session.host).Delivery .machine root₂ s artifacts₂ written₂ none s₂)
    (hapart : artifacts₂.Pairwise fun a b =>
      FileSystem.resolve s.here (a.under root₂) ≠ FileSystem.resolve s.here (b.under root₂))
    (hways₁ : ∀ l, Places artifacts₁ root₁ s.here l → ¬ Ways root₂ s.here l)
    (hways₂ : ∀ l, Places artifacts₂ root₂ s.here l → ¬ Ways root₁ s.here l) :
    ∃ written' s₁₂,
      (disk Session.host).Delivery .machine root₂ s₁ artifacts₂ written' none s₁₂ := by
  have hlaid₂ := laid_of_delivery h₂ hapart
  refine exists_delivery_ahead h₂ hapart ⟨h₁.here, h₁.kept, ?_⟩ ?_
  · intro l hway₂
    by_cases hway₁ : Ways root₁ s.here l
    · exact Or.inr (h₁.directory l hway₁)
    have hsame := h₁.elsewhere l (fun hplace => hways₁ l hplace hway₂) hway₁
    rw [FileSystem.IsClear, hsame]
    -- A file would have stopped the second delivery, which has left a directory there.
    cases hl : s.files.get? l with
    | none => exact Or.inl rfl
    | some e =>
      cases e with
      | directory => exact Or.inr rfl
      | file content =>
        have hfree : ¬ Places artifacts₂ root₂ s.here l :=
          fun hplace => hlaid₂.not_ways hplace hway₂
        have hkeeps := h₂.keeps (confined_disk root₂ artifacts₂)
        have hfile : s₂.files.get? l = some (.file content) :=
          hkeeps.files l _ hl (Or.inr hfree)
        rw [hlaid₂.directory l hway₂] at hfile
        cases hfile
  · intro l hplace₂ hdirectory
    obtain ⟨content₂, hfile₂⟩ := hlaid₂.exists_file hplace₂
    by_cases hplace₁ : Places artifacts₁ root₁ s.here l
    · obtain ⟨content₁, hfile₁⟩ := h₁.exists_file hplace₁
      rw [hdirectory] at hfile₁
      cases hfile₁
    · rw [h₁.elsewhere l hplace₁ (hways₂ l hplace₂)] at hdirectory
      rw [hlaid₂.kept l hdirectory] at hfile₂
      cases hfile₂

end Sink

/-! ### Where families go -/

namespace Entity

variable {e e₁ e₂ : Entity} {solution : String}

/-- The paths of a family depend on the name of the entity only. -/
theorem paths_family (hname : e₁.name = e₂.name) (solution : String) (root : Path) :
    (e₁.family solution).map (·.under root) = (e₂.family solution).map (·.under root) := by
  simp [family, drafts, Draft.artifact, Artifact.under, commandName, byIdName, allName, dtoName,
    hname]

/-- So do the places they lead to. -/
theorem places_family (hname : e₁.name = e₂.name) (solution : String) (root : Path)
    (here l : Location) :
    Sink.Places (e₁.family solution) root here l ↔
      Sink.Places (e₂.family solution) root here l := by
  have hpaths : ∀ e : Entity, Sink.Places (e.family solution) root here l ↔
      ∃ p ∈ (e.family solution).map (·.under root), l = FileSystem.resolve here p := by
    intro e
    simp [Sink.Places]
  rw [hpaths, hpaths, paths_family hname]

end Entity

namespace Run

/-- The directory that holds the services of a solution. -/
def services (config : Config) : Path :=
  config.output.join (Path.join ⟨config.solution ++ ".Shared"⟩ ⟨"Services"⟩)

/-- The directory of a service is named after its entity. -/
theorem root_eq (config : Config) (e : Entity) :
    root config e = (services config).join ⟨e.name⟩ :=
  Path.join_assoc config.output ⟨e.name⟩ (Path.text_join_ne_empty (by decide))

variable {config : Config} {e e₁ e₂ : Entity} {here l : Location} {s : Session}

theorem resolve_root (he : Path.IsName e.name) (config : Config) (here : Location) :
    FileSystem.resolve here (root config e) =
      FileSystem.resolve here (services config) ++ [e.name] := by
  rw [root_eq, FileSystem.resolve_join_name here he]

/-- An artifact is three steps below the services of its solution. -/
theorem exists_of_places (he : Path.IsName e.name)
    (h : Sink.Places (e.family config.solution) (root config e) here l) :
    ∃ folder file, l = FileSystem.resolve here (services config) ++ [e.name, folder, file] := by
  obtain ⟨a, ha, rfl⟩ := h
  refine ⟨a.folder.name, a.fileName, ?_⟩
  rw [Artifact.resolve_under here _ (Entity.isName_of_mem_family he ha), resolve_root he]
  simp only [List.append_assoc, List.cons_append, List.nil_append]

/-- The way to a folder leads to the services of the solution and from there down two steps. -/
theorem ways_root_iff (he : Path.IsName e.name) :
    Sink.Ways (root config e) here l ↔
      FileSystem.OnTheWay here (services config) l ∨
        l = FileSystem.resolve here (services config) ++ [e.name] ∨
        ∃ f : Folder, l = FileSystem.resolve here (services config) ++ [e.name, f.name] := by
  have hfolder : ∀ f : Folder, FileSystem.OnTheWay here (f.under (root config e)) l ↔
      (FileSystem.OnTheWay here (services config) l ∨
        l = FileSystem.resolve here (services config) ++ [e.name]) ∨
        l = FileSystem.resolve here (services config) ++ [e.name, f.name] := by
    intro f
    rw [Folder.under, FileSystem.onTheWay_join f.isName.isPiece,
      FileSystem.resolve_join_name _ f.isName, resolve_root he, root_eq,
      FileSystem.onTheWay_join he.isPiece, FileSystem.resolve_join_name _ he]
    simp only [List.append_assoc, List.cons_append, List.nil_append]
  unfold Sink.Ways
  constructor
  · rintro ⟨f, hway⟩
    rcases (hfolder f).mp hway with (hservices | hroot) | hplace
    · exact Or.inl hservices
    · exact Or.inr (Or.inl hroot)
    · exact Or.inr (Or.inr ⟨f, hplace⟩)
  · rintro (hservices | hroot | ⟨f, hplace⟩)
    · exact ⟨.commands, (hfolder _).mpr (Or.inl (Or.inl hservices))⟩
    · exact ⟨.commands, (hfolder _).mpr (Or.inl (Or.inr hroot))⟩
    · exact ⟨f, (hfolder f).mpr (Or.inr hplace)⟩

/-- The artifacts of entities of different names have different places. -/
theorem not_places_of_name_ne (he₁ : Path.IsName e₁.name) (he₂ : Path.IsName e₂.name)
    (hne : e₁.name ≠ e₂.name)
    (h : Sink.Places (e₁.family config.solution) (root config e₁) here l) :
    ¬ Sink.Places (e₂.family config.solution) (root config e₂) here l := by
  intro h'
  obtain ⟨folder₁, file₁, hplace₁⟩ := exists_of_places he₁ h
  obtain ⟨folder₂, file₂, hplace₂⟩ := exists_of_places he₂ h'
  have hsteps := List.append_cancel_left (hplace₁.symm.trans hplace₂)
  exact hne (List.cons.inj hsteps).1

/-- An artifact that is there is on the way to no folder of any entity. -/
theorem not_ways_of_places {s₁ : Session} (he₁ : Path.IsName e₁.name) (he₂ : Path.IsName e₂.name)
    (h₁ : Sink.Laid (root config e₁) (e₁.family config.solution) s s₁)
    (hl : Sink.Places (e₁.family config.solution) (root config e₁) s.here l) :
    ¬ Sink.Ways (root config e₂) s.here l := by
  intro hway
  rcases (ways_root_iff he₂).mp hway with hservices | hroot | ⟨f, hfolder⟩
  · -- The way to the services of the solution is common to both.
    exact h₁.not_ways hl ((ways_root_iff he₁).mpr (Or.inl hservices))
  · obtain ⟨folder, file, heq⟩ := exists_of_places he₁ hl
    have hlength := congrArg List.length (List.append_cancel_left (heq.symm.trans hroot))
    simp at hlength
  · obtain ⟨folder, file, heq⟩ := exists_of_places he₁ hl
    have hlength := congrArg List.length (List.append_cancel_left (heq.symm.trans hfolder))
    simp at hlength

/-! ### Two runs -/

/-- A run that succeeds without a log, as a delivery: it has one whenever its artifacts can be
delivered, and always the same summary. -/
theorem generate_eq_ok {definition : String} {s' : Session} {summary : Summary}
    (hdry : config.dryRun = false) (hlog : config.log = none)
    (hrun : generate Session.host definition config s = (.ok summary, s')) :
    Path.IsName summary.entity.name ∧
      (∃ written, (Sink.disk Session.host).Delivery .machine (root config summary.entity) s
        (summary.entity.family config.solution) written none s') ∧
      ∀ {u u' written}, (Sink.disk Session.host).Delivery .machine (root config summary.entity) u
        (summary.entity.family config.solution) written none u' →
        generate Session.host definition config u = (.ok summary, u') := by
  obtain ⟨entity, written, hparse, rfl, hdelivery⟩ := delivery_of_generate hdry hlog hrun
  refine ⟨Definition.isName_of_parse hparse, ⟨written, hdelivery⟩, fun {u u' written'} h => ?_⟩
  have hwritten : written' = written := by
    rw [h.written_eq Sink.faithful_disk (List.cons_ne_nil _ _),
      hdelivery.written_eq Sink.faithful_disk (List.cons_ne_nil _ _)]
  subst hwritten
  exact generate_of_delivery hparse hdry hlog h

/-- The family of an entity can be delivered when the folders can be made, the name of the entity is
not too long, the root has no steps back, and no directory stands in the place of an artifact. -/
theorem exists_delivery_of_makeFolders (solution : String) {root : Path} {s' : Session}
    (he : Path.IsName e.name) (hnul : '\x00' ∉ e.name.toList) (hroot : ".." ∉ root.steps)
    (hmade : Sink.makeFolders Session.host root Folder.all s = (.ok (), s'))
    (hshort : e.name.utf8ByteSize + 25 ≤ FileSystem.nameLimit)
    (hpath : ∀ f : Folder, (f.under root).text.utf8ByteSize + 1 + (e.name.utf8ByteSize + 25) ≤
      FileSystem.pathLimit)
    (hfree : ∀ l, Sink.Places (e.family solution) root s.here l →
      s.files.get? l ≠ some .directory) :
    ∃ written s'', (Sink.disk Session.host).Delivery .machine root s (e.family solution) written
      none s'' := by
  have hgrows := Session.grows_of_makeFolders hmade
  have hwritable : ∀ a ∈ e.family solution,
      ∃ l, s'.files.writable s'.here (a.under root) = .ok l := by
    intro a ha
    have hname := Entity.isName_of_mem_family he ha
    obtain ⟨hsize, hnul'⟩ := Entity.fileName_fits hnul ha
    have hfolder := Session.isDirectory_of_makeFolders hmade a.folder a.folder.mem_all
    rw [hgrows.here] at hfolder ⊢
    have hplace : s'.files.get? (FileSystem.resolve s.here (a.under root)) ≠ some .directory := by
      rcases hgrows.files (FileSystem.resolve s.here (a.under root)) with hsame | ⟨_, _, f, hway⟩
      · rw [hsame]
        exact hfree _ ⟨a, ha, rfl⟩
      · exact absurd hway (FileSystem.not_onTheWay_of_no_parent hname hroot)
    obtain ⟨hcheck, hwalk, hdirectory⟩ := FileSystem.isDirectory_eq_true_iff.mp hfolder
    obtain ⟨hnul'', -, -⟩ := FileSystem.checkPath_eq_ok_iff.mp hcheck
    have hlong := hpath a.folder
    have hcheck' := FileSystem.checkPath_join_name hname hnul'' hnul' (by omega)
    rw [Artifact.under, FileSystem.resolve_join_name s.here hname] at hplace
    exact ⟨_, FileSystem.writable_join_name hname (by omega) hcheck' hwalk hdirectory hplace⟩
  obtain ⟨written, s'', htakes⟩ := Sink.exists_takes root hwritable
  exact ⟨written, s'', .prepared hmade htakes⟩

/-- Where there is nothing at all, nothing is in the place of an artifact. -/
theorem free_of_nothing {solution : String} {root : Path} (he : Path.IsName e.name) :
    ∀ l, Sink.Places (e.family solution) root here l →
      FileSystem.get? {} l ≠ some .directory := by
  rintro l ⟨a, ha, hplace⟩ hl
  rw [Artifact.resolve_under here root (Entity.isName_of_mem_family he ha)] at hplace
  rw [FileSystem.get?, if_neg (by rw [hplace]; exact List.concat_ne_nil _ _)] at hl
  cases hl

/-- **Runs replace each other or keep apart.** When each of two runs with the same settings, without
a log and not only tried out, succeeds by itself in a session, they succeed one after the other in
either order, with the same summaries. If their entities have the same name, the later one leaves
everything as if there had been no earlier one; if not, the order makes no difference. -/
theorem runs_independent (definition₁ definition₂ : String) (config : Config) (s s₁ s₂ : Session)
    (summary₁ summary₂ : Summary) (hdry : config.dryRun = false) (hlog : config.log = none)
    (hrun₁ : generate Session.host definition₁ config s = (.ok summary₁, s₁))
    (hrun₂ : generate Session.host definition₂ config s = (.ok summary₂, s₂)) :
    ∃ s₁₂ s₂₁, generate Session.host definition₂ config s₁ = (.ok summary₂, s₁₂) ∧
      generate Session.host definition₁ config s₂ = (.ok summary₁, s₂₁) ∧
      (summary₁.entity.name = summary₂.entity.name → s₂.Same s₁₂ ∧ s₁.Same s₂₁) ∧
      (summary₁.entity.name ≠ summary₂.entity.name → s₁₂.Same s₂₁) := by
  obtain ⟨he₁, ⟨written₁, hdelivery₁⟩, hagain₁⟩ := generate_eq_ok hdry hlog hrun₁
  obtain ⟨he₂, ⟨written₂, hdelivery₂⟩, hagain₂⟩ := generate_eq_ok hdry hlog hrun₂
  have hapart : ∀ {e : Entity}, Path.IsName e.name → ∀ here,
      (e.family config.solution).Pairwise fun a b =>
        FileSystem.resolve here (a.under (root config e)) ≠
          FileSystem.resolve here (b.under (root config e)) :=
    fun he here => Entity.places_apart he here _
  have hlaid₁ := Sink.laid_of_delivery hdelivery₁ (hapart he₁ s.here)
  have hlaid₂ := Sink.laid_of_delivery hdelivery₂ (hapart he₂ s.here)
  have hways₁ := fun l => not_ways_of_places (l := l) he₁ he₂ hlaid₁
  have hways₂ := fun l => not_ways_of_places (l := l) he₂ he₁ hlaid₂
  obtain ⟨_, s₁₂, hdelivery₁₂⟩ := Sink.exists_delivery_after hlaid₁ hdelivery₂
    (hapart he₂ s.here) hways₁ hways₂
  obtain ⟨_, s₂₁, hdelivery₂₁⟩ := Sink.exists_delivery_after hlaid₂ hdelivery₁
    (hapart he₁ s.here) hways₂ hways₁
  have hlaid₁₂ := Sink.laid_of_delivery hdelivery₁₂ (hapart he₂ s₁.here)
  have hlaid₂₁ := Sink.laid_of_delivery hdelivery₂₁ (hapart he₁ s₂.here)
  refine ⟨s₁₂, s₂₁, hagain₂ hdelivery₁₂, hagain₁ hdelivery₂₁, ?_, ?_⟩
  · intro hname
    have hroot : root config summary₁.entity = root config summary₂.entity := by
      rw [root_eq, root_eq, hname]
    rw [hroot] at hlaid₁ hlaid₂₁
    have hplaces := fun l => Entity.places_family hname config.solution
      (root config summary₂.entity) s.here l
    exact ⟨hlaid₁.replaces hlaid₂ hlaid₁₂ hplaces,
      hlaid₂.replaces hlaid₁ hlaid₂₁ fun l => (hplaces l).symm⟩
  · intro hname
    exact hlaid₁.commutes hlaid₂ hlaid₁₂ hlaid₂₁
      (fun l => not_places_of_name_ne he₁ he₂ hname) hways₁ hways₂

/-- Two classes, generated in either order where there was nothing before. -/
theorem runs_independent_of_two_classes :
    let config : Config := ⟨"S", ⟨"o"⟩, none, false⟩
    let definition (name : String) : String := "public class " ++ name ++ " \x7b \x7d"
    ∃ summary₁ summary₂ s₁ s₂ s₁₂ s₂₁,
      generate Session.host (definition "A") config {} = (.ok summary₁, s₁) ∧
      generate Session.host (definition "B") config {} = (.ok summary₂, s₂) ∧
      generate Session.host (definition "B") config s₁ = (.ok summary₂, s₁₂) ∧
      generate Session.host (definition "A") config s₂ = (.ok summary₁, s₂₁) ∧
      summary₁.entity.name ≠ summary₂.entity.name ∧ s₁₂.Same s₂₁ := by
  intro config definition
  have hparse : ∀ name ∈ ["A", "B"], Entity.parse (definition name) = .ok ⟨name, []⟩ := by
    decide +kernel
  have hmade : ∀ name ∈ ["A", "B"],
      (Sink.makeFolders Session.host (root config ⟨name, []⟩) Folder.all {}).1 = .ok () := by
    decide +kernel
  have hroot : ∀ name ∈ ["A", "B"], ".." ∉ (root config ⟨name, []⟩).steps := by
    decide +kernel
  have hnul : ∀ name ∈ ["A", "B"], '\x00' ∉ name.toList := by decide
  have hshort : ∀ name ∈ ["A", "B"], name.utf8ByteSize + 25 ≤ FileSystem.nameLimit := by
    decide
  have hpath : ∀ name ∈ ["A", "B"], ∀ f ∈ Folder.all,
      (f.under (root config ⟨name, []⟩)).text.utf8ByteSize + 1 + (name.utf8ByteSize + 25) ≤
        FileSystem.pathLimit := by
    decide +kernel
  have hrun : ∀ name ∈ ["A", "B"], ∃ summary s',
      generate Session.host (definition name) config {} = (.ok summary, s') ∧
        summary.entity.name = name := by
    intro name hname
    cases hfolders : Sink.makeFolders Session.host (root config ⟨name, []⟩) Folder.all {} with
    | mk made s₀ =>
    obtain rfl : made = .ok () := (congrArg Prod.fst hfolders).symm.trans (hmade name hname)
    have he := Definition.isName_of_parse (hparse name hname)
    obtain ⟨written, s', hdelivery⟩ := exists_delivery_of_makeFolders config.solution he
      (hnul name hname) (hroot name hname) hfolders (hshort name hname)
      (fun f => hpath name hname f f.mem_all) (free_of_nothing he)
    exact ⟨_, s', generate_of_delivery (hparse name hname) rfl rfl hdelivery, rfl⟩
  obtain ⟨summary₁, s₁, hrun₁, hname₁⟩ := hrun "A" List.mem_cons_self
  obtain ⟨summary₂, s₂, hrun₂, hname₂⟩ := hrun "B" (List.mem_cons_of_mem _ List.mem_cons_self)
  obtain ⟨s₁₂, s₂₁, hrun₁₂, hrun₂₁, -, hcommutes⟩ := runs_independent (definition "A")
    (definition "B") config {} s₁ s₂ summary₁ summary₂ rfl rfl hrun₁ hrun₂
  have hne : summary₁.entity.name ≠ summary₂.entity.name := by
    rw [hname₁, hname₂]
    decide
  exact ⟨summary₁, summary₂, s₁, s₂, s₁₂, s₂₁, hrun₁, hrun₂, hrun₁₂, hrun₂₁, hne, hcommutes hne⟩

end Run

end Scaffold
