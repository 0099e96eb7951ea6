import Scaffold.Proofs.Independence

/-!
# The memory and the disk

A sink in memory takes what the files of a session take and says the same about it. What it can be
asked for is another matter: it keeps everything it has been given and answers with the earliest,
while a file holds what has been written to it last.

* `Sink.writeEvery`: several lists of artifacts, written one after the other.
* `run_memory_writeEvery`: what the memory keeps of them and what it reports.
* `Holds`: every place that has been written to holds what has been written to it last.
  `holds_of_writeEvery`: so it is on the disk when nothing has failed.
* `memory_mirrors_disk_iff`: when the memory can be asked for what is on the disk.
-/

namespace Scaffold.Sink

/-! ### Writing several lists -/

/-- Writes lists of artifacts one after the other, each below a root of its own. -/
def writeEvery {m : Type → Type} [Monad m] (sink : Sink m) :
    List (Path × List Artifact) → m (List WriteReport)
  | [] => pure []
  | (root, artifacts) :: writes => do
    let report ← sink.writeAll root artifacts
    let reports ← sink.writeEvery writes
    return report :: reports

/-- What is written below a root: each content and the path under which it is kept. -/
def contents (root : Path) (artifacts : List Artifact) : List (Path × String) :=
  artifacts.map fun a => (a.under root, a.content)

/-- What is written altogether, the earliest first. -/
def allContents (writes : List (Path × List Artifact)) : List (Path × String) :=
  writes.flatMap fun write => contents write.1 write.2

/-- Of what has been written under a path, however it is spelled, the earliest. -/
def earliest? (log : List (Path × String)) (p : Path) : Option String :=
  (log.find? (·.1.same p)).map (·.2)

/-- Of what has been written to the place of a path the latest. -/
def latest? (here : Location) (log : List (Path × String)) (p : Path) : Option String :=
  (log.reverse.find? fun x => FileSystem.resolve here x.1 = FileSystem.resolve here p).map (·.2)

/-- The memory answers with the earliest. -/
theorem get?_eq_earliest? (log : List (Path × String)) (p : Path) :
    Memory.get? ⟨log⟩ p = earliest? log p := rfl

variable {here : Location} {log : List (Path × String)} {p q : Path} {content : String}

theorem latest?_concat : latest? here (log ++ [(q, content)]) p =
    if FileSystem.resolve here q = FileSystem.resolve here p then some content
    else latest? here log p := by
  rw [latest?, List.reverse_append, List.reverse_singleton, List.singleton_append]
  by_cases h : FileSystem.resolve here q = FileSystem.resolve here p
  · rw [List.find?_cons_of_pos (by simpa using h), if_pos h]
    rfl
  · rw [List.find?_cons_of_neg (by simpa using h), if_neg h]
    rfl

/-! ### In memory -/

variable {root : Path} {artifacts : List Artifact} {mem : Memory} {s s' s'' : Session}

theorem run_bind_beside {σ α β : Type} (program : StateT σ (StateM Session) α)
    (next : α → StateT σ (StateM Session) β) (a : σ) (s : Session) :
    (program >>= next) a s = next (program a s).1.1 (program a s).1.2 (program a s).2 := rfl

theorem run_memory_writeEach (root : Path) (artifacts : List Artifact) (mem : Memory)
    (s : Session) :
    (memory (m := StateM Session)).writeEach root artifacts mem s =
      ((⟨listing root artifacts, none⟩, ⟨mem.files ++ contents root artifacts⟩), s) := by
  induction artifacts generalizing mem with
  | nil =>
    rw [contents, List.map_nil, List.append_nil]
    rfl
  | cons a artifacts ih =>
    have hwrite : (memory (m := StateM Session)).write root a mem s =
        ((.ok (a.under root), mem.add (a.under root) a.content), s) := rfl
    rw [writeEach, run_bind_beside, hwrite]
    dsimp only
    rw [run_bind_beside, ih, Memory.add, List.append_assoc]
    rfl

/-- The memory reports everything as written, and keeps it in order. -/
theorem run_memory_writeEvery (writes : List (Path × List Artifact)) (mem : Memory) (s : Session) :
    (memory (m := StateM Session)).writeEvery writes mem s =
      ((writes.map fun write => ⟨listing write.1 write.2, none⟩,
        ⟨mem.files ++ allContents writes⟩), s) := by
  induction writes generalizing mem with
  | nil =>
    rw [allContents, List.flatMap_nil, List.append_nil]
    rfl
  | cons write writes ih =>
    obtain ⟨root, artifacts⟩ := write
    have hall : (memory (m := StateM Session)).writeAll root artifacts mem s = _ :=
      run_memory_writeEach root artifacts mem s
    rw [writeEvery, run_bind_beside, hall]
    dsimp only
    rw [run_bind_beside, ih, List.append_assoc]
    rfl

/-! ### On the disk -/

/-- Every path that has been written to leads to the latest content that has been written to its
place. -/
def Holds (log : List (Path × String)) (s : Session) : Prop :=
  ∀ p ∈ log.map (·.1), ∃ content, latest? s.here log p = some content ∧
    s.files.Opens s.here p (FileSystem.resolve s.here p) (Text.encode content)

namespace Holds

theorem of_nil (s : Session) : Holds [] s := List.forall_mem_nil _

/-- To make folders touches no file. -/
theorem of_keeps (h : Holds log s) (hkeeps : Session.Keeps FileSystem.nowhere s s') :
    Holds log s' := by
  intro p hp
  obtain ⟨content, hlatest, hopens⟩ := h p hp
  rw [hkeeps.here]
  exact ⟨content, hlatest, hopens.of_keeps hkeeps.files not_false⟩

/-- A file that is written becomes the latest of its place, and the others stay as they are. -/
theorem write {files : FileSystem} (h : Holds log s)
    (hwrite : s.files.write s.here q (Text.encode content) = .ok files) :
    Holds (log ++ [(q, content)]) { s with files } := by
  obtain ⟨l, hwritable, hput⟩ := bind_eq_ok_iff.mp hwrite
  cases hput
  obtain rfl := FileSystem.writable_eq_resolve hwritable
  have hne := FileSystem.writable_ne_nil hwritable
  have hkeeps : FileSystem.Keeps (· = FileSystem.resolve s.here q) s.files
      (s.files.put (FileSystem.resolve s.here q) (.file (Text.encode content))) :=
    FileSystem.keeps_put hne (FileSystem.get?_of_writable hwritable)
  have hfile : (s.files.put (FileSystem.resolve s.here q) (.file (Text.encode content))).get?
      (FileSystem.resolve s.here q) = some (.file (Text.encode content)) := by
    rw [FileSystem.get?_put _ hne, if_pos rfl]
  intro p hp
  rw [latest?_concat]
  rw [List.map_append, List.mem_append, List.map_singleton, List.mem_singleton] at hp
  by_cases hplace : FileSystem.resolve s.here q = FileSystem.resolve s.here p
  · refine ⟨content, if_pos hplace, ?_⟩
    rcases hp with hp | rfl
    · -- The place has been written to under another path, which leads there still.
      obtain ⟨older, -, hopens⟩ := h p hp
      refine ⟨FileSystem.writable_of_keeps hkeeps.directory hopens.writable ?_, hplace ▸ hfile⟩
      rw [← hplace, hfile]
      exact fun heq => Entry.noConfusion (Option.some.inj heq)
    · exact FileSystem.Opens.put hwritable
  · obtain ⟨older, hlatest, hopens⟩ := h p (hp.resolve_right fun heq => hplace (heq ▸ rfl))
    exact ⟨older, (if_neg hplace).trans hlatest, hopens.of_keeps hkeeps (Ne.symm hplace)⟩

end Holds

theorem Takes.holds {written : List Written}
    (h : Takes .machine (Sink.disk Session.host) root s artifacts written none s')
    (hs : Holds log s) : s'.here = s.here ∧ Holds (log ++ contents root artifacts) s' := by
  induction artifacts generalizing s written log with
  | nil =>
    obtain ⟨-, rfl⟩ := h.nil
    rw [contents, List.map_nil, List.append_nil]
    exact ⟨rfl, hs⟩
  | cons a later ih =>
    rcases h.cons with ⟨e, -, hfailure⟩ | ⟨path, s₁, writtenLater, hcall, htakes⟩
    · cases hfailure
    · have hwrite := (run_disk_write root a s).symm.trans hcall
      split at hwrite
      · next files hfiles =>
        cases hwrite
        obtain ⟨hhere, hlater⟩ := ih htakes (hs.write hfiles)
        rw [List.append_assoc] at hlater
        exact ⟨hhere, hlater⟩
      · cases hwrite

theorem run_writeEvery_cons {written : List Written} (writes : List (Path × List Artifact))
    (h : (disk Session.host).Delivery .machine root s artifacts written none s') :
    (disk Session.host).writeEvery ((root, artifacts) :: writes) s =
      (⟨written, none⟩ :: ((disk Session.host).writeEvery writes s').1,
        ((disk Session.host).writeEvery writes s').2) := by
  have hfirst : (disk Session.host).writeAll root artifacts s = (⟨written, none⟩, s') :=
    h.run_writeAll
  rw [writeEvery, Session.run_bind, hfirst]
  rfl

/-- A list that is written without a failure is reported in full, and is there. -/
theorem holds_of_writeAll {report : WriteReport}
    (hrun : (disk Session.host).writeAll root artifacts s = (report, s'))
    (hok : report.failure = none) (hs : Holds log s) :
    report = ⟨listing root artifacts, none⟩ ∧ s'.here = s.here ∧
      Holds (log ++ contents root artifacts) s' := by
  have hdelivery := run_writeAll .machine (disk Session.host) root artifacts s
  have hrun' : Execution.machine.run ((disk Session.host).writeAll root artifacts) s =
      (report, s') := hrun
  rw [hrun', hok] at hdelivery
  obtain ⟨t, hmade, htakes⟩ := hdelivery.prepare
  have hkeeps := Session.steady_makeFolders root Folder.all s
  have hmade' : makeFolders Session.host root Folder.all s = (.ok (), t) := hmade
  rw [hmade'] at hkeeps
  obtain ⟨hhere, hholds⟩ := htakes.holds (hs.of_keeps hkeeps)
  refine ⟨?_, hhere.trans hkeeps.here, hholds⟩
  obtain ⟨written, failure⟩ := report
  obtain rfl : failure = none := hok
  exact congrArg (WriteReport.mk · none) (htakes.written_eq faithful_disk)

/-- So it is with several lists. -/
theorem holds_of_writeEvery {writes : List (Path × List Artifact)} {reports : List WriteReport}
    (hrun : (disk Session.host).writeEvery writes s = (reports, s'))
    (hok : ∀ report ∈ reports, report.failure = none) (hs : Holds log s) :
    reports = writes.map (fun write => ⟨listing write.1 write.2, none⟩) ∧ s'.here = s.here ∧
      Holds (log ++ allContents writes) s' := by
  induction writes generalizing s reports log with
  | nil =>
    cases hrun
    rw [allContents, List.flatMap_nil, List.append_nil]
    exact ⟨rfl, rfl, hs⟩
  | cons write writes ih =>
    obtain ⟨root, artifacts⟩ := write
    rw [writeEvery, Session.run_bind] at hrun
    cases hfirst : (disk Session.host).writeAll root artifacts s with
    | mk report s₁ =>
    rw [hfirst] at hrun
    dsimp only at hrun
    rw [Session.run_bind] at hrun
    cases hothers : (disk Session.host).writeEvery writes s₁ with
    | mk others s₂ =>
    rw [hothers] at hrun
    cases hrun
    obtain ⟨hok₁, hok₂⟩ := List.forall_mem_cons.mp hok
    obtain ⟨rfl, hhere₁, hs₁⟩ := holds_of_writeAll hfirst hok₁ hs
    obtain ⟨rfl, hhere₂, hs₂⟩ := ih hothers hok₂ hs₁
    rw [List.append_assoc] at hs₂
    exact ⟨rfl, hhere₂.trans hhere₁, hs₂⟩

/-! ### Comparing the two -/

theorem encode_injective {a b : String} (h : Text.encode a = Text.encode b) : a = b := by
  have hdecoded := congrArg Text.decode? h
  rw [Text.decode?_encode, Text.decode?_encode] at hdecoded
  exact Option.some.inj hdecoded

/-- **The memory takes what the disk takes and says the same.** Asked for a path it gives what is on
the disk exactly when nothing else has been written to the place of the path before. -/
theorem memory_mirrors_disk_iff (writes : List (Path × List Artifact)) (s s' : Session)
    (reports : List WriteReport)
    (hrun : (disk Session.host).writeEvery writes s = (reports, s'))
    (hok : ∀ report ∈ reports, report.failure = none) :
    ∃ mem, (memory (m := StateM Session)).writeEvery writes {} s = ((reports, mem), s) ∧
      ((∀ p ∈ (allContents writes).map (·.1), ∃ content, mem.get? p = some content ∧
          s'.files.read s'.here p = .ok (Text.encode content)) ↔
        ∀ p ∈ (allContents writes).map (·.1),
          earliest? (allContents writes) p = latest? s.here (allContents writes) p) := by
  obtain ⟨rfl, hhere, hholds⟩ := holds_of_writeEvery hrun hok (.of_nil s)
  refine ⟨⟨allContents writes⟩, run_memory_writeEvery writes {} s, ?_⟩
  rw [List.nil_append] at hholds
  refine forall₂_congr fun p hp => ?_
  obtain ⟨latest, hlatest, hopens⟩ := hholds p hp
  rw [hhere] at hlatest
  rw [hopens.read, hlatest]
  constructor
  · rintro ⟨content, hget, hread⟩
    rw [encode_injective (Except.ok.inj hread)]
    exact hget
  · intro heq
    exact ⟨latest, heq, rfl⟩

/-- What is written twice with the same content is the same in both. -/
theorem memory_mirrors_disk_of_same_content :
    let writes : List (Path × List Artifact) :=
      [(⟨"r"⟩, [⟨.dtos, "NDTO.cs", "a"⟩]), (⟨"./r/"⟩, [⟨.dtos, "NDTO.cs", "a"⟩])]
    ∃ reports s' mem, (disk Session.host).writeEvery writes {} = (reports, s') ∧
      (memory (m := StateM Session)).writeEvery writes {} {} = ((reports, mem), {}) ∧
      ∀ p ∈ (allContents writes).map (·.1), ∃ content, mem.get? p = some content ∧
        s'.files.read s'.here p = .ok (Text.encode content) := by
  intro writes
  have hok : ∀ report ∈ ((disk Session.host).writeEvery writes {}).1, report.failure = none := by
    decide +kernel
  cases hrun : (disk Session.host).writeEvery writes {} with
  | mk reports s' =>
  rw [hrun] at hok
  have hsame : ∀ p ∈ (allContents writes).map (·.1),
      earliest? (allContents writes) p = latest? [] (allContents writes) p := by
    decide +kernel
  obtain ⟨mem, hmemory, hmirrors⟩ := memory_mirrors_disk_iff writes {} s' reports hrun hok
  exact ⟨reports, s', mem, rfl, hmemory, hmirrors.mpr hsame⟩

/-- A class that is generated again with other properties: the memory gives what it has been given
first, on the disk it has been replaced. -/
theorem memory_gives_replaced :
    let older : Entity := ⟨"N", [.of "A" "int"]⟩
    let newer : Entity := ⟨"N", [.of "B" "string"]⟩
    let writes : List (Path × List Artifact) :=
      [(⟨"r"⟩, older.family "S"), (⟨"r"⟩, newer.family "S")]
    ∃ reports s' mem, (disk Session.host).writeEvery writes {} = (reports, s') ∧
      (∀ report ∈ reports, report.failure = none) ∧
      (memory (m := StateM Session)).writeEvery writes {} {} = ((reports, mem), {}) ∧
      mem.get? ⟨"r/DTOs/NDTO.cs"⟩ = some (older.dtoFile "S").text ∧
      s'.files.read s'.here ⟨"r/DTOs/NDTO.cs"⟩ = .ok (Text.encode (newer.dtoFile "S").text) ∧
      (older.dtoFile "S").text ≠ (newer.dtoFile "S").text := by
  intro older newer writes
  have he : Path.IsName "N" := by constructor <;> decide
  have hnul : '\x00' ∉ "N".toList := by decide
  have hshort : "N".utf8ByteSize + 25 ≤ FileSystem.nameLimit := by decide
  have hroot : ".." ∉ Path.steps ⟨"r"⟩ := by decide +kernel
  have hmade : (makeFolders Session.host ⟨"r"⟩ Folder.all {}).1 = .ok () := by decide +kernel
  have hpath : ∀ f ∈ Folder.all, (f.under ⟨"r"⟩).text.utf8ByteSize + 1 + ("N".utf8ByteSize + 25) ≤
      FileSystem.pathLimit := by
    decide +kernel
  cases hfolders : makeFolders Session.host ⟨"r"⟩ Folder.all {} with
  | mk made s₀ =>
  rw [hfolders] at hmade
  obtain rfl : made = .ok () := hmade
  have hdelivery : ∀ properties, ∃ written s', (disk Session.host).Delivery .machine ⟨"r"⟩ {}
      (Entity.family "S" ⟨"N", properties⟩) written none s' := fun properties =>
    Run.exists_delivery_of_makeFolders "S" he hnul hroot hfolders hshort
      (fun f => hpath f f.mem_all) (Run.free_of_nothing he)
  obtain ⟨written₁, s₁, hdelivery₁⟩ := hdelivery older.properties
  obtain ⟨written₂, s₂, hdelivery₂⟩ := hdelivery newer.properties
  -- The second class goes to the same places as the first.
  have hlaid₁ := laid_of_delivery hdelivery₁ (Entity.places_apart he _ _)
  have hlaid₂ := laid_of_delivery hdelivery₂ (Entity.places_apart he _ _)
  obtain ⟨written', s', hagain⟩ := exists_delivery_after hlaid₁ hdelivery₂
    (Entity.places_apart he _ _) (fun l => hlaid₁.not_ways) (fun l => hlaid₂.not_ways)
  have hrun : (disk Session.host).writeEvery writes {} =
      ([⟨written₁, none⟩, ⟨written', none⟩], s') := by
    rw [run_writeEvery_cons _ hdelivery₁, run_writeEvery_cons _ hagain]
    rfl
  have hok : ∀ report ∈ [WriteReport.mk written₁ none, ⟨written', none⟩],
      report.failure = none := by
    simp
  obtain ⟨hreports, hhere, hholds⟩ := holds_of_writeEvery hrun hok (.of_nil {})
  have hearliest : earliest? (allContents writes) ⟨"r/DTOs/NDTO.cs"⟩ =
      some (older.dtoFile "S").text := by
    decide +kernel
  have hlatest : latest? [] (allContents writes) ⟨"r/DTOs/NDTO.cs"⟩ =
      some (newer.dtoFile "S").text := by
    decide +kernel
  have hmem : (⟨"r/DTOs/NDTO.cs"⟩ : Path) ∈ (allContents writes).map (·.1) := by
    decide +kernel
  rw [List.nil_append] at hholds
  obtain ⟨content, hcontent, hopens⟩ := hholds _ hmem
  rw [hhere, hlatest] at hcontent
  cases hcontent
  have hmemory := run_memory_writeEvery writes {} {}
  have hnothing : ({} : Memory).files ++ allContents writes = allContents writes :=
    List.nil_append _
  rw [← hreports, hnothing] at hmemory
  have hdifferent : (older.dtoFile "S").text ≠ (newer.dtoFile "S").text := by decide +kernel
  refine ⟨_, s', ⟨allContents writes⟩, hrun, hok, hmemory, ?_, hopens.read, hdifferent⟩
  rw [get?_eq_earliest?, hearliest]

end Scaffold.Sink
