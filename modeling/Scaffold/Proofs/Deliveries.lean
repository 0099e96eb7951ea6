import Scaffold.Proofs.Confinement

/-!
# What is delivered

A sink that takes an artifact says where it keeps it. The sinks of this library keep an artifact
under its path below the service root, so whatever they take, in whichever world, is a beginning of
one and the same list; only a failure makes it shorter. In the files of a session the artifacts
that have been taken are there.

* `Faithful`: an artifact is kept under its path. `faithful_disk`, `faithful_memory`.
* `Delivery.listing`: what has been written are the first artifacts, and all of them when nothing
  failed.
* `Takes.files`: what has been written to the files of a session; `Takes.disk` when nothing failed.
* `exists_takes`: when nothing fails there.
-/

namespace Scaffold.Sink

open Text (Bytes)

variable {n : Type → Type} [Monad n] [MonadLiftT (StateM Session) n]

/-! ### Where artifacts are kept -/

/-- A sink that takes an artifact keeps it under its path below the root. -/
def Faithful (x : Execution n) (sink : Sink n) : Prop :=
  ∀ root a w path w', x.run (sink.write root a) w = (.ok path, w') → path = a.under root

/-- What there is to say of artifacts that are written below a root. -/
def listing (root : Path) (artifacts : List Artifact) : List Written :=
  artifacts.map fun a => ⟨a.under root, a.content.utf8ByteSize⟩

theorem faithful_memory : Faithful (.beside Memory) memory := by
  intro root a w path w' h
  cases h
  rfl

theorem faithful_disk : Faithful .machine (disk Session.host) := by
  intro root a s path s' h
  have hcall := (run_disk_write root a s).symm.trans h
  split at hcall
  · cases hcall
    rfl
  · cases hcall

/-! ### The list -/

variable {x : Execution n} {sink : Sink n} {root : Path} {w w' : x.World}
  {artifacts : List Artifact} {written : List Written} {failure : Option WriteError}

theorem Takes.nil (h : Takes x sink root w [] written failure w') : failure = none ∧ w' = w := by
  cases h
  exact ⟨rfl, rfl⟩

/-- The first artifact is refused, or it is taken and then the others. -/
theorem Takes.cons {a : Artifact} (h : Takes x sink root w (a :: artifacts) written failure w') :
    (∃ e, x.run (sink.write root a) w = (.error e, w') ∧ failure = some e) ∨
      ∃ path w₁ later, x.run (sink.write root a) w = (.ok path, w₁) ∧
        Takes x sink root w₁ artifacts later failure w' := by
  cases h with
  | refused hcall => exact Or.inl ⟨_, hcall, rfl⟩
  | taken hcall htakes => exact Or.inr ⟨_, _, _, hcall, htakes⟩

/-- The artifacts that are taken are the first ones; some are left exactly when there is a
failure. -/
theorem Takes.listing (h : Takes x sink root w artifacts written failure w')
    (hsink : Faithful x sink) :
    ∃ taken rest, artifacts = taken ++ rest ∧ written = Sink.listing root taken ∧
      (failure = none ↔ rest = []) := by
  induction h with
  | done => exact ⟨[], [], rfl, rfl, by simp⟩
  | refused => exact ⟨[], _, rfl, rfl, by simp⟩
  | taken hcall _ ih =>
    obtain ⟨taken, rest, rfl, rfl, hrest⟩ := ih
    rw [hsink _ _ _ _ _ hcall]
    exact ⟨_ :: taken, rest, rfl, rfl, hrest⟩

/-- The same of a delivery, in which the sink has to be prepared first. -/
theorem Delivery.listing (h : Delivery x sink root w artifacts written failure w')
    (hsink : Faithful x sink) (hne : artifacts ≠ []) :
    ∃ taken rest, artifacts = taken ++ rest ∧ written = Sink.listing root taken ∧
      (failure = none ↔ rest = []) := by
  cases h with
  | unprepared => exact ⟨[], artifacts, rfl, rfl, by simp [hne]⟩
  | prepared _ htakes => exact htakes.listing hsink

/-- The sink cannot be prepared, or it is prepared and then takes artifacts. -/
theorem Delivery.steps (h : Delivery x sink root w artifacts written failure w') :
    (∃ e, x.run (sink.prepare root) w = (.error e, w') ∧ failure = some e) ∨
      ∃ w₁, x.run (sink.prepare root) w = (.ok (), w₁) ∧
        Takes x sink root w₁ artifacts written failure w' := by
  cases h with
  | unprepared hprepare => exact Or.inl ⟨_, hprepare, rfl⟩
  | prepared hprepare htakes => exact Or.inr ⟨_, hprepare, htakes⟩

/-- A delivery in which nothing fails begins with the sink being prepared. -/
theorem Delivery.prepare (h : Delivery x sink root w artifacts written none w') :
    ∃ w₁, x.run (sink.prepare root) w = (.ok (), w₁) ∧
      Takes x sink root w₁ artifacts written none w' := by
  rcases h.steps with ⟨_, _, hfailure⟩ | hprepared
  · cases hfailure
  · exact hprepared

/-- Where nothing fails, everything is taken. -/
theorem Takes.written_eq (h : Takes x sink root w artifacts written none w')
    (hsink : Faithful x sink) : written = Sink.listing root artifacts := by
  obtain ⟨taken, rest, hparts, hwritten, hrest⟩ := h.listing hsink
  rw [hparts, hrest.mp rfl, List.append_nil]
  exact hwritten

/-- A delivery without a failure is complete. -/
theorem Delivery.written_eq (h : Delivery x sink root w artifacts written none w')
    (hsink : Faithful x sink) (hne : artifacts ≠ []) : written = Sink.listing root artifacts := by
  obtain ⟨taken, rest, hparts, hwritten, hrest⟩ := h.listing hsink hne
  rw [hparts, hrest.mp rfl, List.append_nil]
  exact hwritten

/-- A delivery that fails stops before its end. -/
theorem Delivery.written_prefix {e : WriteError}
    (h : Delivery x sink root w artifacts written (some e) w')
    (hsink : Faithful x sink) (hne : artifacts ≠ []) :
    written <+: Sink.listing root artifacts ∧ written ≠ Sink.listing root artifacts := by
  obtain ⟨taken, rest, rfl, rfl, hrest⟩ := h.listing hsink hne
  have hleft : rest ≠ [] := by
    intro hnone
    cases hrest.mpr hnone
  constructor
  · rw [Sink.listing, Sink.listing, List.map_append]
    exact List.prefix_append _ _
  · intro hall
    have hlength := congrArg List.length hall
    simp only [Sink.listing, List.length_map, List.length_append] at hlength
    exact hleft (List.length_eq_zero_iff.mp (by omega))

/-! ### The files of a session -/

variable {s s' : Session}

/-- Of artifacts at different places, those that are taken are there in the end, and nothing else
has changed. -/
theorem Takes.files
    (h : Takes .machine (Sink.disk Session.host) root s artifacts written failure s')
    (hapart : artifacts.Pairwise fun a b =>
      FileSystem.resolve s.here (a.under root) ≠ FileSystem.resolve s.here (b.under root)) :
    ∃ taken rest, artifacts = taken ++ rest ∧ (failure = none ↔ rest = []) ∧
      s' = { s with files := s'.files } ∧
      (∀ a ∈ taken, s'.files.Opens s.here (a.under root)
        (FileSystem.resolve s.here (a.under root)) (Text.encode a.content)) ∧
      ∀ l, ¬ Places taken root s.here l → s'.files.get? l = s.files.get? l := by
  induction artifacts generalizing s written with
  | nil =>
    obtain ⟨rfl, rfl⟩ := h.nil
    exact ⟨[], [], rfl, by simp, rfl, List.forall_mem_nil _, fun _ _ => rfl⟩
  | cons a later ih =>
    obtain ⟨ha, hlater⟩ := List.pairwise_cons.mp hapart
    rcases h.cons with ⟨e, hcall, rfl⟩ | ⟨path, s₁, writtenLater, hcall, htakes⟩
    · have hwrite := (run_disk_write root a s).symm.trans hcall
      split at hwrite
      · cases hwrite
      · cases hwrite
        exact ⟨[], a :: later, rfl, by simp, rfl, List.forall_mem_nil _, fun _ _ => rfl⟩
    · have hwrite := (run_disk_write root a s).symm.trans hcall
      split at hwrite
      · next files hfiles =>
        cases hwrite
        obtain ⟨l, hwritable, hput⟩ := bind_eq_ok_iff.mp hfiles
        cases hput
        obtain rfl := FileSystem.writable_eq_resolve hwritable
        obtain ⟨taken, rest, rfl, hrest, hsession, hopens, hsame⟩ := ih htakes hlater
        have hkeeps := htakes.keeps (confined_disk root _)
        refine ⟨a :: taken, rest, rfl, hrest, hsession,
          List.forall_mem_cons.mpr ⟨?_, hopens⟩, ?_⟩
        · -- The place of the first artifact is none of those that are written to later.
          refine (FileSystem.Opens.put hwritable).of_keeps hkeeps.files ?_
          rintro ⟨b, hb, hplace⟩
          exact ha b hb hplace
        · intro l hl
          have hfirst : l ≠ FileSystem.resolve s.here (a.under root) :=
            fun heq => hl ⟨a, List.mem_cons_self, heq⟩
          have hothers : ¬ Places taken root s.here l :=
            fun ⟨b, hb, heq⟩ => hl ⟨b, List.mem_cons_of_mem _ hb, heq⟩
          rw [hsame l hothers, FileSystem.get?_put l (FileSystem.writable_ne_nil hwritable),
            if_neg hfirst]
      · cases hwrite

/-- Where nothing fails, every artifact is there. -/
theorem Takes.disk (h : Takes .machine (Sink.disk Session.host) root s artifacts written none s')
    (hapart : artifacts.Pairwise fun a b =>
      FileSystem.resolve s.here (a.under root) ≠ FileSystem.resolve s.here (b.under root)) :
    s' = { s with files := s'.files } ∧
      (∀ a ∈ artifacts, s'.files.Opens s.here (a.under root)
        (FileSystem.resolve s.here (a.under root)) (Text.encode a.content)) ∧
      ∀ l, ¬ Places artifacts root s.here l → s'.files.get? l = s.files.get? l := by
  obtain ⟨taken, rest, rfl, hrest, hfiles⟩ := h.files hapart
  rw [hrest.mp rfl, List.append_nil]
  exact hfiles

/-- Where every artifact can be written at first, every artifact is taken: to write one takes no
place away from the others. -/
theorem exists_takes (root : Path) {artifacts : List Artifact}
    (hwritable : ∀ a ∈ artifacts, ∃ l, s.files.writable s.here (a.under root) = .ok l) :
    ∃ written s', Takes .machine (Sink.disk Session.host) root s artifacts written none s' := by
  induction artifacts generalizing s with
  | nil => exact ⟨[], s, .done⟩
  | cons a rest ih =>
    obtain ⟨⟨l, hl⟩, hrest⟩ := List.forall_mem_cons.mp hwritable
    let s₁ : Session := { s with files := s.files.put l (.file (Text.encode a.content)) }
    have hcall : Execution.machine.run ((disk Session.host).write root a) s =
        (.ok (a.under root), s₁) := by
      rw [run_disk_write, FileSystem.write, hl]
      rfl
    have hput : FileSystem.Keeps (· = l) s.files s₁.files :=
      FileSystem.keeps_put (FileSystem.writable_ne_nil hl) (FileSystem.get?_of_writable hl)
    have hrest₁ : ∀ b ∈ rest, ∃ m, s₁.files.writable s₁.here (b.under root) = .ok m := by
      intro b hb
      obtain ⟨m, hm⟩ := hrest b hb
      refine ⟨m, FileSystem.writable_of_keeps hput.directory hm ?_⟩
      rw [FileSystem.get?_put m (FileSystem.writable_ne_nil hl)]
      split
      · simp
      · exact FileSystem.get?_of_writable hm
    obtain ⟨later, s', htakes⟩ := ih hrest₁
    exact ⟨_, s', .taken hcall htakes⟩

end Scaffold.Sink
