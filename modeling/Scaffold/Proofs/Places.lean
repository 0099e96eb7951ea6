import Scaffold.Proofs.Joining
import Scaffold.Storage.FileSystem

/-!
# Where paths lead

Without links the place that a path denotes can be read off its steps. What stands in a file
system decides only whether one gets there, and for that the directories on the way have to exist.

* `resolve`: the place that a path denotes; a plain name leads one step down.
* `walk_of_keeps`, `writable_of_keeps`: what can be reached stays within reach as long as no
  directory is taken away.
* `Keeps`: the rest of a file system stays while one file may change; every operation that
  succeeds is of this sort.
* `Opens`: a file with a given content stands where a path leads; it can be read and added to.
-/

namespace Scaffold

open Text (Bytes)

theorem bind_eq_ok_iff {ε α β : Type} {x : Except ε α} {f : α → Except ε β} {b : β} :
    x >>= f = .ok b ↔ ∃ a, x = .ok a ∧ f a = .ok b := by
  cases x with
  | error e =>
    constructor
    · intro h
      cases h
    · rintro ⟨a, h, _⟩
      cases h
  | ok a =>
    constructor
    · intro h
      exact ⟨a, rfl, h⟩
    · rintro ⟨_, ha, h⟩
      cases ha
      exact h

namespace FileSystem

/-! ### Places -/

/-- Where a step leads if it can be taken. -/
def follow (l : Location) (name : String) : Location :=
  if name = "." then l else if name = ".." then l.dropLast else l ++ [name]

/-- The place that a path denotes when the working directory is `here`. -/
def resolve (here : Location) (p : Path) : Location := p.steps.foldl follow (start here p)

theorem follow_name {l : Location} {name : String} (hdot : name ≠ ".") (hdots : name ≠ "..") :
    follow l name = l ++ [name] := by
  rw [follow, if_neg hdot, if_neg hdots]

/-- A plain name that is joined to a path leads one step down. -/
theorem resolve_join_name {p : Path} {s : String} (here : Location) (hs : Path.IsName s) :
    resolve here (p.join ⟨s⟩) = resolve here p ++ [s] := by
  rw [resolve, start, hs.isPiece.isAbsolute_join, hs.isPiece.steps_join, List.foldl_append]
  exact follow_name hs.ne_here hs.ne_parent

variable {fs fs' : FileSystem} {here l m : Location} {p : Path}

theorem checkDirectory_eq_ok_iff : fs.checkDirectory l = .ok () ↔ fs.get? l = some .directory := by
  unfold checkDirectory
  cases h : fs.get? l with
  | none => simp
  | some e => cases e <;> simp

/-- A name leads somewhere when it is short enough. -/
theorem child_eq_ok_iff {name : String} :
    child l name = .ok m ↔ name.utf8ByteSize ≤ nameLimit ∧ m = l ++ [name] := by
  unfold child
  by_cases hlong : name.utf8ByteSize > nameLimit
  · rw [if_pos hlong]
    constructor
    · intro h
      cases h
    · rintro ⟨hshort, _⟩
      exact absurd hshort (Nat.not_le.mpr hlong)
  · rw [if_neg hlong]
    constructor
    · intro h
      cases h
      exact ⟨Nat.not_lt.mp hlong, rfl⟩
    · rintro ⟨_, rfl⟩
      rfl

/-- A step can be taken from a directory, and to a name only if something stands there. -/
theorem step_eq_ok_iff {name : String} :
    fs.step l name = .ok m ↔
      fs.get? l = some .directory ∧ m = follow l name ∧
        (name = "." ∨ name = ".." ∨
          name.utf8ByteSize ≤ nameLimit ∧ (fs.get? m).isSome = true) := by
  unfold step
  rw [bind_eq_ok_iff]
  constructor
  · rintro ⟨_, hcheck, h⟩
    refine ⟨checkDirectory_eq_ok_iff.mp hcheck, ?_⟩
    by_cases hdot : name = "."
    · rw [if_pos hdot] at h
      cases h
      exact ⟨by rw [follow, if_pos hdot], Or.inl hdot⟩
    rw [if_neg hdot] at h
    by_cases hdots : name = ".."
    · rw [if_pos hdots] at h
      cases h
      exact ⟨by rw [follow, if_neg hdot, if_pos hdots], Or.inr (Or.inl hdots)⟩
    rw [if_neg hdots] at h
    obtain ⟨k, hchild, h⟩ := bind_eq_ok_iff.mp h
    obtain ⟨hshort, rfl⟩ := child_eq_ok_iff.mp hchild
    by_cases hthere : (fs.get? (l ++ [name])).isSome = true
    · rw [if_pos hthere] at h
      cases h
      exact ⟨(follow_name hdot hdots).symm, Or.inr (Or.inr ⟨hshort, hthere⟩)⟩
    · rw [if_neg hthere] at h
      cases h
  · rintro ⟨hdirectory, rfl, h⟩
    refine ⟨(), checkDirectory_eq_ok_iff.mpr hdirectory, ?_⟩
    by_cases hdot : name = "."
    · rw [if_pos hdot, follow, if_pos hdot]
      rfl
    rw [if_neg hdot]
    by_cases hdots : name = ".."
    · rw [if_pos hdots, follow, if_neg hdot, if_pos hdots]
      rfl
    rw [if_neg hdots]
    rcases h with h | h | ⟨hshort, hthere⟩
    · exact absurd h hdot
    · exact absurd h hdots
    · rw [follow_name hdot hdots] at hthere ⊢
      rw [bind_eq_ok_iff]
      refine ⟨l ++ [name], child_eq_ok_iff.mpr ⟨hshort, rfl⟩, ?_⟩
      rw [if_pos hthere]
      rfl

/-! ### Walking -/

theorem walk_cons_eq_ok_iff {name : String} {names : List String} :
    fs.walk l (name :: names) = .ok m ↔
      ∃ k, fs.step l name = .ok k ∧ fs.walk k names = .ok m := by
  rw [walk]
  exact bind_eq_ok_iff

theorem walk_append_eq_ok_iff {names more : List String} :
    fs.walk l (names ++ more) = .ok m ↔
      ∃ k, fs.walk l names = .ok k ∧ fs.walk k more = .ok m := by
  induction names generalizing l with
  | nil =>
    constructor
    · intro h
      exact ⟨l, rfl, h⟩
    · rintro ⟨k, hk, h⟩
      cases hk
      exact h
  | cons name names ih =>
    rw [List.cons_append, walk_cons_eq_ok_iff]
    constructor
    · rintro ⟨k, hstep, h⟩
      obtain ⟨k', hwalk, hmore⟩ := ih.mp h
      exact ⟨k', walk_cons_eq_ok_iff.mpr ⟨k, hstep, hwalk⟩, hmore⟩
    · rintro ⟨k', hwalk, hmore⟩
      obtain ⟨k, hstep, hwalk⟩ := walk_cons_eq_ok_iff.mp hwalk
      exact ⟨k, hstep, ih.mpr ⟨k', hwalk, hmore⟩⟩

/-- Wherever a walk gets, it is where its steps lead. -/
theorem walk_eq_foldl {names : List String} (h : fs.walk l names = .ok m) :
    m = names.foldl follow l := by
  induction names generalizing l with
  | nil =>
    cases h
    rfl
  | cons name names ih =>
    obtain ⟨k, hstep, hwalk⟩ := walk_cons_eq_ok_iff.mp h
    obtain ⟨_, rfl, _⟩ := step_eq_ok_iff.mp hstep
    exact ih hwalk

/-- A walk to a directory passes through directories only, so it can be repeated as long as they
are there. -/
theorem walk_of_keeps {names : List String}
    (hkeep : ∀ k, fs.get? k = some .directory → fs'.get? k = some .directory)
    (h : fs.walk l names = .ok m) (hm : fs.get? m = some .directory) :
    fs'.walk l names = .ok m := by
  induction names generalizing l with
  | nil => exact h
  | cons name names ih =>
    obtain ⟨k, hstep, hwalk⟩ := walk_cons_eq_ok_iff.mp h
    have hk : fs.get? k = some .directory := by
      cases names with
      | nil =>
        cases hwalk
        exact hm
      | cons next names =>
        obtain ⟨_, hnext, _⟩ := walk_cons_eq_ok_iff.mp hwalk
        exact (step_eq_ok_iff.mp hnext).1
    obtain ⟨hl, hfollow, hreach⟩ := step_eq_ok_iff.mp hstep
    refine walk_cons_eq_ok_iff.mpr ⟨k, step_eq_ok_iff.mpr ⟨hkeep l hl, hfollow, ?_⟩, ih hwalk⟩
    rcases hreach with hdot | hdots | ⟨hshort, _⟩
    · exact Or.inl hdot
    · exact Or.inr (Or.inl hdots)
    · refine Or.inr (Or.inr ⟨hshort, ?_⟩)
      rw [hkeep k hk]
      rfl

theorem walk_of_locate (h : fs.locate here p = .ok m) : fs.walk (start here p) p.steps = .ok m := by
  obtain ⟨_, _, h⟩ := bind_eq_ok_iff.mp h
  obtain ⟨k, hwalk, h⟩ := bind_eq_ok_iff.mp h
  by_cases hslash : p.endsInSlash = true
  · simp only [if_pos hslash] at h
    obtain ⟨_, _, h⟩ := bind_eq_ok_iff.mp h
    cases h
    exact hwalk
  · simp only [if_neg hslash] at h
    cases h
    exact hwalk

/-- What is read is the file that stands where the path leads. -/
theorem get?_of_read {content : Bytes} (h : fs.read here p = .ok content) :
    fs.get? (resolve here p) = some (.file content) := by
  obtain ⟨l, hlocate, hentry⟩ := bind_eq_ok_iff.mp h
  have hl : l = resolve here p := walk_eq_foldl (walk_of_locate hlocate)
  subst hl
  split at hentry
  · next hfile =>
    cases hentry
    exact hfile
  · cases hentry
  · cases hentry

/-! ### Targets -/

/-- A path names a place in a directory when all steps but the last lead there. -/
theorem target_eq_place_iff {d : Location} {name : String} :
    fs.target here p = .ok (.place d name) ↔
      checkPath p = .ok () ∧ name ≠ "." ∧ name ≠ ".." ∧
        ∃ names, p.steps = names ++ [name] ∧ fs.walk (start here p) names = .ok d ∧
          fs.get? d = some .directory := by
  unfold target
  rw [bind_eq_ok_iff]
  constructor
  · rintro ⟨_, hpath, h⟩
    cases hlast : p.steps.getLast? with
    | none =>
      rw [hlast] at h
      cases h
    | some last =>
      rw [hlast] at h
      obtain ⟨k, hwalk, h⟩ := bind_eq_ok_iff.mp h
      obtain ⟨_, hcheck, h⟩ := bind_eq_ok_iff.mp h
      by_cases hdots : (last = "." || last = "..") = true
      · rw [if_pos hdots] at h
        cases h
      · rw [if_neg hdots] at h
        cases h
        obtain ⟨names, hsteps⟩ := List.getLast?_eq_some_iff.mp hlast
        rw [hsteps, List.dropLast_concat] at hwalk
        refine ⟨hpath, ?_, ?_, names, hsteps, hwalk, checkDirectory_eq_ok_iff.mp hcheck⟩
        · rintro rfl
          exact hdots rfl
        · rintro rfl
          exact hdots rfl
  · rintro ⟨hpath, hdot, hdots, names, hsteps, hwalk, hd⟩
    refine ⟨(), hpath, ?_⟩
    have hlast : p.steps.getLast? = some name := by rw [hsteps, List.getLast?_concat]
    rw [hlast]
    refine bind_eq_ok_iff.mpr ⟨d, ?_, bind_eq_ok_iff.mpr ⟨(), ?_, ?_⟩⟩
    · rw [hsteps, List.dropLast_concat]
      exact hwalk
    · exact checkDirectory_eq_ok_iff.mpr hd
    · rw [if_neg (by simp [hdot, hdots])]
      rfl

theorem target_eq_resolve {d : Location} {name : String}
    (h : fs.target here p = .ok (.place d name)) : d ++ [name] = resolve here p := by
  obtain ⟨_, hdot, hdots, names, hsteps, hwalk, _⟩ := target_eq_place_iff.mp h
  rw [resolve, hsteps, List.foldl_append, ← walk_eq_foldl hwalk]
  exact (follow_name hdot hdots).symm

theorem writable_eq_ok_iff :
    fs.writable here p = .ok l ↔
      ∃ d name, fs.target here p = .ok (.place d name) ∧ p.endsInSlash = false ∧
        name.utf8ByteSize ≤ nameLimit ∧ l = d ++ [name] ∧ fs.get? l ≠ some .directory := by
  unfold writable
  rw [bind_eq_ok_iff]
  constructor
  · rintro ⟨t, htarget, h⟩
    cases t with
    | existing => cases h
    | place d name =>
      by_cases hslash : p.endsInSlash = true
      · simp only [if_pos hslash] at h
        cases h
      · simp only [if_neg hslash] at h
        obtain ⟨k, hchild, h⟩ := bind_eq_ok_iff.mp h
        obtain ⟨hshort, rfl⟩ := child_eq_ok_iff.mp hchild
        by_cases hdirectory : fs.get? (d ++ [name]) = some .directory
        · rw [if_pos (by rw [hdirectory]; rfl)] at h
          cases h
        · rw [if_neg (by simpa using hdirectory)] at h
          cases h
          exact ⟨d, name, htarget, Bool.eq_false_iff.mpr hslash, hshort, rfl, hdirectory⟩
  · rintro ⟨d, name, htarget, hslash, hshort, rfl, hdirectory⟩
    refine ⟨.place d name, htarget, ?_⟩
    simp only [hslash, Bool.false_eq_true, if_false]
    refine bind_eq_ok_iff.mpr ⟨d ++ [name], child_eq_ok_iff.mpr ⟨hshort, rfl⟩, ?_⟩
    rw [if_neg (by simpa using hdirectory)]
    rfl

/-- A file is written where its path leads. -/
theorem writable_eq_resolve (h : fs.writable here p = .ok l) : l = resolve here p := by
  obtain ⟨d, name, htarget, _, _, rfl, _⟩ := writable_eq_ok_iff.mp h
  exact target_eq_resolve htarget

theorem writable_ne_nil (h : fs.writable here p = .ok l) : l ≠ [] := by
  obtain ⟨d, name, _, _, _, rfl, _⟩ := writable_eq_ok_iff.mp h
  exact List.concat_ne_nil name d

theorem get?_of_writable (h : fs.writable here p = .ok l) : fs.get? l ≠ some .directory := by
  obtain ⟨_, _, _, _, _, _, hdirectory⟩ := writable_eq_ok_iff.mp h
  exact hdirectory

/-- A directory is made at a place in a directory where nothing stands. -/
theorem makeDirectory_eq_ok_iff :
    fs.makeDirectory here p = .ok fs' ↔
      ∃ d name, fs.target here p = .ok (.place d name) ∧ name.utf8ByteSize ≤ nameLimit ∧
        fs.get? (d ++ [name]) = none ∧ fs' = fs.put (d ++ [name]) .directory := by
  unfold makeDirectory
  rw [bind_eq_ok_iff]
  constructor
  · rintro ⟨t, htarget, h⟩
    cases t with
    | existing => cases h
    | place d name =>
      obtain ⟨l, hchild, h⟩ := bind_eq_ok_iff.mp h
      obtain ⟨hshort, rfl⟩ := child_eq_ok_iff.mp hchild
      by_cases hthere : (fs.get? (d ++ [name])).isSome = true
      · rw [if_pos hthere] at h
        cases h
      · rw [if_neg hthere] at h
        cases h
        exact ⟨d, name, htarget, hshort, by simpa using hthere, rfl⟩
  · rintro ⟨d, name, htarget, hshort, hnothing, rfl⟩
    refine ⟨.place d name, htarget, ?_⟩
    refine bind_eq_ok_iff.mpr ⟨d ++ [name], child_eq_ok_iff.mpr ⟨hshort, rfl⟩, ?_⟩
    rw [if_neg (by simp [hnothing])]
    rfl

theorem writable_of_keeps
    (hkeep : ∀ k, fs.get? k = some .directory → fs'.get? k = some .directory)
    (h : fs.writable here p = .ok l) (hl : fs'.get? l ≠ some .directory) :
    fs'.writable here p = .ok l := by
  obtain ⟨d, name, htarget, hslash, hshort, rfl, _⟩ := writable_eq_ok_iff.mp h
  obtain ⟨hpath, hdot, hdots, names, hsteps, hwalk, hd⟩ := target_eq_place_iff.mp htarget
  refine writable_eq_ok_iff.mpr ⟨d, name, ?_, hslash, hshort, rfl, hl⟩
  exact target_eq_place_iff.mpr
    ⟨hpath, hdot, hdots, names, hsteps, walk_of_keeps hkeep hwalk hd, hkeep d hd⟩

/-- What has been written can be read. -/
theorem read_of_writable {content : Bytes} (h : fs.writable here p = .ok l)
    (hl : fs.get? l = some (.file content)) : fs.read here p = .ok content := by
  obtain ⟨d, name, htarget, hslash, hshort, rfl, _⟩ := writable_eq_ok_iff.mp h
  obtain ⟨hpath, hdot, hdots, names, hsteps, hwalk, hd⟩ := target_eq_place_iff.mp htarget
  have hstep : fs.step d name = .ok (d ++ [name]) := by
    refine step_eq_ok_iff.mpr ⟨hd, (follow_name hdot hdots).symm, Or.inr (Or.inr ⟨hshort, ?_⟩)⟩
    rw [hl]
    rfl
  have hlast : fs.walk d [name] = .ok (d ++ [name]) := walk_cons_eq_ok_iff.mpr ⟨_, hstep, rfl⟩
  have hlocate : fs.locate here p = .ok (d ++ [name]) := by
    refine bind_eq_ok_iff.mpr ⟨(), hpath, bind_eq_ok_iff.mpr ⟨d ++ [name], ?_, ?_⟩⟩
    · rw [hsteps]
      exact walk_append_eq_ok_iff.mpr ⟨d, hwalk, hlast⟩
    · simp only [hslash, Bool.false_eq_true, if_false]
      rfl
  refine bind_eq_ok_iff.mpr ⟨d ++ [name], hlocate, ?_⟩
  rw [hl]
  rfl

theorem checkPath_eq_ok_iff :
    checkPath p = .ok () ↔
      '\x00' ∉ p.text.toList ∧ p.text ≠ "" ∧ p.text.utf8ByteSize ≤ pathLimit := by
  unfold checkPath
  by_cases hnul : '\x00' ∈ p.text.toList
  · have hcontains : p.text.toList.contains '\x00' = true := List.contains_iff_mem.mpr hnul
    rw [if_pos hcontains]
    simp [hnul, throw, throwThe, MonadExceptOf.throw, bind, Except.bind]
  have hcontains : ¬ p.text.toList.contains '\x00' = true := mt List.contains_iff_mem.mp hnul
  rw [if_neg hcontains]
  by_cases hempty : p.text = ""
  · rw [if_pos (String.isEmpty_iff.mpr hempty)]
    simp [hempty, throw, throwThe, MonadExceptOf.throw, bind, Except.bind]
  rw [if_neg (mt String.isEmpty_iff.mp hempty)]
  by_cases hlong : p.text.utf8ByteSize > pathLimit
  · rw [if_pos hlong]
    simp [Nat.not_le.mpr hlong, throw, throwThe, MonadExceptOf.throw]
  · rw [if_neg hlong]
    simp [hnul, hempty, Nat.not_lt.mp hlong, pure, Except.pure]

/-- Joining a name to a path makes no fault unless the result gets too long. -/
theorem checkPath_join_name {name : String} (hname : Path.IsName name) (hp : '\x00' ∉ p.text.toList)
    (hnul : '\x00' ∉ name.toList)
    (hshort : p.text.utf8ByteSize + 1 + name.utf8ByteSize ≤ pathLimit) :
    checkPath (p.join ⟨name⟩) = .ok () := by
  obtain ⟨slash, hslash, htext⟩ := Path.exists_text_join p hname.isAbsolute
  rw [checkPath_eq_ok_iff, htext]
  refine ⟨?_, ?_, ?_⟩
  · rcases hslash with rfl | rfl <;> simp [hp, hnul]
  · simp [hname.ne_empty]
  · have hslash' : slash.utf8ByteSize ≤ 1 := by rcases hslash with rfl | rfl <;> decide
    rw [String.utf8ByteSize_append, String.utf8ByteSize_append]
    change p.text.utf8ByteSize + slash.utf8ByteSize + name.utf8ByteSize ≤ pathLimit
    omega

/-- A plain name of something in a directory can be walked to. -/
theorem walk_join_name {name : String} (hname : Path.IsName name)
    (hshort : name.utf8ByteSize ≤ nameLimit)
    (hwalk : fs.walk (start here p) p.steps = .ok l) (hl : fs.get? l = some .directory)
    (hthere : (fs.get? (l ++ [name])).isSome = true) :
    fs.walk (start here (p.join ⟨name⟩)) (p.join ⟨name⟩).steps = .ok (l ++ [name]) := by
  have hstep : fs.step l name = .ok (l ++ [name]) :=
    step_eq_ok_iff.mpr ⟨hl, (follow_name hname.ne_here hname.ne_parent).symm,
      Or.inr (Or.inr ⟨hshort, hthere⟩)⟩
  rw [start, hname.isPiece.isAbsolute_join, hname.isPiece.steps_join]
  exact walk_append_eq_ok_iff.mpr ⟨l, hwalk, walk_cons_eq_ok_iff.mpr ⟨_, hstep, rfl⟩⟩

/-- A plain name can be written in a directory, unless a directory of this name is there. -/
theorem writable_join_name {name : String} (hname : Path.IsName name)
    (hshort : name.utf8ByteSize ≤ nameLimit) (hpath : checkPath (p.join ⟨name⟩) = .ok ())
    (hwalk : fs.walk (start here p) p.steps = .ok l) (hl : fs.get? l = some .directory)
    (hfree : fs.get? (l ++ [name]) ≠ some .directory) :
    fs.writable here (p.join ⟨name⟩) = .ok (l ++ [name]) := by
  have hstart : start here (p.join ⟨name⟩) = start here p := by
    rw [start, hname.isPiece.isAbsolute_join, start]
  have htarget : fs.target here (p.join ⟨name⟩) = .ok (.place l name) := by
    refine target_eq_place_iff.mpr ⟨hpath, hname.ne_here, hname.ne_parent, p.steps,
      hname.isPiece.steps_join p, ?_, hl⟩
    rw [hstart]
    exact hwalk
  exact writable_eq_ok_iff.mpr ⟨l, name, htarget, hname.isPiece.endsInSlash_join p, hshort, rfl,
    hfree⟩

/-! ### What stays -/

/-- Everything that stands in `fs` still stands in `fs'`, except for the content of files where it
is `free` to change. -/
def Keeps (free : Location → Prop) (fs fs' : FileSystem) : Prop :=
  ∀ k e, fs.get? k = some e → e = .directory ∨ ¬ free k → fs'.get? k = some e

/-- Nowhere is anything free to change. -/
def nowhere : Location → Prop := fun _ => False

variable {free : Location → Prop}

theorem Keeps.refl (fs : FileSystem) : Keeps free fs fs := fun _ _ h _ => h

theorem Keeps.trans {fs'' : FileSystem} (h : Keeps free fs fs') (h' : Keeps free fs' fs'') :
    Keeps free fs fs'' := by
  intro k e hk hfree
  exact h' k e (h k e hk hfree) hfree

theorem Keeps.mono {free' : Location → Prop} (h : Keeps free fs fs')
    (hfree : ∀ l, free l → free' l) : Keeps free' fs fs' := by
  intro k e hk he
  exact h k e hk (he.imp_right (mt (hfree k)))

theorem Keeps.directory (h : Keeps free fs fs') :
    ∀ k, fs.get? k = some .directory → fs'.get? k = some .directory := by
  intro k hk
  exact h k .directory hk (Or.inl rfl)

theorem keeps_put {content : Bytes} (hl : l ≠ []) (hfile : fs.get? l ≠ some .directory) :
    Keeps (· = l) fs (fs.put l (.file content)) := by
  intro k e hk hfree
  have hkl : k ≠ l := by
    rintro rfl
    rcases hfree with rfl | hfree
    · exact hfile hk
    · exact hfree rfl
  rw [get?_put k hl, if_neg hkl, hk]

theorem keeps_write {content : Bytes} (h : fs.write here p content = .ok fs') :
    Keeps (· = resolve here p) fs fs' := by
  obtain ⟨l, hwritable, h⟩ := bind_eq_ok_iff.mp h
  cases h
  rw [← writable_eq_resolve hwritable]
  exact keeps_put (writable_ne_nil hwritable) (get?_of_writable hwritable)

theorem keeps_makeDirectory (h : fs.makeDirectory here p = .ok fs') : Keeps nowhere fs fs' := by
  obtain ⟨d, name, _, _, hnothing, rfl⟩ := makeDirectory_eq_ok_iff.mp h
  intro k e hk _
  have hkl : k ≠ d ++ [name] := by
    rintro rfl
    rw [hnothing] at hk
    cases hk
  rw [get?_put k (List.concat_ne_nil name d), if_neg hkl, hk]

/-! ### Files within reach -/

/-- A file stands where a path leads, and it can be written there. -/
structure Opens (fs : FileSystem) (here : Location) (p : Path) (l : Location) (content : Bytes) :
    Prop where
  writable : fs.writable here p = .ok l
  file : fs.get? l = some (.file content)

namespace Opens

variable {content content' : Bytes}

theorem read (h : Opens fs here p l content) : fs.read here p = .ok content :=
  read_of_writable h.writable h.file

theorem contentAt (h : Opens fs here p l content) : fs.contentAt l = content := by
  rw [FileSystem.contentAt, h.file]

/-- A file stays within reach while no directory is taken away and its content is kept. -/
theorem of_keeps (h : Opens fs here p l content) (hkeeps : Keeps free fs fs') (hl : ¬ free l) :
    Opens fs' here p l content := by
  have hfile := hkeeps l _ h.file (Or.inr hl)
  refine ⟨writable_of_keeps hkeeps.directory h.writable ?_, hfile⟩
  rw [hfile]
  intro heq
  cases heq

/-- What is put where a path leads is within reach. -/
theorem put (h : fs.writable here p = .ok l) :
    Opens (fs.put l (.file content)) here p l content := by
  have hne := writable_ne_nil h
  have hfile : (fs.put l (.file content)).get? l = some (.file content) := by
    rw [get?_put l hne, if_pos rfl]
  refine ⟨writable_of_keeps (keeps_put hne (get?_of_writable h)).directory h ?_, hfile⟩
  rw [hfile]
  intro heq
  cases heq

end Opens

/-- Of two entries put at one location the later one stays. -/
theorem put_put (e e' : Entry) : (fs.put l e).put l e' = fs.put l e' := by
  simp [put]

end FileSystem

end Scaffold
