import Scaffold.Proofs.Ancestors
import Scaffold.Proofs.Relational

/-!
# Changes elsewhere

What is done at a path depends on the places on its way only. Two file systems that differ at a
place off the way are the same to it, and they differ there alone afterwards.

* `onTheWay_iff_exists_mem_chain`: the places on the way of a path are those of the paths that it
  lies in, and the place where it starts.
* `AgreeOff`: file systems with the same entries everywhere but at one place.
* `AgreeOff.walk`, `AgreeOff.target`, `AgreeOff.write`, `AgreeOff.makeDirectory`: operations on
  paths that do not come by that place.
* `Session.SameOff`: the same for sessions. `tied_disk_prepare`, `tied_disk_write` are about the
  sink that puts artifacts into files.
-/

namespace Scaffold

open Text (Bytes)

/-- Only a path without moves has no parent. -/
theorem Path.exists_parent {p : Path} (h : p.moves ≠ []) : ∃ q, p.parent? = some q := by
  obtain ⟨front, _, hcomponents⟩ := exists_front p
  rcases List.eq_nil_or_concat p.moves with hnil | ⟨names, s, hmoves⟩
  · exact absurd hnil h
  · have hlast : p.components.getLast? = some (Component.ofStep s) := by
      rw [hcomponents, hmoves, List.concat_eq_append, List.map_append, ← List.append_assoc]
      exact List.getLast?_concat
    have hroot := Component.ofStep_ne_root s
    unfold parent?
    rw [hlast]
    split
    · next heq => cases heq
    · next heq => exact absurd (Option.some.inj heq) hroot
    · exact ⟨_, rfl⟩

namespace FileSystem

variable {fs fs' : FileSystem} {here l m : Location} {p : Path} {name : String}
  {names : List String}

/-! ### Places on the way -/

theorem onTheWay_start (here : Location) (p : Path) : OnTheWay here p (start here p) :=
  ⟨[], List.nil_prefix, rfl⟩

/-- A path starts somewhere and comes by the places of the paths that it lies in. -/
theorem onTheWay_iff_exists_mem_chain :
    OnTheWay here p l ↔ l = start here p ∨ ∃ q ∈ p.chain, l = resolve here q := by
  constructor
  · intro h
    obtain ⟨moves, hmoves, rfl⟩ := onTheWay_iff_moves.mp h
    clear h
    have hlength : p.moves.length ≤ p.components.length := by
      obtain ⟨front, _, hcomponents⟩ := Path.exists_front p
      rw [hcomponents, List.length_append, List.length_map]
      exact Nat.le_add_left _ _
    unfold Path.chain
    generalize p.components.length = n at hlength
    -- Unless the moves are all those of the path, they are those of its parent.
    induction n generalizing p with
    | zero =>
      rw [List.length_eq_zero_iff.mp (Nat.le_zero.mp hlength)] at hmoves
      rw [List.prefix_nil.mp hmoves]
      exact Or.inl rfl
    | succ n ih =>
      rcases List.eq_nil_or_concat p.moves with hnone | ⟨names, s, hsome⟩
      · rw [hnone] at hmoves
        rw [List.prefix_nil.mp hmoves]
        exact Or.inl rfl
      rw [List.concat_eq_append] at hsome
      obtain ⟨parent, hparent⟩ := Path.exists_parent (p := p) (by rw [hsome]; simp)
      obtain ⟨habs, hdrop⟩ := Path.moves_parent hparent
      rw [hsome, List.dropLast_concat] at hdrop
      rw [hsome] at hmoves hlength
      rw [Path.chain.go, hparent]
      rcases List.prefix_concat_iff.mp hmoves with rfl | hbefore
      · refine Or.inr ⟨p, List.mem_cons_self, ?_⟩
        rw [← hsome]
        exact foldl_follow_moves p.steps _
      · have hstart : start here parent = start here p := by rw [start, start, habs]
        have hshort : parent.moves.length ≤ n := by
          rw [hdrop]
          simpa using hlength
        rw [← hdrop] at hbefore
        rw [← hstart]
        rcases ih hbefore hshort with hat | ⟨q, hq, hat⟩
        · exact Or.inl hat
        · exact Or.inr ⟨q, List.mem_cons_of_mem _ hq, hat⟩
  · rintro (rfl | ⟨q, hq, rfl⟩)
    · exact onTheWay_start here p
    · exact onTheWay_of_mem_chain hq (onTheWay_resolve here q)

/-! ### File systems -/

/-- The same stands in both file systems, except at one place. -/
def AgreeOff (l : Location) (fs fs' : FileSystem) : Prop := ∀ k, k ≠ l → fs.get? k = fs'.get? k

namespace AgreeOff

theorem symm (h : AgreeOff l fs fs') : AgreeOff l fs' fs := fun k hk => (h k hk).symm

theorem trans {fs'' : FileSystem} (h : AgreeOff l fs fs') (h' : AgreeOff l fs' fs'') :
    AgreeOff l fs fs'' := fun k hk => (h k hk).trans (h' k hk)

theorem put (h : AgreeOff l fs fs') (hm : m ≠ []) (e : Entry) :
    AgreeOff l (fs.put m e) (fs'.put m e) := by
  intro k hk
  rw [get?_put k hm, get?_put k hm, h k hk]

theorem checkDirectory (h : AgreeOff l fs fs') (hm : m ≠ l) :
    fs.checkDirectory m = fs'.checkDirectory m := by
  rw [FileSystem.checkDirectory, FileSystem.checkDirectory, h m hm]

theorem step (h : AgreeOff l fs fs') (hm : m ≠ l) (hnext : follow m name ≠ l) :
    fs.step m name = fs'.step m name := by
  unfold FileSystem.step
  rw [h.checkDirectory hm]
  by_cases hdot : name = "."
  · rw [if_pos hdot, if_pos hdot]
  by_cases hdots : name = ".."
  · rw [if_neg hdot, if_neg hdot, if_pos hdots, if_pos hdots]
  rw [follow_name hdot hdots] at hnext
  rw [if_neg hdot, if_neg hdot, if_neg hdots, if_neg hdots]
  cases hchild : child m name with
  | error fault => rfl
  | ok k =>
    obtain ⟨_, rfl⟩ := child_eq_ok_iff.mp hchild
    dsimp only [bind, Except.bind]
    rw [h _ hnext]

theorem walk (h : AgreeOff l fs fs')
    (hway : ∀ first, first <+: names → first.foldl follow m ≠ l) :
    fs.walk m names = fs'.walk m names := by
  induction names generalizing m with
  | nil => rfl
  | cons name names ih =>
    have hstep : fs.step m name = fs'.step m name :=
      h.step (hway [] List.nil_prefix) (hway [name] (List.cons_prefix_cons.mpr ⟨rfl, List.nil_prefix⟩))
    rw [FileSystem.walk, FileSystem.walk, hstep]
    cases hnext : fs'.step m name with
    | error fault => rfl
    | ok k =>
      obtain ⟨_, rfl, _⟩ := step_eq_ok_iff.mp hnext
      exact ih fun first hfirst => hway (name :: first) (List.cons_prefix_cons.mpr ⟨rfl, hfirst⟩)

theorem locate (h : AgreeOff l fs fs') (hway : ¬ OnTheWay here p l) :
    fs.locate here p = fs'.locate here p := by
  have hwalk : fs.walk (start here p) p.steps = fs'.walk (start here p) p.steps :=
    h.walk fun first hfirst heq => hway ⟨first, hfirst, heq.symm⟩
  unfold FileSystem.locate
  rw [hwalk]
  cases hplace : fs'.walk (start here p) p.steps with
  | error fault => rfl
  | ok k =>
    have hk : k ≠ l := fun heq => hway ⟨p.steps, List.prefix_rfl, heq ▸ walk_eq_foldl hplace⟩
    dsimp only [bind, Except.bind]
    rw [h.checkDirectory hk]

theorem isDirectory (h : AgreeOff l fs fs') (hway : ¬ OnTheWay here p l) :
    fs.isDirectory here p = fs'.isDirectory here p := by
  unfold FileSystem.isDirectory
  rw [h.locate hway]
  cases hplace : fs'.locate here p with
  | error fault => rfl
  | ok k =>
    have hk : k ≠ l := fun heq =>
      hway ⟨p.steps, List.prefix_rfl, heq ▸ walk_eq_foldl (walk_of_locate hplace)⟩
    dsimp only
    rw [h k hk]

theorem target (h : AgreeOff l fs fs') (hway : ¬ OnTheWay here p l) :
    fs.target here p = fs'.target here p := by
  have hwalk : fs.walk (start here p) p.steps.dropLast =
      fs'.walk (start here p) p.steps.dropLast :=
    h.walk fun first hfirst heq =>
      hway ⟨first, hfirst.trans (List.dropLast_prefix _), heq.symm⟩
  unfold FileSystem.target
  rw [hwalk]
  cases hplace : fs'.walk (start here p) p.steps.dropLast with
  | error fault => rfl
  | ok k =>
    have hk : k ≠ l := fun heq =>
      hway ⟨p.steps.dropLast, List.dropLast_prefix _, heq ▸ walk_eq_foldl hplace⟩
    cases p.steps.getLast? with
    | none => rfl
    | some name =>
      dsimp only [bind, Except.bind]
      rw [h.checkDirectory hk]

theorem writable (h : AgreeOff l fs fs') (hway : ¬ OnTheWay here p l) :
    fs.writable here p = fs'.writable here p := by
  unfold FileSystem.writable
  rw [h.target hway]
  cases htarget : fs'.target here p with
  | error fault => rfl
  | ok place =>
    cases place with
    | existing => rfl
    | place d name =>
      have hplace : d ++ [name] ≠ l := fun heq =>
        hway ⟨p.steps, List.prefix_rfl, heq ▸ target_eq_resolve htarget⟩
      cases hchild : child d name with
      | error fault =>
        dsimp only [bind, Except.bind]
        rw [hchild]
      | ok k =>
        obtain ⟨_, rfl⟩ := child_eq_ok_iff.mp hchild
        dsimp only [bind, Except.bind]
        rw [hchild]
        dsimp only
        rw [h _ hplace]

end AgreeOff

/-- What a change comes to in two file systems: the same fault, or file systems that agree. -/
inductive ChangesAlike (l : Location) :
    Except Fault FileSystem → Except Fault FileSystem → Prop where
  | fault (f : Fault) : ChangesAlike l (.error f) (.error f)
  | done {left right : FileSystem} :
      AgreeOff l left right → ChangesAlike l (.ok left) (.ok right)

theorem AgreeOff.write (h : AgreeOff l fs fs') (hway : ¬ OnTheWay here p l) (content : Bytes) :
    ChangesAlike l (fs.write here p content) (fs'.write here p content) := by
  unfold FileSystem.write
  rw [h.writable hway]
  cases hwritable : fs'.writable here p with
  | error fault => exact .fault fault
  | ok k => exact .done (h.put (writable_ne_nil hwritable) _)

theorem AgreeOff.makeDirectory (h : AgreeOff l fs fs') (hway : ¬ OnTheWay here p l) :
    ChangesAlike l (fs.makeDirectory here p) (fs'.makeDirectory here p) := by
  unfold FileSystem.makeDirectory
  rw [h.target hway]
  cases htarget : fs'.target here p with
  | error fault => exact .fault fault
  | ok place =>
    cases place with
    | existing => exact .fault _
    | place d name =>
      have hplace : d ++ [name] ≠ l := fun heq =>
        hway ⟨p.steps, List.prefix_rfl, heq ▸ target_eq_resolve htarget⟩
      cases hchild : child d name with
      | error fault =>
        dsimp only [bind, Except.bind]
        rw [hchild]
        exact .fault fault
      | ok k =>
        obtain ⟨_, rfl⟩ := child_eq_ok_iff.mp hchild
        dsimp only [bind, Except.bind]
        rw [hchild]
        dsimp only
        rw [h _ hplace]
        split
        · exact .fault _
        · exact .done (h.put (List.concat_ne_nil name d) _)

/-- What is added to a file changes the place of the file only. -/
theorem agreeOff_append {content : Bytes} (h : fs.append here p content = .ok fs') :
    AgreeOff (resolve here p) fs fs' := by
  obtain ⟨k, hwritable, hput⟩ := bind_eq_ok_iff.mp h
  cases hput
  intro m hm
  rw [get?_put m (writable_ne_nil hwritable), writable_eq_resolve hwritable, if_neg hm]

end FileSystem

/-! ### Sessions -/

namespace Session

/-- Two sessions in a working directory, the same but for what stands at one place and for what has
been warned of. -/
structure SameOff (here l : Location) (s s' : Session) : Prop where
  left : s.here = here
  right : s'.here = here
  files : FileSystem.AgreeOff l s.files s'.files
  terminal : s.terminal = s'.terminal
  now : s.now = s'.now
  uptime : s.uptime = s'.uptime

variable {here l : Location} {p : Path}

theorem SameOff.refl (l : Location) (s : Session) : SameOff s.here l s s :=
  ⟨rfl, rfl, fun _ _ => rfl, rfl, rfl, rfl⟩

/-- A change that comes to the same in file systems that agree can be made in both sessions. -/
theorem tied_settle (step : FileSystem → Location → Except Fault FileSystem)
    (hstep : ∀ fs fs', FileSystem.AgreeOff l fs fs' →
      FileSystem.ChangesAlike l (step fs here) (step fs' here)) :
    Tied (SameOff here l) _ _ Eq (fun s : Session => s.settle (step s.files s.here))
      (fun s : Session => s.settle (step s.files s.here)) := by
  intro s s' h
  obtain rfl := h.left
  have hchange := hstep s.files s'.files h.files
  dsimp only
  rw [h.right]
  generalize step s.files s.here = made at hchange
  generalize step s'.files s.here = made' at hchange
  cases hchange with
  | fault f => exact ⟨rfl, h⟩
  | done hagree => exact ⟨rfl, { h with files := hagree }⟩

theorem tied_makeDirectory (hway : ¬ FileSystem.OnTheWay here p l) :
    Tied (SameOff here l) _ _ Eq (host.makeDirectory p) (host.makeDirectory p) :=
  tied_settle (fun files here => files.makeDirectory here p) fun _ _ hagree =>
    hagree.makeDirectory hway

theorem tied_write (hway : ¬ FileSystem.OnTheWay here p l) (bytes : Bytes) :
    Tied (SameOff here l) _ _ Eq (host.write p bytes) (host.write p bytes) :=
  tied_settle (fun files here => files.write here p bytes) fun _ _ hagree =>
    hagree.write hway bytes

theorem tied_isDirectory (hway : ¬ FileSystem.OnTheWay here p l) :
    Tied (SameOff here l) _ _ Eq (host.isDirectory p) (host.isDirectory p) := by
  intro s s' h
  refine ⟨?_, h⟩
  change s.files.isDirectory s.here p = s'.files.isDirectory s'.here p
  rw [h.left, h.right, h.files.isDirectory hway]

/-- Folders that are not reached by way of the place are made in both sessions, or in neither. -/
theorem tied_makeFolders {root : Path}
    (hway : ∀ f : Folder, ¬ FileSystem.OnTheWay here (f.under root) l) :
    Tied (SameOff here l) _ _ Eq ((Sink.disk host).prepare root) ((Sink.disk host).prepare root) := by
  have hchain : ∀ f ∈ Folder.all, ∀ p ∈ (f.under root).chain, ¬ FileSystem.OnTheWay here p l :=
    fun f _ p hp hon => hway f (FileSystem.onTheWay_of_mem_chain hp hon)
  exact (relational_tied (SameOff here l)).compositional.makeFolders
    (fun f hf p hp => tied_isDirectory (hchain f hf p hp))
    fun f hf p hp => tied_makeDirectory (hchain f hf p hp)

theorem tied_writeArtifact {root : Path} {a : Artifact}
    (hway : ¬ FileSystem.OnTheWay here (a.under root) l) :
    Tied (SameOff here l) _ _ Eq ((Sink.disk host).write root a) ((Sink.disk host).write root a) := by
  refine (relational_tied (SameOff here l)).bind (tied_write hway _) ?_
  rintro result _ rfl
  cases result with
  | error fault => exact (relational_tied _).pure rfl
  | ok u => exact (relational_tied _).pure rfl

end Session

end Scaffold
