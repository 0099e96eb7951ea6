import Scaffold.Proofs.Ancestors
import Scaffold.Proofs.DryRun
import Scaffold.Proofs.FamilyNames

/-!
# Staying below the output path

The service of an entity goes to a directory below the output path, unless the name of the solution
begins with a slash: joining such a name forgets the output path. What a run hands to its sink is
found out by listening to the sink, which changes nothing in the run.

* `Path.IsBelow`: a path continues another one. `isBelow_join` says when a joined path does.
* `Sink.overheard`: a sink with a record of the paths it is handed and gives back.
* `Delivery.overheard`: what is heard in a delivery.
* `paths_below_iff`: everything that a run hands to its sink is below the output path, exactly when
  the solution has a relative name or there is nothing to forget.
-/

namespace Scaffold

namespace Path

/-! ### Paths below a path -/

/-- The path begins with the components of another one and goes on with the moves of the text. -/
structure IsBelow (base : Path) (rest : String) (p : Path) : Prop where
  components : base.components <+: p.components
  moves : p.moves = base.moves ++ Path.moves ⟨rest⟩

variable {p q base : Path} {rest : String}

theorem moves_join (hq : q.isAbsolute = false) : (p.join q).moves = p.moves ++ q.moves := by
  rw [moves, steps_join hq, List.filter_append]
  rfl

theorem moves_name {s : String} (hs : IsName s) : Path.moves ⟨s⟩ = [s] := by
  rw [moves, hs.steps]
  exact List.filter_eq_self.mpr fun t ht => by simpa [List.mem_singleton.mp ht] using hs.ne_here

theorem moves_append_slash (s t : String) :
    Path.moves ⟨s ++ "/" ++ t⟩ = Path.moves ⟨s⟩ ++ Path.moves ⟨t⟩ := by
  rw [moves, steps_append_slash, List.filter_append]
  rfl

/-- Joining a relative path leaves the components in front of it alone. -/
theorem components_prefix_join (hq : q.isAbsolute = false) :
    p.components <+: (p.join q).components := by
  have hmap : ∀ names more : List String,
      (names.filter (· ≠ ".")).map Component.ofStep <+:
        ((names ++ more).filter (· ≠ ".")).map Component.ofStep := by
    intro names more
    rw [List.filter_append, List.map_append]
    exact List.prefix_append _ _
  by_cases hp : p.text = ""
  · have hnone : p.components = [] := by
      rw [components, isAbsolute, steps, hp]
      rfl
    rw [hnone]
    exact List.nil_prefix
  unfold components
  rw [isAbsolute_join hq hp, steps_join hq]
  by_cases habs : p.isAbsolute = true
  · rw [if_pos habs, if_pos habs]
    exact List.cons_prefix_cons.mpr ⟨rfl, hmap _ _⟩
  rw [if_neg habs, if_neg habs]
  -- A dot in front stays in front.
  cases p.steps with
  | nil => exact List.nil_prefix
  | cons first names =>
    rw [List.cons_append]
    by_cases hdot : first = "."
    · subst hdot
      exact List.cons_prefix_cons.mpr ⟨rfl, hmap _ _⟩
    · split
      · next h => exact absurd (List.cons.inj h).1 hdot
      · split
        · next h => exact absurd (List.cons.inj h).1 hdot
        · exact hmap (first :: names) q.steps

/-- A path that has no components, or the root only, has no moves. -/
theorem moves_of_components_prefix_root (h : p.components <+: [.root]) : p.moves = [] := by
  obtain ⟨front, hfront, hcomponents⟩ := exists_front p
  rw [hcomponents] at h
  generalize p.isAbsolute = absolute at hfront
  have hnames : p.moves.map Component.ofStep = [] ∨
      ∃ c, p.moves.map Component.ofStep = [c] ∧ c = .root := by
    cases hfront with
    | root => exact Or.inl (List.prefix_nil.mp (List.cons_prefix_cons.mp h).2)
    | here => cases (List.cons_prefix_cons.mp h).1
    | none =>
      rcases List.prefix_cons_iff.mp h with hnone | ⟨t, hcons, ht⟩
      · exact Or.inl hnone
      · rw [List.prefix_nil.mp ht] at hcons
        exact Or.inr ⟨_, hcons, rfl⟩
  rcases hnames with hnone | ⟨c, hone, rfl⟩
  · exact List.map_eq_nil_iff.mp hnone
  · obtain ⟨s, _, hs⟩ := List.map_eq_singleton_iff.mp hone
    exact absurd hs (Component.ofStep_ne_root s)

/-- What is joined to a path goes on below it when it is relative, and otherwise only if there is
nothing to forget. -/
theorem isBelow_join : base.IsBelow rest (base.join ⟨rest⟩) ↔
    Path.isAbsolute ⟨rest⟩ = false ∨ base.components <+: [.root] := by
  by_cases hrest : Path.isAbsolute ⟨rest⟩ = true
  · rw [join_of_isAbsolute base hrest]
    have hcomponents : Path.components ⟨rest⟩ =
        .root :: (Path.moves ⟨rest⟩).map Component.ofStep := by
      rw [Path.components, if_pos hrest]
      rfl
    constructor
    · rintro ⟨hfirst, hmoves⟩
      refine Or.inr ?_
      have hnone : base.moves = [] := (List.self_eq_append_left.mp hmoves)
      obtain ⟨front, hfront, hbase⟩ := exists_front base
      rw [hnone, List.map_nil, List.append_nil] at hbase
      rw [hbase, hcomponents] at hfirst
      rw [hbase]
      generalize base.isAbsolute = absolute at hfront
      cases hfront with
      | root => exact List.prefix_rfl
      | here => cases (List.cons_prefix_cons.mp hfirst).1
      | none => exact List.nil_prefix
    · rintro (hrelative | hroot)
      · rw [hrest] at hrelative
        cases hrelative
      · refine ⟨?_, by rw [moves_of_components_prefix_root hroot, List.nil_append]⟩
        rw [hcomponents]
        exact hroot.trans (List.cons_prefix_cons.mpr ⟨rfl, List.nil_prefix⟩)
  · rw [Bool.not_eq_true] at hrest
    exact iff_of_true ⟨components_prefix_join hrest, moves_join hrest⟩ (Or.inl hrest)

end Path

/-! ### Overhearing a sink -/

namespace Execution

variable {n : Type → Type} [Monad n] [MonadLiftT (StateM Session) n] {σ α : Type}

/-- Programs that are carried out with one more state beside their world. -/
@[reducible]
def extend (x : Execution n) (σ : Type) : Execution (StateT σ n) where
  World := σ × x.World
  session w := x.session w.2
  withSession w s := (w.1, x.withSession w.2 s)
  run program w :=
    let r := x.run (program w.1) w.2
    (r.1.1, r.1.2, r.2)
  session_withSession w s := x.session_withSession w.2 s
  withSession_session w := congrArg (Prod.mk w.1) (x.withSession_session w.2)
  withSession_withSession w s s' := congrArg (Prod.mk w.1) (x.withSession_withSession w.2 s s')
  run_pure a w := congrArg (fun r => (r.1.1, r.1.2, r.2)) (x.run_pure (a, w.1) w.2)
  run_bind program next w := congrArg (fun r => (r.1.1, r.1.2, r.2))
    (x.run_bind (program w.1) (fun r => next r.1 r.2) w.2)
  run_lift program w := by
    have h : x.run ((liftM program : n _) >>= fun a => pure (a, w.1)) w.2 =
        (((program (x.session w.2)).1, w.1), x.withSession w.2 (program (x.session w.2)).2) := by
      rw [x.run_bind, x.run_lift, x.run_pure]
    exact congrArg (fun r => (r.1.1, r.1.2, r.2)) h

/-- A change of the state does nothing to the world. -/
theorem run_modify (x : Execution n) (f : σ → σ) (a : σ) (w : x.World) :
    (x.extend σ).run (modify f) (a, w) = (⟨⟩, f a, w) :=
  congrArg (fun r => (r.1.1, r.1.2, r.2)) (x.run_pure (PUnit.unit, f a) w)

/-- A program that does not know of the state leaves it alone. -/
theorem run_unaware (x : Execution n) (program : n α) (a : σ) (w : x.World) :
    (x.extend σ).run (liftM program) (a, w) = ((x.run program w).1, a, (x.run program w).2) := by
  have h : x.run (program >>= fun b => pure (b, a)) w =
      (((x.run program w).1, a), (x.run program w).2) := by
    rw [x.run_bind, x.run_pure]
  exact congrArg (fun r => (r.1.1, r.1.2, r.2)) h

end Execution

namespace Sink

variable {n : Type → Type} [Monad n]

/-- The sink, with a record of the paths that it is handed and of those that it gives back. -/
def overheard (sink : Sink n) : Sink (StateT (List Path) n) where
  prepare root := do
    modify (· ++ [root])
    sink.prepare root
  write root a := do
    modify (· ++ [root])
    let result ← sink.write root a
    modify (· ++ result.toOption.toList)
    return result

variable [MonadLiftT (StateM Session) n] {x : Execution n} {sink : Sink n} {root : Path}
  {w w' : x.World} {artifacts : List Artifact} {written : List Written}
  {failure : Option WriteError}

theorem run_overheard_prepare (sink : Sink n) (root : Path) (heard : List Path) (w : x.World) :
    (x.extend (List Path)).run (sink.overheard.prepare root) (heard, w) =
      ((x.run (sink.prepare root) w).1, heard ++ [root], (x.run (sink.prepare root) w).2) := by
  change (x.extend _).run (modify (· ++ [root]) >>= fun _ => liftM (sink.prepare root)) _ = _
  rw [(x.extend _).run_bind, x.run_modify, x.run_unaware]

theorem run_overheard_write (sink : Sink n) (root : Path) (a : Artifact) (heard : List Path)
    (w : x.World) :
    (x.extend (List Path)).run (sink.overheard.write root a) (heard, w) =
      ((x.run (sink.write root a) w).1,
        heard ++ [root] ++ (x.run (sink.write root a) w).1.toOption.toList,
        (x.run (sink.write root a) w).2) := by
  change (x.extend _).run (modify (· ++ [root]) >>= fun _ => liftM (sink.write root a) >>=
    fun result => modify (· ++ result.toOption.toList) >>= fun _ => pure result) _ = _
  rw [(x.extend _).run_bind, x.run_modify, (x.extend _).run_bind, x.run_unaware,
    (x.extend _).run_bind, x.run_modify, (x.extend _).run_pure]

/-- To listen changes nothing, and what is heard are the root and the paths of artifacts. -/
theorem Takes.overheard (h : Takes x sink root w artifacts written failure w')
    (hsink : Faithful x sink) (heard : List Path) :
    ∃ more, Takes (x.extend (List Path)) sink.overheard root (heard, w) artifacts written failure
        (heard ++ more, w') ∧
      ∀ p ∈ more, p = root ∨ ∃ a ∈ artifacts, p = a.under root := by
  induction h generalizing heard with
  | done => exact ⟨[], by rw [List.append_nil]; exact .done, List.forall_mem_nil _⟩
  | @refused w w' a rest e hcall =>
    have hheard := run_overheard_write sink root a heard w
    rw [hcall] at hheard
    have hnothing : (Except.error e : Except WriteError Path).toOption.toList = [] := rfl
    rw [hnothing, List.append_nil] at hheard
    exact ⟨[root], .refused hheard, fun p hp => Or.inl (List.mem_singleton.mp hp)⟩
  | @taken w w' w'' a rest path written failure hcall _ ih =>
    have hheard := run_overheard_write sink root a heard w
    rw [hcall] at hheard
    obtain rfl := hsink _ _ _ _ _ hcall
    rw [List.append_assoc] at hheard
    obtain ⟨more, htakes, hmore⟩ := ih (heard ++ [root, a.under root])
    refine ⟨[root, a.under root] ++ more, ?_, ?_⟩
    · rw [← List.append_assoc]
      exact .taken hheard htakes
    · intro p hp
      rcases List.mem_append.mp hp with hp | hp
      · rcases List.mem_cons.mp hp with rfl | hp
        · exact Or.inl rfl
        · exact Or.inr ⟨a, List.mem_cons_self, List.mem_singleton.mp hp⟩
      · exact (hmore p hp).imp_right fun ⟨b, hb, hpath⟩ => ⟨b, List.mem_cons_of_mem _ hb, hpath⟩

/-- The first path that is heard in a delivery is the root. -/
theorem Delivery.overheard (h : Delivery x sink root w artifacts written failure w')
    (hsink : Faithful x sink) :
    ∃ more, Delivery (x.extend (List Path)) sink.overheard root ([], w) artifacts written failure
        (root :: more, w') ∧
      ∀ p ∈ more, p = root ∨ ∃ a ∈ artifacts, p = a.under root := by
  have hheard := run_overheard_prepare sink root [] w
  cases h with
  | unprepared hcall =>
    rw [hcall] at hheard
    exact ⟨[], .unprepared hheard, List.forall_mem_nil _⟩
  | prepared hcall htakes =>
    rw [hcall] at hheard
    obtain ⟨more, htakes', hmore⟩ := htakes.overheard hsink [root]
    exact ⟨more, .prepared hheard htakes', hmore⟩

end Sink

namespace Run

open Scaffold.Path (IsBelow)

/-- The directory of a service below the output path, as it is written. -/
def servicePath (config : Config) (e : Entity) : String :=
  config.solution ++ ".Shared/Services/" ++ e.name

/-- A path of the service: its directory or one of its artifacts, below the output path. -/
def StaysBelow (config : Config) (e : Entity) (p : Path) : Prop :=
  config.output.IsBelow (servicePath config e) p ∨
    ∃ a ∈ e.family config.solution,
      config.output.IsBelow
        (servicePath config e ++ "/" ++ a.folder.name ++ "/" ++ a.fileName) p

variable {config : Config} {e : Entity}

theorem root_eq_join (he : Path.IsName e.name) (config : Config) :
    root config e = config.output.join ⟨servicePath config e⟩ := by
  have htext : (e.serviceRoot config.solution).text = servicePath config e := by
    rw [Entity.text_serviceRoot he, servicePath]
    simp [String.append_assoc]
  rw [root, ← htext]

theorem isAbsolute_servicePath (config : Config) (e : Entity) :
    Path.isAbsolute ⟨servicePath config e⟩ = false ↔ config.solution.toList.head? ≠ some '/' := by
  have htext : (servicePath config e).toList =
      config.solution.toList ++ (".Shared/Services/" ++ e.name).toList := by
    simp [servicePath, String.append_assoc]
  rw [Path.isAbsolute, htext]
  cases config.solution.toList with
  | nil => simp
  | cons c s => simp

/-- When the directory of a service is below the output path. -/
theorem root_isBelow_iff (he : Path.IsName e.name) :
    config.output.IsBelow (servicePath config e) (root config e) ↔
      config.solution.toList.head? ≠ some '/' ∨ config.output.components <+: [.root] := by
  rw [root_eq_join he, Path.isBelow_join, isAbsolute_servicePath]

/-- Then its artifacts are below the output path as well. -/
theorem under_isBelow {a : Artifact}
    (h : config.output.IsBelow (servicePath config e) (root config e))
    (ha : Path.IsName a.fileName) :
    config.output.IsBelow (servicePath config e ++ "/" ++ a.folder.name ++ "/" ++ a.fileName)
      (a.under (root config e)) := by
  constructor
  · rw [Artifact.components_under _ ha, List.append_assoc]
    exact h.components.trans (List.prefix_append _ _)
  · rw [Path.moves_append_slash, Path.moves_append_slash, ← List.append_assoc, ← List.append_assoc,
      ← h.moves, Artifact.under, Path.moves_join ha.isAbsolute, Folder.under,
      Path.moves_join a.folder.isName.isAbsolute]

/-- The directory of a service is not the path of an artifact. -/
theorem isBelow_of_staysBelow (he : Path.IsName e.name)
    (h : StaysBelow config e (root config e)) :
    config.output.IsBelow (servicePath config e) (root config e) := by
  rcases h with h | ⟨a, ha, h⟩
  · exact h
  · -- It would have more moves than there are.
    have hname := Entity.isName_of_mem_family he ha
    have hlength := congrArg List.length h.moves
    rw [Path.moves_append_slash, Path.moves_append_slash, Path.moves_name hname,
      Path.moves_name a.folder.isName, root_eq_join he] at hlength
    by_cases habs : Path.isAbsolute ⟨servicePath config e⟩ = true
    · rw [Path.join_of_isAbsolute _ habs] at hlength
      simp at hlength
      omega
    · rw [Path.moves_join (Bool.eq_false_iff.mpr habs)] at hlength
      simp at hlength

variable {n : Type → Type} [Monad n] [MonadLiftT (StateM Session) n]

/-- **A run stays below the output path**, exactly when the name of the solution does not begin with
a slash or there is nothing in front that could be forgotten: all that its sink is handed or gives
back, and the root that it reports, are paths of the service below the output path. -/
theorem paths_below_iff (x : Execution n) (sink : Sink n) (hsink : Sink.Faithful x sink)
    (definition : String) (config : Config) (entity : Entity) (w : x.World)
    (hparse : Entity.parse definition = .ok entity) :
    ∃ result heard w',
      x.run (into Session.host sink definition config) w = (result, w') ∧
      (x.extend (List Path)).run (into Session.host sink.overheard definition config) ([], w) =
        (result, heard, w') ∧
      ((∀ p ∈ heard, StaysBelow config entity p) ∧
        (∀ summary, result = .ok summary →
          config.output.IsBelow (servicePath config entity) summary.root) ↔
        config.solution.toList.head? ≠ some '/' ∨ config.output.components <+: [.root]) := by
  have he := Definition.isName_of_parse hparse
  obtain ⟨written, failure, w', hdelivery, hrun⟩ := exists_delivery x sink config w hparse
  obtain ⟨more, hoverheard, hmore⟩ := hdelivery.overheard hsink
  obtain ⟨written', failure', w'', hdelivery', hrun'⟩ := exists_delivery (x.extend (List Path))
    sink.overheard config ([], w) hparse
  obtain ⟨rfl, rfl, rfl⟩ := hdelivery'.unique hoverheard
  refine ⟨_, root config entity :: more, _, hrun, hrun', ?_⟩
  rw [← root_isBelow_iff he]
  constructor
  · rintro ⟨hheard, -⟩
    exact isBelow_of_staysBelow he (hheard _ List.mem_cons_self)
  · intro hroot
    refine ⟨List.forall_mem_cons.mpr ⟨Or.inl hroot, fun p hp => ?_⟩, fun summary hsummary => ?_⟩
    · rcases hmore p hp with rfl | ⟨a, ha, rfl⟩
      · exact Or.inl hroot
      · exact Or.inr ⟨a, ha, under_isBelow hroot (Entity.isName_of_mem_family he ha)⟩
    · cases failure' with
      | some fault => cases hsummary
      | none =>
        cases hsummary
        exact hroot

/-- A name with steps back in it is written below the output path all the same. -/
theorem paths_below_of_steps_back :
    let definition := "public class N \x7b \x7d"
    let config : Config := ⟨"../S", ⟨"./out"⟩, none, false⟩
    ∃ result heard s',
      (Execution.machine.extend (List Path)).run
        (into Session.host (Sink.disk Session.host).overheard definition config) ([], {}) =
          (result, heard, s') ∧
      ∀ p ∈ heard, StaysBelow config ⟨"N", []⟩ p := by
  intro definition config
  have hparse : Entity.parse definition = .ok ⟨"N", []⟩ := by decide +kernel
  obtain ⟨result, heard, s', -, hheard, hbelow⟩ := paths_below_iff .machine
    (Sink.disk Session.host) Sink.faithful_disk definition config ⟨"N", []⟩ {} hparse
  exact ⟨result, heard, s', hheard, (hbelow.mpr (Or.inl (by simp [config]))).1⟩

/-- A run that is tried out reports the directory of the service. -/
theorem exists_root_of_dryRun {definition : String} (config : Config) (hdry : config.dryRun = true)
    (s : Session) (hparse : Entity.parse definition = .ok e) :
    ∃ summary s', generate Session.host definition config s = (.ok summary, s') ∧
      summary.root = root config e := by
  obtain ⟨s', hrun, -⟩ := generate_dry_of_ok config hdry s hparse
  exact ⟨_, s', hrun, rfl⟩

/-- A name that begins with a slash takes the place of the output path. -/
theorem root_forgets_output :
    let config : Config := ⟨"/x", ⟨"out"⟩, none, true⟩
    ∃ summary s',
      generate Session.host "public class N \x7b \x7d" config {} = (.ok summary, s') ∧
      summary.root = ⟨"/x.Shared/Services/N"⟩ ∧
      ¬ config.output.components <+: summary.root.components := by
  intro config
  have hparse : Entity.parse "public class N \x7b \x7d" = .ok ⟨"N", []⟩ := by decide +kernel
  obtain ⟨summary, s', hrun, hsummary⟩ := exists_root_of_dryRun config rfl {} hparse
  have hroot : root config ⟨"N", []⟩ = ⟨"/x.Shared/Services/N"⟩ := by decide +kernel
  have hcomponents : config.output.components = [.name "out"] ∧
      Path.components ⟨"/x.Shared/Services/N"⟩ =
        [.root, .name "x.Shared", .name "Services", .name "N"] := by
    decide +kernel
  rw [hroot] at hsummary
  refine ⟨summary, s', hrun, hsummary, ?_⟩
  rw [hsummary, hcomponents.1, hcomponents.2]
  intro hprefix
  cases (List.cons_prefix_cons.mp hprefix).1

end Run

end Scaffold
