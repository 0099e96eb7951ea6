import Scaffold.Run

/-!
# What holds of programs

The programs of this library are put together from accesses to a host. Where a property of programs
is kept when they are carried out one after the other, it holds of a whole program once it holds of
the accesses in it.

* `Compositional`: a property of this sort.
* `makeFolders`, `writeAll`, `recordAll`, `into`: the programs, from small to large.
-/

namespace Scaffold

variable {m n : Type → Type} [Monad m] [Monad n]

/-- A property that programs have if their parts have it. -/
structure Compositional (P : ∀ α : Type, m α → Prop) : Prop where
  pure : ∀ {α : Type} (a : α), P α (pure a)
  bind : ∀ {α β : Type} {program : m α} {next : α → m β},
    P α program → (∀ a, P β (next a)) → P β (program >>= next)

namespace Compositional

variable {P : ∀ α : Type, m α → Prop} {host : Host m}

/-! ### Making folders -/

theorem excuse (hP : Compositional P) {p : Path} (hlook : P _ (host.isDirectory p))
    (fault : Fault) : P _ (host.excuse p fault) := by
  unfold Host.excuse
  split
  · refine hP.bind hlook fun found => ?_
    split
    · exact hP.pure _
    · exact hP.pure _
  · exact hP.pure _

/-- However far the making of directories gets, it is made of single directories. -/
theorem makeChain (hP : Compositional P) {chain : List Path}
    (hlook : ∀ p ∈ chain, P _ (host.isDirectory p)) (hmake : ∀ p ∈ chain, P _ (host.makeDirectory p)) :
    P _ (host.makeChain chain) := by
  induction chain with
  | nil => exact hP.pure _
  | cons p parents ih =>
    obtain ⟨hp, hparents⟩ := List.forall_mem_cons.mp hmake
    obtain ⟨hlookp, hlookparents⟩ := List.forall_mem_cons.mp hlook
    unfold Host.makeChain
    refine hP.bind hp fun made => ?_
    cases made with
    | ok u => exact hP.pure _
    | error fault =>
      dsimp only
      split
      · refine hP.bind (ih hlookparents hparents) fun above => ?_
        cases above with
        | error fault => exact hP.pure _
        | ok u =>
          refine hP.bind hp fun made => ?_
          cases made with
          | ok u => exact hP.pure _
          | error fault => exact hP.excuse hlookp fault
      · exact hP.excuse hlookp fault

theorem makeFolders (hP : Compositional P) {root : Path} {folders : List Folder}
    (hlook : ∀ f ∈ folders, ∀ p ∈ (f.under root).chain, P _ (host.isDirectory p))
    (hmake : ∀ f ∈ folders, ∀ p ∈ (f.under root).chain, P _ (host.makeDirectory p)) :
    P _ (Sink.makeFolders host root folders) := by
  induction folders with
  | nil => exact hP.pure _
  | cons f folders ih =>
    obtain ⟨hf, hfolders⟩ := List.forall_mem_cons.mp hmake
    obtain ⟨hlookf, hlookfolders⟩ := List.forall_mem_cons.mp hlook
    unfold Sink.makeFolders
    refine hP.bind (hP.makeChain hlookf hf) fun made => ?_
    cases made with
    | error fault => exact hP.pure _
    | ok u => exact ih hlookfolders hfolders

/-! ### Writing artifacts -/

theorem writeEach {sink : Sink m} (hP : Compositional P)
    (hwrite : ∀ root a, P _ (sink.write root a)) (root : Path) (artifacts : List Artifact) :
    P _ (sink.writeEach root artifacts) := by
  induction artifacts with
  | nil => exact hP.pure _
  | cons a rest ih =>
    unfold Sink.writeEach
    refine hP.bind (hwrite root a) fun result => ?_
    cases result with
    | error e => exact hP.pure _
    | ok path => exact hP.bind ih fun report => hP.pure _

theorem writeAll {sink : Sink m} (hP : Compositional P) (hprepare : ∀ root, P _ (sink.prepare root))
    (hwrite : ∀ root a, P _ (sink.write root a)) (root : Path) (artifacts : List Artifact) :
    P _ (sink.writeAll root artifacts) := by
  unfold Sink.writeAll
  refine hP.bind (hprepare root) fun result => ?_
  cases result with
  | error e => exact hP.pure _
  | ok u => exact hP.writeEach hwrite root artifacts

/-! ### Recording -/

theorem record (hP : Compositional P) {config : Config} (huptime : P _ host.uptime)
    (hnow : P _ host.now) (hwarn : ∀ text, P _ (host.warn text))
    (hadd : ∀ log, config.log = some log → ∀ e, P _ (Log.add host log e)) (started : Nat)
    (t : Operation × Status) : P _ (Run.record host config started t) := by
  obtain ⟨operation, status⟩ := t
  cases hlog : config.log with
  | none =>
    simp only [Run.record, hlog]
    exact hP.pure _
  | some log =>
    simp only [Run.record, hlog]
    refine hP.bind huptime fun uptime => hP.bind hnow fun now => ?_
    refine hP.bind (hadd log hlog _) fun added => ?_
    cases added with
    | ok u => exact hP.pure _
    | error fault => exact hwarn _

theorem recordAll (hP : Compositional P) {config : Config} {started : Nat}
    (hrecord : ∀ t, P _ (Run.record host config started t)) (ts : List (Operation × Status)) :
    P _ (Run.recordAll host config started ts) := by
  induction ts with
  | nil => exact hP.pure _
  | cons t ts ih => exact hP.bind (hrecord t) fun _ => ih

/-! ### Runs -/

theorem into [MonadLiftT m n] {Q : ∀ α : Type, n α → Prop} {sink : Sink n} (hQ : Compositional Q)
    (hlift : ∀ {α : Type} {program : m α}, P α program → Q α (liftM program))
    (hP : Compositional P) {config : Config} (huptime : P _ host.uptime)
    (hrecord : ∀ started t, P _ (Run.record host config started t))
    (hprepare : ∀ root, Q _ (sink.prepare root)) (hwrite : ∀ root a, Q _ (sink.write root a))
    (definition : String) : Q _ (Run.into host sink definition config) := by
  unfold Run.into
  refine hQ.bind (hlift huptime) fun started => ?_
  cases Entity.parse definition with
  | error e =>
    dsimp only
    exact hQ.bind (hlift (hrecord started _)) fun _ => hQ.pure _
  | ok entity =>
    refine hQ.bind (hlift (hrecord started _)) fun _ => ?_
    refine hQ.bind (hQ.writeAll hprepare hwrite _ _) fun report => ?_
    refine hQ.bind (hlift (hP.recordAll (hrecord started) _)) fun _ => ?_
    cases report.toExcept with
    | error e => exact hQ.pure _
    | ok written => exact hQ.pure _

end Compositional

end Scaffold
