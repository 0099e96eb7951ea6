import Scaffold.Sink

/-!
# Executions and deliveries

A run is written for every monad in which a session can be accessed, since a sink may have a state
of its own. An execution says how the programs of such a monad are carried out: from a world, of
which a session is a part, to a result and another world.

A delivery is the sequence of calls that a sink gets when artifacts are written, said without
reference to the program that makes them.

* `Execution.machine`, `Execution.beside`: executions in a session, and in a session with a state
  beside it.
* `Delivery.unique`: the sink and the world decide what is delivered.
* `run_writeAll`: writing artifacts is one delivery, and its report says what was delivered.
* `Delivery.preserves`: what every call preserves holds after the delivery.
-/

namespace Scaffold

theorem Session.run_bind {α β : Type} (program : StateM Session α) (next : α → StateM Session β)
    (s : Session) : (program >>= next) s = next (program s).1 (program s).2 := rfl

/-- How programs are carried out in worlds that have a session in them. An access to the session
changes nothing else. -/
structure Execution (n : Type → Type) [Monad n] [MonadLiftT (StateM Session) n] where
  World : Type
  session : World → Session
  withSession : World → Session → World
  run : {α : Type} → n α → World → α × World
  session_withSession : ∀ w s, session (withSession w s) = s
  withSession_session : ∀ w, withSession w (session w) = w
  withSession_withSession : ∀ w s s', withSession (withSession w s) s' = withSession w s'
  run_pure : ∀ {α : Type} (a : α) w, run (pure a) w = (a, w)
  run_bind : ∀ {α β : Type} (x : n α) (f : α → n β) w,
    run (x >>= f) w = run (f (run x w).1) (run x w).2
  run_lift : ∀ {α : Type} (x : StateM Session α) w,
    run (liftM x) w = ((x (session w)).1, withSession w (x (session w)).2)

namespace Execution

/-- A session by itself. -/
def machine : Execution (StateM Session) where
  World := Session
  session s := s
  withSession _ s := s
  run x s := x s
  session_withSession _ _ := rfl
  withSession_session _ := rfl
  withSession_withSession _ _ _ := rfl
  run_pure _ _ := rfl
  run_bind _ _ _ := rfl
  run_lift _ _ := rfl

/-- A session with a state beside it. -/
def beside (σ : Type) : Execution (StateT σ (StateM Session)) where
  World := σ × Session
  session w := w.2
  withSession w s := (w.1, s)
  run x w := ((x w.1 w.2).1.1, (x w.1 w.2).1.2, (x w.1 w.2).2)
  session_withSession _ _ := rfl
  withSession_session _ := rfl
  withSession_withSession _ _ _ := rfl
  run_pure _ _ := rfl
  run_bind _ _ _ := rfl
  run_lift _ _ := rfl

/-- A state beside the session that is dropped in the end. -/
theorem run'_beside {σ α : Type} (program : StateT σ (StateM Session) α) (a : σ) (s : Session) :
    program.run' a s =
      (((beside σ).run program (a, s)).1, (beside σ).session ((beside σ).run program (a, s)).2) :=
  rfl

end Execution

namespace Sink

variable {n : Type → Type} [Monad n] [MonadLiftT (StateM Session) n]

/-! ### Deliveries -/

/-- The sink takes artifacts one by one, from one world to another, up to the first that it does
not take. -/
inductive Takes (x : Execution n) (sink : Sink n) (root : Path) :
    x.World → List Artifact → List Written → Option WriteError → x.World → Prop where
  | done {w} : Takes x sink root w [] [] none w
  | refused {w w' a rest e} :
      x.run (sink.write root a) w = (.error e, w') →
      Takes x sink root w (a :: rest) [] (some e) w'
  | taken {w w' w'' a rest path written failure} :
      x.run (sink.write root a) w = (.ok path, w') →
      Takes x sink root w' rest written failure w'' →
      Takes x sink root w (a :: rest) (⟨path, a.content.utf8ByteSize⟩ :: written) failure w''

/-- The sink is prepared and, if that succeeds, takes artifacts. -/
inductive Delivery (x : Execution n) (sink : Sink n) (root : Path) :
    x.World → List Artifact → List Written → Option WriteError → x.World → Prop where
  | unprepared {w w' artifacts e} :
      x.run (sink.prepare root) w = (.error e, w') →
      Delivery x sink root w artifacts [] (some e) w'
  | prepared {w w' w'' artifacts written failure} :
      x.run (sink.prepare root) w = (.ok (), w') →
      Takes x sink root w' artifacts written failure w'' →
      Delivery x sink root w artifacts written failure w''

variable {x : Execution n} {sink : Sink n} {root : Path} {w w' w'' : x.World}
  {artifacts : List Artifact} {written written' : List Written}
  {failure failure' : Option WriteError}

theorem Takes.unique (h : Takes x sink root w artifacts written failure w')
    (h' : Takes x sink root w artifacts written' failure' w'') :
    written = written' ∧ failure = failure' ∧ w' = w'' := by
  induction h generalizing written' with
  | done =>
    cases h'
    exact ⟨rfl, rfl, rfl⟩
  | refused hcall =>
    cases h' with
    | refused hcall' =>
      cases hcall.symm.trans hcall'
      exact ⟨rfl, rfl, rfl⟩
    | taken hcall' => cases hcall.symm.trans hcall'
  | taken hcall _ ih =>
    cases h' with
    | refused hcall' => cases hcall.symm.trans hcall'
    | taken hcall' hrest' =>
      cases hcall.symm.trans hcall'
      obtain ⟨rfl, rfl, rfl⟩ := ih hrest'
      exact ⟨rfl, rfl, rfl⟩

/-- A delivery has one outcome. -/
theorem Delivery.unique (h : Delivery x sink root w artifacts written failure w')
    (h' : Delivery x sink root w artifacts written' failure' w'') :
    written = written' ∧ failure = failure' ∧ w' = w'' := by
  cases h with
  | unprepared hcall =>
    cases h' with
    | unprepared hcall' =>
      cases hcall.symm.trans hcall'
      exact ⟨rfl, rfl, rfl⟩
    | prepared hcall' => cases hcall.symm.trans hcall'
  | prepared hcall htakes =>
    cases h' with
    | unprepared hcall' => cases hcall.symm.trans hcall'
    | prepared hcall' htakes' =>
      cases hcall.symm.trans hcall'
      exact htakes.unique htakes'

/-! ### Writing artifacts is a delivery -/

theorem run_writeEach (x : Execution n) (sink : Sink n) (root : Path) (artifacts : List Artifact)
    (w : x.World) :
    Takes x sink root w artifacts (x.run (sink.writeEach root artifacts) w).1.written
      (x.run (sink.writeEach root artifacts) w).1.failure
      (x.run (sink.writeEach root artifacts) w).2 := by
  induction artifacts generalizing w with
  | nil =>
    rw [writeEach, x.run_pure]
    exact .done
  | cons a rest ih =>
    rw [writeEach, x.run_bind]
    cases hcall : x.run (sink.write root a) w with
    | mk result w' =>
      cases result with
      | error e =>
        simp only [x.run_pure]
        exact .refused hcall
      | ok path =>
        simp only [x.run_bind, x.run_pure]
        exact .taken hcall (ih w')

/-- Writing artifacts makes exactly the calls of a delivery and reports its outcome. -/
theorem run_writeAll (x : Execution n) (sink : Sink n) (root : Path) (artifacts : List Artifact)
    (w : x.World) :
    Delivery x sink root w artifacts (x.run (sink.writeAll root artifacts) w).1.written
      (x.run (sink.writeAll root artifacts) w).1.failure
      (x.run (sink.writeAll root artifacts) w).2 := by
  rw [writeAll, x.run_bind]
  cases hcall : x.run (sink.prepare root) w with
  | mk result w' =>
    cases result with
    | error e =>
      simp only [x.run_pure]
      exact .unprepared hcall
    | ok u => exact .prepared hcall (run_writeEach x sink root artifacts w')

/-- So the outcome of writing can be read off a delivery. -/
theorem Delivery.run_writeAll (h : Delivery x sink root w artifacts written failure w') :
    x.run (sink.writeAll root artifacts) w = (⟨written, failure⟩, w') := by
  obtain ⟨hwritten, hfailure, hworld⟩ := (Sink.run_writeAll x sink root artifacts w).unique h
  rw [← hwritten, ← hfailure, ← hworld]

/-! ### What calls preserve -/

variable {Invariant : x.World → Prop}

theorem Takes.preserves (h : Takes x sink root w artifacts written failure w')
    (hwrite : ∀ a ∈ artifacts, ∀ w, Invariant w → Invariant (x.run (sink.write root a) w).2)
    (hw : Invariant w) : Invariant w' := by
  induction h with
  | done => exact hw
  | refused hcall =>
    have hnext := hwrite _ List.mem_cons_self _ hw
    rw [hcall] at hnext
    exact hnext
  | taken hcall _ ih =>
    have hnext := hwrite _ List.mem_cons_self _ hw
    rw [hcall] at hnext
    exact ih (fun a ha => hwrite a (List.mem_cons_of_mem _ ha)) hnext

/-- What every call preserves, the delivery preserves. -/
theorem Delivery.preserves (h : Delivery x sink root w artifacts written failure w')
    (hprepare : ∀ w, Invariant w → Invariant (x.run (sink.prepare root) w).2)
    (hwrite : ∀ a ∈ artifacts, ∀ w, Invariant w → Invariant (x.run (sink.write root a) w).2)
    (hw : Invariant w) : Invariant w' := by
  have hready := hprepare w hw
  cases h with
  | unprepared hcall =>
    rw [hcall] at hready
    exact hready
  | prepared hcall htakes =>
    rw [hcall] at hready
    exact htakes.preserves hwrite hready

end Sink

end Scaffold
