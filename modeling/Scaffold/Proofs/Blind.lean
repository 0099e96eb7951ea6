import Scaffold.Proofs.Execution
import Scaffold.Proofs.Programs

/-!
# Programs to which the terminal does not matter

Only the questions of a run involve the terminal. Everything after them gives the same result and
leaves the same session, whatever terminal there is, and leaves the terminal alone.

* `Blind`: a program of this sort.
* `blind_generate`: a run that has its settings and its definition is one.
-/

namespace Scaffold

/-- The session with another terminal. -/
def Session.facing (s : Session) (t : Terminal) : Session := { s with terminal := t }

namespace Execution

variable {n : Type → Type} [Monad n] [MonadLiftT (StateM Session) n] (x : Execution n)

/-- The world with another terminal in its session. -/
def facing (w : x.World) (t : Terminal) : x.World := x.withSession w ((x.session w).facing t)

/-- With another terminal the program gives the same and does the same, and leaves the terminal
alone. -/
def Blind {α : Type} (program : n α) : Prop :=
  ∀ w t, x.run program (x.facing w t) = ((x.run program w).1, x.facing (x.run program w).2 t)

theorem compositional_blind : Compositional fun α (program : n α) => x.Blind program where
  pure a := by
    intro w t
    rw [x.run_pure, x.run_pure]
  bind hprogram hnext := by
    intro w t
    rw [x.run_bind, hprogram w t, hnext, x.run_bind]

theorem Blind.lift {α : Type} {program : StateM Session α} (h : machine.Blind program) :
    x.Blind (liftM program) := by
  intro w t
  have hsession : x.session (x.facing w t) = (x.session w).facing t := x.session_withSession _ _
  have hrun : program ((x.session w).facing t) =
      ((program (x.session w)).1, (program (x.session w)).2.facing t) := h (x.session w) t
  rw [x.run_lift, x.run_lift, hsession, hrun, facing, facing, x.withSession_withSession,
    x.session_withSession, x.withSession_withSession]

/-- A change of the files, and a fault that prevents it, are decided by the files. -/
theorem blind_settle (step : FileSystem → Location → Except Fault FileSystem) :
    machine.Blind fun s : Session => s.settle (step s.files s.here) := by
  intro s t
  change (Session.facing s t).settle (step s.files s.here) = _
  change _ = ((Session.settle s (step s.files s.here)).1,
    (Session.settle s (step s.files s.here)).2.facing t)
  cases step s.files s.here <;> rfl

end Execution

open Execution (machine)

theorem Sink.blind_prepare (root : Path) : machine.Blind ((disk Session.host).prepare root) := by
  have hmake : ∀ p, machine.Blind (Session.host.makeDirectory p) := fun p =>
    Execution.blind_settle fun files here => files.makeDirectory here p
  exact machine.compositional_blind.makeFolders (fun _ _ _ _ _ _ => rfl) fun _ _ p _ => hmake p

theorem Sink.blind_write (root : Path) (a : Artifact) :
    machine.Blind ((disk Session.host).write root a) := by
  have hwrite : machine.Blind (Session.host.write (a.under root) (Text.encode a.content)) :=
    Execution.blind_settle fun files here =>
      files.write here (a.under root) (Text.encode a.content)
  refine machine.compositional_blind.bind hwrite fun result => ?_
  cases result with
  | error fault => exact machine.compositional_blind.pure _
  | ok u => exact machine.compositional_blind.pure _

namespace Run

theorem blind_record (config : Config) (started : Nat) (t : Operation × Status) :
    machine.Blind (record Session.host config started t) := by
  have hadd : ∀ log e, machine.Blind (Log.add Session.host log e) := fun log e =>
    Execution.blind_settle fun files here => files.append here log (Text.encode e.line)
  exact machine.compositional_blind.record (fun _ _ => rfl) (fun _ _ => rfl) (fun _ _ _ => rfl)
    (fun log _ e => hadd log e) started t

/-- The terminal does not matter to a run that has its settings and its definition. -/
theorem blind_generate (definition : String) (config : Config) :
    machine.Blind (generate Session.host definition config) := by
  have hmachine := machine.compositional_blind
  unfold generate
  split
  · have hmemory := (Execution.beside Sink.Memory).compositional_blind
    have hinto : (Execution.beside Sink.Memory).Blind
        (into Session.host Sink.memory definition config) :=
      hmemory.into (fun h => h.lift _) hmachine (fun _ _ => rfl) (blind_record config)
        (fun _ _ _ => rfl) (fun _ _ _ _ => rfl) definition
    intro s t
    have hrun := hinto ({}, s) t
    have hfacing : (Execution.beside Sink.Memory).facing ({}, s) t = ({}, s.facing t) := rfl
    have hdropped := Execution.run'_beside
      (into Session.host Sink.memory definition config) {} (s.facing t)
    rw [← hfacing, hrun] at hdropped
    exact hdropped
  · exact hmachine.into (fun h => h) hmachine (fun _ _ => rfl) (blind_record config)
      Sink.blind_prepare Sink.blind_write definition

end Run

end Scaffold
