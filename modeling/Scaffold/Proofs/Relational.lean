import Scaffold.Proofs.Calls
import Scaffold.Proofs.Programs

/-!
# Two programs side by side

Two runs are compared step by step. Where a relation between programs is kept when they are carried
out one after the other, two whole programs are related once the accesses in them are. The programs
may belong to different monads, and what they give may be compared in any way.

* `Relational`: a relation of this sort.
* `writeAll`, `into`: the programs, from small to large.
* `Beside`, `Forgetting`: with one more state on both sides, or on one side only.
* `Beside.recording`, `Forgetting.recording`: a record of the calls of a sink does nothing to them.
* `Tied`: programs that give the same and keep two worlds related.
-/

namespace Scaffold

variable {m n n' : Type → Type} [Monad m] [Monad n] [Monad n']

/-- A relation between programs, for every relation between what they give, that holds of whole
programs if it holds of their parts. -/
structure Relational (Rel : ∀ α β : Type, (α → β → Prop) → n α → n' β → Prop) : Prop where
  pure : ∀ {α β : Type} {r : α → β → Prop} {a : α} {b : β}, r a b → Rel α β r (pure a) (pure b)
  bind : ∀ {α β α' β' : Type} {r : α → β → Prop} {r' : α' → β' → Prop} {p : n α} {q : n' β}
    {f : α → n α'} {g : β → n' β'}, Rel α β r p q → (∀ a b, r a b → Rel α' β' r' (f a) (g b)) →
    Rel α' β' r' (p >>= f) (q >>= g)

namespace Relational

variable {Rel : ∀ α β : Type, (α → β → Prop) → n α → n' β → Prop}

/-- Programs that are related to themselves. -/
theorem compositional {Rel : ∀ α β : Type, (α → β → Prop) → n α → n β → Prop}
    (hR : Relational Rel) : Compositional fun α (program : n α) => Rel α α Eq program program where
  pure _ := hR.pure rfl
  bind hprogram hnext := hR.bind hprogram fun a _ hab => hab ▸ hnext a

/-! ### Writing artifacts -/

variable {sink : Sink n} {sink' : Sink n'} {root : Path} {artifacts : List Artifact}

theorem writeEach (hR : Relational Rel)
    (hwrite : ∀ a ∈ artifacts, Rel _ _ Eq (sink.write root a) (sink'.write root a)) :
    Rel _ _ Eq (sink.writeEach root artifacts) (sink'.writeEach root artifacts) := by
  induction artifacts with
  | nil => exact hR.pure rfl
  | cons a rest ih =>
    obtain ⟨ha, hrest⟩ := List.forall_mem_cons.mp hwrite
    unfold Sink.writeEach
    refine hR.bind ha ?_
    rintro result _ rfl
    cases result with
    | error e => exact hR.pure rfl
    | ok path =>
      refine hR.bind (ih hrest) ?_
      rintro report _ rfl
      exact hR.pure rfl

theorem writeAll (hR : Relational Rel)
    (hprepare : Rel _ _ Eq (sink.prepare root) (sink'.prepare root))
    (hwrite : ∀ a ∈ artifacts, Rel _ _ Eq (sink.write root a) (sink'.write root a)) :
    Rel _ _ Eq (sink.writeAll root artifacts) (sink'.writeAll root artifacts) := by
  unfold Sink.writeAll
  refine hR.bind hprepare ?_
  rintro result _ rfl
  cases result with
  | error e => exact hR.pure rfl
  | ok u => exact hR.writeEach hwrite

/-! ### Runs -/

variable [MonadLiftT m n] [MonadLiftT m n'] {host : Host m} {config : Config} {log : Option Path}
  {definition : String} {r : Except RunError Summary → Except RunError Summary → Prop}

/-- Runs that differ in their logs are related if what they record is related and the calls of
their sinks are. -/
theorem into (hR : Relational Rel) (started : Nat → Nat → Prop)
    (huptime : Rel _ _ started (liftM host.uptime) (liftM host.uptime))
    (hrecord : ∀ i j, started i j → ∀ t, Rel _ _ (fun _ _ => True)
      (liftM (Run.record host config i t)) (liftM (Run.record host { config with log } j t)))
    (hrecordAll : ∀ i j, started i j → ∀ ts, Rel _ _ (fun _ _ => True)
      (liftM (Run.recordAll host config i ts)) (liftM (Run.recordAll host { config with log } j ts)))
    (hprepare : ∀ e, Entity.parse definition = .ok e →
      Rel _ _ Eq (sink.prepare (Run.root config e)) (sink'.prepare (Run.root config e)))
    (hwrite : ∀ e, Entity.parse definition = .ok e → ∀ a ∈ e.family config.solution,
      Rel _ _ Eq (sink.write (Run.root config e) a) (sink'.write (Run.root config e) a))
    (herror : ∀ e, r (.error e) (.error e))
    (hok : ∀ e root written, r (.ok ⟨e, config, root, written⟩)
      (.ok ⟨e, { config with log }, root, written⟩)) :
    Rel _ _ r (Run.into host sink definition config)
      (Run.into host sink' definition { config with log }) := by
  unfold Run.into
  refine hR.bind huptime fun i j hstarted => ?_
  cases hparse : Entity.parse definition with
  | error e =>
    dsimp only
    exact hR.bind (hrecord i j hstarted _) fun _ _ _ => hR.pure (herror _)
  | ok entity =>
    refine hR.bind (hrecord i j hstarted _) fun _ _ _ => ?_
    refine hR.bind (hR.writeAll (hprepare entity hparse) (hwrite entity hparse)) ?_
    rintro report _ rfl
    refine hR.bind (hrecordAll i j hstarted _) fun _ _ _ => ?_
    cases report.toExcept with
    | error e => exact hR.pure (herror _)
    | ok written => exact hR.pure (hok _ _ _)

/-! ### One more state -/

variable {σ : Type}

/-- The relation between programs with a state beside them. What they do to the state is the
same. -/
def Beside (σ : Type) (Rel : ∀ α β : Type, (α → β → Prop) → n α → n' β → Prop) (α β : Type)
    (r : α → β → Prop) (p : StateT σ n α) (q : StateT σ n' β) : Prop :=
  ∀ a, Rel (α × σ) (β × σ) (fun x y => r x.1 y.1 ∧ x.2 = y.2) (p a) (q a)

/-- The relation between programs of which the first has a state beside it. -/
def Forgetting (σ : Type) (Rel : ∀ α β : Type, (α → β → Prop) → n α → n' β → Prop) (α β : Type)
    (r : α → β → Prop) (p : StateT σ n α) (q : n' β) : Prop :=
  ∀ a, Rel (α × σ) β (fun x y => r x.1 y) (p a) q

theorem beside (hR : Relational Rel) : Relational (Beside σ Rel) where
  pure hr := fun _ => hR.pure ⟨hr, rfl⟩
  bind hp hnext := fun a => hR.bind (hp a) fun (x, a') (y, _) hxy => by
    obtain ⟨hr, rfl⟩ := hxy
    exact hnext x y hr a'

theorem forgetting (hR : Relational Rel) : Relational (Forgetting σ Rel) where
  pure hr := fun _ => hR.pure hr
  bind hp hnext := fun a => hR.bind (hp a) fun (x, a') y hr => hnext x y hr a'

variable {α β : Type} {r : α → β → Prop} {p : n α} {q : n' β}

theorem Beside.lift (hR : Relational Rel) (h : Rel α β r p q) :
    Beside σ Rel α β r (liftM p) (liftM q) :=
  fun _ => hR.bind h fun _ _ hr => hR.pure ⟨hr, rfl⟩

theorem Forgetting.lift [LawfulMonad n'] (hR : Relational Rel) (h : Rel α β r p q) :
    Forgetting σ Rel α β r (liftM p) q := by
  intro a
  rw [← bind_pure q]
  exact hR.bind h fun _ _ hr => hR.pure hr

/-! ### Keeping a record of calls -/

open Sink (Call)

/-- Related calls are related with a record of them, which is the same. -/
theorem Beside.recording (hR : Relational Rel) (h : Rel α β r p q) (call : Call) :
    Beside (List Call) Rel α β r (Sink.recording call p) (Sink.recording call q) := by
  have hmodify : Beside (List Call) Rel PUnit PUnit (fun _ _ => True) (modify (· ++ [call]))
      (modify (· ++ [call])) := fun _ => hR.pure ⟨trivial, rfl⟩
  exact hR.beside.bind hmodify fun _ _ _ => Beside.lift hR h

/-- A record of a call does nothing to it. -/
theorem Forgetting.recording [LawfulMonad n'] (hR : Relational Rel) (h : Rel α β r p q)
    (call : Call) : Forgetting (List Call) Rel α β r (Sink.recording call p) q := by
  have hmodify : Forgetting (List Call) Rel PUnit PUnit (fun _ _ => True)
      (modify (· ++ [call])) (Pure.pure PUnit.unit) := fun _ => hR.pure trivial
  rw [← pure_bind PUnit.unit fun _ => q]
  exact hR.forgetting.bind hmodify fun _ _ _ => Forgetting.lift hR h

end Relational

/-! ### Two worlds -/

section

variable {W : Type}

/-- The programs give results that are related and keep two worlds related. -/
def Tied (R : W → W → Prop) (α β : Type) (r : α → β → Prop) (p : StateM W α) (q : StateM W β) :
    Prop :=
  ∀ w w', R w w' → r (p w).1 (q w').1 ∧ R (p w).2 (q w').2

/-- Whatever the program does in one world or in the other, they stay related. -/
def Unseen (R : W → W → Prop) {α : Type} (program : StateM W α) : Prop :=
  ∀ w w', R w w' → R (program w).2 w' ∧ R w (program w').2

variable {R : W → W → Prop}

theorem relational_tied (R : W → W → Prop) : Relational (Tied R) where
  pure hr := fun _ _ hw => ⟨hr, hw⟩
  bind hp hnext := fun w w' hw => by
    obtain ⟨hr, hw'⟩ := hp w w' hw
    exact hnext _ _ hr _ _ hw'

theorem compositional_unseen (R : W → W → Prop) :
    Compositional fun α (program : StateM W α) => Unseen R program where
  pure _ := fun _ _ hw => ⟨hw, hw⟩
  bind hprogram hnext := fun w w' hw =>
    ⟨(hnext _ _ _ (hprogram w w' hw).1).1, (hnext _ _ _ (hprogram w w' hw).2).2⟩

/-- What is not seen does not have to be the same. -/
theorem Unseen.tied {α β : Type} {p : StateM W α} {q : StateM W β} (hp : Unseen R p)
    (hq : Unseen R q) : Tied R α β (fun _ _ => True) p q :=
  fun w w' hw => ⟨trivial, (hq _ _ (hp w w' hw).1).2⟩

end

end Scaffold
