import Scaffold.Proofs.Confinement

/-!
# What a run collects

Before anything is generated a run collects its definition and its settings, from what it is given
and at the terminal. This can fail in three ways, and whether it fails or not, nothing but the
terminal is affected.

* `collect`: the part of a run that comes before generating; `interactive_run` says that a run is
  this and then, unless it fails, generating.
* `atTerminal_collect`: collecting leaves everything but the terminal as it is.
* `collect_isCollected`: the errors with which it fails, and what is settled beforehand.
-/

namespace Scaffold

open Text (Bytes)

namespace Run

/-! ### Collecting -/

section

variable {m : Type → Type} [Monad m]

/-- The definition and the settings of a run, from what is given and from answers. -/
def collect (host : Host m) (overrides : Overrides) :
    m (Except RunError (String × Config)) := do
  match ← givenOrAsked host overrides.solution solutionQuestion with
  | .error e => return .error e
  | .ok solution =>
    match ← definition host overrides.input with
    | .error e => return .error e
    | .ok text =>
      match ← givenOrAsked host overrides.output outputQuestion with
      | .error e => return .error e
      | .ok output =>
        match Config.resolve solution output overrides.log overrides.dryRun
            (← host.workingDirectory) with
        | .error fault => return .error (.outputPath fault)
        | .ok config => return .ok (text, config)

end

variable {overrides : Overrides} {s s' : Session}

/-- A run collects what it needs and then generates. -/
theorem interactive_run (overrides : Overrides) (s : Session) :
    interactive Session.host overrides s =
      match collect Session.host overrides s with
      | (.error e, s') => (.error e, s')
      | (.ok (text, config), s') => generate Session.host text config s' := by
  unfold interactive collect
  rw [Session.run_bind, Session.run_bind]
  rcases givenOrAsked Session.host overrides.solution solutionQuestion s with ⟨_ | solution, s₁⟩
  · rfl
  dsimp only
  rw [Session.run_bind, Session.run_bind]
  rcases definition Session.host overrides.input s₁ with ⟨_ | text, s₂⟩
  · rfl
  dsimp only
  rw [Session.run_bind, Session.run_bind]
  rcases givenOrAsked Session.host overrides.output outputQuestion s₂ with ⟨_ | output, s₃⟩
  · rfl
  dsimp only
  rw [Session.run_bind, Session.run_bind]
  cases Config.resolve solution output overrides.log overrides.dryRun
      (Session.host.workingDirectory s₃).1 with
  | error fault => rfl
  | ok config => rfl

/-- A definition that is given is the text of its file. -/
theorem definition_given {input text : String} {bytes : Bytes}
    (hgiven : ¬Text.isBlankText input = true)
    (hread : s.files.read s.here ⟨Text.trim input⟩ = .ok bytes)
    (htext : Text.decode? bytes = some text) :
    definition Session.host input s = (.ok text, s) := by
  have hfound : Session.host.read ⟨Text.trim input⟩ s = (.ok bytes, s) := congrArg (·, s) hread
  rw [definition, if_neg hgiven, Session.run_bind, Host.readText, Session.run_bind, hfound]
  dsimp only
  rw [htext]
  rfl

end Run

/-! ### What collecting affects -/

namespace Compositional

variable {m : Type → Type} [Monad m] {P : ∀ α : Type, m α → Prop} {host : Host m}

theorem givenOrAsked (hP : Compositional P) (hask : ∀ question, P _ (host.ask question))
    (given question : String) : P _ (Run.givenOrAsked host given question) := by
  unfold Run.givenOrAsked
  split
  · refine hP.bind (hask question) fun answer => ?_
    cases answer with
    | error fault => exact hP.pure _
    | ok answer => exact hP.pure _
  · exact hP.pure _

/-- A definition that is given is only read. -/
theorem givenDefinition (hP : Compositional P) (hread : ∀ p, P _ (host.read p)) {input : String}
    (hgiven : ¬Text.isBlankText input = true) : P _ (Run.definition host input) := by
  rw [Run.definition, if_neg hgiven]
  have htext : P _ (host.readText ⟨Text.trim input⟩) := by
    unfold Host.readText
    refine hP.bind (hread _) fun bytes => ?_
    cases bytes with
    | error fault => exact hP.pure _
    | ok bytes =>
      dsimp only
      split
      · exact hP.pure _
      · exact hP.pure _
  refine hP.bind htext fun text => ?_
  cases text with
  | error fault => exact hP.pure _
  | ok text => exact hP.pure _

theorem definition (hP : Compositional P) (hread : ∀ p, P _ (host.read p))
    (hsay : ∀ text, P _ (host.say text)) (hdefinition : P _ host.readDefinition)
    (input : String) : P _ (Run.definition host input) := by
  by_cases hblank : Text.isBlankText input = true
  · rw [Run.definition, if_pos hblank]
    refine hP.bind (hsay _) fun said => ?_
    cases said with
    | error fault => exact hP.pure _
    | ok u =>
      refine hP.bind hdefinition fun text => ?_
      cases text with
      | error fault => exact hP.pure _
      | ok text => exact hP.pure _
  · exact hP.givenDefinition hread hblank

theorem collect (hP : Compositional P) (hask : ∀ question, P _ (host.ask question))
    (hread : ∀ p, P _ (host.read p)) (hsay : ∀ text, P _ (host.say text))
    (hdefinition : P _ host.readDefinition) (hhere : P _ host.workingDirectory)
    (overrides : Overrides) : P _ (Run.collect host overrides) := by
  unfold Run.collect
  refine hP.bind (hP.givenOrAsked hask _ _) fun solution => ?_
  cases solution with
  | error e => exact hP.pure _
  | ok solution =>
    refine hP.bind (hP.definition hread hsay hdefinition _) fun text => ?_
    cases text with
    | error e => exact hP.pure _
    | ok text =>
      refine hP.bind (hP.givenOrAsked hask _ _) fun output => ?_
      cases output with
      | error e => exact hP.pure _
      | ok output =>
        refine hP.bind hhere fun here => ?_
        cases Config.resolve solution output overrides.log overrides.dryRun here with
        | error fault => exact hP.pure _
        | ok config => exact hP.pure _

end Compositional

namespace Run

variable {overrides : Overrides} {s s' : Session}

/-- Nothing but the terminal is affected. -/
def AtTerminal (s s' : Session) : Prop := s' = { s with terminal := s'.terminal }

theorem AtTerminal.trans {s s' s'' : Session} (h : AtTerminal s s') (h' : AtTerminal s' s'') :
    AtTerminal s s'' := by
  rw [AtTerminal, h', h]

/-- Whether or not a run collects what it needs, nothing but the terminal is affected. -/
theorem atTerminal_collect (overrides : Overrides) :
    Session.Respects AtTerminal (collect Session.host overrides) := by
  have hP := Session.compositional_respects (R := AtTerminal) (fun _ => rfl) .trans
  have hask : ∀ question, Session.Respects AtTerminal (Session.host.ask question) := fun _ _ => rfl
  have hread : ∀ p, Session.Respects AtTerminal (Session.host.read p) := fun _ _ => rfl
  have hsay : ∀ text, Session.Respects AtTerminal (Session.host.say text) := fun _ _ => rfl
  have hdefinition : Session.Respects AtTerminal Session.host.readDefinition := fun _ => rfl
  have hhere : Session.Respects AtTerminal Session.host.workingDirectory := fun _ => rfl
  exact hP.collect hask hread hsay hdefinition hhere overrides

end Run

/-! ### What is collected -/

namespace Session

variable {α β : Type} {P : α → Prop} {Q : β → Prop} {program : StateM Session α}
  {next : α → StateM Session β}

/-- A program whose result has a property, whichever session it starts from. -/
def Yields (P : α → Prop) (program : StateM Session α) : Prop := ∀ s, P (program s).1

theorem Yields.pure {a : α} (h : P a) : Yields P (Pure.pure a) := fun _ => h

theorem Yields.bind (h : Yields P program) (hnext : ∀ a, P a → Yields Q (next a)) :
    Yields Q (program >>= next) :=
  fun s => hnext _ (h s) _

/-- Whatever a program gives is something. -/
theorem yields_any (program : StateM Session α) : Yields (fun _ => True) program := fun _ => trivial

end Session

namespace Run

open Session (Yields yields_any)

/-- Whether an error stops a run while it collects what it needs. -/
def isEarly : RunError → Prop
  | .input _ | .terminal _ | .outputPath _ => True
  | .parse _ | .write _ => False

/-- If there is an error, it is an early one. -/
def FailsEarly {α : Type} (result : Except RunError α) : Prop := ∀ e, result = .error e → isEarly e

theorem failsEarly_ok {α : Type} (a : α) : FailsEarly (.ok a) := fun _ h => nomatch h

theorem failsEarly_error {α : Type} {e : RunError} (h : isEarly e) :
    FailsEarly (.error e : Except RunError α) := by
  intro e' he'
  cases he'
  exact h

theorem givenOrAsked_failsEarly (given question : String) :
    Yields FailsEarly (givenOrAsked Session.host given question) := by
  unfold givenOrAsked
  split
  · refine (yields_any _).bind fun answer _ => ?_
    cases answer with
    | error fault => exact .pure (failsEarly_error trivial)
    | ok answer => exact .pure (failsEarly_ok _)
  · exact .pure (failsEarly_ok _)

theorem definition_failsEarly (input : String) :
    Yields FailsEarly (definition Session.host input) := by
  unfold definition
  split
  · refine (yields_any _).bind fun said _ => ?_
    cases said with
    | error fault => exact .pure (failsEarly_error trivial)
    | ok u =>
      refine (yields_any _).bind fun text _ => ?_
      cases text with
      | error fault => exact .pure (failsEarly_error trivial)
      | ok text => exact .pure (failsEarly_ok _)
  · refine (yields_any _).bind fun text _ => ?_
    cases text with
    | error fault => exact .pure (failsEarly_error trivial)
    | ok text => exact .pure (failsEarly_ok _)

/-- The log that is given, if there is one. -/
def givenLog (overrides : Overrides) : Option Path :=
  if (Text.trim overrides.log).isEmpty then none else some ⟨Text.trim overrides.log⟩

/-- What comes of collecting: an early error, or settings with what has been given and is never
asked for. -/
def IsCollected (overrides : Overrides) : Except RunError (String × Config) → Prop
  | .error e => isEarly e
  | .ok (_, config) => config.log = givenLog overrides ∧ config.dryRun = overrides.dryRun

/-- The settings take the log and whether the run is only tried out from what is given. -/
theorem isCollected_of_resolve {overrides : Overrides} {solution output text : String}
    {here : Except Fault Path} {config : Config}
    (h : Config.resolve solution output overrides.log overrides.dryRun here = .ok config) :
    IsCollected overrides (.ok (text, config)) := by
  unfold Config.resolve at h
  dsimp only at h
  split at h
  · obtain ⟨_, _, hsettings⟩ := bind_eq_ok_iff.mp h
    simp only [← Except.ok.inj hsettings, IsCollected, givenLog, and_self]
  · obtain ⟨_, _, hsettings⟩ := bind_eq_ok_iff.mp h
    simp only [← Except.ok.inj hsettings, IsCollected, givenLog, and_self]

theorem collect_isCollected (overrides : Overrides) :
    Yields (IsCollected overrides) (collect Session.host overrides) := by
  unfold collect
  refine (givenOrAsked_failsEarly _ _).bind fun solution hsolution => ?_
  cases solution with
  | error e => exact .pure (hsolution e rfl)
  | ok solution =>
    refine (definition_failsEarly _).bind fun text htext => ?_
    cases text with
    | error e => exact .pure (htext e rfl)
    | ok text =>
      refine (givenOrAsked_failsEarly _ _).bind fun output houtput => ?_
      cases output with
      | error e => exact .pure (houtput e rfl)
      | ok output =>
        refine (yields_any _).bind fun here _ => ?_
        cases hconfig : Config.resolve solution output overrides.log overrides.dryRun here with
        | error fault => exact .pure trivial
        | ok config => exact .pure (isCollected_of_resolve hconfig)

end Run

end Scaffold
