import Scaffold.Proofs.Asking
import Scaffold.Proofs.DryRun
import Scaffold.Proofs.Printing

/-!
# What the programs accept

Each of the three programs comes to a definition in its own way: one takes it from the terminal,
one from a file that a run is given, and one from each of its arguments. All of them accept the
same bytes, those that are the text of a definition. The one that checks files looks at every
argument, whatever it has found before, so its exit code depends on nothing but which files there
are to check. All of this presupposes that what is printed can be printed; otherwise a program is
aborted.

* `IsDefinition`: the bytes that are accepted.
* `Program.passes_iff_of_read`, `Program.printer_exit_zero_iff`, `Run.interactive_accepts_iff`:
  each program accepts these.
* `Program.checkEach_eq`: to check some files is to print a report and to exit.
* `Program.definitions_accepted`: the programs agree, and checking is fair to every file.
-/

namespace Scaffold

open Text (Bytes)
open CommandLine (Arguments Manual)

/-! ### Definitions -/

/-- Whether some bytes are the text of a definition. -/
def IsDefinition (bytes : Bytes) : Prop :=
  ∃ text entity, Text.decode? bytes = some text ∧ Entity.parse text = .ok entity

variable {bytes : Bytes} {text : String}

theorem not_isDefinition_of_not_text (htext : Text.decode? bytes = none) : ¬IsDefinition bytes := by
  rintro ⟨_, _, hsome, _⟩
  cases htext.symm.trans hsome

theorem isDefinition_iff_of_text (htext : Text.decode? bytes = some text) :
    IsDefinition bytes ↔ ∃ entity, Entity.parse text = .ok entity := by
  constructor
  · rintro ⟨_, entity, hsome, hparse⟩
    cases htext.symm.trans hsome
    exact ⟨entity, hparse⟩
  · rintro ⟨entity, hparse⟩
    exact ⟨text, entity, htext, hparse⟩

theorem not_isDefinition_of_error {e : ParseError} (htext : Text.decode? bytes = some text)
    (hparse : Entity.parse text = .error e) : ¬IsDefinition bytes := by
  rw [isDefinition_iff_of_text htext]
  rintro ⟨_, hok⟩
  cases hparse.symm.trans hok

namespace Session

variable {s : Session} {p : Path}

/-- The text of the file at a path. -/
def textAt (s : Session) (p : Path) : Except Fault String :=
  match s.files.read s.here p with
  | .error fault => .error fault
  | .ok bytes =>
    match Text.decode? bytes with
    | some text => .ok text
    | none => .error .notText

/-- Reading a file changes nothing. -/
theorem readText_eq (p : Path) (s : Session) : host.readText p s = (s.textAt p, s) := by
  have hfound : host.read p s = (s.files.read s.here p, s) := rfl
  rw [Host.readText, run_bind, hfound, textAt]
  cases s.files.read s.here p with
  | error fault => rfl
  | ok bytes =>
    dsimp only
    cases Text.decode? bytes <;> rfl

theorem textAt_of_text (hread : s.files.read s.here p = .ok bytes)
    (htext : Text.decode? bytes = some text) : s.textAt p = .ok text := by
  rw [textAt, hread]
  dsimp only
  rw [htext]

theorem textAt_of_not_text (hread : s.files.read s.here p = .ok bytes)
    (htext : Text.decode? bytes = none) : s.textAt p = .error .notText := by
  rw [textAt, hread]
  dsimp only
  rw [htext]

end Session

namespace Program

variable {s : Session}

/-! ### A file that is checked -/

/-- Whether a file passes when it is checked in a session. -/
def passes (s : Session) (file : String) : Bool := (isValid Session.host file s).1

/-- Checking a file changes nothing. -/
theorem isValid_eq (file : String) (s : Session) :
    isValid Session.host file s = (passes s file, s) := by
  rw [passes, isValid, Session.run_bind, Session.readText_eq]
  cases s.textAt ⟨file⟩ <;> rfl

/-- A file that can be read passes when it holds a definition. -/
theorem passes_iff_of_read {file : String} (hread : s.files.read s.here ⟨file⟩ = .ok bytes) :
    passes s file = true ↔ IsDefinition bytes := by
  rw [passes, isValid, Session.run_bind, Session.readText_eq]
  cases htext : Text.decode? bytes with
  | none =>
    rw [Session.textAt_of_not_text hread htext]
    exact iff_of_false Bool.false_ne_true (not_isDefinition_of_not_text htext)
  | some text =>
    rw [Session.textAt_of_text hread htext]
    change (Entity.parse text).isOk = true ↔ _
    cases hparse : Entity.parse text with
    | error e => exact iff_of_false Bool.false_ne_true (not_isDefinition_of_error htext hparse)
    | ok entity => exact iff_of_true rfl ⟨text, entity, htext, hparse⟩

/-- Nothing but the files matters to what passes. -/
theorem passes_congr {s' : Session} (hfiles : s'.files = s.files) (hhere : s'.here = s.here) :
    passes s' = passes s := by
  funext file
  have htext : s'.textAt ⟨file⟩ = s.textAt ⟨file⟩ := by
    rw [Session.textAt, Session.textAt, hfiles, hhere]
  rw [passes, passes, isValid, Session.run_bind, Session.run_bind, Session.readText_eq,
    Session.readText_eq, htext]
  cases s.textAt ⟨file⟩ <;> rfl

/-! ### A definition at the terminal -/

/-- Whether the output takes the entity that is described at the terminal, if there is one. -/
def TakesEntity (a : Arguments) (t : Terminal) : Prop :=
  ∀ text entity, Text.decode? t.input = some text → Entity.parse text = .ok entity →
    t.HasRoom (entityText a entity).utf8ByteSize

section

variable {args : List String} {a : Arguments}

theorem printer_of_not_isDefinition (hargs : printer.manual.read args = .ready a)
    (h : ¬IsDefinition s.terminal.input) :
    ((printer.run Session.host args).run s).1 = .exit 1 := by
  rw [run, hargs]
  change (printEntity Session.host a s).1 = _
  rw [printEntity, Session.run_bind, host_readAll]
  dsimp only
  cases htext : Text.decode? s.terminal.input with
  | none => rfl
  | some text =>
    dsimp only
    cases hparse : Entity.parse text with
    | error e => rfl
    | ok entity => exact absurd ⟨text, entity, htext, hparse⟩ h

/-- Whichever way it is to be printed, the definition at the terminal is printed when it is one. -/
theorem printer_exit_zero_iff (hargs : printer.manual.read args = .ready a)
    (htakes : TakesEntity a s.terminal) :
    ((printer.run Session.host args).run s).1 = .exit 0 ↔ IsDefinition s.terminal.input := by
  by_cases h : IsDefinition s.terminal.input
  · obtain ⟨text, entity, htext, hparse⟩ := id h
    rw [run_printer_of_room hargs htext hparse (htakes text entity htext hparse)]
    exact iff_of_true rfl h
  · rw [printer_of_not_isDefinition hargs h]
    refine iff_of_false (fun hexit => ?_) h
    cases hexit

/-- An entity that cannot be printed aborts the program. -/
theorem printer_aborts (hargs : printer.manual.read args = .ready a)
    (h : ¬TakesEntity a s.terminal) :
    ((printer.run Session.host args).run s).1 =
      .abort (cannotPrintText Terminal.outputClosed) := by
  simp only [TakesEntity, not_forall] at h
  obtain ⟨text, entity, htext, hparse, hroom⟩ := h
  rw [run_printer_of_no_room hargs htext hparse hroom]

end

end Program

/-! ### A definition that a run is given -/

namespace Run

variable {s : Session}

/-- Whether a run comes to anything but a failure for want of a definition. -/
def Accepts (result : Except RunError Summary) : Prop :=
  (∀ fault, result ≠ .error (.input fault)) ∧ ∀ e, result ≠ .error (.parse e)

theorem accepts_ok (summary : Summary) : Accepts (.ok summary) := by
  constructor
  · intro fault h
    cases h
  · intro e h
    cases h

/-- It is no matter of the definition when an artifact cannot be written. -/
theorem accepts_write (e : WriteError) : Accepts (.error (.write e)) := by
  constructor
  · intro fault h
    cases h
  · intro e' h
    cases h

/-- Whether everything that is not given is answered, so that the settings of a run are known. -/
def Answered (overrides : Overrides) (s : Session) : Prop :=
  ∃ solution output config s₁ s₂,
    givenOrAsked Session.host overrides.solution solutionQuestion s = (.ok solution, s₁) ∧
    givenOrAsked Session.host overrides.output outputQuestion s₁ = (.ok output, s₂) ∧
    Config.resolve solution output overrides.log overrides.dryRun s₂.workingDirectory = .ok config

/-- Generating accepts the texts that can be read. -/
theorem generate_accepts_iff (text : String) (config : Config) (s : Session) :
    Accepts (generate Session.host text config s).1 ↔ ∃ entity, Entity.parse text = .ok entity := by
  cases hparse : Entity.parse text with
  | error e =>
    rw [generate_of_error s hparse]
    refine iff_of_false (fun h => h.2 e rfl) ?_
    rintro ⟨_, hok⟩
    cases hok
  | ok entity =>
    refine iff_of_true ?_ ⟨entity, rfl⟩
    by_cases hdry : config.dryRun = true
    · obtain ⟨s', hrun, _⟩ := generate_dry_of_ok config hdry s hparse
      rw [hrun]
      exact accepts_ok _
    · obtain ⟨written, failure, s', _, hrun⟩ := exists_delivery .machine (Sink.disk Session.host)
        config s hparse
      have hgenerate : (generate Session.host text config s).1 =
          outcome config entity ⟨written, failure⟩ := by
        rw [generate, if_neg hdry]
        exact congrArg Prod.fst hrun
      rw [hgenerate]
      cases failure with
      | none => exact accepts_ok _
      | some e => exact accepts_write e

/-- A path that leads to a file is not blank, unless there are blanks at its ends. -/
theorem not_isBlankText_of_read {path : String} (htrim : Text.trim path = path)
    (hread : s.files.read s.here ⟨path⟩ = .ok bytes) : ¬Text.isBlankText path = true := by
  intro hblank
  have hstart : Text.trimStart path.toList = [] :=
    List.dropWhile_eq_nil_iff.mpr (List.all_eq_true.mp hblank)
  have hempty : path = "" := by
    rw [← htrim, Text.trim, hstart]
    rfl
  rw [hempty] at hread
  cases hread

/-- A question changes nothing but the terminal. -/
theorem read_after_givenOrAsked {given question : String} {result : Except RunError String}
    {s₁ : Session} (h : givenOrAsked Session.host given question s = (result, s₁)) (p : Path) :
    s₁.files.read s₁.here p = s.files.read s.here p := by
  have hP := Session.compositional_respects (R := AtTerminal) (fun _ => rfl) .trans
  have hask : ∀ question, Session.Respects AtTerminal (Session.host.ask question) := fun _ _ => rfl
  have hterminal := hP.givenOrAsked hask given question s
  rw [AtTerminal, h] at hterminal
  dsimp only at hterminal
  rw [hterminal]

/-- A file that is given and is no text is an error of the input. -/
theorem definition_not_text {input : String} (hgiven : ¬Text.isBlankText input = true)
    (hread : s.files.read s.here ⟨Text.trim input⟩ = .ok bytes)
    (htext : Text.decode? bytes = none) :
    definition Session.host input s = (.error (.input .notText), s) := by
  rw [definition, if_neg hgiven, Session.run_bind, Session.readText_eq,
    Session.textAt_of_not_text hread htext]
  rfl

section

variable {overrides : Overrides} {solution output : String} {config : Config} {s₁ s₂ s₃ : Session}

theorem collect_of_error {e : RunError}
    (hsolution : givenOrAsked Session.host overrides.solution solutionQuestion s =
      (.ok solution, s₁))
    (hdefinition : definition Session.host overrides.input s₁ = (.error e, s₂)) :
    collect Session.host overrides s = (.error e, s₂) := by
  rw [collect, Session.run_bind, hsolution]
  dsimp only
  rw [Session.run_bind, hdefinition]
  rfl

theorem collect_of_answers
    (hsolution : givenOrAsked Session.host overrides.solution solutionQuestion s =
      (.ok solution, s₁))
    (hdefinition : definition Session.host overrides.input s₁ = (.ok text, s₂))
    (houtput : givenOrAsked Session.host overrides.output outputQuestion s₂ = (.ok output, s₃))
    (hconfig : Config.resolve solution output overrides.log overrides.dryRun s₃.workingDirectory =
      .ok config) :
    collect Session.host overrides s = (.ok (text, config), s₃) := by
  have hhere : Session.host.workingDirectory s₃ = (s₃.workingDirectory, s₃) := rfl
  rw [collect, Session.run_bind, hsolution]
  dsimp only
  rw [Session.run_bind, hdefinition]
  dsimp only
  rw [Session.run_bind, houtput]
  dsimp only
  rw [Session.run_bind, hhere]
  dsimp only
  rw [hconfig]
  rfl

/-- A run that is given a file, and has answers to everything else, accepts the file when it holds
a definition. -/
theorem interactive_accepts_iff (htrim : Text.trim overrides.input = overrides.input)
    (hread : s.files.read s.here ⟨overrides.input⟩ = .ok bytes) (hanswered : Answered overrides s) :
    Accepts (interactive Session.host overrides s).1 ↔ IsDefinition bytes := by
  obtain ⟨solution, output, config, s₁, s₂, hsolution, houtput, hconfig⟩ := hanswered
  have hgiven := not_isBlankText_of_read htrim hread
  rw [← read_after_givenOrAsked hsolution, ← htrim] at hread
  cases htext : Text.decode? bytes with
  | none =>
    rw [interactive_run, collect_of_error hsolution (definition_not_text hgiven hread htext)]
    exact iff_of_false (fun h => h.1 _ rfl) (not_isDefinition_of_not_text htext)
  | some text =>
    rw [interactive_run,
      collect_of_answers hsolution (definition_given hgiven hread htext) houtput hconfig]
    exact (generate_accepts_iff text config s₂).trans (isDefinition_iff_of_text htext).symm

end

end Run

/-! ### Checking files -/

namespace Program

variable {s : Session}

/-- The line about a file that is checked in a session. -/
def verdict (s : Session) (file : String) : String := verdictText file (passes s file)

/-- What is printed when files are checked: one line about each file, if that is asked for. -/
def report (verbose : Bool) (files : List String) (s : Session) : String :=
  if verbose then String.join (files.map (verdict s)) else ""

theorem report_congr {s' : Session} (h : passes s' = passes s) (verbose : Bool)
    (files : List String) : report verbose files s' = report verbose files s := by
  have hverdict : verdict s' = verdict s := by
    funext file
    rw [verdict, verdict, h]
  rw [report, report, hverdict]

theorem report_nil (verbose : Bool) (s : Session) : report verbose [] s = "" := by
  cases verbose <;> rfl

/-- Every file is checked, and what is found of one depends on no other. -/
theorem checkEach_eq (verbose allValid : Bool) (files : List String) (s : Session) :
    checkEach Session.host verbose allValid files s =
      print Session.host (report verbose files s)
        (pure (.exit (if allValid && files.all (passes s) then 0 else 1))) s := by
  induction files generalizing allValid s with
  | nil => rw [report_nil, print_empty, List.all_nil, Bool.and_true, checkEach]
  | cons file files ih =>
    rw [checkEach, Session.run_bind, isValid_eq, List.all_cons, ← Bool.and_assoc]
    dsimp only
    cases verbose with
    | false => exact ih _ s
    | true =>
      have hreport : report true (file :: files) s = verdict s file ++ report true files s :=
        String.join_cons
      -- What is printed about the file makes no difference to the others.
      let s₁ : Session := { s with terminal := (s.terminal.say (verdict s file)).2 }
      have hpasses : passes s₁ = passes s := passes_congr rfl rfl
      have hothers := ih (allValid && passes s file) s₁
      rw [report_congr hpasses, hpasses] at hothers
      rw [hreport, print_append]
      exact print_congr hothers

/-- What comes of checking files. -/
theorem run_checker {args : List String} {a : Arguments}
    (hargs : checker.manual.read args = .ready a) (s : Session) :
    (checker.run Session.host args).run s =
      print Session.host (report (a.has "verbose") a.free s)
        (pure (.exit (if a.free ≠ [] ∧ ∀ file ∈ a.free, passes s file = true then 0 else 1)))
        s := by
  rw [run, hargs]
  change check Session.host a s = _
  unfold check
  by_cases hfree : a.free = []
  · have hending : ¬(a.free ≠ [] ∧ ∀ file ∈ a.free, passes s file = true) := fun h => h.1 hfree
    rw [if_neg hending, if_pos (List.isEmpty_iff.mpr hfree), hfree, report_nil, print_empty]
  · have hall : (a.free ≠ [] ∧ ∀ file ∈ a.free, passes s file = true) ↔
        a.free.all (passes s) = true := by
      rw [List.all_eq_true]
      exact and_iff_right hfree
    rw [if_neg (fun h => hfree (List.isEmpty_iff.mp h)), checkEach_eq, Bool.true_and]
    simp only [hall]

/-- Any list of files can be given to the program that checks files. -/
theorem exists_read_checker (verbose : Bool) (files : List String) :
    ∃ args a, checker.manual.read args = .ready a ∧ a.free = files ∧ a.has "verbose" = verbose := by
  let a : Arguments := ⟨if verbose then [("verbose", none)] else [], files⟩
  let args : List String :=
    (if verbose then ["--verbose"] else []) ++ CommandLine.separator :: files
  have hscan : checker.manual.scan args = .ok a := by cases verbose <;> rfl
  have hrepeated : checker.manual.repeated? a = none := by cases verbose <;> rfl
  have hhelp : ¬a.has CommandLine.help.name = true := by cases verbose <;> exact Bool.false_ne_true
  have hcanonical : Manual.withoutSeparators args =
      Manual.withoutSeparators (checker.manual.canonical a) := by
    cases verbose <;> rfl
  refine ⟨args, a, ?_, rfl, by cases verbose <;> rfl⟩
  rw [Manual.read, hscan]
  dsimp only
  rw [hrepeated]
  dsimp only
  rw [if_neg hhelp, if_pos hcanonical]

/-! ### The programs -/

/-- What checking files comes to. -/
structure Checks (a : Arguments) (s : Session) (result : Ending × Session) : Prop where
  /-- When the report can be printed, the exit code tells whether there are files to check and all
  of them pass. -/
  ending : s.terminal.HasRoom (report (a.has "verbose") a.free s).utf8ByteSize →
    result.1 = .exit (if a.free ≠ [] ∧ ∀ file ∈ a.free, passes s file = true then 0 else 1)
  output : s.terminal.HasRoom (report (a.has "verbose") a.free s).utf8ByteSize →
    result.2.terminal.output =
      s.terminal.output ++ Text.encode (report (a.has "verbose") a.free s)
  aborted : ¬s.terminal.HasRoom (report (a.has "verbose") a.free s).utf8ByteSize →
    result.1 = .abort (cannotPrintText Terminal.outputClosed)
  /-- Nothing is changed but the terminal, which takes what fits of the report. -/
  session : result.2 =
    { s with terminal := (s.terminal.say (report (a.has "verbose") a.free s)).2 }
  silent : a.has "verbose" = false → result.2 = s

theorem checks_of_read {args : List String} {a : Arguments}
    (hargs : checker.manual.read args = .ready a) (s : Session) :
    Checks a s ((checker.run Session.host args).run s) := by
  rw [run_checker hargs s]
  constructor
  case ending =>
    intro hroom
    rw [print_of_room hroom]
    rfl
  case output =>
    intro hroom
    rw [print_of_room hroom]
    exact Terminal.output_say hroom
  case aborted =>
    intro hroom
    rw [print_of_no_room hroom]
  case session =>
    by_cases hroom : s.terminal.HasRoom (report (a.has "verbose") a.free s).utf8ByteSize
    · rw [print_of_room hroom]
      rfl
    · rw [print_of_no_room hroom]
  case silent =>
    intro hsilent
    rw [hsilent, report, if_neg Bool.false_ne_true, print_empty]
    rfl

/-- **The programs accept the same definitions.** A file passes when it is checked if and only if
its content is printed as an entity, in either form, and if and only if a run that is given the file
and gets its answers does not fail for want of a definition. To check some files is to check each of
them: it succeeds when there are any and all of them pass, says so of each when it is asked to, and
otherwise depends neither on that nor on their order. A program that cannot print what it has to is
aborted. -/
theorem definitions_accepted :
    (∀ (path : String) (bytes : Bytes) (s : Session), Text.trim path = path →
      s.files.read s.here ⟨path⟩ = .ok bytes →
      (∀ (args : List String) (a : Arguments) (t : Session), printer.manual.read args = .ready a →
        t.terminal.input = bytes →
        (TakesEntity a t.terminal →
          (passes s path = true ↔ ((printer.run Session.host args).run t).1 = .exit 0)) ∧
        (¬TakesEntity a t.terminal → ((printer.run Session.host args).run t).1 =
          .abort (cannotPrintText Terminal.outputClosed))) ∧
      ∀ (overrides : Overrides) (t : Session), overrides.input = path →
        t.files.read t.here ⟨path⟩ = .ok bytes → Run.Answered overrides t →
        (passes s path = true ↔
          Run.Accepts ((Run.interactive Session.host overrides).run t).1)) ∧
    (∀ (verbose : Bool) (files : List String), ∃ args a,
      checker.manual.read args = .ready a ∧ a.free = files ∧ a.has "verbose" = verbose) ∧
    (∀ (args : List String) (a : Arguments) (s : Session), checker.manual.read args = .ready a →
      Checks a s ((checker.run Session.host args).run s)) ∧
    ∀ (args args' : List String) (a a' : Arguments) (s : Session),
      checker.manual.read args = .ready a → checker.manual.read args' = .ready a' →
      a.free.Perm a'.free →
      s.terminal.HasRoom (report (a.has "verbose") a.free s).utf8ByteSize →
      s.terminal.HasRoom (report (a'.has "verbose") a'.free s).utf8ByteSize →
      ((checker.run Session.host args).run s).1 = ((checker.run Session.host args').run s).1 := by
  refine ⟨?_, exists_read_checker, fun _ _ s hargs => checks_of_read hargs s, ?_⟩
  · intro path bytes s htrim hread
    have hpasses := passes_iff_of_read hread
    constructor
    · rintro args a t hargs rfl
      exact ⟨fun htakes => hpasses.trans (printer_exit_zero_iff hargs htakes).symm,
        printer_aborts hargs⟩
    · rintro overrides t rfl hgiven hanswered
      exact hpasses.trans (Run.interactive_accepts_iff htrim hgiven hanswered).symm
  · intro args args' a a' s hargs hargs' hperm hroom hroom'
    have hall : (∀ file ∈ a.free, passes s file = true) ↔ ∀ file ∈ a'.free, passes s file = true :=
      forall_congr' fun file => by rw [hperm.mem_iff]
    rw [(checks_of_read hargs s).ending hroom, (checks_of_read hargs' s).ending hroom']
    simp only [ne_eq, ← List.length_eq_zero_iff, hperm.length_eq, hall]

/-- A file with a class in it is accepted by every program, also behind one that is missing. The
program that checks files is aborted only when it has more to print than the output takes. -/
theorem definitions_accepted_behind_missing_file :
    let text := "public class N \x7b\x7d"
    let s : Session := {
      files := ⟨[(["n.cs"], .file (Text.encode text))]⟩
      terminal := { input := Text.encode text } }
    let narrow : Session := { s with terminal := { s.terminal with room := some 5 } }
    let checking args := (checker.run Session.host args).run s
    passes s "n.cs" = true ∧ passes s "m.cs" = false ∧
      ((printer.run Session.host []).run s).1 = .exit 0 ∧
      ((printer.run Session.host ["--json"]).run s).1 = .exit 0 ∧
      Run.Accepts ((Run.interactive Session.host
        { solution := "SCT", input := "n.cs", output := "out" }).run s).1 ∧
      checking ["n.cs"] = (.exit 0, s) ∧
      (checking ["--verbose", "m.cs", "n.cs"]).2.terminal.output =
        Text.encode "m.cs fail\nn.cs pass\n" ∧
      (checking ["--verbose", "m.cs", "n.cs"]).1 = (checking ["n.cs", "m.cs"]).1 ∧
      (checker.run Session.host ["n.cs"]).run narrow = (.exit 0, narrow) ∧
      ((checker.run Session.host ["--verbose", "n.cs"]).run narrow).1 =
        .abort "failed printing to stdout: output closed" := by
  intro text s narrow checking
  obtain ⟨hagree, -, hchecks, hperm⟩ := definitions_accepted
  have hroom : ∀ n, s.terminal.HasRoom n := Terminal.hasRoom_of_no_limit rfl
  have htakes : ∀ a, TakesEntity a s.terminal := fun _ _ _ _ _ => hroom _
  have hread : s.files.read s.here ⟨"n.cs"⟩ = .ok (Text.encode text) := rfl
  obtain ⟨hprinted, hgenerated⟩ := hagree "n.cs" (Text.encode text) s rfl hread
  have hpass : passes s "n.cs" = true := (passes_iff_of_read hread).mpr
    ⟨text, ⟨"N", []⟩, Text.decode?_encode text, by decide +kernel⟩
  have hfail : passes s "m.cs" = false := rfl
  have hsame : passes narrow = passes s := passes_congr rfl rfl
  have hnarrow : passes narrow "n.cs" = true := (congrFun hsame "n.cs").trans hpass
  have hone := hchecks ["n.cs"] ⟨[], ["n.cs"]⟩
  have htwo := hchecks ["--verbose", "m.cs", "n.cs"] ⟨[("verbose", none)], ["m.cs", "n.cs"]⟩ s rfl
  have hcode : ∀ s' : Session, passes s' "n.cs" = true →
      (if ["n.cs"] ≠ [] ∧ ∀ file ∈ ["n.cs"], passes s' file = true then 0 else 1) = 0 :=
    fun _ h => if_pos ⟨List.cons_ne_nil _ _, List.forall_mem_singleton.mpr h⟩
  refine ⟨hpass, hfail, ((hprinted [] {} s rfl rfl).1 (htakes _)).mp hpass,
    ((hprinted ["--json"] ⟨[("json", none)], []⟩ s rfl rfl).1 (htakes _)).mp hpass,
    (hgenerated _ s rfl hread ⟨"SCT", "out", _, s, s, rfl, rfl, rfl⟩).mp hpass, ?_, ?_,
    hperm _ _ ⟨[("verbose", none)], ["m.cs", "n.cs"]⟩ ⟨[], ["n.cs", "m.cs"]⟩ s rfl rfl
      (.swap _ _ _) (hroom _) (hroom _), ?_, ?_⟩
  · exact Prod.ext (((hone s rfl).ending (hroom _)).trans (congrArg Ending.exit (hcode s hpass)))
      ((hone s rfl).silent rfl)
  · refine (htwo.output (hroom _)).trans ?_
    have hreport : report true ["m.cs", "n.cs"] s = "m.cs fail\nn.cs pass\n" := by
      simp [report, verdict, verdictText, hpass, hfail]
    exact congrArg Text.encode hreport
  · exact Prod.ext (((hone narrow rfl).ending fun _ _ => Nat.zero_le _).trans
      (congrArg Ending.exit (hcode narrow hnarrow))) ((hone narrow rfl).silent rfl)
  · have hreport : report true ["n.cs"] narrow = "n.cs pass\n" := by
      simp [report, verdict, verdictText, hnarrow]
    have hfull : ¬narrow.terminal.HasRoom (report true ["n.cs"] narrow).utf8ByteSize := by
      rw [hreport]
      intro h
      exact absurd (h 5 rfl) (by decide)
    refine ((hchecks ["--verbose", "n.cs"] ⟨[("verbose", none)], ["n.cs"]⟩ narrow rfl).aborted
      hfull).trans ?_
    decide

end Program

end Scaffold
