import Scaffold.Proofs.Asking
import Scaffold.Proofs.Blind
import Scaffold.Proofs.TypedInput

/-!
# Answers, given or typed

A run takes its solution name, its definition and its output path from what it is given, and asks
for what is missing. It makes no difference which of them are given and which are typed: the run
that follows has the same settings and, up to its spacing, the same definition.

* `Replies`: three answers, each of which can be given beforehand or typed.
* `exists_givenOrAsked`, `exists_definition`: one answer, in either form.
* `given_or_typed`: whichever of the answers are typed, the run is the same.
-/

namespace Scaffold

open Text (Bytes)

namespace Text

/-! ### Trimming -/

/-- A blank at the end of a text is trimmed. -/
theorem trim_concat {c : Char} (hc : isBlank c = true) (s : List Char) :
    trim (String.ofList (s ++ [c])) = trim (String.ofList s) := by
  have hstart : trimStart (s ++ [c]) =
      if (trimStart s).isEmpty then [] else trimStart s ++ [c] := by
    rw [trimStart, List.dropWhile_append]
    simp [trimStart, hc]
  unfold trim
  rw [String.toList_ofList, String.toList_ofList, hstart]
  cases hs : trimStart s with
  | nil => rfl
  | cons d t =>
    have hreverse : ((d :: t) ++ [c]).reverse = c :: (d :: t).reverse := by simp
    rw [List.isEmpty_cons, if_neg Bool.false_ne_true, hreverse]
    rw [trimStart, List.dropWhile_cons_of_pos hc]
    rfl

/-- A typed line means what it means without its ending. -/
theorem trim_withoutEnding (s : String) : trim (withoutEnding (s ++ "\n")) = trim s := by
  rw [withoutEnding_newline, dropFinal]
  split
  · next hlast =>
    obtain ⟨m, hm⟩ := List.getLast?_eq_some_iff.mp hlast
    rw [hm, List.dropLast_concat, ← trim_concat (c := '\r') (by decide), ← hm, String.ofList_toList]
  · rw [String.ofList_toList]

theorem isBlankText_empty : isBlankText "" = true := by decide

end Text

/-- What is done at the terminal leaves the rest of the session alone. -/
theorem Session.atTerminal_facing {α : Type} {step : Terminal → α × Terminal} {a : α}
    {t t' : Terminal} (s : Session) (h : step t = (a, t')) :
    atTerminal step (s.facing t) = (a, s.facing t') := by
  change ((step t).1, s.facing (step t).2) = _
  rw [h]

namespace Run

variable {s : Session} {t : Terminal} {more : Bytes} {n : Nat} {answer : String}

/-! ### One answer -/

/-- What stands for an answer that may be given beforehand. -/
def inAdvance (given : Bool) (answer : String) : String := if given then answer else ""

/-- What is typed for an answer unless it is given beforehand. -/
def onRequest (given : Bool) (typed : String) : String := if given then "" else typed

/-- An answer that is typed is as good as one that is given, up to blanks at its ends. -/
theorem exists_givenOrAsked (question : String) (given : Bool)
    (hanswer : Text.isBlankText answer = false) (hline : '\n' ∉ answer.toList)
    (hroom : t.HasRoom (question.utf8ByteSize + n))
    (h : t.input = Text.encode (onRequest given (answer ++ "\n")) ++ more) :
    ∃ text t', givenOrAsked Session.host (inAdvance given answer) question (s.facing t) =
        (.ok text, s.facing t') ∧
      t'.input = more ∧ t'.HasRoom n ∧
      Text.isBlankText text = false ∧ Text.trim text = Text.trim answer := by
  cases given with
  | true =>
    refine ⟨answer, t, ?_, h, fun k hk => Nat.le_of_add_left_le (hroom k hk), hanswer, rfl⟩
    rw [givenOrAsked, inAdvance, if_pos rfl, if_neg (by simp [hanswer])]
    rfl
  | false =>
    obtain ⟨t', hask, hinput, hroom'⟩ := Terminal.exists_ask hline hroom h
    refine ⟨_, t', ?_, hinput, hroom', (Text.isBlankText_withoutEnding _).trans hanswer,
      Text.trim_withoutEnding _⟩
    have hasked : Session.host.ask question (s.facing t) =
        (.ok (some (Text.withoutEnding (answer ++ "\n"))), s.facing t') :=
      s.atTerminal_facing hask
    rw [givenOrAsked, inAdvance, if_neg Bool.false_ne_true, if_pos Text.isBlankText_empty,
      Session.run_bind, hasked]
    rfl

/-- A definition that is typed is as good as one in a file, up to its spacing. -/
theorem exists_definition (given : Bool) {file text : String}
    (hfile : Text.isBlankText file = false) (htrim : Text.trim file = file)
    (hread : s.files.read s.here ⟨file⟩ = .ok (Text.encode text))
    (hmarker : Terminal.Unmarked text)
    (hroom : t.HasRoom (definitionInvitation.utf8ByteSize + n))
    (h : t.input = Text.encode (onRequest given (Terminal.entered text)) ++ more) :
    ∃ text' t', definition Session.host (inAdvance given file) (s.facing t) =
        (.ok text', s.facing t') ∧
      t'.input = more ∧ t'.HasRoom n ∧ Entity.parse text' = Entity.parse text := by
  cases given with
  | true =>
    refine ⟨text, t, ?_, h, fun k hk => Nat.le_of_add_left_le (hroom k hk), rfl⟩
    have hgiven : ¬Text.isBlankText file = true := by simp [hfile]
    rw [← htrim] at hread
    rw [inAdvance, if_pos rfl]
    exact definition_given hgiven hread (Text.decode?_encode text)
  | false =>
    obtain ⟨t₁, hsay, hinput, hroom'⟩ := Terminal.exists_say hroom
    obtain ⟨text', hdefinition, hspaced⟩ :=
      Terminal.exists_readDefinition hmarker (hinput.trans h)
    refine ⟨text', { t₁ with input := more }, ?_, rfl, hroom',
      (Definition.parse_of_respaced hspaced).symm⟩
    have hsaid : Session.host.say definitionInvitation (s.facing t) = (.ok (), s.facing t₁) :=
      s.atTerminal_facing hsay
    have hentered : Session.host.readDefinition (s.facing t₁) =
        (.ok text', s.facing { t₁ with input := more }) :=
      s.atTerminal_facing hdefinition
    rw [definition, inAdvance, if_neg Bool.false_ne_true, if_pos Text.isBlankText_empty,
      Session.run_bind, hsaid]
    dsimp only
    rw [Session.run_bind, hentered]
    rfl

/-! ### Three answers -/

/-- What a run is told, given beforehand or on request. -/
inductive Question where
  | solution
  | definition
  | output
  deriving DecidableEq, Repr

/-- The answers to the questions of a run. The definition stands in a file as well. -/
structure Replies where
  solution : String
  file : String
  definition : String
  output : String

namespace Replies

/-- What the run is given beforehand. -/
def overrides (r : Replies) (given : Question → Bool) (log : String) (dryRun : Bool) : Overrides where
  solution := inAdvance (given .solution) r.solution
  input := inAdvance (given .definition) r.file
  output := inAdvance (given .output) r.output
  log
  dryRun

/-- What is typed in the order of the questions. -/
def typed (r : Replies) (given : Question → Bool) : String :=
  onRequest (given .solution) (r.solution ++ "\n") ++
  (onRequest (given .definition) (Terminal.entered r.definition) ++
  onRequest (given .output) (r.output ++ "\n"))

/-- The answers are lines that are not blank, and the definition can be entered and can be read
from its file. -/
structure Proper (r : Replies) (s : Session) : Prop where
  solution : Text.isBlankText r.solution = false ∧ '\n' ∉ r.solution.toList
  output : Text.isBlankText r.output = false ∧ '\n' ∉ r.output.toList
  file : Text.isBlankText r.file = false ∧ Text.trim r.file = r.file
  readable : s.files.read s.here ⟨r.file⟩ = .ok (Text.encode r.definition)
  unmarked : Terminal.Unmarked r.definition

end Replies

/-- All that a run asks. -/
def questions : String := solutionQuestion ++ (definitionInvitation ++ outputQuestion)

/-- Blanks at their ends do not matter to answers that are not blank, and with an output path the
working directory is not looked at. -/
theorem resolve_eq {solution solution' output output' : String}
    (hsolution : Text.trim solution = Text.trim solution')
    (houtput : Text.isBlankText output = false) (houtput' : Text.isBlankText output' = false)
    (hsame : Text.trim output = Text.trim output') (log : String) (dryRun : Bool)
    (here here' : Except Fault Path) :
    Config.resolve solution output log dryRun here =
      Config.resolve solution' output' log dryRun here' := by
  simp only [Config.resolve, hsolution, houtput, houtput', hsame, Bool.false_eq_true, if_false]

/-- Only the entity matters to what a definition generates. -/
theorem generate_congr {definition definition' : String} {config : Config}
    (h : Entity.parse definition = Entity.parse definition') :
    generate Session.host definition config = generate Session.host definition' config := by
  simp only [generate, into, h]

/-- **Answers are as good typed as given.** Whichever of the three answers are given beforehand,
when the others are typed in order the run is the one with all of them: it has the same result and
leaves the same session, but for the terminal, where it leaves what is not an answer. -/
theorem given_or_typed (r : Replies) (s : Session) (hr : r.Proper s) (log : String) (dryRun : Bool)
    (left : Bytes) (t : (Question → Bool) → Terminal)
    (ht : ∀ given, (t given).input = Text.encode (r.typed given) ++ left ∧
      (t given).HasRoom questions.utf8ByteSize) :
    ∃ config result s',
      (∀ here, Config.resolve r.solution r.output log dryRun here = .ok config) ∧
      generate Session.host r.definition config s = (result, s') ∧
      ∀ given, ∃ t', t'.input = left ∧
        interactive Session.host (r.overrides given log dryRun) (s.facing (t given)) =
          (result, s'.facing t') := by
  obtain ⟨config, hconfig⟩ : ∃ config,
      Config.resolve r.solution r.output log dryRun s.workingDirectory = .ok config := by
    simp only [Config.resolve, hr.output.1, Bool.false_eq_true, if_false]
    exact ⟨_, rfl⟩
  have hresolve : ∀ here, Config.resolve r.solution r.output log dryRun here = .ok config :=
    fun here => (resolve_eq rfl hr.output.1 hr.output.1 rfl log dryRun here _).trans hconfig
  refine ⟨config, (generate Session.host r.definition config s).1,
    (generate Session.host r.definition config s).2, hresolve, rfl, ?_⟩
  intro given
  obtain ⟨hinput, hroom⟩ := ht given
  rw [Replies.typed, Text.encode_append, Text.encode_append, List.append_assoc,
    List.append_assoc] at hinput
  rw [questions, String.utf8ByteSize_append, String.utf8ByteSize_append] at hroom
  obtain ⟨solution, t₁, hsolution, hinput₁, hroom₁, _, hsame⟩ :=
    exists_givenOrAsked (s := s) solutionQuestion (given .solution) hr.solution.1 hr.solution.2
      hroom hinput
  obtain ⟨text, t₂, hdefinition, hinput₂, hroom₂, hparse⟩ :=
    exists_definition (given .definition) hr.file.1 hr.file.2 hr.readable hr.unmarked hroom₁ hinput₁
  obtain ⟨output, t₃, houtput, hinput₃, _, hblank, hsame'⟩ :=
    exists_givenOrAsked (s := s) (n := 0) outputQuestion (given .output) hr.output.1
      hr.output.2 hroom₂ hinput₂
  refine ⟨t₃, hinput₃, ?_⟩
  have hconfig' : Config.resolve solution output log dryRun s.workingDirectory = .ok config :=
    (resolve_eq hsame hblank hr.output.1 hsame' log dryRun _ _).trans hconfig
  have hgenerate : generate Session.host text config (s.facing t₃) =
      ((generate Session.host r.definition config s).1,
        (generate Session.host r.definition config s).2.facing t₃) := by
    rw [generate_congr hparse]
    exact blind_generate r.definition config s t₃
  have hhere : Session.host.workingDirectory (s.facing t₃) =
      (s.workingDirectory, s.facing t₃) := rfl
  rw [← hgenerate, interactive, Replies.overrides, Session.run_bind, hsolution]
  dsimp only
  rw [Session.run_bind, hdefinition]
  dsimp only
  rw [Session.run_bind, houtput]
  dsimp only
  rw [Session.run_bind, hhere]
  dsimp only
  rw [hconfig']

/-- A definition with other line endings than those that are typed, and without one at its end. -/
theorem given_or_typed_other_endings :
    let r : Replies :=
      ⟨"Acme", "order.cs", "public class Order\r\n\x7b public int Id \x7b get; set; \x7d \x7d", "out\r"⟩
    let s : Session := { files := ⟨[(["order.cs"], .file (Text.encode r.definition))]⟩ }
    r.Proper s ∧ ∃ config result s',
      (∀ here, Config.resolve r.solution r.output "" true here = .ok config) ∧
      generate Session.host r.definition config s = (result, s') ∧
      ∀ given, ∃ t', t'.input = [] ∧
        interactive Session.host (r.overrides given "" true)
          (s.facing { input := Text.encode (r.typed given) ++ [] }) = (result, s'.facing t') := by
  intro r s
  have hunmarked : Terminal.Unmarked r.definition := by
    unfold Terminal.Unmarked
    decide +kernel
  have hproper : r.Proper s :=
    ⟨by decide, by decide, by decide +kernel, by decide +kernel, hunmarked⟩
  refine ⟨hproper, given_or_typed r s hproper "" true []
    (fun given => { input := Text.encode (r.typed given) ++ [] }) fun given => ⟨rfl, ?_⟩⟩
  intro room hroom
  cases hroom

end Run

end Scaffold
