import Scaffold.Proofs.Asking
import Scaffold.Proofs.Blind
import Scaffold.Proofs.LineByLine
import Scaffold.Proofs.LogLines

/-!
# When the output closes

A run writes to the terminal only what it asks for, and asks before it does anything else. Where
the output closes, inside of whichever question, the run stops as if it had not been started; if
it closes later, the run does not notice.

* `Reads`: a reading is decided by the input and does not fail on text (`AllText`).
* `Says`: what a program writes if all of it is taken, and how it goes if not. `Says.bind`: one
  program after the other.
* `findsOut_givenOrAsked`, `findsOut_definition`: what a run says for what it is not given.
* `asks_interactive`: altogether it asks for this and says nothing else.
-/

namespace Scaffold

open Text (Bytes)

/-! ### Readings -/

namespace Terminal

open Text (said? splitLines)

/-- All lines of the input are text. -/
def AllText (input : Bytes) : Prop := ∀ l ∈ splitLines input, said? l ≠ none

theorem AllText.of_suffix {input : Bytes} {ls : List Bytes} (h : AllText input)
    (hls : ls <:+ splitLines input) : AllText ls.flatten := by
  intro l hl
  rw [Text.splitLines_flatten_of_suffix hls] at hl
  exact h l (hls.subset hl)

theorem allText_nil : AllText [] := by
  intro l hl
  rw [Text.splitLines_eq_nil_iff.mpr rfl] at hl
  cases hl

/-- What has been typed is text line by line. -/
theorem allText_encode (typed : String) : AllText (Text.encode typed) := by
  induction typed using Text.lines_induction with
  | empty => exact allText_nil
  | last s hne hline =>
    intro l hl
    rw [Text.splitLines_encode_last hne hline, List.mem_singleton] at hl
    rw [hl, Text.said?_encode]
    exact Option.some_ne_none _
  | line first rest hline ih =>
    intro l hl
    rw [Text.splitLines_encode_line hline] at hl
    rcases List.mem_cons.mp hl with rfl | hl
    · rw [Text.said?_encode]
      exact Option.some_ne_none _
    · exact ih l hl

/-- A reading is decided by the input, and affects nothing else. It does not fail on text. -/
def Reads {α : Type} (step : Terminal → Except Fault α × Terminal) : Prop :=
  ∀ input, ∃ result left,
    (∀ t : Terminal, t.input = input → step t = (result, { t with input := left })) ∧
    (AllText input → (∃ a, result = .ok a) ∧ AllText left)

theorem reads_readLine : Reads readLine := by
  intro input
  cases hlines : splitLines input with
  | nil =>
    obtain rfl := Text.splitLines_eq_nil_iff.mp hlines
    refine ⟨.ok none, [], ?_, fun h => ⟨⟨none, rfl⟩, h⟩⟩
    rintro ⟨_, output, room⟩ rfl
    rfl
  | cons l ls =>
    have hleft : ls <:+ splitLines input := hlines ▸ List.suffix_cons l ls
    refine ⟨_, ls.flatten, fun t ht => readLine_of_splitLines (ht ▸ hlines), fun h => ⟨?_, ?_⟩⟩
    · obtain ⟨s, hs⟩ := Option.ne_none_iff_exists'.mp (h l (hlines ▸ List.mem_cons_self))
      exact ⟨some s, by rw [hs]⟩
    · exact h.of_suffix hleft

theorem reads_readDefinition : Reads readDefinition := by
  intro input
  obtain ⟨body, texts, rest, hlines, hbody, rfl | ⟨l, left, rfl, hl⟩⟩ :=
    exists_body (splitLines input)
  · rw [List.append_nil] at hlines
    exact ⟨_, [], fun t ht => readDefinition_unmarked hbody (ht ▸ hlines),
      fun _ => ⟨⟨_, rfl⟩, allText_nil⟩⟩
  · have hleft : left <:+ splitLines input :=
      hlines ▸ (List.suffix_cons l left).trans (List.suffix_append body (l :: left))
    rcases hl with hl | hl
    · exact ⟨_, left.flatten, fun t ht => readDefinition_marked hbody hl (ht ▸ hlines),
        fun h => ⟨⟨_, rfl⟩, h.of_suffix hleft⟩⟩
    · refine ⟨_, left.flatten, fun t ht => readDefinition_torn hbody hl (ht ▸ hlines), fun h => ?_⟩
      have hmem : l ∈ splitLines input := by simp [hlines]
      exact absurd hl (h l hmem)

end Terminal

/-! ### What programs say -/

namespace Session

/-- The session with an output that takes so many more bytes. -/
def withRoom (s : Session) (room : Option Nat) : Session := s.facing { s.terminal with room }

/-- The session after something has been said, and with this input left. -/
def after (s : Session) (said left : Bytes) : Session :=
  s.facing { s.terminal with input := left, output := s.terminal.output ++ said }

theorem after_after (s : Session) (said said' left left' : Bytes) :
    (s.after said left).after said' left' = s.after (said ++ said') left' := by
  simp only [after, facing, List.append_assoc]

theorem after_nothing (s : Session) : s.after [] s.terminal.input = s := by
  simp [after, facing]

section

variable {ε ε' α β : Type} {e : ε} {e' : ε'} {program : StateM Session (Except ε α)}
  {next : Except ε α → StateM Session (Except ε' β)} {s s' : Session} {said said' left : Bytes}
  {result : Except ε α} {result' : Except ε' β}

/-- What a program says and what comes of it when the output takes all of this. When it does not,
the program fails with the given error where the output closes, and until then has affected nothing
but the terminal. -/
structure Says (e : ε) (program : StateM Session (Except ε α)) (s : Session) (said : Bytes)
    (result : Except ε α) (s' : Session) : Prop where
  unlimited : program (s.withRoom none) = (result, s'.withRoom none)
  output : s'.terminal.output = s.terminal.output ++ said
  enough : ∀ n, said.length ≤ n →
    program (s.withRoom (some n)) = (result, s'.withRoom (some (n - said.length)))
  cut : ∀ n, n < said.length → ∃ left,
    program (s.withRoom (some n)) = (.error e, (s.after (said.take n) left).withRoom (some 0))

/-- A program to which the terminal does not matter says nothing. -/
theorem Says.of_blind (h : Execution.machine.Blind program) :
    Says e program s [] (program s).1 ((program s).2.facing s.terminal) where
  unlimited := h s _
  output := (List.append_nil _).symm
  enough _ _ := h s _
  cut _ hn := absurd hn (Nat.not_lt_zero _)

theorem Says.pure (result : Except ε α) (s : Session) : Says e (Pure.pure result) s [] result s :=
  .of_blind fun _ _ => rfl

/-- What is said by one program and then by another, which is not started when the first fails
because the output closes. -/
theorem Says.bind (h : Says e program s said result (s.after said left))
    (hnext : Says e' (next result) (s.after said left) said' result' s')
    (herror : next (.error e) = Pure.pure (.error e')) :
    Says e' (program >>= next) s (said ++ said') result' s' where
  unlimited := by rw [run_bind, h.unlimited, hnext.unlimited]
  output := by
    rw [hnext.output, ← List.append_assoc]
    rfl
  enough n hn := by
    rw [List.length_append] at hn
    rw [run_bind, h.enough n (by omega), hnext.enough _ (by omega), List.length_append,
      Nat.sub_add_eq]
  cut n hn := by
    rw [List.length_append] at hn
    rw [run_bind, List.take_append]
    -- The output closes inside of what the first program says, or the first program is done.
    by_cases hfirst : n < said.length
    · obtain ⟨left', hcut⟩ := h.cut n hfirst
      refine ⟨left', ?_⟩
      rw [hcut, herror, Nat.sub_eq_zero_of_le (Nat.le_of_lt hfirst), List.take_zero,
        List.append_nil]
      rfl
    · obtain ⟨left', hcut⟩ := hnext.cut (n - said.length) (by omega)
      refine ⟨left', ?_⟩
      rw [h.enough n (by omega), hcut, after_after,
        List.take_of_length_le (Nat.le_of_not_lt hfirst)]

/-- A step behind what has been said settles the result. -/
theorem Says.bind_pure (h : Says e program s said result (s.after said left))
    (hnext : next result = Pure.pure result') (herror : next (.error e) = Pure.pure (.error e')) :
    Says e' (program >>= next) s said result' (s.after said left) := by
  have hdone : Says e' (next result) (s.after said left) [] result' (s.after said left) :=
    hnext ▸ .pure result' _
  have hboth := h.bind hdone herror
  rwa [List.append_nil] at hboth

end

variable {α : Type}

theorem says_say (text : String) (s : Session) :
    Says Terminal.outputClosed (host.say text) s (Text.encode text) (.ok ())
      (s.after (Text.encode text) s.terminal.input) where
  unlimited := rfl
  output := rfl
  enough n hn := by
    change atTerminal (·.say text) (s.withRoom (some n)) = _
    simp only [atTerminal, Terminal.say, Terminal.write, withRoom, facing, after, if_pos hn,
      List.take_of_length_le hn]
  cut n hn := by
    refine ⟨s.terminal.input, ?_⟩
    change atTerminal (·.say text) (s.withRoom (some n)) = _
    simp only [atTerminal, Terminal.say, Terminal.write, withRoom, facing, after,
      if_neg (Nat.not_le_of_lt hn), Nat.sub_eq_zero_of_le (Nat.le_of_lt hn), Terminal.outputClosed]

/-- Nothing is said by reading. -/
theorem exists_says_read {e : Fault} {step : Terminal → Except Fault α × Terminal}
    (h : Terminal.Reads step) (s : Session) :
    ∃ result left, Says e (atTerminal step) s [] result (s.after [] left) ∧
      (Terminal.AllText s.terminal.input → (∃ a, result = .ok a) ∧ Terminal.AllText left) := by
  obtain ⟨result, left, hstep, htext⟩ := h s.terminal.input
  have hrun : ∀ room,
      atTerminal step (s.withRoom room) = (result, (s.after [] left).withRoom room) := by
    intro room
    have hroom := hstep { s.terminal with room } rfl
    simp only [atTerminal, withRoom, facing, after, hroom, List.append_nil]
  exact ⟨result, left, ⟨hrun none, rfl, fun n _ => hrun (some n),
    fun n hn => absurd hn (Nat.not_lt_zero n)⟩, htext⟩

/-- Says a text and, if it is taken, reads. -/
def prompt (text : String) (step : Terminal → Except Fault α × Terminal) :
    StateM Session (Except Fault α) := do
  match ← host.say text with
  | .error fault => return .error fault
  | .ok () => atTerminal step

/-- To ask is to say the question and to read a line. -/
theorem host_ask (question : String) : host.ask question = prompt question Terminal.readLine := by
  funext s
  have hask : host.ask question s =
      ((s.terminal.ask question).1, { s with terminal := (s.terminal.ask question).2 }) := rfl
  have hsay : host.say question s =
      ((s.terminal.say question).1, { s with terminal := (s.terminal.say question).2 }) := rfl
  rw [prompt, run_bind, hask, hsay, Terminal.ask]
  rcases s.terminal.say question with ⟨_ | _, t⟩
  · rfl
  · rfl

/-- What is read behind a prompt is decided by the input. -/
theorem exists_says_prompt {step : Terminal → Except Fault α × Terminal}
    (h : Terminal.Reads step) (text : String) (s : Session) :
    ∃ result left,
      Says Terminal.outputClosed (prompt text step) s (Text.encode text) result
        (s.after (Text.encode text) left) ∧
      (Terminal.AllText s.terminal.input → (∃ a, result = .ok a) ∧ Terminal.AllText left) := by
  obtain ⟨result, left, hread, htext⟩ := exists_says_read (e := Terminal.outputClosed) h
    (s.after (Text.encode text) s.terminal.input)
  refine ⟨result, left, ?_, htext⟩
  have hprompt : Says Terminal.outputClosed (prompt text step) s (Text.encode text ++ []) result
      ((s.after (Text.encode text) s.terminal.input).after [] left) :=
    (says_say text s).bind hread rfl
  rwa [after_after, List.append_nil] at hprompt

end Session

/-! ### What a run says -/

namespace Run

open Execution (machine)
open Session (Says)
open Terminal (AllText outputClosed)

/-- What a run asks for, in order: what it is not given. -/
def asked (overrides : Overrides) : List String :=
  ([(overrides.solution, solutionQuestion), (overrides.input, definitionInvitation),
    (overrides.output, outputQuestion)].filter (Text.isBlankText ·.1)).map (·.2)

/-- The definition is asked for, or the file that is given for it holds text. -/
def InputUsable (overrides : Overrides) (s : Session) : Prop :=
  Text.isBlankText overrides.input = true ∨
    ∃ bytes text, s.files.read s.here ⟨Text.trim overrides.input⟩ = .ok bytes ∧
      Text.decode? bytes = some text

theorem inputUsable_after (overrides : Overrides) (s : Session) (said left : Bytes) :
    InputUsable overrides (s.after said left) = InputUsable overrides s := rfl

/-- What is said about something that may be given. -/
def saidFor (given question : String) : Bytes :=
  if Text.isBlankText given then Text.encode question else []

theorem flatMap_asked (overrides : Overrides) :
    (asked overrides).flatMap Text.encode =
      saidFor overrides.solution solutionQuestion ++
        (saidFor overrides.input definitionInvitation ++
          (saidFor overrides.output outputQuestion ++ [])) := by
  simp only [asked, saidFor, List.filter_cons, List.filter_nil]
  split <;> split <;> split <;> simp

/-- A part of a run that says something for what it is to find out, and affects nothing else. It
finds it out if the input is text and what it is given is usable. -/
def FindsOut {α : Type} (usable : Prop) (program : StateM Session (Except RunError α))
    (s : Session) (said : Bytes) : Prop :=
  ∃ result left, Says (.terminal outputClosed) program s said result (s.after said left) ∧
    (AllText s.terminal.input → usable → (∃ a, result = .ok a) ∧ AllText left)

/-- A run that says something, if the input is text and what it is given is usable. -/
def Asks {α : Type} (usable : Prop) (program : StateM Session (Except RunError α)) (s : Session)
    (said : Bytes) : Prop :=
  ∃ said' result s', Says (.terminal outputClosed) program s said' result s' ∧
    (AllText s.terminal.input → usable → said' = said)

section

variable {α β : Type} {usable : Prop} {program : StateM Session (Except RunError α)}
  {next : Except RunError α → StateM Session (Except RunError β)} {s : Session}
  {said said' : Bytes}

/-- What has not been found out ends the run. -/
theorem FindsOut.bind (h : FindsOut usable program s said)
    (hnext : ∀ a left, Asks usable (next (.ok a)) (s.after said left) said')
    (herror : ∀ e, next (.error e) = pure (.error e)) :
    Asks usable (program >>= next) s (said ++ said') := by
  obtain ⟨result, left, hsays, htext⟩ := h
  cases result with
  | error e =>
    refine ⟨said, .error e, _, hsays.bind_pure (herror e) (herror _), fun hinput husable => ?_⟩
    obtain ⟨⟨_, hok⟩, -⟩ := htext hinput husable
    cases hok
  | ok a =>
    obtain ⟨said'', result', s', hrest, hsaid⟩ := hnext a left
    refine ⟨said ++ said'', result', s', hsays.bind hrest (herror _), fun hinput husable => ?_⟩
    rw [hsaid (htext hinput husable).2 husable]

theorem asks_nothing (h : machine.Blind program) : Asks usable program s [] :=
  ⟨[], _, _, .of_blind h, fun _ _ => rfl⟩

end

/-- What is read behind a prompt is found out, and a fault is one of the terminal. -/
theorem findsOut_prompt {α β : Type} {step : Terminal → Except Fault α × Terminal}
    {next : Except Fault α → StateM Session (Except RunError β)} {f : α → β}
    (hstep : Terminal.Reads step) (hok : ∀ a, next (.ok a) = pure (.ok (f a)))
    (herror : ∀ fault, next (.error fault) = pure (.error (.terminal fault))) (usable : Prop)
    (text : String) (s : Session) :
    FindsOut usable (Session.prompt text step >>= next) s (Text.encode text) := by
  obtain ⟨result, left, hprompt, htext⟩ := Session.exists_says_prompt hstep text s
  cases result with
  | error fault =>
    refine ⟨_, left, hprompt.bind_pure (herror fault) (herror _), fun h => ?_⟩
    obtain ⟨⟨_, hnone⟩, -⟩ := htext h
    cases hnone
  | ok a =>
    exact ⟨_, left, hprompt.bind_pure (hok a) (herror _), fun h _ => ⟨⟨f a, rfl⟩, (htext h).2⟩⟩

theorem findsOut_givenOrAsked (usable : Prop) (given question : String) (s : Session) :
    FindsOut usable (givenOrAsked Session.host given question) s (saidFor given question) := by
  unfold givenOrAsked saidFor
  split
  · rw [Session.host_ask]
    exact findsOut_prompt Terminal.reads_readLine (fun _ => rfl) (fun _ => rfl) usable question s
  · refine ⟨.ok given, s.terminal.input, ?_, fun h _ => ⟨⟨given, rfl⟩, h⟩⟩
    rw [Session.after_nothing]
    exact .pure (.ok given) s

/-- A definition that is not given is prompted for. -/
theorem definition_blank {input : String} (h : Text.isBlankText input = true) :
    definition Session.host input = (do
      match ← Session.prompt definitionInvitation Terminal.readDefinition with
      | .error fault => return .error (.terminal fault)
      | .ok text => return .ok text) := by
  funext s
  rw [definition, if_pos h, Session.prompt, Session.run_bind, Session.run_bind, Session.run_bind]
  rcases Session.host.say definitionInvitation s with ⟨_ | _, s'⟩
  · rfl
  · rfl

theorem findsOut_definition (overrides : Overrides) (s : Session) :
    FindsOut (InputUsable overrides s) (definition Session.host overrides.input) s
      (saidFor overrides.input definitionInvitation) := by
  unfold saidFor
  split
  · next hblank =>
    rw [definition_blank hblank]
    exact findsOut_prompt Terminal.reads_readDefinition (fun _ => rfl) (fun _ => rfl) _ _ s
  · next hgiven =>
    have hblind : machine.Blind (definition Session.host overrides.input) :=
      machine.compositional_blind.givenDefinition (fun _ _ _ => rfl) hgiven
    have hstill : Session.Respects Eq (definition Session.host overrides.input) :=
      (Session.compositional_respects (fun _ => rfl) .trans).givenDefinition (fun _ _ => rfl) hgiven
    have hsaid := Says.of_blind (s := s) (e := .terminal outputClosed) hblind
    rw [← hstill s] at hsaid
    refine ⟨(definition Session.host overrides.input s).1, s.terminal.input, ?_,
      fun h husable => ⟨?_, h⟩⟩
    · rw [Session.after_nothing]
      exact hsaid
    · obtain ⟨bytes, text, hbytes, htext⟩ := husable.resolve_left hgiven
      exact ⟨text, congrArg Prod.fst (definition_given hgiven hbytes htext)⟩

/-- A run asks for what it is not given, and for nothing else. -/
theorem asks_interactive (overrides : Overrides) (s : Session) :
    Asks (InputUsable overrides s) (interactive Session.host overrides) s
      ((asked overrides).flatMap Text.encode) := by
  rw [interactive, flatMap_asked]
  refine (findsOut_givenOrAsked _ _ _ s).bind (fun solution left => ?_) fun _ => rfl
  rw [← inputUsable_after overrides s (saidFor overrides.solution solutionQuestion) left]
  refine (findsOut_definition overrides _).bind (fun text left => ?_) fun _ => rfl
  refine (findsOut_givenOrAsked _ _ _ _).bind (fun output left => ?_) fun _ => rfl
  refine asks_nothing (machine.compositional_blind.bind (fun _ _ => rfl) fun here => ?_)
  cases Config.resolve solution output overrides.log overrides.dryRun here with
  | error fault => exact machine.compositional_blind.pure _
  | ok config => exact blind_generate text config

/-- **An output may close anywhere.** What a run says to an output that takes everything are the
prompts for what it is not given, in order, if the input is text and the file that is given for the
definition holds text. To an output that takes `n` bytes: if no more is said, the run gives the
same and leaves the same behind. If more is said, the run fails at the terminal, its output is the
first `n` bytes, and nothing but the terminal is affected. -/
theorem interactive_closed_output (overrides : Overrides) (s : Session) (input : Bytes) :
    let run room := interactive Session.host overrides (s.facing { input, room })
    let transcript := (run none).2.terminal.output
    ((∃ typed, input = Text.encode typed) → InputUsable overrides s →
      transcript = (asked overrides).flatMap Text.encode) ∧
    ∀ n,
      (transcript.length ≤ n →
        run (some n) = ((run none).1, (run none).2.withRoom (some (n - transcript.length)))) ∧
      (n < transcript.length → ∃ left,
        run (some n) = (.error (.terminal outputClosed),
          s.facing { input := left, output := transcript.take n, room := some 0 })) := by
  intro run transcript
  obtain ⟨said, result, s', hsays, hsaid⟩ := asks_interactive overrides (s.facing { input })
  have hrun : run none = (result, s'.withRoom none) := hsays.unlimited
  have htranscript : transcript = said := by
    change (run none).2.terminal.output = said
    rw [hrun]
    exact hsays.output
  rw [htranscript]
  refine ⟨?_, fun n => ⟨fun hn => ?_, fun hn => ?_⟩⟩
  · rintro ⟨typed, rfl⟩ husable
    exact hsaid (Terminal.allText_encode typed) husable
  · rw [hrun]
    exact hsays.enough n hn
  · exact hsays.cut n hn

theorem interactive_closed_output_inside_question :
    let s : Session := {}
    let run room := interactive Session.host { solution := "SCT" }
      (s.facing { input := Text.encode "class A \x7b\x7d\nEND\n", room })
    let transcript := Text.encode definitionInvitation ++ Text.encode outputQuestion
    (run none).2.terminal.output = transcript ∧
    run (some 200) = ((run none).1, (run none).2.withRoom (some (200 - transcript.length))) ∧
    ∃ left, run (some 90) = (.error (.terminal outputClosed),
      s.facing { input := left, output := transcript.take 90, room := some 0 }) := by
  intro s run transcript
  have hclosed := interactive_closed_output { solution := "SCT" } s
    (Text.encode "class A \x7b\x7d\nEND\n")
  have htranscript : (run none).2.terminal.output = transcript :=
    hclosed.1 ⟨_, rfl⟩ (Or.inl (by decide))
  have hlength : (run none).2.terminal.output.length = transcript.length :=
    congrArg List.length htranscript
  have hlong : 90 < transcript.length := by decide +kernel
  have hshort : transcript.length ≤ 200 := by decide +kernel
  refine ⟨htranscript, ?_, ?_⟩
  · rw [← hlength]
    exact (hclosed.2 200).1 (hlength ▸ hshort)
  · rw [← htranscript]
    exact (hclosed.2 90).2 (hlength ▸ hlong)

end Run

end Scaffold
