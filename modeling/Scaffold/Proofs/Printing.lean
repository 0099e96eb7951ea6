import Scaffold.Program
import Scaffold.Proofs.Execution
import Scaffold.Proofs.TypedInput

/-!
# Printing

A program goes on from a text that the output takes as a whole and ends on the spot at one that it
does not take, when what fits has been written. So texts that are printed one after the other might
as well be printed as one.

* `Terminal.say_append`: one text after the other.
* `Program.print_of_room`, `Program.print_of_no_room`: where the program goes on and where it ends.
* `Program.print_append`: printing one text after the other.
* `Program.run_printer_of_room`, `Program.run_printer_of_no_room`: printing an entity.
-/

namespace Scaffold

open Text (Bytes)
open CommandLine (Arguments)

/-! ### What the output takes -/

namespace Terminal

variable {t : Terminal} {text : String} {n : Nat}

theorem hasRoom_of_no_limit (h : t.room = none) (n : Nat) : t.HasRoom n := by
  intro k hk
  cases h.symm.trans hk

theorem not_hasRoom_iff : ¬t.HasRoom n ↔ ∃ k, t.room = some k ∧ k < n := by
  simp [HasRoom]

/-- What fits is written. -/
theorem output_say (h : t.HasRoom text.utf8ByteSize) :
    (t.say text).2.output = t.output ++ Text.encode text := by
  rw [← Text.length_encode] at h
  unfold say write
  cases hroom : t.room with
  | none => rfl
  | some k =>
    have hk := h k hroom
    dsimp only
    rw [if_pos hk]
    exact congrArg (t.output ++ ·) (List.take_of_length_le hk)

theorem say_of_room (h : t.HasRoom text.utf8ByteSize) : (t.say text).1 = .ok () := by
  obtain ⟨t', hsay, -⟩ := exists_say (n := 0) h
  rw [hsay]

theorem say_of_no_room (h : ¬t.HasRoom text.utf8ByteSize) :
    (t.say text).1 = .error outputClosed := by
  obtain ⟨k, hroom, hk⟩ := not_hasRoom_iff.mp h
  rw [← Text.length_encode] at hk
  unfold say write
  rw [hroom]
  dsimp only
  rw [if_neg (Nat.not_le_of_lt hk)]

theorem say_empty (t : Terminal) : t.say "" = (.ok (), t) := by
  rcases t with ⟨input, output, _ | k⟩ <;> simp [say, write, Text.encode]

/-- What comes next is written unless the output has been closed. -/
theorem write_append (bytes more : Bytes) (t : Terminal) :
    t.write (bytes ++ more) =
      match t.write bytes with
      | (.error fault, t') => (.error fault, t')
      | (.ok (), t') => t'.write more := by
  unfold write
  cases t.room with
  | none => simp only [List.append_assoc]
  | some k =>
    simp only [List.length_append, List.take_append]
    by_cases hk : bytes.length ≤ k
    · have hmore : bytes.length + more.length ≤ k ↔ more.length ≤ k - bytes.length := by omega
      simp only [hk, hmore, if_true, Nat.sub_add_eq, List.append_assoc]
    · have hboth : ¬bytes.length + more.length ≤ k := by omega
      have hrest : k - bytes.length = 0 := by omega
      simp only [hk, hboth, if_false, hrest, List.take_zero, List.append_nil, Nat.sub_add_eq,
        Nat.zero_sub]

theorem say_append (text more : String) (t : Terminal) :
    t.say (text ++ more) =
      match t.say text with
      | (.error fault, t') => (.error fault, t')
      | (.ok (), t') => t'.say more := by
  rw [say, Text.encode_append, write_append]
  rfl

end Terminal

namespace Program

variable {s : Session} {text : String} {next : StateM Session Ending}

theorem host_say (text : String) (s : Session) :
    Session.host.say text s =
      ((s.terminal.say text).1, { s with terminal := (s.terminal.say text).2 }) := rfl

/-- A program that can print goes on. -/
theorem print_of_room (h : s.terminal.HasRoom text.utf8ByteSize) :
    print Session.host text next s = next { s with terminal := (s.terminal.say text).2 } := by
  rw [print, Session.run_bind, host_say, Terminal.say_of_room h]

/-- A program that cannot print ends. -/
theorem print_of_no_room (h : ¬s.terminal.HasRoom text.utf8ByteSize) :
    print Session.host text next s =
      (.abort (cannotPrintText Terminal.outputClosed),
        { s with terminal := (s.terminal.say text).2 }) := by
  rw [print, Session.run_bind, host_say, Terminal.say_of_no_room h]
  rfl

/-- What comes next matters where the program goes on. -/
theorem print_congr {next' : StateM Session Ending}
    (h : next { s with terminal := (s.terminal.say text).2 } =
      next' { s with terminal := (s.terminal.say text).2 }) :
    print Session.host text next s = print Session.host text next' s := by
  by_cases hroom : s.terminal.HasRoom text.utf8ByteSize
  · rw [print_of_room hroom, print_of_room hroom, h]
  · rw [print_of_no_room hroom, print_of_no_room hroom]

theorem print_empty (next : StateM Session Ending) : print Session.host "" next = next := by
  funext s
  rw [print_of_room fun _ _ => Nat.zero_le _, Terminal.say_empty]

/-- Texts that are printed one after the other might as well be printed as one. -/
theorem print_append (text more : String) (next : StateM Session Ending) :
    print Session.host (text ++ more) next =
      print Session.host text (print Session.host more next) := by
  funext s
  rw [print, Session.run_bind, host_say, Terminal.say_append, print, Session.run_bind, host_say]
  rcases s.terminal.say text with ⟨_ | _, t⟩
  · rfl
  · rfl

/-! ### Printing an entity -/

section

variable {args : List String} {a : Arguments} {e : Entity}

theorem host_readAll (s : Session) :
    Session.host.readAll s =
      (s.terminal.input, { s with terminal := { s.terminal with input := [] } }) := rfl

/-- An entity that is described at the terminal is to be printed. -/
theorem run_printer (hargs : printer.manual.read args = .ready a)
    (htext : Text.decode? s.terminal.input = some text) (he : Entity.parse text = .ok e) :
    (printer.run Session.host args).run s =
      print Session.host (entityText a e) (pure (.exit 0))
        { s with terminal := { s.terminal with input := [] } } := by
  rw [run, hargs]
  change printEntity Session.host a s = _
  rw [printEntity, Session.run_bind, host_readAll]
  dsimp only
  rw [htext]
  dsimp only
  rw [he]

theorem run_printer_of_room (hargs : printer.manual.read args = .ready a)
    (htext : Text.decode? s.terminal.input = some text) (he : Entity.parse text = .ok e)
    (hroom : s.terminal.HasRoom (entityText a e).utf8ByteSize) :
    (printer.run Session.host args).run s =
      (.exit 0, { s with
        terminal := (({ s.terminal with input := [] } : Terminal).say (entityText a e)).2 }) :=
  (run_printer hargs htext he).trans (print_of_room hroom)

theorem run_printer_of_no_room (hargs : printer.manual.read args = .ready a)
    (htext : Text.decode? s.terminal.input = some text) (he : Entity.parse text = .ok e)
    (hroom : ¬s.terminal.HasRoom (entityText a e).utf8ByteSize) :
    (printer.run Session.host args).run s =
      (.abort (cannotPrintText Terminal.outputClosed), { s with
        terminal := (({ s.terminal with input := [] } : Terminal).say (entityText a e)).2 }) :=
  (run_printer hargs htext he).trans (print_of_no_room hroom)

end

end Program

end Scaffold
