import Scaffold.Log.File

/-!
# The lines of a log

An entry is written on one line, and a log made of entries is cut into the lines of these entries.

* `newline_not_mem_encode`: the byte that ends a line comes from a newline only.
* `splitLines_append_of_ended`: bytes that end a line do not change the lines behind them.
* `splitLines_flatMap`: lines that were joined are told apart again.
* `lines_induction`: what holds of texts can be proved line by line.
* `no_newline_compact`: a value on one line has no line break in it.
* `splitLines_entries`: the lines of some entries are these entries, one a line.
-/

namespace Scaffold

namespace Text

/-! ### Newlines in bytes -/

/-- No character but the newline has the byte of a newline in it. -/
theorem newline_not_mem_utf8EncodeChar {c : Char} (hc : c ≠ '\n') :
    newline ∉ String.utf8EncodeChar c := by
  -- The bytes of the other characters are large, unless there is only one.
  have hlarge : ∀ n : Nat, 0x80 ≤ n → n < 0x100 → newline ≠ UInt8.ofNat n := by
    intro n hlow hhigh heq
    have h := congrArg UInt8.toNat heq
    rw [UInt8.toNat_ofNat', Nat.mod_eq_of_lt hhigh] at h
    exact absurd h (by rw [newline]; exact Nat.ne_of_lt (by simp; omega))
  have hsmall : c.val.toNat ≤ 0x7f → newline ≠ UInt8.ofNat c.val.toNat := by
    intro hle heq
    have h := congrArg UInt8.toNat heq
    rw [UInt8.toNat_ofNat', Nat.mod_eq_of_lt (by omega)] at h
    exact hc (Char.ext (UInt32.toNat_inj.mp h.symm))
  fun_cases String.utf8EncodeChar c with
  | case1 v hle =>
    intro hmem
    exact hsmall hle (List.mem_singleton.mp hmem)
  | case2 v =>
    simp only [List.mem_cons, List.not_mem_nil, or_false, not_or]
    exact ⟨hlarge _ (by omega) (by omega), hlarge _ (by omega) (by omega)⟩
  | case3 v =>
    simp only [List.mem_cons, List.not_mem_nil, or_false, not_or]
    exact ⟨hlarge _ (by omega) (by omega), hlarge _ (by omega) (by omega),
      hlarge _ (by omega) (by omega)⟩
  | case4 v =>
    simp only [List.mem_cons, List.not_mem_nil, or_false, not_or]
    exact ⟨hlarge _ (by omega) (by omega), hlarge _ (by omega) (by omega),
      hlarge _ (by omega) (by omega), hlarge _ (by omega) (by omega)⟩

theorem encode_eq_flatMap (s : String) : encode s = s.toList.flatMap String.utf8EncodeChar := by
  have hbytes : s.toByteArray = s.toList.utf8Encode := by
    rw [← String.toByteArray_ofList, String.ofList_toList]
  rw [encode, String.toUTF8_eq_toByteArray, hbytes, List.utf8Encode, List.data_toByteArray]

/-- A text without newlines has no byte that ends a line. -/
theorem newline_not_mem_encode {s : String} (h : '\n' ∉ s.toList) : newline ∉ encode s := by
  rw [encode_eq_flatMap, List.mem_flatMap]
  rintro ⟨c, hc, hmem⟩
  refine newline_not_mem_utf8EncodeChar ?_ hmem
  rintro rfl
  exact h hc

/-! ### Cutting into lines -/

theorem line_append_newline {a : Bytes} (h : newline ∉ a) (b : Bytes) :
    line (a ++ newline :: b) = a ++ [newline] ∧ rest (a ++ newline :: b) = b := by
  induction a with
  | nil => exact ⟨if_pos rfl, if_pos rfl⟩
  | cons x a ih =>
    obtain ⟨hx, ha⟩ := not_or.mp (mt List.mem_cons.mpr h)
    obtain ⟨hline, hrest⟩ := ih ha
    constructor
    · rw [List.cons_append, line, if_neg (Ne.symm hx), hline]
      rfl
    · rw [List.cons_append, rest, if_neg (Ne.symm hx), hrest]

theorem splitLines_append_newline {a : Bytes} (h : newline ∉ a) (b : Bytes) :
    splitLines (a ++ newline :: b) = (a ++ [newline]) :: splitLines b := by
  obtain ⟨hline, hrest⟩ := line_append_newline h b
  cases hs : a ++ newline :: b with
  | nil => exact absurd hs (List.append_ne_nil_of_right_ne_nil _ (List.cons_ne_nil _ _))
  | cons x s => rw [splitLines, ← hs, hline, hrest]

theorem line_of_no_newline {a : Bytes} (h : newline ∉ a) : line a = a ∧ rest a = [] := by
  induction a with
  | nil => exact ⟨rfl, rfl⟩
  | cons x a ih =>
    obtain ⟨hx, ha⟩ := not_or.mp (mt List.mem_cons.mpr h)
    obtain ⟨hline, hrest⟩ := ih ha
    rw [line, rest, if_neg (Ne.symm hx), if_neg (Ne.symm hx), hline, hrest]
    exact ⟨rfl, rfl⟩

/-- Bytes without a newline are one line, unless there are none. -/
theorem splitLines_of_no_newline {a : Bytes} (hne : a ≠ []) (h : newline ∉ a) :
    splitLines a = [a] := by
  obtain ⟨hline, hrest⟩ := line_of_no_newline h
  cases a with
  | nil => exact absurd rfl hne
  | cons x a => rw [splitLines, hline, hrest, splitLines]

/-- Bytes that end a line are cut into the same lines whatever stands behind them. -/
theorem splitLines_append_of_ended (a b : Bytes) :
    splitLines (a ++ newline :: b) = splitLines (a ++ [newline]) ++ splitLines b := by
  -- The bytes are cut behind their first newline.
  induction hn : a.length using Nat.strongRecOn generalizing a with
  | ind n ih =>
    by_cases hnewline : newline ∈ a
    · obtain ⟨l, r, rfl, hl⟩ := List.eq_append_cons_of_mem hnewline
      have hshorter : r.length < n := by
        rw [← hn, List.length_append, List.length_cons]
        omega
      simp only [List.append_assoc, List.cons_append, splitLines_append_newline hl,
        ih r.length hshorter r rfl]
    · rw [splitLines_append_newline hnewline, splitLines_append_newline hnewline, splitLines,
        List.singleton_append]

/-- Lines that were joined are told apart again. -/
theorem splitLines_flatMap {α : Type} {f : α → Bytes} {xs : List α}
    (h : ∀ x ∈ xs, ∃ a, newline ∉ a ∧ f x = a ++ [newline]) :
    splitLines (xs.flatMap f) = xs.map f := by
  induction xs with
  | nil => rw [List.flatMap_nil, splitLines, List.map_nil]
  | cons x xs ih =>
    obtain ⟨a, ha, hx⟩ := h x List.mem_cons_self
    rw [List.flatMap_cons, hx, List.append_assoc, List.singleton_append,
      splitLines_append_newline ha, ih fun y hy => h y (List.mem_cons_of_mem _ hy), List.map_cons,
      hx]

/-! ### Lines of texts -/

/-- A text is empty, or has no newline, or is a line with another text behind it. -/
@[elab_as_elim]
theorem lines_induction {motive : String → Prop} (empty : motive "")
    (last : ∀ s, s ≠ "" → '\n' ∉ s.toList → motive s)
    (line : ∀ first rest, '\n' ∉ first.toList → motive rest → motive (first ++ "\n" ++ rest))
    (s : String) : motive s := by
  induction hn : s.toList.length using Nat.strongRecOn generalizing s with
  | ind n ih =>
    by_cases hnewline : '\n' ∈ s.toList
    · obtain ⟨l, r, hsplit, hl⟩ := List.eq_append_cons_of_mem hnewline
      obtain rfl : s = String.ofList l ++ "\n" ++ String.ofList r := by
        apply String.toList_injective
        simp [hsplit]
      have hshorter : (String.ofList r).toList.length < n := by
        rw [← hn]
        simp
        omega
      exact line _ _ (by rwa [String.toList_ofList]) (ih _ hshorter _ rfl)
    · by_cases hempty : s = ""
      · subst hempty
        exact empty
      · exact last s hempty hnewline

theorem splitLines_encode_empty : splitLines (encode "") = [] := by
  have hempty : encode "" = [] := rfl
  rw [hempty, splitLines]

theorem splitLines_encode_line {first : String} (h : '\n' ∉ first.toList) (rest : String) :
    splitLines (encode (first ++ "\n" ++ rest)) =
      encode (first ++ "\n") :: splitLines (encode rest) := by
  have hcut := splitLines_append_newline (newline_not_mem_encode h) (encode rest)
  rw [encode_append, encode_append, List.append_assoc]
  exact hcut

theorem splitLines_encode_last {s : String} (hne : s ≠ "") (h : '\n' ∉ s.toList) :
    splitLines (encode s) = [encode s] := by
  have hbytes : encode s ≠ [] := by
    intro hnil
    have hsize := length_encode s
    rw [hnil] at hsize
    exact hne (String.utf8ByteSize_eq_zero_iff.mp hsize.symm)
  exact splitLines_of_no_newline hbytes (newline_not_mem_encode h)

theorem withoutEnding_newline (s : String) :
    withoutEnding (s ++ "\n") = String.ofList (dropFinal '\r' s.toList) := by
  have hnewline : dropFinal '\n' (s ++ "\n").toList = s.toList := by
    rw [String.toList_append, dropFinal, if_pos (by simp)]
    simp
  rw [withoutEnding, hnewline]

theorem withoutEnding_of_no_newline {s : String} (h : '\n' ∉ s.toList) :
    withoutEnding s = String.ofList (dropFinal '\r' s.toList) := by
  have hnewline : dropFinal '\n' s.toList = s.toList := by
    rw [dropFinal, if_neg]
    intro hlast
    exact h (List.mem_of_getLast? hlast)
  rw [withoutEnding, hnewline]

theorem isBlankText_withoutEnding (s : String) :
    isBlankText (withoutEnding (s ++ "\n")) = isBlankText s := by
  rw [withoutEnding_newline, dropFinal]
  split
  · next hlast =>
    obtain ⟨m, hm⟩ := List.getLast?_eq_some_iff.mp hlast
    have hreturn : isBlank '\r' = true := by decide
    simp [isBlankText, hm, hreturn]
  · rw [String.ofList_toList]

end Text

/-! ### Values on one line -/

namespace Json

theorem no_newline_number (n : Nat) : '\n' ∉ (toString n).toList := by
  rw [Nat.toString_eq_ofList_toDigits, String.toList_ofList]
  intro hmem
  exact absurd (Nat.isDigit_of_mem_toDigits (by decide) (by decide) hmem) (by decide)

mutual

/-- A value on one line has no line break in it. -/
theorem no_newline_compact : ∀ v : Json, '\n' ∉ v.compact.toList
  | .null => by decide
  | .bool true => by decide
  | .bool false => by decide
  | .number n => no_newline_number n
  | .text s => no_newline_quote s
  | .array items => by
    have h := no_newline_compactItems items
    simp [compact, h]
  | .object members => by
    have h := no_newline_compactMembers members
    simp [compact, h]

theorem no_newline_compactItems : ∀ vs : List Json, '\n' ∉ (compactItems vs).toList
  | [] => by decide
  | [v] => no_newline_compact v
  | v :: w :: vs => by
    have h := no_newline_compact v
    have hrest := no_newline_compactItems (w :: vs)
    simp [compactItems, h, hrest]

theorem no_newline_compactMembers :
    ∀ ms : List (String × Json), '\n' ∉ (compactMembers ms).toList
  | [] => by decide
  | [(k, v)] => by
    have hk := no_newline_quote k
    have h := no_newline_compact v
    simp [compactMembers, hk, h]
  | (k, v) :: m :: ms => by
    have hk := no_newline_quote k
    have h := no_newline_compact v
    have hrest := no_newline_compactMembers (m :: ms)
    simp [compactMembers, hk, h, hrest]

end

end Json

/-! ### Entries -/

namespace LogEntry

theorem encode_line (e : LogEntry) :
    ∃ a, Text.newline ∉ a ∧ Text.encode e.line = a ++ [Text.newline] := by
  refine ⟨Text.encode e.json.compact, ?_, Text.encode_append _ _⟩
  exact Text.newline_not_mem_encode (Json.no_newline_compact e.json)

/-- The lines of some entries are these entries, one a line. -/
theorem splitLines_entries (entries : List LogEntry) :
    Text.splitLines (entries.flatMap fun e => Text.encode e.line) =
      entries.map fun e => Text.encode e.line :=
  Text.splitLines_flatMap fun e _ => e.encode_line

end LogEntry

end Scaffold
