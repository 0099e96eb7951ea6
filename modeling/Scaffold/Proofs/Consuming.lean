import Scaffold.Proofs.Brackets

/-!
# What readers take from a text

A reader takes a part from the front of a text and leaves the rest. Rules say of what kind that part
is, reader by reader: one reader after the other takes one part after the other, and looking at the
next character takes the blanks in front of it. Texts and numbers are taken whole: a text up to the
quote that closes it, and of a number nothing but what may stand outside of quotes.

* `Ensures`: what a reader gives and leaves, if it succeeds.
* `Consumes`, `TakesBalanced`: of what kind the part is that a reader takes.
* `Consumes.bind`, `Consumes.peek`: the rules for readers that are put together.
* `consumes_quoted`, `takesBalanced_unsigned`: texts and numbers.
-/

namespace Scaffold.Json.Reader

variable {α β : Type}

/-! ### Successful readers -/

theorem bind_eq_ok {read : Reader α} {f : α → Reader β} {s rest : List Char} {b : β}
    (h : (read >>= f) s = .ok (b, rest)) :
    ∃ a t, read s = .ok (a, t) ∧ f a t = .ok (b, rest) := by
  change (read s >>= fun p => f p.1 p.2) = _ at h
  cases hread : read s with
  | error e =>
    rw [hread] at h
    cases h
  | ok p =>
    rw [hread] at h
    exact ⟨p.1, p.2, rfl, h⟩

theorem map_eq_ok {read : Reader α} {g : α → β} {s rest : List Char} {b : β}
    (h : (g <$> read) s = .ok (b, rest)) : ∃ a, read s = .ok (a, rest) ∧ b = g a := by
  obtain ⟨a, t, hread, hmap⟩ := bind_eq_ok (f := fun a => pure (g a)) h
  cases hmap
  exact ⟨a, hread, rfl⟩

/-! ### What readers ensure -/

/-- What the reader gives, if it succeeds, and what it leaves are as described. -/
def Ensures (post : α → List Char → Prop) (read : Reader α) (s : List Char) : Prop :=
  ∀ a rest, read s = .ok (a, rest) → post a rest

section

variable {post : α → List Char → Prop} {post' : β → List Char → Prop} {read read' : Reader α}
  {s : List Char}

theorem Ensures.trivial : Ensures (fun _ _ => True) read s := fun _ _ _ => True.intro

theorem Ensures.throw (e : Failure) : Ensures post (throw e) s := nofun

theorem Ensures.throw_bind {f : α → Reader β} (e : Failure) :
    Ensures post' ((MonadExcept.throw e : Reader α) >>= f) s := nofun

theorem Ensures.pure {a : α} (h : post a s) : Ensures post (pure a) s := by
  intro _ _ hok
  cases hok
  exact h

theorem Ensures.bind {f : α → Reader β} (hread : Ensures post read s)
    (hf : ∀ a t, post a t → Ensures post' (f a) t) : Ensures post' (read >>= f) s := by
  intro b rest hok
  obtain ⟨a, t, hfirst, hthen⟩ := bind_eq_ok hok
  exact hf a t (hread a t hfirst) b rest hthen

theorem Ensures.after {f : α → Reader β} (hf : ∀ a t, Ensures post' (f a) t) :
    Ensures post' (read >>= f) s :=
  .bind .trivial fun a t _ => hf a t

theorem Ensures.ite {c : Prop} [Decidable c] (h : c → Ensures post read s)
    (h' : ¬c → Ensures post read' s) : Ensures post (if c then read else read') s := by
  split
  · exact h ‹_›
  · exact h' ‹_›

theorem Ensures.peek {f : Option Char → Reader α} (hnone : Ensures post (f none) [])
    (hsome : ∀ c t, Ensures post (f (some c)) (c :: t)) : Ensures post (Reader.peek >>= f) s := by
  have hnext : ∀ t : List Char, Ensures post (f t.head?) t := by
    rintro (_ | ⟨c, t⟩)
    · exact hnone
    · exact hsome c t
  exact hnext (s.dropWhile isSpace)

end

/-! ### What readers take -/

/-- What the reader takes from the front of the text, if it succeeds, is of some kind. -/
def Consumes (kind : List Char → Prop) (read : Reader α) (s : List Char) : Prop :=
  Ensures (fun _ rest => ∃ taken, kind taken ∧ s = taken ++ rest) read s

/-- Whatever text it is given, the reader takes what is balanced. -/
def TakesBalanced (read : Reader α) : Prop := ∀ s, Consumes Balanced read s

/-- A balanced text may stand in front of what is of the kind. -/
class Extends (kind : List Char → Prop) : Prop where
  append : ∀ cs ds, Balanced cs → kind ds → kind (cs ++ ds)

instance : Extends Balanced := ⟨fun _ _ h h' => h.append h'⟩

instance (closer : Char) : Extends (Closing closer) := ⟨fun _ _ h h' => h'.append h⟩

section

variable {kind kind' whole : List Char → Prop} {read : Reader α} {f : α → Reader β}
  {s t : List Char}

theorem Consumes.throw (e : Failure) : Consumes kind (throw e : Reader α) s := Ensures.throw e

theorem Consumes.throw_bind (e : Failure) :
    Consumes kind ((MonadExcept.throw e : Reader α) >>= f) s := Ensures.throw_bind e

theorem Consumes.ite {c : Prop} [Decidable c] {read read' : Reader α}
    (h : c → Consumes kind read s) (h' : ¬c → Consumes kind read' s) :
    Consumes kind (if c then read else read') s :=
  Ensures.ite h h'

theorem Consumes.pure {a : α} (h : kind []) : Consumes kind (pure a) s :=
  Ensures.pure ⟨[], h, rfl⟩

/-- One reader after the other takes one part after the other. -/
theorem Consumes.bind_of_ensures {post : α → List Char → Prop}
    (h : ∀ cs ds, kind cs → kind' ds → whole (cs ++ ds)) (hread : Consumes kind read s)
    (hpost : Ensures post read s) (hf : ∀ a t, post a t → Consumes kind' (f a) t) :
    Consumes whole (read >>= f) s := by
  intro b rest hok
  obtain ⟨a, t, hfirst, hthen⟩ := bind_eq_ok hok
  obtain ⟨taken, htaken, hsplit⟩ := hread a t hfirst
  obtain ⟨taken', htaken', hsplit'⟩ := hf a t (hpost a t hfirst) b rest hthen
  refine ⟨taken ++ taken', h _ _ htaken htaken', ?_⟩
  rw [hsplit, hsplit', List.append_assoc]

theorem Consumes.bind [Extends kind] (hread : Consumes Balanced read s)
    (hf : ∀ a t, Consumes kind (f a) t) : Consumes kind (read >>= f) s :=
  .bind_of_ensures Extends.append hread .trivial fun a t _ => hf a t

theorem Consumes.bind_leads {p q r : Place} (hread : Consumes (Leads p q) read s)
    (hf : ∀ a t, Consumes (Leads q r) (f a) t) : Consumes (Leads p r) (read >>= f) s :=
  .bind_of_ensures (fun _ _ h h' => h.append h') hread .trivial fun a t _ => hf a t

theorem Consumes.map {g : α → β} (hread : Consumes kind read s) :
    Consumes kind (g <$> read) s := by
  intro b rest hok
  obtain ⟨a, hok', -⟩ := map_eq_ok hok
  exact hread a rest hok'

/-- Looking at the next character takes the blanks in front of it. -/
theorem Consumes.peek_of_append {f : Option Char → Reader β}
    (h : ∀ cs ds, (∀ c ∈ cs, isSpace c = true) → kind ds → whole (cs ++ ds))
    (hnone : Consumes kind (f none) []) (hsome : ∀ c t, Consumes kind (f (some c)) (c :: t)) :
    Consumes whole (Reader.peek >>= f) s := by
  have hnext : ∀ t : List Char, Consumes kind (f t.head?) t := by
    rintro (_ | ⟨c, t⟩)
    · exact hnone
    · exact hsome c t
  intro b rest hok
  obtain ⟨taken, htaken, hrest⟩ := hnext (s.dropWhile isSpace) b rest hok
  refine ⟨s.takeWhile isSpace ++ taken, h _ _ (fun _ => List.mem_takeWhile_imp) htaken, ?_⟩
  rw [List.append_assoc, ← hrest, List.takeWhile_append_dropWhile]

theorem Consumes.peek [Extends kind] {f : Option Char → Reader β}
    (hnone : Consumes kind (f none) []) (hsome : ∀ c t, Consumes kind (f (some c)) (c :: t)) :
    Consumes kind (Reader.peek >>= f) s :=
  .peek_of_append (fun _ _ h => Extends.append _ _ (balanced_blanks h)) hnone hsome

theorem Consumes.skip_one {c : Char} (h : kind [c]) : Consumes kind Reader.skip (c :: t) := by
  intro _ rest hok
  cases hok
  exact ⟨[c], h, rfl⟩

theorem Consumes.skip {f : Unit → Reader β} {c : Char}
    (h : ∀ cs, kind' cs → kind (c :: cs)) (hf : Consumes kind' (f ()) t) :
    Consumes kind (Reader.skip >>= f) (c :: t) := by
  intro b rest hok
  obtain ⟨taken, htaken, rfl⟩ := hf b rest hok
  exact ⟨c :: taken, h _ htaken, rfl⟩

/-- A quote that opens a text and a reader of what is behind it. -/
theorem Consumes.openQuote {f : Unit → Reader β}
    (h : Consumes (Leads .quoted .outside) (f ()) t) :
    Consumes Balanced (Reader.skip >>= f) ('"' :: t) :=
  .skip (fun _ h => leads_openQuote.cons h) h

theorem Consumes.plain [Extends kind] {f : Unit → Reader β} {c : Char} (hc : isPlain c = true)
    (hf : Consumes kind (f ()) t) : Consumes kind (Reader.skip >>= f) (c :: t) :=
  .skip (fun cs h' => Extends.append [c] cs (balanced_plain hc) h') hf

/-- A bracket and a reader of what is behind it up to the bracket that closes it. -/
theorem Consumes.openBracket {f : Unit → Reader β} {opener closer : Char}
    (hmatch : Matching opener closer) (h : Consumes (Closing closer) (f ()) t) :
    Consumes Balanced (Reader.skip >>= f) (opener :: t) :=
  .skip (fun _ h => Balanced.brackets hmatch h) h

/-- Taking a character by putting back the text behind it. -/
theorem Consumes.set [Extends kind] {f : Unit → Reader β} {c : Char} (hc : isPlain c = true)
    (hf : Consumes kind (f ()) t) : Consumes kind (StateT.set t >>= f) (c :: t) := by
  intro b rest hok
  obtain ⟨taken, htaken, hsplit⟩ := hf b rest hok
  exact ⟨[c] ++ taken, Extends.append _ _ (balanced_plain hc) htaken, congrArg (c :: ·) hsplit⟩

theorem Consumes.get {f : List Char → Reader β} (hf : Consumes kind (f s) s) :
    Consumes kind (MonadState.get >>= f) s := hf

theorem TakesBalanced.map {read : Reader α} (h : TakesBalanced read) (g : α → β) :
    TakesBalanced (g <$> read) := fun s => (h s).map

theorem TakesBalanced.bind_pure {read : Reader α} (h : TakesBalanced read) (f : α → β) :
    TakesBalanced (do return f (← read)) := fun s => .bind (h s) fun _ _ => .pure (.nil _)

end

theorem expect_eq_ok {cs s rest : List Char} {u : Unit} (h : expect cs s = .ok (u, rest)) :
    s = cs ++ rest := by
  induction cs generalizing s with
  | nil =>
    cases h
    rfl
  | cons c cs ih =>
    cases s with
    | nil => cases h
    | cons d s =>
      rw [expect] at h
      dsimp only at h
      split at h
      · next hd => rw [hd, ih h, List.cons_append]
      · cases h

theorem takesBalanced_expect {cs : List Char} (h : cs.all isPlain = true) :
    TakesBalanced (expect cs) :=
  fun _ _ _ hok => ⟨cs, balanced_of_plain (List.all_eq_true.mp h), expect_eq_ok hok⟩

theorem takesBalanced_nullWord : TakesBalanced (expect "null".toList) :=
  takesBalanced_expect (by decide)

theorem takesBalanced_trueWord : TakesBalanced (expect "true".toList) :=
  takesBalanced_expect (by decide)

theorem takesBalanced_falseWord : TakesBalanced (expect "false".toList) :=
  takesBalanced_expect (by decide)

/-! ### Texts -/

theorem staysQuoted_of_hexValue? {c : Char} {n : Nat} (h : hexValue? c = some n) :
    StaysQuoted [c] := by
  apply staysQuoted_char
  · rintro rfl
    cases h
  · rintro rfl
    cases h

theorem consumes_codeUnit (s : List Char) : Consumes StaysQuoted codeUnit s := by
  intro _ _ hok
  unfold codeUnit at hok
  split at hok
  · next a b c d s =>
    split at hok
    · next ha hb hc hd =>
      cases hok
      exact ⟨[a, b, c, d], (staysQuoted_of_hexValue? ha).cons ((staysQuoted_of_hexValue? hb).cons
        ((staysQuoted_of_hexValue? hc).cons (staysQuoted_of_hexValue? hd))), rfl⟩
    · cases hok
  · split at hok <;> cases hok

theorem consumes_numberedChar (s : List Char) : Consumes StaysQuoted numberedChar s := by
  unfold numberedChar
  refine .bind_leads (consumes_codeUnit s) fun high t => ?_
  dsimp only
  split
  · exact .throw_bind _
  split
  · exact .pure (.nil _)
  have hexpect : Consumes StaysQuoted (expect ['\\', 'u']) t := fun _ _ hok =>
    ⟨['\\', 'u'], leads_backslash.cons (leads_escaped 'u'), expect_eq_ok hok⟩
  refine .bind_leads hexpect fun _ t => ?_
  refine .bind_leads (consumes_codeUnit t) fun low t => ?_
  split
  · exact .throw_bind _
  · exact .pure (.nil _)

/-- A backslash does not stand alone. -/
theorem ne_backslash {c : Char} {s : List Char}
    (hescape : ∀ (d : Char) (t : List Char), c = '\\' → s = d :: t → False)
    (hlone : c = '\\' → s = [] → False) : c ≠ '\\' := by
  intro hc
  cases s with
  | nil => exact hlone hc rfl
  | cons d t => exact hescape d t hc rfl

/-- A text goes on after each of its characters and ends with a quote. -/
theorem textChar_eq_ok {s rest : List Char} {next : Option Char}
    (h : textChar s = .ok (next, rest)) :
    (next ≠ none ∧ ∃ taken, StaysQuoted taken ∧ s = taken ++ rest) ∨
      (next = none ∧ s = '"' :: rest) := by
  unfold textChar at h
  split at h
  case h_1 => cases h
  case h_2 s =>
    cases h
    exact .inr ⟨rfl, rfl⟩
  case h_3 s =>
    obtain ⟨c, hnumbered, rfl⟩ := map_eq_ok h
    obtain ⟨taken, htaken, rfl⟩ := consumes_numberedChar s c rest hnumbered
    exact .inl ⟨nofun, '\\' :: 'u' :: taken,
      leads_backslash.cons ((leads_escaped 'u').cons htaken), rfl⟩
  case h_4 c s _ =>
    cases hsimple : simpleEscape? c with
    | none =>
      rw [hsimple] at h
      cases h
    | some d =>
      rw [hsimple] at h
      cases h
      exact .inl ⟨nofun, ['\\', c], leads_backslash.cons (leads_escaped c), rfl⟩
  case h_5 => cases h
  case h_6 c s hquote hnumber hescape hlone =>
    have hbackslash : c ≠ '\\' := ne_backslash hescape hlone
    split at h
    · cases h
    · cases h
      exact .inl ⟨nofun, [c], staysQuoted_char hquote hbackslash, rfl⟩

theorem consumes_textBody (n : Nat) (s : List Char) :
    Consumes (Leads .quoted .outside) (textBody n) s := by
  induction n generalizing s with
  | zero => exact .throw _
  | succ n ih =>
    intro cs rest hok
    obtain ⟨next, t, hchar, hmore⟩ := bind_eq_ok hok
    rcases textChar_eq_ok hchar with ⟨hnext, taken, htaken, rfl⟩ | ⟨rfl, rfl⟩
    · obtain ⟨c, rfl⟩ := Option.ne_none_iff_exists'.mp hnext
      obtain ⟨cs', hbody, -⟩ := map_eq_ok (g := (c :: ·)) hmore
      obtain ⟨taken', htaken', rfl⟩ := ih t cs' rest hbody
      exact ⟨taken ++ taken', htaken.append htaken', (List.append_assoc ..).symm⟩
    · cases hmore
      exact ⟨['"'], leads_closeQuote, rfl⟩

theorem consumes_quoted (s : List Char) : Consumes (Leads .quoted .outside) quoted s :=
  (consumes_textBody (s.length + 1) s).map

theorem consumes_skipTextBody (n : Nat) (s : List Char) :
    Consumes (Leads .quoted .outside) (skipTextBody n) s := by
  induction n generalizing s with
  | zero => exact .throw _
  | succ n ih =>
    intro _ rest hok
    unfold skipTextBody at hok
    split at hok
    case h_1 => cases hok
    case h_2 s =>
      cases hok
      exact ⟨['"'], leads_closeQuote, rfl⟩
    case h_3 s =>
      have hunit : Consumes StaysQuoted (discard codeUnit) s := (consumes_codeUnit s).map
      obtain ⟨taken, htaken, rfl⟩ := hunit.bind_leads (fun _ t => ih t) _ rest hok
      exact ⟨'\\' :: 'u' :: taken, leads_backslash.cons ((leads_escaped 'u').cons htaken), rfl⟩
    case h_4 c s _ =>
      split at hok
      · obtain ⟨taken, htaken, rfl⟩ := ih s _ _ hok
        exact ⟨'\\' :: c :: taken, leads_backslash.cons ((leads_escaped c).cons htaken), rfl⟩
      · cases hok
    case h_5 => cases hok
    case h_6 c s hquote hnumber hescape hlone =>
      have hbackslash : c ≠ '\\' := ne_backslash hescape hlone
      split at hok
      · cases hok
      · obtain ⟨taken, htaken, rfl⟩ := ih s _ _ hok
        exact ⟨c :: taken, (staysQuoted_char hquote hbackslash).cons htaken, rfl⟩

theorem consumes_skipText (s : List Char) : Consumes (Leads .quoted .outside) skipText s :=
  consumes_skipTextBody (s.length + 1) s

/-! ### Numbers -/

theorem takesBalanced_digits : TakesBalanced digits := by
  intro s ds rest hok
  cases hok
  exact ⟨_, balanced_digits s, List.takeWhile_append_dropWhile.symm⟩

theorem takesBalanced_skipDigits : TakesBalanced skipDigits := by
  intro s
  refine .bind (takesBalanced_digits s) fun ds t => ?_
  split
  · exact .throw _
  · exact .pure (.nil _)

theorem takesBalanced_exponent (significand : Nat) (start : Int) :
    TakesBalanced (exponent significand start) := by
  intro s
  unfold exponent
  refine .bind ?_ fun isNegative t => ?_
  · intro sign rest hok
    dsimp only at hok
    split at hok
    · cases hok
      exact ⟨['-'], balanced_plain rfl, rfl⟩
    · cases hok
      exact ⟨['+'], balanced_plain rfl, rfl⟩
    · cases hok
      exact ⟨[], .nil _, rfl⟩
  refine .bind (takesBalanced_digits t) fun ds t => ?_
  exact .ite (fun _ => .get (.throw_bind _)) fun _ =>
    .ite (fun _ => .throw _) fun _ => .pure (.nil _)

theorem isPlain_of_exponent {c : Char} (h : c = 'e' ∨ c = 'E') : isPlain c = true := by
  rcases h with rfl | rfl <;> rfl

theorem takesBalanced_unsigned : TakesBalanced unsigned := by
  intro s
  refine .bind (takesBalanced_digits s) fun ds t => ?_
  split
  · exact .get (.throw _)
  · exact .throw _
  refine .get ?_
  split
  · next t =>
    refine .set rfl (.bind (takesBalanced_digits t) fun ds t => ?_)
    refine .ite (fun _ => .get (.throw_bind _)) fun _ => .get ?_
    dsimp only
    split
    · next c t =>
      refine .ite (fun hc => ?_) fun _ => .ite (fun _ => .throw_bind _) fun _ => .pure (.nil _)
      exact .set (isPlain_of_exponent hc)
        (.bind (takesBalanced_exponent _ _ t) fun _ t => .pure (.nil _))
    · exact .ite (fun _ => .throw_bind _) fun _ => .pure (.nil _)
  · next c t _ =>
    refine .ite (fun hc => ?_) fun _ => .ite (fun _ => .throw _) fun _ => .pure (.nil _)
    exact .set (isPlain_of_exponent hc)
      (.bind (takesBalanced_exponent _ _ t) fun _ t => .pure (.nil _))
  · exact .ite (fun _ => .throw_bind _) fun _ => .pure (.nil _)

theorem takesBalanced_skipExponent : TakesBalanced skipExponent := by
  intro s _ rest hok
  cases s with
  | nil =>
    cases hok
    exact ⟨[], .nil _, rfl⟩
  | cons c s =>
    unfold skipExponent at hok
    dsimp only at hok
    split at hok
    · next hc =>
      have hletter : Balanced [c] := balanced_plain (isPlain_of_exponent hc)
      split at hok
      all_goals obtain ⟨taken, htaken, rfl⟩ := takesBalanced_skipDigits _ _ rest hok
      · exact ⟨c :: '+' :: taken, hletter.cons ((balanced_plain rfl).cons htaken), rfl⟩
      · exact ⟨c :: '-' :: taken, hletter.cons ((balanced_plain rfl).cons htaken), rfl⟩
      · exact ⟨c :: taken, hletter.cons htaken, rfl⟩
    · cases hok
      exact ⟨[], .nil _, rfl⟩

theorem takesBalanced_skipNumber : TakesBalanced skipNumber := by
  intro s
  refine .bind (takesBalanced_digits s) fun ds t => ?_
  split
  · exact .throw _
  · exact .throw _
  refine .get ?_
  split
  · next t =>
    exact .set rfl (.bind (takesBalanced_skipDigits t)
      fun _ t => takesBalanced_skipExponent t)
  · exact takesBalanced_skipExponent t

end Scaffold.Json.Reader
