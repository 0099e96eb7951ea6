import Scaffold.Proofs.Consuming

/-!
# Readers take what is balanced

Whatever value a reader takes, known or skipped, it takes what is balanced, and a record is taken up
to the bracket that closes it and no further.

* `takesBalanced_skipValue`: values of any shape.
* `TakesBalanced.list`, `takesBalanced_record`, `takesBalanced_choice`: values of a known shape, if
  what they are made of is balanced.
* `consumes_record`: a record, with the brackets around it.
-/

namespace Scaffold.Json.Reader

variable {α β ρ : Type}

/-! ### Values of any shape -/

/-- A value of another shape is not read. -/
theorem ensures_mismatch (s : List Char) :
    Ensures (fun _ _ => False) (mismatch : Reader α) s := by
  have hend {β : Type} (read : Reader β) (s : List Char) : Ensures (fun _ _ => False)
      (read >>= fun _ => (throw .mismatched : Reader α)) s := .after fun _ _ => .throw _
  refine .peek (.throw_bind _) fun c t => ?_
  split
  case h_4 => exact .after fun _ t => hend _ t
  case h_5 => exact .after fun _ t => hend _ t
  case h_6 => exact .throw _
  case h_7 => exact .throw _
  case h_8 => exact .ite (fun _ => hend _ _) fun _ => hend _ _
  all_goals exact hend _ _

theorem consumes_mismatch {kind : List Char → Prop} (s : List Char) :
    Consumes kind (mismatch : Reader α) s :=
  fun a rest hok => (ensures_mismatch s a rest hok).elim

theorem takesBalanced_colon : TakesBalanced colon := by
  intro s
  refine .peek (.throw _) fun c t => ?_
  split
  case h_1 hc =>
    cases hc
    exact .skip_one (balanced_plain rfl)
  all_goals exact .throw _

theorem takesBalanced_skipName : TakesBalanced skipName := by
  intro s
  unfold skipName
  refine .peek (.throw_bind _) fun c t => ?_
  split
  case h_1 hc =>
    cases hc
    exact .openQuote (.bind_leads (consumes_skipText t) fun _ t => takesBalanced_colon t)
  all_goals exact .throw_bind _

theorem takesBalanced_skipValueWith {inside : Nesting → Reader Unit}
    (h : ∀ nesting s, Consumes (Closing nesting.closing) (inside nesting) s) :
    TakesBalanced (skipValueWith inside) := by
  intro s
  unfold skipValueWith
  refine .peek (.throw _) fun c t => ?_
  split
  case h_1 => exact .throw _
  case h_2 => exact takesBalanced_nullWord _
  case h_3 => exact takesBalanced_trueWord _
  case h_4 => exact takesBalanced_falseWord _
  case h_5 hc =>
    cases hc
    exact .openQuote (consumes_skipText t)
  case h_6 hc =>
    cases hc
    exact .plain rfl (takesBalanced_skipNumber t)
  case h_7 hc =>
    cases hc
    exact .openBracket .array (h .array t)
  case h_8 hc =>
    cases hc
    exact .openBracket .object (h .object t)
  case h_9 => exact .ite (fun _ => takesBalanced_skipNumber _) fun _ => .throw _

theorem consumes_skipInside (n : Nat) (first : Bool) (nesting : Nesting) (s : List Char) :
    Consumes (Closing nesting.closing) (skipInside n first nesting) s := by
  induction n generalizing first nesting s with
  | zero => exact .throw _
  | succ n ih =>
    have hvalue (t : List Char) : Consumes (Closing nesting.closing)
        (do skipValueWith (skipInside n true); skipInside n false nesting) t :=
      .bind (takesBalanced_skipValueWith (fun nesting s => ih true nesting s) t)
        fun _ t => ih false nesting t
    have hmember (t : List Char) : Consumes (Closing nesting.closing)
        (do
          if nesting = .object then skipName
          skipValueWith (skipInside n true)
          skipInside n false nesting) t :=
      .ite (fun _ => .bind (takesBalanced_skipName t) fun _ t => hvalue t) fun _ => hvalue t
    refine .peek (.throw _) fun c t => .ite (fun hc => ?_) fun _ => .ite (fun _ => ?_) fun _ => ?_
    · subst hc
      exact .skip_one (.single _)
    · refine .ite (fun hc => ?_) fun _ => .throw_bind _
      subst hc
      exact .plain rfl (hmember t)
    · exact hmember (c :: t)

theorem takesBalanced_skipValue : TakesBalanced skipValue := by
  intro s a rest hok
  exact takesBalanced_skipValueWith (consumes_skipInside (s.length + 1) true) s a rest hok

/-! ### Values of a known shape -/

theorem takesBalanced_text : TakesBalanced text := by
  intro s
  refine .peek (.throw _) fun c t => ?_
  split
  case h_1 hc =>
    cases hc
    exact .openQuote (consumes_quoted t)
  case h_2 => exact consumes_mismatch _
  case h_3 => exact .throw _

theorem takesBalanced_count : TakesBalanced count := by
  intro s
  refine .peek (.throw _) fun c t => ?_
  split
  case h_1 => exact consumes_mismatch _
  case h_2 =>
    refine .ite (fun _ => ?_) fun _ => consumes_mismatch _
    refine .bind (takesBalanced_unsigned _) fun n t => ?_
    split
    · exact .pure (.nil _)
    · exact .throw _
  case h_3 => exact .throw _

theorem takesBalanced_bool : TakesBalanced bool := by
  intro s
  refine .peek (.throw _) fun c t => ?_
  split
  case h_1 => exact .bind (takesBalanced_trueWord _) fun _ _ => .pure (.nil _)
  case h_2 => exact .bind (takesBalanced_falseWord _) fun _ _ => .pure (.nil _)
  case h_3 => exact consumes_mismatch _
  case h_4 => exact .throw _

theorem takesBalanced_null : TakesBalanced null := by
  intro s
  refine .peek (.throw _) fun c t => ?_
  split
  case h_1 => exact takesBalanced_nullWord _
  case h_2 => exact consumes_mismatch _
  case h_3 => exact .throw _

theorem TakesBalanced.optional {read : Reader α} (h : TakesBalanced read) :
    TakesBalanced (Reader.optional read) := by
  intro s
  refine .peek ((h []).map) fun c t => ?_
  split
  · exact .bind (takesBalanced_nullWord _) fun _ _ => .pure (.nil _)
  · exact (h _).map

/-! ### Lists -/

theorem takesBalanced_hasItem (first : Bool) : TakesBalanced (hasItem first) := by
  intro s
  refine .peek (.throw _) fun c t => ?_
  split
  case h_1 => exact .throw _
  case h_2 => exact .pure (.nil _)
  case h_3 hc =>
    cases hc
    refine .ite (fun _ => .pure (.nil _)) fun _ => .ite (fun _ => .throw_bind _) fun hcomma => ?_
    obtain rfl : c = ',' := not_not.mp hcomma
    refine .plain rfl (.peek (.throw _) fun d t => ?_)
    split
    · exact .throw _
    · exact .throw _
    · exact .pure (.nil _)

theorem consumes_endArray (s : List Char) : Consumes (Closing ']') endArray s := by
  refine .peek (.throw _) fun c t => ?_
  split
  case h_1 hc =>
    cases hc
    exact .skip_one (.single _)
  all_goals exact .throw _

theorem TakesBalanced.items {read : Reader α} (h : TakesBalanced read) (n : Nat) (first : Bool) :
    TakesBalanced (items read n first) := by
  induction n generalizing first with
  | zero => exact fun s => .throw _
  | succ n ih =>
    intro s
    refine .bind (takesBalanced_hasItem first s) fun more t =>
      .ite (fun _ => ?_) fun _ => .pure (.nil _)
    exact .bind (h t) fun a t => (ih false t).map

theorem TakesBalanced.list {read : Reader α} (h : TakesBalanced read) :
    TakesBalanced (Reader.list read) := by
  intro s
  refine .peek (.throw _) fun c t => ?_
  split
  case h_1 hc =>
    cases hc
    refine .openBracket .array (.bind (h.items _ _ _) fun as t => ?_)
    exact (consumes_endArray t).map (g := fun _ => as)
  case h_2 => exact consumes_mismatch _
  case h_3 => exact .throw _

/-! ### Records -/

theorem takesBalanced_hasMember (first : Bool) : TakesBalanced (hasMember first) := by
  intro s
  refine .peek (.throw _) fun c t => ?_
  split
  case h_1 => exact .throw _
  case h_2 => exact .pure (.nil _)
  case h_3 hc =>
    cases hc
    refine .ite (fun _ => .ite (fun _ => .pure (.nil _)) fun _ => .throw_bind _) fun _ => ?_
    refine .ite (fun _ => .throw_bind _) fun hcomma => ?_
    obtain rfl : c = ',' := not_not.mp hcomma
    refine .plain rfl (.peek (.throw _) fun d t => ?_)
    split
    · exact .pure (.nil _)
    · exact .throw _
    · exact .throw _

/-- Where the members of an object end, the brace that closes it is next. -/
theorem ensures_hasMember (first : Bool) (s : List Char) :
    Ensures (fun more rest => more = false → ∃ t, rest = '\x7d' :: t) (hasMember first) s := by
  refine .peek (.throw _) fun c t => ?_
  split
  case h_1 => exact .throw _
  case h_2 hc =>
    cases hc
    exact .pure fun _ => ⟨t, rfl⟩
  case h_3 =>
    refine .ite (fun _ => .ite (fun _ => .pure nofun) fun _ => .throw_bind _) fun _ => ?_
    refine .ite (fun _ => .throw_bind _) fun _ => .after fun _ t => ?_
    refine .peek (.throw _) fun c t => ?_
    split
    · exact .pure nofun
    · exact .throw _
    · exact .throw _

variable {fields : List (Field ρ)}

theorem takesBalanced_members (h : ∀ field ∈ fields, ∀ r, TakesBalanced (field.read r)) (n : Nat)
    (first : Bool) (r : ρ) : TakesBalanced (members fields n first r) := by
  induction n generalizing first r with
  | zero => exact fun s => .throw _
  | succ n ih =>
    intro s
    refine .bind (takesBalanced_hasMember first s) fun more t =>
      .ite (fun _ => ?_) fun _ => .pure (.nil _)
    refine .bind (takesBalanced_text t) fun name t => ?_
    split
    · next field hfield =>
      refine .ite (fun _ => .throw_bind _) fun _ => .bind (takesBalanced_colon t) fun _ t => ?_
      exact .bind (h field (List.mem_of_find?_eq_some hfield) r t) fun r t => ih false r t
    · exact .bind (takesBalanced_colon t) fun _ t => .bind (takesBalanced_skipValue t)
        fun _ t => ih false r t

theorem ensures_members (n : Nat) (first : Bool) (r : ρ) (s : List Char) :
    Ensures (fun _ rest => ∃ t, rest = '\x7d' :: t) (members fields n first r) s := by
  induction n generalizing first r s with
  | zero => exact .throw _
  | succ n ih =>
    refine .bind (ensures_hasMember first s) fun more t hend => .ite (fun _ => ?_) fun hmore => ?_
    · refine .after fun name t => ?_
      split
      · exact .ite (fun _ => .throw_bind _) fun _ =>
          .after fun _ t => .after fun r t => ih false r t
      · exact .after fun _ t => .after fun _ t => ih false r t
    · exact .pure (hend (Bool.eq_false_iff.mpr hmore))

theorem takesBalanced_positional (h : ∀ field ∈ fields, ∀ r, TakesBalanced (field.read r))
    (first : Bool) (r : ρ) : TakesBalanced (positional fields first r) := by
  induction fields generalizing first r with
  | nil => exact fun s => .pure (.nil _)
  | cons field fields ih =>
    obtain ⟨hfield, hfields⟩ := List.forall_mem_cons.mp h
    intro s
    refine .bind (takesBalanced_hasItem first s) fun more t => .ite (fun _ => ?_) fun _ => .throw _
    exact .bind (hfield r t) fun r t => ih hfields false r t

/-- A record is taken up to the bracket that closes it. -/
theorem consumes_record (h : ∀ field ∈ fields, ∀ r, TakesBalanced (field.read r)) (empty : ρ)
    (complete : ρ → Option α) (s : List Char) :
    Consumes Bracketed (record fields empty complete) s := by
  refine .peek_of_append (fun cs ds hcs hds => ⟨cs, ds, hcs, hds, rfl⟩) (.throw _) fun c t => ?_
  split
  case h_1 hc =>
    cases hc
    refine .skip (fun cs hcs => ⟨_, _, cs, .object, hcs, rfl⟩) ?_
    refine .bind_of_ensures Extends.append (takesBalanced_members h (t.length + 1) true empty t)
      (ensures_members (t.length + 1) true empty t) fun r t hend => ?_
    obtain ⟨t', rfl⟩ := hend
    split
    · next a _ => exact (Consumes.skip_one (.single _)).map (g := fun _ => a)
    · exact .throw _
  case h_2 hc =>
    cases hc
    refine .skip (fun cs hcs => ⟨_, _, cs, .array, hcs, rfl⟩) ?_
    refine .bind (takesBalanced_positional h true empty t) fun r t => ?_
    split
    · next a _ => exact (consumes_endArray t).map (g := fun _ => a)
    · exact .throw _
  case h_3 => exact consumes_mismatch _
  case h_4 => exact .throw _

theorem takesBalanced_record (h : ∀ field ∈ fields, ∀ r, TakesBalanced (field.read r)) (empty : ρ)
    (complete : ρ → Option α) : TakesBalanced (record fields empty complete) := by
  intro s a rest hok
  obtain ⟨taken, htaken, hsplit⟩ := consumes_record h empty complete s a rest hok
  exact ⟨taken, htaken.balanced, hsplit⟩

theorem takesBalanced_choice {alternatives : List (Alternative α)}
    (h : ∀ alternative ∈ alternatives, TakesBalanced alternative.content) :
    TakesBalanced (choice alternatives) := by
  intro s
  refine .peek (.throw _) fun c t => ?_
  split
  case h_1 hc =>
    cases hc
    refine .openBracket .object (.bind (takesBalanced_text t) fun name t => ?_)
    split
    · exact .throw _
    · next alternative hfind =>
      refine .bind (takesBalanced_colon t) fun _ t => ?_
      refine .bind (h alternative (List.mem_of_find?_eq_some hfind) t) fun a t => ?_
      refine .peek (.throw _) fun d t => ?_
      split
      case h_1 hd =>
        cases hd
        exact (Consumes.skip_one (.single _)).map (g := fun _ => a)
      all_goals exact .throw _
  case h_2 hc =>
    refine .bind (takesBalanced_text _) fun name t => ?_
    split
    · exact .pure (.nil _)
    · exact .throw _
  all_goals exact .throw _

end Scaffold.Json.Reader
