import Scaffold.Sink

/-!
# The calls of a sink

What is asked of a sink, in order, is part of what happens when artifacts are written. A sink that
keeps a record of its calls otherwise does what it did without.

* `Sink.traced`: a sink with a record of its calls.
* `Sink.TakesFirst`: artifacts are written up to the first failure, said by what the calls give
  when they are made one after the other.
* `exists_takesFirst`: this is what happens to a list of artifacts.
* `writeAll_stops_at_failure`: it happens once the sink is prepared, and the report tells of it.
-/

namespace Scaffold.Sink

/-- A call of a sink. -/
inductive Call where
  | prepare (root : Path)
  | write (root : Path) (artifact : Artifact)
  deriving DecidableEq, Repr

/-- The program that makes a call, with a record of the call. -/
def recording {m : Type → Type} [Monad m] {α : Type} (call : Call) (program : m α) :
    StateT (List Call) m α := do
  modify (· ++ [call])
  program

/-- The sink, with a record of the calls that it gets. -/
def traced {m : Type → Type} [Monad m] (sink : Sink m) : Sink (StateT (List Call) m) where
  prepare root := recording (.prepare root) (sink.prepare root)
  write root a := recording (.write root a) (sink.write root a)

/-- The artifacts that a sink is asked to take: those that it takes and the one after them. -/
def asked (taken : List (Artifact × Path)) (rest : List Artifact) : List Artifact :=
  taken.map (·.1) ++ rest.take 1

/-- Of the artifacts those taken come first, each with the path that it is kept at. If there are
others, the sink fails at the first of them. -/
structure TakesFirst {σ : Type} (sink : Sink (StateM σ)) (root : Path) (s : σ)
    (artifacts : List Artifact) (taken : List (Artifact × Path)) (rest : List Artifact)
    (report : WriteReport) (s' : σ) : Prop where
  artifacts_eq : artifacts = taken.map (·.1) ++ rest
  /-- What the calls give in sequence, and the state that they lead to. -/
  results : (asked taken rest).mapM (sink.write root) s =
    (taken.map (.ok ·.2) ++ report.failure.toList.map .error, s')
  written : report.written = taken.map fun t => ⟨t.2, (Text.encode t.1.content).length⟩
  failure : report.failure = none ↔ rest = []

variable {σ : Type} {sink : Sink (StateM σ)} {root : Path} {s s₁ s' : σ}

/-! ### Steps -/

theorem run_next {α β : Type} {program : StateM σ α} {next : α → StateM σ β} {a : α}
    (h : program s = (a, s₁)) : (program >>= next) s = next a s₁ := by
  change next (program s).1 (program s).2 = _
  rw [h]

theorem run_next_traced {α β : Type} {program : StateT (List Call) (StateM σ) α}
    {next : α → StateT (List Call) (StateM σ) β} {a : α} {calls calls₁ : List Call}
    (h : program calls s = ((a, calls₁), s₁)) : (program >>= next) calls s = next a calls₁ s₁ := by
  change next (program calls s).1.1 (program calls s).1.2 (program calls s).2 = _
  rw [h]

theorem run_recording {α : Type} {program : StateM σ α} {a : α} (h : program s = (a, s₁))
    (call : Call) (calls : List Call) :
    recording call program calls s = ((a, calls ++ [call]), s₁) := by
  change (((program s).1, _), (program s).2) = _
  rw [h]

variable {a : Artifact} {artifacts rest : List Artifact} {taken : List (Artifact × Path)}
  {report : WriteReport}

theorem traced_prepare {result : Except WriteError Unit} (h : sink.prepare root s = (result, s₁))
    (calls : List Call) :
    sink.traced.prepare root calls s = ((result, calls ++ [.prepare root]), s₁) :=
  run_recording h _ calls

theorem traced_write {result : Except WriteError Path} (h : sink.write root a s = (result, s₁))
    (calls : List Call) :
    sink.traced.write root a calls s = ((result, calls ++ [.write root a]), s₁) :=
  run_recording h _ calls

/-! ### Artifacts -/

theorem TakesFirst.refused {e : WriteError} (h : sink.write root a s = (.error e, s')) :
    TakesFirst sink root s (a :: rest) [] (a :: rest) { failure := some e } s' where
  artifacts_eq := rfl
  results := by
    change [a].mapM (sink.write root) s = _
    rw [List.mapM_cons, run_next h]
    rfl
  written := rfl
  failure := by simp

theorem TakesFirst.cons {path : Path} (h : sink.write root a s = (.ok path, s₁))
    (hrest : TakesFirst sink root s₁ artifacts taken rest report s') :
    TakesFirst sink root s (a :: artifacts) ((a, path) :: taken) rest
      ⟨⟨path, a.content.utf8ByteSize⟩ :: report.written, report.failure⟩ s' where
  artifacts_eq := by rw [hrest.artifacts_eq, List.map_cons, List.cons_append]
  results := by
    have hasked : asked ((a, path) :: taken) rest = a :: asked taken rest := rfl
    rw [hasked, List.mapM_cons, run_next h, run_next hrest.results]
    rfl
  written := by rw [List.map_cons, hrest.written, Text.length_encode]
  failure := hrest.failure

/-- Artifacts are taken one after the other up to the first failure, and the calls are those of
the artifacts asked for. -/
theorem exists_takesFirst (sink : Sink (StateM σ)) (root : Path) (artifacts : List Artifact)
    (s : σ) :
    ∃ report s' taken rest, TakesFirst sink root s artifacts taken rest report s' ∧
      sink.writeEach root artifacts s = (report, s') ∧
      ∀ calls, sink.traced.writeEach root artifacts calls s =
        ((report, calls ++ (asked taken rest).map (.write root)), s') := by
  induction artifacts generalizing s with
  | nil =>
    refine ⟨{}, s, [], [], ⟨rfl, rfl, rfl, by simp⟩, rfl, fun calls => ?_⟩
    rw [show (asked [] []).map (Call.write root) = [] from rfl, List.append_nil]
    rfl
  | cons a artifacts ih =>
    cases hcall : sink.write root a s with
    | mk result s₁ =>
      cases result with
      | error e =>
        refine ⟨_, s₁, [], a :: artifacts, .refused hcall, ?_, fun calls => ?_⟩
        · rw [writeEach, run_next hcall]
          rfl
        · rw [writeEach, run_next_traced (traced_write hcall calls)]
          rfl
      | ok path =>
        obtain ⟨report, s', taken, rest, htakes, hwrite, htraced⟩ := ih s₁
        refine ⟨_, s', (a, path) :: taken, rest, htakes.cons hcall, ?_, fun calls => ?_⟩
        · rw [writeEach, run_next hcall]
          exact run_next hwrite
        · have hasked : calls ++ (asked ((a, path) :: taken) rest).map (Call.write root) =
              calls ++ [.write root a] ++ (asked taken rest).map (.write root) := by
            rw [List.append_assoc]
            rfl
          rw [writeEach, run_next_traced (traced_write hcall calls), hasked]
          exact run_next_traced (htraced _)

/-- The whole list is given exactly when nothing is left. -/
theorem TakesFirst.toExcept_eq_ok (h : TakesFirst sink root s artifacts taken rest report s')
    (all : List Written) :
    report.toExcept = .ok all ↔
      report.written.length = artifacts.length ∧ all = report.written := by
  have hlength : report.written.length = artifacts.length ↔ rest = [] := by
    rw [h.written, h.artifacts_eq, List.length_append, List.length_map, List.length_map,
      Nat.left_eq_add, List.length_eq_zero_iff]
  rw [hlength, ← h.failure]
  obtain ⟨written, failure⟩ := report
  cases failure with
  | none => simp [WriteReport.toExcept, eq_comm]
  | some e => simp [WriteReport.toExcept]

/-! ### Preparing -/

/-- Whatever a sink does, it is prepared first and once. If that fails nothing else happens, and
otherwise it takes artifacts up to the first failure. The report gives everything that has been
written exactly when nothing has failed. -/
theorem writeAll_stops_at_failure (sink : Sink (StateM σ)) (root : Path)
    (artifacts : List Artifact) (s : σ) :
    ∃ report calls s',
      sink.writeAll root artifacts s = (report, s') ∧
      sink.traced.writeAll root artifacts [] s = ((report, calls), s') ∧
      ((∃ e, sink.prepare root s = (.error e, s') ∧ calls = [.prepare root] ∧
          report = ⟨[], some e⟩) ∨
        ∃ s₁ taken rest, sink.prepare root s = (.ok (), s₁) ∧
          calls = .prepare root :: (asked taken rest).map (.write root) ∧
          TakesFirst sink root s₁ artifacts taken rest report s') ∧
      ∀ all, report.toExcept = .ok all ↔
        (sink.prepare root s).1 = .ok () ∧ report.written.length = artifacts.length ∧
          all = report.written := by
  cases hcall : sink.prepare root s with
  | mk result s₁ =>
    cases result with
    | error e =>
      refine ⟨⟨[], some e⟩, [.prepare root], s₁, ?_, ?_, Or.inl ⟨e, rfl, rfl, rfl⟩, ?_⟩
      · rw [writeAll, run_next hcall]
        rfl
      · rw [writeAll, run_next_traced (traced_prepare hcall [])]
        rfl
      · simp [WriteReport.toExcept]
    | ok u =>
      obtain ⟨report, s', taken, rest, htakes, hwrite, htraced⟩ :=
        exists_takesFirst sink root artifacts s₁
      refine ⟨report, _, s', ?_, ?_, Or.inr ⟨s₁, taken, rest, rfl, rfl, htakes⟩, fun all => ?_⟩
      · rw [writeAll, run_next hcall]
        exact hwrite
      · rw [writeAll, run_next_traced (traced_prepare hcall [])]
        exact htraced _
      · rw [htakes.toExcept_eq_ok]
        simp

end Scaffold.Sink
