/-
With which exit code programs fail.

`x.FailsWith code w`: in the world `w` the action `x` fails, for a cause of this exit code. A sequence fails as its
first action does, if that fails (`failsWith_bind_of_failsWith`); activities around an action change nothing
(`failsWith_during_iff`).

`Strategy.Stops` and `Batch.Stops` tell by what the files and children do that a program fails, and the exit code: 1 for
a child that is never started, 4 for a build that fails or leaves nothing to run, 5 for a program that fails, 3 for a
language that nothing runs, 6 for the wrong output.

- `Strategy.stops_iff`: a strategy of the library fails exactly so, read off the endings that `Strategy.Ends` lists;
- `Batch.stops_iff`: so does a program of a registry that has such strategies only;
- `Batch.firstStop_iff`: the first of some programs that fails, told so.
-/
import RunnableDocs.Proofs.Batch
import RunnableDocs.Proofs.Endings

namespace RunnableDocs

namespace Action
variable {α β : Type} {code : ℕ} {w : World}

/-- the action fails in this world, for a cause of this exit code -/
def FailsWith (code : ℕ) (x : Action α) (w : World) : Prop := ∃ f, (x w).result = .error f ∧ f.exitCode = code

theorem failsWith_congr {x y : Action α} {v : World} (h : (x w).result = (y v).result) :
    x.FailsWith code w ↔ y.FailsWith code v := by rw [FailsWith, FailsWith, h]

/-- what comes second does not matter if the first action fails -/
theorem failsWith_bind_of_failsWith {n : ℕ} {x : Action α} (h : x.FailsWith n w) {f : α → Action β} :
    (x >>= f).FailsWith code w ↔ code = n := by
  obtain ⟨e, he, rfl⟩ := h
  simp [FailsWith, bind_of_error he, eq_comm]

theorem failsWith_during_iff {x : Action α} {activity : Activity} :
    (x.during activity).FailsWith code w ↔ x.FailsWith code w := by
  cases h : (x w).result with
  | error e => simp [FailsWith, during, h, Except.mapError, Failure.exitCode_during]
  | ok a => simp [FailsWith, during, h, Except.mapError]

end Action

namespace Strategy
variable {launch : Launcher} {p : Program} {s : Setting} {w : World} {code : ℕ}

/-- a program of a language fails, and how that is told -/
inductive Stops (launch : Launcher) (p : Program) (s : Setting) (w : World) : Language → ℕ → Prop
  | unstarted {l : Language} (h : Unstarted launch p s l.command w) : Stops launch p s w l 1
  | interpreted {parts : List Text} {command : Command} {left : World} {ended : Ended}
      (h : Started launch p s parts w command left ended) (hf : ended.Failed) :
      Stops launch p s w (.interpreted parts) 5
  | build {parts : List Text} {command : Command} {left : World} {ended : Ended}
      (h : Started launch p s parts w command left ended) (hf : ended.Failed) :
      Stops launch p s w (.buildThenRun parts) 4
  | noExecutable {parts : List Text} {command : Command} {left : World} {ended : Ended}
      (h : Started launch p s parts w command left ended) (hs : ¬ ended.Failed)
      (hx : left.isFile (executablePath s p) = false) : Stops launch p s w (.buildThenRun parts) 4
  | executableRefused {parts : List Text} {command : Command} {left : World} {ended : Ended} {e : SystemError}
      (h : Started launch p s parts w command left ended) (hs : ¬ ended.Failed)
      (hx : left.isFile (executablePath s p) = true) (hl : (launch (executable s p) s.limit left).2 = .error e) :
      Stops launch p s w (.buildThenRun parts) 1
  | executable {parts : List Text} {command : Command} {left : World} {ended ended' : Ended}
      (h : Started launch p s parts w command left ended) (hs : ¬ ended.Failed)
      (hx : left.isFile (executablePath s p) = true) (hl : (launch (executable s p) s.limit left).2 = .ok ended')
      (hf : ended'.Failed) : Stops launch p s w (.buildThenRun parts) 5

/-- an ending that is a failure has the exit code of its cause -/
theorem failsWith_of_ends {l : Language} {o : Outcome Text} {f : Failure} (h : Ends launch p s w l o)
    (hr : o.result = .error f) : ((ofLanguage l).execute launch p s).FailsWith f.exitCode w :=
  ⟨f, by rwa [execute_of_ends h], rfl⟩

/-- **A strategy of the library stops a program exactly so.** -/
theorem stops_iff (l : Language) :
    ((ofLanguage l).execute launch p s).FailsWith code w ↔ Stops launch p s w l code := by
  constructor
  · rintro ⟨f, hr, rfl⟩
    obtain ⟨o, ho⟩ := exists_ends launch p s w l
    rw [execute_of_ends ho] at hr
    cases ho with
    | unwritten hw => cases hr; exact .unstarted (.unwritten hw)
    | empty hw hc => cases hr; exact .unstarted (.empty hw hc)
    | refused hw hc hl => cases hr; exact .unstarted (.refused hw hc (by rw [hl]))
    | interpretedFailed hst hf => cases hr; exact .interpreted hst hf
    | interpreted => cases hr
    | buildFailed hst hf => cases hr; exact .build hst hf
    | noExecutable hb hx =>
      obtain ⟨command, ended, hst, hs⟩ := hb
      cases hr
      exact .noExecutable hst hs hx
    | executableRefused hb hx hl =>
      obtain ⟨command, ended, hst, hs⟩ := hb
      cases hr
      exact .executableRefused hst hs hx (by rw [hl])
    | executableFailed hb hx hl hf =>
      obtain ⟨command, ended, hst, hs⟩ := hb
      cases hr
      exact .executable hst hs hx (by rw [hl]) hf
    | executable => cases hr
  · intro h
    cases h with
    | unstarted hun =>
      obtain ⟨o, f, ho, hr, hkind⟩ := exists_ends_of_unstarted hun
      exact ⟨f, by rwa [execute_of_ends ho], by rw [Failure.exitCode, Cause.exitCode, hkind]; rfl⟩
    | interpreted hst hf => exact failsWith_of_ends (.interpretedFailed hst hf) rfl
    | build hst hf => exact failsWith_of_ends (.buildFailed hst hf) rfl
    | noExecutable hst hs hx => exact failsWith_of_ends (.noExecutable ⟨_, _, hst, hs⟩ hx) rfl
    | executableRefused hst hs hx hl =>
      exact failsWith_of_ends (.executableRefused ⟨_, _, hst, hs⟩ hx (Prod.ext rfl hl)) rfl
    | executable hst hs hx hl hf =>
      exact failsWith_of_ends (.executableFailed ⟨_, _, hst, hs⟩ hx (Prod.ext rfl hl) hf) rfl

end Strategy

/-! ## Programs of a registry -/

namespace Batch
variable {launch : Launcher} {registry : Registry} {s : Setting} {p : Program} {w : World} {code : ℕ}

/-- a program fails, and how that is told -/
inductive Stops (launch : Launcher) (registry : Registry) (s : Setting) (p : Program) (w : World) : ℕ → Prop
  | unknown (h : registry.get? p.language = none) : Stops launch registry s p w 3
  | strategy {l : Language} {code : ℕ} (h : registry.get? p.language = some (.ofLanguage l))
      (hs : Strategy.Stops launch p s w l code) : Stops launch registry s p w code
  | mismatch {strategy : Strategy} {stdout expected : Text} (h : registry.get? p.language = some strategy)
      (hrun : (strategy.execute launch p s w).result = .ok stdout) (ho : p.output = some expected)
      (hne : Text.trim expected ≠ Text.trim stdout) : Stops launch registry s p w 6

theorem failure?_eq_some_iff {f : Failure} : failure? launch registry s p w = some f ↔
    (registry.get? p.language = none ∧ f = Cause.unsupportedLanguage p.filename p.lineStart p.language) ∨
      ∃ strategy, registry.get? p.language = some strategy ∧
        ((strategy.execute launch p s w).result = .error f ∨
          ∃ stdout expected, (strategy.execute launch p s w).result = .ok stdout ∧ p.output = some expected ∧
            Text.trim expected ≠ Text.trim stdout ∧ f = Cause.outputMismatch p.filename expected stdout) := by
  unfold failure?
  cases hget : registry.get? p.language with
  | none => simp [eq_comm]
  | some strategy =>
    cases hr : (strategy.execute launch p s w).result with
    | error e => simp [hr]
    | ok stdout =>
      cases ho : p.output with
      | none => simp [hr, Program.verify]
      | some expected =>
        by_cases he : Text.trim expected = Text.trim stdout
        · simp [hr, Program.verify, he]
        · simp [hr, Program.verify, he, eq_comm]

/-- **A program of a library strategy stops a batch exactly so.** -/
theorem stops_iff (hown : ∀ strategy, registry.get? p.language = some strategy → ∃ l, strategy = .ofLanguage l) :
    (∃ f, failure? launch registry s p w = some f ∧ f.exitCode = code) ↔ Stops launch registry s p w code := by
  constructor
  · rintro ⟨f, hf, rfl⟩
    rcases failure?_eq_some_iff.1 hf with ⟨hget, rfl⟩ | ⟨strategy, hget, hrun | ⟨stdout, expected, hrun, ho, hne, rfl⟩⟩
    · exact .unknown hget
    · obtain ⟨l, rfl⟩ := hown strategy hget
      exact .strategy hget ((Strategy.stops_iff l).1 ⟨f, hrun, rfl⟩)
    · exact .mismatch hget hrun ho hne
  · intro h
    cases h with
    | unknown hget => exact ⟨_, failure?_eq_some_iff.2 (Or.inl ⟨hget, rfl⟩), rfl⟩
    | @strategy l _ hget hs =>
      obtain ⟨f, hrun, hcode⟩ := (Strategy.stops_iff l).2 hs
      exact ⟨f, failure?_eq_some_iff.2 (Or.inr ⟨_, hget, Or.inl hrun⟩), hcode⟩
    | mismatch hget hrun ho hne =>
      exact ⟨_, failure?_eq_some_iff.2 (Or.inr ⟨_, hget, Or.inr ⟨_, _, hrun, ho, hne, rfl⟩⟩), rfl⟩

/-- program `k` is the first that fails, which is told by `code` -/
structure FirstStop (launch : Launcher) (registry : Registry) (s : Setting) (programs : List Program) (w : World)
    (k : ℕ) (p : Program) (code : ℕ) : Prop where
  program : programs[k]? = some p
  stops : Stops launch registry s p (found launch registry s programs w k) code
  passes : ∀ j q, j < k → programs[j]? = some q →
    failure? launch registry s q (found launch registry s programs w j) = none

theorem firstStop_iff {programs : List Program} {k : ℕ}
    (hown : ∀ language strategy, registry.get? language = some strategy → ∃ l, strategy = .ofLanguage l) :
    FirstStop launch registry s programs w k p code ↔
      ∃ f, FirstFailure launch registry s programs w k p f ∧ f.exitCode = code := by
  constructor
  · rintro ⟨hp, hstops, hpasses⟩
    obtain ⟨f, hfails, hcode⟩ := (stops_iff (hown p.language)).2 hstops
    exact ⟨f, ⟨hp, hfails, hpasses⟩, hcode⟩
  · rintro ⟨f, ⟨hp, hfails, hpasses⟩, hcode⟩
    exact ⟨hp, (stops_iff (hown p.language)).1 ⟨f, hfails, hcode⟩, hpasses⟩

end Batch

/-- every strategy of a configuration is one of the library -/
theorem Registry.exists_ofLanguage {config : Config} {extension : Text} {strategy : Strategy}
    (h : (ofConfig config).get? extension = some strategy) : ∃ l, strategy = .ofLanguage l := by
  cases strategy with
  | interpreted command => exact ⟨.interpreted command, rfl⟩
  | buildThenRun build => exact ⟨.buildThenRun build, rfl⟩
  | supplied behaviour => exact absurd h (get?_ofConfig_ne_supplied config extension behaviour)

end RunnableDocs
