/-
A batch is the run of its longest passing prefix, in order.

A program passes in a world if its language is known, its strategy succeeds there, and what it prints is what it must
print (`failure?` is `none`). `executions` lists the calls of strategies that programs run one after the other make,
each in the world that the ones before have left.

`batch_is_passing_prefix`: if program `k` is the first that fails, then a batch makes exactly the executions of the
programs up to `k`, reports the directory and then what each execution reports, leaves the world that they leave, and
fails with the failure of program `k` seen from the running of that program; what stands behind program `k`, and which
strategies the registry has for it, makes no difference. If no program fails, all are executed and the batch succeeds.
-/
import Mathlib.Tactic
import RunnableDocs.Batch
import RunnableDocs.Proofs.Silence

namespace RunnableDocs

namespace Batch

open RunDirectory (Provider enterWith)


/-- the program has to print something, and this is that, white space around it apart -/
def agrees (p : Program) (stdout : Text) : Bool :=
  match p.output with
  | some expected => Text.trim expected = Text.trim stdout
  | none => false

/-- a strategy called for a program: the world that it found, and what it left -/
structure Execution where
  program : Program
  before : World
  outcome : Outcome Text

namespace Execution

/-- the program has to print something, and it printed that -/
def matched (e : Execution) : Bool :=
  match e.outcome.result with
  | .ok stdout => agrees e.program stdout
  | .error _ => false

/-- the program's own events, and behind them that its output was verified if it was -/
def reported (e : Execution) : List Event :=
  e.outcome.events ++ if e.matched then [.verified e.program.filename] else []

end Execution

section
variable (launch : Launcher) (registry : Registry) (s : Setting)

/-- why a program fails in a world, if it does: nothing runs its language, its strategy fails, or it prints the wrong
text -/
def failure? (p : Program) (w : World) : Option Failure :=
  match registry.get? p.language with
  | none => some (Cause.unsupportedLanguage p.filename p.lineStart p.language)
  | some strategy =>
    match (strategy.execute launch p s w).result with
    | .error f => some f
    | .ok stdout =>
      match Program.verify p.filename p.output stdout with
      | .error cause => some cause
      | .ok () => none

/-- the world that a program leaves; nothing is done for a program of no known language -/
def left (w : World) (p : Program) : World :=
  match registry.get? p.language with
  | none => w
  | some strategy => (strategy.execute launch p s w).world

/-- the executions of programs one after the other, each in the world that the ones before have left -/
def executions : List Program → World → List Execution
  | [], _ => []
  | p :: ps, w =>
    match registry.get? p.language with
    | none => executions ps w
    | some strategy => ⟨p, w, strategy.execute launch p s w⟩ :: executions ps (left launch registry s w p)

/-- the world that program `k` of a list finds -/
def found (programs : List Program) (w : World) (k : ℕ) : World := (programs.take k).foldl (left launch registry s) w

end

variable {launch : Launcher} {registry : Registry} {s : Setting}

/-! ## One program -/

theorem executions_cons (p : Program) (ps : List Program) (w : World) :
    executions launch registry s (p :: ps) w =
      executions launch registry s [p] w ++ executions launch registry s ps (left launch registry s w p) := by
  simp only [executions, left]
  cases registry.get? p.language <;> rfl

/-- what is done with a printed text: it is compared, and reported if there was something to compare it with -/
theorem verify_then_report (p : Program) (stdout : Text) (w : World) :
    (do Action.ofResult ((Program.verify p.filename p.output stdout).mapError Failure.ofCause)
        if p.output.isSome then Action.report (.verified p.filename) : Action Unit) w =
      ⟨if agrees p stdout then [.verified p.filename] else [], w,
        (Program.verify p.filename p.output stdout).mapError Failure.ofCause⟩ := by
  unfold agrees
  cases ho : p.output with
  | none => rfl
  | some expected =>
    by_cases he : Text.trim expected = Text.trim stdout
    · simp [Program.verify, he]
      rfl
    · simp [Program.verify, he]
      rfl

/-- **One program.** It makes its execution, if its language is known, and fails as `failure?` tells. -/
theorem runProgram_eq (p : Program) (w : World) :
    runProgram launch registry s p w =
      ⟨(executions launch registry s [p] w).flatMap Execution.reported, left launch registry s w p,
        match failure? launch registry s p w with
        | some f => .error f
        | none => .ok ()⟩ := by
  cases hget : registry.get? p.language with
  | none =>
    simp only [runProgram, executions, left, failure?, hget]
    rfl
  | some strategy =>
    simp only [runProgram, executions, left, failure?, hget]
    cases hr : (strategy.execute launch p s w).result with
    | error f =>
      rw [Action.bind_of_error hr]
      simp [Execution.reported, Execution.matched, hr]
    | ok stdout =>
      rw [Action.bind_of_ok hr, verify_then_report]
      cases hv : Program.verify p.filename p.output stdout <;>
        simp [Execution.reported, Execution.matched, hr, hv, Except.mapError]

/-! ## A list of programs -/

theorem runAll_cons_of_failure {p : Program} {w : World} {f : Failure} (h : failure? launch registry s p w = some f)
    (ps : List Program) :
    runAll launch registry s (p :: ps) w =
      ⟨(executions launch registry s [p] w).flatMap Execution.reported, left launch registry s w p,
        .error (f.during (.runProgram p.filename p.lineStart))⟩ := by
  have hr : ((runProgram launch registry s p).during (.runProgram p.filename p.lineStart) w).result =
      .error (f.during (.runProgram p.filename p.lineStart)) := by
    simp only [Action.during, runProgram_eq, h]
    rfl
  rw [runAll, Action.bind_of_error hr]
  simp only [Action.during, runProgram_eq]

theorem runAll_cons_of_pass {p : Program} {w : World} (h : failure? launch registry s p w = none)
    (ps : List Program) :
    runAll launch registry s (p :: ps) w =
      let rest := runAll launch registry s ps (left launch registry s w p)
      ⟨(executions launch registry s [p] w).flatMap Execution.reported ++ rest.events, rest.world, rest.result⟩ := by
  have hr : ((runProgram launch registry s p).during (.runProgram p.filename p.lineStart) w).result = .ok () := by
    simp only [Action.during, runProgram_eq, h]
    rfl
  rw [runAll, Action.bind_of_ok hr]
  simp only [Action.during, runProgram_eq]

/-- program `k` is the first that fails, for the reason `f` -/
structure FirstFailure (launch : Launcher) (registry : Registry) (s : Setting) (programs : List Program) (w : World)
    (k : ℕ) (p : Program) (f : Failure) : Prop where
  program : programs[k]? = some p
  fails : failure? launch registry s p (found launch registry s programs w k) = some f
  passes : ∀ j q, j < k → programs[j]? = some q →
    failure? launch registry s q (found launch registry s programs w j) = none

/-- no program fails -/
def AllPass (launch : Launcher) (registry : Registry) (s : Setting) (programs : List Program) (w : World) : Prop :=
  ∀ j q, programs[j]? = some q → failure? launch registry s q (found launch registry s programs w j) = none

theorem AllPass.tail {p : Program} {ps : List Program} {w : World}
    (h : AllPass launch registry s (p :: ps) w) : AllPass launch registry s ps (left launch registry s w p) :=
  fun j q hq => h (j + 1) q hq

theorem FirstFailure.tail {p q : Program} {ps : List Program} {w : World} {k : ℕ} {f : Failure}
    (h : FirstFailure launch registry s (q :: ps) w (k + 1) p f) :
    FirstFailure launch registry s ps (left launch registry s w q) k p f :=
  ⟨h.program, h.fails, fun j x hj hx => h.passes (j + 1) x (by omega) hx⟩

theorem AllPass.cons {q : Program} {ps : List Program} {w : World} (hq : failure? launch registry s q w = none)
    (h : AllPass launch registry s ps (left launch registry s w q)) : AllPass launch registry s (q :: ps) w := by
  intro j x hx
  cases j with
  | zero =>
    obtain rfl : q = x := Option.some.inj hx
    exact hq
  | succ j => exact h j x hx

theorem FirstFailure.cons {p q : Program} {ps : List Program} {w : World} {k : ℕ} {f : Failure}
    (hq : failure? launch registry s q w = none)
    (h : FirstFailure launch registry s ps (left launch registry s w q) k p f) :
    FirstFailure launch registry s (q :: ps) w (k + 1) p f := by
  refine ⟨h.program, h.fails, fun j x hj hx => ?_⟩
  cases j with
  | zero =>
    obtain rfl : q = x := Option.some.inj hx
    exact hq
  | succ j => exact h.passes j x (by omega) hx

/-- either no program fails, or one is the first to fail -/
theorem allPass_or_firstFailure (programs : List Program) (w : World) :
    AllPass launch registry s programs w ∨ ∃ k p f, FirstFailure launch registry s programs w k p f := by
  induction programs generalizing w with
  | nil => exact Or.inl fun j q hq => absurd hq (by simp)
  | cons q ps ih =>
    cases hq : failure? launch registry s q w with
    | some f => exact Or.inr ⟨0, q, f, rfl, hq, fun j x hj _ => absurd hj (by omega)⟩
    | none =>
      rcases ih (left launch registry s w q) with hall | ⟨k, p, f, hk⟩
      · exact Or.inl (hall.cons hq)
      · exact Or.inr ⟨k + 1, p, f, hk.cons hq⟩

theorem runAll_of_allPass {programs : List Program} {w : World} (h : AllPass launch registry s programs w) :
    runAll launch registry s programs w =
      ⟨(executions launch registry s programs w).flatMap Execution.reported,
        programs.foldl (left launch registry s) w, .ok ()⟩ := by
  induction programs generalizing w with
  | nil => rfl
  | cons p ps ih =>
    have hp : failure? launch registry s p w = none := h 0 p rfl
    rw [runAll_cons_of_pass hp, ih h.tail, executions_cons p ps, List.flatMap_append]
    rfl

theorem runAll_of_firstFailure {programs : List Program} {w : World} {k : ℕ} {p : Program} {f : Failure}
    (h : FirstFailure launch registry s programs w k p f) :
    runAll launch registry s programs w =
      ⟨(executions launch registry s (programs.take (k + 1)) w).flatMap Execution.reported,
        (programs.take (k + 1)).foldl (left launch registry s) w,
        .error (f.during (.runProgram p.filename p.lineStart))⟩ := by
  induction programs generalizing w k with
  | nil => exact absurd h.program (by simp)
  | cons q ps ih =>
    cases k with
    | zero =>
      obtain rfl : q = p := Option.some.inj h.program
      have hq : failure? launch registry s q w = some f := h.fails
      rw [runAll_cons_of_failure hq]
      rfl
    | succ k =>
      have hq : failure? launch registry s q w = none := h.passes 0 q (by omega) rfl
      rw [runAll_cons_of_pass hq, ih h.tail, List.take_succ_cons, executions_cons q (ps.take (k + 1)),
        List.flatMap_append]
      rfl

/-! ## Which programs are executed -/

theorem executed_of_pass {p : Program} {w : World} (h : failure? launch registry s p w = none) :
    (executions launch registry s [p] w).map Execution.program = [p] := by
  unfold failure? at h
  unfold executions
  cases hget : registry.get? p.language with
  | none => simp [hget] at h
  | some strategy => rfl

theorem executed_of_allPass {programs : List Program} {w : World} (h : AllPass launch registry s programs w) :
    (executions launch registry s programs w).map Execution.program = programs := by
  induction programs generalizing w with
  | nil => rfl
  | cons p ps ih =>
    have hp : failure? launch registry s p w = none := h 0 p rfl
    rw [executions_cons, List.map_append, executed_of_pass hp, ih h.tail]
    rfl

theorem executed_of_firstFailure {programs : List Program} {w : World} {k : ℕ} {p : Program} {f : Failure}
    (h : FirstFailure launch registry s programs w k p f) :
    (executions launch registry s (programs.take (k + 1)) w).map Execution.program =
      programs.take k ++ if (registry.get? p.language).isSome then [p] else [] := by
  induction programs generalizing w k with
  | nil => exact absurd h.program (by simp)
  | cons q ps ih =>
    cases k with
    | zero =>
      obtain rfl : q = p := Option.some.inj h.program
      simp only [List.take_succ_cons, List.take_zero, executions]
      cases registry.get? q.language <;> rfl
    | succ k =>
      have hq : failure? launch registry s q w = none := h.passes 0 q (by omega) rfl
      rw [List.take_succ_cons, executions_cons, List.map_append, executed_of_pass hq, ih h.tail, List.take_succ_cons]
      rfl

/-- what a program does depends on the strategy of its own language only -/
theorem same_of_strategy {registry' : Registry} {p : Program}
    (h : registry'.get? p.language = registry.get? p.language) (w : World) :
    failure? launch registry' s p w = failure? launch registry s p w ∧
      left launch registry' s w p = left launch registry s w p ∧
      executions launch registry' s [p] w = executions launch registry s [p] w := by
  simp only [failure?, left, executions, h, and_self]

/-- what stands behind the first failure is not looked at -/
theorem runAll_later {registry' : Registry} {programs : List Program} {w : World} {k : ℕ} {p : Program} {f : Failure}
    (h : FirstFailure launch registry s programs w k p f) (later : List Program)
    (hreg : ∀ q ∈ programs.take (k + 1), registry'.get? q.language = registry.get? q.language) :
    runAll launch registry' s (programs.take (k + 1) ++ later) w = runAll launch registry s programs w := by
  induction programs generalizing w k with
  | nil => exact absurd h.program (by simp)
  | cons q ps ih =>
    rw [List.take_succ_cons] at hreg ⊢
    obtain ⟨hfail, hleft, hexec⟩ := @same_of_strategy launch registry s registry' q (hreg q List.mem_cons_self) w
    cases k with
    | zero =>
      obtain rfl : q = p := Option.some.inj h.program
      have hq : failure? launch registry s q w = some f := h.fails
      rw [List.cons_append, runAll_cons_of_failure hq, runAll_cons_of_failure (hfail.trans hq), hleft, hexec]
    | succ k =>
      have hq : failure? launch registry s q w = none := h.passes 0 q (by omega) rfl
      rw [List.cons_append, runAll_cons_of_pass hq, runAll_cons_of_pass (hfail.trans hq), hleft, hexec,
        ih h.tail fun x hx => hreg x (List.mem_cons_of_mem q hx)]

/-! ## The batch in its directory -/

theorem run_eq {dir : Option Path} {limit : Option ℕ} {temporary : Provider} {w : World} {d : RunDirectory}
    (h : (enterWith temporary dir w).result = .ok d) (programs : List Program) :
    run launch registry programs dir limit temporary w =
      let o := runAll launch registry ⟨d.path, limit⟩ programs (enterWith temporary dir w).world
      ⟨.directory d.path d.ephemeral :: o.events, d.leaveWith temporary o.world, o.result⟩ := by
  rw [run, Action.bind_of_ok h, RunDirectory.silent_enterWith temporary dir w]
  simp only [Action.andAfter, List.nil_append]
  rw [@Action.bind_of_ok _ _ _ _ _ () rfl]
  rfl

/-- **A batch is the run of its longest passing prefix.** -/
theorem batch_is_passing_prefix (launch : Launcher) (registry : Registry) (programs : List Program) (dir : Option Path)
    (limit : Option ℕ) (temporary : Provider) (w : World) (d : RunDirectory)
    (h : (enterWith temporary dir w).result = .ok d) :
    let s : Setting := ⟨d.path, limit⟩
    let start := (enterWith temporary dir w).world
    (AllPass launch registry s programs start ∨ ∃ k p f, FirstFailure launch registry s programs start k p f) ∧
    (∀ k p f, FirstFailure launch registry s programs start k p f →
      let made := executions launch registry s (programs.take (k + 1)) start
      made.map Execution.program = programs.take k ++ (if (registry.get? p.language).isSome then [p] else []) ∧
      run launch registry programs dir limit temporary w =
        ⟨.directory d.path d.ephemeral :: made.flatMap Execution.reported,
          d.leaveWith temporary ((programs.take (k + 1)).foldl (left launch registry s) start),
          .error (f.during (.runProgram p.filename p.lineStart))⟩ ∧
      ∀ (registry' : Registry) (later : List Program),
        (∀ q ∈ programs.take (k + 1), registry'.get? q.language = registry.get? q.language) →
        run launch registry' (programs.take (k + 1) ++ later) dir limit temporary w =
          run launch registry programs dir limit temporary w) ∧
    (AllPass launch registry s programs start →
      let made := executions launch registry s programs start
      made.map Execution.program = programs ∧
      run launch registry programs dir limit temporary w =
        ⟨.directory d.path d.ephemeral :: made.flatMap Execution.reported,
          d.leaveWith temporary (programs.foldl (left launch registry s) start), .ok ()⟩) := by
  refine ⟨allPass_or_firstFailure programs _, fun k p f hf => ⟨executed_of_firstFailure hf, ?_, ?_⟩,
    fun ha => ⟨executed_of_allPass ha, ?_⟩⟩
  · rw [run_eq h, runAll_of_firstFailure hf]
  · intro registry' later hreg
    rw [run_eq h, run_eq h, runAll_later hf later hreg]
  · rw [run_eq h, runAll_of_allPass ha]

/-! ## A batch that stops in the middle -/

/-- a strategy that prints whether it has run before, which it knows by a file that it leaves -/
def tally : Strategy := .supplied fun p s => do
  let path := Path.join s.workdir "ran".toList
  let again ← Action.look (·.isFile path)
  Action.change (·.write path [])
  Action.report (.run p.filename)
  return if again then "again\n".toList else "first\n".toList

/-- a world with nothing but a place for temporary directories -/
def bareWorld : World := { entries := [{ place := World.temporaryPlace, entry := .directory }] }

/-- a program that must print something, one that need not, one of no known language, and one behind it -/
def fourPrograms : List Program :=
  [⟨3, 3, "a.sh".toList, "sh".toList, [], some "first".toList⟩, ⟨6, 6, "b.sh".toList, "sh".toList, [], none⟩,
    ⟨9, 9, "c.rb".toList, "rb".toList, [], none⟩, ⟨12, 12, "d.sh".toList, "sh".toList, [], some "again".toList⟩]

theorem batch_is_passing_prefix_stopped :
    let launch : Launcher := fun _ _ w => (w, .error .noEntry)
    let registry := Registry.empty.register "sh".toList tally
    let d : RunDirectory := ⟨"/tmp/doctest000000".toList, "/".toList, true⟩
    let start := (RunDirectory.enter none bareWorld).world
    let f : Failure := Cause.unsupportedLanguage "c.rb".toList 9 "rb".toList
    let o := run launch registry fourPrograms none none .system bareWorld
    (RunDirectory.enter none bareWorld).result = .ok d ∧
      FirstFailure launch registry ⟨d.path, none⟩ fourPrograms start 2
        ⟨9, 9, "c.rb".toList, "rb".toList, [], none⟩ f ∧
      o.events = [.directory d.path true, .run "a.sh".toList, .verified "a.sh".toList, .run "b.sh".toList] ∧
      o.world = { bareWorld with temporaries := 1 } ∧
      o.result = .error (f.during (.runProgram "c.rb".toList 9)) := by
  intro launch registry d start f o
  have henter : (RunDirectory.enter none bareWorld).result = .ok d := by decide +kernel
  have hfirst : FirstFailure launch registry ⟨d.path, none⟩ fourPrograms start 2
      ⟨9, 9, "c.rb".toList, "rb".toList, [], none⟩ f := by
    refine ⟨rfl, by decide +kernel, fun j q hj hq => ?_⟩
    interval_cases j
    · obtain rfl : _ = q := Option.some.inj hq
      decide +kernel
    · obtain rfl : _ = q := Option.some.inj hq
      decide +kernel
  obtain ⟨-, hstop, -⟩ := batch_is_passing_prefix launch registry fourPrograms none none .system bareWorld d henter
  obtain ⟨-, hrun, -⟩ := hstop 2 _ f hfirst
  refine ⟨henter, hfirst, ?_, ?_, ?_⟩
  · show o.events = _
    rw [show o = _ from hrun]
    decide +kernel
  · rw [show o = _ from hrun]
    decide +kernel
  · rw [show o = _ from hrun]

end Batch
end RunnableDocs
