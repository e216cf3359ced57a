/-
What actions fail with.

`FailsOnly P x`: whatever the world is, if `x` fails then for a cause of which `P` holds. Sequencing, the activities
around an action and what is done after it keep this (`FailsOnly.bind`, `FailsOnly.during`, `FailsOnly.andAfter`). Each
part of the program has its own causes: going into a directory is refused by the system only; a strategy that is not
supplied by a caller fails as `Strategy.Raises` tells, the search for a doc file as `Locate.Raises` does, and the
reading of a configuration as `Config.Raises` does.
-/
import Mathlib.Tactic
import RunnableDocs.CommandLine

namespace RunnableDocs

namespace Action
variable {α β : Type} {P Q : Cause → Prop}

/-- whatever the world is, the action fails only for such causes -/
def FailsOnly (P : Cause → Prop) (x : Action α) : Prop := ∀ w f, (x w).result = .error f → P f.cause

theorem FailsOnly.mono {x : Action α} (hx : x.FailsOnly P) (h : ∀ c, P c → Q c) : x.FailsOnly Q :=
  fun w f hf => h f.cause (hx w f hf)

/-- what comes second only matters for what the first can give -/
theorem FailsOnly.bind {x : Action α} {f : α → Action β} (hx : x.FailsOnly P)
    (hf : ∀ w a, (x w).result = .ok a → (f a).FailsOnly P) : (x >>= f).FailsOnly P := by
  intro w e he
  cases h : (x w).result with
  | error e' =>
    rw [bind_of_error h] at he
    obtain rfl : e' = e := Except.error.inj he
    exact hx w e' h
  | ok a =>
    rw [bind_of_ok h] at he
    exact hf w a h (x w).world e he

theorem FailsOnly.during {x : Action α} (hx : x.FailsOnly P) (activity : Activity) :
    (x.during activity).FailsOnly P := by
  intro w f hf
  cases h : (x w).result with
  | error e =>
    obtain rfl : e.during activity = f := by simpa [Action.during, h, Except.mapError] using hf
    exact hx w e h
  | ok a => simp [Action.during, h, Except.mapError] at hf

theorem FailsOnly.andAfter {x : Action α} (hx : x.FailsOnly P) (g : World → World) : (x.andAfter g).FailsOnly P := hx

theorem failsOnly_pure (a : α) : (Pure.pure a : Action α).FailsOnly P := fun _ _ h => nomatch h

theorem failsOnly_report (e : Event) : (report e).FailsOnly P := fun _ _ h => nomatch h

theorem failsOnly_look (f : World → α) : (look f).FailsOnly P := fun _ _ h => nomatch h

theorem failsOnly_fail {c : Cause} (h : P c) : (fail (Failure.ofCause c) : Action α).FailsOnly P := by
  intro w f hf
  obtain rfl := Except.error.inj hf
  exact h

theorem failsOnly_ofResult {r : Except Failure α} (h : ∀ f, r = .error f → P f.cause) : (ofResult r).FailsOnly P :=
  fun _ f hf => h f hf

/-! ## Requests to the system -/

section
variable (hsys : ∀ e, P (.system e))
include hsys

theorem ofSystem_of_mapError {r : Except SystemError α} {f : Failure} (h : r.mapError Failure.ofSystem = .error f) :
    P f.cause := by
  cases r with
  | error e =>
    obtain rfl := Except.error.inj h
    exact hsys e
  | ok a => cases h

theorem failsOnly_inspect (g : World → Except SystemError α) : (inspect g).FailsOnly P :=
  fun _ _ h => ofSystem_of_mapError hsys h

theorem failsOnly_attempt (g : World → World × Except SystemError Unit) : (attempt g).FailsOnly P :=
  fun _ _ h => ofSystem_of_mapError hsys h

theorem failsOnly_change (g : World → Except SystemError World) : (change g).FailsOnly P := by
  intro w f hf
  cases h : g w with
  | error e =>
    obtain rfl : Failure.ofSystem e = f := by simpa [change, h] using hf
    exact hsys e
  | ok w' => simp [change, h] at hf

theorem failsOnly_command (launch : Launcher) (c : Command) (limit : Option Nat) :
    (c.run launch limit).FailsOnly P := by
  intro w f hf
  rcases h : launch c limit w with ⟨w', e | ended⟩
  · obtain rfl : Failure.during (.spawn c.display) e = f := by simpa [Command.run, h] using hf
    exact hsys e
  · simp [Command.run, h] at hf

theorem failsOnly_enterWith (temporary : RunDirectory.Provider) (dir : Option Path) :
    (RunDirectory.enterWith temporary dir).FailsOnly P := by
  refine ((failsOnly_inspect hsys _).during _).bind fun _ origin _ => ?_
  cases dir with
  | none =>
    have hmake : (RunDirectory.makeTemporary temporary).FailsOnly P := by
      intro w f hf
      cases h : temporary.make w with
      | error e =>
        obtain rfl : Failure.ofSystem e = f := by simpa [RunDirectory.makeTemporary, h] using hf
        exact hsys e
      | ok made => simp [RunDirectory.makeTemporary, h] at hf
    refine (hmake.during _).bind fun _ path _ => ?_
    have henter : (RunDirectory.enterTemporary temporary path).FailsOnly P := by
      intro w f hf
      refine (failsOnly_change hsys (·.changeDirectory path)).during (.changeDirectory path) w f ?_
      simp only [RunDirectory.enterTemporary] at hf
      split at hf
      · exact hf
      · exact hf
    exact henter.bind fun _ _ _ => failsOnly_pure _
  | some dir =>
    refine ((failsOnly_attempt hsys _).during _).bind fun _ _ _ => ?_
    exact ((failsOnly_change hsys _).during _).bind fun _ _ _ => failsOnly_pure _

end

end Action

open RunnableDocs.Action (FailsOnly)

/-! ## Strategies -/

namespace Strategy

/-- the causes that a strategy fails for which no caller has supplied -/
def Raises : Cause → Prop
  | .system _ | .emptyCommand | .build _ _ | .missingExecutable _ | .run _ _ => True
  | _ => False

theorem failsOnly_writeProgram (s : Setting) (p : Program) : (writeProgram s p).FailsOnly Raises :=
  (Action.failsOnly_change (fun _ => trivial) _).during _

theorem failsOnly_commandOf (parts : List Text) : (commandOf parts).FailsOnly Raises := by
  unfold commandOf
  split
  · exact Action.failsOnly_pure _
  · exact Action.failsOnly_fail trivial

/-- a child that does not succeed is a failure of the kind that its caller names -/
theorem failsOnly_stdoutOf {s : Setting} {o : CommandOutput} {failed : Text → Cause} (h : ∀ t, Raises (failed t)) :
    (Action.ofResult (stdoutOf s o failed)).FailsOnly Raises := by
  refine Action.failsOnly_ofResult fun f hf => ?_
  unfold stdoutOf at hf
  split at hf
  · cases hf
  · obtain rfl := Except.error.inj hf
    exact h _

theorem failsOnly_runInterpreted (launch : Launcher) (parts : List Text) (p : Program) (s : Setting) :
    (runInterpreted launch parts p s).FailsOnly Raises := by
  refine (failsOnly_writeProgram s p).bind fun _ _ _ => ?_
  refine (failsOnly_commandOf parts).bind fun _ command _ => ?_
  refine (Action.failsOnly_report _).bind fun _ _ _ => ?_
  refine ((Action.failsOnly_command (fun _ => trivial) launch _ _).during _).bind fun _ output _ => ?_
  exact failsOnly_stdoutOf fun _ => trivial

theorem failsOnly_runExecutable (launch : Launcher) (p : Program) (s : Setting) :
    (runExecutable launch p s).FailsOnly Raises := by
  refine (Action.failsOnly_look _).bind fun _ found _ => ?_
  split
  · exact Action.failsOnly_fail trivial
  · refine (Action.failsOnly_report _).bind fun _ _ _ => ?_
    refine ((Action.failsOnly_command (fun _ => trivial) launch _ _).during _).bind fun _ output _ => ?_
    exact failsOnly_stdoutOf fun _ => trivial

theorem failsOnly_buildAndRun (launch : Launcher) (parts : List Text) (p : Program) (s : Setting) :
    (buildAndRun launch parts p s).FailsOnly Raises := by
  refine (failsOnly_writeProgram s p).bind fun _ _ _ => ?_
  refine (failsOnly_commandOf parts).bind fun _ command _ => ?_
  refine (Action.failsOnly_report _).bind fun _ _ _ => ?_
  refine ((Action.failsOnly_command (fun _ => trivial) launch _ _).during _).bind fun _ output _ => ?_
  split
  · exact failsOnly_runExecutable launch p s
  · exact Action.failsOnly_fail trivial

/-- a strategy of the library fails as `Raises` tells, one that a caller supplies as its behaviour does -/
theorem failsOnly_execute {launch : Launcher} {P : Cause → Prop} (hown : ∀ c, Raises c → P c) (strategy : Strategy)
    (hsupplied : ∀ behaviour, strategy = .supplied behaviour → ∀ p s, (behaviour p s).FailsOnly P) (p : Program)
    (s : Setting) : (strategy.execute launch p s).FailsOnly P := by
  cases strategy with
  | interpreted command => exact (failsOnly_runInterpreted launch command p s).mono hown
  | buildThenRun build => exact (failsOnly_buildAndRun launch build p s).mono hown
  | supplied behaviour => exact hsupplied behaviour rfl p s

end Strategy

/-! ## The doc file and the configuration -/

namespace Locate

/-- the causes that the look for workspace roots fails for -/
def RaisesForRoots : Cause → Prop
  | .system _ | .emptyRootCommand | .rootCommandFailed _ _ | .noWorkspaceRoot _ => True
  | _ => False

/-- the causes that the search for a doc file fails for -/
def Raises : Cause → Prop
  | .system _ | .emptyRootCommand | .rootCommandFailed _ _ | .noWorkspaceRoot _ | .docFileNotFound _ => True
  | _ => False

theorem raises_of_raisesForRoots {c : Cause} (h : RaisesForRoots c) : Raises c := by
  cases c <;> trivial

theorem failsOnly_workspaceRoots (launch : Launcher) (l : Locate) :
    (l.workspaceRoots launch).FailsOnly RaisesForRoots := by
  unfold workspaceRoots
  split
  · exact Action.failsOnly_fail trivial
  · refine ((Action.failsOnly_command (fun _ => trivial) launch _ _).during _).bind fun _ output _ => ?_
    split_ifs
    · exact Action.failsOnly_fail trivial
    · exact Action.failsOnly_fail trivial
    · exact Action.failsOnly_pure _

theorem failsOnly_findDocFile (launch : Launcher) (l : Locate) (package : Text) :
    (l.findDocFile launch package).FailsOnly Raises := by
  refine ((failsOnly_workspaceRoots launch l).mono fun _ => raises_of_raisesForRoots).bind fun _ roots _ => ?_
  intro w f hf
  -- nothing is done between the look at the world and the choice
  have hchoose : choose (l.candidates package roots) w = .error f := hf
  unfold choose at hchoose
  split at hchoose
  · cases hchoose
  · obtain rfl := Except.error.inj hchoose
    trivial

end Locate

namespace Config

/-- the causes that the reading of a configuration fails for -/
def Raises : Cause → Prop
  | .system _ | .configSyntax | .config _ | .configNotFound _ => True
  | _ => False

theorem raises_of_validate {config : Config} {f : Failure} (h : config.validate = .error f) : Raises f.cause := by
  unfold validate at h
  split at h
  · obtain rfl := Except.error.inj h
    trivial
  · cases h

theorem raises_of_parse {document : Text} {f : Failure} (h : parse document = .error f) : Raises f.cause := by
  unfold parse at h
  split at h
  · obtain rfl := Except.error.inj h
    trivial
  · rename_i config _
    cases hv : config.validate with
    | error e =>
      rw [hv] at h
      obtain rfl := Except.error.inj h
      exact raises_of_validate hv
    | ok _ =>
      rw [hv] at h
      cases h

theorem failsOnly_load (path : Path) : (load path).FailsOnly Raises := by
  intro w f hf
  unfold load at hf
  split at hf
  · refine FailsOnly.bind ((Action.failsOnly_inspect (fun _ => trivial) _).during _) (fun _ text _ => ?_) w f hf
    exact (Action.failsOnly_ofResult fun _ => raises_of_parse).during _
  · refine FailsOnly.bind (Action.failsOnly_ofResult fun _ => raises_of_validate) (fun _ _ _ => ?_) w f hf
    exact Action.failsOnly_pure _

end Config

theorem CommandLine.failsOnly_loadConfig (path : Option Path) : (loadConfig path).FailsOnly Config.Raises := by
  cases path with
  | none => exact Config.failsOnly_load configFile
  | some path =>
    refine (Action.failsOnly_look _).bind fun _ found _ => ?_
    split
    · exact Config.failsOnly_load path
    · exact Action.failsOnly_fail trivial

/-! ## A batch -/

namespace Batch
variable {launch : Launcher} {registry : Registry} {s : Setting} {P : Cause → Prop}

/-- a program whose language is known fails as its strategy does, or for what it prints -/
theorem failsOnly_runProgram {p : Program} (hmismatch : ∀ f e a, P (.outputMismatch f e a))
    (hknown : (registry.get? p.language).isSome)
    (hstrategy : ∀ strategy, registry.get? p.language = some strategy → (strategy.execute launch p s).FailsOnly P) :
    (runProgram launch registry s p).FailsOnly P := by
  obtain ⟨strategy, hget⟩ := Option.isSome_iff_exists.1 hknown
  simp only [runProgram, hget]
  refine (hstrategy strategy hget).bind fun _ stdout _ => ?_
  refine FailsOnly.bind (Action.failsOnly_ofResult fun f hf => ?_) fun _ _ _ => ?_
  · unfold Program.verify at hf
    split at hf
    · cases hf
    · split_ifs at hf
      · cases hf
      · obtain rfl := Except.error.inj hf
        exact hmismatch _ _ _
  · split
    · exact Action.failsOnly_report _
    · exact Action.failsOnly_pure _

theorem failsOnly_runAll {programs : List Program} (h : ∀ p ∈ programs, (runProgram launch registry s p).FailsOnly P) :
    (runAll launch registry s programs).FailsOnly P := by
  induction programs with
  | nil => exact Action.failsOnly_pure _
  | cons p ps ih =>
    have hp := h p List.mem_cons_self
    have hps := ih fun q hq => h q (List.mem_cons_of_mem p hq)
    exact (hp.during _).bind fun _ _ _ => hps

theorem failsOnly_run {programs : List Program} {dir : Option Path} {limit : Option Nat}
    {temporary : RunDirectory.Provider} (hsys : ∀ e, P (.system e))
    (h : ∀ s, ∀ p ∈ programs, (runProgram launch registry s p).FailsOnly P) :
    (run launch registry programs dir limit temporary).FailsOnly P := by
  refine (Action.failsOnly_enterWith hsys temporary dir).bind fun _ directory _ => FailsOnly.andAfter ?_ _
  exact (Action.failsOnly_report _).bind fun _ _ _ => failsOnly_runAll (h _)

end Batch
end RunnableDocs
