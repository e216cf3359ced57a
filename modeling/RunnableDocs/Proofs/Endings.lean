/-
How a program that a strategy of the library runs can end.

The program is written, its command is started, and with a strategy that builds what the build left is started too. Each
step can fail: the file is not written, there is no command, a child is not started, or it ends badly. `Strategy.Ends`
lists all endings, each with the events, the world and the result that it has, and `Strategy.ends_iff` states that a
program ends exactly so.
-/
import RunnableDocs.Proofs.Entering
import RunnableDocs.Registry

namespace RunnableDocs

open RunnableDocs.Action (bind_of_quiet bind_of_refused)

/-! ## Children -/

/-- a child that was killed because its time was over, or that ended with a status other than 0 -/
def Ended.Failed (e : Ended) : Prop := e.timedOut = true ∨ e.status.raw ≠ 0

theorem success_ofEnded (e : Ended) : (CommandOutput.ofEnded e).success = true ↔ ¬ e.Failed := by
  cases ht : e.timedOut <;> simp [CommandOutput.success, CommandOutput.ofEnded, WaitStatus.success, Ended.Failed, ht]

instance (e : Ended) : Decidable e.Failed := inferInstanceAs (Decidable (_ ∨ _))

/-- what is told of a failed child: what it complained of, and before it, if its time was over under a limit, a note of
that with the limit in whole seconds -/
def Ended.told (e : Ended) (limit : Option ℕ) : Text :=
  (if e.timedOut = true ∧ limit.isSome then s!"timed out after {limit.getD 0 / 1000}s\n".toList else []) ++
    Text.decode e.stderr

theorem failureDetail_ofEnded (e : Ended) (limit : Option ℕ) :
    (CommandOutput.ofEnded e).failureDetail limit = e.told limit := by
  cases limit with
  | none => simp [CommandOutput.failureDetail, CommandOutput.ofEnded, Ended.told]
  | some ms => cases ht : e.timedOut <;> simp [CommandOutput.failureDetail, CommandOutput.ofEnded, Ended.told, ht]

/-- how it is told that a command is not started -/
def Command.refusal (shown : Text) (c : Command) (e : SystemError) : Failure :=
  ((Failure.ofSystem e).during (.spawn c.display)).during (.runCommand shown)

theorem Command.run_of_ok {launch : Launcher} {c : Command} {limit : Option ℕ} {w w' : World} {ended : Ended}
    (h : launch c limit w = (w', .ok ended)) : c.run launch limit w = ⟨[], w', .ok (.ofEnded ended)⟩ := by
  simp only [Command.run, h]

theorem Command.run_of_error {launch : Launcher} {c : Command} {limit : Option ℕ} {w left : World} {e : SystemError}
    (h : launch c limit w = (left, .error e)) (shown : Text) :
    (c.run launch limit).during (.runCommand shown) w = ⟨[], left, .error (c.refusal shown e)⟩ := by
  simp only [Command.run, Action.during, h]
  rfl

theorem Action.report_bind {α : Type} (event : Event) (x : Unit → Action α) (w : World) :
    (report event >>= x) w = ⟨event :: (x () w).events, (x () w).world, (x () w).result⟩ := rfl

namespace Strategy
variable {launch : Launcher} {p : Program} {s : Setting} {parts : List Text} {w : World}

/-- where the program is written -/
def sourcePath (s : Setting) (p : Program) : Path := Path.join s.workdir p.filename

/-- where a build leaves what is run -/
def executablePath (s : Setting) (p : Program) : Path := Path.join s.workdir (executableName p.filename)

/-- what is started once something has been built -/
def executable (s : Setting) (p : Program) : Command := { program := executablePath s p, dir := some s.workdir }

/-- the command line that a program is given to -/
def rendered (parts : List Text) (p : Program) : Text :=
  [' '].intercalate ((parts ++ [p.filename]).map Command.shownPart)

theorem display_forFile {command : Command} (h : Command.ofParts? parts = some command) (s : Setting) (p : Program) :
    (forFile s p command).display = rendered parts p := by
  cases parts with
  | nil => cases h
  | cons program args =>
    obtain rfl := Option.some.inj h
    rfl

/-- how it is told that a program is not written -/
def unwritten (s : Setting) (p : Program) (e : SystemError) : Failure :=
  (Failure.ofSystem e).during (.writeFile (sourcePath s p))

theorem stdoutOf_of_failed {ended : Ended} (h : ended.Failed) (s : Setting) (failed : Text → Cause) :
    stdoutOf s (.ofEnded ended) failed = .error (failed (ended.told s.limit)) := by
  have hs : ¬ (CommandOutput.ofEnded ended).success = true := fun hs => (success_ofEnded ended).1 hs h
  rw [stdoutOf, if_neg hs, failureDetail_ofEnded]

theorem stdoutOf_of_not_failed {ended : Ended} (h : ¬ ended.Failed) (s : Setting) (failed : Text → Cause) :
    stdoutOf s (.ofEnded ended) failed = .ok (Text.decode ended.stdout) := by
  rw [stdoutOf, if_pos ((success_ofEnded ended).2 h)]
  rfl

/-! ## A program given to its command -/

/-- the program is given to no child: it is not written, there is no command, or that is not started -/
inductive Unstarted (launch : Launcher) (p : Program) (s : Setting) (parts : List Text) (w : World) : Prop
  | unwritten {e : SystemError} (h : w.write (sourcePath s p) (Text.encode p.code) = .error e)
  | empty {w' : World} (hw : w.write (sourcePath s p) (Text.encode p.code) = .ok w') (h : Command.ofParts? parts = none)
  | refused {w' : World} {command : Command} {e : SystemError}
      (hw : w.write (sourcePath s p) (Text.encode p.code) = .ok w') (hc : Command.ofParts? parts = some command)
      (h : (launch (forFile s p command) s.limit w').2 = .error e)

/-- the program is written and given to the command, which ends like this and leaves the world `left` -/
structure Started (launch : Launcher) (p : Program) (s : Setting) (parts : List Text) (w : World) (command : Command)
    (left : World) (ended : Ended) : Prop where
  ofParts : Command.ofParts? parts = some command
  launched : ∃ w', w.write (sourcePath s p) (Text.encode p.code) = .ok w' ∧
    launch (forFile s p command) s.limit w' = (left, .ok ended)

theorem unstarted_or_started (launch : Launcher) (p : Program) (s : Setting) (parts : List Text) (w : World) :
    Unstarted launch p s parts w ∨ ∃ command left ended, Started launch p s parts w command left ended := by
  cases hw : w.write (sourcePath s p) (Text.encode p.code) with
  | error e => exact Or.inl (.unwritten hw)
  | ok w' =>
    cases hc : Command.ofParts? parts with
    | none => exact Or.inl (.empty hw hc)
    | some command =>
      rcases hl : launch (forFile s p command) s.limit w' with ⟨left, e | ended⟩
      · exact Or.inl (.refused hw hc (by rw [hl]))
      · exact Or.inr ⟨command, left, ended, hc, w', hw, hl⟩

/-- the program written and given to a command, and then `k` done with how that ended -/
def given (launch : Launcher) (parts : List Text) (p : Program) (s : Setting) (event : Event)
    (k : Command → CommandOutput → Action Text) : Action Text := do
  writeProgram s p
  let command := forFile s p (← commandOf parts)
  Action.report event
  let output ← (command.run launch s.limit).during (.runCommand command.display)
  k command output

theorem runInterpreted_eq : runInterpreted launch parts p s =
    given launch parts p s (.run p.filename) fun c o => Action.ofResult (stdoutOf s o (.run c.display)) := rfl

theorem buildAndRun_eq : buildAndRun launch parts p s = given launch parts p s (.build p.filename) fun c o =>
    if o.success then runExecutable launch p s else Action.fail (Cause.build c.display (o.failureDetail s.limit)) := rfl

theorem writeProgram_of_ok {w' : World} (h : w.write (sourcePath s p) (Text.encode p.code) = .ok w') :
    writeProgram s p w = ⟨[], w', .ok ()⟩ := Action.change_of_ok h _

theorem commandOf_of_some {command : Command} (h : Command.ofParts? parts = some command) (w : World) :
    commandOf parts w = ⟨[], w, .ok command⟩ := by
  rw [commandOf, h]
  rfl

section
variable {event : Event} {k : Command → CommandOutput → Action Text}

theorem given_of_unwritten {e : SystemError} (h : w.write (sourcePath s p) (Text.encode p.code) = .error e) :
    given launch parts p s event k w = ⟨[], w, .error (unwritten s p e)⟩ :=
  bind_of_refused (Action.change_of_error h _)

theorem given_of_empty {w' : World} (hw : w.write (sourcePath s p) (Text.encode p.code) = .ok w')
    (h : Command.ofParts? parts = none) :
    given launch parts p s event k w = ⟨[], w', .error (Failure.ofCause .emptyCommand)⟩ := by
  have hcommand : commandOf parts w' = ⟨[], w', .error (Failure.ofCause .emptyCommand)⟩ := by
    rw [commandOf, h]
    rfl
  rw [given, bind_of_quiet (writeProgram_of_ok hw), bind_of_refused hcommand]

theorem given_of_refused {w' left : World} {command : Command} {e : SystemError}
    (hw : w.write (sourcePath s p) (Text.encode p.code) = .ok w') (hc : Command.ofParts? parts = some command)
    (h : launch (forFile s p command) s.limit w' = (left, .error e)) :
    given launch parts p s event k w =
      ⟨[event], left, .error ((forFile s p command).refusal (rendered parts p) e)⟩ := by
  rw [given, bind_of_quiet (writeProgram_of_ok hw), bind_of_quiet (commandOf_of_some hc w'), Action.report_bind,
    bind_of_refused (Command.run_of_error h _), display_forFile hc]

/-- what is done with a child that has ended comes after it was reported and run -/
theorem given_of_started {command : Command} {left : World} {ended : Ended}
    (h : Started launch p s parts w command left ended) :
    given launch parts p s event k w =
      let next := k (forFile s p command) (.ofEnded ended) left
      ⟨event :: next.events, next.world, next.result⟩ := by
  obtain ⟨hc, w', hw, hl⟩ := h
  rw [given, bind_of_quiet (writeProgram_of_ok hw), bind_of_quiet (commandOf_of_some hc w'), Action.report_bind,
    bind_of_quiet (Action.during_of_ok (Command.run_of_ok hl) rfl _)]

end

/-! ## What was built -/

/-- the name under which what was built is run -/
def shownExecutable (p : Program) : Text := '.' :: '/' :: executableName p.filename

/-- what was built is run -/
def runBuilt (launch : Launcher) (p : Program) (s : Setting) : Action Text := do
  let shown := '.' :: '/' :: executableName p.filename
  Action.report (.run (executableName p.filename))
  let output ← ((executable s p).run launch s.limit).during (.runCommand shown)
  Action.ofResult (stdoutOf s output (.run shown))

theorem runExecutable_eq : runExecutable launch p s = (do
    if !(← Action.look (·.isFile (executablePath s p))) then Action.fail (Cause.missingExecutable (executablePath s p))
    else runBuilt launch p s) := rfl

theorem runExecutable_of_missing (h : w.isFile (executablePath s p) = false) :
    runExecutable launch p s w = ⟨[], w, .error (Failure.ofCause (.missingExecutable (executablePath s p)))⟩ := by
  have hlook : Action.look (fun v : World => v.isFile (executablePath s p)) w = ⟨[], w, .ok false⟩ := by
    rw [Action.look, h]
  rw [runExecutable_eq, bind_of_quiet hlook]
  rfl

theorem runExecutable_of_isFile (h : w.isFile (executablePath s p) = true) :
    runExecutable launch p s w = runBuilt launch p s w := by
  have hlook : Action.look (fun v : World => v.isFile (executablePath s p)) w = ⟨[], w, .ok true⟩ := by
    rw [Action.look, h]
  rw [runExecutable_eq, bind_of_quiet hlook]
  rfl

theorem runBuilt_of_refused {left : World} {e : SystemError}
    (h : launch (executable s p) s.limit w = (left, .error e)) :
    runBuilt launch p s w =
      ⟨[.run (executableName p.filename)], left, .error ((executable s p).refusal (shownExecutable p) e)⟩ := by
  rw [runBuilt, Action.report_bind, bind_of_refused (Command.run_of_error h _)]
  rfl

theorem runBuilt_of_ended {left : World} {ended : Ended} (h : launch (executable s p) s.limit w = (left, .ok ended)) :
    runBuilt launch p s w =
      ⟨[.run (executableName p.filename)], left, stdoutOf s (.ofEnded ended) (.run (shownExecutable p))⟩ := by
  rw [runBuilt, Action.report_bind, bind_of_quiet (Action.during_of_ok (Command.run_of_ok h) rfl _)]
  rfl

/-! ## All endings -/

/-- the event that comes before the first child -/
def firstEvent (p : Program) : Language → Event
  | .interpreted _ => .run p.filename
  | .buildThenRun _ => .build p.filename

/-- the program is built, and the build leaves a world -/
def Built (launch : Launcher) (p : Program) (s : Setting) (parts : List Text) (w left : World) : Prop :=
  ∃ command ended, Started launch p s parts w command left ended ∧ ¬ ended.Failed

/-- the endings of a program, with what is reported, the world that is left, and the result -/
inductive Ends (launch : Launcher) (p : Program) (s : Setting) (w : World) : Language → Outcome Text → Prop
  | unwritten {l : Language} {e : SystemError} (h : w.write (sourcePath s p) (Text.encode p.code) = .error e) :
      Ends launch p s w l ⟨[], w, .error (unwritten s p e)⟩
  | empty {l : Language} {w' : World} (hw : w.write (sourcePath s p) (Text.encode p.code) = .ok w')
      (h : Command.ofParts? l.command = none) :
      Ends launch p s w l ⟨[], w', .error (Failure.ofCause .emptyCommand)⟩
  | refused {l : Language} {w' left : World} {command : Command} {e : SystemError}
      (hw : w.write (sourcePath s p) (Text.encode p.code) = .ok w') (hc : Command.ofParts? l.command = some command)
      (h : launch (forFile s p command) s.limit w' = (left, .error e)) :
      Ends launch p s w l
        ⟨[firstEvent p l], left, .error ((forFile s p command).refusal (rendered l.command p) e)⟩
  | interpretedFailed {parts : List Text} {command : Command} {left : World} {ended : Ended}
      (h : Started launch p s parts w command left ended) (hf : ended.Failed) :
      Ends launch p s w (.interpreted parts)
        ⟨[.run p.filename], left, .error (Failure.ofCause (.run (rendered parts p) (ended.told s.limit)))⟩
  | interpreted {parts : List Text} {command : Command} {left : World} {ended : Ended}
      (h : Started launch p s parts w command left ended) (hf : ¬ ended.Failed) :
      Ends launch p s w (.interpreted parts) ⟨[.run p.filename], left, .ok (Text.decode ended.stdout)⟩
  | buildFailed {parts : List Text} {command : Command} {left : World} {ended : Ended}
      (h : Started launch p s parts w command left ended) (hf : ended.Failed) :
      Ends launch p s w (.buildThenRun parts)
        ⟨[.build p.filename], left, .error (Failure.ofCause (.build (rendered parts p) (ended.told s.limit)))⟩
  | noExecutable {parts : List Text} {left : World} (h : Built launch p s parts w left)
      (hx : left.isFile (executablePath s p) = false) :
      Ends launch p s w (.buildThenRun parts)
        ⟨[.build p.filename], left, .error (Failure.ofCause (.missingExecutable (executablePath s p)))⟩
  | executableRefused {parts : List Text} {left left' : World} {e : SystemError} (h : Built launch p s parts w left)
      (hx : left.isFile (executablePath s p) = true) (hl : launch (executable s p) s.limit left = (left', .error e)) :
      Ends launch p s w (.buildThenRun parts)
        ⟨[.build p.filename, .run (executableName p.filename)], left',
          .error ((executable s p).refusal (shownExecutable p) e)⟩
  | executableFailed {parts : List Text} {left left' : World} {ended : Ended} (h : Built launch p s parts w left)
      (hx : left.isFile (executablePath s p) = true) (hl : launch (executable s p) s.limit left = (left', .ok ended))
      (hf : ended.Failed) :
      Ends launch p s w (.buildThenRun parts)
        ⟨[.build p.filename, .run (executableName p.filename)], left',
          .error (Failure.ofCause (.run (shownExecutable p) (ended.told s.limit)))⟩
  | executable {parts : List Text} {left left' : World} {ended : Ended} (h : Built launch p s parts w left)
      (hx : left.isFile (executablePath s p) = true) (hl : launch (executable s p) s.limit left = (left', .ok ended))
      (hf : ¬ ended.Failed) :
      Ends launch p s w (.buildThenRun parts)
        ⟨[.build p.filename, .run (executableName p.filename)], left', .ok (Text.decode ended.stdout)⟩

/-- a program that has been built goes on with what was built -/
theorem buildAndRun_of_built {left : World} (h : Built launch p s parts w left) :
    buildAndRun launch parts p s w =
      let next := runExecutable launch p s left
      ⟨.build p.filename :: next.events, next.world, next.result⟩ := by
  obtain ⟨command, ended, hstarted, hf⟩ := h
  rw [buildAndRun_eq, given_of_started hstarted]
  simp only [if_pos ((success_ofEnded ended).2 hf)]

theorem buildAndRun_of_failed {command : Command} {left : World} {ended : Ended}
    (h : Started launch p s parts w command left ended) (hf : ended.Failed) :
    buildAndRun launch parts p s w =
      ⟨[.build p.filename], left, .error (Failure.ofCause (.build (rendered parts p) (ended.told s.limit)))⟩ := by
  have hs : ¬ (CommandOutput.ofEnded ended).success = true := fun hs => (success_ofEnded ended).1 hs hf
  rw [buildAndRun_eq, given_of_started h]
  simp only [if_neg hs, display_forFile h.ofParts, failureDetail_ofEnded]
  rfl

theorem runInterpreted_of_started {command : Command} {left : World} {ended : Ended}
    (h : Started launch p s parts w command left ended) :
    runInterpreted launch parts p s w =
      ⟨[.run p.filename], left, stdoutOf s (.ofEnded ended) (.run (rendered parts p))⟩ := by
  rw [runInterpreted_eq, given_of_started h]
  simp only [display_forFile h.ofParts]
  rfl

/-- both strategies give the program to their command first -/
theorem exists_execute_eq_given (launch : Launcher) (l : Language) (p : Program) (s : Setting) :
    ∃ k, (ofLanguage l).execute launch p s = given launch l.command p s (firstEvent p l) k := by
  cases l with
  | interpreted parts => exact ⟨_, runInterpreted_eq⟩
  | buildThenRun parts => exact ⟨_, buildAndRun_eq⟩

/-- each ending is that of the program -/
theorem execute_of_ends {l : Language} {o : Outcome Text} (h : Ends launch p s w l o) :
    (ofLanguage l).execute launch p s w = o := by
  obtain ⟨k, hk⟩ := exists_execute_eq_given launch l p s
  cases h with
  | unwritten h => rw [hk, given_of_unwritten h]
  | empty hw h => rw [hk, given_of_empty hw h]
  | refused hw hc h => rw [hk, given_of_refused hw hc h]
  | interpretedFailed h hf => exact (runInterpreted_of_started h).trans (by rw [stdoutOf_of_failed hf])
  | interpreted h hf => exact (runInterpreted_of_started h).trans (by rw [stdoutOf_of_not_failed hf])
  | buildFailed h hf => exact buildAndRun_of_failed h hf
  | noExecutable h hx => exact (buildAndRun_of_built h).trans (by rw [runExecutable_of_missing hx])
  | executableRefused h hx hl =>
    exact (buildAndRun_of_built h).trans (by rw [runExecutable_of_isFile hx, runBuilt_of_refused hl])
  | executableFailed h hx hl hf =>
    refine (buildAndRun_of_built h).trans ?_
    rw [runExecutable_of_isFile hx, runBuilt_of_ended hl, stdoutOf_of_failed hf]
  | executable h hx hl hf =>
    refine (buildAndRun_of_built h).trans ?_
    rw [runExecutable_of_isFile hx, runBuilt_of_ended hl, stdoutOf_of_not_failed hf]

/-- a program that was built has one of the endings -/
theorem exists_ends_of_built {left : World} (h : Built launch p s parts w left) :
    ∃ o, Ends launch p s w (.buildThenRun parts) o := by
  cases hx : left.isFile (executablePath s p) with
  | false => exact ⟨_, .noExecutable h hx⟩
  | true =>
    rcases hl : launch (executable s p) s.limit left with ⟨left', e | ended⟩
    · exact ⟨_, .executableRefused h hx hl⟩
    · by_cases hf : ended.Failed
      · exact ⟨_, .executableFailed h hx hl hf⟩
      · exact ⟨_, .executable h hx hl hf⟩

/-- if no child was started, that is told by a failure of no kind -/
theorem exists_ends_of_unstarted {l : Language} (h : Unstarted launch p s l.command w) :
    ∃ o f, Ends launch p s w l o ∧ o.result = .error f ∧ f.cause.kind? = none := by
  cases h with
  | unwritten hw => exact ⟨_, _, .unwritten hw, rfl, rfl⟩
  | empty hw hc => exact ⟨_, _, .empty hw hc, rfl, rfl⟩
  | refused hw hc hl => exact ⟨_, _, .refused hw hc (Prod.ext rfl hl), rfl, rfl⟩

/-- nothing else can happen -/
theorem exists_ends (launch : Launcher) (p : Program) (s : Setting) (w : World) (l : Language) :
    ∃ o, Ends launch p s w l o := by
  rcases unstarted_or_started launch p s l.command w with hun | ⟨command, left, ended, hst⟩
  · obtain ⟨o, f, ho, -⟩ := exists_ends_of_unstarted hun
    exact ⟨o, ho⟩
  · cases l with
    | interpreted parts =>
      by_cases hf : ended.Failed
      · exact ⟨_, .interpretedFailed hst hf⟩
      · exact ⟨_, .interpreted hst hf⟩
    | buildThenRun parts =>
      by_cases hf : ended.Failed
      · exact ⟨_, .buildFailed hst hf⟩
      · exact exists_ends_of_built ⟨command, ended, hst, hf⟩

/-- **All endings.** A program ends exactly as one of them tells. -/
theorem ends_iff {l : Language} {o : Outcome Text} :
    (ofLanguage l).execute launch p s w = o ↔ Ends launch p s w l o := by
  refine ⟨?_, execute_of_ends⟩
  rintro rfl
  obtain ⟨o, ho⟩ := exists_ends launch p s w l
  rwa [execute_of_ends ho]

theorem Ends.unique {l : Language} {o o' : Outcome Text} (h : Ends launch p s w l o) (h' : Ends launch p s w l o') :
    o = o' := (execute_of_ends h).symm.trans (execute_of_ends h')

end Strategy
end RunnableDocs
