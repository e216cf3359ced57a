/-
What the result of a program tells about its children.

`Strategy.endings_are_told` reads off what each ending of a program says: a text that was printed, that every child was
started and succeeded; a failure of a child, which child it was, by its command line, and what it complained of, behind a
note if its time was over; any other failure, that a child was not started at all. When the first child starts, the file
that it is given holds the program's code.
-/
import RunnableDocs.Proofs.Endings
import RunnableDocs.Proofs.Written

namespace RunnableDocs.Strategy

variable {launch : Launcher} {p : Program} {s : Setting} {parts : List Text} {w : World}

/-- the program is written and handed to its command, and this world is left, whether the command was started or not -/
def Handed (launch : Launcher) (p : Program) (s : Setting) (parts : List Text) (w left : World) : Prop :=
  ∃ w' command, w.write (sourcePath s p) (Text.encode p.code) = .ok w' ∧ Command.ofParts? parts = some command ∧
    (launch (forFile s p command) s.limit w').1 = left

theorem Handed.unique {left left' : World} (h : Handed launch p s parts w left) (h' : Handed launch p s parts w left') :
    left = left' := by
  obtain ⟨w', command, hw, hc, rfl⟩ := h
  obtain ⟨w'', command', hw', hc', rfl⟩ := h'
  obtain rfl := Except.ok.inj (hw.symm.trans hw')
  obtain rfl := Option.some.inj (hc.symm.trans hc')
  rfl

theorem Started.handed {command : Command} {left : World} {ended : Ended}
    (h : Started launch p s parts w command left ended) : Handed launch p s parts w left := by
  obtain ⟨hc, w', hw, hl⟩ := h
  exact ⟨w', command, hw, hc, by rw [hl]⟩

theorem Built.handed {left : World} (h : Built launch p s parts w left) : Handed launch p s parts w left := by
  obtain ⟨command, ended, hst, -⟩ := h
  exact hst.handed

theorem handed_of_refused {w' left : World} {command : Command} {e : SystemError}
    (hw : w.write (sourcePath s p) (Text.encode p.code) = .ok w') (hc : Command.ofParts? parts = some command)
    (h : launch (forFile s p command) s.limit w' = (left, .error e)) : Handed launch p s parts w left :=
  ⟨w', command, hw, hc, by rw [h]⟩

theorem not_handed_of_unwritten {left : World} {e : SystemError}
    (h : w.write (sourcePath s p) (Text.encode p.code) = .error e) : ¬ Handed launch p s parts w left := by
  rintro ⟨w', command, hw, -, -⟩
  cases h.symm.trans hw

theorem not_handed_of_empty {left : World} (h : Command.ofParts? parts = none) : ¬ Handed launch p s parts w left := by
  rintro ⟨w', command, -, hc, -⟩
  cases h.symm.trans hc

/-- what a program that is interpreted tells by its outcome -/
structure InterpretedTold (launch : Launcher) (p : Program) (s : Setting) (parts : List Text) (w : World)
    (o : Outcome Text) : Prop where
  /-- a child that was started and succeeded has printed this -/
  printed : ∀ stdout, o.result = .ok stdout ↔ ∃ command left ended, Started launch p s parts w command left ended ∧
    ¬ ended.Failed ∧ stdout = Text.decode ended.stdout
  /-- a child that was started has failed -/
  run : ∀ shown stderr, o.result = .error (Failure.ofCause (.run shown stderr)) ↔
    ∃ command left ended, Started launch p s parts w command left ended ∧ ended.Failed ∧ shown = rendered parts p ∧
      stderr = ended.told s.limit
  /-- no child was started -/
  untyped : (∃ f, o.result = .error f ∧ f.cause.kind? = none) ↔ Unstarted launch p s parts w
  nothing_else : ∀ f, o.result = .error f →
    (∃ shown stderr, f = Failure.ofCause (.run shown stderr)) ∨ f.cause.kind? = none
  /-- the child is reported before it is started, and nothing comes after it -/
  reported : ∀ left, Handed launch p s parts w left → o.events = [.run p.filename] ∧ o.world = left
  silent : (¬ ∃ left, Handed launch p s parts w left) → o.events = []

/-- what a program that is built and then run tells by its outcome -/
structure BuiltTold (launch : Launcher) (p : Program) (s : Setting) (parts : List Text) (w : World)
    (o : Outcome Text) : Prop where
  /-- what was built was started and succeeded, and has printed this -/
  printed : ∀ stdout, o.result = .ok stdout ↔ ∃ left left' ended, Built launch p s parts w left ∧
    left.isFile (executablePath s p) = true ∧ launch (executable s p) s.limit left = (left', .ok ended) ∧
    ¬ ended.Failed ∧ stdout = Text.decode ended.stdout
  /-- the build was started and has failed -/
  build : ∀ shown stderr, o.result = .error (Failure.ofCause (.build shown stderr)) ↔
    ∃ command left ended, Started launch p s parts w command left ended ∧ ended.Failed ∧ shown = rendered parts p ∧
      stderr = ended.told s.limit
  /-- the build has succeeded and left no file to be run -/
  missing : ∀ path, o.result = .error (Failure.ofCause (.missingExecutable path)) ↔
    path = executablePath s p ∧ ∃ left, Built launch p s parts w left ∧ left.isFile path = false
  /-- what was built was started and has failed -/
  run : ∀ shown stderr, o.result = .error (Failure.ofCause (.run shown stderr)) ↔
    ∃ left left' ended, Built launch p s parts w left ∧ left.isFile (executablePath s p) = true ∧
      launch (executable s p) s.limit left = (left', .ok ended) ∧ ended.Failed ∧ shown = shownExecutable p ∧
      stderr = ended.told s.limit
  /-- the build or what it left was not started -/
  untyped : (∃ f, o.result = .error f ∧ f.cause.kind? = none) ↔ Unstarted launch p s parts w ∨
    ∃ left left' e, Built launch p s parts w left ∧ left.isFile (executablePath s p) = true ∧
      launch (executable s p) s.limit left = (left', .error e)
  nothing_else : ∀ f, o.result = .error f → (∃ shown stderr, f = Failure.ofCause (.build shown stderr)) ∨
    (∃ path, f = Failure.ofCause (.missingExecutable path)) ∨
    (∃ shown stderr, f = Failure.ofCause (.run shown stderr)) ∨ f.cause.kind? = none
  /-- what was built is started exactly if the build succeeded and left a file; the start is reported, and the world is
  what it leaves -/
  started : ∀ left, Built launch p s parts w left → left.isFile (executablePath s p) = true →
    o.events = [.build p.filename, .run (executableName p.filename)] ∧
      o.world = (launch (executable s p) s.limit left).1
  /-- otherwise the build is reported, and nothing comes after it -/
  not_started : ∀ left, Handed launch p s parts w left →
    ¬ (Built launch p s parts w left ∧ left.isFile (executablePath s p) = true) →
    o.events = [.build p.filename] ∧ o.world = left
  silent : (¬ ∃ left, Handed launch p s parts w left) → o.events = []

theorem interpretedTold {o : Outcome Text} (h : Ends launch p s w (.interpreted parts) o) :
    InterpretedTold launch p s parts w o where
  printed := by
    intro stdout
    constructor
    · intro hr
      cases h with
      | interpreted hst hf => exact ⟨_, _, _, hst, hf, (Except.ok.inj hr).symm⟩
      | _ => cases hr
    · rintro ⟨command, left, ended, hst, hf, rfl⟩
      rw [h.unique (.interpreted hst hf)]
  run := by
    intro shown stderr
    constructor
    · intro hr
      cases h with
      | interpretedFailed hst hf =>
        cases hr
        exact ⟨_, _, _, hst, hf, rfl, rfl⟩
      | _ => cases hr
    · rintro ⟨command, left, ended, hst, hf, rfl, rfl⟩
      rw [h.unique (.interpretedFailed hst hf)]
  untyped := by
    constructor
    · rintro ⟨f, hr, hkind⟩
      cases h with
      | unwritten hw => exact .unwritten hw
      | empty hw hc => exact .empty hw hc
      | refused hw hc hl => exact .refused hw hc (by rw [hl])
      | interpretedFailed =>
        obtain rfl := Except.error.inj hr
        cases hkind
      | interpreted => cases hr
    · intro hun
      obtain ⟨o', f, ho, hr, hkind⟩ := exists_ends_of_unstarted (l := .interpreted parts) hun
      exact ⟨f, by rwa [h.unique ho], hkind⟩
  nothing_else := by
    intro f hr
    cases h with
    | interpretedFailed => exact Or.inl ⟨_, _, (Except.error.inj hr).symm⟩
    | interpreted => cases hr
    | _ =>
      obtain rfl := Except.error.inj hr
      exact Or.inr rfl
  reported := by
    intro left hleft
    cases h with
    | unwritten hw => exact absurd hleft (not_handed_of_unwritten hw)
    | empty _ hc => exact absurd hleft (not_handed_of_empty hc)
    | refused hw hc hl => exact ⟨rfl, (handed_of_refused hw hc hl).unique hleft⟩
    | interpretedFailed hst | interpreted hst => exact ⟨rfl, hst.handed.unique hleft⟩
  silent := by
    intro hnot
    cases h with
    | unwritten | empty => rfl
    | refused hw hc hl => exact absurd ⟨_, handed_of_refused hw hc hl⟩ hnot
    | interpretedFailed hst | interpreted hst => exact absurd ⟨_, hst.handed⟩ hnot

theorem builtTold {o : Outcome Text} (h : Ends launch p s w (.buildThenRun parts) o) :
    BuiltTold launch p s parts w o where
  printed := by
    intro stdout
    constructor
    · intro hr
      cases h with
      | executable hb hx hl hf => exact ⟨_, _, _, hb, hx, hl, hf, (Except.ok.inj hr).symm⟩
      | _ => cases hr
    · rintro ⟨left, left', ended, hb, hx, hl, hf, rfl⟩
      rw [h.unique (.executable hb hx hl hf)]
  build := by
    intro shown stderr
    constructor
    · intro hr
      cases h with
      | buildFailed hst hf =>
        cases hr
        exact ⟨_, _, _, hst, hf, rfl, rfl⟩
      | _ => cases hr
    · rintro ⟨command, left, ended, hst, hf, rfl, rfl⟩
      rw [h.unique (.buildFailed hst hf)]
  missing := by
    intro path
    constructor
    · intro hr
      cases h with
      | noExecutable hb hx =>
        cases hr
        exact ⟨rfl, _, hb, hx⟩
      | _ => cases hr
    · rintro ⟨rfl, left, hb, hx⟩
      rw [h.unique (.noExecutable hb hx)]
  run := by
    intro shown stderr
    constructor
    · intro hr
      cases h with
      | executableFailed hb hx hl hf =>
        cases hr
        exact ⟨_, _, _, hb, hx, hl, hf, rfl, rfl⟩
      | _ => cases hr
    · rintro ⟨left, left', ended, hb, hx, hl, hf, rfl, rfl⟩
      rw [h.unique (.executableFailed hb hx hl hf)]
  untyped := by
    constructor
    · rintro ⟨f, hr, hkind⟩
      cases h with
      | unwritten hw => exact Or.inl (.unwritten hw)
      | empty hw hc => exact Or.inl (.empty hw hc)
      | refused hw hc hl => exact Or.inl (.refused hw hc (by rw [hl]))
      | executableRefused hb hx hl => exact Or.inr ⟨_, _, _, hb, hx, hl⟩
      | executable => cases hr
      | _ =>
        obtain rfl := Except.error.inj hr
        cases hkind
    · rintro (hun | ⟨left, left', e, hb, hx, hl⟩)
      · obtain ⟨o', f, ho, hr, hkind⟩ := exists_ends_of_unstarted (l := .buildThenRun parts) hun
        exact ⟨f, by rwa [h.unique ho], hkind⟩
      · rw [h.unique (.executableRefused hb hx hl)]
        exact ⟨_, rfl, rfl⟩
  nothing_else := by
    intro f hr
    cases h with
    | buildFailed => exact Or.inl ⟨_, _, (Except.error.inj hr).symm⟩
    | noExecutable => exact Or.inr (Or.inl ⟨_, (Except.error.inj hr).symm⟩)
    | executableFailed => exact Or.inr (Or.inr (Or.inl ⟨_, _, (Except.error.inj hr).symm⟩))
    | executable => cases hr
    | _ =>
      obtain rfl := Except.error.inj hr
      exact Or.inr (Or.inr (Or.inr rfl))
  started := by
    intro left hb hx
    rcases hl : launch (executable s p) s.limit left with ⟨left', e | ended⟩
    · rw [h.unique (.executableRefused hb hx hl)]
      exact ⟨rfl, rfl⟩
    · by_cases hf : ended.Failed
      · rw [h.unique (.executableFailed hb hx hl hf)]
        exact ⟨rfl, rfl⟩
      · rw [h.unique (.executable hb hx hl hf)]
        exact ⟨rfl, rfl⟩
  not_started := by
    intro left hleft hnot
    cases h with
    | unwritten hw => exact absurd hleft (not_handed_of_unwritten hw)
    | empty _ hc => exact absurd hleft (not_handed_of_empty hc)
    | refused hw hc hl => exact ⟨rfl, (handed_of_refused hw hc hl).unique hleft⟩
    | buildFailed hst => exact ⟨rfl, hst.handed.unique hleft⟩
    | noExecutable hb => exact ⟨rfl, hb.handed.unique hleft⟩
    | executableRefused hb hx | executableFailed hb hx | executable hb hx =>
      obtain rfl := hb.handed.unique hleft
      exact absurd ⟨hb, hx⟩ hnot
  silent := by
    intro hnot
    cases h with
    | unwritten | empty => rfl
    | refused hw hc hl => exact absurd ⟨_, handed_of_refused hw hc hl⟩ hnot
    | buildFailed hst => exact absurd ⟨_, hst.handed⟩ hnot
    | noExecutable hb | executableRefused hb | executableFailed hb | executable hb =>
      exact absurd ⟨_, hb.handed⟩ hnot

/-- **Every ending is told.** What a strategy of the library gives back tells how each of its children ended, if they
were started. A program that is not written leaves everything as it was and has no event; one that is written is in its
file, with its code, when the first child starts, unless a device is in the stead of the file. -/
theorem endings_are_told (launch : Launcher) (parts : List Text) (p : Program) (s : Setting) (w : World) :
    InterpretedTold launch p s parts w ((interpreted parts).execute launch p s w) ∧
    BuiltTold launch p s parts w ((buildThenRun parts).execute launch p s w) ∧
    (∀ e, w.write (sourcePath s p) (Text.encode p.code) = .error e →
      ∀ l : Language, (ofLanguage l).execute launch p s w = ⟨[], w, .error (unwritten s p e)⟩) ∧
    ∀ w', w.write (sourcePath s p) (Text.encode p.code) = .ok w' →
      w'.Holds (sourcePath s p) (Text.encode p.code) :=
  ⟨interpretedTold (ends_iff (l := .interpreted parts).1 rfl), builtTold (ends_iff (l := .buildThenRun parts).1 rfl),
    fun _ h _ => execute_of_ends (.unwritten h), fun _ h => World.holds_of_write h⟩

end RunnableDocs.Strategy
