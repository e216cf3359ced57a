/-
Activity that spares directories.

`w.Spares kept w'`: between the two worlds the process was not moved, and the directories at the places `kept` were not
removed or cut off from the path of their place. Anything else may have happened. Actions that spare directories can be
put one after the other (`Action.Spares.bind`); the library's own strategies spare whatever their launcher does, for the
file that they write replaces no directory (`Strategy.spares_execute`).
-/
import RunnableDocs.Package
import RunnableDocs.Proofs.Tree

namespace RunnableDocs

namespace World
variable {w w' w'' : World} {kept : List Location}

/-- what happens between two worlds in which some directories are spared -/
structure Spares (kept : List Location) (w w' : World) : Prop where
  /-- the process is not moved; it can only lose a directory that is not to be spared -/
  stands : w'.cwd = w.cwd ∨ w'.cwd = none ∧ ∀ stand ∈ kept, w.cwd ≠ some stand
  keeps : ∀ place ∈ kept, w.Accessible place → w'.Accessible place

theorem Spares.refl (kept : List Location) (w : World) : w.Spares kept w := ⟨Or.inl rfl, fun _ _ h => h⟩

theorem Spares.trans (h : w.Spares kept w') (h' : w'.Spares kept w'') : w.Spares kept w'' where
  stands := by
    rcases h.stands with hs | ⟨hs, hlost⟩
    · rw [← hs]
      exact h'.stands
    · refine Or.inr ⟨?_, hlost⟩
      rcases h'.stands with hs' | ⟨hs', -⟩
      · rw [hs', hs]
      · exact hs'
  keeps := fun place hp ha => h'.keeps place hp (h.keeps place hp ha)

/-- what spares the directory that the process stands in leaves the process there -/
theorem Spares.cwd_eq (h : w.Spares w.cwd.toList w') : w'.cwd = w.cwd := by
  rcases h.stands with hs | ⟨hs, hlost⟩
  · exact hs
  · cases hc : w.cwd with
    | none => exact hs
    | some stand => exact absurd hc (hlost stand (by simp [hc]))

/-- while every directory stays one, all are spared -/
theorem spares_of_directories (hs : w'.cwd = w.cwd)
    (hd : ∀ q, w.find? q = some .directory → w'.find? q = some .directory) : w.Spares kept w' where
  stands := Or.inl hs
  keeps := fun _ _ ha => ha.mono fun q _ => hd q

theorem spares_write {p : Path} {content : Text.Bytes} (h : w.write p content = .ok w') : w.Spares kept w' :=
  spares_of_directories (write_keeps h).1 (write_keeps h).2

end World

/-- whatever is started spares the directories -/
def Launcher.Spares (kept : List Location) (launch : Launcher) : Prop :=
  ∀ c limit w, World.Spares kept w (launch c limit w).1

namespace Action
variable {α β : Type} {kept : List Location}

/-- whatever the world is, the action spares the directories -/
def Spares (kept : List Location) (x : Action α) : Prop := ∀ w : World, w.Spares kept (x w).world

theorem spares_of_still {x : Action α} (h : ∀ w, (x w).world = w) : x.Spares kept := fun w => by
  rw [h w]
  exact .refl kept w

theorem Spares.bind {x : Action α} {f : α → Action β} (hx : x.Spares kept) (hf : ∀ a, (f a).Spares kept) :
    (x >>= f).Spares kept := by
  intro w
  cases h : (x w).result with
  | error e =>
    rw [bind_of_error h]
    exact hx w
  | ok a =>
    rw [bind_of_ok h]
    exact (hx w).trans (hf a (x w).world)

theorem Spares.during {x : Action α} (hx : x.Spares kept) (activity : Activity) : (x.during activity).Spares kept := hx

theorem spares_pure (a : α) : (Pure.pure a : Action α).Spares kept := spares_of_still fun _ => rfl

theorem spares_fail (f : Failure) : (fail f : Action α).Spares kept := spares_of_still fun _ => rfl

theorem spares_ofResult (r : Except Failure α) : (ofResult r).Spares kept := spares_of_still fun _ => rfl

theorem spares_report (e : Event) : (report e).Spares kept := spares_of_still fun _ => rfl

theorem spares_look (f : World → α) : (look f).Spares kept := spares_of_still fun _ => rfl

theorem spares_command {launch : Launcher} (hl : launch.Spares kept) (c : Command) (limit : Option Nat) :
    (c.run launch limit).Spares kept := by
  intro w
  have hw : (c.run launch limit w).world = (launch c limit w).1 := by
    unfold Command.run
    split
    · next h => rw [h]
    · next h => rw [h]
  rw [hw]
  exact hl c limit w

end Action

/-! ## Strategies -/

namespace Strategy
variable {kept : List Location} {launch : Launcher}

theorem spares_writeProgram (s : Setting) (p : Program) : (writeProgram s p).Spares kept := by
  refine Action.Spares.during (fun w => ?_) _
  unfold Action.change
  split
  · next h => exact World.spares_write h
  · exact .refl kept w

theorem spares_commandOf (parts : List Text) : (commandOf parts).Spares kept := by
  unfold commandOf
  split
  · exact Action.spares_pure _
  · exact Action.spares_fail _

theorem spares_runInterpreted (hl : launch.Spares kept) (parts : List Text) (p : Program) (s : Setting) :
    (runInterpreted launch parts p s).Spares kept := by
  refine (spares_writeProgram s p).bind fun _ => (spares_commandOf parts).bind fun command => ?_
  refine (Action.spares_report _).bind fun _ => ((Action.spares_command hl _ _).during _).bind fun output => ?_
  exact Action.spares_ofResult _

theorem spares_runExecutable (hl : launch.Spares kept) (p : Program) (s : Setting) :
    (runExecutable launch p s).Spares kept := by
  refine (Action.spares_look _).bind fun found => ?_
  split
  · exact Action.spares_fail _
  · refine (Action.spares_report _).bind fun _ => ((Action.spares_command hl _ _).during _).bind fun output => ?_
    exact Action.spares_ofResult _

theorem spares_buildAndRun (hl : launch.Spares kept) (parts : List Text) (p : Program) (s : Setting) :
    (buildAndRun launch parts p s).Spares kept := by
  refine (spares_writeProgram s p).bind fun _ => (spares_commandOf parts).bind fun command => ?_
  refine (Action.spares_report _).bind fun _ => ((Action.spares_command hl _ _).during _).bind fun output => ?_
  split
  · exact spares_runExecutable hl p s
  · exact Action.spares_fail _

/-- a strategy of the library spares what its launcher spares -/
theorem spares_execute (hl : launch.Spares kept) {strategy : Strategy}
    (hown : ∀ behaviour, strategy ≠ .supplied behaviour) (p : Program) (s : Setting) :
    (strategy.execute launch p s).Spares kept := by
  cases strategy with
  | interpreted command => exact spares_runInterpreted hl command p s
  | buildThenRun build => exact spares_buildAndRun hl build p s
  | supplied behaviour => exact absurd rfl (hown behaviour)

end Strategy

/-- whatever is run by a strategy of the registry spares the directories -/
def Registry.Spares (launch : Launcher) (kept : List Location) (r : Registry) : Prop :=
  ∀ extension strategy, r.get? extension = some strategy → ∀ p s, (strategy.execute launch p s).Spares kept

theorem Registry.spares_ofConfig {launch : Launcher} {kept : List Location} (hl : launch.Spares kept)
    (config : Config) : (ofConfig config).Spares launch kept := by
  intro extension strategy hget
  refine Strategy.spares_execute hl fun behaviour hb => ?_
  exact get?_ofConfig_ne_supplied config extension behaviour (hb ▸ hget)

namespace Batch
variable {launch : Launcher} {registry : Registry} {kept : List Location}

theorem spares_runProgram (h : registry.Spares launch kept) (s : Setting) (p : Program) :
    (runProgram launch registry s p).Spares kept := by
  unfold runProgram
  split
  · exact Action.spares_fail _
  · next strategy hget =>
    refine (h _ strategy hget p s).bind fun stdout => (Action.spares_ofResult _).bind fun _ => ?_
    split
    · exact Action.spares_report _
    · exact Action.spares_pure _

/-- the programs spare what each strategy spares -/
theorem spares_runAll (h : registry.Spares launch kept) (s : Setting) (programs : List Program) :
    (runAll launch registry s programs).Spares kept := by
  induction programs with
  | nil => exact Action.spares_pure _
  | cons p ps ih => exact ((spares_runProgram h s p).during _).bind fun _ => ih

end Batch

/-- the search for a doc file spares what the root command spares -/
theorem Locate.spares_findDocFile {launch : Launcher} {kept : List Location} (hl : launch.Spares kept) (l : Locate)
    (package : Text) : (l.findDocFile launch package).Spares kept := by
  have hroots : (l.workspaceRoots launch).Spares kept := by
    unfold workspaceRoots
    split
    · exact Action.spares_fail _
    · refine ((Action.spares_command hl _ _).during _).bind fun output => ?_
      split_ifs
      · exact Action.spares_fail _
      · exact Action.spares_fail _
      · exact Action.spares_pure _
  refine hroots.bind fun roots => (Action.spares_look _).bind fun found => ?_
  exact Action.spares_ofResult _

end RunnableDocs
