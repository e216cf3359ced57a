/-
Guards restore what they changed.

A guard is a directory that was entered, with the worlds right before and right after. Guards are left in the opposite
order: `Guarded` is a world with the guards that are live in it, the innermost first, and `Reached` what can be reached
by entering directories, leaving the innermost and any activity in between that spares the directories in which the
process stood before a live guard.

The invariant `Inv` ties the guards together: each was entered from where the one outside had put the process, and at
that time all that the outer guards lead back to was accessible. So a temporary directory, which was put where nothing
was, holds none of these places, and its removal cuts off none of them. `step_inv` shows that each step keeps the
invariant, and `guards_restore` states what follows for every step from every state reached, and for a batch, which is
one guard around its programs.

The way back is by a path. Where the process stood when the first guard was entered may be so deep in the tree that no
path leads there, and then nothing takes it back (`no_return_from_afar`). A place that it was put into is near enough: a
path led there, and without symbolic links in the tree that path is not shorter than the one back.
-/
import RunnableDocs.Proofs.Batch
import RunnableDocs.Proofs.Entering
import RunnableDocs.Proofs.ParseFault
import RunnableDocs.Proofs.Sparing

namespace RunnableDocs

open RunDirectory (Entered Provider enterWith)

/-- a directory that was entered, and the worlds before and after -/
structure Guard where
  directory : RunDirectory
  before : World
  after : World
  deriving DecidableEq, Repr

/-- a world, and the guards that are live in it, the innermost first -/
structure Guarded where
  world : World
  live : List Guard
  deriving DecidableEq, Repr

namespace Guarded
variable {temporary : Provider} {start w' : World} {s t : Guarded} {g : Guard} {outer : List Guard}

/-- where the process stood before the live guards -/
def origins (s : Guarded) : List Location := s.live.filterMap (·.before.cwd)

/-- the places of the temporary directories of live guards that exist -/
def temporaries (s : Guarded) : List Location :=
  (s.live.filter fun g => g.directory.ephemeral && s.world.isDirectoryAt g.directory.place).map (·.directory.place)

/-- a directory entered; if that is refused there is no guard -/
def enter (temporary : Provider) (dir : Option Path) (s : Guarded) : Guarded :=
  let o := enterWith temporary dir s.world
  match o.result with
  | .ok d => ⟨o.world, ⟨d, s.world, o.world⟩ :: s.live⟩
  | .error _ => ⟨o.world, s.live⟩

/-- the innermost guard left -/
def leave (temporary : Provider) (s : Guarded) : Guarded :=
  match s.live with
  | [] => s
  | g :: outer => ⟨g.directory.leaveWith temporary s.world, outer⟩

/-- one step: a directory entered, the innermost guard left, or something else done meanwhile -/
inductive Step (temporary : Provider) : Guarded → Guarded → Prop where
  | enter (dir : Option Path) (s : Guarded) : Step temporary s (s.enter temporary dir)
  | leave (s : Guarded) : Step temporary s (s.leave temporary)
  | activity {s : Guarded} {w' : World} (h : s.world.Spares s.origins w') : Step temporary s ⟨w', s.live⟩

/-- what can be reached from a world without guards -/
inductive Reached (temporary : Provider) (start : World) : Guarded → Prop where
  | start : Reached temporary start ⟨start, []⟩
  | next {s t : Guarded} (h : Reached temporary start s) (hs : Step temporary s t) : Reached temporary start t

theorem enter_of_ok {dir : Option Path} {d : RunDirectory} (h : (enterWith temporary dir s.world).result = .ok d) :
    let w' := (enterWith temporary dir s.world).world
    s.enter temporary dir = ⟨w', ⟨d, s.world, w'⟩ :: s.live⟩ := by
  simp only [enter, h]

theorem enter_of_error {dir : Option Path} {f : Failure} (h : (enterWith temporary dir s.world).result = .error f) :
    s.enter temporary dir = ⟨(enterWith temporary dir s.world).world, s.live⟩ := by
  simp only [enter, h]

/-! ## The invariant -/

/-- what holds of every state that is reached -/
structure Inv (temporary : Provider) (s : Guarded) : Prop where
  entered : ∀ g ∈ s.live, ∃ dir stand place, Entered temporary dir g.before g.directory g.after stand place
  /-- the way back is open for every guard that can return -/
  kept : ∀ g ∈ s.live, g.before.CanReturn → ∀ stand, g.before.cwd = some stand → s.world.Accessible stand
  /-- when a guard was entered, the way back was open for those outside -/
  nested : s.live.Pairwise fun inner outer =>
    outer.before.CanReturn → ∀ stand, outer.before.cwd = some stand → inner.before.Accessible stand
  /-- each guard was entered from where the one outside had put the process -/
  linked : s.live.IsChain fun inner outer => inner.before.cwd = outer.after.cwd
  /-- nothing but a removal moves the process while a guard is live -/
  stands : s.world.cwd = none ∨ ∀ g ∈ s.live.head?, s.world.cwd = g.after.cwd

theorem inv_start (temporary : Provider) (start : World) : Inv temporary ⟨start, []⟩ where
  entered := by simp
  kept := by simp
  nested := .nil
  linked := .nil
  stands := Or.inr (by simp)

theorem Inv.activity (h : Inv temporary s) (hs : s.world.Spares s.origins w') : Inv temporary ⟨w', s.live⟩ :=
  { h with
    kept := fun g hg hreturn stand hc =>
      hs.keeps stand (List.mem_filterMap.2 ⟨g, hg, hc⟩) (h.kept g hg hreturn stand hc)
    stands := by
      rcases hs.stands with hc | ⟨hc, -⟩
      · show w'.cwd = none ∨ ∀ g ∈ s.live.head?, w'.cwd = g.after.cwd
        rw [hc]
        exact h.stands
      · exact Or.inl hc }

/-- a refused enter keeps everything -/
theorem Inv.enter_error {dir : Option Path} {f : Failure} (hlaw : temporary.Lawful) (h : Inv temporary s)
    (he : (enterWith temporary dir s.world).result = .error f) : Inv temporary (s.enter temporary dir) := by
  rw [enter_of_error he]
  have hg := (RunDirectory.of_enterWith_error hlaw he).1
  refine { h with kept := fun g hm hreturn stand hc => (h.kept g hm hreturn stand hc).grows hg, stands := ?_ }
  show _ = none ∨ ∀ g ∈ s.live.head?, _ = g.after.cwd
  rw [hg.stands]
  exact h.stands

theorem Inv.enter_ok {dir : Option Path} {d : RunDirectory} (hlaw : temporary.Lawful) (h : Inv temporary s)
    (he : (enterWith temporary dir s.world).result = .ok d) : Inv temporary (s.enter temporary dir) := by
  rw [enter_of_ok he]
  obtain ⟨stand, place, hd⟩ := RunDirectory.of_enterWith hlaw he
  generalize (enterWith temporary dir s.world).world = w' at hd
  have hmono : ∀ q, s.world.Accessible q → w'.Accessible q := fun q ha => ha.mono fun r _ hr => hd.stays r _ hr
  exact
    { entered := by
        rintro g (_ | ⟨_, hg⟩)
        · exact ⟨dir, stand, place, hd⟩
        · exact h.entered g hg
      kept := by
        rintro g (_ | ⟨_, hg⟩) hreturn q hq
        · obtain rfl : stand = q := Option.some.inj (hd.stood.symm.trans hq)
          exact hmono stand (hd.found.accessible (hreturn stand hq))
        · exact hmono q (h.kept g hg hreturn q hq)
      nested := List.pairwise_cons.2 ⟨h.kept, h.nested⟩
      linked := by
        refine List.isChain_cons.2 ⟨fun g hg => ?_, h.linked⟩
        exact h.stands.resolve_left (by simp [hd.stood]) g hg
      stands := Or.inr (by simp) }

/-- with the invariant, the way back is open, and leaving does what it should -/
theorem Inv.left (h : Inv temporary s) (hl : s.live = g :: outer) :
    RunDirectory.Left g.before g.directory s.world (s.leave temporary).world := by
  have hg : g ∈ s.live := by simp [hl]
  obtain ⟨dir, stand, place, hd⟩ := h.entered g hg
  have hstands : s.world.cwd = none ∨ s.world.cwd = some place :=
    h.stands.imp_right fun hs => (hs g (by simp [hl])).trans hd.stands
  have hleave : (s.leave temporary).world = g.directory.leaveWith temporary s.world := by simp only [leave, hl]
  rw [hleave]
  exact hd.left hstands fun hreturn => h.kept g hg hreturn stand hd.stood

/-- only the first guard may have been entered from afar: the process is put only where a path leads -/
theorem Inv.canReturn (h : Inv temporary s) (hl : s.live = g :: outer) (hne : outer ≠ []) : g.before.CanReturn := by
  obtain ⟨next, rest, rfl⟩ := List.exists_cons_of_ne_nil hne
  obtain ⟨dir, stand, place, hd⟩ := h.entered next (by simp [hl])
  have hlinked := h.linked
  rw [hl, List.isChain_cons_cons] at hlinked
  exact (World.canReturn_iff (hlinked.1.trans hd.stands)).2 hd.accessible.short

theorem Inv.leave (h : Inv temporary s) : Inv temporary (s.leave temporary) := by
  cases hl : s.live with
  | nil =>
    have hleave : s.leave temporary = s := by simp only [Guarded.leave, hl]
    rw [hleave]
    exact h
  | cons g outer =>
    have hout := h.left hl
    have hreturn := h.canReturn hl
    have hlive : (s.leave temporary).live = outer := by simp only [Guarded.leave, hl]
    have hnested := h.nested
    have hlinked := h.linked
    rw [hl, List.pairwise_cons] at hnested
    rw [hl, List.isChain_cons] at hlinked
    have hmem : ∀ x ∈ outer, x ∈ s.live := fun x hx => by simp [hl, hx]
    exact
      { entered := fun x hx => h.entered x (hmem x (hlive ▸ hx))
        kept := fun x hx hr q hq => by
          rw [hlive] at hx
          exact hout.spared q (hnested.1 x hx hr q hq) (h.kept x (hmem x hx) hr q hq)
        nested := by
          rw [hlive]
          exact hnested.2
        linked := by
          rw [hlive]
          exact hlinked.2
        stands := Or.inr fun x hx => by
          rw [hlive] at hx
          have hback := hout.returns.2 (hreturn fun hnil => by simp [hnil] at hx)
          rw [hback]
          exact hlinked.1 x hx }

theorem step_inv (hlaw : temporary.Lawful) (h : Inv temporary s) (hs : Step temporary s t) : Inv temporary t := by
  cases hs with
  | enter dir s =>
    cases he : (enterWith temporary dir s.world).result with
    | ok d => exact h.enter_ok hlaw he
    | error f => exact h.enter_error hlaw he
  | leave s => exact h.leave
  | activity hs => exact h.activity hs

theorem run_inv (hlaw : temporary.Lawful) (h : Reached temporary start s) : Inv temporary s := by
  induction h with
  | start => exact inv_start temporary start
  | next _ hs ih => exact step_inv hlaw ih hs

/-! ## What is live -/

/-- in a chain, what is not the first is linked from one before it -/
theorem exists_linked {α : Type} {R : α → α → Prop} {l : List α} (h : l.IsChain R) {a : α} (ha : a ∈ l) :
    a ∈ l.head? ∨ ∃ b ∈ l, R b a := by
  induction h with
  | nil => simp at ha
  | singleton b => exact Or.inl (by simpa [eq_comm] using ha)
  | cons_cons hr _ ih =>
    rcases List.mem_cons.1 ha with rfl | ha
    · exact Or.inl (by simp)
    · rcases ih ha with hh | ⟨b, hb, hba⟩
      · obtain rfl := Option.some.inj hh
        exact Or.inr ⟨_, List.mem_cons_self, hr⟩
      · exact Or.inr ⟨b, List.mem_cons_of_mem _ hb, hba⟩

/-- while a path tells where the process stands, every live guard's directory is there -/
theorem Inv.accessible_of_currentPath (h : Inv temporary s) {p : Path} (hp : s.world.currentPath = .ok p)
    (hg : g ∈ s.live) {place : Location} (hplace : g.after.cwd = some place) : s.world.Accessible place := by
  obtain ⟨stand, hc, hfound, -⟩ := World.currentPath_eq_ok_iff.1 hp
  obtain ⟨_, _, place', hd⟩ := h.entered g hg
  obtain rfl : place' = place := Option.some.inj (hd.stands.symm.trans hplace)
  rcases exists_linked h.linked hg with hfirst | ⟨inner, hinner, hlink⟩
  · have hstand := (h.stands.resolve_left (by simp [hc]) g hfirst).trans hplace
    obtain rfl : stand = place' := Option.some.inj (hc.symm.trans hstand)
    exact hfound.accessible hd.accessible.short
  · have hinside := hlink.trans hplace
    exact h.kept inner hinner ((World.canReturn_iff hinside).2 hd.accessible.short) place' hinside

/-- an enter that is refused changes nothing about the temporary directories -/
theorem Inv.temporaries_of_error (hlaw : temporary.Lawful) (h : Inv temporary s) {dir : Option Path} {f : Failure}
    (he : (enterWith temporary dir s.world).result = .error f) :
    (s.enter temporary dir).temporaries = s.temporaries := by
  obtain ⟨hgrows, hsame⟩ := RunDirectory.of_enterWith_error hlaw he
  rw [enter_of_error he]
  unfold temporaries
  congr 1
  refine List.filter_congr fun g hg => ?_
  obtain ⟨_, stand, place, hd⟩ := h.entered g hg
  rw [hd.place_eq, World.isDirectoryAt, World.isDirectoryAt]
  cases hp : s.world.currentPath with
  | error e => rw [hsame (Or.inr ⟨e, hp⟩)]
  | ok p =>
    have ha := h.accessible_of_currentPath hp hg hd.stands
    rw [ha.directory, (ha.grows hgrows).directory]

end Guarded

/-! ## Runs -/

/-- a run of programs in `dir` from `w` has left the process where it stood, unless no path leads back there, and the
temporary directory, if it was run in one, is gone -/
structure Restored (temporary : Provider) (dir : Option Path) (w w' : World) : Prop where
  stands : w.CanReturn → w'.cwd = w.cwd
  gone : ∀ d, (enterWith temporary dir w).result = .ok d → d.ephemeral = true → ¬w'.InTree d.place
  /-- nothing is left of a temporary directory that could not be entered -/
  undone : ∀ f, (enterWith temporary dir w).result = .error f → dir = none → ∀ q, w'.find? q = w.find? q

section
variable {temporary : Provider} {launch : Launcher} {registry : Registry} {dir : Option Path} {w : World}

/-- what is not run needs no directory -/
theorem Restored.refl (hlaw : temporary.Lawful) (dir : Option Path) (w : World) : Restored temporary dir w w where
  stands := fun _ => rfl
  gone := fun d h he hin => by
    obtain ⟨stand, place, hd⟩ := RunDirectory.of_enterWith hlaw h
    rw [hd.place_eq] at hin
    exact World.not_prefix_of_free (hd.fresh he) hin List.prefix_rfl
  undone := fun _ _ _ _ => rfl

/-- a batch is one guard around its programs -/
theorem Batch.restored_run {programs : List Program} {limit : Option ℕ} (hlaw : temporary.Lawful)
    (h : ∀ d, (enterWith temporary dir w).result = .ok d →
      (enterWith temporary dir w).world.Spares w.cwd.toList
        (runAll launch registry ⟨d.path, limit⟩ programs (enterWith temporary dir w).world).world) :
    Restored temporary dir w (run launch registry programs dir limit temporary w).world := by
  cases he : (enterWith temporary dir w).result with
  | error f =>
    rw [run, Action.bind_of_error he]
    obtain ⟨hgrows, hsame⟩ := RunDirectory.of_enterWith_error hlaw he
    refine ⟨fun _ => hgrows.stands, fun d hd => ?_, fun _ _ hdir => hsame (Or.inl hdir)⟩
    rw [he] at hd
    cases hd
  | ok d =>
    have he' : (enterWith temporary dir (⟨w, []⟩ : Guarded).world).result = .ok d := he
    have hentered := (Guarded.inv_start temporary w).enter_ok hlaw he'
    rw [Guarded.enter_of_ok he'] at hentered
    have horigins : Guarded.origins ⟨(enterWith temporary dir w).world, [⟨d, w, (enterWith temporary dir w).world⟩]⟩ =
        w.cwd.toList := by
      obtain ⟨stand, place, hd⟩ := RunDirectory.of_enterWith hlaw he
      simp [Guarded.origins, hd.stood]
    have hinv := hentered.activity (horigins ▸ h d he)
    have hleft := hinv.left rfl
    rw [run_eq he]
    refine ⟨hleft.returns.2, fun d' hd' heph => ?_, fun f hf => ?_⟩
    · obtain rfl := Except.ok.inj (he.symm.trans hd')
      exact hleft.gone heph
    · rw [he] at hf
      cases hf

theorem DocFile.restored_run {docFile : Path} {config : Config} (hlaw : temporary.Lawful)
    (h : registry.Spares launch w.cwd.toList) :
    Restored temporary dir w (run launch docFile dir config registry temporary w).world := by
  cases hp : (parse docFile config.markers registry w).result with
  | error f =>
    rw [run_of_parse_error hp]
    exact .refl hlaw dir w
  | ok programs =>
    rw [run_of_parse_ok hp]
    exact Batch.restored_run hlaw fun d _ => Batch.spares_runAll h _ programs _

theorem Package.restored_run {package : Text} {config : Config} (hlaw : temporary.Lawful)
    (h : launch.Spares w.cwd.toList) :
    let found := (config.locate.findDocFile launch package w).world
    found.cwd = w.cwd ∧ Restored temporary dir found (run launch package dir config temporary w).world := by
  intro found
  have hspares : w.Spares w.cwd.toList found := Locate.spares_findDocFile h config.locate package w
  refine ⟨hspares.cwd_eq, ?_⟩
  let search := (config.locate.findDocFile launch package).during (.locateDocumentation package)
  have hworld : (search w).world = found := rfl
  cases hr : (search w).result with
  | error f =>
    rw [run, Action.bind_of_error hr, hworld]
    exact .refl hlaw dir found
  | ok docFile =>
    rw [run, Action.bind_of_ok hr, hworld]
    refine DocFile.restored_run hlaw ?_
    rw [hspares.cwd_eq]
    exact Registry.spares_ofConfig h config

end

namespace Guarded

/-- **Guards restore what they changed.** With any lawful provider of temporary directories and from any start, whatever
is entered, left and done meanwhile:
- the path of a live guard is absolute, and nothing was at the place of a temporary directory before it was entered;
- leaving takes the process back to where it stood before, exactly if the path of that place is short enough to be
  followed, and for all but the first guard it is, in a tree without symbolic links;
- leaving removes a temporary directory with whatever is in it, and nothing if the directory was named;
- a directory that is entered is there, and a refused enter moves neither the process nor adds or removes a temporary
  directory; one that was made and could not be entered is gone again;
- so a batch, a doc file and a package that are run, however they end, leave the process where it stood, unless that is
  so far away, and no temporary directory. -/
theorem guards_restore (temporary : Provider) (hlaw : temporary.Lawful) (start : World) :
    (∀ s, Reached temporary start s →
      (∀ g ∈ s.live, Path.isAbsolute g.directory.path = true ∧
        (g.directory.ephemeral = true →
          g.before.find? g.directory.place = none ∧ g.before.pathExists g.directory.path = false)) ∧
      (∀ g outer, s.live = g :: outer →
        ((s.leave temporary).world.cwd = g.before.cwd ↔ g.before.CanReturn) ∧
        (outer ≠ [] → g.before.CanReturn) ∧
        (g.directory.ephemeral = true →
          ¬(s.leave temporary).world.InTree g.directory.place ∧
          ((s.world.pathExists g.directory.path = true → s.world.isDirectory g.directory.path = true) →
            (s.leave temporary).world.pathExists g.directory.path = false)) ∧
        (g.directory.ephemeral = false → ∀ q, (s.leave temporary).world.find? q = s.world.find? q)) ∧
      (∀ dir d, (enterWith temporary dir s.world).result = .ok d →
        d.ephemeral = dir.isNone ∧ (s.enter temporary dir).world.isDirectory d.path = true) ∧
      ∀ dir f, (enterWith temporary dir s.world).result = .error f →
        (s.enter temporary dir).world.cwd = s.world.cwd ∧ (s.enter temporary dir).live = s.live ∧
        (s.enter temporary dir).temporaries = s.temporaries ∧ s.world.Grows (s.enter temporary dir).world ∧
        (dir = none → ∀ q, (s.enter temporary dir).world.find? q = s.world.find? q)) ∧
    (∀ launch registry programs dir limit,
      (∀ d, (enterWith temporary dir start).result = .ok d →
        (enterWith temporary dir start).world.Spares start.cwd.toList
          (Batch.runAll launch registry ⟨d.path, limit⟩ programs (enterWith temporary dir start).world).world) →
      Restored temporary dir start (Batch.run launch registry programs dir limit temporary start).world) ∧
    (∀ launch docFile dir config registry, Registry.Spares launch start.cwd.toList registry →
      Restored temporary dir start (DocFile.run launch docFile dir config registry temporary start).world) ∧
    ∀ launch package dir config, Launcher.Spares start.cwd.toList launch →
      let found := (config.locate.findDocFile launch package start).world
      found.cwd = start.cwd ∧
        Restored temporary dir found (Package.run launch package dir config temporary start).world := by
  refine ⟨fun s h => ?_, fun _ _ _ _ _ => Batch.restored_run hlaw,
    fun _ _ _ _ _ => DocFile.restored_run hlaw, fun _ _ _ _ => Package.restored_run hlaw⟩
  have hinv := run_inv hlaw h
  refine ⟨fun g hg => ?_, fun g outer hl => ?_, fun dir d he => ?_, fun dir f he => ?_⟩
  · obtain ⟨dir, stand, place, hd⟩ := hinv.entered g hg
    refine ⟨hd.absolute, fun heph => ?_⟩
    have hnone : g.before.find? g.directory.place = none := by
      rw [hd.place_eq]
      exact hd.fresh heph place List.prefix_rfl
    exact ⟨hnone, World.pathExists_eq_false hd.absolute hnone⟩
  · have hleft := hinv.left hl
    exact ⟨hleft.returns, hinv.canReturn hl, fun heph => ⟨hleft.gone heph, hleft.cleared heph⟩, hleft.same⟩
  · obtain ⟨stand, place, hd⟩ := RunDirectory.of_enterWith hlaw he
    rw [enter_of_ok he]
    exact ⟨hd.ephemeral, (World.isDirectory_iff hd.absolute).2 ⟨place, hd.leads, hd.accessible.directory⟩⟩
  · obtain ⟨hgrows, hsame⟩ := RunDirectory.of_enterWith_error hlaw he
    refine ⟨?_, ?_, hinv.temporaries_of_error hlaw he, ?_, fun hdir => ?_⟩ <;> rw [enter_of_error he]
    · exact hgrows.stands
    · exact hgrows
    · exact hsame (Or.inl hdir)

/-! ## Two guards -/

/-- a process in the place for temporary directories -/
def temporaryWorld : World := { Batch.bareWorld with cwd := some World.temporaryPlace }

/-- a file written where the process stands -/
def withNotes (w : World) : World := (w.write "notes".toList [0x78]).toOption.getD w

theorem spares_withNotes (kept : List Location) (w : World) : w.Spares kept (withNotes w) := by
  unfold withNotes
  cases hw : w.write "notes".toList [0x78] with
  | error e => exact .refl kept w
  | ok w' => exact World.spares_write hw

/-- a temporary directory entered -/
def oneGuard : Guarded := (⟨temporaryWorld, []⟩ : Guarded).enter .system none

/-- and in it a file written, and a directory entered -/
def twoGuards : Guarded :=
  (⟨withNotes oneGuard.world, oneGuard.live⟩ : Guarded).enter .system (some "a/b".toList)

theorem reached_twoGuards : Reached .system temporaryWorld twoGuards := by
  have hone : Reached .system temporaryWorld oneGuard := Reached.start.next (.enter none _)
  exact (hone.next (.activity (spares_withNotes _ _))).next (.enter _ _)

/-- The named directory is left in place, an enter that runs into the file changes nothing, and the temporary directory
goes with all this; so it does behind a batch whose child writes a file there. With a provider whose directories cannot
be entered, the one that was made is gone again. -/
theorem guards_restore_two :
    let inner : Location := ["tmp".toList, "doctest000000".toList]
    let launch : Launcher := fun _ _ w => (withNotes w, .error .noEntry)
    let program : Program := ⟨3, 3, "a.py".toList, "py".toList, [], none⟩
    let refused := twoGuards.enter .system (some "/tmp/doctest000000/notes/x".toList)
    let left := twoGuards.leave .system
    Provider.system.Lawful ∧ Reached .system temporaryWorld twoGuards ∧
      left.world.cwd = some inner ∧ left.world.find? (inner ++ ["a".toList, "b".toList]) = some .directory ∧
      refused.temporaries = [inner] ∧
      (left.leave .system).world.cwd = some World.temporaryPlace ∧
      (left.leave .system).world.pathExists "/tmp/doctest000000".toList = false ∧
      Restored .system none temporaryWorld
        (Batch.run launch .builtin [program] none none .system temporaryWorld).world ∧
      Provider.distant.Lawful ∧ (∃ made, Provider.distant.make temporaryWorld = .ok made) ∧
      (∃ f, (enterWith .distant none temporaryWorld).result = .error f) ∧
      ∀ q, ((⟨temporaryWorld, []⟩ : Guarded).enter .distant none).world.find? q = temporaryWorld.find? q := by
  intro inner launch program refused left
  obtain ⟨hreach, hbatch, -⟩ := guards_restore .system Provider.lawful_system temporaryWorld
  obtain ⟨hdistant, -⟩ := guards_restore .distant Provider.lawful_distant temporaryWorld
  have hlive : twoGuards.live.map (fun g => (g.directory, g.before.cwd)) =
      [(⟨"/tmp/doctest000000/a/b".toList, "/tmp/doctest000000".toList, false⟩, some inner),
        (⟨"/tmp/doctest000000".toList, "/tmp".toList, true⟩, some World.temporaryPlace)] := by decide +kernel
  obtain ⟨second, more, hl, hsecond, hmore⟩ := List.map_eq_cons_iff.1 hlive
  obtain ⟨first, outer, rfl, hfirst, -⟩ := List.map_eq_cons_iff.1 hmore
  obtain ⟨hsecond, hinner⟩ := Prod.mk.inj hsecond
  obtain ⟨hfirst, houter⟩ := Prod.mk.inj hfirst
  have hleave : left.live = first :: outer := by simp only [left, leave, hl]
  obtain ⟨-, hleft, -, herror⟩ := hreach _ reached_twoGuards
  obtain ⟨-, hleft', -⟩ := hreach _ (reached_twoGuards.next (.leave twoGuards))
  obtain ⟨hback, hnear, -, hsame⟩ := hleft second _ hl
  obtain ⟨hback', -, hgone, -⟩ := hleft' first outer hleave
  have hnear' : first.before.CanReturn := (World.canReturn_iff houter).2 (by decide)
  have hf : (enterWith .system (some "/tmp/doctest000000/notes/x".toList) twoGuards.world).result =
      .error (Failure.during (.createDirectory "/tmp/doctest000000/notes/x".toList) (.ofSystem .notDirectory)) := by
    decide +kernel
  obtain ⟨f, hrefused⟩ := RunDirectory.enterWith_distant temporaryWorld
  have hmade : ∃ made, Provider.distant.make temporaryWorld = .ok made :=
    World.isSome_toOption_iff.1 (by decide +kernel)
  obtain ⟨-, -, -, hdistant⟩ := hdistant _ .start
  refine ⟨Provider.lawful_system, reached_twoGuards, ?_, ?_, ?_, ?_, ?_, ?_, Provider.lawful_distant, hmade,
    ⟨f, hrefused⟩, (hdistant none f hrefused).2.2.2.2 rfl⟩
  · rw [hback.2 (hnear (by simp)), hinner]
  · rw [hsame (by rw [hsecond])]
    decide +kernel
  · rw [(herror _ _ hf).2.2.1]
    decide +kernel
  · rw [hback'.2 hnear', houter]
  · rw [hfirst] at hgone
    exact (hgone rfl).2 fun _ => by decide +kernel
  · refine hbatch launch .builtin [program] none none fun d _ => Batch.spares_runAll ?_ _ _ _
    rintro extension strategy hget
    refine Strategy.spares_execute (fun c limit w => spares_withNotes _ w) fun behaviour hb => ?_
    exact Registry.get?_builtin_ne_supplied extension behaviour (hb ▸ hget)

/-! ## A start from afar -/

/-- a place to which only directories lead, and no path: the names are too many. A process comes to such a place when a
directory above it is moved. -/
def farPlace : Location := List.replicate 17 (List.replicate 250 'd')

/-- a process at a place to which no path leads -/
def farWorld : World where
  entries := Batch.bareWorld.entries ++
    (List.range 17).map fun n => { place := farPlace.take (n + 1), entry := .directory }
  cwd := some farPlace

theorem cwd_farWorld : farWorld.cwd = some farPlace := rfl

theorem inTree_farPlace : farWorld.InTree farPlace := World.isInTree_iff.1 (by decide +kernel)

theorem not_canReturn_farWorld : ¬farWorld.CanReturn := by
  have hlong : World.pathLimit ≤ (Text.encode (Path.ofNames farPlace)).length := by decide +kernel
  rw [World.canReturn_iff cwd_farWorld]
  exact Nat.not_lt.2 hlong

/-- **From afar there is no return.** A process stands in a directory whose path is longer than paths may be. It is told
where it stands, and put into a temporary directory; but it cannot be put back. -/
theorem no_return_from_afar :
    Provider.system.Lawful ∧ ∃ s g, Reached .system farWorld s ∧ s.live = [g] ∧ g.before = farWorld ∧
      (s.leave .system).world.cwd ≠ g.before.cwd := by
  have hcurrent : farWorld.currentPath = .ok (Path.ofNames farPlace) :=
    World.currentPath_eq_ok_iff.2 ⟨farPlace, cwd_farWorld, inTree_farPlace, Eq.refl _⟩
  obtain ⟨made, hmade⟩ := (World.isSome_toOption_iff (x := farWorld.makeTemporary)).1 (by decide +kernel)
  obtain ⟨d, hd⟩ := RunDirectory.enterWith_system hcurrent hmade
  have henter : (⟨farWorld, []⟩ : Guarded).enter .system none = _ := enter_of_ok hd
  have hreached : Reached .system farWorld _ := henter ▸ Reached.start.next (.enter none _)
  refine ⟨Provider.lawful_system, _, _, hreached, rfl, rfl, ?_⟩
  have hleft := (run_inv Provider.lawful_system hreached).left rfl
  exact mt hleft.returns.1 not_canReturn_farWorld

end Guarded
end RunnableDocs
