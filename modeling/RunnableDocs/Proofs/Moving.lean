/-
Which file is run once a program has been built.

The file that a build leaves is looked at from where the process stands, and started by the same path. But a child is
moved to its directory before its program is looked for (`Launcher.moving`), so the path is followed from inside the run
directory. What is known of both ways is `Strategy.Runs`: the file that is started is the one that was looked at exactly
if the path of the run directory, followed from inside, leads back to the run directory. The path of a place in the tree
does (`absolute`); a path that only leads down leads further down, to another file or to none (`nested`).

Both ways are compared through `World.Starts`, which tells where a path starts and along which names it leads, and
`World.resolve_join_iff`: what is in a directory is one step from where the path of the directory leads.
-/
import RunnableDocs.Machine
import RunnableDocs.Proofs.Endings
import RunnableDocs.Proofs.Written

namespace RunnableDocs

/-! ## The name of what is built -/

namespace Path
variable {p dir : Path} {name : Text}

theorem join_eq_or (dir q : Path) : join dir q = q ∨ ∃ init, join dir q = init ++ '/' :: q := by
  unfold join
  split_ifs with h hslash
  · exact Or.inl rfl
  · obtain ⟨init, hinit⟩ := List.getLast?_eq_some_iff.1 hslash
    exact Or.inr ⟨init, by rw [hinit, List.append_assoc]; rfl⟩
  · exact Or.inr ⟨dir, rfl⟩

/-- whether a joined path names a directory by its form is decided by its second part -/
theorem namesDirectory_join (dir q : Path) : namesDirectory (join dir q) = namesDirectory q := by
  rcases join_eq_or dir q with h | ⟨init, h⟩
  · rw [h]
  · rw [h, namesDirectory, Text.splitOn_append_cons,
      List.getLast?_append_of_ne_nil _ (Text.splitOn_ne_nil '/' q), namesDirectory]

/-- a path that does not name a directory by its form has a file name -/
theorem exists_fileName (h : namesDirectory p = false) : ∃ name, fileName? p = some name := by
  obtain ⟨init, last, hs⟩ := Text.exists_splitOn_eq_concat '/' p
  have hlast : (last ≠ [] ∧ last ≠ ['.']) ∧ last ≠ ['.', '.'] := by simpa [namesDirectory, hs] using h
  have hnames : (names p).getLast? = some last := by
    rw [names, hs, List.filter_append, List.filter_cons_of_pos (by simpa using hlast.1), List.filter_nil,
      List.getLast?_concat]
  exact ⟨last, by simp [fileName?, hnames, hlast.2]⟩

theorem of_fileName? (h : fileName? p = some name) : name ≠ [] ∧ '/' ∉ name := by
  cases hlast : (names p).getLast? with
  | none => simp [fileName?, hlast] at h
  | some last =>
    obtain ⟨-, rfl⟩ : ¬ last = ['.', '.'] ∧ last = name := by simpa [fileName?, hlast] using h
    have hm : last ∈ pieces p := by
      have := List.mem_of_getLast? hlast
      rw [names_eq] at this
      exact (List.mem_filter.1 this).1
    exact of_mem_pieces hm

/-- the stem of a name is its beginning, and it is empty only if the name is -/
theorem stemOf_prefix (name : Text) : stemOf name <+: name ∧ (name ≠ [] → stemOf name ≠ []) := by
  unfold stemOf
  split
  · exact ⟨List.prefix_rfl, id⟩
  · exact ⟨List.prefix_rfl, id⟩
  · rename_i c before hbefore hdrop
    obtain ⟨after, hafter⟩ := List.dropWhile_suffix (l := name.reverse) (fun d => decide (d ≠ '.'))
    rw [hdrop] at hafter
    have hname : name = before.reverse ++ c :: after.reverse := by
      rw [← List.reverse_reverse name, ← hafter]
      simp
    refine ⟨⟨c :: after.reverse, hname.symm⟩, fun _ hnil => hbefore ?_⟩
    simpa using hnil

/-- a joined path begins with its first part -/
theorem exists_join_eq (hn : IsComponent name) (dir : Path) : ∃ between, join dir name = dir ++ between ++ name := by
  simp only [join, hn.isAbsolute_eq_false, Bool.false_or]
  split_ifs with hnil
  · exact ⟨[], by rw [of_decide_eq_true hnil]; rfl⟩
  · exact ⟨[], by rw [List.append_nil]⟩
  · exact ⟨['/'], by simp⟩

/-- the names along pieces with a slash between them, and maybe one at the end -/
theorem names_intercalate {ps : List Text} (hne : ps ≠ []) (h : ∀ piece ∈ ps, piece ≠ [] ∧ '/' ∉ piece)
    (isSlashed : Bool) :
    names (['/'].intercalate ps ++ if isSlashed then ['/'] else []) = ps.filter (· ≠ ['.']) := by
  have hnone : pieces [] = [] := rfl
  cases isSlashed with
  | false => simp [names_eq, pieces_intercalate hne h]
  | true => simp [names_eq, pieces_append_slash, hnone, pieces_intercalate hne h]

end Path

/-- what is built has an ordinary name, unless that names a directory by its form -/
theorem isComponent_executableName {filename : Text} (h : Path.namesDirectory (executableName filename) = false)
    (hnull : '\x00' ∉ executableName filename) : Path.IsComponent (executableName filename) := by
  obtain ⟨name, hname⟩ : ∃ name, Path.fileName? filename = some name := by
    cases hfile : Path.fileName? filename with
    | some name => exact ⟨name, rfl⟩
    | none =>
      have hsame : executableName filename = filename := by simp [executableName, Path.stem?, hfile]
      rw [hsame] at h
      obtain ⟨name, hname⟩ := Path.exists_fileName h
      rw [hfile] at hname
      cases hname
  obtain ⟨hne, hslash⟩ := Path.of_fileName? hname
  have hstem : executableName filename = Path.stemOf name := by simp [executableName, Path.stem?, hname]
  obtain ⟨hbegins, hstemne⟩ := Path.stemOf_prefix name
  exact
    { ne_nil := hstem ▸ hstemne hne
      no_slash := fun hm => hslash (hbegins.subset (hstem ▸ hm))
      no_null := hnull
      ne_dot := fun he => by
        rw [he] at h
        exact absurd h (by decide)
      ne_up := fun he => by
        rw [he] at h
        exact absurd h (by decide) }

/-! ## Where a path starts, and the names to go from there -/

namespace World
variable {w : World} {dir p : Path} {name : Text} {start stand place : Location} {rest : List Text}

/-- the names along which a path leads, and the place from where -/
inductive Starts (w : World) (p : Path) : Location → List Text → Prop
  | root (ha : Path.isAbsolute p = true) : Starts w p [] (Path.names p)
  | stand {stand : Location} (ha : Path.isAbsolute p = false) (hne : p ≠ []) (hs : w.cwd = some stand) :
      Starts w p stand (Path.names p)
  | above {above : Location} {steps : ℕ} {pieces : List Text} (ha : Path.isAbsolute p = false) (hs : w.cwd = none)
      (ho : w.wayOut = some (above, steps)) (hb : behindSteps steps (Path.pieces p) = some pieces) :
      Starts w p above (pieces.filter (· ≠ ['.']))

theorem of_mem_behindSteps {n : ℕ} {pieces : List Text} (h : behindSteps n (Path.pieces p) = some pieces) :
    ∀ piece ∈ pieces, piece ≠ [] ∧ '/' ∉ piece := fun _ hm => Path.of_mem_pieces ((suffix_of_behindSteps h).subset hm)

/-- what can be followed has no null character, is not too long, and starts somewhere -/
theorem of_origin {way : Path} (h : w.origin p = .ok (start, way)) :
    '\x00' ∉ p ∧ (Text.encode p).length < pathLimit ∧ w.Starts p start (Path.names way) := by
  unfold origin at h
  split at h
  · cases h
  rename_i hnull
  split at h
  · cases h
  rename_i hlong
  refine ⟨by simpa using hnull, Nat.not_le.1 hlong, ?_⟩
  split at h
  · rename_i ha
    cases h
    exact .root ha
  rename_i ha
  have ha : Path.isAbsolute p = false := by simpa using ha
  split at h
  · rename_i hcwd
    split at h
    · cases h
    rename_i hne
    cases h
    exact .stand ha hne hcwd
  · cases h
  rename_i above steps hcwd hout
  split at h
  · cases h
  · rename_i hb
    cases h
    exact .above ha hcwd hout hb
  · rename_i pieces hne hb
    cases h
    rw [Path.names_intercalate hne (of_mem_behindSteps hb)]
    exact .above ha hcwd hout hb

/-- and every path like that can be followed -/
theorem Starts.exists_origin (h : w.Starts p start rest) (hnull : '\x00' ∉ p)
    (hshort : (Text.encode p).length < pathLimit) : ∃ way, w.origin p = .ok (start, way) ∧ Path.names way = rest := by
  have hshort : ¬ pathLimit ≤ (Text.encode p).length := Nat.not_le.2 hshort
  cases h with
  | root ha => exact ⟨p, by simp [origin, hnull, hshort, ha], rfl⟩
  | stand ha hne hs => exact ⟨p, by simp [origin, hnull, hshort, ha, hne, hs], rfl⟩
  | above ha hs ho hb =>
    rename_i steps pieces
    cases pieces with
    -- the path leads up to the directory that is left and no further
    | nil => exact ⟨['.'], by simp [origin, hnull, hshort, ha, hs, ho, hb], rfl⟩
    | cons piece pieces =>
      exact ⟨_, by simp [origin, hnull, hshort, ha, hs, ho, hb],
        Path.names_intercalate (by simp) (of_mem_behindSteps hb) (Path.endsInSlash p)⟩

/-- where a path leads that does not stay in removed directories -/
theorem resolve_iff (hremoved : w.stepsInRemoved p = none) : w.resolve p = .ok place ↔
    '\x00' ∉ p ∧ (Text.encode p).length < pathLimit ∧
      ∃ start rest, w.Starts p start rest ∧ rest.foldlM w.step start = .ok place := by
  rw [resolve, hremoved]
  constructor
  · intro h
    obtain ⟨⟨start, way⟩, ho, hfold⟩ := bind_eq_ok_iff.1 h
    obtain ⟨hnull, hshort, hstarts⟩ := of_origin ho
    exact ⟨hnull, hshort, start, _, hstarts, hfold⟩
  · rintro ⟨hnull, hshort, start, rest, hstarts, hfold⟩
    obtain ⟨way, ho, rfl⟩ := hstarts.exists_origin hnull hshort
    exact bind_eq_ok_iff.2 ⟨(start, way), ho, hfold⟩

/-! ## A directory and what is in it -/

/-- an ordinary name behind the steps up is left over -/
theorem behindSteps_concat (hn : Path.IsComponent name) (n : ℕ) (ps : List Text) :
    behindSteps n (ps ++ [name]) = (behindSteps n ps).map (· ++ [name]) := by
  induction ps generalizing n with
  | nil => cases n <;> simp [behindSteps, hn.ne_dot, hn.ne_up]
  | cons piece ps ih =>
    cases n with
    | zero => simp [behindSteps]
    | succ n =>
      by_cases hdot : piece = ['.']
      · simp only [hdot, List.cons_append, behindSteps, ih]
      · by_cases hup : piece = ['.', '.']
        · simp only [hup, List.cons_append, behindSteps, ih]
        · simp [behindSteps, hdot, hup]

/-- each step up is a piece of two dots -/
theorem le_count_of_behindSteps {n : ℕ} {ps rs : List Text} (h : behindSteps n ps = some rs) :
    n ≤ ps.count ['.', '.'] := by
  fun_induction behindSteps n ps with
  | case1 => exact Nat.zero_le _
  | case2 n ps ih =>
    rw [List.count_cons_of_ne (by decide)]
    exact ih h
  | case3 n ps ih =>
    rw [List.count_cons_self]
    exact Nat.succ_le_succ (ih h)
  | case4 => cases h

/-- a name joined to a path is one name more, from the same start -/
theorem starts_join_iff (hn : Path.IsComponent name) (hdir : dir ≠ []) :
    w.Starts (Path.join dir name) start rest ↔ ∃ before, w.Starts dir start before ∧ rest = before ++ [name] := by
  obtain ⟨hnames, habsolute⟩ := Path.isChild_of_isComponent hn dir
  constructor
  · rintro (ha | ⟨ha, -, hs⟩ | ⟨ha, hs, ho, hb⟩)
    · exact ⟨_, .root (habsolute ▸ ha), hnames⟩
    · exact ⟨_, .stand (habsolute ▸ ha) hdir hs, hnames⟩
    · rw [Path.pieces_join hn, behindSteps_concat hn] at hb
      obtain ⟨pieces, hpieces, rfl⟩ := Option.map_eq_some_iff.1 hb
      exact ⟨_, .above (habsolute ▸ ha) hs ho hpieces, by simp [hn.ne_dot]⟩
  · rintro ⟨before, ha | ⟨ha, -, hs⟩ | ⟨ha, hs, ho, hb⟩, rfl⟩
    · exact hnames ▸ .root (habsolute.trans ha)
    · exact hnames ▸ .stand (habsolute.trans ha) (Path.join_ne_nil hdir name) hs
    · have hjoined : behindSteps _ (Path.pieces (Path.join dir name)) = _ :=
        (congrArg _ (Path.pieces_join hn)).trans ((behindSteps_concat hn _ _).trans (congrArg _ hb))
      have hstarts := Starts.above (habsolute.trans ha) hs ho hjoined
      rwa [List.filter_append, List.filter_cons_of_pos (by simpa using hn.ne_dot), List.filter_nil] at hstarts

/-- no path that ends in an ordinary name stays in removed directories -/
theorem stepsInRemoved_join (hn : Path.IsComponent name) : w.stepsInRemoved (Path.join dir name) = none := by
  unfold stepsInRemoved
  split
  · simp [Path.pieces_join hn, Path.isDots, hn.ne_dot, hn.ne_up]
  · rfl

/-- where a path starts from a place in the tree, it leaves removed directories -/
theorem Starts.stepsInRemoved_eq (h : w.Starts p start rest) : w.stepsInRemoved p = none := by
  cases h with
  | root ha => exact stepsInRemoved_of_absolute ha
  | stand ha hne hs => simp [stepsInRemoved, hs]
  | above ha hs ho hb => simp [stepsInRemoved, hs, ho, Nat.not_lt.2 (le_count_of_behindSteps hb)]

/-- what is in a directory is one step from where the path of the directory leads -/
theorem resolve_join_iff (hn : Path.IsComponent name) (hdir : dir ≠ []) :
    w.resolve (Path.join dir name) = .ok place ↔
      '\x00' ∉ Path.join dir name ∧ (Text.encode (Path.join dir name)).length < pathLimit ∧
        w.stepsInRemoved dir = none ∧ ∃ stand, w.resolve dir = .ok stand ∧ w.step stand name = .ok place := by
  rw [resolve_iff (stepsInRemoved_join hn)]
  refine and_congr_right fun hnull => and_congr_right fun hshort => ?_
  obtain ⟨between, hjoin⟩ := Path.exists_join_eq hn dir
  have hdirnull : '\x00' ∉ dir := fun hm => hnull (by simp [hjoin, hm])
  have hdirshort : (Text.encode dir).length < pathLimit := by
    rw [hjoin, Path.length_encode_append, Path.length_encode_append] at hshort
    omega
  have hfold : ∀ {before : List Text} {start : Location}, (before ++ [name]).foldlM w.step start = .ok place ↔
      ∃ stand, before.foldlM w.step start = .ok stand ∧ w.step stand name = .ok place := by
    intro before start
    rw [List.foldlM_append, bind_eq_ok_iff]
    simp [List.foldlM_cons]
  constructor
  · rintro ⟨start, rest, hstarts, hrest⟩
    obtain ⟨before, hbefore, rfl⟩ := (starts_join_iff hn hdir).1 hstarts
    obtain ⟨stand, hstand, hstep⟩ := hfold.1 hrest
    have hremoved := hbefore.stepsInRemoved_eq
    exact ⟨hremoved, stand, (resolve_iff hremoved).2 ⟨hdirnull, hdirshort, start, before, hbefore, hstand⟩, hstep⟩
  · rintro ⟨hremoved, stand, hstand, hstep⟩
    obtain ⟨-, -, start, before, hbefore, hfolded⟩ := (resolve_iff hremoved).1 hstand
    exact ⟨start, _, (starts_join_iff hn hdir).2 ⟨before, hbefore, rfl⟩, hfold.2 ⟨stand, hfolded, hstep⟩⟩

theorem changeDirectory_of_resolve (hremoved : w.stepsInRemoved p = none) (hr : w.resolve p = .ok stand)
    (hd : w.find? stand = some .directory) : w.changeDirectory p = .ok (w.movedTo stand) := by
  simp [changeDirectory, at?, hremoved, hr, hd, bind, Except.bind, movedTo]

/-- the empty path leads nowhere -/
theorem changeDirectory_nil (hout : ∀ above, w.wayOut ≠ some (above, 0)) :
    w.changeDirectory [] = .error .noEntry := by
  have hpieces : Path.pieces [] = [] := rfl
  have hremoved : w.stepsInRemoved [] = none := by
    unfold stepsInRemoved
    split
    · simp [hpieces]
    · rfl
  have horigin : w.origin [] = .error .noEntry := by
    cases hcwd : w.cwd with
    | some stand => simp [origin, Path.isAbsolute, hcwd, Text.encode, pathLimit]
    | none =>
      rcases ho : w.wayOut with _ | ⟨above, _ | steps⟩
      · simp [origin, Path.isAbsolute, hcwd, ho, Text.encode, pathLimit]
      · exact absurd ho (hout above)
      · simp [origin, Path.isAbsolute, hcwd, ho, Text.encode, pathLimit, hpieces, behindSteps]
  simp [changeDirectory, at?, resolve, hremoved, horigin, bind, Except.bind]

/-- a file that is there has a path to it that does not name a directory by its form -/
theorem of_isFile (h : w.isFile p = true) :
    w.stepsInRemoved p = none ∧ Path.namesDirectory p = false ∧ ∃ place, w.resolve p = .ok place := by
  have hat : ∃ e, w.at? p = .ok e ∧ e ≠ .directory := by
    unfold isFile at h
    split at h
    · exact ⟨_, ‹_›, by simp⟩
    · exact ⟨_, ‹_›, by simp⟩
    · cases h
  obtain ⟨e, hat, hne⟩ := hat
  unfold at? at hat
  by_cases hremoved : (w.stepsInRemoved p).isSome = true
  · rw [if_pos hremoved] at hat
    exact absurd (Except.ok.inj hat).symm hne
  rw [if_neg hremoved] at hat
  obtain ⟨place, hplace, hat⟩ := bind_eq_ok_iff.1 hat
  refine ⟨by simpa using hremoved, ?_, place, hplace⟩
  split at hat
  · cases hat
  · exact absurd (Except.ok.inj hat).symm hne
  · split_ifs at hat with hform
    simpa using hform

/-- seen from inside a directory, what is in it is where it was exactly if the path of the directory leads there -/
theorem resolve_inside_iff (hn : Path.IsComponent name) (hdir : dir ≠ [])
    (h : w.resolve (Path.join dir name) = .ok (stand ++ [name])) :
    (w.movedTo stand).resolve (Path.join dir name) = .ok (stand ++ [name]) ↔
      (w.movedTo stand).resolve dir = .ok stand := by
  obtain ⟨hnull, hshort, -, q, -, hstep⟩ := (resolve_join_iff hn hdir).1 h
  obtain rfl : q = stand := (List.append_inj_left' (step_component hn hstep) rfl).symm
  have hsame : (w.movedTo q).step = w.step := rfl
  have hremoved : (w.movedTo q).stepsInRemoved dir = none := rfl
  rw [resolve_join_iff hn hdir]
  constructor
  · rintro ⟨-, -, -, r, hr, hlast⟩
    obtain rfl : r = q := (List.append_inj_left' (step_component hn hlast) rfl).symm
    exact hr
  · intro hr
    exact ⟨hnull, hshort, hremoved, q, hr, hstep⟩

/-- a path that only leads down leads further down from inside -/
theorem eq_of_resolve_inside (hn : Path.IsComponent name) (hdir : dir ≠ []) (ha : Path.isAbsolute dir = false)
    (hdown : ['.', '.'] ∉ Path.names dir)
    (h : (w.movedTo stand).resolve (Path.join dir name) = .ok place) :
    place = stand ++ Path.names dir ++ [name] := by
  obtain ⟨-, -, hremoved, q, hq, hstep⟩ := (resolve_join_iff hn hdir).1 h
  obtain ⟨-, -, start, rest, hstarts, hfold⟩ := (resolve_iff hremoved).1 hq
  obtain ⟨rfl, rfl⟩ : start = stand ∧ rest = Path.names dir := by
    cases hstarts with
    | root habsolute => simp [ha] at habsolute
    | stand _ _ hs => exact ⟨(Option.some.inj hs).symm, rfl⟩
    | above _ hs => cases hs
  rw [step_component hn hstep, eq_of_foldlM_step (fun name hm he => hdown (he ▸ hm)) hfold]

end World

/-! ## Children that are moved -/

/-- the place of a command's program: the child is moved to its directory first, and from there a path is followed; a
plain name is searched for -/
def Command.place (search : Text → World → Except SystemError Location) (c : Command) (w : World) :
    Except SystemError Location := do
  let child ← match c.dir with
    | some dir => w.changeDirectory dir
    | none => .ok w
  if '/' ∈ c.program then child.resolve c.program else search c.program child

namespace Launcher
variable (search : Text → World → Except SystemError Location) (start : Location → Launcher)

/-- what was found is started, or the child is refused -/
def startFound (found : Except SystemError Location) : Launcher := fun c limit w =>
  match found with
  | .ok place => start place c limit w
  | .error e => (w, .error e)

@[simp] theorem startFound_ok (place : Location) : startFound start (.ok place) = start place := rfl

/-- a launcher that moves a child to its directory before it looks for the program, and starts the file at that place -/
def moving : Launcher := fun c limit w => startFound start (c.place search w) c limit w

end Launcher

namespace Strategy
variable {search : Text → World → Except SystemError Location} {start : Location → Launcher} {p : Program} {s : Setting}
  {parts : List Text} {w left : World} {stand : Location}

/-- a program that was built, once what was built has come to this -/
def afterBuild (p : Program) (s : Setting) (r : World × Except SystemError Ended) : Outcome Text :=
  ⟨[.build p.filename, .run (executableName p.filename)], r.1, match r.2 with
    | .error e => .error ((executable s p).refusal (shownExecutable p) e)
    | .ok ended => stdoutOf s (.ofEnded ended) (.run (shownExecutable p))⟩

/-- once it was looked at and found, what was built is started -/
theorem execute_of_isFile {launch : Launcher} (h : Built launch p s parts w left)
    (hx : left.isFile (executablePath s p) = true) :
    (buildThenRun parts).execute launch p s w = afterBuild p s (launch (executable s p) s.limit left) := by
  refine (buildAndRun_of_built h).trans ?_
  rcases hl : launch (executable s p) s.limit left with ⟨left', e | ended⟩
  · rw [runExecutable_of_isFile hx, runBuilt_of_refused hl]
    rfl
  · rw [runExecutable_of_isFile hx, runBuilt_of_ended hl]
    rfl

/-- the file that was looked at after a build, and the file that is started, told from the place of the run directory -/
structure Runs (search : Text → World → Except SystemError Location) (start : Location → Launcher) (p : Program)
    (s : Setting) (parts : List Text) (w left : World) (stand : Location) : Prop where
  /-- the run directory is there -/
  directory : left.resolve s.workdir = .ok stand ∧ left.find? stand = some .directory
  /-- the file that was looked at is in it -/
  checked : left.resolve (executablePath s p) = .ok (stand ++ [executableName p.filename])
  /-- the path of that file is followed from inside, and what it leads to is started -/
  run : (buildThenRun parts).execute (Launcher.moving search start) p s w =
    afterBuild p s (Launcher.startFound start ((left.movedTo stand).resolve (executablePath s p)) (executable s p)
      s.limit left)
  /-- it leads to the file that was looked at exactly if the path of the run directory leads back to it -/
  same : (left.movedTo stand).resolve (executablePath s p) = left.resolve (executablePath s p) ↔
    (left.movedTo stand).resolve s.workdir = left.resolve s.workdir
  /-- so it does if the path is absolute -/
  absolute : Path.isAbsolute s.workdir = true →
    (left.movedTo stand).resolve (executablePath s p) = left.resolve (executablePath s p)
  /-- a path that only leads down from where the process stands leads further down -/
  nested : Path.isAbsolute s.workdir = false → ['.', '.'] ∉ Path.names s.workdir → ∀ place,
    (left.movedTo stand).resolve (executablePath s p) = .ok place →
    place = stand ++ Path.names s.workdir ++ [executableName p.filename]

/-- what is looked at after a build and found to be a file has an ordinary name -/
theorem isComponent_of_isFile (h : left.isFile (executablePath s p) = true) :
    Path.IsComponent (executableName p.filename) := by
  obtain ⟨hremoved, hform, place, hplace⟩ := World.of_isFile h
  obtain ⟨hnull, -⟩ := (World.resolve_iff hremoved).1 hplace
  rw [executablePath, Path.namesDirectory_join] at hform
  refine isComponent_executableName hform fun hm => hnull ?_
  rcases Path.join_eq_or s.workdir (executableName p.filename) with hjoin | ⟨init, hjoin⟩
  · rw [executablePath, hjoin]
    exact hm
  · rw [executablePath, hjoin]
    exact List.mem_append_right _ (List.mem_cons_of_mem _ hm)

theorem place_executable {child : World} (hchild : left.changeDirectory s.workdir = .ok child)
    (hslash : '/' ∈ executablePath s p) :
    (executable s p).place search left = child.resolve (executablePath s p) := by
  simp only [Command.place, executable, hchild, bind, Except.bind]
  exact if_pos hslash

/-- nothing is built in a directory without a path: no child can be moved there -/
theorem workdir_ne_nil_of_built (hout : ∀ above, w.wayOut ≠ some (above, 0))
    (h : Built (Launcher.moving search start) p s parts w left) : s.workdir ≠ [] := by
  intro hnil
  obtain ⟨command, ended, ⟨-, w', hwrite, hlaunch⟩, -⟩ := h
  have hmove : w'.changeDirectory s.workdir = .error .noEntry := by
    rw [hnil]
    exact World.changeDirectory_nil fun above he => hout above ((World.wayOut_of_write hwrite).symm.trans he)
  simp [Launcher.moving, Launcher.startFound, Command.place, forFile, hmove, bind, Except.bind] at hlaunch

/-- **What is run after a build.** The path of the file that was looked at is followed a second time, from inside the
run directory, and what it leads to then is started. That is the file that was looked at exactly if the path of the run
directory, too, leads from inside to where it led from outside. There are no symbolic links in the tree of files: what
is said of an absolute path of a run directory, and of one that only leads down, rests on that. -/
theorem checked_path_is_followed_from_inside (hout : ∀ above, w.wayOut ≠ some (above, 0))
    (hbuilt : Built (Launcher.moving search start) p s parts w left)
    (hfile : left.isFile (executablePath s p) = true) : ∃ stand, Runs search start p s parts w left stand := by
  have hdir := workdir_ne_nil_of_built hout hbuilt
  have hn := isComponent_of_isFile hfile
  obtain ⟨-, -, place, hplace⟩ := World.of_isFile hfile
  obtain ⟨-, -, hremoved, stand, hstand, hstep⟩ := (World.resolve_join_iff hn hdir).1 hplace
  have hdirectory := (World.step_eq_ok_iff.1 hstep).1
  obtain rfl := World.step_component hn hstep
  have hchild := World.changeDirectory_of_resolve hremoved hstand hdirectory
  have hslash : '/' ∈ executablePath s p := by
    rcases Path.join_eq hn with ⟨hnil, -⟩ | ⟨init, hjoin, -⟩
    · exact absurd hnil hdir
    · rw [executablePath, hjoin]
      exact List.mem_append_right _ List.mem_cons_self
  have hback : (left.movedTo stand).resolve (executablePath s p) = left.resolve (executablePath s p) ↔
      (left.movedTo stand).resolve s.workdir = left.resolve s.workdir := by
    rw [hplace, hstand]
    exact World.resolve_inside_iff hn hdir hplace
  exact ⟨stand,
    { directory := ⟨hstand, hdirectory⟩
      checked := hplace
      run := by rw [execute_of_isFile hbuilt hfile, Launcher.moving, place_executable hchild hslash]
      same := hback
      absolute := fun ha => hback.2 (World.resolve_congr ha fun _ => rfl)
      nested := fun ha hdown place => World.eq_of_resolve_inside hn hdir ha hdown }⟩

/-! ## A script that is copied to its stem -/

/-- a small system: a shell, two tools, and a directory where the process stands with an empty one in it -/
def smallWorld : World where
  entries :=
    [⟨["bin".toList], .directory, 1, 0, 0o755⟩, ⟨["bin".toList, "sh".toList], .tool "sh".toList, 2, 0, 0o755⟩,
      ⟨["bin".toList, "cp".toList], .tool "cp".toList, 2, 0, 0o755⟩,
      ⟨["bin".toList, "chmod".toList], .tool "chmod".toList, 2, 0, 0o755⟩,
      ⟨["home".toList], .directory, 1, 0, 0o755⟩, ⟨["home".toList, "sub".toList], .directory, 2, 0, 0o755⟩]
  cwd := some ["home".toList]

def script : Program := ⟨1, 1, "prog.sh".toList, "sh".toList, "#!/bin/sh\necho built\n".toList, none⟩

/-- a copy of the file is made under its stem, for anybody to run -/
def copyBuild : List Text :=
  ["sh".toList, "-c".toList, "cp \"$0\" \"$\x7b0%.*\x7d\" && chmod +x \"$\x7b0%.*\x7d\"".toList]

/-- the empty directory by the path of its place, and as the process sees it from where it stands -/
def byPlace : Setting := ⟨"/home/sub".toList, none⟩

def fromHome : Setting := ⟨"sub".toList, none⟩

def copying (s : Setting) : Command := forFile s script ⟨"sh".toList, copyBuild.tail, none⟩

def writtenWorld : World :=
  smallWorld.put ["home".toList, "sub".toList, "prog.sh".toList] (.file (Text.encode script.code) World.newFileMode)

/-- the copy is made one millisecond after the build begins, and one before it ends -/
def copiedWorld : World :=
  let copying := { writtenWorld with now := 1 }
  { copying.put ["home".toList, "sub".toList, "prog".toList] (.file (Text.encode script.code) 0o755) with now := 2 }

theorem built_script {launch : Launcher} {s : Setting}
    (hwrite : smallWorld.write (sourcePath s script) (Text.encode script.code) = .ok writtenWorld)
    (hlaunch : launch (copying s) s.limit writtenWorld = (copiedWorld, .ok ⟨.exited 0, [], [], false⟩)) :
    Built launch script s copyBuild smallWorld copiedWorld :=
  ⟨_, _, ⟨rfl, writtenWorld, hwrite, hlaunch⟩, by decide⟩

/-- the machine, told the place of the program that it starts -/
def placedMachine : Launcher := Launcher.moving (fun name _ => .ok ["bin".toList, name]) fun _ => Machine.launch

theorem checked_path_is_followed_from_inside_by_place :
    (∀ above, smallWorld.wayOut ≠ some (above, 0)) ∧
      Built placedMachine script byPlace copyBuild smallWorld copiedWorld ∧
      copiedWorld.isFile (executablePath byPlace script) = true ∧
      ((buildThenRun copyBuild).execute placedMachine script byPlace smallWorld).result = .ok "built\n".toList := by
  have hout : ∀ above, smallWorld.wayOut ≠ some (above, 0) := by simp [smallWorld]
  have hbuilt : Built placedMachine script byPlace copyBuild smallWorld copiedWorld :=
    built_script (by decide +kernel) (by decide +kernel)
  have hfile : copiedWorld.isFile (executablePath byPlace script) = true := by decide +kernel
  refine ⟨hout, hbuilt, hfile, ?_⟩
  obtain ⟨stand, h⟩ := checked_path_is_followed_from_inside hout hbuilt hfile
  have hrun : (buildThenRun copyBuild).execute placedMachine script byPlace smallWorld =
      afterBuild script byPlace (Machine.launch (executable byPlace script) byPlace.limit copiedWorld) := by
    refine h.run.trans ?_
    rw [h.absolute (by decide), h.checked, Launcher.startFound_ok]
  rw [hrun]
  decide +kernel

/-- **Built and not run.** The machine moves a child before it looks for its program. In a run directory that is named
as the process sees it, the build leaves a file that runs from there by its name, and that is looked at and found. But
its path leads nowhere from inside, and the program fails. -/
theorem built_and_not_run :
    Built Machine.launch script fromHome copyBuild smallWorld copiedWorld ∧
      copiedWorld.isFile (executablePath fromHome script) = true ∧
      (Machine.launch ⟨shownExecutable script, [], some fromHome.workdir⟩ none copiedWorld).2 =
        .ok ⟨.exited 0, Text.encode "built\n".toList, [], false⟩ ∧
      ((buildThenRun copyBuild).execute Machine.launch script fromHome smallWorld).result =
        .error ((executable fromHome script).refusal (shownExecutable script) .noEntry) := by
  have hbuilt : Built Machine.launch script fromHome copyBuild smallWorld copiedWorld :=
    built_script (by decide +kernel) (by decide +kernel)
  have hfile : copiedWorld.isFile (executablePath fromHome script) = true := by decide +kernel
  refine ⟨hbuilt, hfile, by decide +kernel, ?_⟩
  rw [execute_of_isFile hbuilt hfile]
  decide +kernel

end Strategy
end RunnableDocs
