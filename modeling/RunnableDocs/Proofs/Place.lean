/-
Places and the paths that lead to them.

The path of a place names it piece by piece (`Path.names_ofNames`). It leads to the place if everything above is a
directory (`World.resolve_ofNames`), and it never leads anywhere else: where an absolute path can lead depends on its
names alone (`World.eq_location_of_resolve`). Whatever an absolute path leads to can be reached by the path of its place
as well (`World.reachable_of_resolve`): going up only shortens the way, so that what was short enough stays so. A
directory in the tree (`World.InTree`) is accessible unless its path is too long.
-/
import Mathlib.Tactic
import RunnableDocs.World
import RunnableDocs.Proofs.Text.Lines

namespace RunnableDocs

namespace Path

/-- what the entry of a directory can be called -/
structure IsName (name : Text) : Prop where
  ne_nil : name ≠ []
  no_slash : '/' ∉ name
  no_null : '\x00' ∉ name
  ne_dot : name ≠ ['.']
  ne_up : name ≠ ['.', '.']
  short : (Text.encode name).length ≤ World.maxNameLength

theorem splitOn_names {first : Text} {names : List Text} (hfirst : '/' ∉ first) (h : ∀ name ∈ names, '/' ∉ name) :
    Text.splitOn '/' (first ++ names.flatMap ('/' :: ·)) = first :: names := by
  induction names generalizing first with
  | nil => simpa using Text.splitOn_of_not_mem hfirst
  | cons name names ih =>
    rw [List.forall_mem_cons] at h
    rw [List.flatMap_cons, List.cons_append, Text.splitOn_append_mark hfirst, ih h.1 h.2]

theorem join_ne_nil {p : Path} (h : p ≠ []) (q : Path) : join p q ≠ [] := by
  unfold join
  split_ifs with habsolute hslash
  · rintro rfl
    simp [isAbsolute, h] at habsolute
  · simp [h]
  · simp

theorem isAbsolute_ofNames (names : List Text) : isAbsolute (ofNames names) = true := by
  cases names <;> simp [isAbsolute, ofNames]

theorem pieces_ofNames {place : List Text} (h : ∀ name ∈ place, IsName name) : pieces (ofNames place) = place := by
  cases place with
  | nil => rfl
  | cons name place =>
    have hs : Text.splitOn '/' ((name :: place).flatMap ('/' :: ·)) = [] :: name :: place :=
      splitOn_names List.not_mem_nil fun n hn => (h n hn).no_slash
    have hall : ∀ n ∈ name :: place, decide (n ≠ []) = true := fun n hn => decide_eq_true (h n hn).ne_nil
    rw [pieces, ofNames, hs, List.filter_cons_of_neg (by simp), List.filter_eq_self.2 hall]
    · simp

theorem names_eq (p : Path) : names p = (pieces p).filter (· ≠ ['.']) := by
  simp [names, pieces, List.filter_filter, Bool.and_comm]

theorem names_ofNames {place : List Text} (h : ∀ name ∈ place, IsName name) : names (ofNames place) = place := by
  rw [names_eq, pieces_ofNames h, List.filter_eq_self]
  exact fun n hn => decide_eq_true (h n hn).ne_dot

/-- where names lead from a place; going up takes the last name away -/
def walk (start : List Text) (names : List Text) : List Text :=
  names.foldl (fun place name => if name = ['.', '.'] then place.dropLast else place ++ [name]) start

/-- the place that an absolute path leads to, if it leads anywhere -/
def location (p : Path) : List Text := walk [] (names p)

@[simp] theorem walk_nil (start : List Text) : walk start [] = start := rfl

theorem walk_cons (start : List Text) (name : Text) (rest : List Text) :
    walk start (name :: rest) = walk (if name = ['.', '.'] then start.dropLast else start ++ [name]) rest := rfl

theorem walk_of_down {start rest : List Text} (h : ∀ name ∈ rest, name ≠ ['.', '.']) :
    walk start rest = start ++ rest := by
  induction rest generalizing start with
  | nil => simp
  | cons name rest ih =>
    rw [List.forall_mem_cons] at h
    rw [walk_cons, if_neg h.1, ih h.2, List.append_assoc, List.singleton_append]

theorem location_ofNames {place : List Text} (h : ∀ name ∈ place, IsName name) : location (ofNames place) = place := by
  rw [location, names_ofNames h, walk_of_down fun name hm => (h name hm).ne_up, List.nil_append]

theorem not_mem_ofNames {place : List Text} (h : ∀ name ∈ place, IsName name) : '\x00' ∉ ofNames place := by
  cases place with
  | nil => simp [ofNames]
  | cons name place =>
    intro hm
    obtain ⟨n, hn, hc⟩ := List.mem_flatMap.1 hm
    rcases List.mem_cons.1 hc with hc | hc
    · exact absurd hc (by decide)
    · exact (h n hn).no_null hc

/-- the bytes of names with a slash before each -/
def size (names : List Text) : Nat := (names.map fun name => (Text.encode name).length + 1).sum

@[simp] theorem size_nil : size [] = 0 := rfl

theorem size_cons (name : Text) (names : List Text) :
    size (name :: names) = (Text.encode name).length + 1 + size names := by simp [size]

theorem size_append (names more : List Text) : size (names ++ more) = size names + size more := by simp [size]

theorem size_le_of_sublist {names more : List Text} (h : names.Sublist more) : size names ≤ size more :=
  (h.map _).sum_le_sum fun _ _ => Nat.zero_le _

theorem length_encode_cons (c : Char) (t : Text) :
    (Text.encode (c :: t)).length = (String.utf8EncodeChar c).length + (Text.encode t).length := by simp [Text.encode]

theorem length_encode_append (t u : Text) :
    (Text.encode (t ++ u)).length = (Text.encode t).length + (Text.encode u).length := by simp [Text.encode]

theorem length_encode_slash (t : Text) : (Text.encode ('/' :: t)).length = (Text.encode t).length + 1 := by
  rw [length_encode_cons, show (String.utf8EncodeChar '/').length = 1 by decide, Nat.add_comm]

/-- a text is as long as its pieces with a slash between each and the next -/
theorem size_splitOn (t : Text) : size (Text.splitOn '/' t) = (Text.encode t).length + 1 := by
  induction t with
  | nil => rfl
  | cons c t ih =>
    by_cases hc : c = '/'
    · subst hc
      rw [Text.splitOn, if_pos rfl, size_cons, ih, length_encode_slash]
      simp [Text.encode, Nat.add_comm]
    · obtain ⟨first, more, hs⟩ := List.exists_cons_of_ne_nil (Text.splitOn_ne_nil '/' t)
      rw [hs, size_cons] at ih
      rw [Text.splitOn_cons_of_ne hc hs, size_cons, length_encode_cons, length_encode_cons]
      omega

theorem length_encode_ofNames (names : List Text) :
    (Text.encode (ofNames names)).length = max 1 (size names) := by
  cases names with
  | nil => decide
  | cons name names =>
    have h : ∀ more : List Text, (Text.encode (more.flatMap ('/' :: ·))).length = size more := by
      intro more
      induction more with
      | nil => rfl
      | cons n more ih =>
        rw [List.flatMap_cons, List.cons_append, length_encode_slash, length_encode_append, ih, size_cons]
        omega
    rw [ofNames, h, size_cons]
    · omega
    · simp

/-- the names of an absolute path need no more bytes than it has -/
theorem size_names_le {p : Path} (h : isAbsolute p = true) : size (names p) ≤ (Text.encode p).length := by
  cases p with
  | nil => simp [isAbsolute] at h
  | cons c t =>
    obtain rfl : c = '/' := by simpa [isAbsolute] using h
    have hn : names ('/' :: t) = names t := by simp [names, Text.splitOn]
    rw [hn, length_encode_slash, ← size_splitOn]
    exact size_le_of_sublist List.filter_sublist

/-- a name in a path is one that an entry can have, unless it leads up or is too long -/
theorem isName_of_mem_names {p : Path} {name : Text} (hp : '\x00' ∉ p) (h : name ∈ names p) (hup : name ≠ ['.', '.'])
    (hshort : (Text.encode name).length ≤ World.maxNameLength) : IsName name := by
  obtain ⟨hm, hf⟩ := List.mem_filter.1 h
  have hc := Text.of_mem_splitOn hm
  have hf : name ≠ [] ∧ name ≠ ['.'] := by simpa using hf
  exact ⟨hf.1, fun hs => (hc _ hs).2 rfl, fun hz => hp (hc _ hz).1, hf.2, hup, hshort⟩

end Path

namespace World
variable {w w' : World} {place q : Location} {p : Path}

/-- the path of a place leads to it: everything above is a directory, whatever the place itself is -/
structure Reachable (w : World) (place : Location) : Prop where
  named : ∀ name ∈ place, Path.IsName name
  short : (Text.encode (Path.ofNames place)).length < pathLimit
  above : ∀ q, q <+: place → q ≠ place → w.find? q = some .directory

/-- a directory to which its path leads -/
structure Accessible (w : World) (place : Location) : Prop extends Reachable w place where
  directory : w.find? place = some .directory

/-- a directory that is found by going down from the root, however long its path is -/
structure InTree (w : World) (place : Location) : Prop where
  named : ∀ name ∈ place, Path.IsName name
  directories : ∀ q, q <+: place → w.find? q = some .directory

/-! ## Steps -/

theorem step_of_name {name : Text} (hd : w.find? place = some .directory) (hn : Path.IsName name) :
    w.step place name = .ok (place ++ [name]) := by
  simp [step, hd, hn.ne_up, Nat.not_lt.2 hn.short]

theorem step_eq_ok_iff {name : Text} :
    w.step place name = .ok q ↔ w.find? place = some .directory ∧
      if name = ['.', '.'] then q = place.dropLast
      else (Text.encode name).length ≤ maxNameLength ∧ q = place ++ [name] := by
  by_cases hd : w.find? place = some .directory
  · by_cases hu : name = ['.', '.']
    · simp [step, hd, hu, eq_comm]
    · by_cases hl : maxNameLength < (Text.encode name).length
      · simp [step, hd, hu, hl]
      · simp [step, hd, hu, hl, Nat.not_lt.1 hl, eq_comm]
  · have hstep : ∃ e, w.step place name = .error e := by
      unfold step
      split
      · contradiction
      · exact ⟨_, rfl⟩
      · exact ⟨_, rfl⟩
    obtain ⟨e, he⟩ := hstep
    simp [he, hd]

/-- of steps that can be refused, the later ones are taken after the earlier ones have succeeded -/
theorem bind_eq_ok_iff {α β : Type} {x : Except SystemError α} {f : α → Except SystemError β} {b : β} :
    x >>= f = .ok b ↔ ∃ a, x = .ok a ∧ f a = .ok b := by
  cases x <;> simp [bind, Except.bind]

theorem isSome_toOption_iff {α : Type} {x : Except SystemError α} : x.toOption.isSome = true ↔ ∃ a, x = .ok a := by
  cases x <;> simp [Except.toOption]

theorem foldlM_step {start rest : Location} (hn : ∀ name ∈ rest, Path.IsName name)
    (ha : ∀ q, q <+: rest → q ≠ rest → w.find? (start ++ q) = some .directory) :
    rest.foldlM w.step start = .ok (start ++ rest) := by
  induction rest generalizing start with
  | nil => simp [List.foldlM, pure, Except.pure]
  | cons name rest ih =>
    rw [List.forall_mem_cons] at hn
    have hstart : w.find? start = some .directory := by simpa using ha [] List.nil_prefix (by simp)
    rw [List.foldlM_cons, step_of_name hstart hn.1]
    refine (ih hn.2 fun q hq hne => ?_).trans (by simp)
    have := ha (name :: q) (by simpa using hq) (by simpa using hne)
    simpa using this

/-- where steps lead depends on the names alone -/
theorem eq_walk_of_foldlM_step {start rest : Location} (h : rest.foldlM w.step start = .ok q) :
    q = Path.walk start rest := by
  induction rest generalizing start with
  | nil => simpa [pure, Except.pure, eq_comm] using h
  | cons name rest ih =>
    rw [List.foldlM_cons] at h
    obtain ⟨next, hs, hrest⟩ := bind_eq_ok_iff.1 h
    obtain ⟨-, hnext⟩ := step_eq_ok_iff.1 hs
    have hstep : next = if name = ['.', '.'] then start.dropLast else start ++ [name] := by
      split_ifs at hnext ⊢
      · exact hnext
      · exact hnext.2
    rw [Path.walk_cons, ← hstep]
    exact ih hrest

theorem eq_of_foldlM_step {start rest : Location} (hn : ∀ name ∈ rest, name ≠ ['.', '.'])
    (h : rest.foldlM w.step start = .ok q) : q = start ++ rest :=
  (eq_walk_of_foldlM_step h).trans (Path.walk_of_down hn)

/-- where directories stay directories, a way along them leads to the same place -/
theorem foldlM_step_of_directories (hd : ∀ q, w.find? q = some .directory → w'.find? q = some .directory)
    {rest : List Text} (h : rest.foldlM w.step place = .ok q) : rest.foldlM w'.step place = .ok q := by
  induction rest generalizing place with
  | nil => exact h
  | cons next rest ih =>
    rw [List.foldlM_cons] at h ⊢
    obtain ⟨further, hs, hrest⟩ := bind_eq_ok_iff.1 h
    obtain ⟨hplace, hfurther⟩ := step_eq_ok_iff.1 hs
    rw [step_eq_ok_iff.2 ⟨hd place hplace, hfurther⟩]
    exact ih hrest

/-- where a walk is that so many bytes of names have led along directories -/
structure Walked (w : World) (bytes : ℕ) (place : Location) : Prop where
  named : ∀ name ∈ place, Path.IsName name
  size : Path.size place ≤ bytes
  above : ∀ q, q <+: place → q ≠ place → w.find? q = some .directory

theorem Walked.step {n : ℕ} {name : Text} (h : w.Walked n place) (hs : w.step place name = .ok q)
    (hn : name ≠ ['.', '.'] → (Text.encode name).length ≤ maxNameLength → Path.IsName name) :
    w.Walked (n + ((Text.encode name).length + 1)) q := by
  obtain ⟨hd, hq⟩ := step_eq_ok_iff.1 hs
  have habove : ∀ r, r <+: place → w.find? r = some .directory := fun r hr => by
    by_cases he : r = place
    · rw [he, hd]
    · exact h.above r hr he
  by_cases hu : name = ['.', '.']
  · rw [if_pos hu] at hq
    subst hq
    have hsize := Path.size_le_of_sublist place.dropLast_sublist
    exact ⟨fun m hm => h.named m (List.mem_of_mem_dropLast hm), by have := h.size; omega,
      fun r hr _ => habove r (hr.trans place.dropLast_prefix)⟩
  · rw [if_neg hu] at hq
    obtain ⟨hl, rfl⟩ := hq
    refine ⟨fun m hm => ?_, ?_, fun r hr hne => habove r ?_⟩
    · rcases List.mem_append.1 hm with hm | hm
      · exact h.named m hm
      · rw [List.mem_singleton.1 hm]
        exact hn hu hl
    · rw [Path.size_append, Path.size_cons, Path.size_nil]
      have := h.size
      omega
    · exact (List.prefix_concat_iff.1 hr).resolve_left hne

theorem Walked.foldlM {n : ℕ} {rest : List Text} (h : w.Walked n place)
    (hn : ∀ name ∈ rest, name ≠ ['.', '.'] → (Text.encode name).length ≤ maxNameLength → Path.IsName name)
    (hr : rest.foldlM w.step place = .ok q) : w.Walked (n + Path.size rest) q := by
  induction rest generalizing n place with
  | nil =>
    obtain rfl : place = q := by simpa [pure, Except.pure] using hr
    simpa using h
  | cons name rest ih =>
    rw [List.forall_mem_cons] at hn
    rw [List.foldlM_cons] at hr
    obtain ⟨next, hs, hrest⟩ := bind_eq_ok_iff.1 hr
    have := ih (h.step hs hn.1) hn.2 hrest
    rwa [Path.size_cons, ← Nat.add_assoc]

/-! ## Absolute paths -/

theorem stepsInRemoved_of_absolute (h : Path.isAbsolute p = true) : w.stepsInRemoved p = none := by
  unfold stepsInRemoved
  split
  · simp [h]
  · rfl

theorem resolve_eq_ok_iff (h : Path.isAbsolute p = true) :
    w.resolve p = .ok place ↔ '\x00' ∉ p ∧ (Text.encode p).length < pathLimit ∧
      (Path.names p).foldlM w.step [] = .ok place := by
  by_cases hz : '\x00' ∈ p
  · simp [resolve, stepsInRemoved_of_absolute h, origin, hz, bind, Except.bind]
  · by_cases hl : pathLimit ≤ (Text.encode p).length
    · simp [resolve, stepsInRemoved_of_absolute h, origin, hz, hl, bind, Except.bind]
    · simp [resolve, stepsInRemoved_of_absolute h, origin, hz, hl, h, Nat.not_le.1 hl, bind, Except.bind]

theorem resolve_ofNames (h : w.Reachable place) : w.resolve (Path.ofNames place) = .ok place := by
  refine (resolve_eq_ok_iff (Path.isAbsolute_ofNames place)).2 ⟨Path.not_mem_ofNames h.named, h.short, ?_⟩
  rw [Path.names_ofNames h.named]
  exact foldlM_step h.named h.above

/-- in whatever world, an absolute path leads to one place only -/
theorem eq_location_of_resolve (ha : Path.isAbsolute p = true) (h : w.resolve p = .ok q) : q = Path.location p :=
  eq_walk_of_foldlM_step ((resolve_eq_ok_iff ha).1 h).2.2

theorem eq_of_resolve_ofNames (hn : ∀ name ∈ place, Path.IsName name) (h : w.resolve (Path.ofNames place) = .ok q) :
    q = place :=
  (eq_location_of_resolve (Path.isAbsolute_ofNames place) h).trans (Path.location_ofNames hn)

/-- what an absolute path leads to can be reached by the path of its place -/
theorem reachable_of_resolve (ha : Path.isAbsolute p = true) (h : w.resolve p = .ok place) : w.Reachable place := by
  obtain ⟨hz, hl, hf⟩ := (resolve_eq_ok_iff ha).1 h
  have hroot : w.Walked 0 [] := ⟨by simp, by simp, fun q hq hne => absurd (List.prefix_nil.1 hq) hne⟩
  have hw := hroot.foldlM (fun name hm hu hs => Path.isName_of_mem_names hz hm hu hs) hf
  refine ⟨hw.named, ?_, hw.above⟩
  have hsize := Path.size_names_le ha
  have hplace := hw.size
  rw [Path.length_encode_ofNames]
  unfold pathLimit at hl ⊢
  omega

/-- only what is at the places decides where an absolute path leads -/
theorem resolve_congr (ha : Path.isAbsolute p = true) (h : ∀ q, w'.find? q = w.find? q) :
    w'.resolve p = w.resolve p := by
  have hstep : w'.step = w.step := by
    funext place name
    simp only [step, h]
  simp only [resolve, stepsInRemoved_of_absolute ha, origin, ha, hstep, if_true]

theorem at?_eq (ha : Path.isAbsolute p = true) :
    w.at? p = (w.resolve p).bind fun place =>
      match w.find? place with
      | none => .error .noEntry
      | some .directory => .ok .directory
      | some e => if Path.namesDirectory p then .error .notDirectory else .ok e := by
  rw [at?, stepsInRemoved_of_absolute ha]
  rfl

theorem at?_eq_directory_iff (ha : Path.isAbsolute p = true) :
    w.at? p = .ok .directory ↔ ∃ place, w.resolve p = .ok place ∧ w.find? place = some .directory := by
  rw [at?_eq ha]
  cases hr : w.resolve p with
  | error e => simp [Except.bind]
  | ok place =>
    simp only [Except.bind, Except.ok.injEq, exists_eq_left']
    cases hf : w.find? place with
    | none => simp
    | some e =>
      cases e with
      | directory => simp
      | file => by_cases hn : Path.namesDirectory p = true <;> simp [hn]
      | device => by_cases hn : Path.namesDirectory p = true <;> simp [hn]
      | tool => by_cases hn : Path.namesDirectory p = true <;> simp [hn]

theorem isDirectory_eq_true_iff : w.isDirectory p = true ↔ w.at? p = .ok .directory := by
  unfold isDirectory
  split
  · next h => simp [h]
  · next h => simpa using h

theorem isDirectory_iff (ha : Path.isAbsolute p = true) :
    w.isDirectory p = true ↔ ∃ place, w.resolve p = .ok place ∧ w.find? place = some .directory :=
  isDirectory_eq_true_iff.trans (at?_eq_directory_iff ha)

theorem at?_congr (ha : Path.isAbsolute p = true) (h : ∀ q, w'.find? q = w.find? q) : w'.at? p = w.at? p := by
  simp only [at?_eq ha, resolve_congr ha h, h]

theorem isDirectory_congr (ha : Path.isAbsolute p = true) (h : ∀ q, w'.find? q = w.find? q) :
    w'.isDirectory p = w.isDirectory p := by simp only [isDirectory, at?_congr ha h]

theorem pathExists_congr (ha : Path.isAbsolute p = true) (h : ∀ q, w'.find? q = w.find? q) :
    w'.pathExists p = w.pathExists p := by simp only [pathExists, at?_congr ha h]

theorem pathExists_iff : w.pathExists p = true ↔ ∃ e, w.at? p = .ok e := isSome_toOption_iff

/-- nothing is found under a path that names a place where nothing is -/
theorem pathExists_eq_false (ha : Path.isAbsolute p = true) (h : w.find? (Path.location p) = none) :
    w.pathExists p = false := by
  rw [pathExists, at?_eq ha]
  cases hr : w.resolve p with
  | error e => rfl
  | ok q =>
    obtain rfl := eq_location_of_resolve ha hr
    simp [Except.bind, h]
    rfl

/-- what is found under an absolute path in a part of a tree is found in the tree -/
theorem at?_of_part (ha : Path.isAbsolute p = true) (hpart : ∀ q e, w'.find? q = some e → w.find? q = some e)
    {e : Entry} (h : w'.at? p = .ok e) : w.at? p = .ok e := by
  rw [at?_eq ha] at h ⊢
  cases hr : w'.resolve p with
  | error error =>
    rw [hr] at h
    cases h
  | ok q =>
    obtain ⟨hz, hl, hf⟩ := (resolve_eq_ok_iff ha).1 hr
    have hr' := (resolve_eq_ok_iff ha).2 ⟨hz, hl, foldlM_step_of_directories (fun q => hpart q .directory) hf⟩
    rw [hr] at h
    rw [hr']
    simp only [Except.bind] at h ⊢
    cases hq : w'.find? q with
    | none => simp [hq] at h
    | some found =>
      rw [hq] at h
      rw [hpart q found hq]
      exact h

theorem isDirectory_ofNames_iff (hn : ∀ name ∈ place, Path.IsName name) :
    w.isDirectory (Path.ofNames place) = true ↔ w.Accessible place := by
  rw [isDirectory_iff (Path.isAbsolute_ofNames place)]
  refine ⟨fun ⟨q, hr, hd⟩ => ?_, fun h => ⟨place, resolve_ofNames h.toReachable, h.directory⟩⟩
  obtain rfl := eq_of_resolve_ofNames hn hr
  exact ⟨reachable_of_resolve (Path.isAbsolute_ofNames q) hr, hd⟩

/-! ## Accessible directories -/

theorem isName_iff {name : Text} : isName name = true ↔ Path.IsName name := by
  refine ⟨fun h => ?_, fun h => ?_⟩
  · simp only [isName, Bool.and_eq_true, decide_eq_true_eq, Bool.not_eq_true', List.contains_eq_mem,
      decide_eq_false_iff_not] at h
    obtain ⟨⟨⟨⟨⟨hnil, hdot⟩, hup⟩, hslash⟩, hnull⟩, hshort⟩ := h
    exact ⟨hnil, hslash, hnull, hdot, hup, hshort⟩
  · simp [isName, h.ne_nil, h.ne_dot, h.ne_up, h.no_slash, h.no_null, h.short]

theorem isInTree_iff : w.isInTree place = true ↔ w.InTree place := by
  have habove : (∀ n < place.length + 1, w.isDirectoryAt (place.take n) = true) ↔
      ∀ q, q <+: place → w.find? q = some .directory := by
    refine ⟨fun h q hq => ?_, fun h n _ => ?_⟩
    · rw [List.prefix_iff_eq_take.1 hq]
      simpa [isDirectoryAt] using h q.length (Nat.lt_succ_of_le hq.length_le)
    · simpa [isDirectoryAt] using h _ (List.take_prefix n place)
  have hall : w.isInTree place = true ↔
      (∀ name ∈ place, isName name = true) ∧ ∀ n < place.length + 1, w.isDirectoryAt (place.take n) = true := by
    simp [isInTree]
  rw [hall, habove]
  exact ⟨fun h => ⟨fun name hm => isName_iff.1 (h.1 name hm), h.2⟩,
    fun h => ⟨fun name hm => isName_iff.2 (h.named name hm), h.directories⟩⟩

theorem Accessible.inTree (h : w.Accessible place) : w.InTree place where
  named := h.named
  directories := fun q hq => by
    by_cases he : q = place
    · rw [he, h.directory]
    · exact h.above q hq he

/-- a place where nothing is, and nothing below it, has no directory of the tree below it -/
theorem not_prefix_of_free (hfree : ∀ r, place <+: r → w.find? r = none) (h : w.InTree q) : ¬place <+: q := fun hp => by
  have hd := h.directories q List.prefix_rfl
  rw [hfree q hp] at hd
  cases hd

/-- a directory in the tree is accessible unless its path is too long -/
theorem InTree.accessible (h : w.InTree place) (hshort : (Text.encode (Path.ofNames place)).length < pathLimit) :
    w.Accessible place where
  named := h.named
  short := hshort
  above := fun q hq _ => h.directories q hq
  directory := h.directories place List.prefix_rfl

theorem Accessible.find?_above (h : w.Accessible place) (hq : q <+: place) : w.find? q = some .directory :=
  h.inTree.directories q hq

/-- a directory stays accessible while it and those above stay directories -/
theorem Accessible.mono (h : w.Accessible place)
    (hd : ∀ q, q <+: place → w.find? q = some .directory → w'.find? q = some .directory) : w'.Accessible place :=
  { named := h.named
    short := h.short
    above := fun q hq _ => hd q hq (h.find?_above hq)
    directory := hd place List.prefix_rfl h.directory }

end World
end RunnableDocs
