/-
The entries of a directory, by the paths that join their names to its path.

Joining a plain name to the path of a directory adds that name to the names of the path, and nothing else
(`Path.isChild_of_isComponent`). So the way along a joined path is the way to the directory and one step more
(`World.foldlM_names_join`), for a file that is looked at as for one that is written (`World.placeToWrite_join`), and a
file that is written under one name changes nothing that is seen under another (`World.at?_join_of_write`).
-/
import RunnableDocs.Proofs.Tree

namespace RunnableDocs

/-! ## Pieces of a joined path -/

theorem Text.splitOn_append_cons (mark : Char) (t u : Text) :
    splitOn mark (t ++ mark :: u) = splitOn mark t ++ splitOn mark u := by
  induction t with
  | nil => simp [splitOn]
  | cons c t ih =>
    obtain ⟨piece, more, hs⟩ := List.exists_cons_of_ne_nil (splitOn_ne_nil mark t)
    rw [hs] at ih
    by_cases hc : c = mark
    · rw [List.cons_append, splitOn, if_pos hc, ih, splitOn, if_pos hc, hs]
      rfl
    · rw [List.cons_append, splitOn_cons_of_ne hc ih, splitOn_cons_of_ne hc hs]
      rfl

namespace Path

/-- a text that is one ordinary name in a path -/
structure IsComponent (name : Text) : Prop where
  ne_nil : name ≠ []
  no_slash : '/' ∉ name
  no_null : '\x00' ∉ name
  ne_dot : name ≠ ['.']
  ne_up : name ≠ ['.', '.']

/-- joined to the path of a directory, the name leads to an entry of that directory and no further -/
structure IsChild (dir : Path) (name : Text) : Prop where
  names_eq : names (join dir name) = names dir ++ [name]
  isAbsolute_eq : isAbsolute (join dir name) = isAbsolute dir

variable {dir : Path} {name : Text}

theorem pieces_append_slash (p q : Path) : pieces (p ++ '/' :: q) = pieces p ++ pieces q := by
  rw [pieces, Text.splitOn_append_cons, List.filter_append]
  rfl

theorem names_append_slash (p q : Path) : names (p ++ '/' :: q) = names p ++ names q := by
  rw [names_eq, pieces_append_slash, List.filter_append, ← names_eq, ← names_eq]

theorem IsComponent.isAbsolute_eq_false (h : IsComponent name) : isAbsolute name = false := by
  cases name with
  | nil => rfl
  | cons c name =>
    have hc : c ≠ '/' := fun he => h.no_slash (he ▸ List.mem_cons_self)
    simpa [isAbsolute] using hc

theorem IsComponent.pieces_eq (h : IsComponent name) : pieces name = [name] := by
  rw [pieces, Text.splitOn_of_not_mem h.no_slash, List.filter_cons_of_pos (by simpa using h.ne_nil)]
  rfl

theorem IsComponent.names_eq (h : IsComponent name) : names name = [name] := by
  have hkept : [name].filter (fun piece => decide (piece ≠ ['.'])) = [name] :=
    List.filter_cons_of_pos (decide_eq_true h.ne_dot)
  rw [Path.names_eq, h.pieces_eq, hkept]

/-- joined, the directory and the name have one slash between them, unless there is no directory -/
theorem join_eq (h : IsComponent name) :
    dir = [] ∧ join dir name = name ∨ ∃ init, join dir name = init ++ '/' :: name ∧ pieces dir = pieces init ∧
      isAbsolute (join dir name) = isAbsolute dir := by
  by_cases hnil : dir = []
  · exact Or.inl ⟨hnil, by simp [join, hnil]⟩
  · right
    obtain ⟨c, more, rfl⟩ := List.exists_cons_of_ne_nil hnil
    have hjoin : join (c :: more) name =
        if (c :: more).getLast? = some '/' then c :: more ++ name else c :: more ++ '/' :: name := by
      simp [join, h.isAbsolute_eq_false]
    by_cases hlast : (c :: more).getLast? = some '/'
    · obtain ⟨init, hinit⟩ := List.getLast?_eq_some_iff.1 hlast
      refine ⟨init, ?_, ?_, ?_⟩
      · rw [hjoin, if_pos hlast, hinit, List.append_assoc]
        rfl
      · have hnone : pieces [] = [] := rfl
        rw [hinit, pieces_append_slash, hnone, List.append_nil]
      · rw [hjoin, if_pos hlast]
        rfl
    · exact ⟨c :: more, by rw [hjoin, if_neg hlast], rfl, by rw [hjoin, if_neg hlast]; rfl⟩

theorem pieces_join (h : IsComponent name) : pieces (join dir name) = pieces dir ++ [name] := by
  rcases @join_eq dir name h with ⟨rfl, hjoin⟩ | ⟨init, hjoin, hpieces, -⟩
  · rw [hjoin, h.pieces_eq]
    rfl
  · rw [hjoin, pieces_append_slash, h.pieces_eq, hpieces]

theorem isChild_of_isComponent (h : IsComponent name) (dir : Path) : IsChild dir name where
  names_eq := by
    rcases @join_eq dir name h with ⟨rfl, hjoin⟩ | ⟨init, hjoin, hpieces, -⟩
    · rw [hjoin, h.names_eq]
      rfl
    · rw [hjoin, names_append_slash, h.names_eq, Path.names_eq dir, hpieces, ← Path.names_eq]
  isAbsolute_eq := by
    rcases @join_eq dir name h with ⟨rfl, hjoin⟩ | ⟨init, -, -, habsolute⟩
    · rw [hjoin, h.isAbsolute_eq_false]
      rfl
    · exact habsolute

theorem endsInSlash_join (h : IsComponent name) : endsInSlash (join dir name) = false := by
  have hlast : (join dir name).getLast? = name.getLast? := by
    rcases @join_eq dir name h with ⟨-, hjoin⟩ | ⟨init, hjoin, -, -⟩
    · rw [hjoin]
    · rw [hjoin, List.append_cons, List.getLast?_append_of_ne_nil _ h.ne_nil]
  have hslash : name.getLast? ≠ some '/' := fun he => h.no_slash (List.mem_of_mem_getLast? he)
  simpa [endsInSlash, hlast] using hslash

end Path

/-! ## Places under a directory -/

namespace World
variable {w w' : World} {dir : Path} {name other : Text} {place q : Location}

/-- how an absolute path leads anywhere -/
theorem resolve_of_absolute {p : Path} (h : Path.isAbsolute p = true) :
    w.resolve p = if '\x00' ∈ p then .error .nullCharacter
      else if pathLimit ≤ (Text.encode p).length then .error .nameTooLong
      else (Path.names p).foldlM w.step [] := by
  rw [resolve, stepsInRemoved_of_absolute h, origin]
  by_cases hz : '\x00' ∈ p
  · simp [hz, bind, Except.bind]
  · by_cases hl : pathLimit ≤ (Text.encode p).length
    · simp [hz, hl, bind, Except.bind]
    · simp [hz, hl, h, bind, Except.bind]

/-- a step to a plain name ends below the place where it starts -/
theorem step_component (hn : Path.IsComponent name) (h : w.step place name = .ok q) : q = place ++ [name] := by
  obtain ⟨-, hq⟩ := step_eq_ok_iff.1 h
  rw [if_neg hn.ne_up] at hq
  exact hq.2

theorem of_holderFrom {p : Path} (h : w.holderFrom place p = .ok q) :
    ((Path.pieces p).dropLast.filter (· ≠ ['.'])).foldlM w.step place = .ok q ∧ w.find? q = some .directory := by
  obtain ⟨r, hr, hfound⟩ := bind_eq_ok_iff.1 h
  split at hfound
  · next hd =>
    obtain rfl := Except.ok.inj hfound
    exact ⟨hr, hd⟩
  · cases hfound
  · cases hfound

/-- a file is opened for writing at the place that the name leads to from the directory -/
theorem placeToWrite_join (ha : Path.isAbsolute dir = true) (hn : Path.IsComponent name)
    (h : w.placeToWrite (Path.join dir name) = .ok q) :
    ∃ place, (Path.names dir).foldlM w.step [] = .ok place ∧ w.find? place = some .directory ∧
      q = place ++ [name] := by
  have habsolute : Path.isAbsolute (Path.join dir name) = true :=
    (Path.isChild_of_isComponent hn dir).isAbsolute_eq.trans ha
  have hlast : Path.lastPiece? (Path.join dir name) = some name := by
    rw [Path.lastPiece?, Path.pieces_join hn, List.getLast?_concat]
  have hway : (Path.pieces (Path.join dir name)).dropLast.filter (· ≠ ['.']) = Path.names dir := by
    rw [Path.pieces_join hn, List.dropLast_concat, Path.names_eq]
  have hdots : Path.isDots name = false := by simp [Path.isDots, hn.ne_dot, hn.ne_up]
  have horigin : ∀ {start : Location} {way : Path}, w.origin (Path.join dir name) = .ok (start, way) →
      start = [] ∧ way = Path.join dir name := by
    intro start way ho
    rw [origin] at ho
    split_ifs at ho
    exact ⟨(congrArg Prod.fst (Except.ok.inj ho)).symm, (congrArg Prod.snd (Except.ok.inj ho)).symm⟩
  rw [placeToWrite, stepsInRemoved_of_absolute habsolute] at h
  obtain ⟨⟨start, way⟩, ho, h⟩ := bind_eq_ok_iff.1 h
  obtain ⟨rfl, rfl⟩ := horigin ho
  simp only [hlast] at h
  obtain ⟨place, hholder, hstep⟩ := bind_eq_ok_iff.1 h
  obtain ⟨hfold, hd⟩ := of_holderFrom hholder
  rw [hway] at hfold
  simp only [hdots, Path.endsInSlash_join hn] at hstep
  exact ⟨place, hfold, hd, step_component hn hstep⟩

/-- writing a file changes what is at one place only -/
theorem find?_of_write {p : Path} {content : Text.Bytes} (h : w.write p content = .ok w') :
    ∃ written, w.placeToWrite p = .ok written ∧ ∀ q, q ≠ written → w'.find? q = w.find? q := by
  obtain ⟨written, hw, h⟩ := bind_eq_ok_iff.1 h
  refine ⟨written, hw, fun q hq => ?_⟩
  have hput : ∀ e : Entry, (w.put written e).find? q = w.find? q := by
    intro e
    rw [find?_put, if_neg hq]
    split_ifs with hnil
    · rw [hnil]
      rfl
    · rfl
  split at h
  · cases h
  · rw [← Except.ok.inj h]
    exact hput _
  · cases h
  · split_ifs at h
    rw [← Except.ok.inj h]
  · rw [← Except.ok.inj h]
  · cases h
  · rw [← Except.ok.inj h]
    exact hput _

/-- the way to an entry is the way to its directory and one step more -/
theorem foldlM_names_join (hn : Path.IsComponent name) :
    (Path.names (Path.join dir name)).foldlM w.step [] =
      (Path.names dir).foldlM w.step [] >>= fun place => w.step place name := by
  rw [(Path.isChild_of_isComponent hn dir).names_eq, List.foldlM_append]
  congr 1
  funext place
  rw [List.foldlM_cons]
  simp

/-- a file that is written leaves alone what is seen under another name of its directory -/
theorem at?_join_of_write (ha : Path.isAbsolute dir = true) (hn : Path.IsComponent name)
    (ho : Path.IsComponent other) (hne : other ≠ name) {content : Text.Bytes}
    (h : w.write (Path.join dir name) content = .ok w') :
    w'.at? (Path.join dir other) = w.at? (Path.join dir other) := by
  have habsolute : Path.isAbsolute (Path.join dir other) = true :=
    (Path.isChild_of_isComponent ho dir).isAbsolute_eq.trans ha
  obtain ⟨written, hwritten, hsame⟩ := find?_of_write h
  obtain ⟨place, hfold, hd, rfl⟩ := placeToWrite_join ha hn hwritten
  have hkeep := (write_keeps h).2
  -- the directory is where it was, so the last step is the same in both worlds
  have hfold' := foldlM_step_of_directories hkeep hfold
  have hstep : w'.step place other = w.step place other := by simp [step, hd, hkeep place hd]
  have hresolve : w'.resolve (Path.join dir other) = w.resolve (Path.join dir other) := by
    rw [resolve_of_absolute habsolute, resolve_of_absolute habsolute, foldlM_names_join ho, foldlM_names_join ho,
      hfold, hfold']
    simp only [bind, Except.bind, hstep]
  rw [at?_eq habsolute, at?_eq habsolute, hresolve]
  cases hr : w.resolve (Path.join dir other) with
  | error e => rfl
  | ok q =>
    obtain ⟨-, -, hq⟩ := (resolve_eq_ok_iff habsolute).1 hr
    rw [foldlM_names_join ho] at hq
    obtain ⟨place', -, hlast⟩ := bind_eq_ok_iff.1 hq
    have hother : q ≠ place ++ [name] := by
      rw [step_component ho hlast]
      intro he
      exact hne (List.append_inj_right' he rfl |> List.singleton_inj.1)
    simp only [Except.bind, hsame q hother]

end World
end RunnableDocs
