/-
What is written is found.

A file is opened for writing at the place that its path leads to, so the same path leads there afterwards
(`World.resolve_of_placeToWrite`), from wherever the process stands, also from a directory that has been removed. A path
that can be written to does not name a directory by its form (`World.namesDirectory_of_placeToWrite`). So the file at a path
that was written to holds what was written (`World.holds_of_write`), unless a device is there, which keeps nothing.
-/
import RunnableDocs.Proofs.Child

namespace RunnableDocs

theorem Text.exists_splitOn_eq_concat (mark : Char) (t : Text) : ∃ init last, splitOn mark t = init ++ [last] := by
  rcases List.eq_nil_or_concat (splitOn mark t) with hnil | ⟨init, last, hs⟩
  · exact absurd hnil (splitOn_ne_nil mark t)
  · exact ⟨init, last, hs.trans List.concat_eq_append⟩

namespace Path
variable {p : Path} {last : Text}

/-- a path that ends in an ordinary name does not name a directory by its form -/
theorem namesDirectory_eq_false (hlast : lastPiece? p = some last) (hdots : isDots last = false)
    (hslash : endsInSlash p = false) : namesDirectory p = false := by
  obtain ⟨init, piece, hs⟩ := Text.exists_splitOn_eq_concat '/' p
  have hpiece : piece ≠ [] := by
    rintro rfl
    by_cases hinit : init = []
    · -- then the path is empty and has no last piece
      simp [lastPiece?, pieces, hs, hinit] at hlast
    · have hend := Text.getLast?_of_splitOn hinit hs
      simp [endsInSlash, hend] at hslash
  have hpieces : pieces p = init.filter (· ≠ []) ++ [piece] := by
    rw [pieces, hs, List.filter_append, List.filter_cons_of_pos (by simpa using hpiece), List.filter_nil]
  obtain rfl : piece = last := by
    rw [lastPiece?, hpieces, List.getLast?_concat] at hlast
    exact Option.some.inj hlast
  have hordinary : piece ≠ ['.'] ∧ piece ≠ ['.', '.'] := by simpa [isDots] using hdots
  simp [namesDirectory, hs, hpiece, hordinary]

/-- pieces with a slash between them are the pieces of the path that they make -/
theorem pieces_intercalate {ps : List Text} (hne : ps ≠ []) (h : ∀ piece ∈ ps, piece ≠ [] ∧ '/' ∉ piece) :
    pieces (['/'].intercalate ps) = ps := by
  rw [pieces, Text.splitOn_intercalate hne fun piece hm => (h piece hm).2, List.filter_eq_self]
  intro piece hm
  simpa using (h piece hm).1

theorem of_mem_pieces {piece : Text} (h : piece ∈ pieces p) : piece ≠ [] ∧ '/' ∉ piece := by
  obtain ⟨hm, hne⟩ := List.mem_filter.1 h
  exact ⟨by simpa using hne, fun hc => (Text.of_mem_splitOn hm _ hc).2 rfl⟩

end Path

namespace World
variable {w w' : World} {p : Path} {content : Text.Bytes} {place start : Location} {way : Path} {last : Text}

theorem suffix_of_behindSteps {n : ℕ} {ps qs : List Text} (h : behindSteps n ps = some qs) : qs <:+ ps := by
  fun_induction behindSteps n ps with
  | case1 ps =>
    obtain rfl := Option.some.inj h
    exact List.suffix_rfl
  | case2 n ps ih => exact (ih h).trans (List.suffix_cons _ _)
  | case3 n ps ih => exact (ih h).trans (List.suffix_cons _ _)
  | case4 => cases h

/-- the way from where a path starts ends as the path does, if that is in an ordinary name -/
theorem ends_of_origin (h : w.origin p = .ok (start, way)) (hlast : Path.lastPiece? way = some last)
    (hdots : Path.isDots last = false) (hslash : Path.endsInSlash way = false) :
    Path.lastPiece? p = some last ∧ Path.endsInSlash p = false := by
  have hsame : way = p → Path.lastPiece? p = some last ∧ Path.endsInSlash p = false := by
    rintro rfl
    exact ⟨hlast, hslash⟩
  unfold origin at h
  split at h
  · cases h
  split at h
  · cases h
  split at h
  · exact hsame (Prod.mk.inj (Except.ok.inj h)).2.symm
  split at h
  · split at h
    · cases h
    · exact hsame (Prod.mk.inj (Except.ok.inj h)).2.symm
  · cases h
  split at h
  · cases h
  · -- the path leads up to the directory that is left and no further
    obtain ⟨-, rfl⟩ := Prod.mk.inj (Except.ok.inj h)
    obtain rfl : ['.'] = last := Option.some.inj hlast
    cases hdots
  · rename_i ps hps hbehind
    obtain ⟨-, rfl⟩ := Prod.mk.inj (Except.ok.inj h)
    by_cases hend : Path.endsInSlash p = true
    · simp [Path.endsInSlash] at hend hslash
      simp [hend] at hslash
    · rw [if_neg hend, List.append_nil] at hlast
      have hsuffix := suffix_of_behindSteps hbehind
      have hpieces : Path.pieces (['/'].intercalate ps) = ps :=
        Path.pieces_intercalate hps fun piece hm => Path.of_mem_pieces (hsuffix.subset hm)
      obtain ⟨before, hbefore⟩ := hsuffix
      refine ⟨?_, by simpa using hend⟩
      rw [Path.lastPiece?, hpieces] at hlast
      rw [Path.lastPiece?, ← hbefore, List.getLast?_append_of_ne_nil _ hps, hlast]

/-- what is known of a path that can be written to -/
structure Opened (w : World) (p : Path) (place start : Location) (way : Path) (dir : Location) (last : Text) : Prop where
  not_removed : w.stepsInRemoved p = none
  origin_eq : w.origin p = .ok (start, way)
  lastPiece : Path.lastPiece? way = some last
  holder : w.holderFrom start way = .ok dir
  not_dots : Path.isDots last = false
  not_slash : Path.endsInSlash way = false
  step_eq : w.step dir last = .ok place

theorem exists_opened (h : w.placeToWrite p = .ok place) : ∃ start way dir last, w.Opened p place start way dir last := by
  unfold placeToWrite at h
  by_cases hremoved : (w.stepsInRemoved p).isSome = true
  · rw [if_pos hremoved] at h
    cases h
  · rw [if_neg hremoved] at h
    obtain ⟨⟨start, way⟩, horigin, h⟩ := bind_eq_ok_iff.1 h
    cases hlast : Path.lastPiece? way with
    | none =>
      simp only [hlast] at h
      cases h
    | some last =>
      simp only [hlast] at h
      obtain ⟨dir, hholder, hstep⟩ := bind_eq_ok_iff.1 h
      split_ifs at hstep with hends
      have hends : Path.isDots last = false ∧ Path.endsInSlash way = false := by simpa using hends
      exact ⟨start, way, dir, last, by simpa using hremoved, horigin, hlast, hholder, hends.1, hends.2, hstep⟩

theorem namesDirectory_of_placeToWrite (h : w.placeToWrite p = .ok place) : Path.namesDirectory p = false := by
  obtain ⟨start, way, dir, last, ho⟩ := exists_opened h
  obtain ⟨hlast, hslash⟩ := ends_of_origin ho.origin_eq ho.lastPiece ho.not_dots ho.not_slash
  exact Path.namesDirectory_eq_false hlast ho.not_dots hslash

/-- no file is written at the root -/
theorem ne_nil_of_placeToWrite (h : w.placeToWrite p = .ok place) : place ≠ [] := by
  obtain ⟨start, way, dir, last, ho⟩ := exists_opened h
  obtain ⟨-, hplace⟩ := step_eq_ok_iff.1 ho.step_eq
  have hup : last ≠ ['.', '.'] := by
    rintro rfl
    exact absurd ho.not_dots (by decide)
  rw [if_neg hup] at hplace
  rw [hplace.2]
  simp

/-- a path that can be written to leads to the place that is written, in any world where the process stands as it did and
directories have stayed directories -/
theorem resolve_of_placeToWrite (h : w.placeToWrite p = .ok place) (hcwd : w'.cwd = w.cwd) (hout : w'.wayOut = w.wayOut)
    (hd : ∀ q, w.find? q = some .directory → w'.find? q = some .directory) :
    w'.stepsInRemoved p = none ∧ w'.resolve p = .ok place := by
  obtain ⟨start, way, dir, last, ho⟩ := exists_opened h
  have hremoved : w'.stepsInRemoved p = none := by
    rw [← ho.not_removed]
    simp only [stepsInRemoved, hcwd, hout]
  have horigin : w'.origin p = .ok (start, way) := by
    rw [← ho.origin_eq]
    simp only [origin, hcwd, hout]
  obtain ⟨hway, hdir⟩ := of_holderFrom ho.holder
  -- the names on the way are those that lead to the directory, and the last piece
  have hnames : Path.names way = (Path.pieces way).dropLast.filter (· ≠ ['.']) ++ [last] := by
    obtain ⟨init, hinit⟩ := List.getLast?_eq_some_iff.1 ho.lastPiece
    have hordinary : last ≠ ['.'] := by
      rintro rfl
      exact absurd ho.not_dots (by decide)
    rw [Path.names_eq, hinit, List.dropLast_concat, List.filter_append,
      List.filter_cons_of_pos (by simpa using hordinary), List.filter_nil]
  have hstep : w'.step dir last = .ok place := by
    have hlast := step_eq_ok_iff.1 ho.step_eq
    exact step_eq_ok_iff.2 ⟨hd dir hlast.1, hlast.2⟩
  refine ⟨hremoved, ?_⟩
  rw [resolve, hremoved, horigin]
  show (Path.names way).foldlM w'.step start = .ok place
  rw [hnames, List.foldlM_append, foldlM_step_of_directories hd hway]
  show [last].foldlM w'.step dir = .ok place
  rw [List.foldlM_cons, hstep]
  rfl

/-- a file that is written is put at its place, unless a device is there, which keeps nothing -/
theorem write_cases (h : w.write p content = .ok w') :
    ∃ place, w.placeToWrite p = .ok place ∧
      ((∃ mode, w' = w.put place (.file content mode)) ∨ w' = w ∧ ∃ d, w.find? place = some (.device d)) := by
  obtain ⟨place, hplace, h⟩ := bind_eq_ok_iff.1 h
  refine ⟨place, hplace, ?_⟩
  split at h
  · cases h
  · exact Or.inl ⟨_, (Except.ok.inj h).symm⟩
  · cases h
  · rename_i hdevice
    split_ifs at h
    exact Or.inr ⟨(Except.ok.inj h).symm, _, hdevice⟩
  · rename_i d _ _ hdevice
    exact Or.inr ⟨(Except.ok.inj h).symm, d, hdevice⟩
  · cases h
  · exact Or.inl ⟨_, (Except.ok.inj h).symm⟩

/-- writing leaves the way up from a removed directory as it was -/
theorem wayOut_of_write (h : w.write p content = .ok w') : w'.wayOut = w.wayOut := by
  obtain ⟨place, -, ⟨mode, rfl⟩ | ⟨rfl, -⟩⟩ := write_cases h
  · rfl
  · rfl

/-- a file of this content is found under the path, unless a device is there -/
def Holds (w : World) (p : Path) (content : Text.Bytes) : Prop :=
  (∀ d, w.at? p ≠ .ok (.device d)) → ∃ mode, w.at? p = .ok (.file content mode)

/-- **What is written is found**, under the path that it was written to. -/
theorem holds_of_write (h : w.write p content = .ok w') : w'.Holds p content := by
  obtain ⟨place, hplace, hcases⟩ := write_cases h
  obtain ⟨hremoved, hresolve⟩ := resolve_of_placeToWrite hplace (write_keeps h).1 (wayOut_of_write h) (write_keeps h).2
  have hat : ∀ e, w'.find? place = some e → e ≠ .directory → w'.at? p = .ok e := by
    intro e he hne
    rw [at?, hremoved]
    simp only [hresolve, bind, Except.bind, he, namesDirectory_of_placeToWrite hplace]
    cases e <;> simp_all
  intro hno
  rcases hcases with ⟨mode, rfl⟩ | ⟨rfl, d, hdevice⟩
  · refine ⟨mode, hat _ ?_ (by simp)⟩
    rw [find?_put, if_neg (ne_nil_of_placeToWrite hplace), if_pos rfl]
  · exact absurd (hat _ hdevice (by simp)) (hno d)

end World
end RunnableDocs
