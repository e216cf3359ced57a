/-
Providers of temporary directories.

A provider is lawful (`Provider.Lawful`) if each directory that it makes is new and told by an absolute path, and if it
can remove the directory later, whatever is in it then; it moves no process and changes nothing else. It is not promised
that anybody can follow the path: `Provider.system` tells paths that lead to their directories, and `Provider.distant`
tells paths that are too long to be followed. Both are lawful.
-/
import RunnableDocs.Proofs.Tree

namespace RunnableDocs.RunDirectory.Provider

open RunnableDocs.World

variable {w w' w'' : World} {place : Location} {p : Path}

/-- between two worlds a directory was made at a place, and nothing else was changed -/
structure Made (w w' : World) (place : Location) : Prop where
  fresh : ∀ q, place <+: q → w.find? q = none
  there : w'.InTree place
  only : ∀ q, q ≠ place → w'.find? q = w.find? q
  stands : w'.cwd = w.cwd

/-- between two worlds the directory at a place was removed, if there is one, and nothing else -/
structure Removed (place : Location) (w w' : World) : Prop where
  /-- a directory goes with all that is in it -/
  gone : w.InTree place → ∀ q, place <+: q → w'.find? q = none
  outside : ∀ q, ¬place <+: q → w'.find? q = w.find? q
  /-- nothing is put in the stead of anything -/
  part : ∀ q e, w'.find? q = some e → w.find? q = some e
  /-- the process is not moved; it can only lose the directory that it stands in -/
  stands : w'.cwd = w.cwd ∨ w'.cwd = none ∧ ∃ stand, w.cwd = some stand ∧ place <+: stand

/-- what is made is new, and what was made can be removed, whatever has happened meanwhile -/
structure Lawful (t : Provider) : Prop where
  absolute : ∀ w w' p, t.make w = .ok (w', p) → Path.isAbsolute p = true
  made : ∀ w w' p, t.make w = .ok (w', p) → Made w w' (Path.location p)
  removed : ∀ w w' p, t.make w = .ok (w', p) → ∀ v, Removed (Path.location p) v (t.remove p v)

theorem Made.grows (h : Made w w' place) : w.Grows w' where
  stands := h.stands
  stays := fun q e he => by
    have hq : q ≠ place := by
      rintro rfl
      rw [h.fresh _ List.prefix_rfl] at he
      cases he
    rw [h.only q hq, he]
  fresh := fun q e he => by
    by_cases hq : q = place
    · rw [hq, h.there.directories _ List.prefix_rfl] at he
      exact Or.inr (Option.some.inj he).symm
    · exact Or.inl (h.only q hq ▸ he)

/-- a directory that was made and removed again leaves the tree as it was -/
theorem Made.undone (h : Made w w' place) (hr : Removed place w' w'') (q : Location) : w''.find? q = w.find? q := by
  by_cases hq : place <+: q
  · rw [hr.gone h.there q hq, h.fresh q hq]
  · rw [hr.outside q hq, h.only q fun he => hq (he ▸ List.prefix_rfl)]

/-- a directory that is left would have been one before, and so it has gone -/
theorem Removed.not_inTree (h : Removed place w w') : ¬w'.InTree place := fun hleft => by
  have hbefore : w.InTree place := ⟨hleft.named, fun q hq => h.part q _ (hleft.directories q hq)⟩
  have hd := hleft.directories place List.prefix_rfl
  rw [h.gone hbefore place List.prefix_rfl] at hd
  cases hd

theorem Removed.pathExists_eq_false (ha : Path.isAbsolute p = true) (h : Removed (Path.location p) w w')
    (hdirectory : w.pathExists p = true → w.isDirectory p = true) : w'.pathExists p = false := by
  refine Bool.eq_false_iff.2 fun hexists => ?_
  obtain ⟨e, he⟩ := pathExists_iff.1 hexists
  have hbefore := hdirectory (pathExists_iff.2 ⟨e, at?_of_part ha h.part he⟩)
  obtain ⟨q, hr, hd⟩ := (isDirectory_iff ha).1 hbefore
  obtain rfl := eq_location_of_resolve ha hr
  have hin : w.InTree (Path.location p) := Accessible.inTree ⟨reachable_of_resolve ha hr, hd⟩
  rw [World.pathExists_eq_false ha (h.gone hin _ List.prefix_rfl)] at hexists
  cases hexists

/-! ## The provider of the system -/

theorem named_temporary {name : Text} (hn : Path.IsName name) : ∀ n ∈ temporaryPlace ++ [name], Path.IsName n :=
  fun n hm => by
    obtain rfl | rfl : n = "tmp".toList ∨ n = name := by simpa [temporaryPlace] using hm
    · exact isName_tmp
    · exact hn

theorem made_of_makeTemporary (h : w.makeTemporary = .ok (w', p)) : Made w w' (Path.location p) := by
  obtain ⟨name, hname, rfl, hplace, hfree, hcwd, hfind⟩ := of_makeTemporary h
  rw [Path.location_ofNames (named_temporary hname)]
  have hne : temporaryPlace ++ [name] ≠ [] := by simp
  have hfresh : ∀ q, temporaryPlace ++ [name] <+: q → w.find? q = none := fun q => find?_of_isFree hne hfree
  have htemporary := inTree_temporaryPlace hplace
  have htop : w'.InTree temporaryPlace :=
    ⟨htemporary.named, fun q hq => by
      rw [hfind, (grows_put (hfresh _ List.prefix_rfl)).stays q _ (htemporary.directories q hq)]⟩
  refine ⟨hfresh, htop.child hname ?_, fun q hq => ?_, hcwd⟩
  · rw [hfind, find?_put, if_neg hne, if_pos rfl]
  · rw [hfind, find?_put, if_neg hq]
    split
    · next hnil => simp [find?, hnil]
    · rfl

/-- the path of a directory that the system made is short enough to be followed -/
theorem exists_place_of_makeTemporary (h : w.makeTemporary = .ok (w', p)) :
    ∃ place, p = Path.ofNames place ∧ place ≠ [] ∧ (∀ name ∈ place, Path.IsName name) ∧
      (Text.encode (Path.ofNames place)).length < pathLimit := by
  obtain ⟨name, hname, rfl, -⟩ := of_makeTemporary h
  refine ⟨_, rfl, by simp, named_temporary hname, ?_⟩
  have htmp : Path.size temporaryPlace = 4 := by decide
  have hshort := hname.short
  rw [Path.length_encode_ofNames, Path.size_append, Path.size_cons, Path.size_nil, htmp]
  unfold maxNameLength at hshort
  unfold pathLimit
  omega

theorem removed_remove (hne : place ≠ []) (w : World) : Removed place w (w.remove place) where
  gone := fun _ q hq => by
    have hq' : q ≠ [] := by
      rintro rfl
      exact hne (List.prefix_nil.1 hq)
    rw [find?_remove, if_neg hq', if_pos hq]
  outside := fun q hq => find?_remove_outside hq
  part := fun q e he => by
    rw [find?_remove] at he
    split_ifs at he with hnil
    · rw [find?, if_pos hnil, he]
    · exact he
  stands := by
    cases hc : w.cwd with
    | none => exact Or.inl (by simp [World.remove, hc])
    | some stand =>
      by_cases hq : place <+: stand
      · exact Or.inr ⟨by simp [World.remove, hc, hq], stand, rfl, hq⟩
      · have hout : place.isPrefixOf stand = false := Bool.eq_false_iff.2 (mt List.isPrefixOf_iff_prefix.1 hq)
        exact Or.inl (by simp [World.remove, hc, hout])

/-- a directory is removed by the path of its place, and what is no directory stays -/
theorem removed_system (hne : place ≠ []) (hn : ∀ name ∈ place, Path.IsName name)
    (hshort : (Text.encode (Path.ofNames place)).length < pathLimit) (w : World) :
    Removed place w (Provider.system.remove (Path.ofNames place) w) := by
  by_cases hd : w.isDirectory (Path.ofNames place) = true
  · have hremove : Provider.system.remove (Path.ofNames place) w = w.remove place := by
      simp only [Provider.system, removeDirectory_ofNames hne ((isDirectory_ofNames_iff hn).1 hd)]
    rw [hremove]
    exact removed_remove hne w
  · have hstays : Provider.system.remove (Path.ofNames place) w = w :=
      removeDirectory_of_not_isDirectory (Bool.eq_false_iff.2 hd)
    rw [hstays]
    refine ⟨fun hin => ?_, fun _ _ => rfl, fun _ _ he => he, Or.inl rfl⟩
    exact absurd ((isDirectory_ofNames_iff hn).2 (hin.accessible hshort)) hd

theorem lawful_system : Provider.system.Lawful where
  absolute := fun w w' p h => by
    obtain ⟨place, rfl, -⟩ := exists_place_of_makeTemporary h
    exact Path.isAbsolute_ofNames place
  made := fun _ _ _ => made_of_makeTemporary
  removed := fun w w' p h v => by
    obtain ⟨place, rfl, hne, hn, hshort⟩ := exists_place_of_makeTemporary h
    rw [Path.location_ofNames hn]
    exact removed_system hne hn hshort v

/-! ## Directories that cannot be entered -/

/-- a path with so many slashes before it that it is too long to be followed -/
def winding (p : Path) : Path := List.replicate pathLimit '/' ++ p

/-- a provider that finds its directories by itself, and tells paths that nobody can follow -/
def distant : Provider where
  make w := w.makeTemporary.map fun (w', p) => (w', winding p)
  remove p w := Provider.system.remove (Path.ofNames (Path.names p)) w

theorem names_winding (p : Path) : Path.names (winding p) = Path.names p := by
  unfold winding
  generalize pathLimit = n
  induction n with
  | zero => rfl
  | succ n ih => simpa [List.replicate_succ, Path.names, Text.splitOn] using ih

theorem isAbsolute_winding (p : Path) : Path.isAbsolute (winding p) = true := by
  have hpos : pathLimit ≠ 0 := by decide
  simp [Path.isAbsolute, winding, List.head?_append, List.head?_replicate, hpos]

theorem pathLimit_le_winding (p : Path) : pathLimit ≤ (Text.encode (winding p)).length := by
  unfold winding
  generalize pathLimit = n
  induction n with
  | zero => simp
  | succ n ih =>
    rw [List.replicate_succ, List.cons_append, Path.length_encode_slash]
    omega

theorem location_winding (p : Path) : Path.location (winding p) = Path.location p := by
  rw [Path.location, names_winding, Path.location]

/-- what it makes is what the system makes, told by another path -/
theorem exists_of_make_distant (h : distant.make w = .ok (w', p)) :
    ∃ q, w.makeTemporary = .ok (w', q) ∧ p = winding q := by
  cases hm : w.makeTemporary with
  | error e => simp [distant, hm, Except.map] at h
  | ok made =>
    obtain ⟨left, q⟩ := made
    obtain ⟨rfl, rfl⟩ : left = w' ∧ winding q = p := by simpa [distant, hm, Except.map] using h
    exact ⟨q, rfl, rfl⟩

theorem lawful_distant : distant.Lawful where
  absolute := fun w w' p h => by
    obtain ⟨q, -, rfl⟩ := exists_of_make_distant h
    exact isAbsolute_winding q
  made := fun w w' p h => by
    obtain ⟨q, hq, rfl⟩ := exists_of_make_distant h
    rw [location_winding]
    exact made_of_makeTemporary hq
  removed := fun w w' p h v => by
    obtain ⟨q, hq, rfl⟩ := exists_of_make_distant h
    obtain ⟨place, rfl, hne, hn, hshort⟩ := exists_place_of_makeTemporary hq
    have hremove : distant.remove (winding (Path.ofNames place)) v = Provider.system.remove (Path.ofNames place) v := by
      simp only [distant, names_winding, Path.names_ofNames hn]
    rw [location_winding, Path.location_ofNames hn, hremove]
    exact removed_system hne hn hshort v

end RunnableDocs.RunDirectory.Provider
