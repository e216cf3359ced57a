/-
What the requests that change the world do to its directories.

Making directories only adds (`Grows`), also when it is refused in the middle. Changing into a directory moves the
process and nothing else. A temporary directory is made where nothing was (`of_makeTemporary`). Removing a directory by
the path of its place takes away what is at the place and below (`removeDirectory_ofNames`), and if no directory is there
nothing changes. A file that is written is no directory before and none after (`write_keeps`).
-/
import RunnableDocs.RunDirectory
import RunnableDocs.Proofs.Place

namespace RunnableDocs

namespace World
variable {w w' w'' : World} {place stand : Location} {p : Path}

/-- a directory in one that is in the tree is in the tree -/
theorem InTree.child {name : Text} (h : w.InTree place) (hn : Path.IsName name)
    (hd : w.find? (place ++ [name]) = some .directory) : w.InTree (place ++ [name]) where
  named := fun m hm => (List.mem_append.1 hm).elim (h.named m) fun hm => List.mem_singleton.1 hm ▸ hn
  directories := fun q hq => by
    rcases List.prefix_concat_iff.1 hq with rfl | hq
    · exact hd
    · exact h.directories q hq

/-! ## Making directories -/

/-- everything is as it was, and what is new are directories; the process stands where it stood -/
structure Grows (w w' : World) : Prop where
  stands : w'.cwd = w.cwd
  stays : ∀ q e, w.find? q = some e → w'.find? q = some e
  fresh : ∀ q e, w'.find? q = some e → w.find? q = some e ∨ e = .directory

theorem Grows.refl (w : World) : w.Grows w := ⟨rfl, fun _ _ h => h, fun _ _ h => Or.inl h⟩

theorem Grows.trans (h : w.Grows w') (h' : w'.Grows w'') : w.Grows w'' where
  stands := h'.stands.trans h.stands
  stays := fun q e he => h'.stays q e (h.stays q e he)
  fresh := fun q e he => (h'.fresh q e he).elim (h.fresh q e) Or.inr

theorem Accessible.grows (ha : w.Accessible place) (h : w.Grows w') : w'.Accessible place :=
  ha.mono fun q _ hq => h.stays q .directory hq

theorem grows_put (h : w.find? place = none) : w.Grows (w.put place .directory) where
  stands := rfl
  stays := fun q e he => by
    rw [find?_put]
    by_cases hr : q = []
    · rw [if_pos hr, ← he, hr]
      rfl
    · rw [if_neg hr, if_neg (fun hq => by simp [hq, h] at he), he]
  fresh := fun q e he => by
    rw [find?_put] at he
    split_ifs at he
    · exact Or.inr (Option.some.inj he).symm
    · exact Or.inr (Option.some.inj he).symm
    · exact Or.inl he

theorem grows_makeWay (made : Bool) (w : World) (place : Location) (rest : List Text) :
    w.Grows (makeWay made w place rest).1 := by
  fun_induction makeWay made w place rest with
  | case1 => exact .refl _
  | case2 => exact .refl _
  | case3 _ _ _ _ _ _ _ _ ih => exact ih
  | case4 => exact .refl _
  | case5 made w place name rest next _ hnone ih => exact (grows_put hnone).trans ih

/-- directories that are made change nothing that is there, also if some way along they are refused -/
theorem grows_makeDirectories (w : World) (p : Path) : w.Grows (w.makeDirectories p).1 := by
  unfold makeDirectories
  split
  · exact .refl w
  · split
    · exact .refl w
    · split
      · split
        · exact .refl w
        · exact grows_makeWay ..
      · exact grows_makeWay ..

/-! ## Changing into a directory -/

/-- the world with the process at a place -/
def movedTo (w : World) (stand : Location) : World := { w with cwd := some stand, wayOut := none }

@[simp] theorem cwd_movedTo (w : World) (stand : Location) : (w.movedTo stand).cwd = some stand := rfl

@[simp] theorem find?_movedTo (w : World) (stand q : Location) : (w.movedTo stand).find? q = w.find? q := rfl

theorem Accessible.movedTo (h : w.Accessible place) (stand : Location) : (w.movedTo stand).Accessible place :=
  h.mono fun _ _ hq => hq

theorem changeDirectory_ofNames (h : w.Accessible place) :
    w.changeDirectory (Path.ofNames place) = .ok (w.movedTo place) := by
  have ha := Path.isAbsolute_ofNames place
  simp [changeDirectory, stepsInRemoved_of_absolute ha, at?_eq ha, resolve_ofNames h.toReachable, h.directory, bind,
    Except.bind, movedTo]

/-- a process that was put into a directory stands in one to which the path of its place leads -/
theorem of_changeDirectory (ha : Path.isAbsolute p = true) (h : w.changeDirectory p = .ok w') :
    ∃ place, w.resolve p = .ok place ∧ w.Accessible place ∧ w' = w.movedTo place := by
  simp only [changeDirectory, stepsInRemoved_of_absolute ha] at h
  by_cases hat : w.at? p = .ok .directory
  · obtain ⟨place, hr, hd⟩ := (at?_eq_directory_iff ha).1 hat
    have hw : w' = w.movedTo place := by
      simpa [hat, hr, bind, Except.bind, movedTo, eq_comm] using h
    exact ⟨place, hr, ⟨reachable_of_resolve ha hr, hd⟩, hw⟩
  · cases he : w.at? p with
    | error e => simp [he, bind, Except.bind] at h
    | ok e => cases e <;> simp_all [bind, Except.bind]

/-! ## Temporary directories -/

theorem exists_temporaryName_eq (n : ℕ) : ∃ t, temporaryName n = 'd' :: 'o' :: t ∧ '/' ∉ t ∧ '\x00' ∉ t := by
  have hdigit : ∀ c ∈ (toString n).toList, c.isDigit = true := fun c hc =>
    Nat.isDigit_of_mem_toDigits (by decide) (by decide) (Nat.toList_repr ▸ hc)
  refine ⟨"ctest".toList ++ List.replicate (6 - (toString n).toList.length) '0' ++ (toString n).toList, rfl, ?_, ?_⟩
  · simp only [List.mem_append, List.mem_replicate, not_or]
    exact ⟨⟨by decide, by simp⟩, fun hc => absurd (hdigit _ hc) (by decide)⟩
  · simp only [List.mem_append, List.mem_replicate, not_or]
    exact ⟨⟨by decide, by simp⟩, fun hc => absurd (hdigit _ hc) (by decide)⟩

theorem isName_temporaryName {n : ℕ} (h : (Text.encode (temporaryName n)).length ≤ maxNameLength) :
    Path.IsName (temporaryName n) := by
  obtain ⟨t, ht, hs, hz⟩ := exists_temporaryName_eq n
  refine { ne_nil := ?_, no_slash := ?_, no_null := ?_, ne_dot := ?_, ne_up := ?_, short := h } <;> rw [ht] <;>
    simp [hs, hz]

theorem isName_tmp : Path.IsName "tmp".toList := by constructor <;> decide

theorem inTree_temporaryPlace (h : w.find? temporaryPlace = some .directory) : w.InTree temporaryPlace where
  named := by simpa [temporaryPlace] using isName_tmp
  directories := fun q hq => by
    obtain rfl | ⟨t, rfl, ht⟩ := List.prefix_cons_iff.1 hq
    · rfl
    · rw [List.prefix_nil.1 ht]
      exact h

/-- below a place that is free nothing is found -/
theorem find?_of_isFree {q : Location} (hne : place ≠ []) (h : w.isFree place = true) (hq : place <+: q) :
    w.find? q = none := by
  have hrest : w.entries.filter (fun e => !place.isPrefixOf e.place) = w.entries :=
    List.filter_eq_self.2 (List.all_eq_true.1 h)
  have hfind := findIn_remaining place q w.entries
  rw [hrest, if_pos hq] at hfind
  have hq' : q ≠ [] := by
    rintro rfl
    exact hne (List.prefix_nil.1 hq)
  rw [find?, if_neg hq', placed?, hfind]
  rfl

/-- a temporary directory is put where nothing was, under a name that an entry can have -/
theorem of_makeTemporary (h : w.makeTemporary = .ok (w', p)) :
    ∃ name, Path.IsName name ∧ p = Path.ofNames (temporaryPlace ++ [name]) ∧
      w.find? temporaryPlace = some .directory ∧ w.isFree (temporaryPlace ++ [name]) = true ∧ w'.cwd = w.cwd ∧
      ∀ q, w'.find? q = (w.put (temporaryPlace ++ [name]) .directory).find? q := by
  simp only [makeTemporary] at h
  split at h
  · cases h
  · next n hfound =>
    cases hs : w.step temporaryPlace (temporaryName n) with
    | error e => simp [hs] at h
    | ok place =>
      obtain ⟨hd, hplace⟩ := step_eq_ok_iff.1 hs
      have hup : temporaryName n ≠ ['.', '.'] := by
        obtain ⟨t, ht, -⟩ := exists_temporaryName_eq n
        simp [ht]
      rw [if_neg hup] at hplace
      obtain ⟨hshort, rfl⟩ := hplace
      rw [hs] at h
      obtain ⟨rfl, rfl⟩ := Prod.mk.inj (Except.ok.inj h)
      exact ⟨_, isName_temporaryName hshort, rfl, hd, by simpa using List.find?_some hfound, rfl, fun _ => rfl⟩

/-! ## Removing a directory -/

theorem findIn_filter (f : Location → Bool) (q : Location) (entries : List Placed) :
    findIn q.length q (entries.filter fun e => f e.place) = if f q then findIn q.length q entries else none := by
  induction entries with
  | nil => simp [findIn]
  | cons e rest ih =>
    by_cases hp : e.place = q
    · cases hf : f q <;> simp_all [findIn]
    · cases hf : f e.place <;> simp [findIn, hf, hp, ih]

/-- what is not below a place is still there when the place has been cleared -/
theorem find?_clear_above {q : Location} (h : q <+: place) : (w.clear place).find? q = w.find? q := by
  have hlen := h.length_le
  have hb : (!(decide (place.length < q.length) && place.isPrefixOf q)) = true := by
    simp [Nat.not_lt.2 hlen]
  simp only [find?, placed?, clear, findIn_filter (fun q => !(decide (place.length < q.length) && place.isPrefixOf q)),
    hb, if_true]

theorem find?_remove_outside {q : Location} (h : ¬place <+: q) : (w.remove place).find? q = w.find? q := by
  rw [find?_remove, if_neg h]
  split
  · next hq => simp [find?, hq]
  · rfl

/-- a directory goes with all that is below it -/
theorem removeDirectory_ofNames (hne : place ≠ []) (h : w.Accessible place) :
    w.removeDirectory (Path.ofNames place) = (w.remove place, .ok ()) := by
  have ha := Path.isAbsolute_ofNames place
  have horigin : w.origin (Path.ofNames place) = .ok ([], Path.ofNames place) := by
    simp [origin, Path.not_mem_ofNames h.named, Nat.not_le.2 h.short, ha]
  have hat := (at?_eq_directory_iff ha).2 ⟨place, resolve_ofNames h.toReachable, h.directory⟩
  obtain ⟨init, last, rfl⟩ := List.eq_nil_or_concat place |>.resolve_left hne
  rw [List.concat_eq_append] at *
  have hlast := h.named last (by simp)
  have hinit : ∀ name ∈ init, Path.IsName name := fun name hm => h.named name (by simp [hm])
  have hclear : ∀ q, q <+: init → ((w.clear (init ++ [last])).find? q) = some .directory := fun q hq => by
    have hq' := hq.trans (List.prefix_append init [last])
    rw [find?_clear_above hq', h.find?_above hq']
  have hholder : (w.clear (init ++ [last])).holderFrom [] (Path.ofNames (init ++ [last])) = .ok init := by
    have hf : init.filter (· ≠ ['.']) = init :=
      List.filter_eq_self.2 fun name hm => decide_eq_true (hinit name hm).ne_dot
    have hwalk : init.foldlM (w.clear (init ++ [last])).step [] = .ok init :=
      foldlM_step hinit fun q hq _ => hclear q hq
    simp only [holderFrom, Path.pieces_ofNames h.named, List.dropLast_concat, hf, hwalk, bind, Except.bind,
      hclear init List.prefix_rfl]
  have hpiece : Path.lastPiece? (Path.ofNames (init ++ [last])) = some last := by
    simp [Path.lastPiece?, Path.pieces_ofNames h.named]
  simp only [removeDirectory, horigin, hat, resolve_ofNames h.toReachable, hholder, hpiece]
  split
  · next he => cases he
  · next he => cases he
  · next hdot => exact absurd (Option.some.inj hdot) hlast.ne_dot
  · next hup => exact absurd (Option.some.inj hup) hlast.ne_up
  · rfl

/-- where no directory is, none is removed -/
theorem removeDirectory_of_not_isDirectory (h : w.isDirectory p = false) : (w.removeDirectory p).1 = w := by
  have hat : w.at? p ≠ .ok .directory := fun he => by
    rw [isDirectory_eq_true_iff.2 he] at h
    exact absurd h (by decide)
  unfold removeDirectory
  split <;> first | rfl | contradiction

/-! ## Writing a file -/

/-- a file that is written stands where no directory was, and the process where it stood -/
theorem write_keeps {content : Text.Bytes} (h : w.write p content = .ok w') :
    w'.cwd = w.cwd ∧ ∀ q, w.find? q = some .directory → w'.find? q = some .directory := by
  have hput : ∀ {place : Location} {e : Entry}, w.find? place ≠ some .directory →
      (w.put place e).cwd = w.cwd ∧ ∀ q, w.find? q = some .directory → (w.put place e).find? q = some .directory := by
    intro place e hnot
    refine ⟨rfl, fun q hq => ?_⟩
    rw [find?_put]
    split_ifs with hnil heq
    · rfl
    · exact absurd (heq ▸ hq) hnot
    · exact hq
  cases hp : w.placeToWrite p with
  | error e => simp [write, hp, bind, Except.bind] at h
  | ok place =>
    simp only [write, hp, bind, Except.bind] at h
    split at h
    · cases h
    · next hf => cases h; exact hput (by simp [hf])
    · cases h
    · split at h
      · cases h; exact ⟨rfl, fun _ hq => hq⟩
      · cases h
    · cases h; exact ⟨rfl, fun _ hq => hq⟩
    · cases h
    · next hf => cases h; exact hput (by simp [hf])

end World

end RunnableDocs
