/-
What entering a directory and leaving it do.

`Entered` tells all that is known once a directory is entered (`of_enterWith`): where the process stood and where it
stands now, and that a temporary directory is at a place where nothing was. An enter that is refused has at most made
some directories on the way to one that was named; a temporary directory that could not be entered is gone again
(`of_enterWith_error`). `Left` tells what leaving does while the way back is open (`Entered.left`): a temporary
directory goes with all that is in it, but nothing that was there before it, and the process is taken back if the path
of where it stood is short enough to be followed (`World.CanReturn`).
-/
import RunnableDocs.Proofs.Temporary

namespace RunnableDocs

namespace Action
variable {α β : Type} {x : Action α} {f : α → Action β} {w w' : World}

/-- after an action that reports nothing and succeeds, the next one does all -/
theorem bind_of_quiet {a : α} (h : x w = ⟨[], w', .ok a⟩) : (x >>= f) w = f a w' := by
  have hr : (x w).result = .ok a := by rw [h]
  rw [bind_of_ok hr, h]
  simp

theorem bind_of_refused {e : Failure} (h : x w = ⟨[], w', .error e⟩) : (x >>= f) w = ⟨[], w', .error e⟩ := by
  have hr : (x w).result = .error e := by rw [h]
  rw [bind_of_error hr, h]

theorem during_of_ok {x : Action α} {o : Outcome α} {a : α} (h : x w = o) (hr : o.result = .ok a)
    (activity : Activity) : x.during activity w = o := by
  subst h
  simp only [during, hr, Except.mapError]
  rw [← hr]

theorem change_of_ok {g : World → Except SystemError World} (h : g w = .ok w') (activity : Activity) :
    (change g).during activity w = ⟨[], w', .ok ()⟩ := by
  simp [during, change, h, Except.mapError]

theorem change_of_error {g : World → Except SystemError World} {e : SystemError} (h : g w = .error e)
    (activity : Activity) : (change g).during activity w = ⟨[], w, .error (Failure.during activity (.ofSystem e))⟩ := by
  simp [during, change, h, Except.mapError]

end Action

namespace World
variable {w w' : World} {stand place : Location} {p : Path}

/-- the path of the directory that the process stands in is short enough to be followed -/
def CanReturn (w : World) : Prop :=
  ∀ stand, w.cwd = some stand → (Text.encode (Path.ofNames stand)).length < pathLimit

theorem canReturn_iff (h : w.cwd = some stand) :
    w.CanReturn ↔ (Text.encode (Path.ofNames stand)).length < pathLimit :=
  ⟨fun hw => hw stand h, fun hw _ hq => Option.some.inj (h.symm.trans hq) ▸ hw⟩

theorem currentPath_eq_ok_iff :
    w.currentPath = .ok p ↔ ∃ stand, w.cwd = some stand ∧ w.InTree stand ∧ p = Path.ofNames stand := by
  unfold currentPath
  cases hc : w.cwd with
  | none => simp
  | some stand =>
    by_cases ht : w.isInTree stand = true
    · simp [ht, isInTree_iff.1 ht, eq_comm]
    · simp [ht, mt isInTree_iff.2 ht]

/-- a directory whose path is too long is not gone back to -/
theorem changeDirectory_of_long (ha : Path.isAbsolute p = true) (h : pathLimit ≤ (Text.encode p).length) :
    ∃ e, w.changeDirectory p = .error e := by
  cases hc : w.changeDirectory p with
  | error e => exact ⟨e, rfl⟩
  | ok w' =>
    obtain ⟨place, hr, -⟩ := of_changeDirectory ha hc
    exact absurd ((resolve_eq_ok_iff ha).1 hr).2.1 (Nat.not_lt.2 h)

end World

/-- the place of a directory that was entered -/
def RunDirectory.place (d : RunDirectory) : Location := Path.location d.path

namespace RunDirectory

open RunnableDocs.Action (attempt bind_of_quiet bind_of_refused change change_of_error change_of_ok inspect)
open RunnableDocs.World

variable {temporary : Provider} {w w' : World} {d : RunDirectory} {dir : Option Path} {stand place q : Location}
  {origin : Path}

/-! ## Entering -/

/-- the directory `d`, entered from `w`, in which the process stood at `stand`; in `w'` it stands at `place` -/
structure Entered (temporary : Provider) (dir : Option Path) (w : World) (d : RunDirectory) (w' : World)
    (stand place : Location) : Prop where
  stood : w.cwd = some stand
  found : w.InTree stand
  origin : d.origin = Path.ofNames stand
  absolute : Path.isAbsolute d.path = true
  ephemeral : d.ephemeral = dir.isNone
  stands : w'.cwd = some place
  leads : w'.resolve d.path = .ok place
  accessible : w'.Accessible place
  stays : ∀ q e, w.find? q = some e → w'.find? q = some e
  /-- a temporary directory was not there, and can be removed -/
  fresh : d.ephemeral = true → ∀ q, place <+: q → w.find? q = none
  removed : d.ephemeral = true → ∀ v, Provider.Removed place v (temporary.remove d.path v)

theorem Entered.place_eq (h : Entered temporary dir w d w' stand q) : d.place = q :=
  (eq_location_of_resolve h.absolute h.leads).symm

theorem isAbsolute_absolute {origin dir : Path} (h : Path.isAbsolute origin = true) :
    Path.isAbsolute (absolute origin dir) = true := by
  unfold absolute
  split
  · assumption
  · next hd =>
    cases origin with
    | nil => simp [Path.isAbsolute] at h
    | cons c origin =>
      have hj : Path.isAbsolute (Path.join (c :: origin) dir) = Path.isAbsolute (c :: origin) := by
        unfold Path.join
        rw [if_neg (by simpa using hd)]
        split <;> simp [Path.isAbsolute]
      rw [hj, h]

/-- where no path tells where the process stands, no directory is entered -/
theorem enterWith_of_currentPath_error {e : SystemError} (h : w.currentPath = .error e) (temporary : Provider)
    (dir : Option Path) :
    enterWith temporary dir w = ⟨[], w, .error (Failure.during .readCurrentDirectory (.ofSystem e))⟩ := by
  have hread : (inspect World.currentPath).during .readCurrentDirectory w =
      ⟨[], w, .error (Failure.during .readCurrentDirectory (.ofSystem e))⟩ := by
    simp [Action.during, inspect, h, Except.mapError]
  rw [enterWith, bind_of_refused hread]

theorem readCurrentDirectory_eq (h : w.currentPath = .ok origin) :
    (inspect World.currentPath).during .readCurrentDirectory w = ⟨[], w, .ok origin⟩ := by
  simp [Action.during, inspect, h, Except.mapError]

theorem enterWith_none_of_error {e : SystemError} (h : w.currentPath = .ok origin) (hm : temporary.make w = .error e) :
    enterWith temporary none w = ⟨[], w, .error (Failure.during .createTemporaryDirectory (.ofSystem e))⟩ := by
  have hmake : (makeTemporary temporary).during .createTemporaryDirectory w =
      ⟨[], w, .error (Failure.during .createTemporaryDirectory (.ofSystem e))⟩ := by
    simp only [Action.during, makeTemporary, hm]
    rfl
  rw [enterWith, bind_of_quiet (readCurrentDirectory_eq h)]
  exact bind_of_refused hmake

/-- a temporary directory that was made is entered, or removed again -/
theorem enterWith_none_of_ok {path : Path} (h : w.currentPath = .ok origin) (hm : temporary.make w = .ok (w', path)) :
    enterWith temporary none w =
      match w'.changeDirectory path with
      | .error e => ⟨[], temporary.remove path w', .error (Failure.during (.changeDirectory path) (.ofSystem e))⟩
      | .ok w'' => ⟨[], w'', .ok ⟨path, origin, true⟩⟩ := by
  have hmake : (makeTemporary temporary).during .createTemporaryDirectory w = ⟨[], w', .ok path⟩ := by
    simp only [Action.during, makeTemporary, hm]
    rfl
  rw [enterWith, bind_of_quiet (readCurrentDirectory_eq h)]
  refine (bind_of_quiet hmake).trans ?_
  cases hc : w'.changeDirectory path with
  | error e =>
    have hrefused : enterTemporary temporary path w' =
        ⟨[], temporary.remove path w', .error (Failure.during (.changeDirectory path) (.ofSystem e))⟩ := by
      simp only [enterTemporary, change_of_error (g := (·.changeDirectory path)) hc]
    exact bind_of_refused hrefused
  | ok w'' =>
    have hentered : enterTemporary temporary path w' = ⟨[], w'', .ok ()⟩ := by
      simp only [enterTemporary, change_of_ok (g := (·.changeDirectory path)) hc]
    exact bind_of_quiet hentered

/-- a directory that is named is made, and then the process is put into it -/
theorem enterWith_some_eq (h : w.currentPath = .ok origin) (temporary : Provider) (dir : Path) :
    let path := absolute origin dir
    let made := w.makeDirectories path
    enterWith temporary (some dir) w =
      match made.2, made.1.changeDirectory path with
      | .error e, _ => ⟨[], made.1, .error (Failure.during (.createDirectory path) (.ofSystem e))⟩
      | .ok _, .error e => ⟨[], made.1, .error (Failure.during (.changeDirectory path) (.ofSystem e))⟩
      | .ok _, .ok w' => ⟨[], w', .ok ⟨path, origin, false⟩⟩ := by
  intro path made
  have hmake : (attempt (·.makeDirectories path)).during (.createDirectory path) w =
      ⟨[], made.1, (made.2.mapError Failure.ofSystem).mapError (·.during (.createDirectory path))⟩ := rfl
  rw [enterWith, bind_of_quiet (readCurrentDirectory_eq h)]
  cases hm : made.2 with
  | error e =>
    rw [hm] at hmake
    exact bind_of_refused hmake
  | ok _ =>
    rw [hm] at hmake
    refine (bind_of_quiet hmake).trans ?_
    cases hc : made.1.changeDirectory path with
    | error e => exact bind_of_refused (change_of_error hc _)
    | ok w' => exact bind_of_quiet (change_of_ok hc _)

/-- **Entering.** Where the process stood, where it stands now, and what was there before. -/
theorem of_enterWith (hlaw : temporary.Lawful) (h : (enterWith temporary dir w).result = .ok d) :
    ∃ stand place, Entered temporary dir w d (enterWith temporary dir w).world stand place := by
  cases hcurrent : w.currentPath with
  | error e =>
    rw [enterWith_of_currentPath_error hcurrent] at h
    cases h
  | ok origin =>
    obtain ⟨stand, hc, hfound, rfl⟩ := currentPath_eq_ok_iff.1 hcurrent
    cases dir with
    | none =>
      cases hm : temporary.make w with
      | error e =>
        rw [enterWith_none_of_error hcurrent hm] at h
        cases h
      | ok made =>
        obtain ⟨made, path⟩ := made
        have habs := hlaw.absolute w made path hm
        have he := enterWith_none_of_ok hcurrent hm
        rw [he] at h ⊢
        split at h
        · cases h
        · next w' hchange =>
          obtain rfl := Except.ok.inj h
          obtain ⟨place, hr, ha, rfl⟩ := of_changeDirectory habs hchange
          obtain rfl := eq_location_of_resolve habs hr
          have hmade := hlaw.made w made path hm
          exact ⟨stand, _,
            { stood := hc
              found := hfound
              origin := rfl
              absolute := habs
              ephemeral := rfl
              stands := rfl
              leads := by rw [← hr]; exact resolve_congr habs fun _ => rfl
              accessible := ha.movedTo _
              stays := hmade.grows.stays
              fresh := fun _ => hmade.fresh
              removed := fun _ => hlaw.removed w made path hm }⟩
    | some dir =>
      have he := enterWith_some_eq hcurrent temporary dir
      simp only at he
      rw [he] at h ⊢
      split at h
      · cases h
      · cases h
      · next w' hm hchange =>
        obtain rfl := Except.ok.inj h
        have habs : Path.isAbsolute (absolute (Path.ofNames stand) dir) = true :=
          isAbsolute_absolute (Path.isAbsolute_ofNames stand)
        obtain ⟨place, hr, ha, rfl⟩ := of_changeDirectory habs hchange
        exact ⟨stand, place,
          { stood := hc
            found := hfound
            origin := rfl
            absolute := habs
            ephemeral := rfl
            stands := rfl
            leads := by rw [← hr]; exact resolve_congr habs fun _ => rfl
            accessible := ha.movedTo place
            stays := (grows_makeDirectories w _).stays
            fresh := nofun
            removed := nofun }⟩

/-- what the system has made can be entered -/
theorem enterWith_system {made : World × Path} (h : w.currentPath = .ok origin) (hm : w.makeTemporary = .ok made) :
    ∃ d, (enterWith .system none w).result = .ok d := by
  obtain ⟨w', path⟩ := made
  obtain ⟨place, rfl, -, hn, hshort⟩ := Provider.exists_place_of_makeTemporary hm
  have hthere := (Provider.made_of_makeTemporary hm).there
  rw [Path.location_ofNames hn] at hthere
  have he : enterWith .system none w = _ := enterWith_none_of_ok h hm
  rw [he, changeDirectory_ofNames (hthere.accessible hshort)]
  exact ⟨_, rfl⟩

/-- what is too far away is never entered -/
theorem enterWith_distant (w : World) : ∃ f, (enterWith .distant none w).result = .error f := by
  cases hcurrent : w.currentPath with
  | error e => exact ⟨_, by rw [enterWith_of_currentPath_error hcurrent]⟩
  | ok origin =>
    cases hm : Provider.distant.make w with
    | error e => exact ⟨_, by rw [enterWith_none_of_error hcurrent hm]⟩
    | ok made =>
      obtain ⟨w', path⟩ := made
      obtain ⟨q, -, rfl⟩ := Provider.exists_of_make_distant hm
      obtain ⟨e, he⟩ := changeDirectory_of_long (w := w') (Provider.isAbsolute_winding q)
        (Provider.pathLimit_le_winding q)
      exact ⟨_, by rw [enterWith_none_of_ok hcurrent hm, he]⟩

/-- **An enter that is refused.** The process stands where it stood; at most some directories were made on the way to
one that was named. A temporary directory that was made is gone again. -/
theorem of_enterWith_error {f : Failure} (hlaw : temporary.Lawful)
    (h : (enterWith temporary dir w).result = .error f) :
    w.Grows (enterWith temporary dir w).world ∧
      ((dir = none ∨ ∃ e, w.currentPath = .error e) →
        ∀ q, (enterWith temporary dir w).world.find? q = w.find? q) := by
  cases hcurrent : w.currentPath with
  | error e =>
    rw [enterWith_of_currentPath_error hcurrent]
    exact ⟨.refl w, fun _ _ => rfl⟩
  | ok origin =>
    obtain ⟨stand, hc, hfound, rfl⟩ := currentPath_eq_ok_iff.1 hcurrent
    cases dir with
    | none =>
      cases hm : temporary.make w with
      | error e =>
        rw [enterWith_none_of_error hcurrent hm]
        exact ⟨.refl w, fun _ _ => rfl⟩
      | ok made =>
        obtain ⟨made, path⟩ := made
        have he := enterWith_none_of_ok hcurrent hm
        rw [he] at h ⊢
        split at h
        · next e hchange =>
          have hmade := hlaw.made w made path hm
          have hremoved := hlaw.removed w made path hm made
          have hsame := hmade.undone hremoved
          have hstands : (temporary.remove path made).cwd = w.cwd := by
            rcases hremoved.stands with hs | ⟨-, q, hq, hbelow⟩
            · rw [hs, hmade.stands]
            · obtain rfl : stand = q := Option.some.inj (hc.symm.trans (hmade.stands.symm.trans hq))
              exact absurd hbelow (not_prefix_of_free hmade.fresh hfound)
          exact ⟨⟨hstands, fun q e he => by rw [hsame, he], fun q e he => Or.inl (by rw [← hsame, he])⟩, fun _ => hsame⟩
        · cases h
    | some dir =>
      have he := enterWith_some_eq hcurrent temporary dir
      simp only at he
      rw [he] at h ⊢
      have hgrows := grows_makeDirectories w (absolute (Path.ofNames stand) dir)
      split
      · exact ⟨hgrows, by simp⟩
      · exact ⟨hgrows, by simp⟩
      · simp_all

/-! ## Leaving -/

/-- what leaving the directory `d`, entered from `before`, makes of the world `w` -/
structure Left (before : World) (d : RunDirectory) (w w' : World) : Prop where
  returns : w'.cwd = before.cwd ↔ before.CanReturn
  gone : d.ephemeral = true → ¬w'.InTree d.place
  /-- unless something else has been put in its stead -/
  cleared : d.ephemeral = true → (w.pathExists d.path = true → w.isDirectory d.path = true) →
    w'.pathExists d.path = false
  same : d.ephemeral = false → ∀ q, w'.find? q = w.find? q
  spared : ∀ q, before.Accessible q → w.Accessible q → w'.Accessible q

/-- going back moves the process, if the way is not too long, and changes nothing else -/
theorem Entered.exists_back {before after : World} (h : Entered temporary dir before d after stand place)
    (hkept : before.CanReturn → w.Accessible stand) :
    ∃ back : World, (w.changeDirectory d.origin).toOption.getD w = back ∧ (∀ q, back.find? q = w.find? q) ∧
      (before.CanReturn → back.cwd = some stand) ∧ (¬before.CanReturn → back.cwd = w.cwd) := by
  by_cases hreturn : before.CanReturn
  · refine ⟨w.movedTo stand, ?_, fun _ => rfl, fun _ => rfl, fun hnot => absurd hreturn hnot⟩
    rw [h.origin, changeDirectory_ofNames (hkept hreturn)]
    rfl
  · have hlong := Nat.not_lt.1 (mt (canReturn_iff h.stood).2 hreturn)
    obtain ⟨e, he⟩ := changeDirectory_of_long (w := w) (Path.isAbsolute_ofNames stand) hlong
    refine ⟨w, ?_, fun _ => rfl, fun hs => absurd hs hreturn, fun _ => rfl⟩
    rw [h.origin, he]
    rfl

/-- **Leaving.** With the way back open, the process goes back if that is not too far, and no directory goes that was in
the tree when this one was entered. -/
theorem Entered.left {before after : World} (h : Entered temporary dir before d after stand place)
    (hw : w.cwd = none ∨ w.cwd = some place) (hkept : before.CanReturn → w.Accessible stand) :
    Left before d w (d.leaveWith temporary w) := by
  obtain ⟨back, hback, hfind, hnear, hfar⟩ := h.exists_back hkept
  have hmono : ∀ q, w.Accessible q → back.Accessible q := fun q hq => hq.mono fun r _ hr => by rw [hfind, hr]
  have hreturns : back.cwd = some stand ↔ before.CanReturn := by
    refine ⟨fun hb => not_not.1 fun hnot => ?_, hnear⟩
    -- the process stands at a place to which a path led, so at none that is too far away
    rw [hfar hnot] at hb
    obtain rfl : place = stand := Option.some.inj ((hw.resolve_left (by simp [hb])).symm.trans hb)
    exact hnot ((canReturn_iff h.stood).2 h.accessible.short)
  cases he : d.ephemeral with
  | false =>
    have hleave : d.leaveWith temporary w = back := by simp [leaveWith, he, hback]
    rw [hleave]
    exact
      { returns := by rw [h.stood, hreturns]
        gone := by simp [he]
        cleared := by simp [he]
        same := fun _ => hfind
        spared := fun q _ => hmono q }
  | true =>
    have hleave : d.leaveWith temporary w = temporary.remove d.path back := by simp [leaveWith, he, hback]
    have hremoved := h.removed he back
    have hout : ∀ q, before.InTree q → ¬place <+: q := fun q => not_prefix_of_free (h.fresh he)
    rw [hleave]
    generalize temporary.remove d.path back = left at hremoved
    have hstands : left.cwd = some stand ↔ back.cwd = some stand := by
      rcases hremoved.stands with hs | ⟨hs, q, hq, hbelow⟩
      · rw [hs]
      · refine iff_of_false (by simp [hs]) fun hb => hout stand h.found ?_
        obtain rfl := Option.some.inj (hb.symm.trans hq)
        exact hbelow
    have hspared : ∀ q, before.Accessible q → w.Accessible q → left.Accessible q := fun q hb hq =>
      (hmono q hq).mono fun r hr hd => by rw [hremoved.outside r fun hp => hout q hb.inTree (hp.trans hr), hd]
    rw [← h.place_eq] at hremoved
    exact
      { returns := by rw [h.stood, hstands, hreturns]
        gone := fun _ => hremoved.not_inTree
        cleared := fun _ hd => hremoved.pathExists_eq_false h.absolute fun hb => by
          rw [isDirectory_congr h.absolute hfind]
          rw [pathExists_congr h.absolute hfind] at hb
          exact hd hb
        same := by simp [he]
        spared := hspared }

end RunDirectory
end RunnableDocs
