/-
When the output of a program is the expected one.

Two texts agree if they have the same core, which is what is left of a text without the white space around it. So
agreement is an equivalence, white space put around either text does not matter, and all that is inside the core does:
`verification_compares_cores`. A mismatch is told with both texts as they are.
-/
import RunnableDocs.Program
import RunnableDocs.Proofs.Text.Trim

namespace RunnableDocs.Program

open Text (IsBlank IsCore Surrounds trim)

variable {filename expected actual core core' : Text}

theorem verify_eq_ok_iff : verify filename (some expected) actual = .ok () ↔ trim expected = trim actual := by
  simp [verify]

/-- a failure names the file and has both texts as they were given -/
theorem eq_of_verify_eq_error {expected : Option Text} {cause : Cause}
    (h : verify filename expected actual = .error cause) :
    ∃ e, expected = some e ∧ cause = .outputMismatch filename e actual := by
  unfold verify at h
  split at h
  · cases h
  · split_ifs at h
    exact ⟨_, rfl, (Except.error.inj h).symm⟩

/-- texts agree that have a core in common -/
theorem verify_eq_ok_iff_core : verify filename (some expected) actual = .ok () ↔
    ∃ core, IsCore core ∧ Surrounds core expected ∧ Surrounds core actual := by
  rw [verify_eq_ok_iff]
  constructor
  · intro h
    obtain ⟨hcore, hexpected⟩ := Text.trim_eq_iff.1 h
    exact ⟨trim actual, hcore, hexpected, Text.surrounds_trim actual⟩
  · rintro ⟨core, hcore, hexpected, hactual⟩
    rw [Text.trim_of_surrounds hcore hexpected, Text.trim_of_surrounds hcore hactual]

theorem verify_of_core_ne (hcore : IsCore core) (hcore' : IsCore core') (hexpected : Surrounds core expected)
    (hactual : Surrounds core' actual) (hne : core ≠ core') :
    verify filename (some expected) actual = .error (.outputMismatch filename expected actual) := by
  refine if_neg fun he => hne ?_
  calc core = trim expected := (Text.trim_of_surrounds hcore hexpected).symm
    _ = trim actual := he
    _ = core' := Text.trim_of_surrounds hcore' hactual

/-- **The output is compared without the white space around it, and with all that is in it.** A program that expects
nothing passes. Otherwise it passes exactly if the expected text and the printed one are the same core with white space
around it; a failure is a mismatch that holds both texts as they are. So whether two texts agree is an equivalence, white
space may be put around each, and texts of different cores never agree, whatever makes the difference. -/
theorem verification_compares_cores (filename : Text) :
    (∀ actual, verify filename none actual = .ok ()) ∧
    (∀ expected actual, verify filename (some expected) actual = .ok () ↔
      ∃ core, IsCore core ∧ Surrounds core expected ∧ Surrounds core actual) ∧
    (∀ expected actual cause, verify filename expected actual = .error cause →
      ∃ e, expected = some e ∧ cause = .outputMismatch filename e actual) ∧
    (Equivalence fun expected actual => verify filename (some expected) actual = .ok ()) ∧
    (∀ before expected after before' actual after', IsBlank before → IsBlank after → IsBlank before' → IsBlank after' →
      (verify filename (some (before ++ expected ++ after)) (before' ++ actual ++ after') = .ok () ↔
        verify filename (some expected) actual = .ok ())) ∧
    ∀ core core' expected actual, IsCore core → IsCore core' → Surrounds core expected → Surrounds core' actual →
      core ≠ core' →
      verify filename (some expected) actual = .error (.outputMismatch filename expected actual) := by
  refine ⟨fun _ => rfl, fun _ _ => verify_eq_ok_iff_core, fun _ _ _ => eq_of_verify_eq_error, ?_, ?_, ?_⟩
  · simp only [verify_eq_ok_iff]
    exact ⟨fun _ => rfl, Eq.symm, Eq.trans⟩
  · intro before expected after before' actual after' hb ha hb' ha'
    rw [verify_eq_ok_iff, verify_eq_ok_iff, Text.trim_append hb ha, Text.trim_append hb' ha']
  · intro core core' expected actual hcore hcore' hexpected hactual hne
    exact verify_of_core_ne hcore hcore' hexpected hactual hne

/-- a return between two lines is inside the core, a no-break space and a line feed behind it are not -/
example : verify "a.py".toList (some "a\r\nb".toList) "a\nb".toList =
      .error (.outputMismatch "a.py".toList "a\r\nb".toList "a\nb".toList) ∧
    verify "a.py".toList (some "\u00A0a\nb\n".toList) "a\nb".toList = .ok () := by decide

end RunnableDocs.Program
