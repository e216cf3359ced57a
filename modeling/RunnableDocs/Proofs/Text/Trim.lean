/-
White space around a text.

The characters of white space are listed (`whiteSpace`), and a text has one core that neither begins nor ends with any
of them. Trimming gives that core: `trim_eq_iff` states that the trimmed text is the only one that has no white space at
its ends and makes the text with white space put around it.
-/
import Mathlib.Data.List.DropRight
import Mathlib.Tactic
import RunnableDocs.Text.Basic

namespace RunnableDocs.Text

/-- what counts as white space: the controls from the tab to the return, the space, the next line, the no-break space,
and the spaces and separators of other scripts -/
def whiteSpace : List Char :=
  ['\t', '\n', '\x0B', '\x0C', '\r', ' ', '\u0085', '\u00A0', '\u1680', '\u2000', '\u2001', '\u2002', '\u2003', '\u2004',
    '\u2005', '\u2006', '\u2007', '\u2008', '\u2009', '\u200A', '\u2028', '\u2029', '\u202F', '\u205F', '\u3000']

theorem isSpace_iff {c : Char} : isSpace c = true ↔ c ∈ whiteSpace := by
  simp only [isSpace, whiteSpace, List.mem_cons, List.not_mem_nil, ← Char.toNat_inj]
  simp
  omega

/-- a text of white space only, maybe of none -/
def IsBlank (t : Text) : Prop := ∀ c ∈ t, c ∈ whiteSpace

/-- a text that neither begins nor ends with white space; the empty text is one -/
structure IsCore (t : Text) : Prop where
  head : ∀ c, t.head? = some c → c ∉ whiteSpace
  last : ∀ c, t.getLast? = some c → c ∉ whiteSpace

/-- the text is `core` with white space around it -/
def Surrounds (core t : Text) : Prop := ∃ before after, IsBlank before ∧ IsBlank after ∧ t = before ++ core ++ after

variable {t core before after : Text}

theorem IsBlank.isSpace (h : IsBlank t) : ∀ c ∈ t, isSpace c = true := fun c hc => isSpace_iff.2 (h c hc)

theorem IsBlank.append (h : IsBlank t) (h' : IsBlank after) : IsBlank (t ++ after) := by
  intro c hc
  exact (List.mem_append.1 hc).elim (h c) (h' c)

/-- more white space around a text leaves its core -/
theorem Surrounds.append (h : Surrounds core t) (hb : IsBlank before) (ha : IsBlank after) :
    Surrounds core (before ++ t ++ after) := by
  obtain ⟨before', after', hb', ha', rfl⟩ := h
  exact ⟨before ++ before', after' ++ after, hb.append hb', ha'.append ha, by simp⟩

theorem trim_eq (t : Text) : trim t = (t.dropWhile isSpace).rdropWhile isSpace := rfl

theorem isCore_trim (t : Text) : IsCore (trim t) where
  head := by
    intro c hc hspace
    -- what is left begins as the text does behind the white space at its beginning
    obtain ⟨rest, hrest⟩ := List.rdropWhile_prefix isSpace (t.dropWhile isSpace)
    rw [← trim_eq] at hrest
    have hhead : (t.dropWhile isSpace).head? = some c := by rw [← hrest, List.head?_append, hc, Option.some_or]
    have hnot := List.head?_dropWhile_not isSpace t
    rw [hhead] at hnot
    exact Bool.false_ne_true (hnot.symm.trans (isSpace_iff.2 hspace))
  last := by
    intro c hc hspace
    rw [trim_eq] at hc
    have hne := List.ne_nil_of_mem (List.mem_of_mem_getLast? hc)
    rw [List.getLast?_eq_some_getLast hne] at hc
    have hnot := List.rdropWhile_last_not isSpace _ hne
    rw [Option.some.inj hc] at hnot
    exact hnot (isSpace_iff.2 hspace)

theorem surrounds_trim (t : Text) : Surrounds (trim t) t := by
  refine ⟨t.takeWhile isSpace, (t.dropWhile isSpace).rtakeWhile isSpace, fun c hc => ?_, fun c hc => ?_, ?_⟩
  · exact isSpace_iff.1 (List.mem_takeWhile_imp hc)
  · exact isSpace_iff.1 (List.mem_rtakeWhile_imp hc)
  · rw [trim_eq, List.append_assoc, List.rdropWhile_append_rtakeWhile, List.takeWhile_append_dropWhile]

theorem trim_of_isBlank (h : IsBlank t) : trim t = [] := by
  rw [trim_eq, List.dropWhile_eq_nil_iff.2 h.isSpace, List.rdropWhile_nil]

/-- white space at the end of a text that begins with none is all that trimming takes -/
theorem trim_of_surrounds (hc : IsCore core) (h : Surrounds core t) : trim t = core := by
  obtain ⟨before, after, hb, ha, rfl⟩ := h
  cases core with
  | nil =>
    rw [List.append_nil]
    exact trim_of_isBlank (hb.append ha)
  | cons c rest =>
    have hfirst : isSpace c = false := by simpa using mt isSpace_iff.1 (hc.head c rfl)
    have hdrop : (before ++ (c :: rest) ++ after).dropWhile isSpace = c :: rest ++ after := by
      rw [List.append_assoc, List.dropWhile_append_of_pos hb.isSpace, List.cons_append, List.dropWhile_cons_of_neg]
      simp [hfirst]
    have hlast : (c :: rest).rdropWhile isSpace = c :: rest := by
      refine List.rdropWhile_eq_self_iff.2 fun hne hspace => ?_
      exact hc.last _ (List.getLast?_eq_some_getLast hne) (isSpace_iff.1 hspace)
    rw [trim_eq, hdrop, List.rdropWhile, List.reverse_append,
      List.dropWhile_append_of_pos fun d hd => ha.isSpace d (List.mem_reverse.1 hd)]
    exact hlast

/-- **Trimming gives the core**, and a text has no other. -/
theorem trim_eq_iff : trim t = core ↔ IsCore core ∧ Surrounds core t := by
  constructor
  · rintro rfl
    exact ⟨isCore_trim t, surrounds_trim t⟩
  · rintro ⟨hc, h⟩
    exact trim_of_surrounds hc h

/-- white space put around a text is taken away again -/
theorem trim_append (hb : IsBlank before) (ha : IsBlank after) (t : Text) : trim (before ++ t ++ after) = trim t :=
  trim_of_surrounds (isCore_trim t) ((surrounds_trim t).append hb ha)

end RunnableDocs.Text
