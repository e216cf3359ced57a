/-
What a declaration is.

- `longestAt?_eq_some_iff`: the extension that is taken is listed, the text starts with it, and no longer listed one
  does;
- `Declaration.ofText?_eq_some_iff`: a text declares a file name if it is a word, a full stop, and a rest that starts
  with a listed extension.

White space is no part of a word (`isWord_of_isSpace`), so a text that starts with a tab declares nothing.
-/
import Mathlib.Data.List.TakeWhile
import Mathlib.Tactic
import RunnableDocs.Declaration

namespace RunnableDocs

namespace Text

/-- the white space of `isSpace`, by code points -/
def spaceCodes : List ℕ :=
  [0x9, 0xA, 0xB, 0xC, 0xD, 0x20, 0x85, 0xA0, 0x1680, 0x2000, 0x2001, 0x2002, 0x2003, 0x2004, 0x2005, 0x2006, 0x2007,
   0x2008, 0x2009, 0x200A, 0x2028, 0x2029, 0x202F, 0x205F, 0x3000]

theorem mem_spaceCodes {c : Char} (h : isSpace c = true) : c.toNat ∈ spaceCodes := by
  simp only [isSpace, Bool.or_eq_true, Bool.and_eq_true, decide_eq_true_eq] at h
  simp only [spaceCodes, List.mem_cons, List.not_mem_nil, or_false]
  omega

theorem isWord_of_mem_spaceCodes : ∀ n ∈ spaceCodes, isWord (Char.ofNat n) = false := by
  decide +kernel

theorem isWord_of_isSpace {c : Char} (h : isSpace c = true) : isWord c = false := by
  rw [← Char.ofNat_toNat c]
  exact isWord_of_mem_spaceCodes _ (mem_spaceCodes h)

end Text

open Text (isWord)

/-! ## The longest extension -/

theorem longestAt?_cons (e : Text) (es : List Text) (text : Text) :
    longestAt? (e :: es) text =
      if e <+: text ∧ ∀ l, longestAt? es text = some l → l.length < e.length then some e else longestAt? es text := by
  rw [longestAt?, List.foldr_cons, ← longestAt?]
  congr 1
  simp [List.isPrefixOf_iff_prefix, Option.all_eq_true]

theorem longestAt?_eq_none_iff {extensions : List Text} {text : Text} :
    longestAt? extensions text = none ↔ ∀ e ∈ extensions, ¬ e <+: text := by
  induction extensions with
  | nil => simp [longestAt?]
  | cons e es ih =>
    rw [longestAt?_cons]
    split_ifs with h
    · simp [h.1]
    · rw [ih, List.forall_mem_cons]
      refine ⟨fun hn => ⟨fun hp => h ⟨hp, fun l hl => ?_⟩, hn⟩, fun hn => hn.2⟩
      rw [ih.2 hn] at hl
      cases hl

theorem longestAt?_longest {extensions : List Text} {text extension : Text}
    (h : longestAt? extensions text = some extension) :
    extension ∈ extensions ∧ extension <+: text ∧ ∀ e ∈ extensions, e <+: text → e.length ≤ extension.length := by
  induction extensions generalizing extension with
  | nil => simp [longestAt?] at h
  | cons e es ih =>
    rw [longestAt?_cons] at h
    split_ifs at h with hc
    · obtain rfl := Option.some.inj h
      refine ⟨List.mem_cons_self, hc.1, fun x hx hp => ?_⟩
      rcases List.mem_cons.1 hx with rfl | hx
      · exact le_rfl
      · cases hl : longestAt? es text with
        | none => exact absurd hp (longestAt?_eq_none_iff.1 hl x hx)
        | some l => exact ((ih hl).2.2 x hx hp).trans (hc.2 l hl).le
    · obtain ⟨hm, hp, hmax⟩ := ih h
      refine ⟨List.mem_cons_of_mem e hm, hp, fun x hx hxp => ?_⟩
      rcases List.mem_cons.1 hx with rfl | hx
      · -- the listed one was passed over, so it is no longer than the one kept
        by_contra hlt
        refine hc ⟨hxp, fun l hl => ?_⟩
        rw [h] at hl
        obtain rfl := Option.some.inj hl
        omega
      · exact hmax x hx hxp

/-- **Longest match.** The extension taken at the start of a text is the longest listed one that is there. -/
theorem longestAt?_eq_some_iff {extensions : List Text} {text extension : Text} :
    longestAt? extensions text = some extension ↔
      extension ∈ extensions ∧ extension <+: text ∧ ∀ e ∈ extensions, e <+: text → e.length ≤ extension.length := by
  refine ⟨longestAt?_longest, fun ⟨hm, hp, hmax⟩ => ?_⟩
  cases hl : longestAt? extensions text with
  | none => exact absurd hp (longestAt?_eq_none_iff.1 hl extension hm)
  | some l =>
    obtain ⟨hlm, hlp, hlmax⟩ := longestAt?_longest hl
    -- two beginnings of one text that are equally long are the same
    have hlen : l.length = extension.length := le_antisymm (hmax l hlm hlp) (hlmax extension hm hp)
    rw [(List.prefix_of_prefix_length_le hlp hp hlen.le).eq_of_length hlen]

/-! ## Declarations -/

namespace Declaration

theorem takeWhile_word {word : Text} (hw : ∀ c ∈ word, isWord c = true) (rest : Text) :
    (word ++ '.' :: rest).takeWhile isWord = word ∧ (word ++ '.' :: rest).dropWhile isWord = '.' :: rest := by
  have hstop : isWord '.' = false := Text.isWord_stop.1
  rw [List.takeWhile_append_of_pos hw, List.dropWhile_append_of_pos hw]
  simp [hstop]

theorem ofText?_eq_some_iff {extensions : List Text} {text : Text} {d : Declaration} :
    ofText? extensions text = some d ↔
      ∃ word rest, word ≠ [] ∧ (∀ c ∈ word, isWord c = true) ∧ text = word ++ '.' :: rest ∧
        longestAt? extensions rest = some d.extension ∧ d.filename = word ++ '.' :: d.extension := by
  constructor
  · intro h
    simp only [ofText?] at h
    split at h
    · rename_i rest hrest
      split_ifs at h with hw
      obtain ⟨e, he, rfl⟩ := Option.map_eq_some_iff.1 h
      refine ⟨text.takeWhile isWord, rest, hw, fun c hc => List.mem_takeWhile_imp hc, ?_, he, rfl⟩
      rw [← hrest, List.takeWhile_append_dropWhile]
    · cases h
  · rintro ⟨word, rest, hne, hw, rfl, he, hf⟩
    obtain ⟨ht, hd⟩ := takeWhile_word hw rest
    simp only [ofText?, ht, hd, if_neg hne, he, Option.map_some, ← hf]

/-- a text that declares something starts with a character of a word -/
theorem exists_head_isWord {extensions : List Text} {text : Text} {d : Declaration}
    (h : ofText? extensions text = some d) : ∃ c rest, text = c :: rest ∧ isWord c = true := by
  obtain ⟨word, rest, hne, hw, rfl, -, -⟩ := ofText?_eq_some_iff.1 h
  obtain ⟨c, word, rfl⟩ := List.exists_cons_of_ne_nil hne
  exact ⟨c, word ++ '.' :: rest, rfl, hw c List.mem_cons_self⟩

end Declaration
end RunnableDocs
