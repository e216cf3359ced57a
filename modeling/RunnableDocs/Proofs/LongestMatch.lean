/-
Declarations take the longest listed extension, whatever the list.

The same declarations are found by trying (`Declaration.firstMatch?`): first as long a word as there is and then shorter
ones, behind it a full stop, and then the extensions in turn, those of more bytes before those of fewer and none twice.
Both choices come out right. A word that is cut short has a word character behind it and no full stop, so only the whole
word counts (`exists_wordsOff`); and of two extensions that the text goes on with, the one tried first is no shorter
(`find?_inTurn`).

`longest_extension_is_declared` tells what a declaration is by the word, the full stop and the longest listed extension
alone. So the order of the list and what it holds twice make no difference, and what stands behind a file name makes one
only if a longer listed extension begins with the one that was taken and goes on there.
-/
import Mathlib.Data.Char
import Mathlib.Data.List.Destutter
import Mathlib.Data.List.Lex
import RunnableDocs.Proofs.Declaration
import RunnableDocs.Text.Utf8

namespace RunnableDocs

open Text (encode isWord)

/-- the first of two beginnings of a text has fewer characters only if it has fewer bytes -/
theorem Text.length_encode_lt_of_prefix {a b : Text} (h : a <+: b) (hlength : a.length < b.length) :
    (encode a).length < (encode b).length := by
  obtain ⟨t, rfl⟩ := h
  cases t with
  | nil => simp at hlength
  | cons c t =>
    have hbytes : 0 < (String.utf8EncodeChar c).length := by
      rw [String.length_utf8EncodeChar]
      exact c.utf8Size_pos
    simp only [encode, List.flatMap_append, List.flatMap_cons, List.length_append]
    omega

namespace Declaration

/-! ## A search by trying -/

/-- the one of more bytes is tried before the other, and of two with as many bytes the first in order -/
def triedBefore (a b : Text) : Bool :=
  (encode b).length < (encode a).length || (encode a).length = (encode b).length && Text.inOrder a b

/-- the extensions in the order in which they are tried, none twice -/
def inTurn (extensions : List Text) : List Text := (extensions.mergeSort triedBefore).destutter (· ≠ ·)

/-- the ways to take one or more word characters off a text, with what is left; as many as possible come first -/
def wordsOff : Text → List (Text × Text)
  | [] => []
  | c :: rest =>
    if isWord c then (wordsOff rest).map (fun cut => (c :: cut.1, cut.2)) ++ [([c], rest)] else []

/-- a word that has been taken off, and behind it a full stop and the first alternative that is there -/
def behindWord? (alternatives : List Text) : Text × Text → Option Declaration
  | (word, '.' :: rest) => (alternatives.find? (·.isPrefixOf rest)).map fun e => ⟨word ++ '.' :: e, e⟩
  | _ => none

/-- the declaration that is found first -/
def firstMatch? (alternatives : List Text) (text : Text) : Option Declaration :=
  (wordsOff text).findSome? (behindWord? alternatives)

theorem triedBefore_iff {a b : Text} : triedBefore a b = true ↔
    (encode b).length < (encode a).length ∨ (encode a).length = (encode b).length ∧ ¬ b < a := by
  simp [triedBefore, Text.inOrder]

theorem triedBefore_trans (a b c : Text) (hab : triedBefore a b = true) (hbc : triedBefore b c = true) :
    triedBefore a c = true := by
  rw [triedBefore_iff] at *
  rcases hab with hab | ⟨hab, hab'⟩ <;> rcases hbc with hbc | ⟨hbc, hbc'⟩
  · exact Or.inl (hbc.trans hab)
  · exact Or.inl (hbc ▸ hab)
  · exact Or.inl (hab ▸ hbc)
  · exact Or.inr ⟨hab.trans hbc, not_lt.2 ((not_lt.1 hab').trans (not_lt.1 hbc'))⟩

theorem triedBefore_total (a b : Text) : (triedBefore a b || triedBefore b a) = true := by
  rw [Bool.or_eq_true, triedBefore_iff, triedBefore_iff]
  rcases lt_trichotomy (encode a).length (encode b).length with h | h | h
  · exact Or.inr (Or.inl h)
  · rcases le_total a b with hle | hle
    · exact Or.inl (Or.inr ⟨h, not_lt.2 hle⟩)
    · exact Or.inr (Or.inr ⟨h.symm, not_lt.2 hle⟩)
  · exact Or.inl (Or.inl h)

theorem mem_destutter'_ne {a e : Text} {es : List Text} (h : e ∈ a :: es) : e ∈ es.destutter' (· ≠ ·) a := by
  induction es generalizing a with
  | nil =>
    obtain rfl := List.mem_singleton.1 h
    exact List.mem_cons_self
  | cons b es ih =>
    by_cases hab : a = b
    · rw [List.destutter'_cons_neg _ (not_not.2 hab)]
      refine ih ?_
      rcases List.mem_cons.1 h with rfl | h
      · exact List.mem_cons_self
      · rwa [hab]
    · rw [List.destutter'_cons_pos _ hab]
      rcases List.mem_cons.1 h with rfl | h
      · exact List.mem_cons_self
      · exact List.mem_cons_of_mem a (ih h)

theorem mem_inTurn {extensions : List Text} {e : Text} : e ∈ inTurn extensions ↔ e ∈ extensions := by
  have hsorted : e ∈ extensions.mergeSort triedBefore ↔ e ∈ extensions := List.mem_mergeSort
  rw [← hsorted, inTurn]
  refine ⟨fun h => (List.destutter_sublist _ _).subset h, fun h => ?_⟩
  cases hs : extensions.mergeSort triedBefore with
  | nil =>
    rw [hs] at h
    cases h
  | cons a es =>
    rw [hs] at h
    exact mem_destutter'_ne h

/-- of the extensions none has more bytes than one that is tried before it -/
theorem pairwise_inTurn (extensions : List Text) :
    (inTurn extensions).Pairwise fun a b => (encode b).length ≤ (encode a).length := by
  have hsorted := List.pairwise_mergeSort triedBefore_trans triedBefore_total extensions
  refine (hsorted.sublist (List.destutter_sublist _ _)).imp fun {a b} h => ?_
  rcases triedBefore_iff.1 h with h | h
  · exact h.le
  · exact h.1.ge

/-- the first extension in turn that a text starts with is the longest one -/
theorem find?_inTurn (extensions : List Text) (text : Text) :
    (inTurn extensions).find? (·.isPrefixOf text) = longestAt? extensions text := by
  cases hf : (inTurn extensions).find? (·.isPrefixOf text) with
  | none =>
    symm
    rw [longestAt?_eq_none_iff]
    intro e he hp
    have hnot := List.find?_eq_none.1 hf e (mem_inTurn.2 he)
    exact hnot (List.isPrefixOf_iff_prefix.2 hp)
  | some e =>
    symm
    obtain ⟨hp, before, behind, hsplit, hbefore⟩ := List.find?_eq_some_iff_append.1 hf
    have hp : e <+: text := List.isPrefixOf_iff_prefix.1 hp
    have hmem : e ∈ inTurn extensions := by rw [hsplit]; simp
    refine longestAt?_eq_some_iff.2 ⟨mem_inTurn.1 hmem, hp, fun x hx hxp => ?_⟩
    have hx := mem_inTurn.2 hx
    rw [hsplit, List.mem_append, List.mem_cons] at hx
    rcases hx with hx | rfl | hx
    · -- one that is tried before would have been taken
      have hnot := hbefore x hx
      rw [List.isPrefixOf_iff_prefix.2 hxp] at hnot
      cases hnot
    · exact le_rfl
    · -- one that is tried later has no more bytes
      have hsorted := pairwise_inTurn extensions
      rw [hsplit] at hsorted
      have hbytes := (List.pairwise_cons.1 (List.pairwise_append.1 hsorted).2.1).1 x hx
      by_contra hlong
      have hlong := Nat.not_le.1 hlong
      have hlonger := Text.length_encode_lt_of_prefix (List.prefix_of_prefix_length_le hp hxp hlong.le) hlong
      exact absurd hbytes (Nat.not_le.2 hlonger)

theorem wordsOff_eq_nil {text : Text} (h : text.takeWhile isWord = []) : wordsOff text = [] := by
  cases text with
  | nil => rfl
  | cons c text =>
    have hc : isWord c ≠ true := fun hc => by
      rw [List.takeWhile_cons_of_pos hc] at h
      cases h
    rw [wordsOff, if_neg hc]

/-- the whole word comes off first, and every shorter one has a word character behind it -/
theorem exists_wordsOff (text : Text) (h : text.takeWhile isWord ≠ []) :
    ∃ shorter, wordsOff text = (text.takeWhile isWord, text.dropWhile isWord) :: shorter ∧
      ∀ cut ∈ shorter, ∃ c rest, cut.2 = c :: rest ∧ isWord c = true := by
  induction text with
  | nil => exact absurd rfl h
  | cons c text ih =>
    have hc : isWord c = true := by
      by_contra hc
      exact h (List.takeWhile_cons_of_neg hc)
    rw [wordsOff, if_pos hc, List.takeWhile_cons_of_pos hc, List.dropWhile_cons_of_pos hc]
    cases htext : text.takeWhile isWord with
    | nil =>
      have hdrop : text.dropWhile isWord = text := by
        have := List.takeWhile_append_dropWhile (p := isWord) (l := text)
        rwa [htext, List.nil_append] at this
      exact ⟨[], by rw [wordsOff_eq_nil htext, hdrop]; rfl, by simp⟩
    | cons d word =>
      obtain ⟨shorter, hwords, hshorter⟩ := ih (by rw [htext]; simp)
      refine ⟨shorter.map (fun cut => (c :: cut.1, cut.2)) ++ [([c], text)], ?_, fun cut hcut => ?_⟩
      · rw [hwords, htext]
        rfl
      · rcases List.mem_append.1 hcut with hcut | hcut
        · obtain ⟨cut', hcut', rfl⟩ := List.mem_map.1 hcut
          exact hshorter cut' hcut'
        · obtain rfl := List.mem_singleton.1 hcut
          -- what is left starts as the rest of the word does
          have hd : d ∈ text.takeWhile isWord := by rw [htext]; exact List.mem_cons_self
          obtain ⟨rest, hrest⟩ := List.takeWhile_prefix (p := isWord) (l := text)
          rw [htext] at hrest
          exact ⟨d, word ++ rest, hrest.symm, List.mem_takeWhile_imp hd⟩

theorem behindWord?_of_isWord (alternatives : List Text) {cut : Text × Text}
    (h : ∃ c rest, cut.2 = c :: rest ∧ isWord c = true) : behindWord? alternatives cut = none := by
  obtain ⟨word, _⟩ := cut
  obtain ⟨c, rest, rfl, hc⟩ := h
  unfold behindWord?
  split
  · next heq =>
    obtain ⟨rfl, -⟩ := List.cons.inj (Prod.mk.inj heq).2
    exact absurd hc (by rw [Text.isWord_stop.1]; decide)
  · rfl

/-- **Trying in turn finds the longest.** -/
theorem firstMatch?_inTurn (extensions : List Text) (text : Text) :
    firstMatch? (inTurn extensions) text = ofText? extensions text := by
  unfold firstMatch? ofText?
  by_cases hw : text.takeWhile isWord = []
  · rw [wordsOff_eq_nil hw]
    split <;> simp [hw]
  · obtain ⟨shorter, hwords, hshorter⟩ := exists_wordsOff text hw
    have hnone : shorter.findSome? (behindWord? (inTurn extensions)) = none :=
      List.findSome?_eq_none_iff.2 fun cut hcut => behindWord?_of_isWord _ (hshorter cut hcut)
    have hwhole : (wordsOff text).findSome? (behindWord? (inTurn extensions)) =
        behindWord? (inTurn extensions) (text.takeWhile isWord, text.dropWhile isWord) := by
      rw [hwords, List.findSome?_cons, hnone]
      split
      · next heq => exact heq.symm
      · next heq => exact heq.symm
    rw [hwhole]
    unfold behindWord?
    simp only [find?_inTurn, if_neg hw]
    split <;> simp_all

/-! ## What is declared -/

/-- a text is a word and a full stop, and then goes on -/
structure StartsWithWord (text word rest : Text) : Prop where
  word_ne_nil : word ≠ []
  word_chars : ∀ c ∈ word, isWord c = true
  text_eq : text = word ++ '.' :: rest

/-- the longest listed extension that a text starts with -/
structure IsLongest (extensions : List Text) (text extension : Text) : Prop where
  listed : extension ∈ extensions
  isPrefix : extension <+: text
  longest : ∀ e ∈ extensions, e <+: text → e.length ≤ extension.length

theorem longestAt?_eq_some_iff_isLongest {extensions : List Text} {text extension : Text} :
    longestAt? extensions text = some extension ↔ IsLongest extensions text extension :=
  longestAt?_eq_some_iff.trans ⟨fun ⟨hm, hp, hmax⟩ => ⟨hm, hp, hmax⟩, fun ⟨hm, hp, hmax⟩ => ⟨hm, hp, hmax⟩⟩

variable {extensions : List Text} {text : Text} {d : Declaration}

theorem ofText?_eq_some_iff_startsWithWord :
    ofText? extensions text = some d ↔ ∃ word rest, StartsWithWord text word rest ∧
      IsLongest extensions rest d.extension ∧ d.filename = word ++ '.' :: d.extension := by
  rw [ofText?_eq_some_iff]
  constructor
  · rintro ⟨word, rest, hne, hchars, htext, hlongest, hfile⟩
    exact ⟨word, rest, ⟨hne, hchars, htext⟩, longestAt?_eq_some_iff_isLongest.1 hlongest, hfile⟩
  · rintro ⟨word, rest, ⟨hne, hchars, htext⟩, hlongest, hfile⟩
    exact ⟨word, rest, hne, hchars, htext, longestAt?_eq_some_iff_isLongest.2 hlongest, hfile⟩

theorem ofText?_eq_none_iff :
    ofText? extensions text = none ↔ ¬ ∃ word rest e, StartsWithWord text word rest ∧ e ∈ extensions ∧ e <+: rest := by
  constructor
  · rintro hnone ⟨word, rest, e, hword, he, hp⟩
    cases hl : longestAt? extensions rest with
    | none => exact longestAt?_eq_none_iff.1 hl e he hp
    | some longest =>
      have hsome : ofText? extensions text = some ⟨word ++ '.' :: longest, longest⟩ :=
        ofText?_eq_some_iff_startsWithWord.2 ⟨word, rest, hword, longestAt?_eq_some_iff_isLongest.1 hl, rfl⟩
      rw [hnone] at hsome
      cases hsome
  · intro hnot
    rw [Option.eq_none_iff_forall_ne_some]
    intro d hd
    obtain ⟨word, rest, hword, hlongest, -⟩ := ofText?_eq_some_iff_startsWithWord.1 hd
    exact hnot ⟨word, rest, d.extension, hword, hlongest.listed, hlongest.isPrefix⟩

/-- what is listed tells what is declared -/
theorem ofText?_congr {extensions' : List Text} (h : ∀ e, e ∈ extensions' ↔ e ∈ extensions) (text : Text) :
    ofText? extensions' text = ofText? extensions text := by
  have hlongest : ∀ rest e, IsLongest extensions' rest e ↔ IsLongest extensions rest e := by
    intro rest e
    constructor
    · rintro ⟨hm, hp, hmax⟩
      exact ⟨(h e).1 hm, hp, fun x hx => hmax x ((h x).2 hx)⟩
    · rintro ⟨hm, hp, hmax⟩
      exact ⟨(h e).2 hm, hp, fun x hx => hmax x ((h x).1 hx)⟩
  refine Option.ext fun d => ?_
  rw [ofText?_eq_some_iff_startsWithWord, ofText?_eq_some_iff_startsWithWord]
  simp only [hlongest]

/-- behind the file name anything may stand that makes no longer extension -/
theorem ofText?_followed_iff (h : ofText? extensions text = some d) (behind : Text) :
    ofText? extensions (d.filename ++ behind) = some d ↔
      ∀ e ∈ extensions, e <+: d.extension ++ behind → e.length ≤ d.extension.length := by
  obtain ⟨word, rest, hword, hlongest, hfile⟩ := ofText?_eq_some_iff_startsWithWord.1 h
  have htext : d.filename ++ behind = word ++ '.' :: (d.extension ++ behind) := by
    rw [hfile, List.append_assoc, List.cons_append]
  rw [ofText?_eq_some_iff_startsWithWord]
  constructor
  · rintro ⟨word', rest', hword', hlongest', hfile'⟩
    obtain rfl : word' = word := List.append_cancel_right (hfile'.symm.trans hfile)
    have hrest : d.extension ++ behind = rest' :=
      (List.cons.inj (List.append_cancel_left (htext.symm.trans hword'.text_eq))).2
    rw [hrest]
    exact hlongest'.longest
  · intro hmax
    exact ⟨word, d.extension ++ behind, ⟨hword.word_ne_nil, hword.word_chars, htext⟩,
      ⟨hlongest.listed, List.prefix_append _ _, hmax⟩, hfile⟩

/-- **The longest listed extension is declared**, whatever the list. A text declares a file name exactly if it is a word,
a full stop, and a rest that starts with a listed extension; the longest such extension counts, and the file name ends
with it. It is also the first declaration that is found by trying the extensions in turn, those of more bytes first. Only
what is listed matters, not in which order or how often. Nothing needs to stand behind the file name, and what does stand
there makes no difference unless a longer listed extension is there with it. -/
theorem longest_extension_is_declared (extensions : List Text) (text : Text) :
    (∀ d, ofText? extensions text = some d ↔ ∃ word rest, StartsWithWord text word rest ∧
      IsLongest extensions rest d.extension ∧ d.filename = word ++ '.' :: d.extension) ∧
    (ofText? extensions text = none ↔
      ¬ ∃ word rest e, StartsWithWord text word rest ∧ e ∈ extensions ∧ e <+: rest) ∧
    ofText? extensions text = firstMatch? (inTurn extensions) text ∧
    (∀ extensions', (∀ e, e ∈ extensions' ↔ e ∈ extensions) → ofText? extensions' text = ofText? extensions text) ∧
    ∀ d, ofText? extensions text = some d →
      (∃ behind, text = d.filename ++ behind) ∧ ofText? extensions d.filename = some d ∧
        ∀ behind, ofText? extensions (d.filename ++ behind) = some d ↔
          ∀ e ∈ extensions, e <+: d.extension ++ behind → e.length ≤ d.extension.length := by
  refine ⟨fun d => ofText?_eq_some_iff_startsWithWord, ofText?_eq_none_iff, (firstMatch?_inTurn extensions text).symm,
    fun extensions' h => ofText?_congr h text, fun d hd => ⟨?_, ?_, ofText?_followed_iff hd⟩⟩
  · obtain ⟨word, rest, hword, hlongest, hfile⟩ := ofText?_eq_some_iff_startsWithWord.1 hd
    obtain ⟨behind, rfl⟩ := hlongest.isPrefix
    exact ⟨behind, by rw [hword.text_eq, hfile, List.append_assoc, List.cons_append]⟩
  · have hfollowed := (ofText?_followed_iff hd []).2
    rw [List.append_nil, List.append_nil] at hfollowed
    exact hfollowed fun e _ hp => hp.length_le

example : ofText? ["py".toList, "pyc".toList, "".toList, "p+".toList, "py".toList] "notes.pyc: x".toList =
    some ⟨"notes.pyc".toList, "pyc".toList⟩ := by decide +kernel

end Declaration
end RunnableDocs
