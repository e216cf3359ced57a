/-
Line endings.

A source whose lines end in a return and a line feed is parsed as the same source with line feeds alone. The comment is
cut at the same places (`Comment.ofLines_returned`), and its paragraphs are the same apart from returns before line
feeds, which nothing that parsing looks at can tell (`Paragraph.likeness_returned`): a line with only a return is blank,
white space around a marker is ignored, and a declaration stops at white space. So the programs are the same, with
returns before some line feeds of their codes and outputs (`line_endings_do_not_matter`).
-/
import RunnableDocs.Proofs.Alike
import RunnableDocs.Proofs.Enclosure
import RunnableDocs.Proofs.Indentation
import RunnableDocs.Proofs.Text.Returns

namespace RunnableDocs

open Paragraph (blocks isBlank ofLines startsWithTab)
open Text (Returned Unbroken isWord withReturns)

/-! ## Paragraphs -/

namespace Paragraph

/-- the same lines, and the same text apart from returns before line feeds -/
structure Returned (p q : Paragraph) : Prop where
  lineStart_eq : q.lineStart = p.lineStart
  lineEnd_eq : q.lineEnd = p.lineEnd
  text : Text.Returned p.text q.text

theorem isBlank_returned {l l' : Text} (h : Text.Returned l l') : isBlank l' = isBlank l := by
  cases h with
  | nil => rfl
  | @keep c t t' hc h =>
    cases h with
    | nil => rfl
    | keep _ _ => simp [isBlank, hc]
    | feed _ => simp [isBlank, hc]
  | feed h => cases h <;> simp [isBlank]

theorem startsWithTab_cons (c : Char) (t : Text) : startsWithTab (c :: t) = decide (c = '\t') := by
  unfold startsWithTab
  split
  · rename_i heq
    obtain ⟨rfl, -⟩ := List.cons.inj heq
    rfl
  · rename_i hne
    exact (decide_eq_false fun hc => hne t (by rw [hc])).symm

theorem startsWithTab_returned {t t' : Text} (h : Text.Returned t t') : startsWithTab t' = startsWithTab t := by
  cases h with
  | nil => rfl
  | keep _ _ => rw [startsWithTab_cons, startsWithTab_cons]
  | feed _ => rfl

theorem ofLines_returned {ls ls' : List Text} (h : List.Forall₂ Text.Returned ls ls') (n : ℕ) :
    List.Forall₂ Paragraph.Returned (ofLines n ls) (ofLines n ls') := by
  induction h generalizing n with
  | nil => exact .nil
  | @cons l l' ls ls' hl _ ih =>
    have ih := ih (n + 1)
    rw [ofLines, ofLines, isBlank_returned hl]
    generalize ofLines (n + 1) ls = ps at ih ⊢
    generalize ofLines (n + 1) ls' = ps' at ih ⊢
    cases ih with
    | nil =>
      split_ifs
      · exact .nil
      · exact .cons ⟨rfl, rfl, hl⟩ .nil
    | cons hp hps =>
      simp only [hp.lineStart_eq]
      split_ifs
      · exact .cons hp hps
      · exact .cons ⟨rfl, hp.lineEnd_eq, hl.append hp.text⟩ hps
      · exact .cons ⟨rfl, rfl, hl⟩ (.cons hp hps)

theorem all_returned {f : Text → Bool} (hf : ∀ {l l'}, Text.Returned l l' → f l' = f l) {ls ls' : List Text}
    (h : List.Forall₂ Text.Returned ls ls') : ls'.all f = ls.all f := by
  induction h with
  | nil => rfl
  | cons hl _ ih => rw [List.all_cons, List.all_cons, hf hl, ih]

theorem isIndented_returned {p q : Paragraph} (h : Paragraph.Returned p q) : q.isIndented = p.isIndented := by
  have hline : ∀ {l l' : Text}, Text.Returned l l' →
      (isBlank l' || startsWithTab l') = (isBlank l || startsWithTab l) := by
    intro l l' hl
    rw [isBlank_returned hl, startsWithTab_returned hl]
  rw [isIndented, isIndented, startsWithTab_returned h.text, all_returned hline h.text.lines]

theorem absorb_returned {p q p' q' : Paragraph} (h : Paragraph.Returned p q) (h' : Paragraph.Returned p' q') :
    Paragraph.Returned (p.absorb p') (q.absorb q') where
  lineStart_eq := h.lineStart_eq
  lineEnd_eq := h'.lineEnd_eq
  text := by
    -- the line feeds that are put between the two stand alone in both
    rw [absorb, absorb]
    simp only [h.lineEnd_eq, h'.lineStart_eq, h.text.getLast?_eq]
    refine Text.Returned.append (.append (.append h.text ?_) (.line_feeds _)) h'.text
    split_ifs
    · exact .nil
    · exact .line_feeds 1

theorem isOutputMarker_returned {p q : Paragraph} (h : Paragraph.Returned p q) :
    q.isOutputMarker = p.isOutputMarker := by
  have htrim := h.text.trim
  -- neither line ending is part of a marker, and neither has another lower case
  have hplain : ∀ {t : Text} {c : Char}, t.map Char.toLower = "output:".toList →
      c.toLower ∉ "output:".toList → c ∉ t := by
    intro t c ht hc hm
    exact hc (ht ▸ List.mem_map_of_mem hm)
  have hiff : (Text.trim q.text).map Char.toLower = "output:".toList ↔
      (Text.trim p.text).map Char.toLower = "output:".toList := by
    constructor
    · intro hq
      rw [← htrim.eq_of_return_not_mem (hplain hq (by decide)), hq]
    · intro hp
      rw [htrim.eq_of_line_feed_not_mem (hplain hp (by decide)), hp]
  rw [isOutputMarker, isOutputMarker, decide_eq_decide]
  exact hiff

end Paragraph

/-! ## Declarations -/

theorem longestAt?_returned {extensions : List Text} (he : ∀ e ∈ extensions, Unbroken e) {t t' : Text}
    (h : Text.Returned t t') : longestAt? extensions t' = longestAt? extensions t := by
  induction extensions with
  | nil => rfl
  | cons e es ih =>
    rw [List.forall_mem_cons] at he
    simp only [longestAt?_cons, ih he.2, h.prefix_iff he.1]

theorem Declaration.ofText?_returned {extensions : List Text} (he : ∀ e ∈ extensions, Unbroken e) {t t' : Text}
    (h : Text.Returned t t') : ofText? extensions t' = ofText? extensions t := by
  have hfeed : isWord '\n' = false := Text.isWord_of_isSpace rfl
  have hreturn : isWord '\r' = false := Text.isWord_of_isSpace rfl
  have hrest := h.dropWhile (hfeed.trans hreturn.symm)
  unfold ofText?
  rw [h.takeWhile_eq hfeed hreturn]
  generalize t.dropWhile isWord = rest at hrest ⊢
  generalize t'.dropWhile isWord = rest' at hrest ⊢
  cases hrest with
  | nil => rfl
  | @keep c rest rest' _ hrest =>
    by_cases hc : c = '.'
    · subst hc
      simp only [longestAt?_returned he hrest]
    · simp [hc]
  | feed _ => rfl

namespace Paragraph

theorem likeness_returned {extensions : List Text} (he : ∀ e ∈ extensions, Unbroken e) :
    Likeness extensions Paragraph.Returned where
  tab h := startsWithTab_returned h.text
  indented h := isIndented_returned h
  marker h := isOutputMarker_returned h
  declares h := Declaration.ofText?_returned he h.text
  absorb h h' := absorb_returned h h'

end Paragraph

/-! ## Programs -/

/-- only a line feed with a tab behind it has something taken away -/
theorem dropTabs_cons {c : Char} {t : Text} (h : ¬(c = '\n' ∧ startsWithTab t = true)) :
    dropTabs (c :: t) = c :: dropTabs t := by
  cases t with
  | nil => rfl
  | cons d rest =>
    rw [dropTabs, if_neg]
    simpa [Paragraph.startsWithTab_cons] using h

theorem dropTabs_returned {t t' : Text} (h : Returned t t') : Returned (dropTabs t) (dropTabs t') := by
  have hreturn : ∀ s : Text, dropTabs ('\r' :: s) = '\r' :: dropTabs s :=
    fun s => dropTabs_cons fun hc => absurd hc.1 (by decide)
  fun_induction dropTabs t generalizing t' with
  | case1 =>
    cases h
    exact .nil
  | case2 c =>
    cases h with
    | keep hc h =>
      cases h
      exact .keep hc .nil
    | feed h =>
      cases h
      exact .feed .nil
  | case3 c d rest hcd ih =>
    obtain ⟨rfl, rfl⟩ : c = '\n' ∧ d = '\t' := by simpa using hcd
    cases h with
    | keep hc h =>
      cases h with
      | keep hd hrest =>
        rw [dropTabs, if_pos hcd]
        exact .keep hc (ih hrest)
    | feed h =>
      cases h with
      | keep hd hrest =>
        rw [hreturn, dropTabs, if_pos hcd]
        exact .feed (ih hrest)
  | case4 c d rest hcd ih =>
    have hkeep : ∀ {s' : Text}, Returned (d :: rest) s' → dropTabs (c :: s') = c :: dropTabs s' := by
      intro s' hs
      apply dropTabs_cons
      rw [Paragraph.startsWithTab_returned hs, Paragraph.startsWithTab_cons]
      simpa using hcd
    cases h with
    | keep hc h =>
      rw [hkeep h]
      exact .keep hc (ih h)
    | feed h =>
      rw [hreturn, hkeep h]
      exact .feed (ih h)

theorem untab_returned {t t' : Text} (h : Returned t t') : Returned (untab t) (untab t') := by
  have hplain : ∀ {s : Text}, startsWithTab s = false → untab s = dropTabs s := by
    intro s hs
    unfold untab
    split
    · cases hs
    · rfl
  cases ht : startsWithTab t with
  | false =>
    rw [hplain ht, hplain ((Paragraph.startsWithTab_returned h).trans ht)]
    exact dropTabs_returned h
  | true =>
    cases h with
    | nil => cases ht
    | keep _ h =>
      obtain rfl : _ = '\t' := by simpa [Paragraph.startsWithTab_cons] using ht
      exact dropTabs_returned h
    | feed _ => cases ht

namespace Program

/-- the program without the returns of its code and of its output -/
def withoutReturns (p : Program) : Program :=
  { p with code := Text.withoutReturns p.code, output := p.output.map Text.withoutReturns }

theorem madeAlike_returned : MadeAlike Paragraph.Returned fun p q => p = withoutReturns q := by
  intro d p q o o' h ho
  have hcode := (untab_returned h.text).withoutReturns_eq
  have houtput : (o'.map fun p => untab p.text).map Text.withoutReturns = o.map fun p => untab p.text := by
    cases ho with
    | none => rfl
    | some h => exact congrArg some (untab_returned h.text).withoutReturns_eq
  simp only [withoutReturns, ofParagraph, hcode, houtput, h.lineStart_eq, h.lineEnd_eq]

theorem ofParagraphs_returned {extensions : List Text} (he : ∀ e ∈ extensions, Unbroken e) {ps qs : List Paragraph}
    (h : List.Forall₂ Paragraph.Returned ps qs) :
    (ofParagraphs extensions qs).map (List.map withoutReturns) = ofParagraphs extensions ps := by
  rcases ofParagraphs_alike (Paragraph.likeness_returned he) madeAlike_returned h with
    ⟨p, q, hpq, hp, hq⟩ | ⟨programs, programs', hp, hq, halike⟩
  · rw [hp, hq, hpq.lineStart_eq]
    rfl
  · rw [← List.forall₂_map_right_iff, List.forall₂_eq_eq_eq] at halike
    rw [hp, hq, halike]
    rfl

end Program

/-! ## The comment -/

/-- markers that are not empty and have neither line feeds nor returns -/
structure Markers.Unbroken (m : Markers) : Prop extends m.WithinLine where
  opening_no_return : '\r' ∉ m.opening
  closing_no_return : '\r' ∉ m.closing

theorem Markers.Unbroken.opening {m : Markers} (h : m.Unbroken) : Text.Unbroken m.opening :=
  ⟨h.opening_line, h.opening_no_return⟩

theorem Markers.Unbroken.closing {m : Markers} (h : m.Unbroken) : Text.Unbroken m.closing :=
  ⟨h.closing_line, h.closing_no_return⟩

namespace Comment

theorem bodyOf?_returned {closing : Text} (hne : closing ≠ []) (hw : Unbroken closing) {ls ls' : List Text}
    (h : List.Forall₂ Returned ls ls') : Option.Rel Returned (bodyOf? closing ls) (bodyOf? closing ls') := by
  induction h with
  | nil => exact .none
  | @cons l l' ls ls' hl _ ih =>
    have hsplit := hl.splitAt? hne hw
    rw [bodyOf?, bodyOf?]
    generalize Text.splitAt? closing l = s at hsplit ⊢
    generalize Text.splitAt? closing l' = s' at hsplit ⊢
    cases hsplit with
    | some hparts => exact .some hparts.1
    | none =>
      generalize bodyOf? closing ls = body at ih ⊢
      generalize bodyOf? closing ls' = body' at ih ⊢
      cases ih with
      | some hbody => exact .some (hl.append hbody)
      | none => exact .none

theorem ofLines_returned {markers : Markers} (hm : markers.Unbroken) {ls ls' : List Text}
    (h : List.Forall₂ Returned ls ls') (n : ℕ) :
    (∃ e, ofLines markers n ls = .error e ∧ ofLines markers n ls' = .error e) ∨
      ∃ c c', ofLines markers n ls = .ok c ∧ ofLines markers n ls' = .ok c' ∧ c'.firstLine = c.firstLine ∧
        Returned c.body c'.body := by
  induction h generalizing n with
  | nil => exact Or.inl ⟨_, rfl, rfl⟩
  | @cons l l' ls ls' hl hls ih =>
    have hsplit := hl.splitAt? hm.opening_ne_nil hm.opening
    rw [ofLines, ofLines]
    generalize Text.splitAt? markers.opening l = s at hsplit ⊢
    generalize Text.splitAt? markers.opening l' = s' at hsplit ⊢
    cases hsplit with
    | none => exact ih (n + 1)
    | @some parts parts' hparts =>
      have hbody := bodyOf?_returned hm.closing_ne_nil hm.closing (.cons hparts.2 hls)
      dsimp only
      generalize bodyOf? markers.closing (parts.2 :: ls) = body at hbody ⊢
      generalize bodyOf? markers.closing (parts'.2 :: ls') = body' at hbody ⊢
      cases hbody with
      | some hbody => exact Or.inr ⟨_, _, rfl, rfl, rfl, hbody⟩
      | none => exact Or.inl ⟨_, rfl, rfl⟩

end Comment

namespace Program

/-- **Line endings do not matter.** Take a source without returns, and markers and extensions without returns and line
feeds. The same source with a return before each line feed fails to be parsed with the same cause, or it has the same
programs, apart from returns in their codes and outputs. -/
theorem line_endings_do_not_matter {markers : Markers} (hm : markers.Unbroken) {extensions : List Text}
    (he : ∀ e ∈ extensions, Unbroken e) {source : Text} (hs : '\r' ∉ source) :
    (ofSource markers extensions (withReturns source)).map (List.map withoutReturns) =
      ofSource markers extensions source := by
  have hlines := (Text.returned_withReturns hs).lines
  rw [ofSource, ofSource, Comment.ofSource, Comment.ofSource]
  rcases Comment.ofLines_returned hm hlines 1 with ⟨e, h, h'⟩ | ⟨c, c', h, h', hfirst, hbody⟩
  · rw [h, h']
    rfl
  · rw [h, h']
    have hparagraphs := Paragraph.ofLines_returned hbody.lines c.firstLine
    have hblocks : List.Forall₂ Paragraph.Returned (blocks c.body c.firstLine) (blocks c'.body c'.firstLine) := by
      rw [hfirst]
      exact Paragraph.merge_forall₂ (Paragraph.likeness_returned he) hparagraphs
    exact ofParagraphs_returned he hblocks

/-- a comment with blank lines inside a block, and an output -/
def fedSource : Text := "x /* h\n\na.sh\n\n\tp\n\n\n\tq\n\n Output:\n\n\tr\n*/\n".toList

theorem line_endings_do_not_matter_fed :
    Markers.Unbroken {} ∧ (∀ e ∈ ["sh".toList], Unbroken e) ∧ '\r' ∉ fedSource ∧
      ofSource {} ["sh".toList] (withReturns fedSource) =
        .ok [⟨5, 8, "a.sh".toList, "sh".toList, "p\r\n\n\nq\r\n".toList, some "r\r\n".toList⟩] ∧
      ofSource {} ["sh".toList] fedSource =
        .ok [⟨5, 8, "a.sh".toList, "sh".toList, "p\n\n\nq\n".toList, some "r\n".toList⟩] := by
  have hm : Markers.Unbroken {} := ⟨by constructor <;> decide, by decide, by decide⟩
  have he : ∀ e ∈ ["sh".toList], Unbroken e := by
    intro e hmem
    obtain rfl := List.mem_singleton.1 hmem
    exact ⟨by decide, by decide⟩
  have hs : '\r' ∉ fedSource := by decide
  have hreturns : ofSource {} ["sh".toList] (withReturns fedSource) =
      .ok [⟨5, 8, "a.sh".toList, "sh".toList, "p\r\n\n\nq\r\n".toList, some "r\r\n".toList⟩] := by decide +kernel
  have hsame := line_endings_do_not_matter hm he hs
  rw [hreturns] at hsame
  exact ⟨hm, he, hs, hreturns, hsame.symm⟩

end Program
end RunnableDocs
