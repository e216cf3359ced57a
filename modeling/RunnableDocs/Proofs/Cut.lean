/-
The comment of a source, cut out of the whole text.

A source is read line by line. But a word that fits into a line, so that only its last character may be a line feed,
occurs in a text just where it occurs in one of the lines (`occurs_behind`), and so the first occurrence in glued lines
is the first one in a line (`splitAt?_of_none`, `splitAt?_of_some`). With an open marker of this kind, one search of the
whole text tells where the comment opens (`ofSource_eq_behind`), and its line is told by the line feeds before the
marker. If the close marker is of this kind too, a second search in what follows tells where the comment closes
(`ofSource_eq_cut`).
-/
import RunnableDocs.Proofs.Enclosure

namespace RunnableDocs

open Text (AreLines Complete FirstAt IsFull IsOpen lines splitAt?)

/-! ## Words that fit into a line -/

namespace Text

/-- a word that is not empty and has a line feed at most at its end -/
structure FitsLine (word : Text) : Prop where
  ne_nil : word ≠ []
  within : '\n' ∉ word.dropLast

theorem fitsLine_of_not_mem {word : Text} (hne : word ≠ []) (h : '\n' ∉ word) : FitsLine word :=
  ⟨hne, fun hm => h (List.mem_of_mem_dropLast hm)⟩

/-- what follows an occurrence does not decide whether it is the first -/
theorem FirstAt.followed {word t before after : Text} (h : FirstAt word t before after) (other : Text) :
    FirstAt word (before ++ word ++ other) before other := by
  refine ⟨rfl, fun b a hb => ?_⟩
  by_contra hlt
  -- an earlier occurrence would end before this one does
  have hlen : (b ++ word).length ≤ (before ++ word).length := by
    simp only [List.length_append]
    omega
  have hpre : b ++ word <+: before ++ word ++ other := ⟨a, hb.symm⟩
  obtain ⟨rest, hrest⟩ := List.prefix_of_prefix_length_le hpre (List.prefix_append _ other) hlen
  have ht : t = b ++ word ++ (rest ++ after) := by
    rw [h.1, ← hrest]
    simp
  exact hlt (h.2 b _ ht)

/-- behind a complete text without the word, an occurrence does not start before the end of that text -/
theorem occurs_behind {word l t before after : Text} (hw : FitsLine word) (hl : Complete l) (hno : ¬ word <:+: l)
    (h : l ++ t = before ++ word ++ after) : ∃ b, before = l ++ b ∧ t = b ++ word ++ after := by
  rw [List.append_assoc] at h
  rcases List.append_eq_append_iff.1 h with ⟨b, hb, ht⟩ | ⟨x, hx, hrest⟩
  · exact ⟨b, hb, by rw [ht, List.append_assoc]⟩
  · by_cases hnil : x = []
    · rw [hnil, List.append_nil] at hx
      rw [hnil, List.nil_append] at hrest
      exact ⟨[], by rw [hx, List.append_nil], hrest.symm⟩
    · exfalso
      rcases List.append_eq_append_iff.1 hrest with ⟨y, hy, -⟩ | ⟨y, hy, -⟩
      · exact hno ⟨before, y, by rw [hx, hy, List.append_assoc]⟩
      · by_cases hynil : y = []
        · rw [hynil, List.append_nil] at hy
          exact hno ⟨before, [], by rw [hx, hy, List.append_nil]⟩
        · -- the word reaches over the end of the complete text, so it holds the line feed there
          have hlast : x.getLast? = some '\n' := by
            have hlne : l ≠ [] := by
              rw [hx]
              exact List.append_ne_nil_of_right_ne_nil before hnil
            rw [← List.getLast?_append_of_ne_nil before hnil, ← hx]
            exact hl.resolve_left hlne
          apply hw.within
          rw [hy, List.dropLast_append_of_ne_nil hynil]
          exact List.mem_append_left _ (List.mem_of_mem_getLast? hlast)

theorem splitAt?_of_some {word l before after : Text} (h : splitAt? word l = some (before, after)) (t : Text) :
    splitAt? word (l ++ t) = some (before, after ++ t) := by
  have hfirst := splitAt?_eq_some_iff.1 h
  rw [splitAt?_eq_some_iff, hfirst.1, List.append_assoc]
  exact hfirst.followed (after ++ t)

theorem splitAt?_of_none {word l : Text} (hw : FitsLine word) (hl : Complete l) (h : splitAt? word l = none)
    (t : Text) : splitAt? word (l ++ t) = (splitAt? word t).map fun parts => (l ++ parts.1, parts.2) := by
  have hno := splitAt?_eq_none_iff.1 h
  cases ht : splitAt? word t with
  | none =>
    rw [Option.map_none, splitAt?_eq_none_iff]
    rintro ⟨before, after, he⟩
    obtain ⟨b, -, hb⟩ := occurs_behind hw hl hno he.symm
    exact splitAt?_eq_none_iff.1 ht ⟨b, after, hb.symm⟩
  | some parts =>
    obtain ⟨before, after⟩ := parts
    have hfirst := splitAt?_eq_some_iff.1 ht
    rw [Option.map_some, splitAt?_eq_some_iff]
    refine ⟨by rw [hfirst.1]; simp, fun b a he => ?_⟩
    obtain ⟨b', rfl, hb'⟩ := occurs_behind hw hl hno he
    have hle := hfirst.2 b' a hb'
    simp only [List.length_append]
    omega

end Text

/-! ## The comment of a source -/

/-- markers that fit into a line each -/
structure Markers.FitLines (m : Markers) : Prop where
  opening : Text.FitsLine m.opening
  closing : Text.FitsLine m.closing

theorem Markers.WithinLine.fitLines {m : Markers} (h : m.WithinLine) : m.FitLines where
  opening := Text.fitsLine_of_not_mem h.opening_ne_nil h.opening_line
  closing := Text.fitsLine_of_not_mem h.closing_ne_nil h.closing_line

namespace Comment

/-- the first comment in a text whose first line has the number `n`, found by two searches -/
def cut (markers : Markers) (n : ℕ) (t : Text) : Except Cause Comment :=
  match splitAt? markers.opening t with
  | none => .error (.missingOpen markers.opening)
  | some (before, rest) =>
    match splitAt? markers.closing rest with
    | none => .error (.missingClose (n + before.count '\n') markers.closing)
    | some (body, _) => .ok ⟨body, n + before.count '\n'⟩

theorem bodyOf?_eq_cut {closing : Text} (hc : Text.FitsLine closing) {tail : List Text}
    (h : ∀ l ∈ tail.dropLast, Complete l) : bodyOf? closing tail = (splitAt? closing tail.flatten).map Prod.fst := by
  induction tail with
  | nil => simp [bodyOf?, splitAt?, hc.ne_nil]
  | cons line more ih =>
    rw [bodyOf?, List.flatten_cons]
    cases hs : splitAt? closing line with
    | some parts =>
      obtain ⟨before, after⟩ := parts
      rw [Text.splitAt?_of_some hs]
      rfl
    | none =>
      cases more with
      | nil => simp [bodyOf?, hs]
      | cons m more =>
        rw [List.dropLast_cons_cons, List.forall_mem_cons] at h
        rw [ih h.2, Text.splitAt?_of_none hc h.1 hs, Option.map_map, Option.map_map]
        rfl

theorem bodyOf?_lines_eq_cut {closing : Text} (hc : Text.FitsLine closing) (t : Text) :
    bodyOf? closing (lines t) = (splitAt? closing t).map Prod.fst := by
  have hcomplete : ∀ l ∈ (lines t).dropLast, Complete l := fun l hl =>
    Or.inr ((Text.areLines_lines t).isFull_of_mem_dropLast l hl).getLast?
  rw [bodyOf?_eq_cut hc hcomplete, Text.flatten_lines]

/-- what stands in a line before an open marker has no line feed -/
theorem count_before {line opening before after : Text} (hline : IsFull line ∨ IsOpen line)
    (ho : Text.FitsLine opening) (h : line = before ++ opening ++ after) : before.count '\n' = 0 := by
  have hne : opening ++ after ≠ [] := List.append_ne_nil_of_left_ne_nil ho.ne_nil after
  rw [List.append_assoc] at h
  exact List.count_eq_zero.2 (Text.not_mem_of_line_append (h ▸ hline) hne)

theorem count_append_full {line : Text} (h : IsFull line) (t : Text) :
    (line ++ t).count '\n' = t.count '\n' + 1 := by
  obtain ⟨b, hb, rfl⟩ := h
  simp [List.count_eq_zero.2 hb]

/-- the rest of a line and the lines behind it are searched as the lines of one text -/
theorem bodyOf?_rest {closing x after : Text} {more : List Text} (hc : closing ≠ [])
    (h : AreLines ((x ++ after) :: more)) :
    bodyOf? closing (after :: more) = bodyOf? closing (lines (after ++ more.flatten)) := by
  by_cases hnil : after = []
  · -- nothing is left of the line, and an empty text has no close marker
    subst hnil
    rw [List.nil_append, Text.lines_flatten h.tail]
    simp [bodyOf?, splitAt?, hc]
  · have hlines : AreLines (after :: more) := by
      cases more with
      | nil =>
        rcases h with hfull | hopen
        · exact Or.inl (hfull.of_append hnil)
        · exact Or.inr ⟨hnil, fun hm => hopen.2 (List.mem_append_right x hm)⟩
      | cons m more => exact ⟨h.1.of_append hnil, h.2⟩
    rw [← List.flatten_cons, Text.lines_flatten hlines]

/-- **The open marker is found in the whole text**, whatever the close marker is; from behind it the lines of what
follows are searched for the close marker. -/
theorem ofLines_eq_behind {markers : Markers} (ho : Text.FitsLine markers.opening) (hc : markers.closing ≠ []) (n : ℕ)
    {ls : List Text} (hls : AreLines ls) :
    ofLines markers n ls =
      match splitAt? markers.opening ls.flatten with
      | none => .error (.missingOpen markers.opening)
      | some (before, rest) =>
        match bodyOf? markers.closing (lines rest) with
        | none => .error (.missingClose (n + before.count '\n') markers.closing)
        | some body => .ok ⟨body, n + before.count '\n'⟩ := by
  induction ls generalizing n with
  | nil => simp [ofLines, splitAt?, ho.ne_nil]
  | cons line more ih =>
    rw [ofLines, List.flatten_cons]
    cases hs : splitAt? markers.opening line with
    | some parts =>
      obtain ⟨before, after⟩ := parts
      have hsplit := Text.splitAt?_append hs
      have hcount := count_before hls.isFull_or_isOpen ho hsplit
      have hrest := bodyOf?_rest hc (hsplit ▸ hls)
      rw [Text.splitAt?_of_some hs]
      simp only [hrest, hcount]
      cases bodyOf? markers.closing (lines (after ++ more.flatten)) <;> rfl
    | none =>
      cases more with
      | nil => simp [ofLines, hs]
      | cons m more =>
        have hfull : IsFull line := hls.1
        rw [Text.splitAt?_of_none ho (Or.inr hfull.getLast?) hs]
        simp only [ih (n + 1) hls.tail]
        cases splitAt? markers.opening (m :: more).flatten with
        | none => rfl
        | some parts =>
          -- the line without the marker counts as one
          have hnumber : n + (line ++ parts.1).count '\n' = n + 1 + parts.1.count '\n' := by
            rw [count_append_full hfull]
            omega
          simp only [Option.map_some, hnumber]

theorem ofSource_eq_behind {markers : Markers} (ho : Text.FitsLine markers.opening) (hc : markers.closing ≠ [])
    (source : Text) :
    ofSource markers source =
      match splitAt? markers.opening source with
      | none => .error (.missingOpen markers.opening)
      | some (before, rest) =>
        match bodyOf? markers.closing (lines rest) with
        | none => .error (.missingClose (1 + before.count '\n') markers.closing)
        | some body => .ok ⟨body, 1 + before.count '\n'⟩ := by
  rw [ofSource, ofLines_eq_behind ho hc 1 (Text.areLines_lines source), Text.flatten_lines]

/-- **Reading line by line cuts the whole text.** -/
theorem ofSource_eq_cut {markers : Markers} (hm : markers.FitLines) (source : Text) :
    ofSource markers source = cut markers 1 source := by
  rw [ofSource_eq_behind hm.opening hm.closing.ne_nil, cut]
  cases splitAt? markers.opening source with
  | none => rfl
  | some parts =>
    simp only [bodyOf?_lines_eq_cut hm.closing]
    cases splitAt? markers.closing parts.2 <;> rfl

/-- the comment that is found stands between the first open marker and the first close marker behind it -/
theorem ofSource_eq_ok_iff_firstAt {markers : Markers} (hm : markers.FitLines) {source : Text} {c : Comment} :
    ofSource markers source = .ok c ↔
      ∃ before trailer, FirstAt markers.opening source before (c.body ++ markers.closing ++ trailer) ∧
        FirstAt markers.closing (c.body ++ markers.closing ++ trailer) c.body trailer ∧
        c.firstLine = 1 + before.count '\n' := by
  rw [ofSource_eq_cut hm, cut]
  constructor
  · intro h
    split at h
    · cases h
    · rename_i before rest hopen
      split at h
      · cases h
      · rename_i body trailer hclose
        obtain rfl := Except.ok.inj h
        obtain rfl := Text.splitAt?_append hclose
        exact ⟨before, trailer, Text.splitAt?_eq_some_iff.1 hopen, Text.splitAt?_eq_some_iff.1 hclose, rfl⟩
  · rintro ⟨before, trailer, hopen, hclose, hline⟩
    rw [Text.splitAt?_eq_some_iff.2 hopen]
    simp only [Text.splitAt?_eq_some_iff.2 hclose, ← hline]

end Comment
end RunnableDocs
