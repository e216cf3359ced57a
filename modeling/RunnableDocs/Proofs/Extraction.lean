/-
Which programs a list of paragraphs holds.

`Program.at?` tells the program at one place from the paragraphs beside it alone: the one before has to declare a file
name, the two behind may say what is printed. `extraction_is_local` states that extraction gives just these programs,
in order, although it passes over a marker and the output behind it without a look at them. Nothing is lost by that:
- a paragraph that starts with a tab declares nothing (`ofText?_of_startsWithTab`), so a marker that is itself
  indented is no program;
- a marker declares nothing (`ofText?_of_isOutputMarker`), so the output behind it is no program.
For the same reasons no two programs have a paragraph in common.
-/
import RunnableDocs.Program
import RunnableDocs.Proofs.Declaration

namespace RunnableDocs

open Paragraph (startsWithTab)
open Text (isSpace trim)

/-! ## What declares nothing -/

namespace Text

/-- a text without white space at its start loses none there -/
theorem trim_prefix {c : Char} {rest : Text} (hc : isSpace c = false) : trim (c :: rest) <+: c :: rest := by
  have hs : (c :: rest).dropWhile isSpace = c :: rest := by simp [hc]
  rw [trim, hs, ← List.reverse_suffix, List.reverse_reverse]
  exact List.dropWhile_suffix isSpace

theorem eq_of_toLower_eq_colon {c : Char} (h : c.toLower = ':') : c = ':' := by
  unfold Char.toLower at h
  split_ifs at h with hu
  · -- a small letter is no colon
    have hv := congrArg (fun x : Char => x.val.toNat) h
    simp [UInt32.le_iff_toNat_le] at hv hu
    omega
  · exact h

end Text

namespace Declaration

theorem ofText?_of_startsWithTab (extensions : List Text) {text : Text} (h : startsWithTab text = true) :
    ofText? extensions text = none := by
  rw [Option.eq_none_iff_forall_ne_some]
  intro d hd
  obtain ⟨c, rest, rfl, hc⟩ := exists_head_isWord hd
  unfold startsWithTab at h
  split at h
  · rename_i heq
    obtain ⟨rfl, -⟩ := List.cons.inj heq
    exact absurd hc (by decide)
  · cases h

theorem ofText?_of_isOutputMarker (extensions : List Text) {p : Paragraph} (h : p.isOutputMarker = true) :
    ofText? extensions p.text = none := by
  rw [Option.eq_none_iff_forall_ne_some]
  intro d hd
  have hm : (trim p.text).map Char.toLower = "output:".toList := of_decide_eq_true h
  obtain ⟨word, rest, hne, hw, ht, -, -⟩ := ofText?_eq_some_iff.1 hd
  -- what is left of the text without the white space around it, and what stands up to the full stop, are both
  -- beginnings of the text
  have hcore : trim p.text <+: p.text := by
    obtain ⟨c, more, hc, hword⟩ := exists_head_isWord hd
    rw [hc]
    refine Text.trim_prefix ?_
    by_contra hs
    rw [Text.isWord_of_isSpace (by simpa using hs)] at hword
    cases hword
  have hstop : word ++ ['.'] <+: p.text := ⟨rest, by rw [ht]; simp⟩
  rcases List.prefix_or_prefix_of_prefix hstop hcore with hp | hp
  · -- then the marker would have a full stop
    have hmem : '.'.toLower ∈ (trim p.text).map Char.toLower := List.mem_map_of_mem (hp.subset (by simp))
    rw [hm] at hmem
    exact absurd hmem (by decide)
  · -- then its colon would be part of a word, or a full stop
    have hcolon : ':' ∈ (trim p.text).map Char.toLower := by rw [hm]; decide
    obtain ⟨c, hc, hl⟩ := List.mem_map.1 hcolon
    obtain rfl := Text.eq_of_toLower_eq_colon hl
    rcases List.mem_append.1 (hp.subset hc) with hcw | hcs
    · exact absurd (hw _ hcw) (by decide)
    · exact absurd hcs (by decide)

end Declaration

/-! ## Programs by place -/

namespace Program

/-- what the paragraphs behind place `i` say is printed -/
def outputAt? (ps : List Paragraph) (i : ℕ) : Option Text :=
  match ps[i + 1]?, ps[i + 2]? with
  | some marker, some output =>
    if marker.isOutputMarker ∧ startsWithTab output.text then some (untab output.text) else none
  | _, _ => none

/-- the program at place `i`: a paragraph that starts with a tab, behind one that declares a file name -/
def at? (extensions : List Text) (ps : List Paragraph) : ℕ → Option Program
  | 0 => none
  | i + 1 =>
    match ps[i]?, ps[i + 1]? with
    | some before, some code =>
      if startsWithTab code.text then
        (Declaration.ofText? extensions before.text).map fun d =>
          ⟨code.lineStart, code.lineEnd, d.filename, d.extension, untab code.text, outputAt? ps (i + 1)⟩
      else none
    | _, _ => none

/-- the places that belong to the program at place `i`: its declaration, its code, and its output if it has one -/
def placesOf (ps : List Paragraph) (i : ℕ) : List ℕ :=
  if (outputAt? ps i).isSome then [i - 1, i, i + 2] else [i - 1, i]

/-- the programs at the places behind `previous`, each told by itself -/
def atPlaces (extensions : List Text) (previous : Paragraph) (ps : List Paragraph) : List Program :=
  (List.range ps.length).filterMap fun i => at? extensions (previous :: ps) (i + 1)

variable {extensions : List Text}

theorem outputAt?_one (p code marker output : Paragraph) (rest : List Paragraph) :
    outputAt? (p :: code :: marker :: output :: rest) 1 =
      if marker.isOutputMarker ∧ startsWithTab output.text then some (untab output.text) else none := rfl

theorem atPlaces_cons (previous p : Paragraph) (ps : List Paragraph) :
    atPlaces extensions previous (p :: ps) =
      (at? extensions (previous :: p :: ps) 1).toList ++ atPlaces extensions p ps := by
  simp only [atPlaces, List.length_cons, List.range_succ_eq_map, List.filterMap_cons, List.filterMap_map]
  cases at? extensions (previous :: p :: ps) 1 <;> rfl

theorem at?_one_of_not_tab {previous p : Paragraph} {ps : List Paragraph} (h : startsWithTab p.text = false) :
    at? extensions (previous :: p :: ps) 1 = none := by
  simp [at?, h]

theorem at?_one_of_undeclared {previous p : Paragraph} {ps : List Paragraph}
    (h : Declaration.ofText? extensions previous.text = none) : at? extensions (previous :: p :: ps) 1 = none := by
  simp [at?, h]

theorem at?_one_of_declared {previous p : Paragraph} {ps : List Paragraph} {d : Declaration}
    (hp : startsWithTab p.text = true) (hd : Declaration.ofText? extensions previous.text = some d) :
    at? extensions (previous :: p :: ps) 1 =
      some ⟨p.lineStart, p.lineEnd, d.filename, d.extension, untab p.text, outputAt? (previous :: p :: ps) 1⟩ := by
  simp [at?, hp, hd]

/-- passing over a marker and an output loses nothing -/
theorem atPlaces_of_consumed {code marker output : Paragraph} (hc : startsWithTab code.text = true)
    (hm : marker.isOutputMarker = true) (rest : List Paragraph) :
    atPlaces extensions code (marker :: output :: rest) = atPlaces extensions output rest := by
  rw [atPlaces_cons, atPlaces_cons, at?_one_of_undeclared (Declaration.ofText?_of_startsWithTab extensions hc),
    at?_one_of_undeclared (Declaration.ofText?_of_isOutputMarker extensions hm)]
  rfl

theorem filterMap_at?_cons (p : Paragraph) (ps : List Paragraph) :
    (List.range (p :: ps).length).filterMap (at? extensions (p :: ps)) = atPlaces extensions p ps := by
  rw [List.length_cons, List.range_succ_eq_map, List.filterMap_cons, List.filterMap_map]
  rfl

theorem ofParagraphs_cons (p : Paragraph) (ps : List Paragraph) :
    ofParagraphs extensions (p :: ps) =
      if startsWithTab p.text then .error (.codeWithoutDeclaration p.lineStart) else .ok (after extensions p ps) := rfl

theorem after_eq_atPlaces (previous : Paragraph) (ps : List Paragraph) :
    after extensions previous ps = atPlaces extensions previous ps := by
  fun_induction after extensions previous ps with
  | case1 previous => rfl
  | case2 previous p ps hp hd ih =>
    rw [atPlaces_cons, at?_one_of_undeclared hd, ih]
    rfl
  | case3 previous p hp d hd marker output rest hm ih =>
    have hmo : marker.isOutputMarker = true ∧ startsWithTab output.text = true := by
      simpa [Paragraph.opensCode] using hm
    rw [atPlaces_cons, at?_one_of_declared hp hd, outputAt?_one, if_pos hmo, atPlaces_of_consumed hp hmo.1, ih]
    rfl
  | case4 previous p hp d hd marker output rest hm ih =>
    have hmo : ¬(marker.isOutputMarker = true ∧ startsWithTab output.text = true) := by
      simpa [Paragraph.opensCode] using hm
    rw [atPlaces_cons, at?_one_of_declared hp hd, outputAt?_one, if_neg hmo, ih]
    rfl
  | case5 previous p hp d hd ps hps ih =>
    have ho : outputAt? (previous :: p :: ps) 1 = none := by
      rcases ps with _ | ⟨x, _ | ⟨y, ps⟩⟩
      · rfl
      · rfl
      · exact absurd rfl (hps x y ps)
    rw [atPlaces_cons, at?_one_of_declared hp hd, ho, ih]
    rfl
  | case6 previous p ps hp ih =>
    rw [atPlaces_cons, at?_one_of_not_tab (by simpa [Paragraph.opensCode] using hp), ih]
    rfl

/-! ## Extraction, paragraph by paragraph -/

theorem after_plain {p : Paragraph} (hp : startsWithTab p.text = false) (previous : Paragraph) (ps : List Paragraph) :
    after extensions previous (p :: ps) = after extensions p ps := by
  rw [after, if_neg (by simp [Paragraph.opensCode, hp])]

theorem after_undeclared {previous : Paragraph} (hd : Declaration.ofText? extensions previous.text = none)
    (p : Paragraph) (ps : List Paragraph) : after extensions previous (p :: ps) = after extensions p ps := by
  rw [after, hd]
  split_ifs <;> rfl

/-- a program has no output if no marker and code follow it -/
theorem after_alone {previous code : Paragraph} {d : Declaration} {ps : List Paragraph}
    (hc : startsWithTab code.text = true) (hd : Declaration.ofText? extensions previous.text = some d)
    (hps : ∀ marker output rest, ps = marker :: output :: rest →
      ¬(marker.isOutputMarker = true ∧ startsWithTab output.text = true)) :
    after extensions previous (code :: ps) = ofParagraph d code none :: after extensions code ps := by
  rw [after, if_pos (by simpa [Paragraph.opensCode] using hc), hd]
  rcases ps with _ | ⟨marker, _ | ⟨output, rest⟩⟩
  · rfl
  · rfl
  · have := hps marker output rest rfl
    simp only [Paragraph.opensCode, Bool.and_eq_true, if_neg this]

theorem after_with_output {previous code marker output : Paragraph} {d : Declaration}
    (hc : startsWithTab code.text = true) (hd : Declaration.ofText? extensions previous.text = some d)
    (hm : marker.isOutputMarker = true) (ho : startsWithTab output.text = true) (rest : List Paragraph) :
    after extensions previous (code :: marker :: output :: rest) =
      ofParagraph d code (some output) :: after extensions output rest := by
  rw [after, if_pos (by simpa [Paragraph.opensCode] using hc), hd]
  simp [Paragraph.opensCode, hm, ho]

/-! ## Programs are blocks without their indentation -/

/-- the lines and the code of a program -/
def standing (p : Program) : ℕ × ℕ × Text := (p.lineStart, p.lineEnd, p.code)

/-- the lines of a paragraph, and the code it would make -/
def standingOf (p : Paragraph) : ℕ × ℕ × Text := (p.lineStart, p.lineEnd, untab p.text)

theorem after_sublist (extensions : List Text) (previous : Paragraph) (ps : List Paragraph) :
    List.Sublist ((after extensions previous ps).map standing) (ps.map standingOf) := by
  fun_induction after extensions previous ps with
  | case1 => exact List.Sublist.slnil
  | case2 previous p ps hp hd ih => exact ih.cons _
  | case3 previous p hp d hd marker output rest hm ih => exact ((ih.cons _).cons _).cons_cons _
  | case4 previous p hp d hd marker output rest hm ih => exact ih.cons_cons _
  | case5 previous p hp d hd ps hps ih => exact ih.cons_cons _
  | case6 previous p ps hp ih => exact ih.cons _

theorem ofParagraphs_sublist {extensions : List Text} {ps : List Paragraph} {programs : List Program}
    (h : ofParagraphs extensions ps = .ok programs) :
    List.Sublist (programs.map standing) (ps.tail.map standingOf) := by
  cases ps with
  | nil =>
    obtain rfl := Except.ok.inj h
    exact List.Sublist.slnil
  | cons p ps =>
    rw [ofParagraphs] at h
    split_ifs at h
    obtain rfl := Except.ok.inj h
    exact after_sublist extensions p ps

/-! ## What a program at a place says of the places beside it -/

theorem at?_eq_some {ps : List Paragraph} {i : ℕ} (h : (at? extensions ps i).isSome) :
    ∃ before code, 1 ≤ i ∧ ps[i - 1]? = some before ∧ ps[i]? = some code ∧ startsWithTab code.text = true ∧
      (Declaration.ofText? extensions before.text).isSome := by
  cases i with
  | zero => cases h
  | succ i =>
    simp only [at?] at h
    split at h
    · rename_i before code hb hc
      split_ifs at h with ht
      · exact ⟨before, code, by omega, hb, hc, ht, by simpa using h⟩
      · cases h
    · cases h

theorem outputAt?_isSome {ps : List Paragraph} {i : ℕ} (h : (outputAt? ps i).isSome) :
    ∃ marker output, ps[i + 1]? = some marker ∧ ps[i + 2]? = some output ∧ marker.isOutputMarker = true ∧
      startsWithTab output.text = true := by
  simp only [outputAt?] at h
  split at h
  · rename_i marker output hm ho
    split_ifs at h with hmo
    · exact ⟨marker, output, hm, ho, hmo⟩
    · cases h
  · cases h

/-- a paragraph that starts with a tab is no declaration of a program -/
theorem at?_succ_of_tab {ps : List Paragraph} {i : ℕ} {p : Paragraph} (hp : ps[i]? = some p)
    (ht : startsWithTab p.text = true) : at? extensions ps (i + 1) = none := by
  rw [← Option.not_isSome_iff_eq_none]
  intro h
  obtain ⟨before, code, -, hb, -, -, hd⟩ := at?_eq_some h
  obtain rfl : p = before := Option.some.inj (hp.symm.trans hb)
  rw [Declaration.ofText?_of_startsWithTab extensions ht] at hd
  cases hd

/-- an output is no program -/
theorem at?_of_output {ps : List Paragraph} {i : ℕ} (h : (outputAt? ps i).isSome) :
    at? extensions ps (i + 2) = none := by
  rw [← Option.not_isSome_iff_eq_none]
  intro ha
  obtain ⟨marker, output, hm, -, hmark, -⟩ := outputAt?_isSome h
  obtain ⟨before, code, -, hb, -, -, hd⟩ := at?_eq_some ha
  obtain rfl : marker = before := Option.some.inj (hm.symm.trans hb)
  rw [Declaration.ofText?_of_isOutputMarker extensions hmark] at hd
  cases hd

theorem disjoint_placesOf {ps : List Paragraph} {i j : ℕ} (hij : i < j) (hi : (at? extensions ps i).isSome)
    (hj : (at? extensions ps j).isSome) : List.Disjoint (placesOf ps i) (placesOf ps j) := by
  obtain ⟨_, code, hi1, -, hcode, hct, -⟩ := at?_eq_some hi
  -- the next program's declaration is not this one's code or output, nor is its code this one's output
  have h1 : j ≠ i + 1 := by
    rintro rfl
    rw [at?_succ_of_tab hcode hct] at hj
    cases hj
  have h2 : (outputAt? ps i).isSome → j ≠ i + 2 ∧ j ≠ i + 3 := by
    intro ho
    obtain ⟨_, output, -, hout, -, hot⟩ := outputAt?_isSome ho
    refine ⟨?_, ?_⟩ <;> rintro rfl
    · rw [at?_of_output ho] at hj
      cases hj
    · rw [at?_succ_of_tab hout hot] at hj
      cases hj
  intro k hk hk'
  unfold placesOf at hk hk'
  split_ifs at hk hk' <;> simp only [List.mem_cons, List.not_mem_nil, or_false] at hk hk' <;> grind

/-- the programs of a source are those of the blocks of its comment -/
theorem ofSource_eq_ok_iff {markers : Markers} {extensions : List Text} {source : Text} {programs : List Program} :
    ofSource markers extensions source = .ok programs ↔
      ∃ c, Comment.ofSource markers source = .ok c ∧
        ofParagraphs extensions (Paragraph.blocks c.body c.firstLine) = .ok programs := by
  unfold ofSource
  cases Comment.ofSource markers source with
  | error e => simp [bind, Except.bind]
  | ok c => simp [bind, Except.bind]

/-- **Extraction is local.** Extraction fails exactly if the first paragraph starts with a tab, with the number of its
first line. Otherwise it gives the program of each place, in order, as the paragraphs beside that place tell it. What
is taken for an output is never a program too, and no two programs share a declaration, a code or an output. -/
theorem extraction_is_local (extensions : List Text) (ps : List Paragraph) :
    (∀ e, ofParagraphs extensions ps = .error e ↔
      ∃ p, ps[0]? = some p ∧ startsWithTab p.text = true ∧ e = .codeWithoutDeclaration p.lineStart) ∧
    (∀ programs, ofParagraphs extensions ps = .ok programs ↔
      (∀ p, ps[0]? = some p → startsWithTab p.text = false) ∧
        programs = (List.range ps.length).filterMap (at? extensions ps)) ∧
    (∀ i, (outputAt? ps i).isSome → at? extensions ps (i + 2) = none) ∧
    (∀ i j, i < j → (at? extensions ps i).isSome → (at? extensions ps j).isSome →
      List.Disjoint (placesOf ps i) (placesOf ps j)) := by
  refine ⟨fun e => ?_, fun programs => ?_, fun i => at?_of_output, fun i j => disjoint_placesOf⟩
  · cases ps with
    | nil => simp [ofParagraphs]
    | cons p ps =>
      rw [ofParagraphs_cons]
      constructor
      · intro h
        split_ifs at h with hp
        exact ⟨p, rfl, hp, (Except.error.inj h).symm⟩
      · rintro ⟨q, hq, ht, rfl⟩
        obtain rfl := Option.some.inj hq
        rw [if_pos ht]
  · cases ps with
    | nil =>
      constructor
      · intro h
        exact ⟨by simp, (Except.ok.inj h).symm⟩
      · rintro ⟨-, rfl⟩
        rfl
    | cons p ps =>
      rw [ofParagraphs_cons, after_eq_atPlaces, ← filterMap_at?_cons]
      constructor
      · intro h
        split_ifs at h with hp
        refine ⟨fun q hq => ?_, (Except.ok.inj h).symm⟩
        obtain rfl := Option.some.inj hq
        simpa using hp
      · rintro ⟨hp, rfl⟩
        simp [hp p rfl]

end Program
end RunnableDocs
