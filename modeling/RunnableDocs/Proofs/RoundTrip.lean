/-
Documentation that is written down is read back.

`written_page_is_read`: take a source with a comment, and in the comment a page, written in any layout. Then the
programs of the source are exactly the listings of the page, in order, each on the lines that its code was written on.
The blocks of the comment are the paragraphs of the page (`Layout.laid_items`), and extraction takes the listings from
these and nothing else (`Layout.ofParagraphs_items`):
- a declaration is found with its whole extension, though a shorter one may start it (`Layout.ofText?_declaration`);
- a block without its indentation is the code that was written (`Layout.untab_code`);
- running text that reads like a marker or a declaration does no harm, as code never follows it
  (`Layout.not_output_items`).
-/
import RunnableDocs.Proofs.Page

namespace RunnableDocs

open Comment (Encloses)
open Paragraph (IsProse ofRun restored startsWithTab)
open Program (reading)
open Text (AreLines Complete chomp isWord lines splitOn)

namespace Page

namespace Layout
variable {extensions : Extensions} {top : ℕ} (layout : Layout top)

/-! ## The paragraphs of a listing -/

theorem untab_code (n : ℕ) (t : Passage) : untab (layout.paragraph n (.code t)).text = t.text := by
  have hwritten := layout.isFull_piece (layout.start n) (.code t)
  have hcomplete : Complete (layout.paragraph n (.code t)).text := Or.inr (Paragraph.ofRun_getLast? hwritten)
  have hfull := List.forall_mem_cons.1 t.full
  have hread : (('\t' :: t.first) :: layout.indented (layout.start n + 1) t.more).map reading =
      (lines t.text).map chomp := by
    rw [t.lines_text, List.map_cons, List.map_cons, reading_tab hfull.1, map_reading_indented hfull.2]
  apply Text.splitOn_injective '\n'
  calc splitOn '\n' (untab (layout.paragraph n (.code t)).text)
    _ = (('\t' :: t.first) :: layout.indented (layout.start n + 1) t.more).map reading ++ [[]] :=
      (Program.splitOn_untab_ofRun (AreLines.of_full hwritten)).trans (congrArg _ (if_pos hcomplete))
    _ = (lines t.text).map chomp ++ [[]] := by rw [hread]
    _ = splitOn '\n' t.text := by rw [Text.splitOn_lines, if_pos t.complete]

theorem text_declaration (n : ℕ) (x : Listing extensions) :
    (layout.paragraph n (.prose x.declaration)).text = x.name ++ '.' :: (x.extension ++ ['\n']) := by
  have hsolid := x.isProse_filename.solid _ List.mem_cons_self
  calc (layout.paragraph n (.prose x.declaration)).text
    _ = restored (x.filename ++ ['\n']) := List.append_nil _
    _ = x.filename ++ ['\n'] := Paragraph.restored_of_not_blank hsolid
    _ = x.name ++ '.' :: (x.extension ++ ['\n']) := by simp [Listing.filename]

theorem ofText?_declaration (n : ℕ) (x : Listing extensions) :
    Declaration.ofText? extensions.all (layout.paragraph n (.prose x.declaration)).text =
      some ⟨x.filename, x.extension⟩ := by
  refine Declaration.ofText?_eq_some_iff.2
    ⟨x.name, x.extension ++ ['\n'], x.name_ne_nil, x.name_word, layout.text_declaration n x, ?_, rfl⟩
  refine longestAt?_eq_some_iff.2 ⟨x.extension_mem, List.prefix_append _ _, fun e he hp => ?_⟩
  by_contra hlt
  change ¬ e.length ≤ x.extension.length at hlt
  -- a longer one would hold the line feed
  have hlen : (x.extension ++ ['\n']).length ≤ e.length := by
    rw [List.length_append, List.length_singleton]
    omega
  have hvalid := extensions.valid e he
  rw [hp.eq_of_length_le hlen] at hvalid
  simp [Config.isExtension] at hvalid

theorem isOutputMarker_outputMarker (n : ℕ) : (layout.paragraph n (.prose outputMarker)).isOutputMarker = true := by
  have htext : (layout.paragraph n (.prose outputMarker)).text = "Output:\n".toList := rfl
  rw [Paragraph.isOutputMarker, htext]
  decide

/-- a listing comes back from the block that its code is written as -/
theorem ofParagraph_code (n : ℕ) (x : Listing extensions) (output : Option Paragraph)
    (ho : output.map (fun p => untab p.text) = x.output.map Passage.text) :
    Program.ofParagraph ⟨x.filename, x.extension⟩
      (layout.paragraph (layout.next n (.prose x.declaration)) (.code x.code)) output = layout.program n x := by
  have hend : (layout.paragraph (layout.next n (.prose x.declaration)) (.code x.code)).lineEnd =
      layout.start (layout.next n (.prose x.declaration)) + (lines x.code.text).length - 1 := by
    rw [x.code.lines_text, List.length_cons]
    simp only [paragraph, ofRun, more, length_indented]
    rfl
  rw [Program.ofParagraph, untab_code, ho, hend]
  rfl

/-! ## A page is extracted as its listings -/

/-- what follows a program without output is not taken for its output -/
theorem not_output_items (items : List (Item extensions)) (n : ℕ) (marker output : Paragraph) (rest : List Paragraph)
    (h : layout.paragraphs n (items.flatMap Item.pieces) = marker :: output :: rest) :
    ¬(marker.isOutputMarker = true ∧ startsWithTab output.text = true) := by
  rintro ⟨hm, ho⟩
  cases items with
  | nil => cases h
  | cons item items =>
    cases item with
    | prose p =>
      -- running text may read like a marker, but no code follows it
      have hrest : layout.paragraphs (layout.next n (.prose p)) (items.flatMap Item.pieces) = output :: rest :=
        (List.cons.inj h).2
      have hplain := @plain_items _ layout _ items (layout.next n (.prose p)) output (by rw [hrest]; rfl)
      rw [ho] at hplain
      cases hplain
    | listing x =>
      -- a declaration is no marker
      have hmarker : layout.paragraph n (.prose x.declaration) = marker := by
        rw [List.flatMap_cons, Item.pieces] at h
        split at h <;> exact (List.cons.inj h).1
      have hnone := Declaration.ofText?_of_isOutputMarker extensions.all hm
      rw [← hmarker, ofText?_declaration] at hnone
      cases hnone

theorem after_items (items : List (Item extensions)) (n : ℕ) (previous : Paragraph) :
    Program.after extensions.all previous (layout.paragraphs n (items.flatMap Item.pieces)) =
      layout.programs n items := by
  induction items generalizing n previous with
  | nil => rfl
  | cons item items ih =>
    rw [List.flatMap_cons]
    cases item with
    | prose p => exact (Program.after_plain (layout.startsWithTab_prose n p) previous _).trans (ih _ _)
    | listing x =>
      have hplain := layout.startsWithTab_prose n x.declaration
      have hd := layout.ofText?_declaration n x
      rw [programs]
      cases hx : x.output with
      | none =>
        simp only [Item.pieces, hx]
        refine (Program.after_plain hplain previous _).trans ?_
        refine (Program.after_alone rfl hd (layout.not_output_items items _)).trans ?_
        rw [ih, layout.ofParagraph_code n x none (by rw [hx]; rfl)]
        rfl
      | some t =>
        simp only [Item.pieces, hx]
        refine (Program.after_plain hplain previous _).trans ?_
        refine (Program.after_with_output rfl hd (layout.isOutputMarker_outputMarker _) rfl _).trans ?_
        rw [layout.ofParagraph_code n x _ (by rw [hx, Option.map_some, layout.untab_code]; rfl)]
        exact congrArg _ (ih _ _)

theorem ofParagraphs_items (items : List (Item extensions)) (n : ℕ) :
    Program.ofParagraphs extensions.all (layout.paragraphs n (items.flatMap Item.pieces)) =
      .ok (layout.programs n items) := by
  have hafter := layout.after_items items n
  have hplain := fun q => @plain_items _ layout _ items n q
  generalize layout.paragraphs n (items.flatMap Item.pieces) = ps at hafter hplain
  cases ps with
  | nil =>
    rw [← hafter ⟨0, 0, []⟩]
    rfl
  | cons q qs =>
    have hq := hplain q rfl
    rw [Program.ofParagraphs_cons, hq, if_neg Bool.false_ne_true, ← hafter q, Program.after_plain hq]

end Layout

/-! ## A page in a comment -/

/-- the number of the line behind the open marker, if that has a line for itself behind a header -/
def firstLine (header : Text) : ℕ := (lines header).length + 2

/-- a source with a comment of whole lines: the open marker has a line for itself, and the close marker follows the
body -/
def source (markers : Markers) (header body trailer : Text) : Text :=
  header ++ markers.opening ++ '\n' :: body ++ markers.closing ++ trailer

theorem encloses_source {markers : Markers} (hm : markers.WithinLine) {header body : Text} (hheader : Complete header)
    (hbody : Complete body) (hopen : ¬ markers.opening <:+: header) (hclose : ¬ markers.closing <:+: body)
    (trailer : Text) :
    Encloses markers (source markers header body trailer) ((lines header).length + 1) (['\n'] :: lines body) [] := by
  obtain ⟨after, rest, hlast⟩ := Text.exists_lines_append hm.closing_ne_nil hm.closing_line trailer
  have hlines : lines (source markers header body trailer) =
      lines header ++ (markers.opening ++ ['\n']) :: (lines body ++ (markers.closing ++ after) :: rest) := by
    have hsplit : source markers header body trailer =
        header ++ (markers.opening ++ '\n' :: (body ++ (markers.closing ++ trailer))) := by simp [source]
    rw [hsplit, Text.lines_append hheader, Text.lines_full_append hm.opening_line, Text.lines_append hbody, hlast]
  -- the close marker is not empty and holds no line feed, so it is not in the rest of the first line
  have hfeed : ¬ markers.closing <:+: ['\n'] := by
    intro hin
    obtain ⟨c, word, hc⟩ := List.exists_cons_of_ne_nil hm.closing_ne_nil
    have hmem : c ∈ markers.closing := by rw [hc]; exact List.mem_cons_self
    obtain rfl := List.mem_singleton.1 (hin.subset hmem)
    exact hm.closing_line hmem
  have hno : ∀ l ∈ ['\n'] :: lines body, ¬ markers.closing <:+: l :=
    List.forall_mem_cons.2 ⟨hfeed, fun l hl hin => hclose (hin.trans (Text.infix_of_mem_lines hl))⟩
  refine ⟨['\n'] :: (lines body ++ (markers.closing ++ after) :: rest), ?_, ?_⟩
  · exact ⟨lines header, _, _, [], ['\n'], hlines, Nat.add_comm _ _,
      fun l hl hin => hopen (hin.trans (Text.infix_of_mem_lines hl)), Text.firstAt_self _ _, rfl⟩
  · exact ⟨_, after, rest, rfl, hno, Text.firstAt_self _ _⟩

/-- **A page that is written is read back.** Behind complete header lines without the open marker comes that marker on a
line of its own, then the page in any layout, free of the close marker, then that marker and any trailer. Extraction
succeeds, and gives the listings of the page. -/
theorem written_page_is_read {markers : Markers} (hm : markers.WithinLine) {extensions : Extensions}
    {header : Text} (hheader : Complete header) (hopen : ¬ markers.opening <:+: header)
    (layout : Layout (firstLine header)) (items : List (Item extensions))
    (hclose : ¬ markers.closing <:+: layout.body items) (trailer : Text) :
    Program.ofSource markers extensions.all (source markers header (layout.body items) trailer) =
      .ok (layout.programs (firstLine header) items) := by
  have hfull := layout.isFull_write (firstLine header) (items.flatMap Item.pieces)
  have hwritten : AreLines (layout.write (firstLine header) (items.flatMap Item.pieces)) := .of_full hfull
  have hlines : lines (layout.body items) = layout.write (firstLine header) (items.flatMap Item.pieces) :=
    Text.lines_flatten hwritten
  have hbody : Complete (layout.body items) := Text.complete_flatten hfull
  have henc := encloses_source hm hheader hbody hopen hclose trailer
  have hcomment : Comment.ofSource markers (source markers header (layout.body items) trailer) =
      .ok ⟨'\n' :: layout.body items, (lines header).length + 1⟩ := by
    refine Comment.ofSource_eq_ok_iff.2 ⟨_, _, henc, ?_⟩
    rw [List.flatten_cons, Text.flatten_lines, List.append_nil]
    rfl
  have hblocks : Paragraph.blocks ('\n' :: layout.body items) ((lines header).length + 1) =
      layout.paragraphs (firstLine header) (items.flatMap Item.pieces) := by
    have hlaid := (layout.laid_items items le_rfl).merge_ofLines hwritten
    rw [Paragraph.blocks, Paragraph.split, lines, if_pos rfl, hlines, Paragraph.ofLines]
    exact hlaid
  refine Program.ofSource_eq_ok_iff.2 ⟨_, hcomment, ?_⟩
  rw [hblocks]
  exact layout.ofParagraphs_items items (firstLine header)

/-- extensions of which each starts the next -/
def nestedExtensions : Extensions := ⟨["p".toList, "py".toList, "pyx".toList], by decide⟩

/-- running text in one line that is not indented -/
def Prose.ofLine (b : Text) (hb : '\n' ∉ b) (hp : IsProse (b ++ ['\n']) []) : Prose :=
  ⟨b ++ ['\n'], [], List.forall_mem_singleton.2 ⟨b, hb, rfl⟩, hp⟩

/-- a layout with gaps of one and two lines, and with empty lines of every form -/
def mixedLayout (top : ℕ) : Layout top where
  gap n := if n = top then [] else if n % 2 = 0 then [['\r', '\n'], ['\n']] else [['\n']]
  empty n := if n % 3 = 0 then ['\t', '\n'] else if n % 3 = 1 then ['\n'] else ['\r', '\n']
  ending := [['\n']]
  gap_bare n := by split_ifs <;> simp [IsBare]
  gap_ne_nil n hn := by split_ifs <;> first | omega | simp
  empty_bare n := by split_ifs <;> simp [IsBare]
  ending_bare := by simp [IsBare]

theorem isWord_ab : isWord 'a' = true ∧ isWord 'b' = true := by decide

/-- a page with code and output that hold empty lines, and with running text that reads like a marker and like a
declaration -/
def mixedPage : List (Item nestedExtensions) :=
  [.prose (.ofLine "Output:".toList (by decide) ⟨by decide, by decide⟩),
    .listing ⟨['a'], ['p', 'y'], ⟨['\n', '\t', 'x', '\n', '\n', '\n', '\n', 'y', '\n', '\n'], rfl⟩,
      some ⟨['1', '\n', '\n', '2', '\n'], rfl⟩, by decide, List.forall_mem_singleton.2 isWord_ab.1, by decide⟩,
    .prose (.ofLine "b.pyx".toList (by decide) ⟨by decide, by decide⟩),
    .listing ⟨['b'], ['p'], ⟨['z', '\n'], rfl⟩, none, by decide, List.forall_mem_singleton.2 isWord_ab.2, by decide⟩,
    .prose (.ofLine "Output:".toList (by decide) ⟨by decide, by decide⟩)]

/-- the mixed page in the mixed layout, in a comment of a source -/
def mixedSource : Text :=
  ("/ *\n/*\nOutput:\n\r\n\na.py\n\n\t\n\t\tx\n\n\r\n\t\n\ty\n\t\n\nOutput:\n\n\t1\n\n\t2\n\nb.pyx\n\n" ++
    "b.p\n\n\tz\n\nOutput:\n\n*/x */").toList

theorem written_page_is_read_mixed :
    let header := "/ *\n".toList
    let layout := mixedLayout (firstLine header)
    Markers.WithinLine {} ∧ Complete header ∧ ¬ "/*".toList <:+: header ∧ ¬ "*/".toList <:+: layout.body mixedPage ∧
      source {} header (layout.body mixedPage) "x */".toList = mixedSource ∧
      Program.ofSource {} nestedExtensions.all mixedSource =
        .ok [⟨8, 14, "a.py".toList, "py".toList, "\n\tx\n\n\n\ny\n\n".toList, some "1\n\n2\n".toList⟩,
          ⟨26, 26, "b.p".toList, "p".toList, "z\n".toList, none⟩] := by
  intro header layout
  have hm : Markers.WithinLine {} := by constructor <;> decide
  have hheader : Complete header := by decide
  have hopen : ¬ "/*".toList <:+: header := by decide
  have hclose : ¬ "*/".toList <:+: layout.body mixedPage := by decide +kernel
  have hsource : source {} header (layout.body mixedPage) "x */".toList = mixedSource := by decide +kernel
  refine ⟨hm, hheader, hopen, hclose, hsource, ?_⟩
  rw [← hsource, written_page_is_read hm hheader hopen layout mixedPage hclose "x */".toList]
  decide +kernel

end Page
end RunnableDocs
