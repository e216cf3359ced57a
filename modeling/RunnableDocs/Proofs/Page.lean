/-
Pages of documentation, and the ways to write them.

A page is running text and listings: programs with their names, their code and perhaps their output. A `Layout` is one
way to write pages: which blank lines stand before each paragraph, and how each empty line inside code is written, which
may be a tab alone or a blank line. Both are told by line numbers, and as a page has each line once, every way to choose
them is a layout.

- `Layout.map_reading_indented`: however its lines are written, code reads as it was;
- `Layout.laid_items`: a page is laid out as the paragraphs of its pieces.
-/
import RunnableDocs.Config
import RunnableDocs.Proofs.Layout
import RunnableDocs.Proofs.SourceLines

namespace RunnableDocs

open Paragraph (IsCode IsProse Laid StartsBlank isBlank ofRun startsWithTab)
open Program (reading)
open Text (Complete IsFull chomp isWord lines)

namespace Page

/-- extensions of letters and digits -/
structure Extensions where
  all : List Text
  valid : ∀ e ∈ all, Config.isExtension e = true

/-- a paragraph of running text -/
structure Prose where
  first : Text
  more : List Text
  full : ∀ l ∈ first :: more, IsFull l
  isProse : IsProse first more

/-- code or output: it is not empty, and its last line is ended -/
structure Passage where
  text : Text
  ended : text.getLast? = some '\n'

/-- a program in one of the known languages, as its author has it -/
structure Listing (extensions : Extensions) where
  name : Text
  extension : Text
  code : Passage
  output : Option Passage
  name_ne_nil : name ≠ []
  name_word : ∀ c ∈ name, isWord c = true
  extension_mem : extension ∈ extensions.all

inductive Item (extensions : Extensions) where
  | prose (p : Prose)
  | listing (x : Listing extensions)

/-- what is written between blank lines -/
inductive Piece where
  | prose (p : Prose)
  | code (t : Passage)

/-- a line with nothing on it -/
def IsBare (l : Text) : Prop := l = ['\n'] ∨ l = ['\r', '\n']

theorem IsBare.blank {l : Text} (h : IsBare l) : isBlank l = true := by
  rcases h with rfl | rfl <;> rfl

theorem IsBare.isFull {l : Text} (h : IsBare l) : IsFull l := by
  rcases h with rfl | rfl
  · exact ⟨[], by decide, rfl⟩
  · exact ⟨['\r'], by decide, rfl⟩

/-- a way to write pages that start on line `top` -/
structure Layout (top : ℕ) where
  /-- the blank lines that are put on line `n` and behind it, before a paragraph -/
  gap : ℕ → List Text
  /-- what is put on line `n` for an empty line inside code -/
  empty : ℕ → Text
  /-- the blank lines behind the last paragraph -/
  ending : List Text
  gap_bare : ∀ n, ∀ l ∈ gap n, IsBare l
  /-- only the first paragraph may stand without a blank line before it -/
  gap_ne_nil : ∀ n, top < n → gap n ≠ []
  empty_bare : ∀ n, empty n = ['\t', '\n'] ∨ IsBare (empty n)
  ending_bare : ∀ l ∈ ending, IsBare l

/-! ## Pieces -/

namespace Passage

theorem lines_ne_nil (t : Passage) : lines t.text ≠ [] := by
  refine Text.lines_ne_nil fun hnil => ?_
  have := t.ended
  rw [hnil] at this
  cases this

def first (t : Passage) : Text := (lines t.text).head t.lines_ne_nil

def more (t : Passage) : List Text := (lines t.text).tail

theorem lines_text (t : Passage) : lines t.text = t.first :: t.more := (List.cons_head_tail t.lines_ne_nil).symm

theorem complete (t : Passage) : Complete t.text := Or.inr t.ended

theorem full (t : Passage) : ∀ l ∈ t.first :: t.more, IsFull l := by
  rw [← t.lines_text]
  exact t.complete.isFull

end Passage

namespace Listing
variable {extensions : Extensions}

def filename (x : Listing extensions) : Text := x.name ++ '.' :: x.extension

theorem alphanum (x : Listing extensions) : ∀ c ∈ x.extension, c.isAlphanum = true := by
  have h := extensions.valid x.extension x.extension_mem
  simp only [Config.isExtension, Bool.and_eq_true, List.all_eq_true] at h
  exact h.2

theorem isFull_filename (x : Listing extensions) : IsFull (x.filename ++ ['\n']) := by
  refine ⟨x.filename, fun hm => ?_, rfl⟩
  rcases List.mem_append.1 hm with hname | hrest
  · exact absurd (x.name_word _ hname) (by decide)
  · rcases List.mem_cons.1 hrest with hdot | hext
    · exact absurd hdot (by decide)
    · exact absurd (x.alphanum _ hext) (by decide)

theorem isProse_filename (x : Listing extensions) : IsProse (x.filename ++ ['\n']) [] := by
  obtain ⟨c, name, hname⟩ := List.exists_cons_of_ne_nil x.name_ne_nil
  have hword : isWord c = true := x.name_word c (by rw [hname]; exact List.mem_cons_self)
  have hc : c ≠ '\n' ∧ c ≠ '\r' ∧ c ≠ '\t' := by
    refine ⟨?_, ?_, ?_⟩ <;> rintro rfl <;> exact absurd hword (by decide)
  constructor
  · simp [filename, hname, isBlank, hc.1, hc.2.1]
  · simp [filename, hname, startsWithTab, hc.2.2]

/-- the paragraph that names the program -/
def declaration (x : Listing extensions) : Prose where
  first := x.filename ++ ['\n']
  more := []
  full := List.forall_mem_singleton.2 x.isFull_filename
  isProse := x.isProse_filename

end Listing

/-- the paragraph that tells that an output follows -/
def outputMarker : Prose where
  first := "Output:\n".toList
  more := []
  full := List.forall_mem_singleton.2 ⟨"Output:".toList, by decide, rfl⟩
  isProse := ⟨by decide, by decide⟩

def Item.pieces {extensions : Extensions} : Item extensions → List Piece
  | prose p => [.prose p]
  | listing x =>
    match x.output with
    | none => [.prose x.declaration, .code x.code]
    | some t => [.prose x.declaration, .code x.code, .prose outputMarker, .code t]

/-- how many lines a piece takes -/
def Piece.height : Piece → ℕ
  | prose p => p.more.length + 1
  | code t => t.more.length + 1

/-- the first line of a piece, as it is written -/
def Piece.first : Piece → Text
  | prose p => p.first
  | code t => '\t' :: t.first

/-! ## Writing -/

namespace Layout
variable {top : ℕ} (layout : Layout top)

/-- the line that a piece starts on if what is before it ends before line `n` -/
def start (n : ℕ) : ℕ := n + (layout.gap n).length

/-- the line behind a piece, if what is before it ends before line `n` -/
def next (n : ℕ) (p : Piece) : ℕ := layout.start n + p.height

/-- the lines of code behind the first, from line `n` on: each stands behind a tab, but an empty one that others follow
may be written in another way -/
def indented : ℕ → List Text → List Text
  | _, [] => []
  | _, [line] => ['\t' :: line]
  | n, line :: next :: more =>
    (if line = ['\n'] then layout.empty n else '\t' :: line) :: indented (n + 1) (next :: more)

/-- the other lines of a piece that starts on line `n` -/
def more (n : ℕ) : Piece → List Text
  | .prose p => p.more
  | .code t => layout.indented (n + 1) t.more

/-- pieces written from line `n` on, and the end of the page -/
def write (n : ℕ) : List Piece → List Text
  | [] => layout.ending
  | p :: ps =>
    layout.gap n ++ p.first :: layout.more (layout.start n) p ++ write (layout.next n p) ps

/-- the text of a page -/
def body {extensions : Extensions} (items : List (Item extensions)) : Text :=
  (layout.write top (items.flatMap Item.pieces)).flatten

/-- the line behind pieces that are written from line `n` on -/
def behind (n : ℕ) (pieces : List Piece) : ℕ := pieces.foldl layout.next n

/-- a listing written from line `n` on, as the program that it is: its lines are those of its code, which comes behind
its declaration -/
def program {extensions : Extensions} (n : ℕ) (x : Listing extensions) : Program where
  lineStart := layout.start (layout.next n (.prose x.declaration))
  lineEnd := layout.start (layout.next n (.prose x.declaration)) + (lines x.code.text).length - 1
  filename := x.filename
  language := x.extension
  code := x.code.text
  output := x.output.map Passage.text

/-- the programs of a page written from line `n` on -/
def programs {extensions : Extensions} (n : ℕ) : List (Item extensions) → List Program
  | [] => []
  | .prose p :: items => programs (layout.behind n [.prose p]) items
  | .listing x :: items => layout.program n x :: programs (layout.behind n (Item.listing x).pieces) items

/-! ## What is written -/

/-- the paragraph of a piece, if what is before it ends before line `n` -/
def paragraph (n : ℕ) (p : Piece) : Paragraph := ofRun (layout.start n) p.first (layout.more (layout.start n) p)

/-- the paragraphs of pieces written from line `n` on -/
def paragraphs (n : ℕ) : List Piece → List Paragraph
  | [] => []
  | p :: ps => layout.paragraph n p :: paragraphs (layout.next n p) ps

variable {layout}

theorem length_indented (layout : Layout top) (n : ℕ) (ls : List Text) : (layout.indented n ls).length = ls.length := by
  fun_induction layout.indented n ls with
  | case1 => rfl
  | case2 => rfl
  | case3 n line next more ih =>
    rw [List.length_cons, ih]
    rfl

theorem isFull_tab {l : Text} (h : IsFull l) : IsFull ('\t' :: l) := by
  obtain ⟨b, hb, rfl⟩ := h
  exact ⟨'\t' :: b, by simp [hb], rfl⟩

theorem isFull_empty (layout : Layout top) (n : ℕ) : IsFull (layout.empty n) := by
  rcases layout.empty_bare n with h | h
  · rw [h]
    exact ⟨['\t'], by decide, rfl⟩
  · exact h.isFull

theorem isFull_indented {n : ℕ} {ls : List Text} (h : ∀ l ∈ ls, IsFull l) : ∀ l ∈ layout.indented n ls, IsFull l := by
  fun_induction layout.indented n ls with
  | case1 => simp
  | case2 n line => exact List.forall_mem_singleton.2 (isFull_tab (h line List.mem_cons_self))
  | case3 n line next more ih =>
    refine List.forall_mem_cons.2 ⟨?_, ih fun l hl => h l (List.mem_cons_of_mem line hl)⟩
    split_ifs
    · exact layout.isFull_empty n
    · exact isFull_tab (h line List.mem_cons_self)

theorem indented_or_blank (layout : Layout top) (n : ℕ) (ls : List Text) :
    ∀ l ∈ layout.indented n ls, isBlank l = true ∨ startsWithTab l = true := by
  fun_induction layout.indented n ls with
  | case1 => simp
  | case2 n line => exact List.forall_mem_singleton.2 (Or.inr rfl)
  | case3 n line next more ih =>
    refine List.forall_mem_cons.2 ⟨?_, ih⟩
    split_ifs
    · rcases layout.empty_bare n with h | h
      · rw [h]
        exact Or.inr rfl
      · exact Or.inl h.blank
    · exact Or.inr rfl

theorem getLast?_indented {n : ℕ} {ls : List Text} {l : Text} (h : (layout.indented n ls).getLast? = some l) :
    startsWithTab l = true := by
  fun_induction layout.indented n ls with
  | case1 => cases h
  | case2 n line =>
    obtain rfl := Option.some.inj h
    rfl
  | case3 n line next more ih =>
    refine ih ?_
    have hne : layout.indented (n + 1) (next :: more) ≠ [] := by
      rw [← List.length_pos_iff, length_indented]
      exact Nat.succ_pos _
    obtain ⟨x, xs, hx⟩ := List.exists_cons_of_ne_nil hne
    rw [hx, List.getLast?_cons_cons] at h
    rw [hx, h]

theorem reading_tab {l : Text} (h : IsFull l) : reading ('\t' :: l) = chomp l := by
  obtain ⟨b, -, rfl⟩ := h
  have hchomp : chomp ('\t' :: (b ++ ['\n'])) = '\t' :: b := Text.chomp_full ('\t' :: b)
  rw [reading, if_neg (by simp), hchomp, Text.chomp_full]
  rfl

theorem reading_empty (layout : Layout top) (n : ℕ) : reading (layout.empty n) = [] := by
  rcases layout.empty_bare n with h | h | h
  · rw [h]
    decide
  · rw [h]
    decide
  · rw [h]
    decide

/-- however code is written, it reads as it was -/
theorem map_reading_indented {n : ℕ} {ls : List Text} (h : ∀ l ∈ ls, IsFull l) :
    (layout.indented n ls).map reading = ls.map chomp := by
  fun_induction layout.indented n ls with
  | case1 => rfl
  | case2 n line => rw [List.map_singleton, reading_tab (h line List.mem_cons_self)]; rfl
  | case3 n line next more ih =>
    have hline : reading (if line = ['\n'] then layout.empty n else '\t' :: line) = chomp line := by
      split_ifs with hl
      · rw [layout.reading_empty, hl]
        rfl
      · exact reading_tab (h line List.mem_cons_self)
    rw [List.map_cons, hline, ih fun l hl => h l (List.mem_cons_of_mem line hl)]
    rfl

theorem isCode (layout : Layout top) (n : ℕ) (t : Passage) : IsCode ('\t' :: t.first) (layout.indented n t.more) where
  indented := List.forall_mem_cons.2 ⟨Or.inr rfl, layout.indented_or_blank n t.more⟩
  first := rfl
  last := fun _ hl => Paragraph.not_blank_of_startsWithTab (getLast?_indented hl)

theorem isFull_piece (layout : Layout top) (n : ℕ) (p : Piece) : ∀ l ∈ p.first :: layout.more n p, IsFull l := by
  cases p with
  | prose p => exact p.full
  | code t =>
    have hfull := List.forall_mem_cons.1 t.full
    exact List.forall_mem_cons.2 ⟨isFull_tab hfull.1, isFull_indented hfull.2⟩

theorem isFull_write (layout : Layout top) (n : ℕ) (pieces : List Piece) : ∀ l ∈ layout.write n pieces, IsFull l := by
  induction pieces generalizing n with
  | nil => exact fun l hl => (layout.ending_bare l hl).isFull
  | cons p ps ih =>
    intro l hl
    rw [write, List.append_assoc, List.mem_append, List.mem_append] at hl
    rcases hl with hgap | hpiece | hrest
    · exact (layout.gap_bare n l hgap).isFull
    · exact layout.isFull_piece _ p l hpiece
    · exact ih _ l hrest

theorem startsBlank_write (layout : Layout top) {n : ℕ} (hn : top < n) (pieces : List Piece) :
    StartsBlank (layout.write n pieces) := by
  intro l hl
  cases pieces with
  | nil => exact (layout.ending_bare l (List.mem_of_mem_head? hl)).blank
  | cons p ps =>
    obtain ⟨x, xs, hx⟩ := List.exists_cons_of_ne_nil (layout.gap_ne_nil n hn)
    rw [write, hx] at hl
    obtain rfl : x = l := Option.some.inj hl
    exact (layout.gap_bare n x (by rw [hx]; exact List.mem_cons_self)).blank

/-! ## A page is laid out as its paragraphs -/

/-- a piece is behind line `top`, and so is what follows it -/
theorem top_lt_next (layout : Layout top) {n : ℕ} (hn : top ≤ n) (p : Piece) : top < layout.next n p := by
  have hp : 0 < p.height := by cases p <;> exact Nat.succ_pos _
  unfold next start
  omega

theorem laid_prose {n : ℕ} (hn : top ≤ n) {p : Prose} {ps : List Piece}
    (h : Laid (layout.next n (.prose p)) (layout.write (layout.next n (.prose p)) ps)
      (layout.paragraphs (layout.next n (.prose p)) ps)) :
    Laid n (layout.write n (.prose p :: ps)) (layout.paragraphs n (.prose p :: ps)) := by
  have hrest := layout.startsBlank_write (layout.top_lt_next hn (.prose p)) ps
  exact Laid.prose (fun l hl => (layout.gap_bare n l hl).blank) p.isProse hrest h

theorem laid_code {n : ℕ} (hn : top ≤ n) {t : Passage} {ps : List Piece}
    (hps : ∀ q, (layout.paragraphs (layout.next n (.code t)) ps).head? = some q → startsWithTab q.text = false)
    (h : Laid (layout.next n (.code t)) (layout.write (layout.next n (.code t)) ps)
      (layout.paragraphs (layout.next n (.code t)) ps)) :
    Laid n (layout.write n (.code t :: ps)) (layout.paragraphs n (.code t :: ps)) := by
  have hrest := layout.startsBlank_write (layout.top_lt_next hn (.code t)) ps
  have hnext : layout.next n (.code t) =
      n + (layout.gap n).length + ((layout.indented (layout.start n + 1) t.more).length + 1) := by
    rw [layout.length_indented]
    rfl
  rw [write, paragraphs, paragraph]
  rw [hnext] at h hrest hps ⊢
  exact Laid.code (fun l hl => (layout.gap_bare n l hl).blank) (layout.isCode (layout.start n + 1) t) hrest hps h

theorem startsWithTab_prose (layout : Layout top) (n : ℕ) (p : Prose) :
    startsWithTab (layout.paragraph n (.prose p)).text = false := by
  have hfirst : isBlank p.first = false := p.isProse.solid _ List.mem_cons_self
  exact (Paragraph.startsWithTab_ofRun hfirst).trans p.isProse.plain

/-- a page goes on with running text or a declaration, not with code -/
theorem plain_items {extensions : Extensions} (items : List (Item extensions)) (n : ℕ) {q : Paragraph}
    (hq : (layout.paragraphs n (items.flatMap Item.pieces)).head? = some q) : startsWithTab q.text = false := by
  cases items with
  | nil => cases hq
  | cons item items =>
    cases item with
    | prose p =>
      obtain rfl := Option.some.inj hq
      exact layout.startsWithTab_prose n p
    | listing x =>
      rw [List.flatMap_cons, Item.pieces] at hq
      split at hq
      · obtain rfl := Option.some.inj hq
        exact layout.startsWithTab_prose n x.declaration
      · obtain rfl := Option.some.inj hq
        exact layout.startsWithTab_prose n x.declaration

theorem laid_items {extensions : Extensions} (items : List (Item extensions)) {n : ℕ} (hn : top ≤ n) :
    Laid n (layout.write n (items.flatMap Item.pieces)) (layout.paragraphs n (items.flatMap Item.pieces)) := by
  induction items generalizing n with
  | nil => exact .blank fun l hl => (layout.ending_bare l hl).blank
  | cons item items ih =>
    have hplain : ∀ m q, (layout.paragraphs m (items.flatMap Item.pieces)).head? = some q →
        startsWithTab q.text = false := fun m q => plain_items items m
    rw [List.flatMap_cons]
    cases item with
    | prose p => exact laid_prose hn (ih (layout.top_lt_next hn _).le)
    | listing x =>
      have h1 := (layout.top_lt_next hn (.prose x.declaration)).le
      have h2 := (layout.top_lt_next h1 (.code x.code)).le
      cases hx : x.output with
      | none =>
        simp only [Item.pieces, hx]
        exact laid_prose hn (laid_code h1 (hplain _) (ih h2))
      | some t =>
        have h3 := (layout.top_lt_next h2 (.prose outputMarker)).le
        have h4 := (layout.top_lt_next h3 (.code t)).le
        simp only [Item.pieces, hx]
        refine laid_prose hn (laid_code h1 (fun q hq => ?_) (laid_prose h2 (laid_code h3 (hplain _) (ih h4))))
        obtain rfl := Option.some.inj hq
        rfl

end Layout

end Page
end RunnableDocs
