/-
Where the comment of a source lies.

`Encloses markers source opened inner cut`: the first open marker is on line `opened`; from behind it the whole lines
`inner` follow, and then a line on which `cut` stands before the first close marker. `ofSource_eq_ok_iff` states that
this is the comment that is found. With markers that stand within a line, every line of the body is the line of the
source of its number, apart from the line of the open marker and from what is cut off behind `cut`
(`Encloses.lines_body`, `Encloses.lineAt?_of_body`).
-/
import RunnableDocs.Comment
import RunnableDocs.Proofs.Text.Lines
import RunnableDocs.Proofs.Text.Search

namespace RunnableDocs

open Text (AreLines FirstAt IsFull lines splitAt?)

/-- markers that are not empty and stand within a line -/
structure Markers.WithinLine (m : Markers) : Prop where
  opening_ne_nil : m.opening ≠ []
  closing_ne_nil : m.closing ≠ []
  opening_line : '\n' ∉ m.opening
  closing_line : '\n' ∉ m.closing

namespace Comment

/-- of the lines from number `n` on, line `opened` is the first with the marker, and `tail` is what follows it: the rest
of that line and all further lines -/
def OpensAt (marker : Text) (n : ℕ) (ls : List Text) (opened : ℕ) (tail : List Text) : Prop :=
  ∃ header line more before after, ls = header ++ line :: more ∧ opened = n + header.length ∧
    (∀ l ∈ header, ¬ marker <:+: l) ∧ FirstAt marker line before after ∧ tail = after :: more

/-- the lines `inner` are without the marker, and on the next one `cut` stands before it -/
def ClosesAt (marker : Text) (tail inner : List Text) (cut : Text) : Prop :=
  ∃ last trailer rest, tail = inner ++ last :: rest ∧ (∀ l ∈ inner, ¬ marker <:+: l) ∧ FirstAt marker last cut trailer

def Encloses (markers : Markers) (source : Text) (opened : ℕ) (inner : List Text) (cut : Text) : Prop :=
  ∃ tail, OpensAt markers.opening 1 (lines source) opened tail ∧ ClosesAt markers.closing tail inner cut

/-! ## The comment that is found -/

theorem bodyOf?_eq_some_iff {marker : Text} {tail : List Text} {body : Text} :
    bodyOf? marker tail = some body ↔ ∃ inner cut, ClosesAt marker tail inner cut ∧ body = inner.flatten ++ cut := by
  induction tail generalizing body with
  | nil =>
    constructor
    · intro h
      cases h
    · rintro ⟨inner, cut, ⟨last, trailer, rest, h, -, -⟩, -⟩
      simp at h
  | cons line more ih =>
    rw [bodyOf?]
    cases hs : splitAt? marker line with
    | some parts =>
      obtain ⟨before, after⟩ := parts
      have hfirst := Text.splitAt?_eq_some_iff.1 hs
      constructor
      · intro h
        obtain rfl := Option.some.inj h
        exact ⟨[], before, ⟨line, after, more, rfl, by simp, hfirst⟩, rfl⟩
      · rintro ⟨inner, cut, ⟨last, trailer, rest, htail, hno, hlast⟩, rfl⟩
        cases inner with
        | nil =>
          obtain ⟨rfl, rfl⟩ := List.cons.inj htail
          rw [(hfirst.unique hlast).1]
          rfl
        | cons l inner =>
          obtain ⟨rfl, -⟩ := List.cons.inj htail
          exact absurd ⟨before, after, hfirst.1.symm⟩ (hno line List.mem_cons_self)
    | none =>
      have hline := Text.splitAt?_eq_none_iff.1 hs
      rw [Option.map_eq_some_iff]
      constructor
      · rintro ⟨body', hb, rfl⟩
        obtain ⟨inner, cut, ⟨last, trailer, rest, rfl, hno, hlast⟩, rfl⟩ := ih.1 hb
        exact ⟨line :: inner, cut, ⟨last, trailer, rest, rfl, List.forall_mem_cons.2 ⟨hline, hno⟩, hlast⟩, by simp⟩
      · rintro ⟨inner, cut, ⟨last, trailer, rest, htail, hno, hlast⟩, rfl⟩
        cases inner with
        | nil =>
          obtain ⟨rfl, -⟩ := List.cons.inj htail
          exact absurd ⟨cut, trailer, hlast.1.symm⟩ hline
        | cons l inner =>
          obtain ⟨rfl, rfl⟩ := List.cons.inj htail
          refine ⟨inner.flatten ++ cut, ih.2 ⟨inner, cut, ?_, rfl⟩, by simp⟩
          exact ⟨last, trailer, rest, rfl, fun l hl => hno l (List.mem_cons_of_mem _ hl), hlast⟩

theorem opensAt_cons_iff {marker line : Text} {n opened : ℕ} {more tail : List Text} (h : ¬ marker <:+: line) :
    OpensAt marker n (line :: more) opened tail ↔ OpensAt marker (n + 1) more opened tail := by
  constructor
  · rintro ⟨header, found, rest, before, after, hls, ho, hno, hfirst, ht⟩
    cases header with
    | nil =>
      obtain ⟨rfl, -⟩ := List.cons.inj hls
      exact absurd ⟨before, after, hfirst.1.symm⟩ h
    | cons l header =>
      obtain ⟨rfl, rfl⟩ := List.cons.inj hls
      refine ⟨header, found, rest, before, after, rfl, ?_, fun l hl => hno l (List.mem_cons_of_mem _ hl), hfirst, ht⟩
      rw [ho, List.length_cons]
      omega
  · rintro ⟨header, found, rest, before, after, rfl, rfl, hno, hfirst, ht⟩
    refine ⟨line :: header, found, rest, before, after, rfl, ?_, List.forall_mem_cons.2 ⟨h, hno⟩, hfirst, ht⟩
    rw [List.length_cons]
    omega

theorem opensAt_here_iff {marker line before after : Text} {n opened : ℕ} {more tail : List Text}
    (h : FirstAt marker line before after) :
    OpensAt marker n (line :: more) opened tail ↔ opened = n ∧ tail = after :: more := by
  constructor
  · rintro ⟨header, found, rest, before', after', hls, rfl, hno, hfirst, rfl⟩
    cases header with
    | nil =>
      obtain ⟨rfl, rfl⟩ := List.cons.inj hls
      rw [(h.unique hfirst).2]
      exact ⟨rfl, rfl⟩
    | cons l header =>
      obtain ⟨rfl, -⟩ := List.cons.inj hls
      exact absurd ⟨before, after, h.1.symm⟩ (hno line List.mem_cons_self)
  · rintro ⟨rfl, rfl⟩
    exact ⟨[], line, more, before, after, rfl, rfl, by simp, h, rfl⟩

theorem ofLines_eq_ok_iff {markers : Markers} {n : ℕ} {ls : List Text} {c : Comment} :
    ofLines markers n ls = .ok c ↔
      ∃ tail inner cut, OpensAt markers.opening n ls c.firstLine tail ∧ ClosesAt markers.closing tail inner cut ∧
        c.body = inner.flatten ++ cut := by
  induction ls generalizing n with
  | nil =>
    constructor
    · intro h
      cases h
    · rintro ⟨tail, inner, cut, ⟨header, found, rest, before, after, h, -⟩, -⟩
      simp at h
  | cons line more ih =>
    rw [ofLines]
    cases hs : splitAt? markers.opening line with
    | none =>
      simp only [opensAt_cons_iff (Text.splitAt?_eq_none_iff.1 hs)]
      exact ih
    | some parts =>
      obtain ⟨before, after⟩ := parts
      simp only [opensAt_here_iff (Text.splitAt?_eq_some_iff.1 hs)]
      cases hb : bodyOf? markers.closing (after :: more) with
      | none =>
        constructor
        · intro h
          cases h
        · rintro ⟨tail, inner, cut, ⟨-, rfl⟩, hc, -⟩
          rw [bodyOf?_eq_some_iff.2 ⟨inner, cut, hc, rfl⟩] at hb
          cases hb
      | some body =>
        obtain ⟨inner, cut, hc, rfl⟩ := bodyOf?_eq_some_iff.1 hb
        constructor
        · intro h
          obtain rfl := Except.ok.inj h
          exact ⟨after :: more, inner, cut, ⟨rfl, rfl⟩, hc, rfl⟩
        · rintro ⟨tail, inner', cut', ⟨hn, rfl⟩, hc', hbody⟩
          have hsome := bodyOf?_eq_some_iff.2 ⟨inner', cut', hc', rfl⟩
          rw [hb] at hsome
          rw [Option.some.inj hsome, ← hbody, ← hn]

/-- **The comment that is found is the one enclosed.** -/
theorem ofSource_eq_ok_iff {markers : Markers} {source : Text} {c : Comment} :
    ofSource markers source = .ok c ↔
      ∃ inner cut, Encloses markers source c.firstLine inner cut ∧ c.body = inner.flatten ++ cut := by
  rw [ofSource, ofLines_eq_ok_iff]
  constructor
  · rintro ⟨tail, inner, cut, ho, hc, hb⟩
    exact ⟨inner, cut, ⟨tail, ho, hc⟩, hb⟩
  · rintro ⟨inner, cut, ⟨tail, ho, hc⟩, hb⟩
    exact ⟨tail, inner, cut, ho, hc, hb⟩

/-! ## The lines of the body -/

/-- line `n` of a source, as far as it belongs to a comment that is closed on line `closed`, behind `cut` -/
def lineAt? (source : Text) (closed : ℕ) (cut : Text) (n : ℕ) : Option Text :=
  if n = closed then some cut else (lines source)[n - 1]?

/-- what stands in a full line behind a marker within it is full too -/
theorem isFull_behind {marker line before after : Text} (hne : marker ≠ []) (hmark : '\n' ∉ marker)
    (hline : IsFull line) (he : line = before ++ marker ++ after) : IsFull after := by
  have hafter : after ≠ [] := by
    rintro rfl
    rw [List.append_nil] at he
    have hfull : IsFull marker := (he ▸ hline : IsFull (before ++ marker)).of_append hne
    exact hmark (List.mem_of_mem_getLast? hfull.getLast?)
  exact (he ▸ hline : IsFull (before ++ marker ++ after)).of_append hafter

theorem Encloses.inner_full {markers : Markers} {source cut : Text} {opened : ℕ} {inner : List Text}
    (hm : markers.WithinLine) (h : Encloses markers source opened inner cut) : ∀ l ∈ inner, IsFull l := by
  obtain ⟨tail, ⟨header, line, more, before, after, hsrc, -, -, hline, rfl⟩, last, trailer, rest, htail, -, -⟩ := h
  cases inner with
  | nil => simp
  | cons l inner =>
    rw [List.cons_append] at htail
    obtain ⟨rfl, rfl⟩ := List.cons.inj htail
    have hls : AreLines ((header ++ line :: inner) ++ last :: rest) := by
      have := Text.areLines_lines source
      rwa [hsrc, ← List.cons_append, ← List.append_assoc] at this
    have hfull := hls.isFull_of_append
    refine List.forall_mem_cons.2 ⟨?_, fun x hx => hfull x (by simp [hx])⟩
    -- the rest of the line of the open marker keeps the line feed, which is not in the marker
    exact isFull_behind hm.opening_ne_nil hm.opening_line (hfull line (by simp)) hline.1

theorem Encloses.not_mem_cut {markers : Markers} {source cut : Text} {opened : ℕ} {inner : List Text}
    (hm : markers.WithinLine) (h : Encloses markers source opened inner cut) : '\n' ∉ cut := by
  obtain ⟨tail, ⟨header, line, more, before, after, hsrc, -, -, hline, rfl⟩, last, trailer, rest, htail, -, hlast⟩ := h
  have hsource := Text.areLines_lines source
  rw [hsrc] at hsource
  have hne : markers.closing ++ trailer ≠ [] := by simp [hm.closing_ne_nil]
  cases inner with
  | nil =>
    obtain ⟨rfl, -⟩ := List.cons.inj htail
    have he : line = (before ++ markers.opening ++ cut) ++ (markers.closing ++ trailer) := by
      rw [hline.1, hlast.1]
      simp
    have hcut := Text.not_mem_of_line_append (he ▸ hsource.drop_append.isFull_or_isOpen) hne
    exact fun hx => hcut (List.mem_append_right _ hx)
  | cons l inner =>
    rw [List.cons_append] at htail
    obtain ⟨rfl, rfl⟩ := List.cons.inj htail
    rw [← List.cons_append, ← List.append_assoc] at hsource
    have he : last = cut ++ (markers.closing ++ trailer) := by rw [hlast.1, List.append_assoc]
    exact Text.not_mem_of_line_append (he ▸ hsource.drop_append.isFull_or_isOpen) hne

theorem Encloses.lines_body {markers : Markers} {source cut : Text} {opened : ℕ} {inner : List Text}
    (hm : markers.WithinLine) (h : Encloses markers source opened inner cut) :
    lines (inner.flatten ++ cut) = inner ++ if cut = [] then [] else [cut] := by
  have hinner := h.inner_full hm
  rw [Text.lines_append (Text.complete_flatten hinner), Text.lines_flatten (.of_full hinner)]
  split_ifs with hc
  · rw [hc, Text.lines_nil]
  · rw [Text.lines_of_isOpen ⟨hc, h.not_mem_cut hm⟩]

/-- behind the line of the open marker, the lines of the body are those of the source -/
theorem Encloses.lineAt?_of_body {markers : Markers} {source cut : Text} {opened : ℕ} {inner : List Text}
    (h : Encloses markers source opened inner cut) {j : ℕ} (hj : 0 < j) {l : Text}
    (hl : (inner ++ if cut = [] then [] else [cut])[j]? = some l) :
    lineAt? source (opened + inner.length) cut (opened + j) = some l := by
  obtain ⟨tail, ⟨header, line, more, before, after, hsrc, ho, -, -, rfl⟩, last, trailer, rest, htail, -, -⟩ := h
  unfold lineAt?
  by_cases hlt : j < inner.length
  · have hmore : (after :: more)[j]? = some l := by
      rw [htail, List.getElem?_append_left hlt]
      rwa [List.getElem?_append_left hlt] at hl
    obtain ⟨i, rfl⟩ : ∃ i, j = i + 1 := ⟨j - 1, by omega⟩
    have hi : opened + (i + 1) - 1 = header.length + (i + 1) := by omega
    rw [if_neg (by omega), hsrc, hi, List.getElem?_append_right (by omega), Nat.add_sub_cancel_left]
    simpa using hmore
  · rw [List.getElem?_append_right (by omega)] at hl
    split_ifs at hl with hc
    · simp at hl
    · have hje : j = inner.length := by
        have := (List.getElem?_eq_some_iff.1 hl).1
        simp only [List.length_singleton] at this
        omega
      rw [if_pos (by rw [hje])]
      simpa [hje] using hl

end Comment
end RunnableDocs
