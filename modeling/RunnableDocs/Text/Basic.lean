/-
Texts as lists of characters: cut into lines, searched for a word, freed of outer white space.

`lines` keeps every terminator, so that gluing the lines back together loses nothing (`flatten_lines`). `splitAt?`
cuts at the first occurrence of a word, and the two parts with the word between them are the text (`splitAt?_append`).
-/
namespace RunnableDocs

/-- a text is its list of characters -/
abbrev Text := List Char

namespace Text

/-- the lines of a text, each with its line feed; only the last may lack one -/
def lines : Text → List Text
  | [] => []
  | c :: rest =>
    if c = '\n' then [c] :: lines rest
    else match lines rest with
      | [] => [[c]]
      | line :: more => (c :: line) :: more

theorem flatten_lines (t : Text) : (lines t).flatten = t := by
  induction t with
  | nil => rfl
  | cons c rest ih =>
    rw [lines]
    split
    · simp [ih]
    · split
      · next h => rw [h] at ih; simpa using ih
      · next h => rw [h] at ih; simpa using ih

/-- what follows `word` at the start of a text -/
def after? : Text → Text → Option Text
  | [], t => some t
  | _ :: _, [] => none
  | w :: word, c :: t => if w = c then after? word t else none

theorem after?_eq_some {word t rest : Text} : after? word t = some rest ↔ t = word ++ rest := by
  induction word generalizing t with
  | nil => simp [after?]
  | cons w word ih =>
    cases t with
    | nil => simp [after?]
    | cons c t =>
      by_cases hc : w = c
      · simp [after?, hc, ih]
      · simp [after?, hc, Ne.symm hc]

/-- what stands before and after the first occurrence of `word` -/
def splitAt? (word : Text) : Text → Option (Text × Text)
  | [] => if word = [] then some ([], []) else none
  | c :: rest =>
    match after? word (c :: rest) with
    | some after => some ([], after)
    | none => (splitAt? word rest).map fun parts => (c :: parts.1, parts.2)

theorem splitAt?_append {word t before after : Text} (h : splitAt? word t = some (before, after)) :
    t = before ++ word ++ after := by
  induction t generalizing before with
  | nil =>
    by_cases hw : word = []
    · simp [splitAt?, hw] at h
      simp [hw, h]
    · simp [splitAt?, hw] at h
  | cons c rest ih =>
    rw [splitAt?] at h
    split at h
    · next found hp =>
      obtain ⟨rfl, rfl⟩ := Prod.mk.inj (Option.some.inj h)
      exact after?_eq_some.1 hp
    · obtain ⟨⟨b, a⟩, hs, he⟩ := Option.map_eq_some_iff.1 h
      obtain ⟨rfl, rfl⟩ := Prod.mk.inj he
      simp [ih hs]

/-- the pieces of a text between the occurrences of one character; there is always at least one -/
def splitOn (mark : Char) : Text → List Text
  | [] => [[]]
  | c :: rest =>
    if c = mark then [] :: splitOn mark rest
    else match splitOn mark rest with
      | [] => [[c]]
      | piece :: more => (c :: piece) :: more

/-- the 25 characters that count as white space in any script -/
def isSpace (c : Char) : Bool :=
  let n := c.toNat
  (9 ≤ n && n ≤ 13) || n = 0x20 || n = 0x85 || n = 0xA0 || n = 0x1680 || (0x2000 ≤ n && n ≤ 0x200A) ||
    n = 0x2028 || n = 0x2029 || n = 0x202F || n = 0x205F || n = 0x3000

/-- the text without the white space around it -/
def trim (t : Text) : Text := ((t.dropWhile isSpace).reverse.dropWhile isSpace).reverse

/-- whether a text may stand before another in a sorted list; the order is by code point -/
def inOrder (a b : Text) : Bool := !decide (b < a)

def sorted (texts : List Text) : List Text := texts.mergeSort inOrder

/-- the text as a string, for messages -/
def shown (t : Text) : String := String.ofList t

end Text
end RunnableDocs
