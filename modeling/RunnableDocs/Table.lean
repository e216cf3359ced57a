/-
Tables: values under texts, kept in the order of their keys.

A table is looked at through `get?`: an insertion is seen under its own key and leaves the others alone
(`get?_insert`), and the keys are those that have a value (`mem_keys_iff`).
-/
import RunnableDocs.Text.Basic

namespace RunnableDocs

/-- entries in the order of their keys, by code point; no key twice -/
structure Table (α : Type) where
  entries : List (Text × α) := []

namespace Table
variable {α : Type}

instance : Inhabited (Table α) := ⟨{}⟩

/-- the value of the first entry under a key -/
def valueIn (key : Text) : List (Text × α) → Option α
  | [] => none
  | (k, a) :: rest => if key = k then some a else valueIn key rest

/-- the entry put in its place; one of the same key gives way -/
def insertIn (key : Text) (a : α) : List (Text × α) → List (Text × α)
  | [] => [(key, a)]
  | (k, b) :: rest =>
    if k = key then (key, a) :: rest
    else if key < k then (key, a) :: (k, b) :: rest
    else (k, b) :: insertIn key a rest

def insert (t : Table α) (key : Text) (a : α) : Table α := ⟨insertIn key a t.entries⟩

def get? (t : Table α) (key : Text) : Option α := valueIn key t.entries

def keys (t : Table α) : List Text := t.entries.map Prod.fst

/-- the table that holds the last value given for each key -/
def ofList (entries : List (Text × α)) : Table α := entries.foldl (fun t e => t.insert e.1 e.2) {}

theorem get?_insert (t : Table α) (key : Text) (a : α) (k : Text) :
    (t.insert key a).get? k = if k = key then some a else t.get? k := by
  simp only [insert, get?]
  induction t.entries with
  | nil => rfl
  | cons e rest ih =>
    obtain ⟨k', b⟩ := e
    rw [insertIn]
    split
    · next h => subst h; by_cases hk : k = k' <;> simp [valueIn, hk]
    · split
      · simp [valueIn]
      · next h _ =>
        by_cases hk : k = k'
        · simp [valueIn, hk, h]
        · simp [valueIn, hk, ih]

theorem mem_keys_iff (t : Table α) (key : Text) : key ∈ t.keys ↔ (t.get? key).isSome := by
  simp only [keys, get?]
  induction t.entries with
  | nil => simp [valueIn]
  | cons e rest ih =>
    obtain ⟨k, b⟩ := e
    by_cases h : key = k
    · simp [valueIn, h]
    · rw [valueIn, if_neg h, ← ih]
      simp [h]

end Table
end RunnableDocs
