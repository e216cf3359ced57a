/-
Tables while a document is still being read.

Where a table comes from decides what may still be added to it: one that a header names is closed to dotted keys and
other headers of the same name, one that is only implied by a longer header may get a header of its own later, and one
made by dotted keys grows by dotted keys only. Everything written as a value is complete as it stands.
-/
import RunnableDocs.Toml.Value

namespace RunnableDocs.Toml

/-- where a table comes from -/
inductive Origin where
  | header
  | implied
  | dotted
  deriving DecidableEq, Repr

inductive Draft where
  | value (v : Value)
  | table (origin : Origin) (entries : List (Text × Draft))
  /-- an array of tables, the last one first: only that one can grow -/
  | tables (last : List (Text × Draft)) (before : List (List (Text × Draft)))

abbrev Entries := List (Text × Draft)

/-- the entry replaced in its place, or added behind all others -/
def Entries.set (key : Text) (d : Draft) : Entries → Entries
  | [] => [(key, d)]
  | e :: rest => if e.1 = key then (key, d) :: rest else e :: Entries.set key d rest

/-- a value under a dotted key; a key is never given twice -/
def Entries.insert (entries : Entries) (v : Value) : (first : Text) → (others : List Text) → Option Entries
  | key, [] => if (entries.lookup key).isSome then none else some (Entries.set key (.value v) entries)
  | key, next :: others =>
    match entries.lookup key with
    | none => do some (Entries.set key (.table .dotted (← Entries.insert [] v next others)) entries)
    | some (.table .dotted inner) => do
      some (Entries.set key (.table .dotted (← Entries.insert inner v next others)) entries)
    | some (.table .implied inner) => do
      if others = [] then none
      else some (Entries.set key (.table .implied (← Entries.insert inner v next others)) entries)
    | some (.tables last before) => do
      if others = [] then none
      else some (Entries.set key (.tables (← Entries.insert last v next others) before) entries)
    | some _ => none

/-- the tables on the way of a header changed by `f` at its last key; missing ones are implied -/
def Entries.modifyAt (f : Option Draft → Option Draft) (entries : Entries) :
    (first : Text) → (others : List Text) → Option Entries
  | key, [] => do some (Entries.set key (← f (entries.lookup key)) entries)
  | key, next :: others =>
    match entries.lookup key with
    | none => do some (Entries.set key (.table .implied (← Entries.modifyAt f [] next others)) entries)
    | some (.table origin inner) => do
      some (Entries.set key (.table origin (← Entries.modifyAt f inner next others)) entries)
    | some (.tables last before) => do
      some (Entries.set key (.tables (← Entries.modifyAt f last next others) before) entries)
    | some (.value _) => none

/-- a table header -/
def opened : Option Draft → Option Draft
  | none => some (.table .header [])
  | some (.table .implied inner) => some (.table .header inner)
  | some _ => none

/-- a header of one more table in an array -/
def appended : Option Draft → Option Draft
  | none => some (.tables [] [])
  | some (.tables last before) => some (.tables [] (last :: before))
  | some _ => none

/-- a value put under a dotted key into the table that a header has opened -/
def filled (v : Value) (first : Text) (others : List Text) : Option Draft → Option Draft
  | some (.table origin inner) => do some (.table origin (← Entries.insert inner v first others))
  | some (.tables last before) => do some (.tables (← Entries.insert last v first others) before)
  | _ => none

mutual
/-- the value that a finished draft is -/
def Draft.finish : Draft → Value
  | .value v => v
  | .table _ entries => .table (finishEntries entries)
  | .tables last before => .array (finishTables before ++ [.table (finishEntries last)])

def finishEntries : List (Text × Draft) → List (Text × Value)
  | [] => []
  | (key, d) :: rest => (key, d.finish) :: finishEntries rest

def finishTables : List (List (Text × Draft)) → List Value
  | [] => []
  | entries :: rest => finishTables rest ++ [.table (finishEntries entries)]
end

end RunnableDocs.Toml
