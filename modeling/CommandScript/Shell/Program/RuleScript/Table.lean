import CommandScript.Shell.Program.RuleScript.Value

/-!
# Tables of rule scripts

A **table** holds values under keys. The order in which its keys are gone through is part of what a
script does, so a table keeps them in rows: one row of rows by the sums of the keys' texts, and
another by whole numbers, for keys that have been given as such. A key that is looked up comes to
the front of its row. There are as many rows as a power of two, and twice as many when the keys are
too many. Keys that have only been given as numbers get into the rows by text when the first text is
asked for.

A table that has been filled with the parts of a text has the keys from one on, and no rows yet.
-/
namespace CommandScript.Shell.RuleScript

/-- A **key** of a table. -/
inductive Key where
  /-- A whole number. -/
  | number (n : Int)
  /-- A text. -/
  | name (t : Text)
  deriving DecidableEq, Repr

/-- An **entry** of a table. -/
structure Entry where
  /-- The key as a text, if it has been asked for as one. -/
  name : Option Text
  /-- The key as a number, if it has been given as one. -/
  number : Option Int
  /-- The value. -/
  value : Value

namespace Entry

/-- The key of an entry as a text. -/
def text (e : Entry) : Text :=
  match e.name, e.number with
  | some t, _ => t
  | none, some n => (toString n).toList
  | none, none => []

end Entry

/-- A **table**. -/
structure Table where
  /-- The entries by number; those that have been removed are still there. -/
  entries : Array Entry := #[]
  /-- The numbers of the entries in rows by the sums of their texts. -/
  byName : Array (List Nat) := Array.replicate 64 []
  /-- The numbers of the entries in rows by their numbers. -/
  byNumber : Array (List Nat) := Array.replicate 64 []
  /-- Whether the entries are in rows by text. -/
  hasNames : Bool := false
  /-- How many entries there are. -/
  size : Nat := 0
  /-- Whether the entries are those of the keys from one on, and not yet in rows. -/
  isList : Bool := false

namespace Table

/-- The sum of a text, which tells its row. -/
def textSum (t : Text) : UInt32 :=
  t.foldl (fun sum c ↦ (sum ^^^ UInt32.ofNat c.toNat) * 16777619) 2166136261

/-- How many keys there may be for each row. -/
def maxRowLength : Nat := 12

/-- The row of a text among a number of rows. -/
def nameRow (count : Nat) (t : Text) : Nat := (textSum t).toNat % count

/-- The row of a number among a number of rows. -/
def numberRow (count : Nat) (n : Int) : Nat := (n % count).toNat

/-- A table with the parts of a text. -/
def ofList (values : List Value) : Table :=
  let entries := values.zipIdx.map fun (v, i) ↦ (⟨none, some (i + 1 : Nat), v⟩ : Entry)
  { entries := entries.toArray, size := entries.length, isList := true }

/-- Rows with a number at the front of one of them. -/
def atFront (rows : Array (List Nat)) (row i : Nat) : Array (List Nat) :=
  rows.modify row (i :: ·)

/-- Rows cut in two, the second halves behind all others. -/
def splitRows (rows : Array (List Nat)) (stays : Nat → Nat → Bool) : Array (List Nat) :=
  let halves := rows.toList.zipIdx.map fun (ids, row) ↦ ids.partition (stays row)
  (halves.map (·.1) ++ halves.map (·.2)).toArray

/-- The entry of a number. -/
def entry (t : Table) (i : Nat) : Entry := (t.entries[i]?).getD ⟨none, none, .unset⟩

/-- A table with twice as many rows, if its keys are too many. -/
def grown (t : Table) : Table :=
  if t.size ≤ t.byName.size * maxRowLength then t
  else
    let count := 2 * t.byName.size
    { t with
      byName := splitRows t.byName fun row i ↦ nameRow count (t.entry i).text = row
      byNumber := splitRows t.byNumber fun row i ↦
        numberRow count ((t.entry i).number.getD 0) = row }

/-- A table with its entries in rows, if they are those of a list. -/
def withRows (t : Table) : Table :=
  if !t.isList then t
  else
    let start : Table := { t with isList := false, size := 0 }
    (List.range t.size).foldl (fun t i ↦
      let t := grown { t with size := t.size + 1 }
      { t with byNumber := atFront t.byNumber (numberRow t.byNumber.size (i + 1 : Nat)) i }) start

/-- A table with all entries in rows by text. -/
def withNames (t : Table) : Table :=
  let t := t.withRows
  if t.hasNames then t
  else t.byNumber.toList.flatten.foldl (fun t i ↦
    let e := t.entry i
    if e.name.isSome then t
    else { t with
      entries := t.entries.set! i { e with name := some e.text }
      byName := atFront t.byName (nameRow t.byName.size e.text) i }) { t with hasNames := true }

/-- The entry that a row has for a key, and the row with it at the front. -/
def inRow (row : List Nat) (test : Nat → Bool) : Option (Nat × List Nat) :=
  (row.find? test).map fun i ↦ (i, i :: row.filter (· != i))

/-- The number of the entry of a text, which is added if that is asked for. -/
def findName (t : Table) (name : Text) (adds : Bool) : Option Nat × Table :=
  let t := t.withNames
  let row := nameRow t.byName.size name
  match inRow ((t.byName[row]?).getD []) fun i ↦ (t.entry i).name = some name with
  | some (i, moved) => (some i, { t with byName := t.byName.set! row moved })
  | none =>
    if !adds then (none, t)
    else
      let i := t.entries.size
      let t := grown { t with
        entries := t.entries.push ⟨some name, none, .unset⟩, size := t.size + 1 }
      (some i, { t with byName := atFront t.byName (nameRow t.byName.size name) i })

/-- The number of the entry of a whole number, which is added if that is asked for. -/
def findNumber (t : Table) (n : Int) (adds : Bool) : Option Nat × Table :=
  if t.isList ∧ 1 ≤ n ∧ n ≤ t.size then (some (n - 1).toNat, t)
  else if t.isList ∧ !adds then (none, t)
  else
    let t := t.withRows
    let row := numberRow t.byNumber.size n
    match inRow ((t.byNumber[row]?).getD []) fun i ↦ (t.entry i).number = some n with
    | some (i, moved) => (some i, { t with byNumber := t.byNumber.set! row moved })
    | none =>
      let (found, t) := if t.hasNames then t.findName (toString n).toList adds
        else if adds then
          let i := t.entries.size
          (some i, grown { t with
            entries := t.entries.push ⟨none, some n, .unset⟩, size := t.size + 1 })
        else (none, t)
      match found with
      | none => (none, t)
      | some i =>
        (some i, { t with
          entries := t.entries.set! i { t.entry i with number := some n }
          byNumber := atFront t.byNumber (numberRow t.byNumber.size n) i })

/-- The number of the entry of a key, which is added if that is asked for. -/
def find (t : Table) (adds : Bool) : Key → Option Nat × Table
  | .number n => t.findNumber n adds
  | .name name => t.findName name adds

/-- The table with another value in an entry. -/
def store (t : Table) (i : Nat) (v : Value) : Table :=
  { t with entries := t.entries.modify i fun e ↦ { e with value := v } }

/-- The table without a key. -/
def erase (t : Table) (k : Key) : Table :=
  match t.withRows.find false k with
  | (none, t) => t
  | (some i, t) =>
    if t.size ≤ 1 then {}
    else
      let without (rows : Array (List Nat)) (row : Nat) : Array (List Nat) :=
        rows.modify row (·.filter (· != i))
      let e := t.entry i
      { t with
        byName := without t.byName (nameRow t.byName.size e.text)
        byNumber := without t.byNumber (numberRow t.byNumber.size (e.number.getD 0))
        size := t.size - 1 }

/-- All keys in order. -/
def keys (t : Table) : List Text × Table :=
  let t := t.withNames
  (t.byName.toList.flatten.map fun i ↦ (t.entry i).text, t)

end Table

end CommandScript.Shell.RuleScript
