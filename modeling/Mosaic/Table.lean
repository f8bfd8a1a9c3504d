/-!
Small tables kept as lists in the order of their keys, each key once.
-/

namespace Mosaic

/-- Entries of a table, in the order of their keys. -/
abbrev Table (κ ν : Type) := List (κ × ν)

namespace Table

variable {κ ν : Type} [LT κ] [DecidableLT κ] [DecidableEq κ]

/-- Put an entry at its place, instead of an earlier one under the same key. -/
def put (table : Table κ ν) (key : κ) (value : ν) : Table κ ν :=
  match table with
  | [] => [(key, value)]
  | (other, held) :: rest =>
    if key < other then (key, value) :: (other, held) :: rest
    else if key = other then (key, value) :: rest
    else (other, held) :: put rest key value

def get? (table : Table κ ν) (key : κ) : Option ν :=
  (table.find? fun entry => entry.1 = key).map Prod.snd

/-- A table from entries in any order; of several under one key the last one
stays. -/
def ofEntries (entries : List (κ × ν)) : Table κ ν :=
  entries.foldl (fun table entry => table.put entry.1 entry.2) []

theorem get?_put_self (table : Table κ ν) (key : κ) (value : ν) :
    (table.put key value).get? key = some value := by
  induction table with
  | nil => simp [put, get?]
  | cons entry rest ih =>
    obtain ⟨other, held⟩ := entry
    unfold put
    split
    · simp [get?]
    · split
      · simp [get?]
      · next differs =>
        have apart : ¬ other = key := fun same => differs same.symm
        simpa [get?, apart] using ih

theorem get?_put_of_ne (table : Table κ ν) {key other : κ} (value : ν) (apart : key ≠ other) :
    (table.put key value).get? other = table.get? other := by
  induction table with
  | nil => simp [put, get?, apart]
  | cons entry rest ih =>
    obtain ⟨first, held⟩ := entry
    unfold put
    split
    · simp [get?, apart]
    · split
      · next same =>
        subst same
        simp [get?, apart]
      · by_cases here : first = other
        · simp [get?, here]
        · simpa [get?, here] using ih

end Table
end Mosaic
