import Mathlib.Data.List.Basic
import Mosaic.Table

/-!
# Filling a table

Entries with different keys stay when they are put one after the other, whatever
their order, and each is found by its key.  A table that is filled by putting entries
has its keys in their order, each once; and a table like this is what filling another
one with its entries gives.
-/

namespace Mosaic
namespace Table

variable {κ ν : Type} [LT κ] [DecidableLT κ] [DecidableEq κ]

/-- Put several entries, one after the other. -/
def putAll (table : Table κ ν) (entries : List (κ × ν)) : Table κ ν :=
  entries.foldl (fun table entry => table.put entry.1 entry.2) table

theorem putAll_cons (table : Table κ ν) (entry : κ × ν) (entries : List (κ × ν)) :
    table.putAll (entry :: entries) = (table.put entry.1 entry.2).putAll entries :=
  rfl

theorem putAll_append (table : Table κ ν) (entries others : List (κ × ν)) :
    table.putAll (entries ++ others) = (table.putAll entries).putAll others :=
  List.foldl_append

/-- An entry under a new key is added to the others. -/
theorem perm_put {table : Table κ ν} {key : κ} (value : ν) (fresh : key ∉ table.map Prod.fst) :
    (table.put key value).Perm ((key, value) :: table) := by
  induction table with
  | nil => exact .refl _
  | cons entry rest ih =>
    obtain ⟨other, held⟩ := entry
    rw [List.map_cons, List.mem_cons, not_or] at fresh
    unfold put
    split
    · exact .refl _
    · rw [if_neg fresh.1]
      exact ((ih fresh.2).cons _).trans (.swap _ _ _)

/-- So are entries under new keys. -/
theorem perm_putAll {table : Table κ ν} {entries : List (κ × ν)}
    (distinct : ((table ++ entries).map Prod.fst).Nodup) :
    (table.putAll entries).Perm (table ++ entries) := by
  induction entries generalizing table with
  | nil => simp [putAll]
  | cons entry entries ih =>
    have fresh : entry.1 ∉ table.map Prod.fst := by
      rw [List.map_append, List.map_cons] at distinct
      exact fun held => (List.nodup_append.1 distinct).2.2 _ held _ List.mem_cons_self rfl
    have moved : (table.put entry.1 entry.2 ++ entries).Perm (table ++ entry :: entries) :=
      ((perm_put entry.2 fresh).append_right entries).trans List.perm_middle.symm
    rw [putAll_cons]
    exact (ih ((moved.map Prod.fst).nodup_iff.2 distinct)).trans moved

theorem get?_put (table : Table κ ν) (key other : κ) (value : ν) :
    (table.put key value).get? other =
      (if key = other then some value else none).or (table.get? other) := by
  by_cases same : key = other
  · subst same
    rw [if_pos rfl, Option.some_or, get?_put_self]
  · rw [if_neg same, Option.none_or, get?_put_of_ne table value same]

/-- Entries under other keys are kept. -/
theorem get?_putAll_of_not_mem {table : Table κ ν} {entries : List (κ × ν)} {key : κ}
    (absent : key ∉ entries.map Prod.fst) : (table.putAll entries).get? key = table.get? key := by
  induction entries generalizing table with
  | nil => rfl
  | cons entry entries ih =>
    rw [List.map_cons, List.mem_cons, not_or] at absent
    rw [putAll_cons, ih absent.2]
    exact get?_put_of_ne table entry.2 (Ne.symm absent.1)

omit [LT κ] [DecidableLT κ] in
/-- Where no key occurs twice, the value under a key is the one listed with it. -/
theorem get?_eq_some_iff {table : Table κ ν} (distinct : (table.map Prod.fst).Nodup) {key : κ}
    {value : ν} : table.get? key = some value ↔ (key, value) ∈ table := by
  unfold get?
  rw [Option.map_eq_some_iff]
  constructor
  · rintro ⟨⟨other, held⟩, found, rfl⟩
    have same : other = key := by simpa using List.find?_some found
    exact same ▸ List.mem_of_find?_eq_some found
  · intro member
    induction table with
    | nil => cases member
    | cons entry rest ih =>
      rw [List.map_cons, List.nodup_cons] at distinct
      rcases List.mem_cons.1 member with rfl | later
      · exact ⟨_, List.find?_cons_of_pos (decide_eq_true rfl), rfl⟩
      · have other : ¬ entry.1 = key := fun same =>
          distinct.1 (same ▸ List.mem_map_of_mem (f := Prod.fst) later)
        rw [List.find?_cons_of_neg (by simpa using other)]
        exact ih distinct.2 later

/-! ## The order of the keys -/

/-- Are the keys in their order, each once? -/
def Ascending (table : Table κ ν) : Prop :=
  table.Pairwise fun entry later => entry.1 < later.1

instance (table : Table κ ν) : Decidable table.Ascending :=
  inferInstanceAs (Decidable (table.Pairwise fun entry later => entry.1 < later.1))

theorem mem_of_mem_put {table : Table κ ν} {key : κ} {value : ν} {entry : κ × ν}
    (member : entry ∈ table.put key value) : entry = (key, value) ∨ entry ∈ table := by
  induction table with
  | nil => exact Or.inl (List.mem_singleton.1 member)
  | cons first rest ih =>
    obtain ⟨other, held⟩ := first
    unfold put at member
    split at member
    · exact List.mem_cons.1 member
    · split at member
      · exact (List.mem_cons.1 member).imp_right (List.mem_cons_of_mem _)
      · rcases List.mem_cons.1 member with rfl | later
        · exact Or.inr List.mem_cons_self
        · exact (ih later).imp_right (List.mem_cons_of_mem _)

theorem mem_of_mem_putAll {table : Table κ ν} {entries : List (κ × ν)} {entry : κ × ν}
    (member : entry ∈ table.putAll entries) : entry ∈ table ∨ entry ∈ entries := by
  induction entries generalizing table with
  | nil => exact Or.inl member
  | cons first entries ih =>
    rw [putAll_cons] at member
    rcases ih member with put | later
    · rcases mem_of_mem_put put with rfl | held
      · exact Or.inr List.mem_cons_self
      · exact Or.inl held
    · exact Or.inr (List.mem_cons_of_mem _ later)

section Order

variable [IsStrictTotalOrder κ (· < ·)]

theorem Ascending.put {table : Table κ ν} (ascending : table.Ascending) (key : κ) (value : ν) :
    (table.put key value).Ascending := by
  induction table with
  | nil => exact List.pairwise_singleton _ _
  | cons first rest ih =>
    obtain ⟨other, held⟩ := first
    rcases List.pairwise_cons.1 ascending with ⟨before, later⟩
    unfold Table.put
    split
    · next less =>
      refine List.pairwise_cons.2 ⟨fun entry member => ?_, ascending⟩
      rcases List.mem_cons.1 member with rfl | member
      · exact less
      · exact trans_of (· < ·) less (before entry member)
    · split
      · next same =>
        subst same
        exact List.pairwise_cons.2 ⟨before, later⟩
      · next notLess differs =>
        refine List.pairwise_cons.2 ⟨fun entry member => ?_, ih later⟩
        rcases mem_of_mem_put member with rfl | member
        · rcases trichotomous_of (· < ·) key other with less | same | greater
          · exact absurd less notLess
          · exact absurd same differs
          · exact greater
        · exact before entry member

theorem Ascending.putAll {table : Table κ ν} (ascending : table.Ascending)
    (entries : List (κ × ν)) : (table.putAll entries).Ascending := by
  induction entries generalizing table with
  | nil => exact ascending
  | cons entry entries ih => exact ih (ascending.put entry.1 entry.2)

/-- A table made from entries has its keys in their order. -/
theorem ascending_ofEntries (entries : List (κ × ν)) : (ofEntries entries).Ascending :=
  Ascending.putAll List.Pairwise.nil entries

/-- An entry whose key comes after all others is put at the end. -/
theorem put_of_last {table : Table κ ν} {key : κ} (value : ν)
    (last : ∀ entry ∈ table, entry.1 < key) : table.put key value = table ++ [(key, value)] := by
  induction table with
  | nil => rfl
  | cons first rest ih =>
    obtain ⟨other, held⟩ := first
    rw [List.forall_mem_cons] at last
    have notLess : ¬ key < other := asymm_of (· < ·) last.1
    have differs : ¬ key = other := fun same => irrefl_of (· < ·) key (same ▸ last.1)
    rw [put, if_neg notLess, if_neg differs, ih last.2]
    rfl

theorem Ascending.putAll_eq {table : Table κ ν} {entries : List (κ × ν)}
    (ascending : Ascending (table ++ entries)) : table.putAll entries = table ++ entries := by
  induction entries generalizing table with
  | nil => exact (List.append_nil table).symm
  | cons entry entries ih =>
    have last : ∀ earlier ∈ table, earlier.1 < entry.1 := fun earlier member =>
      (List.pairwise_append.1 ascending).2.2 earlier member entry List.mem_cons_self
    have moved : Ascending ((table ++ [entry]) ++ entries) := by
      rwa [List.append_assoc, List.singleton_append]
    rw [putAll_cons, put_of_last entry.2 last, ih moved, List.append_assoc, List.singleton_append]

/-- A table whose keys are in their order is made from its own entries. -/
theorem Ascending.ofEntries_eq {table : Table κ ν} (ascending : table.Ascending) :
    ofEntries table = table := by
  have whole : Ascending ([] ++ table) := ascending
  exact whole.putAll_eq

end Order

end Table
end Mosaic
