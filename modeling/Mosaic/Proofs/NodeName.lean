import Mathlib.Data.List.Nodup
import Mosaic.NodeName

/-!
# The names a pool gives out

The name of a split is read in one way only.  Its labels stand in the order of their
code points, so no label can be taken for the mark before a number: the mark is
greater than any digit after it.  Hence the splits over some labels are numbered
without gaps, whatever else is named in between, and a name tells its labels and its
number.  Nothing is assumed about the labels, which may be digits or the mark.
-/

namespace Mosaic
namespace NodeName

variable {labels others : List Char}

/-! ## Labels in order -/

theorem sorted_perm (labels : List Char) : (sorted labels).Perm labels :=
  List.mergeSort_perm _ _

theorem pairwise_sorted (labels : List Char) : (sorted labels).Pairwise (· ≤ ·) := by
  have ordered : (sorted labels).Pairwise fun one other => decide (one ≤ other) = true := by
    apply List.pairwise_mergeSort
    · intro one two three first second
      rw [decide_eq_true_eq] at first second ⊢
      exact Char.le_trans first second
    · intro one two
      rw [Bool.or_eq_true, decide_eq_true_eq, decide_eq_true_eq]
      exact Char.le_total one two
  exact ordered.imp of_decide_eq_true

theorem pairwise_lt_sorted (distinct : labels.Nodup) : (sorted labels).Pairwise (· < ·) := by
  have apart : (sorted labels).Pairwise (· ≠ ·) := (sorted_perm labels).nodup_iff.2 distinct
  exact (pairwise_sorted labels).imp₂ (fun one other => Std.lt_of_le_of_ne) apart

/-- The order does not depend on how the labels are listed. -/
theorem sorted_eq_of_perm (same : labels.Perm others) : sorted labels = sorted others := by
  apply List.Perm.eq_of_pairwise _ (pairwise_sorted labels) (pairwise_sorted others)
  · exact ((sorted_perm labels).trans same).trans (sorted_perm others).symm
  · exact fun one other _ _ => Char.le_antisymm

theorem ofLabels_eq_iff : ofLabels labels = ofLabels others ↔ sorted labels = sorted others := by
  rw [ofLabels, ofLabels, String.append_right_inj, String.ofList_inj]

/-- Numbers are left out of the first names. -/
theorem numbered_succ (base : String) (number : Nat) : numbered base (number + 1) =
    base ++ if number + 1 = 1 then "" else "_" ++ toString (number + 1) := by
  cases number with
  | zero => exact (String.append_empty).symm
  | succ number => exact String.append_assoc

/-! ## Reading a name -/

theorem toList_ofLabels (labels : List Char) :
    (ofLabels labels).toList = ['g', 's', '_'] ++ sorted labels := by
  simp [ofLabels]

theorem ofLeaf_ne_numbered (label : Char) (labels : List Char) (number : Nat) :
    ofLeaf label ≠ numbered (ofLabels labels) number := by
  intro same
  have first := congrArg (fun name => name.toList.head?) same
  rw [toList_numbered, toList_ofLabels] at first
  simp [ofLeaf] at first

theorem ofLeaf_injective {label other : Char} (same : ofLeaf label = ofLeaf other) :
    label = other := by
  have read := congrArg label? same
  rw [label?_ofLeaf, label?_ofLeaf] at read
  exact Option.some.inj read

/-- The names that a label is read off are those of leaves. -/
theorem label?_eq_some_iff {name : String} {label : Char} :
    label? name = some label ↔ name = ofLeaf label := by
  constructor
  · intro read
    unfold label? at read
    split at read
    · next found spelled =>
      cases read
      rw [← String.toList_inj, spelled, ofLeaf, String.toList_append, Char.toString,
        String.toList_singleton]
      rfl
    · cases read
  · rintro rfl
    exact label?_ofLeaf label

private theorem mark_not_mem_digits (number : Nat) : '_' ∉ Nat.toDigits 10 number := by
  intro member
  have digit := Nat.isDigit_of_mem_toDigits (by decide) (by decide) member
  exact absurd digit (by decide)

/-- Labels in order do not end in a mark with a number. -/
private theorem sorted_ne_append_number (labels front : List Char) (number : Nat) :
    sorted labels ≠ front ++ '_' :: Nat.toDigits 10 number := by
  intro same
  have ordered := pairwise_sorted labels
  rw [same, List.pairwise_append, List.pairwise_cons] at ordered
  rcases List.exists_mem_of_ne_nil _ (Nat.toDigits_ne_nil (n := number) (b := 10)) with
    ⟨digit, member⟩
  have digits := Nat.isDigit_of_mem_toDigits (by decide) (by decide) member
  rw [Char.isDigit, Bool.and_eq_true, decide_eq_true_eq, decide_eq_true_eq] at digits
  exact absurd (Char.le_trans (ordered.2.1.1 digit member) digits.2) (by decide)

/-- What stands before the last mark and after it is read in one way. -/
private theorem append_mark_inj {front back tail rest : List Char} (pure : '_' ∉ tail)
    (otherPure : '_' ∉ rest) (same : front ++ '_' :: tail = back ++ '_' :: rest) :
    front = back := by
  rcases List.append_eq_append_iff.1 same with ⟨between, split, shift⟩ | ⟨between, split, shift⟩
  · cases between with
    | nil => rw [split, List.append_nil]
    | cons mark between =>
      cases shift
      exact absurd (List.mem_append_right _ List.mem_cons_self) pure
  · cases between with
    | nil => rw [split, List.append_nil]
    | cons mark between =>
      cases shift
      exact absurd (List.mem_append_right _ List.mem_cons_self) otherPure

/-- A numbered name tells its labels and its number. -/
theorem numbered_ofLabels_inj {number place : Nat} (first : 1 ≤ number) (second : 1 ≤ place)
    (same : numbered (ofLabels labels) number = numbered (ofLabels others) place) :
    ofLabels labels = ofLabels others ∧ number = place := by
  have spelled := congrArg String.toList same
  rw [toList_numbered, toList_numbered, toList_ofLabels, toList_ofLabels, List.append_assoc,
    List.append_assoc] at spelled
  have tails := List.append_cancel_left spelled
  have labelled : ofLabels labels = ofLabels others := by
    rw [ofLabels_eq_iff]
    by_cases small : number ≤ 1 <;> by_cases otherSmall : place ≤ 1
    · simpa only [small, otherSmall, if_true, List.append_nil] using tails
    · simp only [small, otherSmall, if_true, if_false, List.append_nil] at tails
      exact absurd tails (sorted_ne_append_number _ _ _)
    · simp only [small, otherSmall, if_true, if_false, List.append_nil] at tails
      exact absurd tails.symm (sorted_ne_append_number _ _ _)
    · simp only [small, otherSmall, if_false] at tails
      exact append_mark_inj (mark_not_mem_digits number) (mark_not_mem_digits place) tails
  rw [labelled] at same
  exact ⟨labelled, numbered_injective first second same⟩

/-- The first number that is not taken is found. -/
theorem firstFree_eq {base : String} {attempt number : Nat} {taken : List String}
    (first : 1 ≤ attempt) (reached : attempt ≤ number)
    (before : ∀ place, attempt ≤ place → place < number → numbered base place ∈ taken)
    (free : numbered base number ∉ taken) :
    firstFree base attempt taken = numbered base number := by
  fun_induction firstFree base attempt taken with
  | case1 attempt taken found ih =>
    have further : attempt ≠ number := by
      rintro rfl
      exact free found
    apply ih (Nat.le_succ_of_le first) (Nat.lt_of_le_of_ne reached further)
    · intro place above below
      apply (List.mem_erase_of_ne _).2 (before place (Nat.le_of_succ_le above) below)
      intro same
      have := numbered_injective (by omega) first same
      omega
    · exact fun member => free (List.mem_of_mem_erase member)
  | case2 attempt taken found =>
    rcases Nat.lt_or_eq_of_le reached with below | rfl
    · exact absurd (before attempt (Nat.le_refl _) below) found
    · rfl

end NodeName

/-! ## Several names -/

inductive NameRequest where
  | leaf (label : Char)
  | split (labels : List Char)

/-- The name that is given where nothing was named before. -/
def NameRequest.base : NameRequest → String
  | leaf label => NodeName.ofLeaf label
  | split labels => NodeName.ofLabels labels

def NameRequest.label? : NameRequest → Option Char
  | leaf label => some label
  | split _ => none

/-- Is a split over these labels named, in whatever order they are listed? -/
def NameRequest.isSplitOver (labels : List Char) : NameRequest → Bool
  | leaf _ => false
  | split others => decide (others.Perm labels)

namespace NamePool

open NodeName

variable {pool : NamePool} {bases : List String}

/-- Name one thing. -/
def name (pool : NamePool) : NameRequest → String × NamePool
  | .leaf label => pool.leaf label
  | .split labels => pool.split labels

/-- Name several things, one after the other. -/
def nameAll (pool : NamePool) : List NameRequest → List String × NamePool
  | [] => ([], pool)
  | request :: requests =>
    let later := (pool.name request).2.nameAll requests
    ((pool.name request).1 :: later.1, later.2)

theorem split_eq_of_perm (pool : NamePool) {labels others : List Char}
    (same : labels.Perm others) : pool.split labels = pool.split others := by
  rw [split, split, ofLabels_eq_iff.2 (sorted_eq_of_perm same)]

theorem nameAll_append (pool : NamePool) (earlier later : List NameRequest) :
    pool.nameAll (earlier ++ later) =
      ((pool.nameAll earlier).1 ++ ((pool.nameAll earlier).2.nameAll later).1,
        ((pool.nameAll earlier).2.nameAll later).2) := by
  induction earlier generalizing pool with
  | nil => rfl
  | cons request requests ih =>
    rw [List.cons_append, nameAll, ih]
    rfl

theorem length_nameAll (pool : NamePool) (requests : List NameRequest) :
    (pool.nameAll requests).1.length = requests.length := by
  induction requests generalizing pool with
  | nil => rfl
  | cons request requests ih => rw [nameAll, List.length_cons, List.length_cons, ih]

theorem issued_name (pool : NamePool) (request : NameRequest) :
    (pool.name request).2.issued = (pool.name request).1 :: pool.issued := by
  cases request <;> rfl

theorem issued_nameAll (pool : NamePool) (requests : List NameRequest) :
    (pool.nameAll requests).2.issued = (pool.nameAll requests).1.reverse ++ pool.issued := by
  induction requests generalizing pool with
  | nil => rfl
  | cons request requests ih =>
    rw [nameAll, ih, issued_name, List.reverse_cons, List.append_assoc, List.singleton_append]

/-! ## Numbers -/

/-- Of each split name the pool has given out as many numbers, from one on, as there
are requests for it. -/
def Counts (pool : NamePool) (bases : List String) : Prop :=
  ∀ labels number, 1 ≤ number →
    (numbered (ofLabels labels) number ∈ pool.issued ↔ number ≤ bases.count (ofLabels labels))

theorem counts_empty : empty.Counts [] := by
  intro labels number first
  rw [List.count_nil, empty]
  exact iff_of_false List.not_mem_nil (Nat.not_le_of_lt first)

/-- The next split over some labels has the next number. -/
theorem Counts.split_eq (counts : pool.Counts bases) (labels : List Char) :
    (pool.split labels).1 = numbered (ofLabels labels) (bases.count (ofLabels labels) + 1) := by
  apply firstFree_eq (Nat.le_refl 1) (Nat.succ_le_succ (Nat.zero_le _))
  · intro place first below
    exact (counts labels place first).2 (Nat.le_of_lt_succ below)
  · intro member
    have := (counts labels _ (Nat.succ_le_succ (Nat.zero_le _))).1 member
    omega

/-- Naming one more thing counts it. -/
theorem Counts.name (counts : pool.Counts bases) (request : NameRequest) :
    (pool.name request).2.Counts (request.base :: bases) := by
  intro labels number first
  rw [issued_name, List.mem_cons, counts labels number first]
  cases request with
  | leaf label =>
    have different : NodeName.ofLeaf label ≠ ofLabels labels := ofLeaf_ne_numbered label labels 1
    rw [NameRequest.base, List.count_cons_of_ne different]
    exact or_iff_right (ofLeaf_ne_numbered label labels number).symm
  | split others =>
    change numbered (ofLabels labels) number = (pool.split others).1 ∨ _ ↔ _
    rw [counts.split_eq others, NameRequest.base]
    by_cases same : ofLabels others = ofLabels labels
    · rw [same, List.count_cons_self, Nat.le_add_one_iff, Or.comm]
      apply or_congr_right
      constructor
      · exact fun own => (numbered_ofLabels_inj first (Nat.succ_pos _) own).2
      · exact fun last => congrArg _ last
    · rw [List.count_cons_of_ne same]
      apply or_iff_right
      exact fun own => same (numbered_ofLabels_inj first (Nat.succ_pos _) own).1.symm

theorem Counts.nameAll (counts : pool.Counts bases) (requests : List NameRequest) :
    (pool.nameAll requests).2.Counts ((requests.map NameRequest.base).reverse ++ bases) := by
  induction requests generalizing pool bases with
  | nil => exact counts
  | cons request requests ih =>
    rw [List.map_cons, List.reverse_cons, List.append_assoc, List.singleton_append]
    exact ih (counts.name request)

/-- A split is numbered by how often its labels were named before. -/
theorem split_after (earlier : List NameRequest) (labels : List Char) :
    ((empty.nameAll earlier).2.split labels).1 = numbered (ofLabels labels)
      ((earlier.map NameRequest.base).count (ofLabels labels) + 1) := by
  rw [(counts_empty.nameAll earlier).split_eq, List.append_nil, List.count_reverse]

/-! ## No name twice -/

/-- Names that are not given out again keep the pool free of repetition. -/
private theorem nodup_issued_nameAll {requests : List NameRequest} (unused : pool.issued.Nodup)
    (free : ∀ label ∈ requests.filterMap NameRequest.label?, NodeName.ofLeaf label ∉ pool.issued)
    (distinct : (requests.filterMap NameRequest.label?).Nodup) :
    (pool.nameAll requests).2.issued.Nodup := by
  induction requests generalizing pool with
  | nil => exact unused
  | cons request requests ih =>
    cases request with
    | leaf label =>
      simp only [List.filterMap_cons, NameRequest.label?, List.forall_mem_cons,
        List.nodup_cons] at free distinct
      apply ih (List.nodup_cons.2 ⟨free.1, unused⟩) _ distinct.2
      intro other listed member
      rcases List.mem_cons.1 member with same | before
      · exact distinct.1 (ofLeaf_injective same ▸ listed)
      · exact free.2 other listed before
    | split labels =>
      simp only [List.filterMap_cons, NameRequest.label?] at free distinct
      apply ih (List.nodup_cons.2 ⟨pool.split_not_mem labels, unused⟩) _ distinct
      intro other listed member
      rcases List.mem_cons.1 member with same | before
      · rcases firstFree_numbered (ofLabels labels) 1 pool.issued with ⟨number, -, -, spelled⟩
        exact ofLeaf_ne_numbered other labels number (same.trans spelled)
      · exact free other listed before

theorem nodup_nameAll {requests : List NameRequest}
    (distinct : (requests.filterMap NameRequest.label?).Nodup) :
    (empty.nameAll requests).1.Nodup := by
  have issued : (empty.nameAll requests).2.issued.Nodup :=
    nodup_issued_nameAll List.nodup_nil (fun _ _ => List.not_mem_nil) distinct
  rw [issued_nameAll] at issued
  exact List.nodup_reverse.1 (List.nodup_append.1 issued).1

/-! ## What a run gives out -/

/-- The first names do not depend on what is asked for later. -/
theorem take_nameAll (pool : NamePool) (requests : List NameRequest) (count : Nat) :
    (pool.nameAll (requests.take count)).1 = (pool.nameAll requests).1.take count := by
  induction requests generalizing pool count with
  | nil => rw [List.take_nil, nameAll, List.take_nil]
  | cons request requests ih =>
    cases count with
    | zero => rfl
    | succ count => rw [List.take_succ_cons, nameAll, nameAll, List.take_succ_cons, ih]

/-- Each name is given out by the pool that the requests before it have left. -/
theorem getElem?_nameAll (pool : NamePool) {requests : List NameRequest} {index : Nat}
    {request : NameRequest} (asked : requests[index]? = some request) :
    (pool.nameAll requests).1[index]? =
      some ((pool.nameAll (requests.take index)).2.name request).1 := by
  induction requests generalizing pool index with
  | nil => cases asked
  | cons other requests ih =>
    cases index with
    | zero =>
      cases asked
      rfl
    | succ index => exact ih (pool.name other).2 asked

/-- A split does not get a name that was given out before. -/
theorem split_ne_earlier {requests : List NameRequest} {earlier index : Nat} {labels : List Char}
    (before : earlier < index) (asked : requests[index]? = some (.split labels)) :
    (empty.nameAll requests).1[earlier]? ≠ (empty.nameAll requests).1[index]? := by
  rw [getElem?_nameAll empty asked]
  intro same
  have given : (empty.nameAll (requests.take index)).1[earlier]? =
      some ((empty.nameAll (requests.take index)).2.split labels).1 := by
    rw [take_nameAll, List.getElem?_take_of_lt before]
    exact same
  apply split_not_mem (empty.nameAll (requests.take index)).2 labels
  rw [issued_nameAll, List.mem_append, List.mem_reverse]
  exact Or.inl (List.mem_of_getElem? given)

/-- A split over the same labels has the same name before numbers are given. -/
theorem base_eq_ofLabels_iff (request : NameRequest) (labels : List Char) :
    request.base = ofLabels labels ↔ request.isSplitOver labels = true := by
  cases request with
  | leaf label => exact iff_of_false (ofLeaf_ne_numbered label labels 1) Bool.false_ne_true
  | split others =>
    rw [NameRequest.base, NameRequest.isSplitOver, decide_eq_true_eq, ofLabels_eq_iff]
    constructor
    · exact fun same => (sorted_perm others).symm.trans (same ▸ sorted_perm labels)
    · exact sorted_eq_of_perm

theorem count_base (requests : List NameRequest) (labels : List Char) :
    (requests.map NameRequest.base).count (ofLabels labels) =
      requests.countP (NameRequest.isSplitOver labels) := by
  rw [List.count_eq_countP, List.countP_map]
  refine List.countP_congr fun request _ => ?_
  rw [Function.comp_apply, beq_iff_eq]
  exact base_eq_ofLabels_iff request labels

/-- A split is one more over its labels. -/
theorem countP_take_succ {requests : List NameRequest} {index : Nat} {labels : List Char}
    (asked : requests[index]? = some (.split labels)) :
    (requests.take (index + 1)).countP (NameRequest.isSplitOver labels) =
      (requests.take index).countP (NameRequest.isSplitOver labels) + 1 := by
  have own : NameRequest.isSplitOver labels (.split labels) = true := decide_eq_true (.refl labels)
  rw [List.take_add_one, asked, Option.toList_some, List.countP_append, List.countP_singleton,
    if_pos own]

/-- The name of a split has the number of splits over its labels up to itself. -/
theorem getElem?_nameAll_split {requests : List NameRequest} {index : Nat} {labels : List Char}
    (asked : requests[index]? = some (.split labels)) :
    (empty.nameAll requests).1[index]? = some (numbered (ofLabels labels)
      ((requests.take (index + 1)).countP (NameRequest.isSplitOver labels))) := by
  rw [getElem?_nameAll empty asked, name, split_after, count_base, countP_take_succ asked]

/-- Names of splits and leaves as a pool gives them out, one for each request.  The name of a
split tells its labels in order; from the second split over them on it has a number.  So no two
splits share a name, and none has the name of a leaf, whatever labels are named and in which
order. -/
theorem nameAll_numbers_splits (requests : List NameRequest) :
    (∀ (index : Nat) (labels : List Char), requests[index]? = some (.split labels) →
      ∃ (ordered : List Char) (number : Nat), ordered.Perm labels ∧ ordered.Pairwise (· ≤ ·) ∧
        number = (requests.take (index + 1)).countP (NameRequest.isSplitOver labels) ∧
          (empty.nameAll requests).1[index]? = some ("gs_" ++ String.ofList ordered ++
            if number = 1 then "" else "_" ++ toString number)) ∧
      (∀ (index other : Nat) (labels others : List Char), index ≠ other →
        requests[index]? = some (.split labels) → requests[other]? = some (.split others) →
          (empty.nameAll requests).1[index]? ≠ (empty.nameAll requests).1[other]?) ∧
      (∀ (index other : Nat) (labels : List Char) (label : Char),
        requests[index]? = some (.split labels) → requests[other]? = some (.leaf label) →
          (empty.nameAll requests).1[index]? ≠ (empty.nameAll requests).1[other]?) ∧
      (∀ (pool : NamePool) (label : Char) (id : String),
        label? id = some label ↔ id = (pool.leaf label).1) ∧
      ∀ (index : Nat) (labels : List Char) (id : String),
        requests[index]? = some (.split labels) → (empty.nameAll requests).1[index]? = some id →
          label? id = none := by
  refine ⟨fun index labels asked => ?_, fun index other labels others different asked otherAsked =>
    ?_, fun index other labels label asked otherAsked => ?_, fun pool label id =>
      label?_eq_some_iff, fun index labels id asked given => ?_⟩
  · refine ⟨sorted labels, _, sorted_perm labels, pairwise_sorted labels, rfl, ?_⟩
    rw [getElem?_nameAll_split asked, countP_take_succ asked, numbered_succ, ofLabels]
  · rcases Nat.lt_or_gt_of_ne different with before | after
    · exact split_ne_earlier before otherAsked
    · exact (split_ne_earlier after asked).symm
  · rw [getElem?_nameAll_split asked, getElem?_nameAll empty otherAsked]
    intro same
    exact ofLeaf_ne_numbered label labels _ (Option.some.inj same).symm
  · rw [getElem?_nameAll_split asked] at given
    cases given
    rw [← Option.not_isSome_iff_eq_none, Option.isSome_iff_exists]
    rintro ⟨label, read⟩
    exact ofLeaf_ne_numbered label labels _ (label?_eq_some_iff.1 read).symm

example : (empty.nameAll [.split ['b', 'a'], .leaf 'a', .split ['2', '_'], .split ['a', 'b']]).1 =
    ["gs_ab", "ax_a", "gs_2_", "gs_ab_2"] := by
  cbv

end NamePool
end Mosaic
