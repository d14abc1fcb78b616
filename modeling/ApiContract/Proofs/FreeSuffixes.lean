import Mathlib.Data.Nat.Nth
import ApiContract.Proofs.Filing
import ApiContract.Proofs.UniqueIds
/-!
# Which suffix a repeated identifier gets

The identifiers of operations are made distinct in one pass, which searches the least suffix that is
not taken again for every repetition, while more and more identifiers are taken. What comes of it
can be said without the pass. A number is free for an identifier if no operation had the identifier
with this number to begin with; the first operation of an identifier keeps it, and each further one
takes the next free number.

* `freeSuffix` : the free numbers of an identifier, in increasing order.
* `settledId` : the identifier that an operation has in the end, from the identifiers before it.
* `IsGiven`, `IsProgress` : which identifiers are new, and what the pass knows at a place.
* `getElem?_uniqueIds` : the pass gives every operation this identifier.
* `freeSuffix_lt` : no search goes further than there are operations.
* `renaming_in_closed_form` : the statement for lists of operations.
-/

namespace ApiContract

/-! ## Free numbers -/

/-- A number is free for an identifier: it is positive, and no identifier of a list is the identifier
with this number behind it. -/
def IsFreeSuffix (ids : List String) (id : String) (k : Nat) : Prop :=
  0 < k ∧ suffixed id k ∉ ids

instance (ids : List String) (id : String) : DecidablePred (IsFreeSuffix ids id) := fun _ =>
  inferInstanceAs (Decidable (_ ∧ _))

/-- The free numbers of an identifier in increasing order, counted from zero. -/
noncomputable def freeSuffix (ids : List String) (id : String) (j : Nat) : Nat :=
  Nat.nth (IsFreeSuffix ids id) j

/-- The identifier that an operation has in the end, if `before` are the identifiers of the
operations before it and `ids` those of all operations. -/
noncomputable def settledId (ids before : List String) (id : String) : String :=
  if id ∈ before then suffixed id (freeSuffix ids id (before.count id - 1)) else id

variable {ids before taken seen : List String} {id : String}

theorem infinite_isFreeSuffix (ids : List String) (id : String) :
    (Set.ofPred (IsFreeSuffix ids id)).Infinite := by
  have htaken : (Set.preimage (suffixed id) {x | x ∈ ids}).Finite :=
    ids.finite_toSet.preimage fun _ _ _ _ h => suffixed_injective h
  apply Set.infinite_of_finite_compl
  refine (htaken.insert 0).subset ?_
  intro k hk
  by_cases hzero : k = 0
  · exact Or.inl hzero
  · have hmem : suffixed id k ∈ ids := by
      by_contra hfree
      exact hk ⟨Nat.pos_of_ne_zero hzero, hfree⟩
    exact Or.inr hmem

theorem isFreeSuffix_freeSuffix (ids : List String) (id : String) (j : Nat) :
    IsFreeSuffix ids id (freeSuffix ids id j) :=
  Nat.nth_mem_of_infinite (infinite_isFreeSuffix ids id) j

theorem freeSuffix_inj {j j' : Nat} : freeSuffix ids id j = freeSuffix ids id j' ↔ j = j' :=
  (Nat.nth_injective (infinite_isFreeSuffix ids id)).eq_iff

theorem freeSuffix_lt_iff {j j' : Nat} : freeSuffix ids id j < freeSuffix ids id j' ↔ j < j' :=
  Nat.nth_lt_nth (infinite_isFreeSuffix ids id)

/-- A free number is the next one if all free numbers below it are among the first ones, and it is
none of these. -/
theorem eq_freeSuffix {k n : Nat} (hk : IsFreeSuffix ids id k)
    (hnew : ∀ j < n, k ≠ freeSuffix ids id j)
    (hbelow : ∀ j, freeSuffix ids id j < k → j < n) : k = freeSuffix ids id n := by
  have hcount : freeSuffix ids id (Nat.count (IsFreeSuffix ids id) k) = k := Nat.nth_count hk
  have hle : n ≤ Nat.count (IsFreeSuffix ids id) k := by
    by_contra hlt
    exact hnew _ (Nat.lt_of_not_le hlt) hcount.symm
  have hge : Nat.count (IsFreeSuffix ids id) k ≤ n := by
    by_contra hlt
    have hnext : freeSuffix ids id n < k := by
      rw [← hcount]
      exact freeSuffix_lt_iff.2 (Nat.lt_of_not_le hlt)
    exact absurd (hbelow n hnext) (Nat.lt_irrefl n)
  rw [← hcount, Nat.le_antisymm hge hle]

theorem suffixed_ne_self (id : String) (k : Nat) : suffixed id k ≠ id := by
  intro h
  have hlength := congrArg String.length h
  have hmark : "_".length = 1 := rfl
  rw [suffixed, String.length_append, String.length_append] at hlength
  omega

/-- A number below a limit is zero, free, or behind an identifier that is there. -/
theorem le_count_add_length (ids : List String) (id : String) (k : Nat) :
    k ≤ Nat.count (IsFreeSuffix ids id) k +
      ((List.range k).filter fun m => suffixed id m ∈ ids).length + 1 := by
  induction k with
  | zero => omega
  | succ k ih =>
    rw [Nat.count_succ, List.range_succ, List.filter_append, List.length_append]
    by_cases hmem : suffixed id k ∈ ids
    · have hone : ([k].filter fun m => suffixed id m ∈ ids).length = 1 := by simp [hmem]
      omega
    · by_cases hzero : k = 0
      · omega
      · have hfree : IsFreeSuffix ids id k := ⟨Nat.pos_of_ne_zero hzero, hmem⟩
        rw [if_pos hfree]
        omega

/-- A number that is not free is behind the identifier of another operation, so no number that is
given is as great as the number of operations. -/
theorem freeSuffix_lt {j : Nat} (h : j + 2 ≤ ids.count id) :
    freeSuffix ids id j < ids.length := by
  have hcount : Nat.count (IsFreeSuffix ids id) (freeSuffix ids id j) = j :=
    Nat.count_nth_of_infinite (infinite_isFreeSuffix ids id) j
  have hle := le_count_add_length ids id (freeSuffix ids id j)
  generalize freeSuffix ids id j = k at hcount hle ⊢
  -- the identifiers with taken numbers are distinct, and none of them is the identifier itself
  have hnodup : (((List.range k).filter fun m => suffixed id m ∈ ids).map (suffixed id)).Nodup :=
    (List.nodup_range.filter _).map fun _ _ heq => suffixed_injective heq
  have hsubset : ((List.range k).filter fun m => suffixed id m ∈ ids).map (suffixed id) ⊆
      ids.filter (· ≠ id) := by
    intro x hx
    obtain ⟨m, hm, rfl⟩ := List.mem_map.1 hx
    have hmem : suffixed id m ∈ ids := by simpa using (List.mem_filter.1 hm).2
    exact List.mem_filter.2 ⟨hmem, by simpa using suffixed_ne_self id m⟩
  have htaken := hnodup.length_le_of_subset hsubset
  have hothers : ids.length = ids.count id + (ids.filter (· ≠ id)).length := by
    rw [List.count, ← List.countP_eq_length_filter,
      List.length_eq_countP_add_countP (fun x => x == id)]
    simp
  rw [List.length_map] at htaken
  omega

/-! ## What the pass knows -/

/-- An identifier has been made for a repeated one among those dealt with so far. -/
def IsGiven (ids before : List String) (x : String) : Prop :=
  ∃ id j, j + 1 < before.count id ∧ x = suffixed id (freeSuffix ids id j)

/-- What is taken and what has been seen when the identifiers `before` of all `ids` have been dealt
with. -/
structure IsProgress (ids before taken seen : List String) : Prop where
  mem_taken : ∀ x, x ∈ taken ↔ x ∈ ids ∨ IsGiven ids before x
  mem_seen : ∀ x, x ∈ seen ↔ x ∈ before ∨ IsGiven ids before x

theorem IsGiven.not_mem {x : String} (h : IsGiven ids before x) : x ∉ ids := by
  obtain ⟨id, j, -, rfl⟩ := h
  exact (isFreeSuffix_freeSuffix ids id j).2

theorem not_isGiven_nil {x : String} : ¬ IsGiven ids [] x := by
  rintro ⟨id, j, hj, -⟩
  simp at hj

/-- Which identifiers with a number have been given only depends on the identifier itself. -/
theorem isGiven_suffixed_iff {k : Nat} :
    IsGiven ids before (suffixed id k) ↔
      ∃ j, j + 1 < before.count id ∧ k = freeSuffix ids id j := by
  constructor
  · rintro ⟨id', j, hj, heq⟩
    obtain ⟨rfl, rfl⟩ := suffixed_eq_iff.1 heq
    exact ⟨j, hj, rfl⟩
  · rintro ⟨j, hj, rfl⟩
    exact ⟨id, j, hj, rfl⟩

/-- One identifier more gives its next free number, if it is a repeated one. -/
theorem isGiven_concat {x : String} :
    IsGiven ids (before ++ [id]) x ↔
      IsGiven ids before x ∨ (id ∈ before ∧ x = settledId ids before id) := by
  constructor
  · rintro ⟨id', j, hj, rfl⟩
    rw [List.count_append] at hj
    by_cases hold : j + 1 < before.count id'
    · exact Or.inl ⟨id', j, hold, rfl⟩
    · have hid : id = id' := by
        by_contra hne
        simp [hne] at hj
        omega
      subst hid
      simp at hj
      have hj' : j = before.count id - 1 := by omega
      have hmem : id ∈ before := List.count_pos_iff.1 (by omega)
      exact Or.inr ⟨hmem, by rw [settledId, if_pos hmem, hj']⟩
  · rintro (⟨id', j, hj, rfl⟩ | ⟨hmem, rfl⟩)
    · refine ⟨id', j, ?_, rfl⟩
      rw [List.count_append]
      omega
    · refine ⟨id, before.count id - 1, ?_, by rw [settledId, if_pos hmem]⟩
      have hpos := List.count_pos_iff.2 hmem
      rw [List.count_append, List.count_singleton_self]
      omega

namespace IsProgress

theorem start (ids : List String) : IsProgress ids [] ids [] := by
  constructor
  · intro x
    simp [not_isGiven_nil]
  · intro x
    simp [not_isGiven_nil]

/-- An identifier has been seen exactly if an operation before has it: none of the new identifiers
is that of an operation. -/
theorem mem_seen_iff (h : IsProgress ids before taken seen) (hid : id ∈ ids) :
    id ∈ seen ↔ id ∈ before := by
  rw [h.mem_seen, or_iff_left]
  exact fun hgiven => hgiven.not_mem hid

/-- What the search finds for a repeated identifier is its next free number. -/
theorem freeId_eq (h : IsProgress ids before taken seen) (hid : id ∈ before) :
    freeId taken id = settledId ids before id := by
  obtain ⟨k, hk, hfree, hbelow⟩ := exists_freeId_eq taken id
  rw [h.mem_taken, not_or, isGiven_suffixed_iff] at hfree
  have hnext : 1 + k = freeSuffix ids id (before.count id - 1) := by
    apply eq_freeSuffix ⟨by omega, hfree.1⟩
    · intro j hj heq
      exact hfree.2 ⟨j, by omega, heq⟩
    · intro j hj
      obtain ⟨hpos, hnot⟩ := isFreeSuffix_freeSuffix ids id j
      have htaken := hbelow (freeSuffix ids id j - 1) (by omega)
      rw [Nat.add_sub_cancel' hpos, h.mem_taken, or_iff_right hnot, isGiven_suffixed_iff] at htaken
      obtain ⟨j', hj', heq⟩ := htaken
      rw [freeSuffix_inj] at heq
      omega
  rw [hk, hnext, settledId, if_pos hid]

theorem step_new (h : IsProgress ids before taken seen) (hid : id ∉ before) :
    IsProgress ids (before ++ [id]) taken (id :: seen) := by
  have hgiven : ∀ x, IsGiven ids (before ++ [id]) x ↔ IsGiven ids before x := by
    intro x
    simp [isGiven_concat, hid]
  constructor
  · intro x
    rw [h.mem_taken, hgiven]
  · intro x
    rw [List.mem_cons, h.mem_seen, hgiven, List.mem_append, List.mem_singleton]
    tauto

theorem step_repeated (h : IsProgress ids before taken seen) (hid : id ∈ before) :
    IsProgress ids (before ++ [id]) (freeId taken id :: taken) (freeId taken id :: seen) := by
  rw [h.freeId_eq hid]
  constructor
  · intro x
    rw [List.mem_cons, h.mem_taken, isGiven_concat]
    tauto
  · intro x
    rw [List.mem_cons, h.mem_seen, isGiven_concat, List.mem_append, List.mem_singleton]
    have hself : x = id → x ∈ before := fun heq => heq ▸ hid
    tauto

/-- From any place on, the pass gives each identifier the one that it is to have in the end. -/
theorem getElem?_renameRepeats (h : IsProgress ids before taken seen) (rest : List String)
    (hrest : ∀ id ∈ rest, id ∈ ids) (i : Nat) :
    (renameRepeats taken seen rest)[i]? =
      rest[i]?.map (settledId ids (before ++ rest.take i)) := by
  induction rest generalizing before taken seen i with
  | nil => rfl
  | cons id rest ih =>
    obtain ⟨hid, hrest⟩ := List.forall_mem_cons.1 hrest
    by_cases hseen : id ∈ before
    · rw [renameRepeats_cons_seen ((h.mem_seen_iff hid).2 hseen)]
      cases i with
      | zero => simp [h.freeId_eq hseen]
      | succ i =>
        have hlater := ih (h.step_repeated hseen) hrest i
        simpa [List.append_assoc] using hlater
    · rw [renameRepeats_cons_new fun hmem => hseen ((h.mem_seen_iff hid).1 hmem)]
      cases i with
      | zero => simp [settledId, hseen]
      | succ i =>
        have hlater := ih (h.step_new hseen) hrest i
        simpa [List.append_assoc] using hlater

end IsProgress

/-- The pass gives every identifier the one that follows from the identifiers before it. -/
theorem getElem?_uniqueIds (ids : List String) (i : Nat) :
    (uniqueIds ids)[i]? = ids[i]?.map (settledId ids (ids.take i)) :=
  (IsProgress.start ids).getElem?_renameRepeats ids (fun _ h => h) i

/-- The identifiers in use at a place are those of all operations and those given before. -/
theorem mem_inUse_iff (ids : List String) (i : Nat) (x : String) :
    x ∈ ids ++ (uniqueIds ids).take i ↔ x ∈ ids ∨ IsGiven ids (ids.take i) x := by
  induction i with
  | zero => simp [not_isGiven_nil]
  | succ i ih =>
    rw [List.take_add_one, List.take_add_one, getElem?_uniqueIds]
    cases hid : ids[i]? with
    | none => simpa using ih
    | some id =>
      have hmem : id ∈ ids := List.mem_of_getElem? hid
      rw [Option.map_some, Option.toList_some, Option.toList_some, ← List.append_assoc,
        List.mem_append, ih, List.mem_singleton, isGiven_concat, or_assoc]
      by_cases hbefore : id ∈ ids.take i
      · simp [hbefore]
      · -- the first operation of an identifier gives none that is new
        have hself : x = id → x ∈ ids := fun heq => heq ▸ hmem
        rw [settledId, if_neg hbefore]
        tauto

/-! ## The search -/

/-- A search for the suffix of an identifier ends at a number: it is the first one that is not
taken. -/
structure SearchEndsAt (taken : List String) (id : String) (k : Nat) : Prop where
  pos : 0 < k
  not_taken : suffixed id k ∉ taken
  taken_below : ∀ m, 0 < m → m < k → suffixed id m ∈ taken

/-- A search that is allowed enough steps finds the number at which it ends. -/
theorem freeIdFrom_eq_suffixed {n k tries : Nat} (hbelow : ∀ m < k, suffixed id (n + m) ∈ taken)
    (hfree : suffixed id (n + k) ∉ taken) (htries : k ≤ tries) :
    freeIdFrom taken id n tries = suffixed id (n + k) := by
  induction k generalizing n tries with
  | zero =>
    rw [Nat.add_zero] at hfree ⊢
    cases tries with
    | zero => rfl
    | succ tries => rw [freeIdFrom, if_neg hfree]
  | succ k ih =>
    obtain ⟨tries, rfl⟩ : ∃ m, tries = m + 1 := ⟨tries - 1, by omega⟩
    have hfirst : suffixed id n ∈ taken := hbelow 0 (by omega)
    have hshift : ∀ m, n + 1 + m = n + (m + 1) := by
      intro m
      omega
    rw [freeIdFrom, if_pos hfirst, ih, hshift]
    · intro m hm
      rw [hshift]
      exact hbelow (m + 1) (by omega)
    · rwa [hshift]
    · omega

theorem SearchEndsAt.freeIdFrom_eq {k tries : Nat} (h : SearchEndsAt taken id k)
    (htries : k ≤ tries) : freeIdFrom taken id 1 tries = suffixed id k := by
  obtain ⟨k, rfl⟩ : ∃ m, k = 1 + m := ⟨k - 1, by have := h.pos; omega⟩
  have hbelow : ∀ m < k, suffixed id (1 + m) ∈ taken := by
    intro m hm
    exact h.taken_below (1 + m) (by omega) (by omega)
  exact freeIdFrom_eq_suffixed hbelow h.not_taken (by omega)

/-- The search for a repeated identifier ends at its next free number. -/
theorem searchEndsAt_freeSuffix (ids : List String) (i : Nat) {j : Nat}
    (hj : (ids.take i).count id = j + 1) :
    SearchEndsAt (ids ++ (uniqueIds ids).take i) id (freeSuffix ids id j) := by
  obtain ⟨hpos, hfree⟩ := isFreeSuffix_freeSuffix ids id j
  refine ⟨hpos, ?_, ?_⟩
  · rw [mem_inUse_iff, or_iff_right hfree, isGiven_suffixed_iff]
    rintro ⟨j', hj', heq⟩
    rw [freeSuffix_inj] at heq
    omega
  · intro m hm hlt
    rw [mem_inUse_iff, isGiven_suffixed_iff]
    by_cases hmem : suffixed id m ∈ ids
    · exact Or.inl hmem
    · have hcount : freeSuffix ids id (Nat.count (IsFreeSuffix ids id) m) = m :=
        Nat.nth_count ⟨hm, hmem⟩
      rw [← hcount, freeSuffix_lt_iff] at hlt
      exact Or.inr ⟨_, by omega, hcount.symm⟩

/-! ## Lists of operations -/

/-- The identifiers of some operations. -/
def idsOf (operations : List Operation) : List String := operations.map (·.id)

theorem reportRenamed_self (ids : List String) : reportRenamed ids ids = pure () := by
  induction ids with
  | nil => rfl
  | cons id rest ih =>
    rw [reportRenamed, ih]
    simp

theorem withIds_self (operations : List Operation) :
    withIds operations (idsOf operations) = operations := by
  induction operations with
  | nil => rfl
  | cons o rest ih => exact congrArg (o :: ·) ih

/-- An identifier occurs once more than before its place. -/
theorem count_take_lt {i : Nat} (h : ids[i]? = some id) : (ids.take i).count id < ids.count id := by
  have hle := (List.take_sublist (i + 1) ids).count_le id
  rw [List.take_add_one, h, Option.toList_some, List.count_append,
    List.count_singleton_self] at hle
  omega

theorem uniqueIds_of_nodup (h : ids.Nodup) : uniqueIds ids = ids := by
  apply List.ext_getElem?
  intro i
  rw [getElem?_uniqueIds]
  cases hid : ids[i]? with
  | none => rfl
  | some id =>
    have hnew : id ∉ ids.take i := by
      have hone := List.nodup_iff_count_le_one.1 h id
      have hlt := count_take_lt hid
      exact List.count_eq_zero.1 (by omega)
    rw [Option.map_some, settledId, if_neg hnew]

/-- Operations whose identifiers are distinct stay as they are, and nothing is reported. -/
theorem renameOperations_of_nodup {operations : List Operation} (h : (idsOf operations).Nodup) :
    renameOperations operations = pure operations := by
  have hsame : uniqueIds (operations.map (·.id)) = operations.map (·.id) := uniqueIds_of_nodup h
  have hwith : withIds operations (operations.map (·.id)) = operations := withIds_self operations
  rw [renameOperations, hsame, reportRenamed_self, pure_bind, hwith]

/-- The operations with their new identifiers. -/
def renamed (operations : List Operation) : List Operation :=
  withIds operations (uniqueIds (idsOf operations))

theorem idsOf_renamed (operations : List Operation) :
    idsOf (renamed operations) = uniqueIds (idsOf operations) :=
  map_id_withIds (by rw [length_uniqueIds, idsOf, List.length_map])

theorem nodup_idsOf_renamed (operations : List Operation) : (idsOf (renamed operations)).Nodup := by
  rw [idsOf_renamed]
  exact nodup_uniqueIds _

section Place

variable {operations : List Operation} {i : Nat} {o : Operation}

theorem getElem?_idsOf (h : operations[i]? = some o) : (idsOf operations)[i]? = some o.id := by
  rw [idsOf, List.getElem?_map, h]
  rfl

/-- What becomes of the operation at a place. -/
theorem getElem?_renamed (h : operations[i]? = some o) :
    (renamed operations)[i]? =
      some { o with id := settledId (idsOf operations) ((idsOf operations).take i) o.id } := by
  rw [renamed, withIds, List.getElem?_zipWith, h, getElem?_uniqueIds, getElem?_idsOf h]
  rfl

/-- The first operation of an identifier keeps it. -/
theorem getElem?_renamed_of_new (h : operations[i]? = some o)
    (hnew : o.id ∉ (idsOf operations).take i) : (renamed operations)[i]? = some o := by
  rw [getElem?_renamed h, settledId, if_neg hnew]

/-- Every further operation of an identifier takes the next free number. -/
theorem getElem?_renamed_of_repeated {j : Nat} (h : operations[i]? = some o)
    (hj : ((idsOf operations).take i).count o.id = j + 1) :
    (renamed operations)[i]? =
      some { o with id := suffixed o.id (freeSuffix (idsOf operations) o.id j) } := by
  have hmem : o.id ∈ (idsOf operations).take i := List.count_pos_iff.1 (by omega)
  rw [getElem?_renamed h, settledId, if_pos hmem, hj, Nat.add_sub_cancel]

/-- The number of a repeated operation is less than the number of operations. -/
theorem freeSuffix_lt_length {j : Nat} (h : operations[i]? = some o)
    (hj : ((idsOf operations).take i).count o.id = j + 1) :
    freeSuffix (idsOf operations) o.id j < operations.length := by
  have hlt := count_take_lt (getElem?_idsOf h)
  have hbound : freeSuffix (idsOf operations) o.id j < (idsOf operations).length :=
    freeSuffix_lt (by omega)
  have hlength : (idsOf operations).length = operations.length := List.length_map _
  omega

end Place

/-- The first operation of each identifier stays as it is. The further ones take, in their order,
the numbers that are free for the identifier among the identifiers that were there to begin with;
nothing else changes in them, and no operation moves. So the search for a number ends before it has
taken as many steps as there are operations, the identifiers are distinct in the end, an operation
whose identifier was its own keeps it, a second pass changes and reports nothing, and operations in
another order get the same identifiers. -/
theorem renaming_in_closed_form (operations : List Operation) :
    ∃ out, (renameOperations operations).result = .ok out ∧ out.length = operations.length ∧
      (∀ (i : Nat) (o : Operation), operations[i]? = some o →
        o.id ∉ (idsOf operations).take i → out[i]? = some o) ∧
      (∀ (i : Nat) (o : Operation) (j : Nat), operations[i]? = some o →
        ((idsOf operations).take i).count o.id = j + 1 →
        out[i]? = some { o with id := suffixed o.id (freeSuffix (idsOf operations) o.id j) } ∧
          freeSuffix (idsOf operations) o.id j < operations.length ∧
          SearchEndsAt (idsOf operations ++ (idsOf out).take i) o.id
            (freeSuffix (idsOf operations) o.id j) ∧
          ∀ tries, operations.length ≤ tries →
            freeIdFrom (idsOf operations ++ (idsOf out).take i) o.id 1 tries =
              suffixed o.id (freeSuffix (idsOf operations) o.id j)) ∧
      (idsOf out).Nodup ∧
      (∀ (i : Nat) (o : Operation), operations[i]? = some o →
        (idsOf operations).count o.id = 1 → out[i]? = some o) ∧
      renameOperations out = pure out ∧
      ∀ operations', operations.Perm operations' →
        ∃ out', (renameOperations operations').result = .ok out' ∧
          (idsOf out).Perm (idsOf out') := by
  refine ⟨renamed operations, result_renameOperations operations, ?_, ?_, ?_,
    nodup_idsOf_renamed operations, ?_, renameOperations_of_nodup (nodup_idsOf_renamed operations),
    ?_⟩
  · rw [renamed, withIds, List.length_zipWith, length_uniqueIds, idsOf, List.length_map,
      Nat.min_self]
  · intro i o ho hnew
    exact getElem?_renamed_of_new ho hnew
  · intro i o j ho hj
    have hsteps := freeSuffix_lt_length ho hj
    have hends := searchEndsAt_freeSuffix (idsOf operations) i hj
    rw [← idsOf_renamed] at hends
    refine ⟨getElem?_renamed_of_repeated ho hj, hsteps, hends, ?_⟩
    intro tries htries
    exact hends.freeIdFrom_eq (by omega)
  · intro i o ho hone
    have hlt := count_take_lt (getElem?_idsOf ho)
    have hnew : o.id ∉ (idsOf operations).take i := List.count_eq_zero.1 (by omega)
    exact getElem?_renamed_of_new ho hnew
  · intro operations' hperm
    refine ⟨renamed operations', result_renameOperations operations', ?_⟩
    rw [idsOf_renamed, idsOf_renamed]
    exact uniqueIds_perm (hperm.map _)

/-- An operation with an identifier, and with nothing else to it. -/
def bareOperation (id : String) : Operation := { verb := .get, path := "/", id, tag := "find" }

/-- Operations of which some have identifiers that look like new ones. -/
def finders : List Operation :=
  ["find", "find", "find_1", "find_1", "find_1_1"].map bareOperation

/-- The second `find` gets the number two, since `find_1` is there already. -/
theorem renaming_in_closed_form_finders :
    finders[1]? = some (bareOperation "find") ∧
      ((idsOf finders).take 1).count "find" = 1 ∧
      ∃ out, (renameOperations finders).result = .ok out ∧
        out[1]? = some (bareOperation "find_2") ∧ out[4]? = some (bareOperation "find_1_1") ∧
        ∃ out', (renameOperations finders.reverse).result = .ok out' ∧
          (idsOf out).Perm (idsOf out') := by
  obtain ⟨out, hout, -, -, hfurther, -, hown, -, hperm⟩ := renaming_in_closed_form finders
  have hfirst : ((idsOf finders).take 1).count "find" = 1 := by decide
  have htwo : freeSuffix (idsOf finders) "find" 0 = 2 := by
    have hcount : Nat.count (IsFreeSuffix (idsOf finders) "find") 2 = 0 := by decide +kernel
    have hfree : IsFreeSuffix (idsOf finders) "find" 2 := by decide +kernel
    have hnth := Nat.nth_count hfree
    rwa [hcount] at hnth
  have hsecond := (hfurther 1 (bareOperation "find") 0 rfl hfirst).1
  have hthird := hown 4 (bareOperation "find_1_1") rfl (by decide)
  have hname : suffixed "find" 2 = "find_2" := by decide +kernel
  refine ⟨rfl, hfirst, out, hout, ?_, hthird, hperm _ (List.reverse_perm finders).symm⟩
  rw [hsecond]
  show some { bareOperation "find" with
    id := suffixed "find" (freeSuffix (idsOf finders) "find" 0) } = _
  rw [htwo, hname]
  rfl

end ApiContract
