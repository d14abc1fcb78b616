import Mathlib.Data.List.Nodup
import Mathlib.Data.List.Perm.Basic
import Mathlib.Order.Defs.Unbundled
import ApiContract.Assoc
/-!
# Laws of association lists

What look-up, insertion and construction from pairs do, beyond the lemmas that stand beside their
definitions.

* `get?_eq_some_iff` : in a table without repeated keys, look-up is membership.
* `ofPairs_eq_self` : pairs without repeated keys are their own table.
* `get?_insertSorted`, `keys_insertSorted_perm` : insertion into a table in increasing order.
* `insertSorted_perm`, `isIncreasing_insertSorted` : what it does to a table whose keys increase.
* `foldl_insertSorted_of_isIncreasing` : such a table is made of its own entries.
* `IsIncreasing.ext` : a table whose keys increase is known by what look-up finds.
* `mapValues_insert`, `mapValues_ofPairs` : changing the values keeps the keys and their order.
-/

namespace ApiContract
namespace Assoc

variable {κ ν μ : Type}

@[simp] theorem keys_nil : keys ([] : Assoc κ ν) = [] := rfl

@[simp] theorem keys_cons (p : κ × ν) (t : Assoc κ ν) : keys (p :: t) = p.1 :: keys t := rfl

@[simp] theorem values_nil : values ([] : Assoc κ ν) = [] := rfl

@[simp] theorem values_cons (p : κ × ν) (t : Assoc κ ν) : values (p :: t) = p.2 :: values t := rfl

theorem values_append (t t' : Assoc κ ν) : values (t ++ t') = values t ++ values t' := by
  simp [values]

theorem keys_append (t t' : Assoc κ ν) : keys (t ++ t') = keys t ++ keys t' := by
  simp [keys]

theorem mem_keys_of_mem {t : Assoc κ ν} {k : κ} {v : ν} (h : (k, v) ∈ t) : k ∈ t.keys :=
  List.mem_map.2 ⟨(k, v), h, rfl⟩

theorem mem_values_iff {t : Assoc κ ν} {v : ν} : v ∈ t.values ↔ ∃ k, (k, v) ∈ t := by
  simp [values]

/-! ## Look-up -/

variable [DecidableEq κ]

theorem mem_of_get? {t : Assoc κ ν} {k : κ} {v : ν} (h : t.get? k = some v) : (k, v) ∈ t := by
  induction t with
  | nil => cases h
  | cons p rest ih =>
    obtain ⟨a, b⟩ := p
    rw [get?] at h
    split at h
    · next hk =>
      cases h
      rw [hk]
      exact List.mem_cons_self ..
    · exact List.mem_cons_of_mem _ (ih h)

theorem get?_eq_none_iff {t : Assoc κ ν} {k : κ} : t.get? k = none ↔ k ∉ t.keys := by
  induction t with
  | nil => simp
  | cons p rest ih =>
    obtain ⟨a, b⟩ := p
    rw [get?]
    split
    · next hk => simp [hk]
    · next hk => simp [ih, Ne.symm hk]

theorem contains_iff {t : Assoc κ ν} {k : κ} : t.contains k = true ↔ k ∈ t.keys := by
  rw [contains, Option.isSome_iff_ne_none, Ne, get?_eq_none_iff, not_not]

theorem get?_of_mem {t : Assoc κ ν} (hn : t.keys.Nodup) {k : κ} {v : ν} (h : (k, v) ∈ t) :
    t.get? k = some v := by
  induction t with
  | nil => cases h
  | cons p rest ih =>
    obtain ⟨a, b⟩ := p
    obtain ⟨ha, hrest⟩ := List.nodup_cons.1 hn
    rcases List.mem_cons.1 h with heq | hmem
    · cases heq
      rw [get?, if_pos rfl]
    · have hne : a ≠ k := fun he => ha (he ▸ mem_keys_of_mem hmem)
      rw [get?, if_neg hne, ih hrest hmem]

/-- In a table without repeated keys, look-up is membership. -/
theorem get?_eq_some_iff {t : Assoc κ ν} (hn : t.keys.Nodup) {k : κ} {v : ν} :
    t.get? k = some v ↔ (k, v) ∈ t := ⟨mem_of_get?, get?_of_mem hn⟩

theorem get?_append (t t' : Assoc κ ν) (k : κ) :
    get? (t ++ t') k = (t.get? k).or (t'.get? k) := by
  induction t with
  | nil => rfl
  | cons p rest ih =>
    obtain ⟨a, b⟩ := p
    rw [List.cons_append, get?, get?]
    split
    · rfl
    · exact ih

/-! ## Removal -/

theorem erase_of_not_mem {t : Assoc κ ν} {k : κ} (h : k ∉ t.keys) : t.erase k = t := by
  refine List.filter_eq_self.2 fun p hp => decide_eq_true fun hk => h ?_
  exact hk ▸ mem_keys_of_mem hp

theorem erase_cons_of_ne {t : Assoc κ ν} {k : κ} {p : κ × ν} (h : p.1 ≠ k) :
    erase (p :: t) k = p :: t.erase k := List.filter_cons_of_pos (decide_eq_true h)

/-- In a table without repeated keys, removal takes out one entry. -/
theorem perm_erase_of_get? {t : Assoc κ ν} (hn : t.keys.Nodup) {k : κ} {v : ν}
    (h : t.get? k = some v) : List.Perm t ((k, v) :: t.erase k) := by
  induction t with
  | nil => cases h
  | cons p rest ih =>
    obtain ⟨a, b⟩ := p
    obtain ⟨ha, hrest⟩ := List.nodup_cons.1 hn
    rw [get?] at h
    split at h
    · next hk =>
      cases h
      subst hk
      have hfirst : erase ((a, v) :: rest) a = rest := by
        rw [erase, List.filter_cons_of_neg (by simp)]
        exact erase_of_not_mem ha
      rw [hfirst]
    · next hk =>
      rw [erase_cons_of_ne hk]
      exact ((ih hrest h).cons (a, b)).trans (List.Perm.swap (k, v) (a, b) _)

/-! ## Insertion at the end -/

theorem insert_of_not_mem {t : Assoc κ ν} {k : κ} (h : k ∉ t.keys) (v : ν) :
    t.insert k v = t ++ [(k, v)] := by
  induction t with
  | nil => rfl
  | cons p rest ih =>
    obtain ⟨a, b⟩ := p
    simp only [keys_cons, List.mem_cons, not_or] at h
    rw [insert, if_neg (Ne.symm h.1), ih h.2, List.cons_append]

theorem mem_keys_insert {t : Assoc κ ν} {k k' : κ} {v : ν} :
    k' ∈ (t.insert k v).keys ↔ k' = k ∨ k' ∈ t.keys := by
  rw [keys_insert]
  split
  · next h =>
    constructor
    · exact Or.inr
    · rintro (rfl | h')
      · exact h
      · exact h'
  · simp [or_comm]

/-- The value under a key after an insertion is the new one or the old one. -/
theorem mem_of_mem_insert {t : Assoc κ ν} {k : κ} {v : ν} {p : κ × ν} (h : p ∈ t.insert k v) :
    p = (k, v) ∨ p ∈ t := by
  induction t with
  | nil => exact Or.inl (List.mem_singleton.1 h)
  | cons q rest ih =>
    obtain ⟨a, b⟩ := q
    rw [insert] at h
    split at h
    · rcases List.mem_cons.1 h with hp | hp
      · exact Or.inl hp
      · exact Or.inr (List.mem_cons_of_mem _ hp)
    · rcases List.mem_cons.1 h with hp | hp
      · exact Or.inr (hp ▸ List.mem_cons_self ..)
      · exact (ih hp).imp id (List.mem_cons_of_mem _)

theorem nodup_keys_foldl_insert {t : Assoc κ ν} (h : t.keys.Nodup) (pairs : List (κ × ν)) :
    (pairs.foldl (fun t p => t.insert p.1 p.2) t).keys.Nodup := by
  induction pairs generalizing t with
  | nil => exact h
  | cons p rest ih => exact ih (nodup_keys_insert h p.1 p.2)

theorem nodup_keys_ofPairs (pairs : List (κ × ν)) : (ofPairs pairs).keys.Nodup :=
  nodup_keys_foldl_insert (by simp) pairs

theorem foldl_insert_of_nodup (t : Assoc κ ν) (pairs : List (κ × ν))
    (h : (t.keys ++ pairs.map Prod.fst).Nodup) :
    pairs.foldl (fun t p => t.insert p.1 p.2) t = t ++ pairs := by
  induction pairs generalizing t with
  | nil => simp
  | cons p rest ih =>
    rw [List.map_cons] at h
    have hp : p.1 ∉ t.keys := fun hmem =>
      (List.nodup_append.1 h).2.2 p.1 hmem p.1 (List.mem_cons_self ..) rfl
    have hkeys : (t ++ [p] : Assoc κ ν).keys = t.keys ++ [p.1] := by simp [keys]
    rw [List.foldl_cons, insert_of_not_mem hp, ih (t ++ [p]) (by rw [hkeys]; simpa using h)]
    simp

/-- Pairs without repeated keys are their own table. -/
theorem ofPairs_eq_self {pairs : List (κ × ν)} (h : (pairs.map Prod.fst).Nodup) :
    ofPairs pairs = pairs := by
  rw [ofPairs, foldl_insert_of_nodup [] pairs (by simpa using h), List.nil_append]

theorem mem_of_mem_foldl_insert {t : Assoc κ ν} {pairs : List (κ × ν)} {p : κ × ν}
    (h : p ∈ pairs.foldl (fun t p => t.insert p.1 p.2) t) : p ∈ t ∨ p ∈ pairs := by
  induction pairs generalizing t with
  | nil => exact Or.inl h
  | cons q rest ih =>
    rcases ih h with hp | hp
    · rcases mem_of_mem_insert hp with rfl | hp
      · exact Or.inr (List.mem_cons_self ..)
      · exact Or.inl hp
    · exact Or.inr (List.mem_cons_of_mem _ hp)

/-- What is in the table of some pairs is one of the pairs. -/
theorem mem_of_mem_ofPairs {pairs : List (κ × ν)} {p : κ × ν} (h : p ∈ ofPairs pairs) :
    p ∈ pairs := by
  rcases mem_of_mem_foldl_insert h with hp | hp
  · cases hp
  · exact hp

theorem mem_keys_foldl_insert {t : Assoc κ ν} {pairs : List (κ × ν)} {k : κ} :
    k ∈ (pairs.foldl (fun t p => t.insert p.1 p.2) t).keys ↔
      k ∈ t.keys ∨ ∃ p ∈ pairs, p.1 = k := by
  induction pairs generalizing t with
  | nil => simp
  | cons q rest ih =>
    rw [List.foldl_cons, ih, mem_keys_insert, List.exists_mem_cons_iff, eq_comm (a := k),
      or_comm (a := q.1 = k), or_assoc]

/-- The keys of the table of some pairs. -/
theorem mem_keys_ofPairs {pairs : List (κ × ν)} {k : κ} :
    k ∈ (ofPairs pairs).keys ↔ ∃ p ∈ pairs, p.1 = k := by
  rw [ofPairs, mem_keys_foldl_insert]
  simp

/-! ## Insertion in order -/

section Sorted

variable [LT κ] [DecidableRel (α := κ) (· < ·)]

theorem get?_insertSorted (t : Assoc κ ν) (k k' : κ) (v : ν) :
    (t.insertSorted k v).get? k' = if k = k' then some v else t.get? k' := by
  induction t with
  | nil => rfl
  | cons p rest ih =>
    obtain ⟨a, b⟩ := p
    rw [insertSorted]
    split
    · next h =>
      subst h
      by_cases h' : a = k' <;> simp [get?, h']
    · next h =>
      split
      · rfl
      · by_cases h' : a = k'
        · subst h'
          simp [get?, Ne.symm h]
        · simp [get?, h', ih]

theorem keys_insertSorted_perm {t : Assoc κ ν} {k : κ} (h : k ∉ t.keys) (v : ν) :
    (t.insertSorted k v).keys.Perm (k :: t.keys) := by
  induction t with
  | nil => exact List.Perm.refl _
  | cons p rest ih =>
    obtain ⟨a, b⟩ := p
    simp only [keys_cons, List.mem_cons, not_or] at h
    rw [insertSorted, if_neg (Ne.symm h.1)]
    split
    · exact List.Perm.refl _
    · exact ((ih h.2).cons a).trans (List.Perm.swap k a _)

theorem mem_of_mem_insertSorted {t : Assoc κ ν} {k : κ} {v : ν} {p : κ × ν}
    (h : p ∈ t.insertSorted k v) : p = (k, v) ∨ p ∈ t := by
  induction t with
  | nil => exact Or.inl (List.mem_singleton.1 h)
  | cons q rest ih =>
    obtain ⟨a, b⟩ := q
    rw [insertSorted] at h
    split at h
    · rcases List.mem_cons.1 h with hp | hp
      · exact Or.inl hp
      · exact Or.inr (List.mem_cons_of_mem _ hp)
    · split at h
      · exact List.mem_cons.1 h
      · rcases List.mem_cons.1 h with hp | hp
        · exact Or.inr (hp ▸ List.mem_cons_self ..)
        · exact (ih hp).imp id (List.mem_cons_of_mem _)

/-- The keys of a table increase. -/
def IsIncreasing (t : Assoc κ ν) : Prop := t.keys.Pairwise (· < ·)

variable [IsStrictTotalOrder κ (· < ·)]

omit [DecidableEq κ] [DecidableRel (α := κ) (· < ·)] in
theorem IsIncreasing.nodup {t : Assoc κ ν} (h : t.IsIncreasing) : t.keys.Nodup :=
  List.Pairwise.imp (fun hlt => ne_of_irrefl hlt) h

/-- Insertion in order replaces the entry of the key, if there is one. -/
theorem insertSorted_perm {t : Assoc κ ν} (h : t.IsIncreasing) (k : κ) (v : ν) :
    List.Perm (t.insertSorted k v) ((k, v) :: t.erase k) := by
  induction t with
  | nil => exact List.Perm.refl _
  | cons p rest ih =>
    obtain ⟨a, b⟩ := p
    obtain ⟨ha, hrest⟩ := List.pairwise_cons.1 h
    rw [insertSorted]
    split
    · next hk =>
      have hnot : a ∉ keys rest := (List.nodup_cons.1 h.nodup).1
      rw [← hk, erase, List.filter_cons_of_neg (by simp)]
      exact List.Perm.of_eq (congrArg _ (erase_of_not_mem hnot).symm)
    · next hk =>
      split
      · next hlt =>
        have hnot : k ∉ keys ((a, b) :: rest) := by
          intro hmem
          rcases List.mem_cons.1 hmem with hka | hmem
          · exact hk hka.symm
          · exact irrefl_of (· < ·) k (trans_of (· < ·) hlt (ha k hmem))
        rw [erase_of_not_mem hnot]
      · rw [erase_cons_of_ne hk]
        exact ((ih hrest).cons (a, b)).trans (List.Perm.swap (k, v) (a, b) _)

theorem isIncreasing_insertSorted {t : Assoc κ ν} (h : t.IsIncreasing) (k : κ) (v : ν) :
    (t.insertSorted k v).IsIncreasing := by
  induction t with
  | nil => exact List.pairwise_singleton _ _
  | cons p rest ih =>
    obtain ⟨a, b⟩ := p
    obtain ⟨ha, hrest⟩ := List.pairwise_cons.1 h
    rw [insertSorted]
    split
    · next hk => exact hk ▸ h
    · next hk =>
      split
      · next hlt =>
        refine List.pairwise_cons.2 ⟨fun k' hk' => ?_, h⟩
        rcases List.mem_cons.1 hk' with rfl | hk'
        · exact hlt
        · exact trans_of (· < ·) hlt (ha k' hk')
      · next hlt =>
        refine List.pairwise_cons.2 ⟨fun k' hk' => ?_, ih hrest⟩
        obtain ⟨p', hp', rfl⟩ := List.mem_map.1 hk'
        rcases mem_of_mem_insertSorted hp' with rfl | hp'
        · exact ((trichotomous_of (· < ·) a k).resolve_right (not_or.2 ⟨hk, hlt⟩))
        · exact ha _ (mem_keys_of_mem hp')

theorem insertSorted_of_forall_lt {t : Assoc κ ν} {k : κ} (h : ∀ k' ∈ t.keys, k' < k) (v : ν) :
    t.insertSorted k v = t ++ [(k, v)] := by
  induction t with
  | nil => rfl
  | cons p rest ih =>
    obtain ⟨hp, hrest⟩ := List.forall_mem_cons.1 h
    have hne : p.1 ≠ k := fun heq => irrefl_of (· < ·) k (heq ▸ hp)
    have hnlt : ¬ k < p.1 := fun hlt => irrefl_of (· < ·) k (trans_of (· < ·) hlt hp)
    rw [insertSorted, if_neg hne, if_neg hnlt, ih hrest, List.cons_append]

/-- Entries in increasing order are inserted one behind the other. -/
theorem foldl_insertSorted_of_isIncreasing {t pairs : Assoc κ ν}
    (h : IsIncreasing (t ++ pairs)) :
    pairs.foldl (fun t p => t.insertSorted p.1 p.2) t = t ++ pairs := by
  induction pairs generalizing t with
  | nil => rw [List.foldl_nil, List.append_nil]
  | cons p rest ih =>
    have hlt : ∀ k ∈ t.keys, k < p.1 := by
      rw [IsIncreasing, keys_append] at h
      exact fun k hk => (List.pairwise_append.1 h).2.2 k hk p.1 (List.mem_cons_self ..)
    rw [List.append_cons] at h ⊢
    rw [List.foldl_cons, insertSorted_of_forall_lt hlt]
    exact ih h

omit [DecidableEq κ] [DecidableRel (α := κ) (· < ·)] in
/-- Tables in increasing order that have the same keys list them alike. -/
theorem IsIncreasing.keys_eq {t : Assoc κ ν} {t' : Assoc κ μ} (h : t.IsIncreasing)
    (h' : t'.IsIncreasing) (hperm : t.keys.Perm t'.keys) : t.keys = t'.keys := by
  refine hperm.eq_of_pairwise ?_ h h'
  intro k k' _ _ hlt hgt
  exact absurd (trans_of (· < ·) hlt hgt) (irrefl_of (· < ·) k)

omit [DecidableRel (α := κ) (· < ·)] in
/-- Tables in increasing order are equal if look-up finds the same in both. -/
theorem IsIncreasing.ext {t t' : Assoc κ ν} (h : t.IsIncreasing) (h' : t'.IsIncreasing)
    (hget : ∀ k, t.get? k = t'.get? k) : t = t' := by
  have hperm : List.Perm t t' := by
    refine (List.perm_ext_iff_of_nodup h.nodup.of_map h'.nodup.of_map).2 ?_
    rintro ⟨k, v⟩
    rw [← get?_eq_some_iff h.nodup, ← get?_eq_some_iff h'.nodup, hget]
  refine hperm.eq_of_pairwise ?_ (List.pairwise_map.1 h) (List.pairwise_map.1 h')
  intro p q _ _ hlt hgt
  exact absurd (trans_of (· < ·) hlt hgt) (irrefl_of (· < ·) p.1)

end Sorted

/-! ## Changing the values -/

/-- The table with every value changed. -/
def mapValues (f : ν → μ) (t : Assoc κ ν) : Assoc κ μ := t.map fun p => (p.1, f p.2)

omit [DecidableEq κ] in
theorem values_mapValues (f : ν → μ) (t : Assoc κ ν) : (t.mapValues f).values = t.values.map f := by
  simp [values, mapValues, Function.comp_def]

omit [DecidableEq κ] in
theorem keys_mapValues (f : ν → μ) (t : Assoc κ ν) : (t.mapValues f).keys = t.keys := by
  simp [keys, mapValues, Function.comp_def]

omit [DecidableEq κ] in
theorem mem_mapValues {f : ν → μ} {t : Assoc κ ν} {k : κ} {w : μ} :
    (k, w) ∈ t.mapValues f ↔ ∃ v, (k, v) ∈ t ∧ w = f v := by
  simp only [mapValues, List.mem_map, Prod.mk.injEq, Prod.exists]
  constructor
  · rintro ⟨k', v, hv, rfl, rfl⟩
    exact ⟨v, hv, rfl⟩
  · rintro ⟨v, hv, rfl⟩
    exact ⟨k, v, hv, rfl, rfl⟩

theorem get?_mapValues (f : ν → μ) (t : Assoc κ ν) (k : κ) :
    (t.mapValues f).get? k = (t.get? k).map f := by
  induction t with
  | nil => rfl
  | cons p rest ih =>
    obtain ⟨a, b⟩ := p
    by_cases h : a = k
    · simp [mapValues, get?, h]
    · simpa [mapValues, get?, h] using ih

theorem contains_mapValues (f : ν → μ) (t : Assoc κ ν) (k : κ) :
    (t.mapValues f).contains k = t.contains k := by
  rw [contains, contains, get?_mapValues, Option.isSome_map]

theorem mapValues_insert (f : ν → μ) (t : Assoc κ ν) (k : κ) (v : ν) :
    (t.insert k v).mapValues f = (t.mapValues f).insert k (f v) := by
  induction t with
  | nil => rfl
  | cons p rest ih =>
    obtain ⟨a, b⟩ := p
    by_cases h : a = k
    · simp [mapValues, insert, h]
    · simpa [mapValues, insert, h] using ih

theorem mapValues_foldl_insert (f : ν → μ) (t : Assoc κ ν) (pairs : List (κ × ν)) :
    (pairs.foldl (fun t p => t.insert p.1 p.2) t).mapValues f =
      (pairs.map fun p => (p.1, f p.2)).foldl (fun t p => t.insert p.1 p.2) (t.mapValues f) := by
  induction pairs generalizing t with
  | nil => rfl
  | cons p rest ih => rw [List.foldl_cons, ih, mapValues_insert, List.map_cons, List.foldl_cons]

/-- Changing the values of a table changes them in the pairs that it is made of. -/
theorem mapValues_ofPairs (f : ν → μ) (pairs : List (κ × ν)) :
    (ofPairs pairs).mapValues f = ofPairs (pairs.map fun p => (p.1, f p.2)) :=
  mapValues_foldl_insert f [] pairs

end Assoc

instance isStrictTotalOrder_string : IsStrictTotalOrder String (· < ·) where

theorem mem_addName {names : List String} {name name' : String} :
    name' ∈ addName names name ↔ name' ∈ names ∨ name = name' := by
  rw [addName]
  split
  · next h =>
    refine ⟨Or.inl, ?_⟩
    rintro (h' | rfl)
    · exact h'
    · exact h
  · rw [List.mem_append, List.mem_singleton, eq_comm]

end ApiContract
