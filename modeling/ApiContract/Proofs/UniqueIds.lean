import Mathlib.Data.List.Nodup
import Mathlib.Data.List.Perm.Basic
import ApiContract.Endpoint.OperationId
import ApiContract.Text.Split
/-!
# Identifiers do not repeat

An identifier with a free suffix is found because there are more suffixes than taken identifiers. So
each renamed identifier differs from all that are there, and the identifiers of a document are
distinct. A suffix can be told from what stands before it, so identifiers do not take suffixes from
each other, and which ones are given does not depend on their order.

* `suffixed_injective`, `suffixed_eq_iff` : identifier and suffix are read back.
* `freeId_not_mem` : the identifier that is found is not taken.
* `nodup_uniqueIds` : after renaming no identifier repeats.
* `uniqueIds_perm` : identifiers in another order are renamed to the same identifiers.
-/

namespace ApiContract

/-- Numbers are read back from their decimal digits. -/
theorem toString_injective {n n' : Nat} (h : toString n = toString n') : n = n' := by
  rw [Nat.toString_eq_ofList_toDigits, Nat.toString_eq_ofList_toDigits, String.ofList_inj] at h
  rw [← Nat.ofDigitChars_ten_toDigits (n := n), h, Nat.ofDigitChars_ten_toDigits]

theorem suffixed_injective {id : String} {n n' : Nat} (h : suffixed id n = suffixed id n') :
    n = n' := toString_injective ((String.append_right_inj (id ++ "_")).1 h)

/-- If the identifier that is found is taken, all suffixes that are tried are. -/
theorem suffixed_mem_of_freeIdFrom_mem {taken : List String} {id : String} {n tries : Nat}
    (h : freeIdFrom taken id n tries ∈ taken) {k : Nat} (hk : k ≤ tries) :
    suffixed id (n + k) ∈ taken := by
  induction tries generalizing n k with
  | zero =>
    obtain rfl : k = 0 := Nat.le_zero.1 hk
    exact h
  | succ tries ih =>
    rw [freeIdFrom] at h
    by_cases hn : suffixed id n ∈ taken
    · rw [if_pos hn] at h
      cases k with
      | zero => exact hn
      | succ k =>
        have hlater := ih h (Nat.le_of_succ_le_succ hk)
        rwa [Nat.add_right_comm, Nat.add_assoc] at hlater
    · rw [if_neg hn] at h
      exact absurd h hn

/-- The identifier that is found is not taken. -/
theorem freeId_not_mem (taken : List String) (id : String) : freeId taken id ∉ taken := by
  intro h
  have hall : (List.range (taken.length + 1)).map (fun k => suffixed id (1 + k)) ⊆ taken := by
    intro name hname
    obtain ⟨k, hk, rfl⟩ := List.mem_map.1 hname
    exact suffixed_mem_of_freeIdFrom_mem h (Nat.le_of_lt_succ (List.mem_range.1 hk))
  have hnodup : ((List.range (taken.length + 1)).map fun k => suffixed id (1 + k)).Nodup :=
    List.nodup_range.map_on fun k _ k' _ heq => by
      have := suffixed_injective heq
      omega
  -- one suffix more than there are taken identifiers
  have hlength := hnodup.length_le_of_subset hall
  rw [List.length_map, List.length_range] at hlength
  omega

/-- Renaming gives distinct identifiers, none of which has been seen. -/
theorem nodup_renameRepeats {taken seen ids : List String} (hseen : ∀ id ∈ seen, id ∈ taken)
    (hids : ∀ id ∈ ids, id ∈ taken) :
    (renameRepeats taken seen ids).Nodup ∧ ∀ id ∈ renameRepeats taken seen ids, id ∉ seen := by
  induction ids generalizing taken seen with
  | nil => exact ⟨List.nodup_nil, by simp [renameRepeats]⟩
  | cons id rest ih =>
    rw [renameRepeats]
    by_cases hid : id ∈ seen
    · rw [if_pos hid]
      have hfresh : freeId taken id ∉ seen := fun h => freeId_not_mem taken id (hseen _ h)
      have hseen' : ∀ other ∈ freeId taken id :: seen, other ∈ freeId taken id :: taken := by
        intro other hother
        rcases List.mem_cons.1 hother with rfl | hother
        · exact List.mem_cons_self ..
        · exact List.mem_cons_of_mem _ (hseen other hother)
      obtain ⟨hnodup, hnew⟩ := ih hseen' fun other hother =>
        List.mem_cons_of_mem _ (hids other (List.mem_cons_of_mem _ hother))
      refine ⟨List.nodup_cons.2 ⟨fun h => hnew _ h (List.mem_cons_self ..), hnodup⟩, ?_⟩
      intro other hother
      rcases List.mem_cons.1 hother with rfl | hother
      · exact hfresh
      · exact fun h => hnew other hother (List.mem_cons_of_mem _ h)
    · rw [if_neg hid]
      have hseen' : ∀ other ∈ id :: seen, other ∈ taken := by
        intro other hother
        rcases List.mem_cons.1 hother with rfl | hother
        · exact hids other (List.mem_cons_self ..)
        · exact hseen other hother
      obtain ⟨hnodup, hnew⟩ := ih hseen' fun other hother =>
        hids other (List.mem_cons_of_mem _ hother)
      refine ⟨List.nodup_cons.2 ⟨fun h => hnew _ h (List.mem_cons_self ..), hnodup⟩, ?_⟩
      intro other hother
      rcases List.mem_cons.1 hother with rfl | hother
      · exact hid
      · exact fun h => hnew other hother (List.mem_cons_of_mem _ h)

/-- After renaming no identifier repeats. -/
theorem nodup_uniqueIds (ids : List String) : (uniqueIds ids).Nodup :=
  (nodup_renameRepeats (by simp) fun _ h => h).1

/-! ## Identifiers in another order -/

theorem underscore_not_mem_digits (n : Nat) : '_' ∉ (toString n).toList := by
  intro h
  rw [Nat.toString_eq_ofList_toDigits, String.toList_ofList] at h
  have hdigit := Nat.isDigit_of_mem_toDigits (by decide) (by decide) h
  exact absurd hdigit (by decide)

/-- The suffix is what stands after the last underscore. -/
theorem splitLast_suffixed (id : String) (n : Nat) :
    Text.splitLast '_' (suffixed id n).toList = some (id.toList, (toString n).toList) := by
  have hlist : (suffixed id n).toList = id.toList ++ '_' :: (toString n).toList := by
    simp [suffixed]
  rw [hlist]
  exact Text.splitLast_append id.toList (underscore_not_mem_digits n)

/-- Identifier and suffix are read back. -/
theorem suffixed_eq_iff {id id' : String} {n n' : Nat} :
    suffixed id n = suffixed id' n' ↔ id = id' ∧ n = n' := by
  constructor
  · intro h
    have hsplit := splitLast_suffixed id n
    rw [h, splitLast_suffixed, Option.some.injEq, Prod.mk.injEq] at hsplit
    have hid : id = id' := String.toList_inj.1 hsplit.1.symm
    exact ⟨hid, toString_injective (String.toList_inj.1 hsplit.2.symm)⟩
  · rintro ⟨rfl, rfl⟩
    rfl

/-- All suffixes below the one that is found are taken. -/
theorem exists_freeIdFrom_eq (taken : List String) (id : String) (n tries : Nat) :
    ∃ k, freeIdFrom taken id n tries = suffixed id (n + k) ∧
      ∀ j < k, suffixed id (n + j) ∈ taken := by
  induction tries generalizing n with
  | zero => exact ⟨0, rfl, nofun⟩
  | succ tries ih =>
    rw [freeIdFrom]
    by_cases hn : suffixed id n ∈ taken
    · rw [if_pos hn]
      obtain ⟨k, hk, hbelow⟩ := ih (n + 1)
      refine ⟨k + 1, ?_, ?_⟩
      · rw [hk, Nat.add_right_comm, Nat.add_assoc]
      · intro j hj
        cases j with
        | zero => exact hn
        | succ j =>
          have htaken := hbelow j (Nat.lt_of_succ_lt_succ hj)
          rwa [Nat.add_right_comm, Nat.add_assoc] at htaken
    · rw [if_neg hn]
      exact ⟨0, rfl, nofun⟩

/-- The identifier with the least free suffix. -/
theorem exists_freeId_eq (taken : List String) (id : String) :
    ∃ k, freeId taken id = suffixed id (1 + k) ∧ suffixed id (1 + k) ∉ taken ∧
      ∀ j < k, suffixed id (1 + j) ∈ taken := by
  obtain ⟨k, hk, hbelow⟩ := exists_freeIdFrom_eq taken id 1 taken.length
  have hfree := freeId_not_mem taken id
  rw [freeId, hk] at hfree
  exact ⟨k, hk, hfree, hbelow⟩

/-- What is found for an identifier only depends on which of its own suffixes are taken. -/
theorem freeId_congr {taken taken' : List String} {id : String}
    (h : ∀ n, suffixed id n ∈ taken ↔ suffixed id n ∈ taken') :
    freeId taken id = freeId taken' id := by
  obtain ⟨k, hk, hfree, hbelow⟩ := exists_freeId_eq taken id
  obtain ⟨k', hk', hfree', hbelow'⟩ := exists_freeId_eq taken' id
  have hle : k ≤ k' := by
    by_contra hlt
    exact hfree' ((h _).1 (hbelow k' (by omega)))
  have hge : k' ≤ k := by
    by_contra hlt
    exact hfree ((h _).2 (hbelow' k (by omega)))
  rw [hk, hk', Nat.le_antisymm hle hge]

/-- What is found for one identifier takes nothing from another one. -/
theorem freeId_cons_freeId {taken : List String} {id id' : String} (hne : id ≠ id') :
    freeId (freeId taken id' :: taken) id = freeId taken id := by
  apply freeId_congr
  intro n
  obtain ⟨k, hk, -, -⟩ := exists_freeId_eq taken id'
  have hother : suffixed id n ≠ freeId taken id' := by
    rw [hk]
    intro heq
    exact hne (suffixed_eq_iff.1 heq).1
  rw [List.mem_cons, or_iff_right hother]

theorem mem_cons_congr {xs ys : List String} (h : ∀ x, x ∈ xs ↔ x ∈ ys) (a x : String) :
    x ∈ a :: xs ↔ x ∈ a :: ys := by
  rw [List.mem_cons, List.mem_cons, h]

/-- Renaming only asks which identifiers are taken and which have been seen. -/
theorem renameRepeats_congr {taken taken' seen seen' : List String}
    (htaken : ∀ id, id ∈ taken ↔ id ∈ taken') (hseen : ∀ id, id ∈ seen ↔ id ∈ seen')
    (ids : List String) : renameRepeats taken seen ids = renameRepeats taken' seen' ids := by
  induction ids generalizing taken taken' seen seen' with
  | nil => rfl
  | cons id rest ih =>
    have hfresh : freeId taken id = freeId taken' id := freeId_congr fun n => htaken _
    rw [renameRepeats, renameRepeats, hfresh]
    by_cases hid : id ∈ seen
    · rw [if_pos hid, if_pos ((hseen id).1 hid)]
      exact congrArg _ (ih (mem_cons_congr htaken _) (mem_cons_congr hseen _))
    · rw [if_neg hid, if_neg fun h => hid ((hseen id).2 h)]
      exact congrArg _ (ih htaken (mem_cons_congr hseen _))

theorem renameRepeats_cons_seen {taken seen : List String} {id : String} (h : id ∈ seen)
    (rest : List String) : renameRepeats taken seen (id :: rest) =
      freeId taken id :: renameRepeats (freeId taken id :: taken) (freeId taken id :: seen) rest :=
  if_pos h

theorem renameRepeats_cons_new {taken seen : List String} {id : String} (h : id ∉ seen)
    (rest : List String) :
    renameRepeats taken seen (id :: rest) = id :: renameRepeats taken (id :: seen) rest := if_neg h

theorem mem_swap {a b x : String} {xs : List String} : x ∈ a :: b :: xs ↔ x ∈ b :: a :: xs :=
  (List.Perm.swap b a xs).mem_iff

/-- A repeated identifier and a new one next to it are renamed in any order. -/
theorem renameRepeats_swap_new {taken seen : List String} {id id' : String} (hid : id ∈ seen)
    (hid' : id' ∉ seen) (htaken : id' ∈ taken) (rest : List String) :
    (renameRepeats taken seen (id :: id' :: rest)).Perm
      (renameRepeats taken seen (id' :: id :: rest)) := by
  have hstill : id' ∉ freeId taken id :: seen := by
    intro h
    rcases List.mem_cons.1 h with heq | h
    · exact freeId_not_mem taken id (heq ▸ htaken)
    · exact hid' h
  rw [renameRepeats_cons_seen hid, renameRepeats_cons_new hstill, renameRepeats_cons_new hid',
    renameRepeats_cons_seen (List.mem_cons_of_mem _ hid),
    renameRepeats_congr (fun _ => Iff.rfl) (fun _ => mem_swap) rest]
  exact List.Perm.swap ..

/-- Two identifiers next to each other are renamed in any order. -/
theorem renameRepeats_swap {taken seen : List String} {id id' : String} (hid : id ∈ taken)
    (hid' : id' ∈ taken) (rest : List String) :
    (renameRepeats taken seen (id :: id' :: rest)).Perm
      (renameRepeats taken seen (id' :: id :: rest)) := by
  by_cases heq : id = id'
  · rw [heq]
  by_cases hs : id ∈ seen
  · by_cases hs' : id' ∈ seen
    · -- each takes a suffix of its own
      rw [renameRepeats_cons_seen hs, renameRepeats_cons_seen (List.mem_cons_of_mem _ hs'),
        renameRepeats_cons_seen hs', renameRepeats_cons_seen (List.mem_cons_of_mem _ hs),
        freeId_cons_freeId heq, freeId_cons_freeId (Ne.symm heq),
        renameRepeats_congr (fun _ => mem_swap) (fun _ => mem_swap) rest]
      exact List.Perm.swap ..
    · exact renameRepeats_swap_new hs hs' hid' rest
  · by_cases hs' : id' ∈ seen
    · exact (renameRepeats_swap_new hs' hs hid rest).symm
    · have hstill : id' ∉ id :: seen := by
        rw [List.mem_cons, not_or]
        exact ⟨Ne.symm heq, hs'⟩
      have hstill' : id ∉ id' :: seen := by
        rw [List.mem_cons, not_or]
        exact ⟨heq, hs⟩
      rw [renameRepeats_cons_new hs, renameRepeats_cons_new hstill, renameRepeats_cons_new hs',
        renameRepeats_cons_new hstill',
        renameRepeats_congr (fun _ => Iff.rfl) (fun _ => mem_swap) rest]
      exact List.Perm.swap ..

/-- Identifiers in another order are renamed to the same identifiers, as long as all of them are
taken. -/
theorem renameRepeats_perm {ids ids' : List String} (hperm : ids.Perm ids') :
    ∀ {taken seen : List String}, (∀ id ∈ ids, id ∈ taken) →
      (renameRepeats taken seen ids).Perm (renameRepeats taken seen ids') := by
  induction hperm with
  | nil =>
    intro taken seen _
    exact List.Perm.refl _
  | cons id _ ih =>
    intro taken seen hids
    obtain ⟨-, hrest⟩ := List.forall_mem_cons.1 hids
    by_cases hid : id ∈ seen
    · rw [renameRepeats_cons_seen hid, renameRepeats_cons_seen hid]
      exact (ih fun other hother => List.mem_cons_of_mem _ (hrest other hother)).cons _
    · rw [renameRepeats_cons_new hid, renameRepeats_cons_new hid]
      exact (ih hrest).cons _
  | swap id id' rest =>
    intro taken seen hids
    obtain ⟨hid', hids⟩ := List.forall_mem_cons.1 hids
    obtain ⟨hid, -⟩ := List.forall_mem_cons.1 hids
    exact renameRepeats_swap hid' hid rest
  | trans h _ ih ih' =>
    intro taken seen hids
    exact (ih hids).trans (ih' fun id hid => hids id (h.mem_iff.2 hid))

/-- Identifiers in another order are renamed to the same identifiers. -/
theorem uniqueIds_perm {ids ids' : List String} (h : ids.Perm ids') :
    (uniqueIds ids).Perm (uniqueIds ids') := by
  have hrename : (renameRepeats ids [] ids).Perm (renameRepeats ids [] ids') :=
    renameRepeats_perm h fun _ hid => hid
  have htaken : renameRepeats ids [] ids' = renameRepeats ids' [] ids' :=
    renameRepeats_congr (fun _ => h.mem_iff) (fun _ => Iff.rfl) ids'
  unfold uniqueIds
  rw [← htaken]
  exact hrename

end ApiContract
