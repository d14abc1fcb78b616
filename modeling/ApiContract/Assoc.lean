/-!
# Association lists

Tables whose order can be observed are lists of key and value pairs. Two orders occur:

* `Assoc.insert` keeps keys in order of first insertion; a later value for a known key takes the
  place of the earlier one.
* `Assoc.insertSorted` keeps keys in increasing order.

`Assoc.get?` looks a key up, and `keys` lists the keys. The lemmas say what an insertion does to
the keys and to a look-up.
-/

namespace ApiContract

/-- A table with an observable order of its keys. -/
abbrev Assoc (κ ν : Type) := List (κ × ν)

namespace Assoc

variable {κ ν : Type} [DecidableEq κ]

/-- The keys in order. -/
def keys {κ ν : Type} (t : Assoc κ ν) : List κ := List.map Prod.fst t

/-- The values in key order. -/
def values {κ ν : Type} (t : Assoc κ ν) : List ν := List.map Prod.snd t

/-- The value under a key. -/
def get? (t : Assoc κ ν) (k : κ) : Option ν :=
  match t with
  | [] => none
  | (k', v) :: rest => if k' = k then some v else get? rest k

/-- Whether a key occurs. -/
def contains (t : Assoc κ ν) (k : κ) : Bool := (t.get? k).isSome

/-- Sets a key: in place if it occurs, else at the end. -/
def insert (t : Assoc κ ν) (k : κ) (v : ν) : Assoc κ ν :=
  match t with
  | [] => [(k, v)]
  | (k', v') :: rest => if k' = k then (k, v) :: rest else (k', v') :: insert rest k v

/-- The table of some pairs, each inserted in turn. -/
def ofPairs (pairs : List (κ × ν)) : Assoc κ ν :=
  pairs.foldl (fun t p => t.insert p.1 p.2) []

/-- Sets a key of a table whose keys increase. -/
def insertSorted [LT κ] [DecidableRel (α := κ) (· < ·)] (t : Assoc κ ν) (k : κ) (v : ν) :
    Assoc κ ν :=
  match t with
  | [] => [(k, v)]
  | (k', v') :: rest =>
    if k' = k then (k, v) :: rest
    else if k < k' then (k, v) :: (k', v') :: rest
    else (k', v') :: insertSorted rest k v

/-- Removes a key. -/
def erase (t : Assoc κ ν) (k : κ) : Assoc κ ν := t.filter (fun p => p.1 ≠ k)

@[simp] theorem get?_nil (k : κ) : get? ([] : Assoc κ ν) k = none := rfl

theorem get?_insert (t : Assoc κ ν) (k k' : κ) (v : ν) :
    (t.insert k v).get? k' = if k = k' then some v else t.get? k' := by
  induction t with
  | nil => rfl
  | cons p rest ih =>
    obtain ⟨a, b⟩ := p
    by_cases h : a = k
    · subst h
      by_cases h' : a = k' <;> simp [insert, get?, h']
    · by_cases h' : a = k'
      · subst h'
        simp [insert, get?, h, Ne.symm h]
      · simp [insert, get?, h, h', ih]

theorem keys_insert (t : Assoc κ ν) (k : κ) (v : ν) :
    (t.insert k v).keys = if k ∈ t.keys then t.keys else t.keys ++ [k] := by
  induction t with
  | nil => simp [insert, keys]
  | cons p rest ih =>
    obtain ⟨a, b⟩ := p
    by_cases h : a = k
    · simp [insert, keys, h]
    · have hk : k ≠ a := fun e => h e.symm
      simp only [keys] at ih
      simp only [insert, if_neg h, keys, List.map_cons, List.mem_cons, hk, false_or, ih]
      by_cases hm : k ∈ List.map Prod.fst rest <;> simp [hm]

theorem nodup_keys_insert {t : Assoc κ ν} (h : t.keys.Nodup) (k : κ) (v : ν) :
    (t.insert k v).keys.Nodup := by
  rw [keys_insert]
  split
  · exact h
  · next hk =>
    rw [List.nodup_append]
    exact ⟨h, by simp, fun a ha b hb => by
      rw [List.mem_singleton] at hb
      exact fun e => hk (hb ▸ e ▸ ha)⟩

end Assoc

/-- Adds a name to a list of names unless it is there. -/
def addName (names : List String) (name : String) : List String :=
  if name ∈ names then names else names ++ [name]

end ApiContract
