/-!
# Operation identifiers

Identifiers have to be unique in a document. `uniqueIds` leaves the first operation of each
identifier alone and gives every further one the identifier with the least suffix `_1`, `_2`, …
that is not taken.
-/

namespace ApiContract

/-- An identifier with a number behind it. -/
def suffixed (id : String) (n : Nat) : String := id ++ "_" ++ toString n

/-- The identifier with the least suffix from `n` on that is not taken; at most `tries` suffixes
are tried. -/
def freeIdFrom (taken : List String) (id : String) (n : Nat) : Nat → String
  | 0 => suffixed id n
  | tries + 1 => if suffixed id n ∈ taken then freeIdFrom taken id (n + 1) tries else suffixed id n

/-- The identifier with the least suffix that is not taken. Of more suffixes than there are taken
identifiers one is free. -/
def freeId (taken : List String) (id : String) : String := freeIdFrom taken id 1 taken.length

/-- Renames the identifiers of a list that occur in `seen` or earlier in the list, avoiding those
that are taken. -/
def renameRepeats (taken seen : List String) : List String → List String
  | [] => []
  | id :: rest =>
    if id ∈ seen then
      let fresh := freeId taken id
      fresh :: renameRepeats (fresh :: taken) (fresh :: seen) rest
    else id :: renameRepeats taken (id :: seen) rest

/-- The identifiers with every repeated one renamed. -/
def uniqueIds (ids : List String) : List String := renameRepeats ids [] ids

theorem length_renameRepeats (taken seen ids : List String) :
    (renameRepeats taken seen ids).length = ids.length := by
  induction ids generalizing taken seen with
  | nil => rfl
  | cons id rest ih =>
    rw [renameRepeats]
    split <;> simp [ih]

theorem length_uniqueIds (ids : List String) : (uniqueIds ids).length = ids.length :=
  length_renameRepeats ids [] ids

end ApiContract
