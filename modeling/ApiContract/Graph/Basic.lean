import ApiContract.Descriptor
import ApiContract.Fault
/-!
# Type graphs

A `TypeGraph` holds all types that a host program exports, in order of declaration. Type names are
unique, which is part of the type: `TypeGraph.ofTypes` refuses a list that repeats a name.

* `TypeGraph.get?` : the type with a name.
* `firstRepeat` : the first element of a list that occurred before.
-/

namespace ApiContract

/-- The first element that occurs in `seen` or earlier in the list. -/
def firstRepeatFrom (seen : List String) : List String → Option String
  | [] => none
  | x :: rest => if x ∈ seen then some x else firstRepeatFrom (x :: seen) rest

/-- The first element that occurred before. -/
def firstRepeat (xs : List String) : Option String := firstRepeatFrom [] xs

theorem firstRepeatFrom_eq_none_iff (seen xs : List String) :
    firstRepeatFrom seen xs = none ↔ xs.Nodup ∧ ∀ x ∈ xs, x ∉ seen := by
  induction xs generalizing seen with
  | nil => simp [firstRepeatFrom]
  | cons x rest ih =>
    rw [firstRepeatFrom]
    split
    · next h => simp [h]
    · next h =>
      rw [ih]
      constructor
      · rintro ⟨hn, hs⟩
        refine ⟨List.nodup_cons.2 ⟨fun hx => ?_, hn⟩, ?_⟩
        · exact hs x hx (List.mem_cons_self ..)
        · intro y hy
          rcases List.mem_cons.1 hy with rfl | hy
          · exact h
          · exact fun hys => hs y hy (List.mem_cons_of_mem _ hys)
      · rintro ⟨hn, hs⟩
        obtain ⟨hx, hn⟩ := List.nodup_cons.1 hn
        refine ⟨hn, fun y hy hys => ?_⟩
        rcases List.mem_cons.1 hys with rfl | hys
        · exact hx hy
        · exact hs y (List.mem_cons_of_mem _ hy) hys

theorem firstRepeat_eq_none_iff (xs : List String) : firstRepeat xs = none ↔ xs.Nodup := by
  simp [firstRepeat, firstRepeatFrom_eq_none_iff]

/-- All types of a host program, in order of declaration. -/
structure TypeGraph where
  types : List TypeDescriptor
  nodup_names : (types.map (·.name)).Nodup

namespace TypeGraph

/-- The graph without types. -/
def empty : TypeGraph := ⟨[], List.nodup_nil⟩

/-- The graph of some types, whose names have to be distinct. -/
def ofTypes (types : List TypeDescriptor) : Except Fault TypeGraph :=
  match h : firstRepeat (types.map (·.name)) with
  | some name => .error (.configuration (.repeatedType name))
  | none => .ok ⟨types, (firstRepeat_eq_none_iff _).1 h⟩

/-- The type with a name. -/
def get? (g : TypeGraph) (name : String) : Option TypeDescriptor :=
  g.types.find? (·.name == name)

/-- Whether a name is the name of a type. -/
def contains (g : TypeGraph) (name : String) : Bool := (g.get? name).isSome

/-- The number of types. -/
def size (g : TypeGraph) : Nat := g.types.length

/-- Whether there are no types. -/
def isEmpty (g : TypeGraph) : Bool := g.types.isEmpty

theorem name_of_get? {g : TypeGraph} {name : String} {t : TypeDescriptor}
    (h : g.get? name = some t) : t.name = name := by
  simpa using List.find?_some h

theorem mem_of_get? {g : TypeGraph} {name : String} {t : TypeDescriptor}
    (h : g.get? name = some t) : t ∈ g.types :=
  List.mem_of_find?_eq_some h

end TypeGraph

end ApiContract
