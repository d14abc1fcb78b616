import ApiContract.Scope
/-!
# Superclass chains

The fields of a superclass that is no component of its own are copied into the class; a superclass
that is a component is referred to instead, and ends the chain. So do root types and types missing
from the graph. A chain that comes back to a type it has passed is refused.

* `Ancestry` : the superclasses to copy, the nearest first, and the component to refer to.
* `walkAncestry` : follows the chain. Each superclass to copy is a type of the graph not met
  before, so the walk ends (`unmet_lt`).
* `walkAncestry_of_root`, …, `walkAncestry_of_further` : what the walk does at a name.
-/

namespace ApiContract

/-- What becomes of the superclasses of a class. -/
structure Ancestry where
  flattened : List TypeDescriptor := []
  parent : Option TypeDescriptor := none
deriving DecidableEq, Repr

/-- The number of types whose names have not been met. -/
def unmet (types : List TypeDescriptor) (met : List String) : Nat :=
  types.countP fun t => decide (t.name ∉ met)

theorem unmet_le (types : List TypeDescriptor) (met : List String) (name : String) :
    unmet types (name :: met) ≤ unmet types met :=
  List.countP_mono_left fun t _ h => by
    simp only [decide_eq_true_eq, List.mem_cons, not_or] at h ⊢
    exact h.2

theorem unmet_lt {types : List TypeDescriptor} {met : List String} {t : TypeDescriptor}
    (ht : t ∈ types) (h : t.name ∉ met) : unmet types (t.name :: met) < unmet types met := by
  induction types with
  | nil => cases ht
  | cons u rest ih =>
    have hle := unmet_le rest met t.name
    unfold unmet at hle ih ⊢
    rw [List.countP_cons, List.countP_cons]
    rcases List.mem_cons.1 ht with rfl | ht
    · rw [if_neg (by simp), if_pos (by simpa using h)]
      omega
    · have hlt := ih ht
      by_cases hu : u.name ∈ t.name :: met
      · have hd : decide (u.name ∉ t.name :: met) = false := decide_eq_false (fun h => h hu)
        rw [hd]
        simp only [Bool.false_eq_true, if_false]
        omega
      · have hm : u.name ∉ met := fun hm => hu (List.mem_cons_of_mem _ hm)
        rw [if_pos (by simpa using hu), if_pos (by simpa using hm)]
        omega

/-- Follows the chain of superclasses of the class `type` from `superclass` on; `met` holds the
names met so far. -/
def walkAncestry (scope : Scope) (type : String) (met : List String) (superclass : Option String) :
    Traced Ancestry :=
  match superclass with
  | none => pure {}
  | some name =>
    if scope.isRootType name then pure {}
    else if hmet : name ∈ met then .fail (.configuration (.superclassCycle name type))
    else
      match hlook : scope.graph.get? name with
      | none => do
        Traced.report (.superclassMissing name type)
        pure {}
      | some parent =>
        if scope.isComponent name then pure { parent := some parent }
        else do
          have : unmet scope.graph.types (name :: met) < unmet scope.graph.types met := by
            have hname := TypeGraph.name_of_get? hlook
            rw [← hname] at hmet ⊢
            exact unmet_lt (TypeGraph.mem_of_get? hlook) hmet
          let further ← walkAncestry scope type (name :: met) parent.superclass
          pure { further with flattened := parent :: further.flattened }
termination_by unmet scope.graph.types met

/-! ## One step of the walk -/

section

variable {scope : Scope} {type name : String} {met : List String} {parent : TypeDescriptor}

theorem walkAncestry_none : walkAncestry scope type met none = pure {} := by rw [walkAncestry]

theorem walkAncestry_of_root (h : scope.isRootType name = true) :
    walkAncestry scope type met (some name) = pure {} := by rw [walkAncestry, if_pos h]

theorem walkAncestry_of_met (hroot : ¬ scope.isRootType name = true) (hmet : name ∈ met) :
    walkAncestry scope type met (some name) =
      .fail (.configuration (.superclassCycle name type)) := by
  rw [walkAncestry, if_neg hroot, dif_pos hmet]

theorem walkAncestry_of_missing (hroot : ¬ scope.isRootType name = true) (hmet : name ∉ met)
    (hlook : scope.graph.get? name = none) :
    walkAncestry scope type met (some name) = (do
      Traced.report (.superclassMissing name type)
      pure {}) := by
  rw [walkAncestry, if_neg hroot, dif_neg hmet]
  split
  · rfl
  · next p hp => cases hlook.symm.trans hp

theorem walkAncestry_of_component (hroot : ¬ scope.isRootType name = true) (hmet : name ∉ met)
    (hlook : scope.graph.get? name = some parent) (hcomponent : scope.isComponent name = true) :
    walkAncestry scope type met (some name) = pure { parent := some parent } := by
  rw [walkAncestry, if_neg hroot, dif_neg hmet]
  split
  · next hnone => cases hlook.symm.trans hnone
  · next p hp =>
    obtain rfl := Option.some.inj (hlook.symm.trans hp)
    rw [if_pos hcomponent]

theorem walkAncestry_of_further (hroot : ¬ scope.isRootType name = true) (hmet : name ∉ met)
    (hlook : scope.graph.get? name = some parent) (hcomponent : ¬ scope.isComponent name = true) :
    walkAncestry scope type met (some name) = (do
      let further ← walkAncestry scope type (name :: met) parent.superclass
      pure { further with flattened := parent :: further.flattened }) := by
  rw [walkAncestry.eq_def]
  dsimp only
  rw [if_neg hroot, dif_neg hmet]
  split
  · next hnone => cases hlook.symm.trans hnone
  · next p hp =>
    obtain rfl := Option.some.inj (hlook.symm.trans hp)
    rw [if_neg hcomponent]

end

/-- What becomes of the superclasses of a class. -/
def resolveAncestry (scope : Scope) (t : TypeDescriptor) : Traced Ancestry :=
  walkAncestry scope t.name [t.name] t.superclass

end ApiContract
