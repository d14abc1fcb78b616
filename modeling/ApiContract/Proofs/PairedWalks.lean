import Mathlib.Data.List.Forall2
import Mathlib.Data.Option.Basic
import ApiContract.Component.Ancestry
import ApiContract.Proofs.PairedRuns
/-!
# Walks through superclasses side by side

A walk through superclasses asks three things of a name: whether it is a root type, which type has
it, and whether that is a component. Two scopes that answer alike under the names that can be met
send a walk the same way, and at each step it finds types that are related in both of them.

* `AncestryRel` : superclasses are related one by one.
* `Scope.AnswersAlike` : two scopes answer alike under the known names.
* `AnswersAlike.walkAncestry_paired` : walks from one known name find related superclasses.
-/

namespace ApiContract

open List (Forall₂)
open Traced (Paired)

/-- The superclasses to copy are related in order, and so are the components to refer to. -/
def AncestryRel (r : TypeDescriptor → TypeDescriptor → Prop) (a a' : Ancestry) : Prop :=
  Forall₂ r a.flattened a'.flattened ∧ Option.Rel r a.parent a'.parent

/-- Two scopes answer alike under the names that are known, with types that are related. Related
types have one superclass, and its name is known. -/
structure Scope.AnswersAlike (known : String → Prop) (r : TypeDescriptor → TypeDescriptor → Prop)
    (s s' : Scope) : Prop where
  isRootType_eq : ∀ name, known name → s.isRootType name = s'.isRootType name
  isComponent_eq : ∀ name, known name → s.isComponent name = s'.isComponent name
  get?_eq_none : ∀ name, known name → s.graph.get? name = none → s'.graph.get? name = none
  exists_get? : ∀ name, known name → ∀ p, s.graph.get? name = some p →
    ∃ p', s'.graph.get? name = some p' ∧ r p p'
  superclass_eq : ∀ p p', r p p' → p.superclass = p'.superclass
  known_superclass : ∀ p p', r p p' → ∀ name, p.superclass = some name → known name

variable {known : String → Prop} {r : TypeDescriptor → TypeDescriptor → Prop} {s s' : Scope}

theorem ancestryRel_empty : AncestryRel r {} {} := ⟨.nil, .none⟩

/-- Walks from one known name end at related superclasses, or come back to the same name. -/
theorem Scope.AnswersAlike.walkAncestry_paired (h : AnswersAlike known r s s') (type : String)
    (met : List String) (superclass : Option String)
    (hknown : ∀ name, superclass = some name → known name) :
    Paired (AncestryRel r) (walkAncestry s type met superclass)
      (walkAncestry s' type met superclass) := by
  -- on the walk in the first scope: each name on it is the superclass of a type before it, so it is
  -- known and the second walk takes the same turn
  fun_induction walkAncestry s type met superclass with
  | case1 met =>
    rw [walkAncestry_none]
    exact .pure ancestryRel_empty
  | case2 met name hroot =>
    have hroot' := h.isRootType_eq name (hknown name rfl) ▸ hroot
    rw [walkAncestry_of_root hroot']
    exact .pure ancestryRel_empty
  | case3 met name hroot hmet =>
    have hroot' := h.isRootType_eq name (hknown name rfl) ▸ hroot
    rw [walkAncestry_of_met hroot' hmet]
    exact .fail _
  | case4 met name hroot hmet hlook =>
    have hroot' := h.isRootType_eq name (hknown name rfl) ▸ hroot
    rw [walkAncestry_of_missing hroot' hmet (h.get?_eq_none name (hknown name rfl) hlook)]
    exact .report_bind _ _ (.pure ancestryRel_empty)
  | case5 met name hroot hmet p hlook hcomponent =>
    have hroot' := h.isRootType_eq name (hknown name rfl) ▸ hroot
    have hcomponent' := h.isComponent_eq name (hknown name rfl) ▸ hcomponent
    obtain ⟨p', hlook', hp⟩ := h.exists_get? name (hknown name rfl) p hlook
    rw [walkAncestry_of_component hroot' hmet hlook' hcomponent']
    exact .pure ⟨.nil, .some hp⟩
  | case6 met name hroot hmet p hlook hcomponent hless ih =>
    have hroot' := h.isRootType_eq name (hknown name rfl) ▸ hroot
    have hcomponent' := h.isComponent_eq name (hknown name rfl) ▸ hcomponent
    obtain ⟨p', hlook', hp⟩ := h.exists_get? name (hknown name rfl) p hlook
    rw [walkAncestry_of_further hroot' hmet hlook' hcomponent', ← h.superclass_eq p p' hp]
    apply (ih (h.known_superclass p p' hp)).bind
    rintro a a' ⟨hflattened, hparent⟩
    exact .pure ⟨.cons hp hflattened, hparent⟩

end ApiContract
