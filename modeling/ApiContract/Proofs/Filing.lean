import ApiContract.Proofs.Generation
/-!
# Filing operations

A document holds its operations by path and then by verb. An operation that is filed under a free
place is added to the others and moves none of them. So a document that is assembled holds exactly
the operations that were handed over, and it is assembled as long as no two of them share path and
verb.

* `Document.IsFiled` : each operation stands under its own path and verb.
* `IsFiled.operation?_eq_some_iff` : look-up is membership.
* `isFiled_insertOperation`, `operations_insertOperation_perm` : what one operation changes.
* `isFiled_assemble`, `exists_assemble_iff` : what all of them give, and when they can be filed.
* `result_assemble_of_paths_eq` : filing does not depend on the components.
* `isIncreasing_components_of_generateIn`, `keys_components_eq` : components stand in the order of
  their names, which the candidates determine.
-/

namespace ApiContract

open scoped List

instance isStrictTotalOrder_verb : IsStrictTotalOrder Verb (· < ·) where
  irrefl v := Nat.lt_irrefl v.rank
  trans _ _ _ := Nat.lt_trans (m := _)
  trichotomous _ _ h h' := Verb.rank_injective (Nat.le_antisymm (Nat.le_of_not_lt h')
    (Nat.le_of_not_lt h))

/-- The path and the verb of an operation. -/
def Operation.key (o : Operation) : String × Verb := (o.path, o.verb)

namespace Document

/-- The operations on a path, by verb. -/
def operationsAt (d : Document) (path : String) : Assoc Verb Operation :=
  (d.paths.get? path).getD []

/-- Paths increase, and so do the verbs on each path; each operation stands under its own path and
verb. -/
structure IsFiled (d : Document) : Prop where
  paths : d.paths.IsIncreasing
  verbs : ∀ path operations, (path, operations) ∈ d.paths → operations.IsIncreasing
  own : ∀ path operations, (path, operations) ∈ d.paths →
    ∀ verb o, (verb, o) ∈ operations → o.key = (path, verb)

theorem isFiled_of_paths_eq_nil {d : Document} (h : d.paths = []) : d.IsFiled :=
  ⟨by rw [h]; exact List.Pairwise.nil, by simp [h], by simp [h]⟩

theorem operation?_eq (d : Document) (path : String) (verb : Verb) :
    d.operation? path verb = (d.operationsAt path).get? verb := by
  rw [operation?, operationsAt]
  cases d.paths.get? path with
  | none => rfl
  | some operations => rfl

theorem mem_operationsAt {d : Document} {path : String} {p : Verb × Operation}
    (h : p ∈ d.operationsAt path) :
    ∃ operations, (path, operations) ∈ d.paths ∧ p ∈ operations := by
  rw [operationsAt] at h
  cases hget : d.paths.get? path with
  | none =>
    rw [hget] at h
    cases h
  | some operations =>
    rw [hget] at h
    exact ⟨operations, Assoc.mem_of_get? hget, h⟩

variable {d d' : Document} {o : Operation}

namespace IsFiled

theorem isIncreasing_operationsAt (h : d.IsFiled) (path : String) :
    (d.operationsAt path).IsIncreasing := by
  rw [operationsAt]
  cases hget : d.paths.get? path with
  | none => exact List.Pairwise.nil
  | some operations => exact h.verbs path operations (Assoc.mem_of_get? hget)

/-- The operation at a place is the one that has path and verb of the place. -/
theorem operation?_eq_some_iff (h : d.IsFiled) {path : String} {verb : Verb} :
    d.operation? path verb = some o ↔ o ∈ d.operations ∧ o.key = (path, verb) := by
  rw [mem_operations]
  constructor
  · intro hget
    rw [operation?_eq] at hget
    obtain ⟨operations, hp, hv⟩ := mem_operationsAt (Assoc.mem_of_get? hget)
    exact ⟨⟨path, operations, verb, hp, hv⟩, h.own path operations hp verb o hv⟩
  · rintro ⟨⟨path', operations, verb', hp, hv⟩, hkey⟩
    obtain ⟨rfl, rfl⟩ := Prod.mk.inj ((h.own path' operations hp verb' o hv).symm.trans hkey)
    rw [operation?, Assoc.get?_of_mem h.paths.nodup hp]
    exact Assoc.get?_of_mem (h.verbs path' operations hp).nodup hv

theorem operation?_eq_none_iff (h : d.IsFiled) {path : String} {verb : Verb} :
    d.operation? path verb = none ↔ (path, verb) ∉ d.operations.map Operation.key := by
  rw [Option.eq_none_iff_forall_ne_some, List.mem_map, not_exists]
  exact forall_congr' fun _ => not_congr h.operation?_eq_some_iff

/-- The operations on a path, and those on the other paths. -/
theorem operations_perm (h : d.IsFiled) (path : String) :
    d.operations.Perm
      ((d.operationsAt path).values ++ (d.paths.erase path).values.flatMap Assoc.values) := by
  rw [operations, operationsAt]
  cases hget : d.paths.get? path with
  | none => rw [Assoc.erase_of_not_mem (Assoc.get?_eq_none_iff.1 hget)]; rfl
  | some known => exact ((Assoc.perm_erase_of_get? h.paths.nodup hget).map _).flatMap_right _

end IsFiled

/-! ## One operation -/

theorem isFiled_insertOperation (h : d.IsFiled) (o : Operation) :
    (d.insertOperation o).IsFiled := by
  have hverbs := Assoc.isIncreasing_insertSorted (h.isIncreasing_operationsAt o.path) o.verb o
  refine ⟨Assoc.isIncreasing_insertSorted h.paths _ _, ?_, ?_⟩
  · intro path operations hp
    rcases Assoc.mem_of_mem_insertSorted hp with heq | hp
    · obtain ⟨-, rfl⟩ := Prod.mk.inj heq
      exact hverbs
    · exact h.verbs path operations hp
  · intro path operations hp verb o' hv
    rcases Assoc.mem_of_mem_insertSorted hp with heq | hp
    · obtain ⟨rfl, rfl⟩ := Prod.mk.inj heq
      rcases Assoc.mem_of_mem_insertSorted hv with heq | hv
      · obtain ⟨rfl, rfl⟩ := Prod.mk.inj heq
        rfl
      · obtain ⟨known, hp, hv⟩ := mem_operationsAt hv
        exact h.own o.path known hp verb o' hv
    · exact h.own path operations hp verb o' hv

/-- An operation that is filed under a free place is added to the others. -/
theorem operations_insertOperation_perm (h : d.IsFiled)
    (hfree : d.operation? o.path o.verb = none) :
    (d.insertOperation o).operations.Perm (o :: d.operations) := by
  have hverb : o.verb ∉ (d.operationsAt o.path).keys := by
    rw [operation?_eq] at hfree
    exact Assoc.get?_eq_none_iff.1 hfree
  have hhere : ((d.operationsAt o.path).insertSorted o.verb o).values.Perm
      (o :: (d.operationsAt o.path).values) := by
    have := Assoc.insertSorted_perm (h.isIncreasing_operationsAt o.path) o.verb o
    rw [Assoc.erase_of_not_mem hverb] at this
    exact this.map Prod.snd
  calc (d.insertOperation o).operations
      _ ~ ((d.operationsAt o.path).insertSorted o.verb o).values ++
            (d.paths.erase o.path).values.flatMap Assoc.values :=
          ((Assoc.insertSorted_perm h.paths o.path _).map Prod.snd).flatMap_right _
      _ ~ o :: (d.operationsAt o.path).values ++
            (d.paths.erase o.path).values.flatMap Assoc.values := hhere.append_right _
      _ ~ o :: d.operations := ((h.operations_perm o.path).symm.cons o)

end Document

/-! ## All operations -/

variable {d d' : Document} {operations : List Operation}

/-- Assembling files each operation that is handed over, once. -/
theorem isFiled_assemble (h : d.IsFiled) (hr : (assemble d operations).result = .ok d') :
    d'.IsFiled ∧ d'.operations.Perm (d.operations ++ operations) := by
  induction operations generalizing d with
  | nil =>
    obtain rfl := Except.ok.inj hr
    exact ⟨h, by rw [List.append_nil]⟩
  | cons o rest ih =>
    rw [assemble] at hr
    split at hr
    · cases hr
    · next hfree =>
      obtain ⟨hfiled, hperm⟩ := ih (Document.isFiled_insertOperation h o) hr
      have hstep := Document.operations_insertOperation_perm h hfree
      exact ⟨hfiled, hperm.trans ((hstep.append_right rest).trans List.perm_middle.symm)⟩

/-- Operations can be filed exactly if their places differ and are free. -/
theorem exists_assemble_iff (h : d.IsFiled) :
    (∃ d', (assemble d operations).result = .ok d') ↔
      (operations.map Operation.key).Nodup ∧
        ∀ o ∈ operations, o.key ∉ d.operations.map Operation.key := by
  induction operations generalizing d with
  | nil => exact ⟨fun _ => ⟨List.nodup_nil, by simp⟩, fun _ => ⟨d, rfl⟩⟩
  | cons o rest ih =>
    rw [assemble, List.map_cons, List.nodup_cons, List.forall_mem_cons]
    cases hfirst : d.operation? o.path o.verb with
    | some first =>
      have hmem : o.key ∈ d.operations.map Operation.key := by
        obtain ⟨hfirst, hkey⟩ := h.operation?_eq_some_iff.1 hfirst
        exact List.mem_map.2 ⟨first, hfirst, hkey⟩
      constructor
      · rintro ⟨d', hd'⟩
        cases hd'
      · intro hfree
        exact absurd hmem hfree.2.1
    | none =>
      have hfree : o.key ∉ d.operations.map Operation.key := h.operation?_eq_none_iff.1 hfirst
      have hkeys : ∀ k, k ∈ (d.insertOperation o).operations.map Operation.key ↔
          k = o.key ∨ k ∈ d.operations.map Operation.key := fun k => by
        rw [((Document.operations_insertOperation_perm h hfirst).map _).mem_iff, List.map_cons,
          List.mem_cons]
      simp only [ih (Document.isFiled_insertOperation h o), hkeys, not_or]
      constructor
      · rintro ⟨hnodup, hrest⟩
        refine ⟨⟨fun hmem => ?_, hnodup⟩, hfree, fun o' ho' => (hrest o' ho').2⟩
        obtain ⟨o', ho', hkey⟩ := List.mem_map.1 hmem
        exact (hrest o' ho').1 hkey
      · rintro ⟨⟨hnew, hnodup⟩, -, hrest⟩
        refine ⟨hnodup, fun o' ho' => ⟨fun hkey => hnew ?_, hrest o' ho'⟩⟩
        exact List.mem_map.2 ⟨o', ho', hkey⟩

/-- Filing only looks at the paths that are there. -/
theorem result_assemble_of_paths_eq {out : Document}
    (hr : (assemble d operations).result = .ok out) (hpaths : d'.paths = d.paths) :
    ∃ out', (assemble d' operations).result = .ok out' ∧ out'.paths = out.paths := by
  induction operations generalizing d d' with
  | nil =>
    obtain rfl := Except.ok.inj hr
    exact ⟨d', rfl, hpaths⟩
  | cons o rest ih =>
    have hplace : d'.operation? o.path o.verb = d.operation? o.path o.verb := by
      unfold Document.operation?
      rw [hpaths]
    have hnext : (d'.insertOperation o).paths = (d.insertOperation o).paths := by
      unfold Document.insertOperation
      rw [hpaths]
    rw [assemble] at hr ⊢
    rw [hplace]
    split at hr
    · cases hr
    · exact ih hr hnext

/-! ## Components in order -/

/-- The components of a document stand in the order of their names. -/
theorem isIncreasing_componentsOf {scope : Scope} {hooks : Hooks} {owners : Assoc String String}
    {components out : Assoc String Schema} {types : List TypeDescriptor}
    (h : components.IsIncreasing)
    (hr : (componentsOf scope hooks owners components types).result = .ok out) :
    out.IsIncreasing := by
  induction types generalizing owners components with
  | nil =>
    obtain rfl := Except.ok.inj hr
    exact h
  | cons t rest ih =>
    rw [componentsOf] at hr
    split at hr
    · cases hr
    · obtain ⟨s, -, hr⟩ := Traced.result_bind_eq_ok.1 hr
      exact ih (Assoc.isIncreasing_insertSorted h _ _) hr

theorem isIncreasing_components_of_generateIn {config : Config} {hooks : Hooks} {graph : TypeGraph}
    {scope : Scope} {handlers : NamespaceMatcher}
    (h : (generateIn config hooks graph scope handlers).result = .ok d) :
    d.components.IsIncreasing := by
  obtain ⟨components, operations, hc, -, hassemble⟩ := result_generateIn_eq_ok.1 h
  have hempty : Assoc.IsIncreasing ([] : Assoc String Schema) := List.Pairwise.nil
  rw [(result_assemble_eq_ok hassemble).1]
  exact isIncreasing_componentsOf hempty hc

/-- Documents that are generated from the same candidates have the same component names. -/
theorem keys_components_eq {config config' : Config} {hooks hooks' : Hooks}
    {graph graph' : TypeGraph} {scope scope' : Scope} {handlers handlers' : NamespaceMatcher}
    (hd : (generateIn config hooks graph scope handlers).result = .ok d)
    (hd' : (generateIn config' hooks' graph' scope' handlers').result = .ok d')
    (h : (candidateTypes config hooks graph).Perm (candidateTypes config' hooks' graph')) :
    d.components.keys = d'.components.keys := by
  have hkeys := (componentsAdded_of_generateIn hd).keys_perm
  have hkeys' := (componentsAdded_of_generateIn hd').keys_perm
  rw [Assoc.keys_nil, List.nil_append] at hkeys hkeys'
  exact (isIncreasing_components_of_generateIn hd).keys_eq
    (isIncreasing_components_of_generateIn hd') (hkeys.trans ((h.map _).trans hkeys'.symm))

/-! ## New identifiers -/

variable {ids : List String}

theorem map_key_withIds (h : ids.length = operations.length) :
    (withIds operations ids).map Operation.key = operations.map Operation.key := by
  induction operations generalizing ids with
  | nil => rfl
  | cons o rest ih =>
    cases ids with
    | nil => cases h
    | cons id ids => exact congrArg (o.key :: ·) (ih (Nat.succ.inj h))

theorem map_id_withIds (h : ids.length = operations.length) :
    (withIds operations ids).map (·.id) = ids := by
  induction operations generalizing ids with
  | nil => exact (List.eq_nil_of_length_eq_zero h).symm
  | cons o rest ih =>
    cases ids with
    | nil => cases h
    | cons id ids => exact congrArg (id :: ·) (ih (Nat.succ.inj h))

end ApiContract
