import ApiContract.Component.Ancestry
import ApiContract.Proofs.Candidates
/-!
# The walk up the superclasses, step by step

`walkAncestry` looks at one name after the other. Here it is taken apart into its steps, for every
scope and every class, and what it finds is stated by the sequence of names alone.

* `superclassName?`, `superclass?` : the successive superclasses of a class, by name and as types.
* `StopsAt`, `IsFirstStop` : the places with a reason to stop, and the first of them.
* `Climb` : where the walk stands. `Climb.step` looks at one name, `Climb.run` takes some steps, and
  `Climb.Takes` lists what a step can do.
* `Climb.run_eq` : a run of more steps than there are types left to meet ends as the walk does.
* `Climb.IsAt` : what holds after some steps; `Climb.IsAt.step` keeps it for one more step, and
  `exists_last_step` follows a whole walk.
* `superclass_walk` : when a class is refused, and what is copied and referred to otherwise.
-/

namespace ApiContract

/-! ## The sequence of superclasses -/

/-- The names of the successive superclasses of a class; each but the first is looked for in the
graph. -/
def superclassName? (graph : TypeGraph) (t : TypeDescriptor) : Nat → Option String
  | 0 => t.superclass
  | n + 1 => (superclassName? graph t n).bind fun name => (graph.get? name).bind (·.superclass)

/-- The successive superclasses of a class. -/
def superclass? (graph : TypeGraph) (t : TypeDescriptor) (n : Nat) : Option TypeDescriptor :=
  (superclassName? graph t n).bind graph.get?

/-- A name that is met at a place has been met before: it is that of the class itself, or stands at an
earlier place. -/
def IsRepetition (graph : TypeGraph) (t : TypeDescriptor) (n : Nat) (name : String) : Prop :=
  name = t.name ∨ ∃ m < n, superclassName? graph t m = some name

/-- The name at a place is a reason to stop: it is that of a root type, has been met before, is no
type of the graph, or is a component. -/
def StopsAt (scope : Scope) (t : TypeDescriptor) (n : Nat) (name : String) : Prop :=
  superclassName? scope.graph t n = some name ∧
    (scope.isRootType name = true ∨ IsRepetition scope.graph t n name ∨
      scope.graph.get? name = none ∨ scope.isComponent name = true)

/-- The first place with a reason to stop. -/
def IsFirstStop (scope : Scope) (t : TypeDescriptor) (n : Nat) (name : String) : Prop :=
  StopsAt scope t n name ∧ ∀ m < n, ∀ other, ¬ StopsAt scope t m other

variable {scope : Scope} {t : TypeDescriptor} {type name : String} {n : Nat}

/-- Behind the end of the sequence there are no names. -/
theorem superclassName?_eq_none_of_le {graph : TypeGraph} {m : Nat}
    (h : superclassName? graph t m = none) (hle : m ≤ n) : superclassName? graph t n = none := by
  induction hle with
  | refl => exact h
  | step _ ih => rw [superclassName?, ih, Option.bind_none]

theorem superclass?_eq_some_iff {graph : TypeGraph} {u : TypeDescriptor} :
    superclass? graph t n = some u ↔
      superclassName? graph t n = some u.name ∧ u ∈ graph.types := by
  rw [superclass?, Option.bind_eq_some_iff]
  constructor
  · rintro ⟨name, hname, hget⟩
    obtain ⟨hu, rfl⟩ := TypeGraph.get?_eq_some_iff.1 hget
    exact ⟨hname, hu⟩
  · rintro ⟨hname, hu⟩
    exact ⟨u.name, hname, TypeGraph.get?_of_mem hu⟩

theorem isRepetition_succ_iff {graph : TypeGraph} (h : superclassName? graph t n = some name)
    {other : String} :
    IsRepetition graph t (n + 1) other ↔ other = name ∨ IsRepetition graph t n other := by
  constructor
  · rintro (hself | ⟨m, hm, hother⟩)
    · exact .inr (.inl hself)
    · rcases Nat.lt_succ_iff_lt_or_eq.1 hm with hm | rfl
      · exact .inr (.inr ⟨m, hm, hother⟩)
      · exact .inl (Option.some.inj (hother.symm.trans h))
  · rintro (rfl | hself | ⟨m, hm, hother⟩)
    · exact .inr ⟨n, Nat.lt_succ_self n, h⟩
    · exact .inl hself
    · exact .inr ⟨m, Nat.lt_succ_of_lt hm, hother⟩

/-- A type to copy is no reason to stop. -/
theorem not_stopsAt {parent : TypeDescriptor} (hname : superclassName? scope.graph t n = some name)
    (hroot : scope.isRootType name = false) (hnew : ¬ IsRepetition scope.graph t n name)
    (hget : scope.graph.get? name = some parent) (hcomponent : scope.isComponent name = false)
    (other : String) : ¬ StopsAt scope t n other := by
  rintro ⟨hother, hreason⟩
  obtain rfl := Option.some.inj (hname.symm.trans hother)
  rcases hreason with hr | hr | hr | hr
  · exact Bool.false_ne_true (hroot.symm.trans hr)
  · exact hnew hr
  · cases hget.symm.trans hr
  · exact Bool.false_ne_true (hcomponent.symm.trans hr)

/-! ## Single steps -/

/-- Where a walk stands: the superclasses to copy, the nearest first, the names met so far, and the
name to look at next. -/
structure Climb where
  copied : List TypeDescriptor
  met : List String
  next : Option String

namespace Climb

variable {c c' : Climb} {outcome : Traced Ancestry}

/-- The walk for a class, before its first step. -/
def start (t : TypeDescriptor) : Climb := ⟨[], [t.name], t.superclass⟩

/-- Looks at the next name, for the class `type`: the walk ends or stands one superclass further. -/
def step (scope : Scope) (type : String) (c : Climb) : Climb ⊕ Traced Ancestry :=
  match c.next with
  | none => .inr (pure { flattened := c.copied })
  | some name =>
    if scope.isRootType name then .inr (pure { flattened := c.copied })
    else if name ∈ c.met then .inr (.fail (.configuration (.superclassCycle name type)))
    else
      match scope.graph.get? name with
      | none => .inr do
        Traced.report (.superclassMissing name type)
        pure { flattened := c.copied }
      | some parent =>
        if scope.isComponent name then .inr (pure { flattened := c.copied, parent := some parent })
        else .inl ⟨c.copied ++ [parent], name :: c.met, parent.superclass⟩

/-- Takes some steps, or fewer if the walk ends before. -/
def run (scope : Scope) (type : String) : Nat → Climb → Climb ⊕ Traced Ancestry
  | 0, c => .inl c
  | steps + 1, c =>
    match c.step scope type with
    | .inl c' => run scope type steps c'
    | .inr outcome => .inr outcome

/-- What a step can do: five ways to end the walk, and one to go on. -/
inductive Takes (scope : Scope) (type : String) (c : Climb) : Climb ⊕ Traced Ancestry → Prop
  | top (hnext : c.next = none) : Takes scope type c (.inr (pure { flattened := c.copied }))
  | root {name : String} (hnext : c.next = some name) (hroot : scope.isRootType name = true) :
      Takes scope type c (.inr (pure { flattened := c.copied }))
  | cycle {name : String} (hnext : c.next = some name) (hroot : scope.isRootType name = false)
      (hmet : name ∈ c.met) :
      Takes scope type c (.inr (.fail (.configuration (.superclassCycle name type))))
  | missing {name : String} (hnext : c.next = some name) (hroot : scope.isRootType name = false)
      (hmet : name ∉ c.met) (hnone : scope.graph.get? name = none) :
      Takes scope type c (.inr do
        Traced.report (.superclassMissing name type)
        pure { flattened := c.copied })
  | component {name : String} {parent : TypeDescriptor} (hnext : c.next = some name)
      (hroot : scope.isRootType name = false) (hmet : name ∉ c.met)
      (hget : scope.graph.get? name = some parent) (hcomponent : scope.isComponent name = true) :
      Takes scope type c (.inr (pure { flattened := c.copied, parent := some parent }))
  | copy {name : String} {parent : TypeDescriptor} (hnext : c.next = some name)
      (hroot : scope.isRootType name = false) (hmet : name ∉ c.met)
      (hget : scope.graph.get? name = some parent) (hcomponent : scope.isComponent name = false) :
      Takes scope type c (.inl ⟨c.copied ++ [parent], name :: c.met, parent.superclass⟩)

theorem takes_step (scope : Scope) (type : String) (c : Climb) :
    c.Takes scope type (c.step scope type) := by
  rw [step]
  split
  · next hnext => exact .top hnext
  · next name hnext =>
    split
    · next hroot => exact .root hnext hroot
    · next hroot =>
      rw [Bool.not_eq_true] at hroot
      split
      · next hmet => exact .cycle hnext hroot hmet
      · next hmet =>
        split
        · next hnone => exact .missing hnext hroot hmet hnone
        · next parent hget =>
          split
          · next hcomponent => exact .component hnext hroot hmet hget hcomponent
          · next hcomponent =>
            exact .copy hnext hroot hmet hget (Bool.not_eq_true _ ▸ hcomponent)

/-! ## A run is the walk -/

/-- An outcome behind the superclasses that were copied before. -/
def behind (copied : List TypeDescriptor) (a : Ancestry) : Ancestry :=
  { a with flattened := copied ++ a.flattened }

theorem behind_append (copied : List TypeDescriptor) (parent : TypeDescriptor) :
    behind (copied ++ [parent]) =
      fun a => behind copied { a with flattened := parent :: a.flattened } := by
  funext a
  simp [behind]

/-- A run of more steps than there are types left to meet ends, and as the walk does. -/
theorem run_eq (scope : Scope) (type : String) (met : List String) (next : Option String)
    (copied : List TypeDescriptor) (steps : Nat) (h : unmet scope.graph.types met < steps) :
    run scope type steps ⟨copied, met, next⟩ =
      .inr (behind copied <$> walkAncestry scope type met next) := by
  obtain ⟨steps, rfl⟩ := Nat.exists_eq_succ_of_ne_zero (Nat.ne_zero_of_lt h)
  -- the walk passes one type at each step, which has not been met before
  fun_induction walkAncestry scope type met next generalizing copied steps with
  | case1 met => simp [run, step, behind]
  | case2 met name hroot => simp [run, step, behind, hroot]
  | case3 met name hroot hmet =>
    rw [show behind copied <$> Traced.fail _ = Traced.fail _ from rfl]
    simp [run, step, hroot, hmet]
  | case4 met name hroot hmet hnone => simp [run, step, behind, hroot, hmet, hnone]
  | case5 met name hroot hmet parent hget hcomponent =>
    simp [run, step, behind, hroot, hmet, hget, hcomponent]
  | case6 met name hroot hmet parent hget hcomponent hless ih =>
    obtain ⟨fewer, rfl⟩ := Nat.exists_eq_succ_of_ne_zero (n := steps) (by omega)
    have hrun := ih (copied ++ [parent]) fewer (by omega)
    rw [behind_append] at hrun
    simpa [run, step, hroot, hmet, hget, hcomponent] using hrun

/-- The walk for a class ends after at most one step more than there are types. -/
theorem run_start (scope : Scope) (t : TypeDescriptor) :
    run scope t.name (scope.graph.size + 1) (start t) = .inr (resolveAncestry scope t) := by
  have hunmet : unmet scope.graph.types [t.name] < scope.graph.size + 1 :=
    Nat.lt_succ_of_le List.countP_le_length
  rw [start, run_eq scope t.name [t.name] t.superclass [] _ hunmet]
  exact congrArg Sum.inr (id_map _)

/-! ## What a step keeps -/

/-- The walk for the class `t` stands behind `steps` superclasses, none of them a reason to stop. -/
structure IsAt (scope : Scope) (t : TypeDescriptor) (steps : Nat) (c : Climb) : Prop where
  next_eq : c.next = superclassName? scope.graph t steps
  copied_eq : c.copied.map some = (List.range steps).map (superclass? scope.graph t)
  mem_met : ∀ name, name ∈ c.met ↔ IsRepetition scope.graph t steps name
  passed : ∀ m < steps, ∀ name, ¬ StopsAt scope t m name

namespace IsAt

variable {steps : Nat}

theorem start (scope : Scope) (t : TypeDescriptor) : (Climb.start t).IsAt scope t 0 := by
  refine ⟨rfl, rfl, fun name => ?_, nofun⟩
  simp [Climb.start, IsRepetition]

theorem step (h : c.IsAt scope t steps) (hstep : c.Takes scope t.name (.inl c')) :
    c'.IsAt scope t (steps + 1) := by
  cases hstep with
  | @copy name parent hnext hroot hmet hget hcomponent =>
    have hname : superclassName? scope.graph t steps = some name := h.next_eq ▸ hnext
    have hnew : ¬ IsRepetition scope.graph t steps name := fun hr => hmet ((h.mem_met name).2 hr)
    refine ⟨?_, ?_, fun other => ?_, fun m hm other => ?_⟩
    · rw [superclassName?, hname, Option.bind_some, hget, Option.bind_some]
    · rw [List.map_append, h.copied_eq, List.range_succ, List.map_append, List.map_singleton,
        List.map_singleton, superclass?, hname, Option.bind_some, hget]
    · rw [List.mem_cons, h.mem_met, isRepetition_succ_iff hname]
    · rcases Nat.lt_succ_iff_lt_or_eq.1 hm with hm | rfl
      · exact h.passed m hm other
      · exact not_stopsAt hname hroot hnew hget hcomponent other

/-- A run that ends has a last step, and stands behind superclasses to copy before it. -/
theorem exists_last_step {fuel : Nat} (h : c.IsAt scope t steps)
    (hrun : c.run scope t.name fuel = .inr outcome) :
    ∃ last < steps + fuel, ∃ c' : Climb, c'.IsAt scope t last ∧
      c'.Takes scope t.name (.inr outcome) := by
  induction fuel generalizing c steps with
  | zero => cases hrun
  | succ fuel ih =>
    have htakes := takes_step scope t.name c
    rw [run] at hrun
    cases hstep : c.step scope t.name with
    | inl c' =>
      rw [hstep] at hrun htakes
      obtain ⟨last, hlast, hc'⟩ := ih (h.step htakes) hrun
      exact ⟨last, by omega, hc'⟩
    | inr outcome' =>
      rw [hstep] at hrun htakes
      obtain rfl := Sum.inr.inj hrun
      exact ⟨steps, by omega, c, h, htakes⟩

theorem exists_place (h : c.IsAt scope t steps) {u : TypeDescriptor} (hu : u ∈ c.copied) :
    ∃ m < steps, superclass? scope.graph t m = some u := by
  have hmem : some u ∈ (List.range steps).map (superclass? scope.graph t) :=
    h.copied_eq ▸ List.mem_map_of_mem hu
  obtain ⟨m, hm, hat⟩ := List.mem_map.1 hmem
  exact ⟨m, List.mem_range.1 hm, hat⟩

/-- A superclass that is copied is neither a component nor a root type. -/
theorem of_mem_copied (h : c.IsAt scope t steps) {u : TypeDescriptor} (hu : u ∈ c.copied) :
    scope.isComponent u.name = false ∧ scope.isRootType u.name = false := by
  obtain ⟨m, hm, hat⟩ := h.exists_place hu
  have hname := (superclass?_eq_some_iff.1 hat).1
  constructor
  · by_contra hcomponent
    exact h.passed m hm u.name ⟨hname, .inr (.inr (.inr (Bool.not_eq_false _ ▸ hcomponent)))⟩
  · by_contra hroot
    exact h.passed m hm u.name ⟨hname, .inl (Bool.not_eq_false _ ▸ hroot)⟩

theorem not_isRepetition (h : c.IsAt scope t steps) {m : Nat} (hm : m < steps) {u : TypeDescriptor}
    (hu : superclass? scope.graph t m = some u) : ¬ IsRepetition scope.graph t m u.name :=
  fun hr => h.passed m hm u.name ⟨(superclass?_eq_some_iff.1 hu).1, .inr (.inl hr)⟩

/-- No superclass is copied twice, and the class is not copied into itself. -/
theorem nodup_copied (h : c.IsAt scope t steps) : (t.name :: c.copied.map (·.name)).Nodup := by
  have hplaces : ((List.range steps).map (superclass? scope.graph t)).Nodup := by
    refine List.pairwise_map.2 (List.pairwise_lt_range.imp_of_mem ?_)
    intro m later _ hlater hlt heq
    -- a type at two places would be a repetition at the later one
    have hmem : superclass? scope.graph t later ∈ c.copied.map some :=
      h.copied_eq ▸ List.mem_map_of_mem hlater
    obtain ⟨u, -, hu⟩ := List.mem_map.1 hmem
    exact h.not_isRepetition (List.mem_range.1 hlater) hu.symm
      (.inr ⟨m, hlt, (superclass?_eq_some_iff.1 (heq.trans hu.symm)).1⟩)
  rw [← h.copied_eq] at hplaces
  refine List.nodup_cons.2 ⟨fun hself => ?_, hplaces.of_map.map_on fun u hu v hv hname => ?_⟩
  · obtain ⟨u, hu, hname⟩ := List.mem_map.1 hself
    obtain ⟨m, hm, hat⟩ := h.exists_place hu
    exact h.not_isRepetition hm hat (.inl hname)
  · obtain ⟨_, -, hu⟩ := h.exists_place hu
    obtain ⟨_, -, hv⟩ := h.exists_place hv
    exact TypeGraph.eq_of_name_eq (superclass?_eq_some_iff.1 hu).2
      (superclass?_eq_some_iff.1 hv).2 hname

/-! ## Where a walk ends -/

/-- A name at which the walk ends is a reason to stop. -/
theorem stopsAt (h : c.IsAt scope t steps) (hend : c.Takes scope t.name (.inr outcome))
    (hnext : c.next = some name) : StopsAt scope t steps name := by
  refine ⟨h.next_eq ▸ hnext, ?_⟩
  cases hend with
  | top hnone => cases hnext.symm.trans hnone
  | root hname hroot =>
    obtain rfl := Option.some.inj (hnext.symm.trans hname)
    exact .inl hroot
  | cycle hname _ hmet =>
    obtain rfl := Option.some.inj (hnext.symm.trans hname)
    exact .inr (.inl ((h.mem_met _).1 hmet))
  | missing hname _ _ hnone =>
    obtain rfl := Option.some.inj (hnext.symm.trans hname)
    exact .inr (.inr (.inl hnone))
  | component hname _ _ _ hcomponent =>
    obtain rfl := Option.some.inj (hnext.symm.trans hname)
    exact .inr (.inr (.inr hcomponent))

/-- The walk ends at the first place with a reason to stop, if there is one. -/
theorem isFirstStop_iff (h : c.IsAt scope t steps)
    (hend : c.Takes scope t.name (.inr outcome)) :
    IsFirstStop scope t n name ↔ n = steps ∧ c.next = some name := by
  constructor
  · rintro ⟨hstop, hfirst⟩
    rcases Nat.lt_trichotomy n steps with hlt | rfl | hlt
    · exact absurd hstop (h.passed n hlt name)
    · exact ⟨rfl, h.next_eq.trans hstop.1⟩
    · cases hnext : c.next with
      | none =>
        have hnone := superclassName?_eq_none_of_le (h.next_eq ▸ hnext) (Nat.le_of_lt hlt)
        cases hnone.symm.trans hstop.1
      | some other => exact absurd (h.stopsAt hend hnext) (hfirst steps hlt other)
  · rintro ⟨rfl, hnext⟩
    exact ⟨h.stopsAt hend hnext, h.passed⟩

end IsAt

namespace Takes

/-- The walk is refused exactly at a name that has been met. -/
theorem result_eq_error_iff (h : c.Takes scope type (.inr outcome)) {fault : Fault} :
    outcome.result = .error fault ↔ ∃ name, c.next = some name ∧ name ∈ c.met ∧
      scope.isRootType name = false ∧ fault = .configuration (.superclassCycle name type) := by
  constructor
  · intro hf
    cases h with
    | cycle hnext hroot hmet => exact ⟨_, hnext, hmet, hroot, (Except.error.inj hf).symm⟩
    | top | root | missing | component => cases hf
  · rintro ⟨name, hnext, hmet, hroot, rfl⟩
    cases h with
    | top hnone => cases hnext.symm.trans hnone
    | root hname hr =>
      obtain rfl := Option.some.inj (hnext.symm.trans hname)
      cases hr.symm.trans hroot
    | cycle hname =>
      obtain rfl := Option.some.inj (hnext.symm.trans hname)
      rfl
    | missing hname _ hnew | component hname _ hnew =>
      obtain rfl := Option.some.inj (hnext.symm.trans hname)
      exact absurd hmet hnew

/-- A walk that ends copies what has been passed. -/
theorem flattened_eq (h : c.Takes scope type (.inr outcome)) {ancestry : Ancestry}
    (hr : outcome.result = .ok ancestry) : ancestry.flattened = c.copied := by
  cases h with
  | cycle => cases hr
  | top | root | missing | component =>
    obtain rfl := Except.ok.inj hr
    rfl

/-- A walk that ends refers to the next superclass, if that is a component. -/
theorem parent_eq_some_iff (h : c.Takes scope type (.inr outcome)) {ancestry : Ancestry}
    (hr : outcome.result = .ok ancestry) {p : TypeDescriptor} :
    ancestry.parent = some p ↔ c.next = some p.name ∧ scope.graph.get? p.name = some p ∧
      scope.isComponent p.name = true ∧ scope.isRootType p.name = false := by
  constructor
  · intro hp
    cases h with
    | cycle => cases hr
    | top | root | missing =>
      obtain rfl := Except.ok.inj hr
      cases hp
    | component hnext hroot _ hget hcomponent =>
      obtain rfl := Except.ok.inj hr
      obtain rfl := Option.some.inj hp
      obtain rfl := TypeGraph.name_of_get? hget
      exact ⟨hnext, hget, hcomponent, hroot⟩
  · rintro ⟨hnext, hget, hcomponent, hroot⟩
    cases h with
    | cycle => cases hr
    | top hnone => cases hnext.symm.trans hnone
    | root hname hr =>
      obtain rfl := Option.some.inj (hnext.symm.trans hname)
      cases hr.symm.trans hroot
    | missing hname _ _ hnone =>
      obtain rfl := Option.some.inj (hnext.symm.trans hname)
      cases hnone.symm.trans hget
    | component hname _ _ hparent =>
      obtain rfl := Option.some.inj (hnext.symm.trans hname)
      obtain rfl := Option.some.inj (hparent.symm.trans hget)
      exact congrArg Ancestry.parent (Except.ok.inj hr).symm

end Takes

/-- The last step of the walk for a class. -/
theorem exists_last_step (scope : Scope) (t : TypeDescriptor) :
    ∃ steps ≤ scope.graph.size, ∃ c : Climb, c.IsAt scope t steps ∧
      c.Takes scope t.name (.inr (resolveAncestry scope t)) := by
  obtain ⟨steps, hsteps, hlast⟩ := (IsAt.start scope t).exists_last_step (run_start scope t)
  exact ⟨steps, by omega, hlast⟩

end Climb

/-- The walk up the superclasses of a class takes at most one step more than there are types. It is
refused exactly if the first reason to stop is a name that has been met and is not that of a root
type. Otherwise it copies the superclasses before that place, or all of them if there is none: types
that differ from the class and from each other, none of them a component or a root type. It refers to
the type at that place exactly if that is a component and no root type. -/
theorem superclass_walk (scope : Scope) (t : TypeDescriptor) :
    (Climb.start t).run scope t.name (scope.graph.size + 1) = .inr (resolveAncestry scope t) ∧
    (∀ fault, (resolveAncestry scope t).result = .error fault ↔
      ∃ n name, IsFirstStop scope t n name ∧ IsRepetition scope.graph t n name ∧
        scope.isRootType name = false ∧
        fault = .configuration (.superclassCycle name t.name)) ∧
    ∀ ancestry, (resolveAncestry scope t).result = .ok ancestry →
      (∀ n name, IsFirstStop scope t n name →
        ancestry.flattened.map some = (List.range n).map (superclass? scope.graph t)) ∧
      ((∀ n name, ¬ IsFirstStop scope t n name) →
        ∃ n, superclassName? scope.graph t n = none ∧
          ancestry.flattened.map some = (List.range n).map (superclass? scope.graph t)) ∧
      (t.name :: ancestry.flattened.map (·.name)).Nodup ∧
      (∀ u ∈ ancestry.flattened,
        scope.isComponent u.name = false ∧ scope.isRootType u.name = false) ∧
      ∀ p, ancestry.parent = some p ↔ ∃ n, IsFirstStop scope t n p.name ∧
        scope.graph.get? p.name = some p ∧ scope.isComponent p.name = true ∧
        scope.isRootType p.name = false := by
  obtain ⟨steps, -, c, hat, hend⟩ := Climb.exists_last_step scope t
  refine ⟨Climb.run_start scope t, fun fault => ?_, fun ancestry hr => ?_⟩
  · rw [hend.result_eq_error_iff]
    constructor
    · rintro ⟨name, hnext, hmet, hroot, rfl⟩
      exact ⟨steps, name, (hat.isFirstStop_iff hend).2 ⟨rfl, hnext⟩, (hat.mem_met name).1 hmet,
        hroot, rfl⟩
    · rintro ⟨n, name, hfirst, hrepetition, hroot, rfl⟩
      obtain ⟨rfl, hnext⟩ := (hat.isFirstStop_iff hend).1 hfirst
      exact ⟨name, hnext, (hat.mem_met name).2 hrepetition, hroot, rfl⟩
  · rw [hend.flattened_eq hr]
    refine ⟨fun n name hfirst => ?_, fun hnone => ⟨steps, ?_, hat.copied_eq⟩, hat.nodup_copied,
      fun u hu => hat.of_mem_copied hu, fun p => ?_⟩
    · obtain ⟨rfl, -⟩ := (hat.isFirstStop_iff hend).1 hfirst
      exact hat.copied_eq
    · rw [← hat.next_eq, Option.eq_none_iff_forall_ne_some]
      exact fun name hnext => hnone steps name ((hat.isFirstStop_iff hend).2 ⟨rfl, hnext⟩)
    · rw [hend.parent_eq_some_iff hr, exists_and_right]
      refine and_congr_left fun _ => ⟨fun hnext => ⟨steps, ?_⟩, fun ⟨n, hfirst⟩ => ?_⟩
      · exact (hat.isFirstStop_iff hend).2 ⟨rfl, hnext⟩
      · exact ((hat.isFirstStop_iff hend).1 hfirst).2

/-! ## A walk that is composed, and one that is refused -/

/-- A component that is its own superclass. -/
def basicClass : TypeDescriptor where
  name := "shop.Basic"
  superclass := some "shop.Basic"

/-- A class outside the namespace of the components. -/
def mixinClass : TypeDescriptor where
  name := "lib.Mixin"
  superclass := some "shop.Basic"

/-- A component whose own superclass is not one. -/
def specialClass : TypeDescriptor where
  name := "shop.Special"
  superclass := some "lib.Mixin"

/-- The types in the namespace of the shop are components. -/
def mixinScope : Scope where
  graph := { types := [specialClass, mixinClass, basicClass], nodup_names := by decide +kernel }
  namespaces := ⟨[⟨"shop", [.literal "shop".toList]⟩]⟩

/-- The mixin is copied and the component behind it is referred to. The component itself is refused:
that its superclass is a component counts less than that it has been met. -/
theorem superclass_walk_mixin :
    (∃ ancestry, (resolveAncestry mixinScope specialClass).result = .ok ancestry ∧
      ancestry.flattened.map some = [some mixinClass] ∧ ancestry.parent = some basicClass) ∧
    (resolveAncestry mixinScope basicClass).result =
      .error (.configuration (.superclassCycle "shop.Basic" "shop.Basic")) := by
  have hbasic : mixinScope.isComponent "shop.Basic" = true := by decide +kernel
  have hstop : IsFirstStop mixinScope specialClass 1 "shop.Basic" := by
    refine ⟨⟨by decide +kernel, .inr (.inr (.inr hbasic))⟩, fun m hm => ?_⟩
    obtain rfl := Nat.lt_one_iff.1 hm
    have hnew : ¬ IsRepetition mixinScope.graph specialClass 0 "lib.Mixin" := by
      rintro (hself | ⟨m, hm, -⟩)
      · exact absurd hself (by decide +kernel)
      · exact Nat.not_lt_zero m hm
    have hget : mixinScope.graph.get? "lib.Mixin" = some mixinClass := by decide +kernel
    exact not_stopsAt rfl (by decide +kernel) hnew hget (by decide +kernel)
  constructor
  · obtain ⟨ancestry, ha⟩ := exists_eq_ok_of_toBool
      (show (resolveAncestry mixinScope specialClass).result.toBool = true by decide +kernel)
    obtain ⟨hflattened, -, -, -, hparent⟩ :=
      (superclass_walk mixinScope specialClass).2.2 ancestry ha
    refine ⟨ancestry, ha, ?_, (hparent basicClass).2 ⟨1, hstop, by decide +kernel, hbasic, rfl⟩⟩
    rw [hflattened 1 "shop.Basic" hstop]
    decide +kernel
  · refine ((superclass_walk mixinScope basicClass).2.1 _).2
      ⟨0, "shop.Basic", ⟨⟨rfl, .inr (.inl (.inl rfl))⟩, fun m hm => ?_⟩, .inl rfl, rfl, rfl⟩
    exact absurd hm (Nat.not_lt_zero m)

end ApiContract
