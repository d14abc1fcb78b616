import Mathlib.Logic.Relation
import ApiContract.Component.Ancestry
import ApiContract.Proofs.Candidates
/-!
# Superclass chains

The superclasses of a class are looked for along its chain of superclasses, up to the first that is
a candidate, a root type or no type of the graph. What is found, and when the chain is refused, is
stated here in terms of the links between types, without reference to the walk.

* `IsSuperclass` : the links; `ComesBack` : following links comes back to something passed before.
* `Walk` : the steps of the walk, one constructor for each reason to stop and one to go on.
* `result_resolveAncestry_error_iff` : a class is refused exactly if its chain comes back before it
  meets another candidate.
* `parent_resolveAncestry_iff` : the superclass that is referred to is the nearest candidate.
* `mem_flattened_resolveAncestry_iff` : the superclasses that are copied are those before it.
-/

namespace ApiContract

open Relation

/-! ## Links that come back -/

/-- Following links comes back to something that has been passed. -/
def ComesBack {α : Type} (link : α → α → Prop) (a : α) : Prop :=
  ∃ b, ReflTransGen link a b ∧ TransGen link b b

theorem not_comesBack_of_acc {α : Type} {link : α → α → Prop} {a : α}
    (h : Acc (fun b a => link a b) a) : ¬ ComesBack link a := by
  induction h with
  | intro a _ ih =>
    rintro ⟨b, hab, hbb⟩
    rcases hab.cases_head with rfl | ⟨c, hac, hcb⟩
    · obtain ⟨c, hac, hca⟩ := TransGen.head'_iff.1 hbb
      exact ih c hac ⟨c, .refl, TransGen.tail' hca hac⟩
    · exact ih c hac ⟨b, hcb, hbb⟩

/-! ## Links between types -/

/-- A type has a superclass that is no root type. -/
def IsSuperclass (config : Config) (graph : TypeGraph) (a b : String) : Prop :=
  ∃ t ∈ graph.types, t.name = a ∧ t.superclass = some b ∧ b ∉ config.rootTypes

/-- A link on the chain of the class `start` up to its nearest candidate: it leads to `start` itself
or to a type that is no candidate. -/
def IsOwnLink (config : Config) (hooks : Hooks) (graph : TypeGraph) (start a b : String) : Prop :=
  IsSuperclass config graph a b ∧ (b = start ∨ ¬ IsCandidateName config hooks graph b)

/-- A link to a type whose fields are copied. -/
def IsCopiedLink (config : Config) (hooks : Hooks) (graph : TypeGraph) (a b : String) : Prop :=
  IsSuperclass config graph a b ∧ ¬ IsCandidateName config hooks graph b

/-- The first candidate on a chain of superclasses. -/
inductive NearestCandidate (config : Config) (hooks : Hooks) (graph : TypeGraph) :
    String → String → Prop
  | here {a b : String} (hb : IsSuperclass config graph a b)
      (hc : IsCandidateName config hooks graph b) : NearestCandidate config hooks graph a b
  | further {a b c : String} (hb : IsSuperclass config graph a b)
      (hn : ¬ IsCandidateName config hooks graph b)
      (hc : NearestCandidate config hooks graph b c) : NearestCandidate config hooks graph a c

variable {config : Config} {hooks : Hooks} {graph : TypeGraph} {bases : PolymorphismMap}
  {scope : Scope}

theorem isSuperclass_iff {t : TypeDescriptor} (ht : t ∈ graph.types) {b : String} :
    IsSuperclass config graph t.name b ↔ t.superclass = some b ∧ b ∉ config.rootTypes := by
  constructor
  · rintro ⟨u, hu, hname, hsuper, hroot⟩
    obtain rfl := TypeGraph.eq_of_name_eq hu ht hname
    exact ⟨hsuper, hroot⟩
  · rintro ⟨hsuper, hroot⟩
    exact ⟨t, ht, rfl, hsuper, hroot⟩

theorem IsSuperclass.unique {a b b' : String} (h : IsSuperclass config graph a b)
    (h' : IsSuperclass config graph a b') : b = b' := by
  obtain ⟨t, ht, rfl, hb, -⟩ := h
  exact Option.some.inj (hb.symm.trans ((isSuperclass_iff ht).1 h').1)

namespace NearestCandidate

variable {a b c : String}

theorem isCandidateName (h : NearestCandidate config hooks graph a b) :
    IsCandidateName config hooks graph b := by
  induction h with
  | here _ hc => exact hc
  | further _ _ _ ih => exact ih

theorem exists_superclass (h : NearestCandidate config hooks graph a c) :
    ∃ b, IsSuperclass config graph a b := by
  cases h with
  | here hb _ => exact ⟨_, hb⟩
  | further hb _ _ => exact ⟨_, hb⟩

/-- The nearest candidate is the superclass, or else that of the superclass. -/
theorem iff_of_isSuperclass (hb : IsSuperclass config graph a b) :
    NearestCandidate config hooks graph a c ↔
      (IsCandidateName config hooks graph b ∧ b = c) ∨
        (¬ IsCandidateName config hooks graph b ∧ NearestCandidate config hooks graph b c) := by
  constructor
  · intro h
    cases h with
    | here hb' hc =>
      obtain rfl := hb.unique hb'
      exact Or.inl ⟨hc, rfl⟩
    | further hb' hn hc =>
      obtain rfl := hb.unique hb'
      exact Or.inr ⟨hn, hc⟩
  · rintro (⟨hc, rfl⟩ | ⟨hn, hc⟩)
    · exact .here hb hc
    · exact .further hb hn hc

end NearestCandidate

/-! ## The steps of the walk -/

/-- The outcome of the walk for the class `start` from a type on, when the names in `met` have been
met: there is no further superclass, or the next one has been met, is not in the graph, is a
candidate, or is a type to go on from. -/
inductive Walk (config : Config) (hooks : Hooks) (graph : TypeGraph) (start : String) :
    List String → TypeDescriptor → Except Fault Ancestry → Prop
  | top {met : List String} {t : TypeDescriptor}
      (h : ∀ b, ¬ IsSuperclass config graph t.name b) : Walk config hooks graph start met t (.ok {})
  | cycle {met : List String} {t : TypeDescriptor} {b : String}
      (hb : IsSuperclass config graph t.name b) (hmet : b ∈ met) :
      Walk config hooks graph start met t (.error (.configuration (.superclassCycle b start)))
  | missing {met : List String} {t : TypeDescriptor} {b : String}
      (hb : IsSuperclass config graph t.name b) (hmet : b ∉ met)
      (hnone : ∀ u ∈ graph.types, u.name ≠ b) : Walk config hooks graph start met t (.ok {})
  | candidate {met : List String} {t p : TypeDescriptor}
      (hb : IsSuperclass config graph t.name p.name) (hmet : p.name ∉ met)
      (hp : p ∈ candidateTypes config hooks graph) :
      Walk config hooks graph start met t (.ok { parent := some p })
  | further {met : List String} {t p : TypeDescriptor} {r : Except Fault Ancestry}
      (hb : IsSuperclass config graph t.name p.name) (hmet : p.name ∉ met)
      (hp : p ∈ graph.types) (hn : ¬ IsCandidateName config hooks graph p.name)
      (hw : Walk config hooks graph start (p.name :: met) p r) :
      Walk config hooks graph start met t
        (r.map fun a => { a with flattened := p :: a.flattened })

/-- The walk takes these steps. -/
theorem walk_walkAncestry (h : IsScopeOf config hooks graph bases scope) (start : String)
    (met : List String) (superclass : Option String) (t : TypeDescriptor) (ht : t ∈ graph.types)
    (hsuper : t.superclass = superclass) :
    Walk config hooks graph start met t (walkAncestry scope start met superclass).result := by
  fun_induction walkAncestry scope start met superclass generalizing t with
  | case1 met =>
    refine .top fun b hb => ?_
    rw [isSuperclass_iff ht, hsuper] at hb
    cases hb.1
  | case2 met name hroot =>
    refine .top fun b hb => ?_
    rw [isSuperclass_iff ht, hsuper] at hb
    obtain ⟨rfl⟩ := Option.some.inj hb.1
    exact hb.2 (h.isRootType_iff.1 hroot)
  | case3 met name hroot hmet =>
    have hb : IsSuperclass config graph t.name name :=
      (isSuperclass_iff ht).2 ⟨hsuper, fun hr => hroot (h.isRootType_iff.2 hr)⟩
    exact .cycle hb hmet
  | case4 met name hroot hmet hlook =>
    have hb : IsSuperclass config graph t.name name :=
      (isSuperclass_iff ht).2 ⟨hsuper, fun hr => hroot (h.isRootType_iff.2 hr)⟩
    refine .missing hb hmet fun u hu hname => ?_
    rw [h.graph_eq, TypeGraph.get?_eq_some_iff.2 ⟨hu, hname⟩] at hlook
    cases hlook
  | case5 met name hroot hmet p hlook hcomp =>
    rw [h.graph_eq] at hlook
    obtain ⟨hp, rfl⟩ := TypeGraph.get?_eq_some_iff.1 hlook
    have hb : IsSuperclass config graph t.name p.name :=
      (isSuperclass_iff ht).2 ⟨hsuper, fun hr => hroot (h.isRootType_iff.2 hr)⟩
    obtain ⟨u, hu, hname⟩ := h.isComponent_iff.1 hcomp
    obtain rfl := TypeGraph.eq_of_name_eq (mem_types_of_mem_candidateTypes hu) hp hname
    exact .candidate hb hmet hu
  | case6 met name hroot hmet p hlook hcomp hless ih =>
    rw [h.graph_eq] at hlook
    obtain ⟨hp, rfl⟩ := TypeGraph.get?_eq_some_iff.1 hlook
    have hb : IsSuperclass config graph t.name p.name :=
      (isSuperclass_iff ht).2 ⟨hsuper, fun hr => hroot (h.isRootType_iff.2 hr)⟩
    have hn : ¬ IsCandidateName config hooks graph p.name :=
      fun hc => hcomp (h.isComponent_iff.2 hc)
    rw [Traced.result_bind]
    exact .further hb hmet hp hn (ih p hp rfl)

namespace Walk

variable {start : String} {met : List String} {t : TypeDescriptor} {r : Except Fault Ancestry}

/-- Behind a walk that ends, no chain of own links goes on for ever. -/
theorem acc (h : Walk config hooks graph start met t r) {ancestry : Ancestry}
    (hr : r = .ok ancestry) (hstart : start ∈ met) :
    Acc (fun b a => IsOwnLink config hooks graph start a b) t.name := by
  induction h generalizing ancestry with
  | top hnone => exact ⟨_, fun b hb => absurd hb.1 (hnone b)⟩
  | cycle _ _ => cases hr
  | missing hb _ hmissing =>
    refine ⟨_, fun b' hb' => ⟨_, fun c hc => ?_⟩⟩
    obtain ⟨u, hu, hname, -⟩ := hc.1
    exact absurd (hname.trans (hb'.1.unique hb)) (hmissing u hu)
  | candidate hb hmet hp =>
    refine ⟨_, fun b' hb' => ?_⟩
    obtain rfl := hb'.1.unique hb
    rcases hb'.2 with rfl | hn
    · exact absurd hstart hmet
    · exact absurd (isCandidateName_of_mem hp) hn
  | @further met t p r hb _ _ _ _ ih =>
    refine ⟨_, fun b' hb' => ?_⟩
    obtain rfl := hb'.1.unique hb
    cases r with
    | error fault => cases hr
    | ok further => exact ih rfl (List.mem_cons_of_mem _ hstart)

/-- The names met by a walk from `start` to `a`: own links lead from `start` to each of them, and
from each of them to `a`. -/
structure IsTrail (config : Config) (hooks : Hooks) (graph : TypeGraph) (start : String)
    (met : List String) (a : String) : Prop where
  current : a ∈ met
  own : ∀ m ∈ met, m = start ∨ ¬ IsCandidateName config hooks graph m
  from_start : ∀ m ∈ met, ReflTransGen (IsOwnLink config hooks graph start) start m
  to_current : ∀ m ∈ met, ReflTransGen (IsOwnLink config hooks graph start) m a

theorem isTrail_start (start : String) : IsTrail config hooks graph start [start] start := by
  refine ⟨List.mem_cons_self .., ?_, ?_, ?_⟩
  · exact fun m hm => Or.inl (List.mem_singleton.1 hm)
  · exact fun m hm => List.mem_singleton.1 hm ▸ .refl
  · exact fun m hm => List.mem_singleton.1 hm ▸ .refl

theorem IsTrail.step {a b : String} (h : IsTrail config hooks graph start met a)
    (hb : IsSuperclass config graph a b) (hn : ¬ IsCandidateName config hooks graph b) :
    IsTrail config hooks graph start (b :: met) b := by
  have hlink : IsOwnLink config hooks graph start a b := ⟨hb, Or.inr hn⟩
  refine ⟨List.mem_cons_self .., ?_, ?_, ?_⟩
  · rintro m hm
    rcases List.mem_cons.1 hm with rfl | hm
    · exact Or.inr hn
    · exact h.own m hm
  · rintro m hm
    rcases List.mem_cons.1 hm with rfl | hm
    · exact (h.from_start a h.current).tail hlink
    · exact h.from_start m hm
  · rintro m hm
    rcases List.mem_cons.1 hm with rfl | hm
    · exact .refl
    · exact (h.to_current m hm).tail hlink

/-- A walk that is refused has come back to the type that is named. -/
theorem comesBack (h : Walk config hooks graph start met t r) {fault : Fault}
    (hr : r = .error fault) (hmet : IsTrail config hooks graph start met t.name) :
    ∃ b, fault = .configuration (.superclassCycle b start) ∧
      ReflTransGen (IsOwnLink config hooks graph start) start b ∧
      TransGen (IsOwnLink config hooks graph start) b b := by
  induction h with
  | top _ => cases hr
  | @cycle met t b hb hin =>
    exact ⟨b, (Except.error.inj hr).symm, hmet.from_start b hin,
      TransGen.tail' (hmet.to_current b hin) ⟨hb, hmet.own b hin⟩⟩
  | missing _ _ _ => cases hr
  | candidate _ _ _ => cases hr
  | @further met t p r hb _ _ hn _ ih =>
    cases r with
    | error inner => exact ih (congrArg _ (Except.error.inj hr)) (hmet.step hb hn)
    | ok a => cases hr

/-- The superclass that is referred to is the nearest candidate. -/
theorem parent_iff (h : Walk config hooks graph start met t r) {ancestry : Ancestry}
    (hr : r = .ok ancestry) {p : TypeDescriptor} :
    ancestry.parent = some p ↔
      p ∈ candidateTypes config hooks graph ∧ NearestCandidate config hooks graph t.name p.name := by
  induction h generalizing ancestry with
  | top hnone =>
    obtain rfl := Except.ok.inj hr
    constructor
    · rintro ⟨⟩
    · rintro ⟨-, hp⟩
      obtain ⟨b, hb⟩ := hp.exists_superclass
      exact absurd hb (hnone b)
  | cycle _ _ => cases hr
  | @missing met t b hb _ hnone =>
    obtain rfl := Except.ok.inj hr
    constructor
    · rintro ⟨⟩
    · rintro ⟨-, hp⟩
      -- a type that is not in the graph is no candidate and has no superclass
      rcases (NearestCandidate.iff_of_isSuperclass hb).1 hp with ⟨⟨u, hu, hname⟩, -⟩ | ⟨-, hc⟩
      · exact absurd hname (hnone u (mem_types_of_mem_candidateTypes hu))
      · obtain ⟨c, u, hu, hname, -⟩ := hc.exists_superclass
        exact absurd hname (hnone u hu)
  | @candidate met t q hb _ hq =>
    obtain rfl := Except.ok.inj hr
    rw [NearestCandidate.iff_of_isSuperclass hb, Option.some.injEq]
    constructor
    · rintro rfl
      exact ⟨hq, Or.inl ⟨isCandidateName_of_mem hq, rfl⟩⟩
    · rintro ⟨hp, ⟨-, hname⟩ | ⟨hn, -⟩⟩
      · exact TypeGraph.eq_of_name_eq (mem_types_of_mem_candidateTypes hq)
          (mem_types_of_mem_candidateTypes hp) hname
      · exact absurd (isCandidateName_of_mem hq) hn
  | @further met t q r hb _ _ hn _ ih =>
    cases r with
    | error fault => cases hr
    | ok a =>
      obtain rfl := Except.ok.inj hr
      rw [NearestCandidate.iff_of_isSuperclass hb]
      refine (ih rfl).trans (and_congr_right fun _ => ⟨fun hc => Or.inr ⟨hn, hc⟩, ?_⟩)
      rintro (⟨hc, -⟩ | ⟨-, hc⟩)
      · exact absurd hc hn
      · exact hc

/-- The superclasses that are copied are those before the nearest candidate. -/
theorem mem_flattened_iff (h : Walk config hooks graph start met t r) {ancestry : Ancestry}
    (hr : r = .ok ancestry) {u : TypeDescriptor} :
    u ∈ ancestry.flattened ↔
      u ∈ graph.types ∧ TransGen (IsCopiedLink config hooks graph) t.name u.name := by
  induction h generalizing ancestry with
  | top hnone =>
    obtain rfl := Except.ok.inj hr
    refine iff_of_false nofun fun ⟨_, hu⟩ => ?_
    obtain ⟨b, hb, -⟩ := TransGen.head'_iff.1 hu
    exact hnone b hb.1
  | cycle _ _ => cases hr
  | @missing met t b hb _ hnone =>
    obtain rfl := Except.ok.inj hr
    refine iff_of_false nofun fun ⟨hmem, hu⟩ => ?_
    obtain ⟨c, hc, hcu⟩ := TransGen.head'_iff.1 hu
    obtain rfl := hb.unique hc.1
    -- the superclass is not in the graph, so it is not `u` and has no superclass itself
    rcases hcu.cases_head with heq | ⟨c, ⟨⟨v, hv, hname, -⟩, -⟩, -⟩
    · exact hnone u hmem heq.symm
    · exact hnone v hv hname
  | @candidate met t p hb _ hp =>
    obtain rfl := Except.ok.inj hr
    refine iff_of_false nofun fun ⟨_, hu⟩ => ?_
    obtain ⟨c, hc, -⟩ := TransGen.head'_iff.1 hu
    obtain rfl := hb.unique hc.1
    exact hc.2 (isCandidateName_of_mem hp)
  | @further met t p r hb _ hp hn _ ih =>
    cases r with
    | error fault => cases hr
    | ok a =>
      obtain rfl := Except.ok.inj hr
      rw [List.mem_cons, ih rfl]
      constructor
      · rintro (rfl | ⟨hmem, hu⟩)
        · exact ⟨hp, .single ⟨hb, hn⟩⟩
        · exact ⟨hmem, .head ⟨hb, hn⟩ hu⟩
      · rintro ⟨hmem, hu⟩
        obtain ⟨c, hc, hcu⟩ := TransGen.head'_iff.1 hu
        obtain rfl := hb.unique hc.1
        rcases reflTransGen_iff_eq_or_transGen.1 hcu with heq | hcu
        · exact Or.inl (TypeGraph.eq_of_name_eq hmem hp heq)
        · exact Or.inr ⟨hmem, hcu⟩

end Walk

/-! ## What becomes of the superclasses of a class -/

/-- A class whose superclasses are refused comes back to the type that is named before it meets
another candidate. -/
theorem result_resolveAncestry_error (h : IsScopeOf config hooks graph bases scope)
    {t : TypeDescriptor} (ht : t ∈ graph.types) {fault : Fault}
    (hr : (resolveAncestry scope t).result = .error fault) :
    ∃ b, fault = .configuration (.superclassCycle b t.name) ∧
      ReflTransGen (IsOwnLink config hooks graph t.name) t.name b ∧
      TransGen (IsOwnLink config hooks graph t.name) b b :=
  (walk_walkAncestry h t.name [t.name] t.superclass t ht rfl).comesBack hr
    (Walk.isTrail_start t.name)

/-- The superclasses of a class are refused exactly if its chain comes back before it meets another
candidate. -/
theorem result_resolveAncestry_error_iff (h : IsScopeOf config hooks graph bases scope)
    {t : TypeDescriptor} (ht : t ∈ graph.types) :
    (∃ fault, (resolveAncestry scope t).result = .error fault) ↔
      ComesBack (IsOwnLink config hooks graph t.name) t.name := by
  constructor
  · rintro ⟨fault, hr⟩
    obtain ⟨b, -, hb⟩ := result_resolveAncestry_error h ht hr
    exact ⟨b, hb⟩
  · intro hback
    cases hr : (resolveAncestry scope t).result with
    | error fault => exact ⟨fault, rfl⟩
    | ok ancestry =>
      have hacc := (walk_walkAncestry h t.name [t.name] t.superclass t ht rfl).acc hr
        (List.mem_cons_self ..)
      exact absurd hback (not_comesBack_of_acc hacc)

/-- The superclass that a class refers to is the nearest candidate on its chain. -/
theorem parent_resolveAncestry_iff (h : IsScopeOf config hooks graph bases scope)
    {t : TypeDescriptor} (ht : t ∈ graph.types) {ancestry : Ancestry}
    (hr : (resolveAncestry scope t).result = .ok ancestry) {p : TypeDescriptor} :
    ancestry.parent = some p ↔
      p ∈ candidateTypes config hooks graph ∧ NearestCandidate config hooks graph t.name p.name :=
  (walk_walkAncestry h t.name [t.name] t.superclass t ht rfl).parent_iff hr

/-- The superclasses that are copied into a class are those before the nearest candidate. -/
theorem mem_flattened_resolveAncestry_iff (h : IsScopeOf config hooks graph bases scope)
    {t : TypeDescriptor} (ht : t ∈ graph.types) {ancestry : Ancestry}
    (hr : (resolveAncestry scope t).result = .ok ancestry) {u : TypeDescriptor} :
    u ∈ ancestry.flattened ↔
      u ∈ graph.types ∧ TransGen (IsCopiedLink config hooks graph) t.name u.name :=
  (walk_walkAncestry h t.name [t.name] t.superclass t ht rfl).mem_flattened_iff hr

end ApiContract
