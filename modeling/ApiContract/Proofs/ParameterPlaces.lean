import Mathlib.Data.List.Forall2
import ApiContract.Proofs.Interception
import ApiContract.Proofs.OperationValues
/-!
# Places of parameters

Where a declared parameter of a handler method goes, if no interceptor has a say: into the request
body, into the list of parameters, or nowhere. Parameters may look alike, so they are told apart by
their places among the declared ones.

* `IsBodyPlace` : the place of the parameter that becomes the body, one rule for each way there.
* `IsEntryAt` : what the parameter at a place contributes to the list.
* `IsBodyOf` : the request body that a parameter becomes.
* `bodyPlace?_eq_some_iff`, `isEntryAt_iff`, `isBodyOf_iff` : the extraction computes these.
* `parameters_placed` : the list and the body of every operation of a method.
-/

namespace ApiContract

/-! ## The three ways for a parameter -/

/-- The place of the parameter that becomes the body: that of the only included one that is bound to
the body, and if there is none, that of the first included file or container of files. -/
inductive IsBodyPlace (hooks : Hooks) (m : MethodDescriptor) (i : Nat) : Prop
  | bound {p : ParameterDescriptor} (hp : m.parameters[i]? = some p)
      (hi : isIncludedParameter hooks m p = true) (hb : p.isBodyBound = true)
      (honly : ∀ (j : Nat) q, m.parameters[j]? = some q → isIncludedParameter hooks m q = true →
        q.isBodyBound = true → j = i)
  | file {p : ParameterDescriptor} (hp : m.parameters[i]? = some p)
      (hi : isIncludedParameter hooks m p = true) (hf : p.type.isFileLike = true)
      (hnone : ∀ q ∈ m.parameters, isIncludedParameter hooks m q = true → q.isBodyBound = false)
      (hfirst : ∀ (j : Nat) q, j < i → m.parameters[j]? = some q →
        isIncludedParameter hooks m q = true → q.type.isFileLike = false)

/-- The first of some texts that is there and not empty. -/
def firstNonEmpty (texts : List (Option String)) : String := (texts.findSome? nonEmpty?).getD ""

/-- The entry that a bound parameter with a schema has in the list. -/
def entryOf (p : ParameterDescriptor) (binding : Binding) (location : ParameterLocation)
    (s : Schema) : Parameter where
  name := firstNonEmpty [binding.name, binding.value, some p.name]
  location
  required := location == .path || binding.required.getD true
  description := (p.directives.applyTo s).description
  deprecated := (p.directives.applyTo s).deprecated
  schema := { p.directives.applyTo s with description := none, deprecated := false }

/-- What the parameter at a place contributes to the list: an entry, if it is included, does not
become the body, is bound to something else than the body, and has a schema. -/
inductive IsEntryAt (scope : Scope) (hooks : Hooks) (m : MethodDescriptor) (i : Nat) :
    Parameter → Prop
  | mk {p : ParameterDescriptor} {binding : Binding} {location : ParameterLocation} {s : Schema}
      (hp : m.parameters[i]? = some p) (hi : isIncludedParameter hooks m p = true)
      (hn : ¬ IsBodyPlace hooks m i) (hb : p.directives.binding? = some binding)
      (hl : binding.location.parameterLocation? = some location)
      (hs : (schemaOf scope .direct p.type).result = .ok (some s)) :
      IsEntryAt scope hooks m i (entryOf p binding location s)

/-- The schema and the content type of the body that a parameter becomes: a file is sent as it is,
several files as parts of a form, and other values as their schema says. -/
inductive IsBodyContent (scope : Scope) (p : ParameterDescriptor) : Schema → String → Prop
  | file (h : p.type = .file) : IsBodyContent scope p .binary fileContent
  | files (h : p.type = .list .file ∨ p.type = .array .file) :
      IsBodyContent scope p (.object { properties := [(p.boundName, .array .binary)] }) filesContent
  | value {s : Schema} (h : p.type.isFileLike = false)
      (hs : (schemaOf scope .direct p.type).result = .ok (some s)) :
      IsBodyContent scope p s jsonContent

/-- The request body that a parameter becomes. The content type of the route comes before that of
the content, and what is not bound is required. -/
inductive IsBodyOf (scope : Scope) (route : Route) (p : ParameterDescriptor) : RequestBody → Prop
  | mk {s : Schema} {contentType : String} (h : IsBodyContent scope p s contentType) :
      IsBodyOf scope route p {
        contentType := route.consumes.getD contentType
        required := (p.directives.binding?.map (·.isRequired)).getD true
        description := (p.directives.applyTo s).description
        schema := { p.directives.applyTo s with description := none } }

variable {scope : Scope} {hooks : Hooks} {m : MethodDescriptor} {route : Route}

/-! ## The place of the body -/

/-- No other place than that of the body is one. -/
theorem IsBodyPlace.unique {i j : Nat} (hi : IsBodyPlace hooks m i) (hj : IsBodyPlace hooks m j) :
    i = j := by
  cases hi with
  | bound hp hinc hb honly =>
    cases hj with
    | bound hq hinc' hb' _ => exact (honly j _ hq hinc' hb').symm
    | file _ _ _ hnone _ =>
      cases (hnone _ (List.mem_of_getElem? hp) hinc).symm.trans hb
  | file hp hinc hf hnone hfirst =>
    cases hj with
    | bound hq hinc' hb' _ =>
      cases (hnone _ (List.mem_of_getElem? hq) hinc').symm.trans hb'
    | file hq hinc' hf' _ hfirst' =>
      rcases Nat.lt_trichotomy i j with hlt | heq | hlt
      · cases (hfirst' i _ hlt hp hinc).symm.trans hf
      · exact heq
      · cases (hfirst j _ hlt hq hinc').symm.trans hf'

theorem firstFilePlace?_eq_some_iff {i : Nat} :
    firstFilePlace? hooks m m.parameters.zipIdx = some i ↔
      ∃ p, m.parameters[i]? = some p ∧ isIncludedParameter hooks m p = true ∧
        p.type.isFileLike = true ∧
        ∀ (j : Nat) q, j < i → m.parameters[j]? = some q → isIncludedParameter hooks m q = true →
          q.type.isFileLike = false := by
  simp only [firstFilePlace?, Option.map_eq_some_iff, List.find?_eq_some_iff_getElem,
    Bool.and_eq_true, List.length_zipIdx, List.getElem_zipIdx, Prod.exists]
  constructor
  · rintro ⟨p, j, ⟨⟨hf, hi⟩, k, hk, heq, hbefore⟩, rfl⟩
    obtain ⟨rfl, rfl⟩ := Prod.mk.inj heq
    rw [Nat.zero_add]
    refine ⟨_, List.getElem?_eq_getElem hk, hi, hf, fun l q hl hq hiq => ?_⟩
    obtain ⟨hlt, rfl⟩ := List.getElem?_eq_some_iff.1 hq
    have hfile := hbefore l hl
    rw [Bool.not_eq_true', Bool.and_eq_false_iff] at hfile
    exact hfile.resolve_right (by simpa using hiq)
  · rintro ⟨p, hp, hi, hf, hfirst⟩
    obtain ⟨hlt, rfl⟩ := List.getElem?_eq_some_iff.1 hp
    refine ⟨_, i, ⟨⟨hf, hi⟩, i, hlt, by rw [Nat.zero_add], fun j hj => ?_⟩, rfl⟩
    rw [Bool.not_eq_true', Bool.and_eq_false_iff]
    cases hq : isIncludedParameter hooks m m.parameters[j] with
    | false => exact Or.inr rfl
    | true =>
      exact Or.inl (hfirst j _ hj (List.getElem?_eq_getElem (Nat.lt_trans hj hlt)) hq)

theorem bodyBoundPlaces_eq_nil_iff :
    bodyBoundPlaces hooks m m.parameters.zipIdx = [] ↔
      ∀ q ∈ m.parameters, isIncludedParameter hooks m q = true → q.isBodyBound = false := by
  rw [List.eq_nil_iff_forall_not_mem]
  simp only [mem_bodyBoundPlaces]
  constructor
  · intro h q hq hi
    obtain ⟨i, hget⟩ := List.mem_iff_getElem?.1 hq
    exact Bool.eq_false_iff.2 fun hb => h i ⟨q, hget, hb, hi⟩
  · rintro h i ⟨q, hget, hb, hi⟩
    cases (h q (List.mem_of_getElem? hget) hi).symm.trans hb

/-- If at most one included parameter is bound to the body, the extraction picks the place of the
body. -/
theorem bodyPlace?_eq_some_iff
    (hone : (bodyBoundPlaces hooks m m.parameters.zipIdx).length ≤ 1) {i : Nat} :
    bodyPlace? hooks m = some i ↔ IsBodyPlace hooks m i := by
  constructor
  · intro h
    rw [bodyPlace?, Option.or_eq_some_iff] at h
    rcases h with h | ⟨hnone, h⟩
    · obtain ⟨p, hp, hb, hi⟩ := mem_bodyBoundPlaces.1 (List.mem_of_mem_head? h)
      refine .bound hp hi hb fun j q hq hiq hbq => ?_
      have hj := bodyPlace?_of_isBodyBound hone hq hbq hiq
      have hi' := bodyPlace?_of_isBodyBound hone hp hb hi
      exact Option.some.inj (hj.symm.trans hi')
    · obtain ⟨p, hp, hi, hf, hfirst⟩ := firstFilePlace?_eq_some_iff.1 h
      exact .file hp hi hf (bodyBoundPlaces_eq_nil_iff.1 (List.head?_eq_none_iff.1 hnone)) hfirst
  · intro h
    cases h with
    | bound hp hi hb _ =>
      exact bodyPlace?_of_isBodyBound hone hp hb hi
    | file hp hi hf hnone hfirst =>
      rw [bodyPlace?, bodyBoundPlaces_eq_nil_iff.2 hnone]
      exact firstFilePlace?_eq_some_iff.2 ⟨_, hp, hi, hf, hfirst⟩

theorem IsSoundMethod.bodyPlace?_iff (hsound : IsSoundMethod hooks m route) {i : Nat} :
    bodyPlace? hooks m = some i ↔ IsBodyPlace hooks m i :=
  bodyPlace?_eq_some_iff (by rw [length_bodyBoundPlaces]; exact hsound.one_body)

/-! ## Entries of the list -/

theorem firstNonEmpty_eq (b : Binding) (declared : String) :
    firstNonEmpty [b.name, b.value, some declared] = b.resolveName declared := by
  rw [firstNonEmpty, Binding.resolveName, List.findSome?_cons, List.findSome?_cons]
  cases nonEmpty? b.name with
  | some name => rfl
  | none =>
    cases nonEmpty? b.value with
    | some value => rfl
    | none =>
      by_cases h : declared = ""
      · simp [nonEmpty?_some, h]
      · simp [nonEmpty?_some, h]

theorem isRequired_eq {b : Binding} {location : ParameterLocation}
    (hl : b.location.parameterLocation? = some location) :
    b.isRequired = (location == .path || b.required.getD true) := by
  rw [Binding.isRequired]
  cases hloc : b.location with
  | body => simp [BindingLocation.parameterLocation?, hloc] at hl
  | path | query | header =>
    rw [hloc] at hl
    obtain rfl := Option.some.inj hl
    rfl

theorem producedParameter_eq (hz : hooks.interceptorCount = 0) {p : ParameterDescriptor}
    {b : Binding} {location : ParameterLocation}
    (hl : b.location.parameterLocation? = some location) (s : Schema) :
    producedParameter hooks m p b location s = entryOf p b location s := by
  rw [producedParameter, Hooks.interceptParameter_eq hz, entryOf, firstNonEmpty_eq,
    isRequired_eq hl]

theorem listedParameter?_eq_some_iff {p : ParameterDescriptor} {q : Parameter} :
    listedParameter? scope hooks m p = some q ↔
      ∃ binding location s, p.directives.binding? = some binding ∧
        binding.location.parameterLocation? = some location ∧
        isIncludedParameter hooks m p = true ∧ schema? scope .direct p.type = some s ∧
        producedParameter hooks m p binding location s = q := by
  simp only [listedParameter?, ParameterDescriptor.listing?, Option.bind_eq_some_iff,
    Option.map_eq_some_iff, Option.ite_none_right_eq_some, Prod.exists,
    Prod.mk.injEq]
  constructor
  · rintro ⟨binding, location, ⟨_, hb, _, hl, rfl, rfl⟩, hi, s, hs, hq⟩
    exact ⟨_, _, s, hb, hl, hi, hs, hq⟩
  · rintro ⟨binding, location, s, hb, hl, hi, hs, hq⟩
    exact ⟨binding, location, ⟨binding, hb, location, hl, rfl, rfl⟩, hi, s, hs, hq⟩

/-- What is listed from a place without interceptors is the entry there. -/
theorem isEntryAt_iff (hz : hooks.interceptorCount = 0) (hsound : IsSoundMethod hooks m route)
    {i : Nat} {q : Parameter} :
    IsEntryAt scope hooks m i q ↔ ∃ p, m.parameters[i]? = some p ∧
      bodyPlace? hooks m ≠ some i ∧ listedParameter? scope hooks m p = some q := by
  constructor
  · rintro ⟨hp, hi, hn, hb, hl, hs⟩
    exact ⟨_, hp, fun h => hn (hsound.bodyPlace?_iff.1 h),
      listedParameter?_eq_some_iff.2
        ⟨_, _, _, hb, hl, hi, (result_schemaOf_eq_ok.1 hs).2.symm, producedParameter_eq hz hl _⟩⟩
  · rintro ⟨p, hp, hn, hq⟩
    obtain ⟨binding, location, s, hb, hl, hi, hs, rfl⟩ := listedParameter?_eq_some_iff.1 hq
    rw [producedParameter_eq hz hl]
    have hplain : p.type.nested? = none :=
      hsound.plain_parameters p (List.mem_of_getElem? hp) (hi)
        (by rw [hb]; rfl)
    exact .mk hp hi (fun h => hn (hsound.bodyPlace?_iff.2 h)) hb hl
      (result_schemaOf_eq_ok.2 ⟨hplain, hs.symm⟩)

/-- What is made of some elements stands in their order. -/
theorem forall₂_map_filterMap {α β γ : Type} {R : γ → β → Prop} {f : α → Option β} {g : α → γ}
    {xs : List α} (h : ∀ x ∈ xs, ∀ y, f x = some y → R (g x) y) :
    List.Forall₂ R ((xs.filter fun x => (f x).isSome).map g) (xs.filterMap f) := by
  induction xs with
  | nil => exact .nil
  | cons x rest ih =>
    obtain ⟨hx, hrest⟩ := List.forall_mem_cons.1 h
    cases hf : f x with
    | none =>
      rw [List.filter_cons_of_neg (by simp [hf]), List.filterMap_cons_none hf]
      exact ih hrest
    | some y =>
      rw [List.filter_cons_of_pos (by rw [hf]; rfl), List.filterMap_cons_some hf]
      exact .cons (hx y hf) (ih hrest)

/-- The list of parameters holds the entries in order of declaration. -/
theorem listedParameters_spec (hz : hooks.interceptorCount = 0)
    (hsound : IsSoundMethod hooks m route) :
    ∃ places : List Nat, places.Pairwise (· < ·) ∧
      (∀ i, i ∈ places ↔ ∃ q, IsEntryAt scope hooks m i q) ∧
      List.Forall₂ (IsEntryAt scope hooks m) places
        (listedParameters scope hooks m (bodyPlace? hooks m) m.parameters.zipIdx) := by
  let listed := (m.parameters.zipIdx.filter fun place =>
    decide (bodyPlace? hooks m ≠ some place.2)).filter fun place =>
      (listedParameter? scope hooks m place.1).isSome
  refine ⟨listed.map Prod.snd, ?_, fun i => ?_, ?_⟩
  · have hall : (m.parameters.zipIdx.map Prod.snd).Pairwise (· < ·) := by
      rw [List.zipIdx_map_snd]
      exact List.pairwise_lt_range'
    exact hall.sublist ((List.filter_sublist.trans List.filter_sublist).map _)
  · simp only [isEntryAt_iff hz hsound, listed, List.mem_map, List.mem_filter, decide_eq_true_eq,
      Option.isSome_iff_exists, Prod.exists, List.mk_mem_zipIdx_iff_getElem?]
    constructor
    · rintro ⟨p, j, ⟨⟨hp, hn⟩, q, hq⟩, rfl⟩
      exact ⟨q, p, hp, hn, hq⟩
    · rintro ⟨q, p, hp, hn, hq⟩
      exact ⟨p, i, ⟨⟨hp, hn⟩, q, hq⟩, rfl⟩
  · refine forall₂_map_filterMap fun place hplace q hq => ?_
    obtain ⟨hmem, hn⟩ := List.mem_filter.1 hplace
    exact (isEntryAt_iff hz hsound).2
      ⟨place.1, List.mk_mem_zipIdx_iff_getElem?.1 hmem, of_decide_eq_true hn, hq⟩

/-! ## The request body -/

theorem isBodyContent_iff {p : ParameterDescriptor} (hplain : p.type.nested? = none) {s : Schema}
    {contentType : String} :
    IsBodyContent scope p s contentType ↔ bodyContent? scope p = some (s, contentType) := by
  rw [bodyContent?]
  by_cases hfile : p.type = .file
  · rw [if_pos hfile]
    constructor
    · intro h
      cases h with
      | file => rfl
      | files h =>
        rw [hfile] at h
        rcases h with h | h
        · cases h
        · cases h
      | value h =>
        rw [hfile] at h
        cases h
    · intro h
      obtain ⟨rfl, rfl⟩ := Prod.mk.inj (Option.some.inj h)
      exact .file hfile
  rw [if_neg hfile]
  cases hfiles : p.type.isFileLike with
  | true =>
    rw [if_pos rfl]
    constructor
    · intro h
      cases h with
      | file h => exact absurd h hfile
      | files => rfl
      | value h => cases hfiles.symm.trans h
    · intro h
      obtain ⟨rfl, rfl⟩ := Prod.mk.inj (Option.some.inj h)
      exact .files ((isFileLike_iff.1 hfiles).resolve_left hfile)
  | false =>
    simp only [Bool.false_eq_true, if_false, Option.map_eq_some_iff, Prod.mk.injEq]
    constructor
    · intro h
      cases h with
      | file h => exact absurd h hfile
      | files h => cases (isFileLike_iff.2 (Or.inr h)).symm.trans hfiles
      | value _ hs => exact ⟨_, (result_schemaOf_eq_ok.1 hs).2.symm, rfl, rfl⟩
    · rintro ⟨s, hs, rfl, rfl⟩
      exact .value hfiles (result_schemaOf_eq_ok.2 ⟨hplain, hs.symm⟩)

theorem isBodyOf_iff (hz : hooks.interceptorCount = 0) {p : ParameterDescriptor}
    (hplain : p.type.nested? = none) {b : RequestBody} :
    IsBodyOf scope route p b ↔ requestBody? scope hooks m route p = some b := by
  simp only [requestBody?, Option.map_eq_some_iff, Prod.exists, ← isBodyContent_iff hplain,
    Hooks.interceptRequestBody_eq hz]
  constructor
  · rintro ⟨h⟩
    exact ⟨_, _, h, rfl⟩
  · rintro ⟨s, contentType, h, rfl⟩
    exact .mk h

theorem result_schemaOf_of_isFileLike {t : TypeRef} (h : t.isFileLike = true) :
    ∃ s, (schemaOf scope .direct t).result = .ok (some s) := by
  rcases isFileLike_iff.1 h with rfl | rfl | rfl
  · exact ⟨.binary, rfl⟩
  · exact ⟨.array .binary, rfl⟩
  · exact ⟨.array .binary, rfl⟩

/-- Files, containers of files and what else has a schema become bodies. -/
theorem exists_isBodyOf_iff {p : ParameterDescriptor} :
    (∃ b, IsBodyOf scope route p b) ↔
      ∃ s, (schemaOf scope .direct p.type).result = .ok (some s) := by
  constructor
  · rintro ⟨-, ⟨h⟩⟩
    cases h with
    | file h => exact result_schemaOf_of_isFileLike (isFileLike_iff.2 (Or.inl h))
    | files h => exact result_schemaOf_of_isFileLike (isFileLike_iff.2 (Or.inr h))
    | value _ hs => exact ⟨_, hs⟩
  · rintro ⟨s, hs⟩
    cases hfiles : p.type.isFileLike with
    | false => exact ⟨_, .mk (.value hfiles hs)⟩
    | true =>
      rcases isFileLike_iff.1 hfiles with h | h
      · exact ⟨_, .mk (.file h)⟩
      · exact ⟨_, .mk (.files h)⟩

theorem IsBodyPlace.nested?_eq_none (hsound : IsSoundMethod hooks m route) {i : Nat}
    {p : ParameterDescriptor} (hi : IsBodyPlace hooks m i) (hp : m.parameters[i]? = some p) :
    p.type.nested? = none := by
  cases hi with
  | bound hq hinc hb _ =>
    obtain rfl := Option.some.inj (hq.symm.trans hp)
    exact hsound.plain_parameters _ (List.mem_of_getElem? hp) hinc
      (binding_isSome_of_isBodyBound hb)
  | file hq _ hf _ _ =>
    obtain rfl := Option.some.inj (hq.symm.trans hp)
    exact nested?_of_isFileLike hf

/-- The body of the operations of a method is made of the parameter at the place of the body. -/
theorem requestBody_methodTemplate (hz : hooks.interceptorCount = 0)
    (hsound : IsSoundMethod hooks m route) {handler : TypeDescriptor} {b : RequestBody} :
    (methodTemplate scope hooks handler m route).requestBody = some b ↔
      ∃ i p, IsBodyPlace hooks m i ∧ m.parameters[i]? = some p ∧ IsBodyOf scope route p b := by
  simp only [methodTemplate, Option.bind_eq_some_iff, hsound.bodyPlace?_iff]
  constructor
  · rintro ⟨p, ⟨i, hi, hp⟩, hb⟩
    exact ⟨i, p, hi, hp, (isBodyOf_iff hz (hi.nested?_eq_none hsound hp)).2 hb⟩
  · rintro ⟨i, p, hi, hp, hb⟩
    exact ⟨p, ⟨i, hi, hp⟩, (isBodyOf_iff hz (hi.nested?_eq_none hsound hp)).1 hb⟩

/-! ## Operations -/

theorem Route.methodPaths_ne_nil (route : Route) : route.methodPaths ≠ [] := by
  rw [Route.methodPaths]
  split
  · exact List.cons_ne_nil "" []
  · next h => exact fun heq => h (List.isEmpty_iff.2 heq)

/-- Two included parameters that are bound to the body are refused. -/
theorem result_operationsOfMethod_of_severalBodies {handler : TypeDescriptor} {base tag : String}
    (hverbs : route.verbs ≠ [])
    (h : 1 < (m.parameters.filter fun p => p.isBodyBound && isIncludedParameter hooks m p).length) :
    (operationsOfMethod scope hooks handler base tag m route).result =
      .error (.unsupportedShape (.severalBodies m.name
        (m.parameters.filter fun p => p.isBodyBound && isIncludedParameter hooks m p).length)) := by
  rw [← length_bodyBoundPlaces] at h ⊢
  rw [operationsOfMethod, List.isEmpty_eq_false_iff.2 hverbs, if_neg (by decide)]
  refine Traced.result_bind_of_error ?_ _
  rw [bodyPosition, Traced.result_bind_of_ok (result_bodyBound m _)]
  rcases hplaces : bodyBoundPlaces hooks m m.parameters.zipIdx with _ | ⟨i, _ | ⟨j, rest⟩⟩
  · rw [hplaces] at h
    cases h
  · rw [hplaces] at h
    exact absurd h (by simp)
  · rfl

/-- Without interceptors every declared parameter goes to one place at most. Two included parameters
that are bound to the body are refused. Otherwise the place of the body is unique and has no entry.
The list of parameters of an operation holds the entries of the other places, in order of
declaration, and there is a request body exactly if there is a place of the body and the type of the
parameter there has a schema. -/
theorem parameters_placed (hz : hooks.interceptorCount = 0) (scope : Scope)
    (handler : TypeDescriptor) (base tag : String) (m : MethodDescriptor) (route : Route) :
    (∀ count, (m.parameters.filter fun p =>
        p.isBodyBound && isIncludedParameter hooks m p).length = count → 1 < count →
      route.verbs ≠ [] → (operationsOfMethod scope hooks handler base tag m route).result =
        .error (.unsupportedShape (.severalBodies m.name count))) ∧
    (∀ i j, IsBodyPlace hooks m i → IsBodyPlace hooks m j → i = j) ∧
    ∀ operations, (operationsOfMethod scope hooks handler base tag m route).result =
        .ok operations → operations ≠ [] ∧ ∀ o ∈ operations,
      (∃ places : List Nat, places.Pairwise (· < ·) ∧
        (∀ i, i ∈ places ↔ ∃ q, IsEntryAt scope hooks m i q) ∧
        (∀ i ∈ places, ¬ IsBodyPlace hooks m i) ∧
        List.Forall₂ (IsEntryAt scope hooks m) places o.parameters) ∧
      (o.requestBody.isSome = true ↔ ∃ i p, IsBodyPlace hooks m i ∧ m.parameters[i]? = some p ∧
        ∃ s, (schemaOf scope .direct p.type).result = .ok (some s)) ∧
      ∀ b, o.requestBody = some b ↔
        ∃ i p, IsBodyPlace hooks m i ∧ m.parameters[i]? = some p ∧ IsBodyOf scope route p b := by
  refine ⟨?_, fun i j => IsBodyPlace.unique, fun operations h => ?_⟩
  · rintro count rfl hcount hverbs
    exact result_operationsOfMethod_of_severalBodies hverbs hcount
  obtain ⟨hsound, rfl⟩ := result_operationsOfMethod_iff.1 h
  refine ⟨?_, fun o ho => ?_⟩
  · obtain ⟨path, hpath⟩ := List.exists_mem_of_ne_nil _ route.methodPaths_ne_nil
    obtain ⟨verb, hverb⟩ := List.exists_mem_of_ne_nil _ hsound.has_verbs
    exact List.ne_nil_of_mem
      (List.mem_flatMap.2 ⟨path, hpath, List.mem_map_of_mem hverb⟩)
  obtain ⟨path, -, ho⟩ := List.mem_flatMap.1 ho
  obtain ⟨verb, -, rfl⟩ := List.mem_map.1 ho
  rw [operationAt, Hooks.interceptOperation_eq hz]
  have hbody : ∀ b, (methodTemplate scope hooks handler m route).requestBody = some b ↔
      ∃ i p, IsBodyPlace hooks m i ∧ m.parameters[i]? = some p ∧ IsBodyOf scope route p b :=
    fun b => requestBody_methodTemplate hz hsound
  refine ⟨?_, ?_, hbody⟩
  · obtain ⟨places, hlt, hmem, hentries⟩ := listedParameters_spec hz hsound
    refine ⟨places, hlt, hmem, fun i hi => ?_, hentries⟩
    obtain ⟨q, hq⟩ := (hmem i).1 hi
    cases hq with
    | mk _ _ hn _ _ _ => exact hn
  · rw [Option.isSome_iff_exists]
    constructor
    · rintro ⟨b, hb⟩
      obtain ⟨i, p, hi, hp, hof⟩ := (hbody b).1 hb
      exact ⟨i, p, hi, hp, exists_isBodyOf_iff.1 ⟨b, hof⟩⟩
    · rintro ⟨i, p, hi, hp, hs⟩
      obtain ⟨b, hof⟩ := exists_isBodyOf_iff.2 hs
      exact ⟨b, (hbody b).2 ⟨i, p, hi, hp, hof⟩⟩

/-- The scope of a program without types. -/
def bareScope : Scope where
  graph := { types := [], nodup_names := List.nodup_nil }
  namespaces := ⟨[]⟩

/-- The route of a method that prints. -/
def printRoute : Route := .ofPath "\x7bslot\x7d" [.post]

/-- A method with a parameter without schema, one that is renamed, files that are bound to the
query, a file that is not bound, and one that is left out. -/
def printMethod : MethodDescriptor where
  name := "print"
  parameters := [
    { name := "session", type := .foreign "Session"
      directives := [.binding ⟨.query, none, none, none⟩] },
    { name := "tray", type := .text
      directives := [.binding ⟨.path, some "", some "slot", some false⟩] },
    { name := "sheets", type := .list .file, directives := [.binding ⟨.query, none, none, none⟩] },
    { name := "cover", type := .file },
    { name := "note", type := .text, directives := [.binding ⟨.body, none, none, none⟩, .exclude] }]

/-- The files become the body, the renamed parameter has an entry, and the file that is not bound
goes nowhere. -/
theorem parameters_placed_print :
    Hooks.none.interceptorCount = 0 ∧
      ∃ operations, (operationsOfMethod bareScope Hooks.none { name := "office.Printer" } "/print"
        "print" printMethod printRoute).result = .ok operations ∧
        operations ≠ [] ∧ ∀ o ∈ operations, o.requestBody.isSome = true ∧
          ∃ places : List Nat, 1 ∈ places ∧ 2 ∉ places ∧ 3 ∉ places ∧
            List.Forall₂ (IsEntryAt bareScope Hooks.none printMethod) places o.parameters := by
  obtain ⟨operations, hoperations⟩ := exists_eq_ok_of_toBool
    (show (operationsOfMethod bareScope Hooks.none { name := "office.Printer" } "/print"
      "print" printMethod printRoute).result.toBool = true by decide +kernel)
  have hbody : IsBodyPlace Hooks.none printMethod 2 :=
    (bodyPlace?_eq_some_iff (by decide +kernel)).1 (by decide +kernel)
  have hz : Hooks.none.interceptorCount = 0 := rfl
  obtain ⟨-, hunique, hplaced⟩ := parameters_placed hz bareScope { name := "office.Printer" }
    "/print" "print" printMethod printRoute
  obtain ⟨hne, hplaced⟩ := hplaced operations hoperations
  refine ⟨hz, operations, hoperations, hne, fun o ho => ?_⟩
  obtain ⟨⟨places, -, hmem, hnot, hentries⟩, hsome, -⟩ := hplaced o ho
  refine ⟨hsome.2 ⟨2, _, hbody, rfl, _, rfl⟩, places, ?_, fun h => hnot 2 h hbody, ?_, hentries⟩
  · have hother : ¬ IsBodyPlace Hooks.none printMethod 1 := fun h =>
      absurd (hunique 1 2 h hbody) (by decide)
    exact (hmem 1).2 ⟨_, .mk rfl rfl hother rfl rfl rfl⟩
  · rw [hmem]
    rintro ⟨q, ⟨hp, -, -, hb, -, -⟩⟩
    obtain rfl := Option.some.inj hp
    cases hb

end ApiContract
