import ApiContract.Proofs.Filing
import ApiContract.Proofs.OperationValues
import ApiContract.Proofs.UniqueIds
/-!
# Places of operations

An operation is declared at a *position*: a handler, one of its methods, one of the paths of the
method and one of its verbs. Its place in the document is a path and a verb. Different positions can
have one place, as different declared paths can have one canonical form. Then the generation is
refused, and in all other cases no operation is lost.

* `placeOf?` : the place of the operation that is declared at a position.
* `positionedPlaces` : all positions with their places, in the order of the operations.
* `nodup_keys_iff` : operations differ in path and verb exactly if different positions have
  different places.
* `operations_conserved` : what becomes of the operations of all handlers.
-/

namespace ApiContract

/-! ## Positions -/

/-- Where an operation is declared: the name of the handler, and the numbers of the method in the
handler, of the path in the method and of the verb in the route. -/
structure Position where
  handler : String
  method : Nat
  path : Nat
  verb : Nat
deriving DecidableEq, Repr

/-- Whether the operations of a type are part of the document. -/
def isIncludedHandler (config : Config) (t : TypeDescriptor) : Bool :=
  inNamespaces config.handlerNamespaces t.name && t.declaresRoutes && !t.directives.isExcluded

/-- The path and the verb of the operation that is declared at a position, if there is one. -/
def placeOf? (config : Config) (hooks : Hooks) (graph : TypeGraph) (p : Position) :
    Option (String × Verb) := do
  let handler ← (graph.get? p.handler).filter (isIncludedHandler config)
  let m ← handler.methods[p.method]?
  let route ← includedRoute? hooks handler m
  let path ← route.methodPaths[p.path]?
  let verb ← route.verbs[p.verb]?
  return (preparePath [basePathOf handler, path], verb)

/-- Operations that are declared at different positions have different places. -/
def PlacesDiffer (config : Config) (hooks : Hooks) (graph : TypeGraph) : Prop :=
  ∀ p q place, placeOf? config hooks graph p = some place →
    placeOf? config hooks graph q = some place → p = q

/-! ## All positions in order -/

/-- The positions in a method of a handler, with their places. -/
def methodPlaces (handler : TypeDescriptor) (method : Nat) (route : Route) :
    List (Position × (String × Verb)) :=
  route.methodPaths.zipIdx.flatMap fun (path, i) => route.verbs.zipIdx.map fun (verb, j) =>
    (⟨handler.name, method, i, j⟩, (preparePath [basePathOf handler, path], verb))

/-- The positions in a handler, with their places. -/
def handlerPlaces (hooks : Hooks) (handler : TypeDescriptor) : List (Position × (String × Verb)) :=
  handler.methods.zipIdx.flatMap fun (m, i) =>
    (includedRoute? hooks handler m).toList.flatMap (methodPlaces handler i)

/-- All positions with their places, in the order of the operations. -/
def positionedPlaces (config : Config) (hooks : Hooks) (graph : TypeGraph) :
    List (Position × (String × Verb)) :=
  (graph.types.filter (isIncludedHandler config)).flatMap (handlerPlaces hooks)

variable {config : Config} {hooks : Hooks} {graph : TypeGraph} {scope : Scope}

/-- The elements of a list that is joined from parts differ, if the elements of each part do and
tell which part they are from. -/
theorem nodup_flatMap_of_origin {α β γ : Type} {xs : List α} {f : α → List β} (part : α → γ)
    (origin : β → γ) (hxs : (xs.map part).Nodup) (hf : ∀ a ∈ xs, (f a).Nodup)
    (horigin : ∀ a ∈ xs, ∀ b ∈ f a, origin b = part a) : (xs.flatMap f).Nodup := by
  refine List.nodup_flatMap.2 ⟨hf, (List.pairwise_map.1 hxs).imp_of_mem ?_⟩
  intro a a' ha ha' hne b hb hb'
  exact hne ((horigin a ha b hb).symm.trans (horigin a' ha' b hb'))

theorem nodup_zipIdx_snd {α : Type} (xs : List α) : (xs.zipIdx.map Prod.snd).Nodup := by
  rw [List.zipIdx_map_snd]
  exact List.nodup_range'

theorem nodup_methodPlaces (handler : TypeDescriptor) (method : Nat) (route : Route) :
    (methodPlaces handler method route).Nodup := by
  refine nodup_flatMap_of_origin Prod.snd (fun b => b.1.path)
    (nodup_zipIdx_snd _) (fun a _ => ?_) fun a _ b hb => ?_
  · refine List.Nodup.of_map (fun b => b.1.verb) ?_
    rw [List.map_map]
    exact nodup_zipIdx_snd route.verbs
  · obtain ⟨v, -, rfl⟩ := List.mem_map.1 hb
    rfl

theorem mem_methodPlaces {handler : TypeDescriptor} {method : Nat} {route : Route} {p : Position}
    {place : String × Verb} :
    (p, place) ∈ methodPlaces handler method route ↔
      p.handler = handler.name ∧ p.method = method ∧ ∃ path verb,
        route.methodPaths[p.path]? = some path ∧ route.verbs[p.verb]? = some verb ∧
        place = (preparePath [basePathOf handler, path], verb) := by
  simp only [methodPlaces, List.mem_flatMap, List.mem_map, Prod.exists,
    List.mk_mem_zipIdx_iff_getElem?, Prod.mk.injEq]
  constructor
  · rintro ⟨path, i, hi, verb, j, hj, rfl, rfl⟩
    exact ⟨rfl, rfl, path, verb, hi, hj, rfl⟩
  · rintro ⟨hhandler, hmethod, path, verb, hi, hj, rfl⟩
    refine ⟨path, p.path, hi, verb, p.verb, hj, ?_, rfl⟩
    rw [← hhandler, ← hmethod]

theorem mem_handlerPlaces {handler : TypeDescriptor} {p : Position} {place : String × Verb} :
    (p, place) ∈ handlerPlaces hooks handler ↔
      p.handler = handler.name ∧ ∃ m route path verb, handler.methods[p.method]? = some m ∧
        includedRoute? hooks handler m = some route ∧ route.methodPaths[p.path]? = some path ∧
        route.verbs[p.verb]? = some verb ∧
        place = (preparePath [basePathOf handler, path], verb) := by
  simp only [handlerPlaces, List.mem_flatMap, Prod.exists, List.mk_mem_zipIdx_iff_getElem?,
    Option.mem_toList, mem_methodPlaces]
  constructor
  · rintro ⟨m, i, hm, route, hroute, hhandler, rfl, path, verb, hpath, hverb, rfl⟩
    exact ⟨hhandler, m, route, path, verb, hm, hroute, hpath, hverb, rfl⟩
  · rintro ⟨hhandler, m, route, path, verb, hm, hroute, hpath, hverb, rfl⟩
    exact ⟨m, p.method, hm, route, hroute, hhandler, rfl, path, verb, hpath, hverb, rfl⟩

theorem nodup_handlerPlaces (handler : TypeDescriptor) : (handlerPlaces hooks handler).Nodup := by
  refine nodup_flatMap_of_origin Prod.snd (fun b => b.1.method)
    (nodup_zipIdx_snd _) (fun ⟨m, i⟩ _ => ?_) fun a _ b hb => ?_
  · cases hroute : includedRoute? hooks handler m with
    | none => simp [hroute]
    | some route => simpa [hroute] using nodup_methodPlaces handler i route
  · obtain ⟨route, -, hb⟩ := List.mem_flatMap.1 hb
    exact (mem_methodPlaces.1 hb).2.1

/-- Each position is listed once. -/
theorem nodup_positionedPlaces : (positionedPlaces config hooks graph).Nodup := by
  refine nodup_flatMap_of_origin (·.name) (fun b => b.1.handler) ?_
    (fun a _ => nodup_handlerPlaces a) fun a _ b hb => (mem_handlerPlaces.1 hb).1
  exact (List.filter_sublist.map _).nodup graph.nodup_names

/-- The positions that are listed are those at which an operation is declared. -/
theorem mem_positionedPlaces {p : Position} {place : String × Verb} :
    (p, place) ∈ positionedPlaces config hooks graph ↔
      placeOf? config hooks graph p = some place := by
  simp only [positionedPlaces, List.mem_flatMap, List.mem_filter, mem_handlerPlaces, placeOf?,
    Option.bind_eq_bind, Option.bind_eq_some_iff, Option.filter_eq_some_iff,
    TypeGraph.get?_eq_some_iff, Option.pure_def, Option.some.injEq]
  constructor
  · rintro ⟨handler, ⟨hmem, hin⟩, hname, m, route, path, verb, hm, hroute, hpath, hverb, rfl⟩
    exact ⟨handler, ⟨⟨hmem, hname.symm⟩, hin⟩, m, hm, route, hroute, path, hpath, verb, hverb, rfl⟩
  · rintro ⟨handler, ⟨⟨hmem, hname⟩, hin⟩, m, hm, route, hroute, path, hpath, verb, hverb, rfl⟩
    exact ⟨handler, ⟨hmem, hin⟩, hname.symm, m, route, path, verb, hm, hroute, hpath, hverb, rfl⟩

/-- Different positions have different places exactly if the places that are listed differ. -/
theorem nodup_places_iff :
    ((positionedPlaces config hooks graph).map Prod.snd).Nodup ↔
      PlacesDiffer config hooks graph := by
  rw [List.nodup_map_iff_inj_on nodup_positionedPlaces]
  constructor
  · intro h p q place hp hq
    have heq := h (p, place) (mem_positionedPlaces.2 hp) (q, place) (mem_positionedPlaces.2 hq) rfl
    exact (Prod.mk.inj heq).1
  · rintro h ⟨p, place⟩ hp ⟨q, place'⟩ hq rfl
    rw [h p q place (mem_positionedPlaces.1 hp) (mem_positionedPlaces.1 hq)]

/-! ## Places of the operations -/

theorem map_zipIdx {α β : Type} (xs : List α) (f : α → β) :
    (xs.zipIdx.map fun p => f p.1) = xs.map f := by
  conv => rhs; rw [← List.zipIdx_map_fst 0 xs, List.map_map]
  rfl

theorem flatMap_zipIdx {α β : Type} (xs : List α) (f : α → List β) :
    (xs.zipIdx.flatMap fun p => f p.1) = xs.flatMap f := by
  rw [List.flatMap_def, List.flatMap_def, map_zipIdx]

/-- Without interceptors an operation keeps path and verb of its declaration. -/
theorem key_operationAt (hz : hooks.interceptorCount = 0) (handler : TypeDescriptor)
    (m : MethodDescriptor) (route : Route) (template : Operation) (path : String) (verb : Verb) :
    (operationAt hooks handler m route template path verb).key = (path, verb) := by
  rw [operationAt, Hooks.interceptOperation_eq hz]
  rfl

theorem map_key_methodOperations (hz : hooks.interceptorCount = 0) (handler : TypeDescriptor)
    (m : MethodDescriptor) (i : Nat) (route : Route) :
    (methodOperations scope hooks handler m route).map Operation.key =
      (methodPlaces handler i route).map Prod.snd := by
  simp only [methodOperations, methodPlaces, List.map_flatMap, List.map_map, Function.comp_def,
    key_operationAt hz]
  rw [← flatMap_zipIdx]
  simp only [← map_zipIdx route.verbs]

theorem map_key_handlerOperations (hz : hooks.interceptorCount = 0) {handler : TypeDescriptor}
    (hx : handler.directives.isExcluded = false) :
    (handlerOperations scope hooks handler).map Operation.key =
      (handlerPlaces hooks handler).map Prod.snd := by
  rw [handlerOperations, hx, if_neg (by decide), handlerPlaces, ← flatMap_zipIdx]
  simp only [List.map_flatMap]
  refine List.flatMap_congr fun place _ => List.flatMap_congr fun route _ => ?_
  exact map_key_methodOperations hz handler place.1 place.2 route

/-- The operations of all handlers lie at the places of all positions, in the same order. -/
theorem map_key_operations (hz : hooks.interceptorCount = 0) {handlers : NamespaceMatcher}
    (hh : NamespaceMatcher.ofTexts config.handlerNamespaces = .ok handlers) :
    ((handlersOf graph handlers).flatMap (handlerOperations scope hooks)).map Operation.key =
      (positionedPlaces config hooks graph).map Prod.snd := by
  rw [handlersOf, positionedPlaces]
  induction graph.types with
  | nil => rfl
  | cons t rest ih =>
    have hin : isIncludedHandler config t =
        (handlers.containsType t.name && t.declaresRoutes && !t.directives.isExcluded) := by
      rw [isIncludedHandler, inNamespaces_eq hh]
    cases hc : handlers.containsType t.name && t.declaresRoutes with
    | false =>
      rw [hc, Bool.false_and] at hin
      rw [List.filter_cons_of_neg (by simp [hc]), List.filter_cons_of_neg (by simp [hin]), ih]
    | true =>
      rw [hc, Bool.true_and] at hin
      rw [List.filter_cons_of_pos (by simp [hc]), List.flatMap_cons, List.map_append, ih]
      cases hx : t.directives.isExcluded with
      | true =>
        have hnone : handlerOperations scope hooks t = [] := by
          rw [handlerOperations, if_pos hx]
        rw [List.filter_cons_of_neg (by simp [hin, hx]), hnone]
        rfl
      | false =>
        rw [List.filter_cons_of_pos (by simp [hin, hx]), List.flatMap_cons, List.map_append,
          map_key_handlerOperations hz hx]

/-! ## The operations of a document -/

/-- What is filed is what is extracted from the handlers, under new identifiers. -/
theorem operations_perm_of_generateIn {handlers : NamespaceMatcher} {d : Document}
    (hd : (generateIn config hooks graph scope handlers).result = .ok d) :
    ∃ extracted, (allOperations scope hooks (handlersOf graph handlers)).result = .ok extracted ∧
      d.IsFiled ∧
      d.operations.Perm (withIds extracted (uniqueIds (extracted.map (·.id)))) := by
  obtain ⟨components, extracted, -, ho, hd⟩ := result_generateIn_eq_ok.1 hd
  obtain ⟨hfiled, hperm⟩ := isFiled_assemble (Document.isFiled_of_paths_eq_nil rfl) hd
  exact ⟨extracted, ho, hfiled, hperm⟩

/-- An operation of a document is what a sound method gives for all its operations, with a path, a
verb and an identifier of its own. -/
theorem exists_methodTemplate_of_operation (hz : hooks.interceptorCount = 0)
    {handlers : NamespaceMatcher} {d : Document}
    (hd : (generateIn config hooks graph scope handlers).result = .ok d) {o : Operation}
    (ho : o ∈ d.operations) :
    ∃ handler ∈ graph.types, ∃ m ∈ handler.methods, ∃ route, IsSoundMethod hooks m route ∧
      ∃ path verb id, o = { methodTemplate scope hooks handler m route with path, verb, id } := by
  obtain ⟨extracted, hextracted, -, hperm⟩ := operations_perm_of_generateIn hd
  obtain ⟨hsound, rfl⟩ := (result_allOperations_eq_ok _).1 hextracted
  obtain ⟨o', hmem, id, rfl⟩ := mem_withIds (hperm.mem_iff.1 ho)
  obtain ⟨handler, hhandler, hmem⟩ := List.mem_flatMap.1 hmem
  rw [handlerOperations] at hmem
  split at hmem
  · cases hmem
  next hx =>
  obtain ⟨m, hm, hmem⟩ := List.mem_flatMap.1 hmem
  obtain ⟨route, hroute, hmem⟩ := List.mem_flatMap.1 hmem
  have hmethod := (hsound handler hhandler (Bool.eq_false_iff.2 hx)).methods m hm route
    (Option.mem_toList.1 hroute)
  obtain ⟨path, -, hmem⟩ := List.mem_flatMap.1 hmem
  obtain ⟨verb, -, rfl⟩ := List.mem_map.1 hmem
  rw [operationAt, Hooks.interceptOperation_eq hz]
  exact ⟨handler, (List.mem_filter.1 hhandler).1, m, hm, route, hmethod, _, verb, id, rfl⟩

/-- Documents that are generated from the same operations have the same paths. -/
theorem paths_of_extracted_eq {config' : Config} {hooks' : Hooks} {graph' : TypeGraph}
    {scope' : Scope} {handlers handlers' : NamespaceMatcher} {d d' : Document}
    (hd : (generateIn config hooks graph scope handlers).result = .ok d)
    (hd' : (generateIn config' hooks' graph' scope' handlers').result = .ok d')
    (hsame : (handlersOf graph' handlers').flatMap (handlerOperations scope' hooks') =
      (handlersOf graph handlers).flatMap (handlerOperations scope hooks)) : d'.paths = d.paths := by
  obtain ⟨components, extracted, -, ho, hassemble⟩ := result_generateIn_eq_ok.1 hd
  obtain ⟨components', extracted', -, ho', hassemble'⟩ := result_generateIn_eq_ok.1 hd'
  obtain ⟨-, rfl⟩ := (result_allOperations_eq_ok _).1 ho
  obtain ⟨-, rfl⟩ := (result_allOperations_eq_ok _).1 ho'
  rw [hsame] at hassemble'
  have hempty : ({ info := config'.info, components := components' } : Document).paths =
      ({ info := config.info, components } : Document).paths := rfl
  obtain ⟨out, hout, hpaths⟩ := result_assemble_of_paths_eq hassemble hempty
  obtain rfl : out = d' := Except.ok.inj (hout.symm.trans hassemble')
  exact hpaths

theorem length_uniqueIds_ids (operations : List Operation) :
    (uniqueIds (operations.map (·.id))).length = operations.length := by
  rw [length_uniqueIds, List.length_map]

/-- Without interceptors the places of the operations of a document are those of all positions. -/
theorem keys_perm_positionedPlaces (hz : hooks.interceptorCount = 0)
    {handlers : NamespaceMatcher}
    (hh : NamespaceMatcher.ofTexts config.handlerNamespaces = .ok handlers)
    {extracted : List Operation} {d : Document}
    (ho : (allOperations scope hooks (handlersOf graph handlers)).result = .ok extracted)
    (hperm : d.operations.Perm (withIds extracted (uniqueIds (extracted.map (·.id))))) :
    (d.operations.map Operation.key).Perm ((positionedPlaces config hooks graph).map Prod.snd) := by
  obtain ⟨-, rfl⟩ := (result_allOperations_eq_ok _).1 ho
  have hkeys := hperm.map Operation.key
  rwa [map_key_withIds (length_uniqueIds_ids _), map_key_operations hz hh] at hkeys

/-- Without interceptors the operations of all handlers have different places exactly if different
positions have. -/
theorem nodup_keys_iff_placesDiffer (hz : hooks.interceptorCount = 0)
    {handlers : NamespaceMatcher}
    (hh : NamespaceMatcher.ofTexts config.handlerNamespaces = .ok handlers) :
    (((handlersOf graph handlers).flatMap (handlerOperations scope hooks)).map
      Operation.key).Nodup ↔ PlacesDiffer config hooks graph := by
  rw [map_key_operations hz hh, nodup_places_iff]

/-- Without interceptors extracted operations can be filed exactly if different positions have
different places. -/
theorem exists_assemble_iff_placesDiffer (hz : hooks.interceptorCount = 0)
    {handlers : NamespaceMatcher}
    (hh : NamespaceMatcher.ofTexts config.handlerNamespaces = .ok handlers)
    {extracted : List Operation} {d : Document} (hempty : d.paths = [])
    (ho : (allOperations scope hooks (handlersOf graph handlers)).result = .ok extracted) :
    (∃ d', (assemble d (withIds extracted (uniqueIds (extracted.map (·.id))))).result = .ok d') ↔
      PlacesDiffer config hooks graph := by
  have hnone : d.operations = [] := by rw [Document.operations, hempty]; rfl
  obtain ⟨-, rfl⟩ := (result_allOperations_eq_ok _).1 ho
  rw [exists_assemble_iff (Document.isFiled_of_paths_eq_nil hempty), hnone,
    map_key_withIds (length_uniqueIds_ids _), nodup_keys_iff_placesDiffer hz hh]
  simp

/-- In a document that is generated without interceptors different positions have different places,
and the places in use are those of all positions. -/
theorem placesDiffer_of_generate (hz : hooks.interceptorCount = 0) {d : Document}
    (hg : (generate config hooks graph).result = .ok d) :
    PlacesDiffer config hooks graph ∧ ∀ path verb, (d.operation? path verb).isSome = true ↔
      ∃ p, placeOf? config hooks graph p = some (path, verb) := by
  obtain ⟨bases, scope, handlers, -, hh, hd⟩ := result_generate_eq_ok.1 hg
  obtain ⟨extracted, ho, hfiled, hperm⟩ := operations_perm_of_generateIn hd
  obtain ⟨components, extracted', -, ho', hassemble⟩ := result_generateIn_eq_ok.1 hd
  refine ⟨(exists_assemble_iff_placesDiffer hz hh rfl ho').1 ⟨d, hassemble⟩, fun path verb => ?_⟩
  rw [Option.isSome_iff_ne_none, Ne, hfiled.operation?_eq_none_iff, not_not,
    (keys_perm_positionedPlaces hz hh ho hperm).mem_iff]
  simp only [List.mem_map, Prod.exists, exists_eq_right, mem_positionedPlaces]

/-- No operation is lost. In a document that is generated each operation stands under its own path
and verb, identifiers do not repeat, and the operations are those extracted from all handlers, up to
their order and their identifiers. Without interceptors, different positions have different places
then, and the places in use are those of all positions; and positions that share a place are
refused. -/
theorem operations_conserved (config : Config) (hooks : Hooks) (graph : TypeGraph) :
    (∀ d, (generate config hooks graph).result = .ok d →
      (∀ path operations, (path, operations) ∈ d.paths →
        ∀ verb o, (verb, o) ∈ operations → o.path = path ∧ o.verb = verb) ∧
      (d.operations.map (·.id)).Nodup ∧
      ∃ bases scope handlers extracted, IsScopeOf config hooks graph bases scope ∧
        NamespaceMatcher.ofTexts config.handlerNamespaces = .ok handlers ∧
        (allOperations scope hooks (handlersOf graph handlers)).result = .ok extracted ∧
        d.operations.Perm (withIds extracted (uniqueIds (extracted.map (·.id)))) ∧
        d.operations.length = extracted.length) ∧
    (hooks.interceptorCount = 0 →
      (∀ d, (generate config hooks graph).result = .ok d →
        PlacesDiffer config hooks graph ∧
        ∀ path verb, (d.operation? path verb).isSome = true ↔
          ∃ p, placeOf? config hooks graph p = some (path, verb)) ∧
      (¬ PlacesDiffer config hooks graph →
        ∃ fault, (generate config hooks graph).result = .error fault)) := by
  refine ⟨fun d hg => ?_, fun hz => ⟨fun d hg => placesDiffer_of_generate hz hg, fun hsame => ?_⟩⟩
  · obtain ⟨bases, scope, handlers, h, hh, hd⟩ := result_generate_eq_ok.1 hg
    obtain ⟨extracted, ho, hfiled, hperm⟩ := operations_perm_of_generateIn hd
    have hids := map_id_withIds (length_uniqueIds_ids extracted)
    refine ⟨fun path operations hp verb o hv => ?_, ?_,
      bases, scope, handlers, extracted, h, hh, ho, hperm, ?_⟩
    · exact Prod.mk.inj (hfiled.own path operations hp verb o hv)
    · rw [(hperm.map _).nodup_iff, hids]
      exact nodup_uniqueIds _
    · have hlength := congrArg List.length hids
      rw [List.length_map, length_uniqueIds_ids] at hlength
      exact hperm.length_eq.trans hlength
  · cases hg : (generate config hooks graph).result with
    | error fault => exact ⟨fault, rfl⟩
    | ok d => exact absurd (placesDiffer_of_generate hz hg).1 hsame

/-- The configuration of a library. -/
def libraryConfig : Config := { handlerNamespaces := ["library.web"] }

/-- A handler of loans whose operations have one identifier and different places. -/
def loansGraph : TypeGraph where
  types := [{ name := "library.web.Loans"
              directives := [.route (.base "/loans")]
              methods := [
                { name := "find", directives := [.route { verbs := [.get] }] },
                { name := "find", directives := [.route (.ofPath "\x7bid\x7d" [.get])] }] }]
  nodup_names := by decide +kernel

/-- The same handler with two paths that have one canonical form. -/
def slashedGraph : TypeGraph where
  types := [{ name := "library.web.Loans"
              directives := [.route (.base "/loans")]
              methods := [
                { name := "find", directives := [.route { verbs := [.get] }] },
                { name := "all", directives := [.route (.ofPath "/" [.get])] }] }]
  nodup_names := by decide +kernel

theorem operations_conserved_loans :
    (∃ d, (generate libraryConfig Hooks.none loansGraph).result = .ok d ∧
      (d.operations.map (·.id)).Nodup ∧
      (d.operation? "/loans" .get).isSome = true ∧
      (d.operation? "/loans/\x7bid\x7d" .get).isSome = true) ∧
    Hooks.none.interceptorCount = 0 ∧
    ¬ PlacesDiffer libraryConfig Hooks.none slashedGraph ∧
    ∃ fault, (generate libraryConfig Hooks.none slashedGraph).result = .error fault := by
  obtain ⟨d, hd⟩ := exists_eq_ok_of_toBool
    (show (generate libraryConfig Hooks.none loansGraph).result.toBool = true by decide +kernel)
  have hall : placeOf? libraryConfig Hooks.none loansGraph ⟨"library.web.Loans", 0, 0, 0⟩ =
      some ("/loans", .get) := by decide +kernel
  have hone : placeOf? libraryConfig Hooks.none loansGraph ⟨"library.web.Loans", 1, 0, 0⟩ =
      some ("/loans/\x7bid\x7d", .get) := by decide +kernel
  have hsame : ¬ PlacesDiffer libraryConfig Hooks.none slashedGraph := by
    intro hdiffer
    have heq := hdiffer ⟨"library.web.Loans", 0, 0, 0⟩ ⟨"library.web.Loans", 1, 0, 0⟩
      ("/loans", .get) (by decide +kernel) (by decide +kernel)
    exact absurd heq (by decide)
  have hloans := operations_conserved libraryConfig Hooks.none loansGraph
  have hslashed := operations_conserved libraryConfig Hooks.none slashedGraph
  refine ⟨⟨d, hd, (hloans.1 d hd).2.1, ?_, ?_⟩, rfl, hsame, (hslashed.2 rfl).2 hsame⟩
  · exact (((hloans.2 rfl).1 d hd).2 _ _).2 ⟨_, hall⟩
  · exact (((hloans.2 rfl).1 d hd).2 _ _).2 ⟨_, hone⟩

end ApiContract
