import ApiContract.Proofs.Compositions
/-!
# The discriminator value of a subclass

A class that is composed with its superclass names the discriminator value under which it is known.
This is the value that the first base listing it gives, in order of declaration. It is the one that
the superclass itself gives exactly if the first base agrees with the superclass on it.

* `IsFirstTag` : the value that the first base listing a class gives.
* `value_of_composes` : the value of a composition, and when the mapping of the superclass leads back
  from it.
* `value_asset_first` : a value that the mapping of the superclass does not know.
-/

namespace ApiContract

/-- The first of some bases that lists a class gives it a discriminator value. -/
def IsFirstTag (bases : PolymorphismMap) (name tag : String) : Prop :=
  ∃ before base after, bases = before ++ base :: after ∧ base.2.tagOf? name = some tag ∧
    ∀ earlier ∈ before, earlier.2.tagOf? name = none

variable {config : Config} {hooks : Hooks} {graph : TypeGraph} {bases : PolymorphismMap}
  {scope : Scope} {d : Document}

theorem subclassTag?_eq_some_iff (h : IsScopeOf config hooks graph bases scope)
    {name tag : String} : subclassTag? scope name = some tag ↔ IsFirstTag bases name tag := by
  rw [subclassTag?, h.polymorphism_eq, Option.bind_some, List.findSome?_eq_some_iff]
  rfl

theorem exists_subclassTag? (h : IsScopeOf config hooks graph bases scope) {base : String}
    {b : PolymorphicBase} (hb : bases.get? base = some b) {name tag : String}
    (ht : b.tagOf? name = some tag) : ∃ value, subclassTag? scope name = some value := by
  rw [← Option.isSome_iff_exists, subclassTag?, h.polymorphism_eq, Option.bind_some,
    List.findSome?_isSome_iff]
  exact ⟨(base, b), Assoc.mem_of_get? hb, Option.isSome_iff_exists.2 ⟨tag, ht⟩⟩

/-- A class that is composed with a superclass which lists it names the discriminator value that the
first base listing it gives, in order of declaration. This is the value of the superclass, and the
mapping of the superclass leads back to the class, exactly if the superclass gives what the first
base gives. -/
theorem value_of_composes (hz : hooks.interceptorCount = 0)
    (hg : (generate config hooks graph).result = .ok d) :
    ∃ bases, (polymorphicBases config hooks graph).result = .ok bases ∧
      bases.keys.Sublist ((candidateTypes config hooks graph).map (·.name)) ∧
      ∀ t ∈ candidateTypes config hooks graph, ∀ p ∈ candidateTypes config hooks graph,
        d.Composes t.simpleName p.simpleName → ∀ b tag, bases.get? p.name = some b →
          b.tagOf? t.name = some tag →
          ∃ s c value, d.components.get? t.simpleName = some s ∧ s.asComposed? = some c ∧
            c.value = some value ∧ IsFirstTag bases t.name value ∧
            (value = tag ↔ IsFirstTag bases t.name tag) ∧
            (b.mapping.get? value = some t.simpleName ↔ IsFirstTag bases t.name tag) := by
  obtain ⟨bases, scope, handlers, h, -, hd⟩ := result_generate_eq_ok.1 hg
  have hadded := componentsAdded_of_generateIn hd
  refine ⟨bases, h.bases_eq, h.keys_bases_sublist, ?_⟩
  rintro t ht p hp ⟨s, c, hget, hc, -⟩ b tag hb htag
  obtain ⟨s', hs, hget'⟩ := hadded.component t ht
  rw [hget, Option.some.injEq] at hget'
  subst hget'
  obtain ⟨value, hvalue⟩ := exists_subclassTag? h hb htag
  have hfirst : value = tag ↔ IsFirstTag bases t.name tag := by
    rw [← subclassTag?_eq_some_iff h, hvalue, Option.some.injEq]
  have hinverted : b.IsInverted :=
    (h.base_spec (Assoc.mem_of_get? hb)).2.isInverted hadded.nodup_simpleNames
  exact ⟨s, c, value, hget, hc, (value_of_composition hz hs hc).trans hvalue,
    (subclassTag?_eq_some_iff h).1 hvalue, hfirst,
    (hinverted.get?_mapping_iff htag).trans hfirst⟩

/-! ## A class with two bases above it -/

/-- The configuration of a fleet. -/
def fleetConfig : Config := { modelNamespaces := ["fleet"] }

/-- A base that lists all that is below it. -/
def assetType : TypeDescriptor where
  name := "fleet.Asset"
  directives := [.polymorphic none
    [⟨"fleet.Vehicle", some "vehicle"⟩, ⟨"fleet.Car", some "asset-car"⟩]]

/-- A base below it, with a discriminator value of its own for cars. -/
def vehicleType : TypeDescriptor where
  name := "fleet.Vehicle"
  superclass := some "fleet.Asset"
  directives := [.polymorphic none [⟨"fleet.Car", some "car"⟩]]

/-- A class that both bases list. -/
def carType : TypeDescriptor where
  name := "fleet.Car"
  superclass := some "fleet.Vehicle"

/-- The fleet with the superclass of cars in front. -/
def vehicleFirst : TypeGraph := ⟨[vehicleType, assetType, carType], by decide +kernel⟩

/-- The fleet with the superclass of vehicles in front. -/
def assetFirst : TypeGraph := ⟨[assetType, vehicleType, carType], by decide +kernel⟩

theorem value_of_composes_vehicle_first :
    Hooks.none.interceptorCount = 0 ∧
      ∃ d, (generate fleetConfig Hooks.none vehicleFirst).result = .ok d ∧
        ∃ s c, d.components.get? carType.simpleName = some s ∧ s.asComposed? = some c ∧
          c.value = some "car" := by
  obtain ⟨d, hd⟩ := exists_eq_ok_of_toBool
    (show (generate fleetConfig Hooks.none vehicleFirst).result.toBool = true by decide +kernel)
  have hcandidates : candidateTypes fleetConfig Hooks.none vehicleFirst =
      [vehicleType, assetType, carType] := by decide +kernel
  have hcar : carType ∈ candidateTypes fleetConfig Hooks.none vehicleFirst := by
    rw [hcandidates]
    decide +kernel
  have hvehicle : vehicleType ∈ candidateTypes fleetConfig Hooks.none vehicleFirst := by
    rw [hcandidates]
    decide +kernel
  have hbases : (polymorphicBases fleetConfig Hooks.none vehicleFirst).result =
      .ok [("fleet.Vehicle", ⟨"type", [("fleet.Car", "car")]⟩),
        ("fleet.Asset", ⟨"type", [("fleet.Vehicle", "vehicle"), ("fleet.Car", "asset-car")]⟩)] := by
    decide +kernel
  obtain ⟨bases, hb, -, hall⟩ := value_of_composes rfl hd
  obtain rfl := Except.ok.inj (hbases.symm.trans hb)
  obtain ⟨s, c, value, hs, hc, hvalue, -, hfirst, -⟩ := hall carType hcar vehicleType hvehicle
    (composes_of_superclass rfl hd hcar hvehicle rfl rfl (by decide +kernel)) _ "car" rfl rfl
  obtain rfl : value = "car" := hfirst.2 ⟨[], _, _, rfl, rfl, nofun⟩
  exact ⟨rfl, d, hd, s, c, hs, hc, hvalue⟩

/-- If the farther base is declared first, the value of a car is the one of that base, and the
mapping of its superclass does not know it. -/
theorem value_asset_first :
    ∃ d, (generate fleetConfig Hooks.none assetFirst).result = .ok d ∧
      d.Composes carType.simpleName vehicleType.simpleName ∧
      ∃ bases b, (polymorphicBases fleetConfig Hooks.none assetFirst).result = .ok bases ∧
        bases.get? vehicleType.name = some b ∧ b.tagOf? carType.name = some "car" ∧
        ∃ s c, d.components.get? carType.simpleName = some s ∧ s.asComposed? = some c ∧
          c.value = some "asset-car" ∧ b.mapping.get? "asset-car" = none := by
  obtain ⟨d, hd⟩ := exists_eq_ok_of_toBool
    (show (generate fleetConfig Hooks.none assetFirst).result.toBool = true by decide +kernel)
  have hcandidates : candidateTypes fleetConfig Hooks.none assetFirst =
      [assetType, vehicleType, carType] := by decide +kernel
  have hcar : carType ∈ candidateTypes fleetConfig Hooks.none assetFirst := by
    rw [hcandidates]
    decide +kernel
  have hvehicle : vehicleType ∈ candidateTypes fleetConfig Hooks.none assetFirst := by
    rw [hcandidates]
    decide +kernel
  have hbases : (polymorphicBases fleetConfig Hooks.none assetFirst).result =
      .ok [("fleet.Asset", ⟨"type", [("fleet.Vehicle", "vehicle"), ("fleet.Car", "asset-car")]⟩),
        ("fleet.Vehicle", ⟨"type", [("fleet.Car", "car")]⟩)] := by
    decide +kernel
  have hcomposes := composes_of_superclass rfl hd hcar hvehicle rfl rfl (by decide +kernel)
  refine ⟨d, hd, hcomposes, _, ⟨"type", [("fleet.Car", "car")]⟩, hbases, by decide +kernel, rfl, ?_⟩
  obtain ⟨s, c, hs, hc, -⟩ := hcomposes
  refine ⟨s, c, hs, hc, ?_, by decide +kernel⟩
  have hvalue : (generate fleetConfig Hooks.none assetFirst).result.map (fun d =>
      ((d.components.get? carType.simpleName).bind (·.asComposed?)).map (·.value)) =
        .ok (some (some "asset-car")) := by decide +kernel
  rw [hd] at hvalue
  simpa [Except.map, hs, hc] using hvalue

end ApiContract
