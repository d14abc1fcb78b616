import ApiContract.Graph.Record
import ApiContract.Proofs.Outcome
import ApiContract.Proofs.WrittenDirectives
/-!
# Written types

Reading a type descriptor from a JSON value and writing it loses nothing: what is read from the
written form is what was read before. So a type graph file with the written forms of some types, in
any order, gives those types in that order.

* `TypeDescriptor.IsWritable`, and the same for fields, parameters and methods.
* `TypeDescriptor.yields_decode`, `TypeDescriptor.reads_encode` : the two halves of the round trip.
* `descriptors_read_back` : the round trip of descriptors and of graphs.
-/

namespace ApiContract

open Decoder

/-! ## Lists of directives -/

namespace Directives

/-- Every directive is writable. -/
def IsWritable (ds : Directives) : Prop := ∀ d ∈ ds, d.IsWritable

theorem yields_decode : Directives.decode.Yields IsWritable := Directive.yields_decode.list

theorem reads_encode {ds : Directives} (h : ds.IsWritable) :
    Directives.decode.Reads ds.encode ds :=
  Reads.list fun d hd => Directive.reads_encode (h d hd)

end Directives

/-! ## Fields, parameters and methods -/

namespace FieldDescriptor

/-- The type has a notation, and the directives are writable. -/
structure IsWritable (f : FieldDescriptor) : Prop where
  type : f.type.IsCanonical
  directives : f.directives.IsWritable

theorem yields_decode : decode.Yields IsWritable := by
  refine .record ⟨True.intro, nofun⟩ fun f field hf => ?_
  split
  · exact (Yields.trivial _).map fun _ _ => ⟨hf.type, hf.directives⟩
  · exact TypeRef.yields_typeRef.map fun _ ht => ⟨ht, hf.directives⟩
  · exact (Yields.trivial _).map fun _ _ => ⟨hf.type, hf.directives⟩
  · exact Directives.yields_decode.map fun _ hds => ⟨hf.type, hds⟩
  · exact .skip hf

theorem reads_encode {f : FieldDescriptor} (hf : f.IsWritable) : decode.Reads f.encode f := by
  refine Reads.record (by decide) ?_
  refine .present (Reads.text f.name).map ?_
  refine .present (TypeRef.reads_encode hf.type).map ?_
  refine .present (Reads.flag f.isStatic).map ?_
  refine .nonEmpty (Directives.reads_encode hf.directives).map (fun h => ⟨nofun, ?_⟩) ?_
  · rw [h]
  exact .nil f

end FieldDescriptor

namespace ParameterDescriptor

/-- The type has a notation, and the directives are writable. -/
structure IsWritable (p : ParameterDescriptor) : Prop where
  type : p.type.IsCanonical
  directives : p.directives.IsWritable

theorem yields_decode : decode.Yields IsWritable := by
  refine .record ⟨True.intro, nofun⟩ fun p field hp => ?_
  split
  · exact (Yields.trivial _).map fun _ _ => ⟨hp.type, hp.directives⟩
  · exact TypeRef.yields_typeRef.map fun _ ht => ⟨ht, hp.directives⟩
  · exact Directives.yields_decode.map fun _ hds => ⟨hp.type, hds⟩
  · exact .skip hp

theorem reads_encode {p : ParameterDescriptor} (hp : p.IsWritable) :
    decode.Reads p.encode p := by
  refine Reads.record (by decide) ?_
  refine .present (Reads.text p.name).map ?_
  refine .present (TypeRef.reads_encode hp.type).map ?_
  refine .nonEmpty (Directives.reads_encode hp.directives).map (fun h => ⟨nofun, ?_⟩) ?_
  · rw [h]
  exact .nil p

end ParameterDescriptor

namespace MethodDescriptor

/-- The return type has a notation, and the parameters and directives are writable. -/
structure IsWritable (m : MethodDescriptor) : Prop where
  parameters : ∀ p ∈ m.parameters, p.IsWritable
  returns : m.returns.IsCanonical
  directives : m.directives.IsWritable

theorem yields_decode : decode.Yields IsWritable := by
  refine .record ⟨nofun, True.intro, nofun⟩ fun m field hm => ?_
  split
  · exact (Yields.trivial _).map fun _ _ => ⟨hm.parameters, hm.returns, hm.directives⟩
  · exact ParameterDescriptor.yields_decode.list.map fun _ hps =>
      ⟨hps, hm.returns, hm.directives⟩
  · exact TypeRef.yields_typeRef.map fun _ ht => ⟨hm.parameters, ht, hm.directives⟩
  · exact Directives.yields_decode.map fun _ hds => ⟨hm.parameters, hm.returns, hds⟩
  · exact .skip hm

theorem reads_encode {m : MethodDescriptor} (hm : m.IsWritable) : decode.Reads m.encode m := by
  have hparameters := Reads.list fun p hp => ParameterDescriptor.reads_encode (hm.parameters p hp)
  refine Reads.record (by decide) ?_
  refine .present (Reads.text m.name).map ?_
  refine .nonEmpty hparameters.map (fun h => ⟨nofun, ?_⟩) ?_
  · rw [h]
  refine .present (TypeRef.reads_encode hm.returns).map ?_
  refine .nonEmpty (Directives.reads_encode hm.directives).map (fun h => ⟨nofun, ?_⟩) ?_
  · rw [h]
  exact .nil m

end MethodDescriptor

/-! ## Type descriptors -/

theorem TypeKind.reads_word (k : TypeKind) : decode.Reads (.str k.word) k :=
  Reads.word (by cases k <;> decide)

namespace TypeDescriptor

/-- The fields, directives and methods are writable. -/
structure IsWritable (t : TypeDescriptor) : Prop where
  fields : ∀ f ∈ t.fields, f.IsWritable
  directives : t.directives.IsWritable
  methods : ∀ m ∈ t.methods, m.IsWritable

theorem yields_decode : decode.Yields IsWritable := by
  refine .record ⟨nofun, nofun, nofun⟩ fun t field ht => ?_
  split
  · exact (Yields.trivial _).map fun _ _ => ⟨ht.fields, ht.directives, ht.methods⟩
  · exact (Yields.trivial _).map fun _ _ => ⟨ht.fields, ht.directives, ht.methods⟩
  · exact (Yields.trivial _).map fun _ _ => ⟨ht.fields, ht.directives, ht.methods⟩
  · exact FieldDescriptor.yields_decode.list.map fun _ hfs => ⟨hfs, ht.directives, ht.methods⟩
  · exact (Yields.trivial _).map fun _ _ => ⟨ht.fields, ht.directives, ht.methods⟩
  · exact Directives.yields_decode.map fun _ hds => ⟨ht.fields, hds, ht.methods⟩
  · exact MethodDescriptor.yields_decode.list.map fun _ hms => ⟨ht.fields, ht.directives, hms⟩
  · exact .skip ht

theorem reads_encode {t : TypeDescriptor} (ht : t.IsWritable) : decode.Reads t.encode t := by
  have hfields := Reads.list fun f hf => FieldDescriptor.reads_encode (ht.fields f hf)
  have hmethods := Reads.list fun m hm => MethodDescriptor.reads_encode (ht.methods m hm)
  refine Reads.record (by decide) ?_
  refine .present (Reads.text t.name).map ?_
  refine .present t.kind.reads_word.map ?_
  refine .nonEmpty (Reads.texts t.constants).map (fun h => ⟨nofun, ?_⟩) ?_
  · rw [h]
  refine .nonEmpty hfields.map (fun h => ⟨nofun, ?_⟩) ?_
  · rw [h]
  refine .optional (fun s hs => hs ▸ (Reads.option_some (Reads.text s) rfl).map)
    (fun h => ⟨nofun, ?_⟩) ?_
  · rw [h]
  refine .nonEmpty (Directives.reads_encode ht.directives).map (fun h => ⟨nofun, ?_⟩) ?_
  · rw [h]
  refine .nonEmpty hmethods.map (fun h => ⟨nofun, ?_⟩) ?_
  · rw [h]
  exact .nil t

end TypeDescriptor

/-! ## Type graphs -/

/-- Writes a type graph file with some types. -/
def encodeTypes (types : List TypeDescriptor) : Json :=
  .record [.always "types" (.list TypeDescriptor.encode types)]

theorem reads_encodeTypes {types : List TypeDescriptor} (h : ∀ t ∈ types, t.IsWritable) :
    decodeTypes.Reads (encodeTypes types) types := by
  refine Reads.record (by decide) ?_
  refine .present (Reads.list fun t ht => TypeDescriptor.reads_encode (h t ht)) ?_
  exact .nil types

/-- A source holds what a decoder reads. -/
theorem Decoder.Reads.decode_source {α : Type} {d : Decoder α} {v : Json} {a : α}
    (h : d.Reads v a) : v.source.decode d = .ok a := by
  have hrun : d.run .typed v.toTree 0 = .ok a := by
    rw [Decoder.run, h .typed rfl]
    rfl
  simp [Source.decode, Json.source, hrun]

/-- What holds of the values that a decoder reads holds of the value of a source. -/
theorem Decoder.Yields.of_decode_source {α : Type} {d : Decoder α} {P : α → Prop}
    (h : d.Yields P) {v : Json} {a : α} (hv : v.fitsWords = true)
    (hdecode : v.source.decode d = .ok a) : P a := by
  have hrun : d.run .typed v.toTree 0 = .ok a := by
    unfold Source.decode at hdecode
    split at hdecode
    · next b hb => exact hb.trans hdecode
    · exact nomatch hdecode
  obtain ⟨p, hp, rfl⟩ := exceptMap_eq_ok.1 hrun
  exact h .typed v.toTree rfl (Json.isStored_toTree v hv) 0 p.1 p.2 hp

namespace TypeGraph

theorem ofTypes_eq_ok {types : List TypeDescriptor} (h : (types.map (·.name)).Nodup) :
    ofTypes types = .ok ⟨types, h⟩ := by
  unfold ofTypes
  split
  · next name hrepeat =>
    rw [(firstRepeat_eq_none_iff _).2 h] at hrepeat
    exact nomatch hrepeat
  · rfl

end TypeGraph

/-- A descriptor that was read from a JSON value, whose integers have 64 bits as in every JSON text,
is read back from its written form: nothing is lost by writing it. A file with the written forms of
some such descriptors with distinct names gives the graph of these types in their order, as does
every text that reads as that file. -/
theorem descriptors_read_back :
    (∀ (v : Json) (t : TypeDescriptor), v.fitsWords = true →
      v.source.decode TypeDescriptor.decode = .ok t →
        t.encode.source.decode TypeDescriptor.decode = .ok t) ∧
    ∀ types : List TypeDescriptor,
      (∀ t ∈ types, ∃ v : Json, v.fitsWords = true ∧
        v.source.decode TypeDescriptor.decode = .ok t) →
      (types.map (·.name)).Nodup →
      ∃ g : TypeGraph, g.types = types ∧
        TypeGraph.ofSource .json (encodeTypes types).source = .ok g ∧
        ∀ text, Json.readSource text = (encodeTypes types).source →
          TypeGraph.ofText .json text = .ok g := by
  have hwritable : ∀ (v : Json) (t : TypeDescriptor), v.fitsWords = true →
      v.source.decode TypeDescriptor.decode = .ok t → t.IsWritable := fun v t hv ht =>
    TypeDescriptor.yields_decode.of_decode_source hv ht
  refine ⟨fun v t hv ht => (TypeDescriptor.reads_encode (hwritable v t hv ht)).decode_source, ?_⟩
  intro types hread hn
  have htypes : ∀ t ∈ types, t.IsWritable := by
    intro t ht
    obtain ⟨v, hv, hdecode⟩ := hread t ht
    exact hwritable v t hv hdecode
  have hgraph : TypeGraph.ofSource .json (encodeTypes types).source = .ok ⟨types, hn⟩ := by
    rw [TypeGraph.ofSource, (reads_encodeTypes htypes).decode_source]
    exact TypeGraph.ofTypes_eq_ok hn
  refine ⟨⟨types, hn⟩, rfl, hgraph, fun text htext => ?_⟩
  rw [TypeGraph.ofText, htext]
  exact hgraph

/-- A type as a host may write it: keys in any order and of no use, nulls, blanks in a notation, a
bound without a point and a verb in small letters. -/
def writtenCart : Json :=
  .obj [("superclass", .null), ("name", .str "Cart"), ("since", .int 3),
    ("fields", .arr [.obj [("type", .str " list < Item > "), ("name", .str "items"),
      ("directives", .arr [.obj [("value", .int 1), ("kind", .str "min")]])]]),
    ("methods", .arr [.obj [("name", .str "find"),
      ("directives", .arr [.obj [("kind", .str "route"), ("methods", .arr [.str "get"])],
        .obj [("entries", .arr [.obj [("code", .int 200), ("body", .null),
          ("headers", .obj [("ETag", .obj [])])]]), ("kind", .str "responses")]])]])]

/-- What is read from it. -/
def cartType : TypeDescriptor where
  name := "Cart"
  fields := [{
    name := "items"
    type := .list (.named "Item")
    directives := [.min ⟨0x3FF0000000000000⟩] }]
  methods := [{
    name := "find"
    directives := [.route { verbs := [.get] },
      .responses [{ code := 200, headers := [("ETag", {})] }]] }]

/-- An enumeration as a host may write it. -/
def writtenSize : Json :=
  .obj [("kind", .str "enum"), ("constants", .arr [.str "S", .str "L"]), ("name", .str "Size")]

/-- What is read from it. -/
def sizeType : TypeDescriptor := { name := "Size", kind := .enumeration, constants := ["S", "L"] }

theorem descriptors_read_back_cart :
    writtenCart.source.decode TypeDescriptor.decode = .ok cartType ∧
    cartType.encode.source.decode TypeDescriptor.decode = .ok cartType ∧
    (∃ g : TypeGraph, g.types = [cartType, sizeType] ∧
      TypeGraph.ofSource .json (encodeTypes [cartType, sizeType]).source = .ok g) ∧
    ∃ g : TypeGraph, g.types = [sizeType] ∧ TypeGraph.ofText .json
      ("\x7b\"types\": [\x7b\"name\": \"Size\", \"kind\": \"enum\", " ++
        "\"constants\": [\"S\", \"L\"]\x7d]\x7d") = .ok g := by
  have hcart : writtenCart.source.decode TypeDescriptor.decode = .ok cartType := by decide +kernel
  have hsize : writtenSize.source.decode TypeDescriptor.decode = .ok sizeType := by decide +kernel
  obtain ⟨hback, hgraph⟩ := descriptors_read_back
  refine ⟨hcart, hback writtenCart cartType (by decide) hcart, ?_, ?_⟩
  · obtain ⟨g, htypes, hsource, -⟩ := hgraph [cartType, sizeType] (by
      simp only [List.forall_mem_cons, List.not_mem_nil, false_implies, implies_true, and_true]
      exact ⟨⟨writtenCart, by decide, hcart⟩, ⟨writtenSize, by decide, hsize⟩⟩) (by decide)
    exact ⟨g, htypes, hsource⟩
  · obtain ⟨g, htypes, -, htext⟩ := hgraph [sizeType] (by
      simp only [List.forall_mem_cons, List.not_mem_nil, false_implies, implies_true, and_true]
      exact ⟨writtenSize, by decide, hsize⟩) (by decide)
    refine ⟨g, htypes, htext _ ?_⟩
    simp only [Json.readSource, String.reduceAppend, String.reduceToList]
    rfl

end ApiContract
