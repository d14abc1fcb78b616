import ApiContract.Directive.Record
import ApiContract.Proofs.CanonicalTypes
import ApiContract.Proofs.Rereading
/-!
# Written directives

A directive that was read from a JSON value is read back from its written form. What has to be known
of it is gathered in `Directive.IsWritable`: the types in it have a notation, its numbers are
finite, and no header is declared twice. Whatever is read from a value is writable, and what is
writable is read back.

* `Directive.IsWritable`, and the same for the parts of directives.
* `Directive.yields_decode`, `Directive.reads_encode` : the two halves of the round trip.
-/

namespace ApiContract

open Decoder

/-! ## Types in their notation -/

namespace TypeRef

theorem yields_typeRef : Decoder.typeRef.Yields IsCanonical := by
  intro mode t _ _
  refine Decoding.Ends.trivial.bind fun s _ => ?_
  split
  · next type h => exact .pure (isCanonical_of_denotes (parseChars_eq_ok_iff.1 h))
  · exact .throw

theorem reads_encode {t : TypeRef} (h : t.IsCanonical) : Decoder.typeRef.Reads t.encode t := by
  intro mode hmode
  have hparse : parse t.write = .ok t := by
    rw [parse, write, String.toList_ofList]
    exact parseChars_eq_ok_iff.2 (denotes_writeChars h).2
  rw [Decoder.typeRef, TypeRef.encode, Reads.text t.write mode hmode, pure_bind, hparse]

end TypeRef

/-! ## The parts of directives -/

theorem SubtypeDecl.reads_encode (d : SubtypeDecl) : decode.Reads d.encode d := by
  refine Reads.record (by decide) ?_
  refine .present (Reads.text d.typeName).map ?_
  refine .present (Reads.nullableText d.tag).map ?_
  exact .nil d

theorem Access.reads_word (a : Access) : decode.Reads (.str a.word) a :=
  Reads.word (by cases a <;> decide)

theorem Description.reads_encode (d : Description) : decode.Reads d.encode d := by
  refine Reads.record (by decide) ?_
  refine .present (Reads.nullableText d.description).map ?_
  refine .present (Reads.flag d.deprecated).map ?_
  refine .present (Reads.nullable (fun a _ => a.reads_word) fun _ => rfl).map ?_
  exact .nil d

theorem Verb.reads_name (v : Verb) : Verb.decode.Reads (.str v.name) v :=
  Reads.word (by cases v <;> decide)

theorem Route.reads_encode (r : Route) : decode.Reads r.encode r := by
  refine Reads.record (by decide) ?_
  refine .present (Reads.texts r.paths).map ?_
  refine .present (Reads.list fun v _ => v.reads_name).map ?_
  refine .present (Reads.nullableText r.name).map ?_
  refine .present (Reads.nullableText r.consumes).map ?_
  refine .present (Reads.nullableText r.produces).map ?_
  exact .nil r

theorem BindingLocation.reads_word (l : BindingLocation) : decode.Reads (.str l.word) l :=
  Reads.word (by cases l <;> decide)

theorem Binding.reads_encode (b : Binding) : decode.Reads b.encode b := by
  refine Reads.record (by decide) ?_
  refine .present b.location.reads_word.map ?_
  refine .present (Reads.nullableText b.name).map ?_
  refine .present (Reads.nullableText b.value).map ?_
  refine .present (Reads.nullable (fun f _ => Reads.flag f) fun _ => rfl).map ?_
  exact .nil b

namespace HeaderDecl

/-- The type of the header has a notation. -/
def IsWritable (h : HeaderDecl) : Prop := h.type.IsCanonical

theorem yields_decode : decode.Yields IsWritable := by
  have hblank : TypeRef.text.IsCanonical := by decide
  refine .record hblank fun h field hh => ?_
  split
  · exact (Yields.trivial _).map fun _ _ => hh
  · exact TypeRef.yields_typeRef.map fun _ ht => ht
  · exact .skip hh

theorem reads_encode {h : HeaderDecl} (hh : h.IsWritable) : decode.Reads h.encode h := by
  refine Reads.record (by decide) ?_
  refine .present (Reads.nullableText h.description).map ?_
  refine .present (TypeRef.reads_encode hh).map ?_
  exact .nil h

end HeaderDecl

namespace ResponseDecl

/-- The types have a notation, and no header is declared twice. -/
structure IsWritable (r : ResponseDecl) : Prop where
  body : ∀ t, r.body = some t → t.IsCanonical
  nodup_headers : (Assoc.keys r.headers).Nodup
  headers : ∀ h ∈ r.headers, h.2.IsWritable

theorem yields_decode : decode.Yields IsWritable := by
  refine .record ⟨nofun, List.nodup_nil, nofun⟩ fun r field hr => ?_
  split
  · exact (Yields.trivial _).map fun _ _ => ⟨hr.body, hr.nodup_headers, hr.headers⟩
  · exact (Yields.trivial _).map fun _ _ => ⟨hr.body, hr.nodup_headers, hr.headers⟩
  · exact TypeRef.yields_typeRef.option.map fun _ hbody =>
      ⟨hbody, hr.nodup_headers, hr.headers⟩
  · exact HeaderDecl.yields_decode.table.map fun _ hheaders =>
      ⟨hr.body, hheaders.1, hheaders.2⟩
  · exact .skip hr

theorem reads_encode {r : ResponseDecl} (hr : r.IsWritable) : decode.Reads r.encode r := by
  refine Reads.record (by decide) ?_
  refine .present (Reads.word16 r.code).map ?_
  refine .present (Reads.nullableText r.description).map ?_
  refine .present (Reads.nullable (fun t ht => TypeRef.reads_encode (hr.body t ht))
    fun _ => rfl).map ?_
  refine .present (Reads.table hr.nodup_headers fun h hh =>
    HeaderDecl.reads_encode (hr.headers h hh)).map ?_
  exact .nil r

end ResponseDecl

/-! ## Directives -/

namespace Directive

/-- Bounds are finite, and declared responses are writable. -/
def IsWritable : Directive → Prop
  | .min value => value.isFinite = true
  | .max value => value.isFinite = true
  | .responses entries => ∀ r ∈ entries, r.IsWritable
  | _ => True

/-- The only field of a record has what holds of the values that are read into it, and of the blank
value. -/
theorem yields_only {α : Type} {P : α → Prop} {name : String} {blank : α} {d : Decoder α}
    (hblank : P blank) (hd : d.Yields P) : (variant?.only name blank d).Yields P :=
  .record hblank fun _ _ _ => hd

theorem reads_only {α : Type} {name : String} {blank a : α} {d : Decoder α} {v : Json}
    (h : d.Reads v a) : (variant?.only name blank d).Reads (.record [.always name v]) a := by
  refine Reads.record (List.nodup_singleton name) ?_
  refine .present h ?_
  exact .nil a

theorem yields_bound (name : String) :
    (variant?.only name default .real).Yields fun x => x.isFinite = true :=
  yields_only (by decide) .real

theorem yields_variant {word : String} {d : Decoder Directive} (h : variant? word = some d) :
    d.Yields IsWritable := by
  unfold variant? at h
  split at h <;> cases h
  · exact (Yields.trivial _).map fun _ _ => True.intro
  · exact .unit True.intro
  · exact .unit True.intro
  · exact .unit True.intro
  · exact (yields_bound "value").map fun _ hx => hx
  · exact (yields_bound "value").map fun _ hx => hx
  · exact (Yields.trivial _).map fun _ _ => True.intro
  · exact (Yields.trivial _).map fun _ _ => True.intro
  · exact (Yields.trivial _).map fun _ _ => True.intro
  · exact .unit True.intro
  · exact (Yields.trivial _).map fun _ _ => True.intro
  · exact (Yields.trivial _).map fun _ _ => True.intro
  · exact (Yields.trivial _).map fun _ _ => True.intro
  · exact (Yields.trivial _).map fun _ _ => True.intro
  · exact (yields_only nofun ResponseDecl.yields_decode.list).map fun _ hr => hr

theorem yields_decode : decode.Yields IsWritable := .tagged fun _ _ h => yields_variant h

/-- The decoder of a directive's kind reads its members back. -/
theorem exists_variant {d : Directive} (h : d.IsWritable) :
    ∃ variant, variant? d.kind = some variant ∧ variant.Reads (.record d.members) d := by
  cases d with
  | polymorphic property subtypes =>
    refine ⟨_, rfl, Reads.map (a := (property, subtypes)) (Reads.record (by decide) ?_)⟩
    refine .present (Reads.nullableText property).map ?_
    refine .present (Reads.list fun s _ => s.reads_encode).map ?_
    exact .nil _
  | exclude => exact ⟨_, rfl, .unit _ []⟩
  | ignore => exact ⟨_, rfl, .unit _ []⟩
  | notNull => exact ⟨_, rfl, .unit _ []⟩
  | min value => exact ⟨_, rfl, (reads_only (Reads.real h)).map⟩
  | max value => exact ⟨_, rfl, (reads_only (Reads.real h)).map⟩
  | size least greatest =>
    refine ⟨_, rfl, Reads.map (a := (least, greatest)) (Reads.record (by decide) ?_)⟩
    refine .present (Reads.nullable (fun n _ => Reads.word64 n) fun _ => rfl).map ?_
    refine .present (Reads.nullable (fun n _ => Reads.word64 n) fun _ => rfl).map ?_
    exact .nil _
  | pattern regex => exact ⟨_, rfl, (reads_only (Reads.text regex)).map⟩
  | describe d => exact ⟨_, rfl, d.reads_encode.map⟩
  | deprecated => exact ⟨_, rfl, .unit _ []⟩
  | route r => exact ⟨_, rfl, r.reads_encode.map⟩
  | tag name => exact ⟨_, rfl, (reads_only (Reads.text name)).map⟩
  | binding b => exact ⟨_, rfl, b.reads_encode.map⟩
  | responseStatus code => exact ⟨_, rfl, (reads_only (Reads.word16 code)).map⟩
  | responses entries =>
    exact ⟨_, rfl, (reads_only (Reads.list fun r hr => ResponseDecl.reads_encode (h r hr))).map⟩

/-- No member of a directive is named like its kind. -/
theorem key_ne_kind (d : Directive) : ∀ m ∈ d.members, m.key ≠ "kind" := by
  cases d <;>
    simp [members, Description.members, Route.members, Binding.members, Json.Member.always]

theorem reads_encode {d : Directive} (h : d.IsWritable) : decode.Reads d.encode d := by
  obtain ⟨variant, hvariant, hreads⟩ := exists_variant h
  exact Reads.tagged hvariant d.key_ne_kind hreads

end Directive

end ApiContract
