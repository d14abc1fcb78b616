import ApiContract.OpenApi.Record
import ApiContract.Proofs.DistinctNames
import ApiContract.Proofs.Outcome
import ApiContract.Proofs.SavedFiles
import ApiContract.Proofs.ShownValues
import ApiContract.Storage
/-!
# Written specifications

A specification is written with the keys that have a value, and read with all others blank. So each
of its objects is read back as it was, schemas at any depth among them: a schema object is read with
as many levels as its written form has, and the schema objects in it have fewer. Bounds have to be
finite, since others are written as null.

* `Fills.nullable`, `Fills.defaulted` : members that are left out leave their fields blank.
* `SchemaObject.recovers_keywords`, `SchemaObject.recovers_decodeWithin` : one schema object, and
  all levels of them.
* `Specification.IsTabled`, `Specification.HasFiniteBounds`, `Specification.recovers_encode` : the
  same for the objects of a specification, up to the specification itself.
* `specifications_read_back` : specifications as values and in files.
-/

namespace ApiContract

open Decoder

namespace Decoder

variable {α γ : Type} {set : α → String → Decoder α} {slots : List (String × Presence)}
  {members : List Json.Member} {key : String} {presence : Presence} {a b : α}

/-- A field that may be null is filled from a member that is there when it has a value. -/
theorem Fills.nullable {f : γ → Json} {d : Decoder γ} {value : Option γ} {update : Option γ → α}
    (hset : set a key = .map update (.option d)) (hblank : update none = a)
    (hread : ∀ v, value = some v → d.Recovers (f v) v ∧ (f v).isPresent = true)
    (hpresence : presence ≠ .required)
    (hrest : Fills Recovers set slots members (update value) b) :
    Fills Recovers set ((key, presence) :: slots) (.optional key f value :: members) a b := by
  refine .optional (fun v hv => ?_) (fun hnone => ⟨hpresence, ?_⟩) hrest
  · rw [hset, hv]
    exact ((hread v hv).1.some (hread v hv).2).map
  · rw [hnone, hblank]

/-- A field with a list or a table is filled from a member that is there unless that is empty. -/
theorem Fills.defaulted {δ : Type} {f : List δ → Json} {xs : List δ} {d : Decoder γ} {value : γ}
    {update : γ → α} (hset : set a key = .map update d) (hempty : xs = [] → update value = a)
    (hread : d.Recovers (f xs) value) (hpresence : presence ≠ .required)
    (hrest : Fills Recovers set slots members (update value) b) :
    Fills Recovers set ((key, presence) :: slots) (.nonEmpty key f xs :: members) a b := by
  refine .nonEmpty ?_ (fun h => ⟨hpresence, hempty h⟩) hrest
  rw [hset]
  exact hread.map

end Decoder

namespace Json

theorem Member.nonEmpty_of_mem {γ : Type} (key : String) (f : List γ → Json) {xs : List γ} {x : γ}
    (h : x ∈ xs) : Member.nonEmpty key f xs = ⟨key, some (f xs)⟩ := by
  cases xs with
  | nil => exact nomatch h
  | cons x xs => rfl

theorem height_lt_arr {items : List Json} {v : Json} (h : v ∈ items) :
    v.toTree.height < (arr items).toTree.height := by
  refine Nat.lt_succ_of_le (show _ ≤ Tree.heights (toTrees items) from ?_)
  induction items with
  | nil => exact nomatch h
  | cons item items ih =>
    rcases List.mem_cons.1 h with rfl | h
    · exact Nat.le_max_left ..
    · exact (ih h).trans (Nat.le_max_right ..)

theorem height_lt_obj {members : List (String × Json)} {m : String × Json} (h : m ∈ members) :
    m.2.toTree.height < (obj members).toTree.height := by
  refine Nat.lt_succ_of_le (show _ ≤ Tree.entryHeights (toEntries members) from ?_)
  induction members with
  | nil => exact nomatch h
  | cons member members ih =>
    rcases List.mem_cons.1 h with rfl | h
    · exact Nat.le_max_left ..
    · exact (ih h).trans (Nat.le_max_right ..)

theorem height_lt_record {members : List Member} {key : String} {v : Json}
    (h : ⟨key, some v⟩ ∈ members) : v.toTree.height < (record members).toTree.height :=
  height_lt_obj (m := (key, v)) (List.mem_filterMap.2 ⟨_, h, rfl⟩)

end Json

theorem recovers_text (w : String) :
    Decoder.text.Recovers (.str w) w ∧ (Json.str w).isPresent = true := ⟨.text w, rfl⟩

theorem recovers_flag (b : Bool) :
    Decoder.flag.Recovers (.bool b) b ∧ (Json.bool b).isPresent = true := ⟨.flag b, rfl⟩

theorem recovers_word64 (n : UInt64) :
    Decoder.word64.Recovers (encodeWord64 n) n ∧ (encodeWord64 n).isPresent = true :=
  ⟨.word64 n, rfl⟩

/-- A bound that is not finite would be written as null. -/
theorem recovers_bound {b : Binary64} (h : b.isFinite = true) :
    Decoder.real.Recovers (.float b) b ∧ (Json.float b).isPresent = true := ⟨.real h, h⟩

namespace DiscriminatorObject

theorem recovers_encode {d : DiscriminatorObject} (h : (Assoc.keys d.mapping).Nodup) :
    decode.Recovers d.encode d := by
  refine Recovers.record (by decide) ?_
  refine .present (Recovers.text d.propertyName).map ?_
  refine .defaulted rfl (fun h => by rw [h]) (Recovers.table h fun p _ => Recovers.text p.2)
    nofun ?_
  exact .nil d

end DiscriminatorObject

namespace SchemaObject

/-- What a schema object is as a value: its tables have distinct keys, and its constants are
proper. -/
structure IsTabled (x : SchemaObject) : Prop where
  properties : (Assoc.keys x.properties).Nodup
  mapping : ∀ d ∈ x.discriminator, (Assoc.keys d.mapping).Nodup
  constants : ∀ v ∈ x.constants, v.isProper = true

/-- The bounds of a schema object are finite. -/
structure HasFiniteBounds (x : SchemaObject) : Prop where
  minimum : ∀ b ∈ x.minimum, b.isFinite = true
  maximum : ∀ b ∈ x.maximum, b.isFinite = true

/-- A schema object and all those inside it are such that they are read back. -/
def IsWritable (x : SchemaObject) : Prop :=
  ∀ node, Inside node x → node.IsTabled ∧ node.HasFiniteBounds

theorem IsWritable.of_mem_parts {x p : SchemaObject} (h : x.IsWritable) (hp : p ∈ x.parts) :
    p.IsWritable := fun node hnode => h node (.part hp hnode)

theorem IsWritable.of_parts {x : SchemaObject} (ht : x.IsTabled) (hf : x.HasFiniteBounds)
    (h : ∀ p ∈ x.parts, p.IsWritable) : x.IsWritable := by
  intro node hnode
  cases hnode with
  | self => exact ⟨ht, hf⟩
  | part hp hin => exact h _ hp node hin

theorem encodeAll_eq_map (xs : List SchemaObject) : encodeAll xs = xs.map encode := by
  induction xs with
  | nil => rfl
  | cons x rest ih => rw [encodeAll, ih, List.map_cons]

theorem encodeProperties_eq_map (xs : Assoc String SchemaObject) :
    encodeProperties xs = xs.map fun p => (p.1, p.2.encode) := by
  induction xs with
  | nil => rfl
  | cons p rest ih => rw [encodeProperties, ih, List.map_cons]

theorem encode?_eq_map (x : Option SchemaObject) : encode? x = x.map encode := by
  cases x <;> rfl

/-- The members of a schema object, with one form for all those that hold others. -/
def members (x : SchemaObject) : List Json.Member := [
  .optional "type" .str x.type,
  .optional "format" .str x.format,
  .optional "description" .str x.description,
  .nonEmpty "properties" (.table encode) x.properties,
  .nonEmpty "required" .texts x.required,
  .optional "additionalProperties" encode x.additionalProperties,
  .optional "items" encode x.items,
  .nonEmpty "enum" .arr x.constants,
  .optional "$ref" .str x.ref,
  .nonEmpty "allOf" (.list encode) x.allOf,
  .nonEmpty "oneOf" (.list encode) x.oneOf,
  .optional "discriminator" DiscriminatorObject.encode x.discriminator,
  .optional "x-discriminator-value" .str x.discriminatorValue,
  .optional "minimum" .float x.minimum,
  .optional "maximum" .float x.maximum,
  .optional "minLength" encodeWord64 x.minLength,
  .optional "maxLength" encodeWord64 x.maxLength,
  .optional "minItems" encodeWord64 x.minItems,
  .optional "maxItems" encodeWord64 x.maxItems,
  .optional "pattern" .str x.pattern,
  .optional "deprecated" .bool x.deprecated,
  .optional "readOnly" .bool x.readOnly,
  .optional "writeOnly" .bool x.writeOnly]

theorem encode_eq_record (x : SchemaObject) : x.encode = .record x.members := by
  cases x
  simp only [encode, members, encodeAll_eq_map, encodeProperties_eq_map, encode?_eq_map]
  simp only [Json.Member.nonEmpty, Json.Member.optional, Json.table, Json.list, List.isEmpty_map]

theorem isPresent_encode (x : SchemaObject) : x.encode.isPresent = true := by
  rw [encode_eq_record]
  rfl

/-- The parts of a schema object, by the keywords that hold them. -/
theorem forall_mem_parts {P : SchemaObject → Prop} {x : SchemaObject} :
    (∀ p ∈ x.parts, P p) ↔
      (∀ p ∈ x.properties, P p.2) ∧ (∀ p, x.additionalProperties = some p → P p) ∧
        (∀ p, x.items = some p → P p) ∧ (∀ p ∈ x.allOf, P p) ∧ ∀ p ∈ x.oneOf, P p := by
  simp only [parts, List.forall_mem_append, Assoc.values, List.forall_mem_map, Option.mem_toList,
    and_assoc]

/-- A part of a schema object is written with fewer levels. -/
theorem height_lt_of_mem_parts {x p : SchemaObject} (h : p ∈ x.parts) :
    p.encode.toTree.height < x.encode.toTree.height := by
  have hlist : ∀ (i : Nat) (key : String) (xs : List SchemaObject),
      x.members[i]? = some (.nonEmpty key (.list encode) xs) →
        ∀ p ∈ xs, p.encode.toTree.height < (Json.record x.members).toTree.height := by
    intro i key xs hi p hp
    have hvalue := Json.Member.nonEmpty_of_mem key (.list encode) hp
    exact (Json.height_lt_arr (List.mem_map_of_mem hp)).trans
      (Json.height_lt_record (List.mem_of_getElem? (hi.trans (congrArg some hvalue))))
  have hoption : ∀ (i : Nat) (key : String) (part : Option SchemaObject),
      x.members[i]? = some (.optional key encode part) →
        ∀ p, part = some p →
          p.encode.toTree.height < (Json.record x.members).toTree.height := by
    rintro i key _ hi p rfl
    exact Json.height_lt_record (List.mem_of_getElem? hi)
  rw [encode_eq_record x]
  refine forall_mem_parts.2 ⟨?_, hoption 5 _ _ rfl, hoption 6 _ _ rfl, hlist 9 _ _ rfl,
    hlist 10 _ _ rfl⟩ p h
  intro p hp
  have hvalue := Json.Member.nonEmpty_of_mem "properties" (.table encode) hp
  have hproperties : x.members[3]? = some (.nonEmpty "properties" (.table encode) x.properties) :=
    rfl
  exact (Json.height_lt_obj (List.mem_map_of_mem hp)).trans
    (Json.height_lt_record (List.mem_of_getElem? (hproperties.trans (congrArg some hvalue))))

/-- The keywords of a schema object are read back if its parts are. -/
theorem recovers_keywords {nested : Decoder SchemaObject} {x : SchemaObject}
    (htabled : x.IsTabled) (hfinite : x.HasFiniteBounds)
    (h : ∀ p ∈ x.parts, nested.Recovers p.encode p) :
    (Decoder.record slots {} (setKeyword nested)).Recovers x.encode x := by
  obtain ⟨hproperties, hadditional, hitems, hallOf, honeOf⟩ := forall_mem_parts.1 h
  rw [encode_eq_record]
  refine Recovers.record (by decide) ?_
  -- `dsimp only` keeps the record that is being filled flat: each field wraps it in an update
  refine .nullable rfl rfl (fun w _ => recovers_text w) nofun ?_
  refine .nullable rfl rfl (fun w _ => recovers_text w) nofun ?_
  refine .nullable rfl rfl (fun w _ => recovers_text w) nofun ?_
  dsimp only
  refine .defaulted rfl (fun h => by rw [h])
    (Recovers.table htabled.properties hproperties) nofun ?_
  refine .defaulted rfl (fun h => by rw [h]) (.texts x.required) nofun ?_
  dsimp only
  refine .nullable rfl rfl (fun p hp => ⟨hadditional p hp, p.isPresent_encode⟩) nofun ?_
  refine .nullable rfl rfl (fun p hp => ⟨hitems p hp, p.isPresent_encode⟩) nofun ?_
  dsimp only
  refine .defaulted rfl (fun h => by rw [h]) (Recovers.values htabled.constants) nofun ?_
  refine .nullable rfl rfl (fun w _ => recovers_text w) nofun ?_
  dsimp only
  refine .defaulted rfl (fun h => by rw [h]) (.list hallOf) nofun ?_
  refine .defaulted rfl (fun h => by rw [h]) (.list honeOf) nofun ?_
  dsimp only
  refine .nullable rfl rfl
    (fun d hd => ⟨DiscriminatorObject.recovers_encode (htabled.mapping d hd), rfl⟩) nofun ?_
  refine .nullable rfl rfl (fun w _ => recovers_text w) nofun ?_
  dsimp only
  refine .nullable rfl rfl (fun v hv => recovers_bound (hfinite.minimum v hv)) nofun ?_
  refine .nullable rfl rfl (fun v hv => recovers_bound (hfinite.maximum v hv)) nofun ?_
  dsimp only
  refine .nullable rfl rfl (fun n _ => recovers_word64 n) nofun ?_
  refine .nullable rfl rfl (fun n _ => recovers_word64 n) nofun ?_
  dsimp only
  refine .nullable rfl rfl (fun n _ => recovers_word64 n) nofun ?_
  refine .nullable rfl rfl (fun n _ => recovers_word64 n) nofun ?_
  dsimp only
  refine .nullable rfl rfl (fun w _ => recovers_text w) nofun ?_
  refine .nullable rfl rfl (fun b _ => recovers_flag b) nofun ?_
  dsimp only
  refine .nullable rfl rfl (fun b _ => recovers_flag b) nofun ?_
  refine .nullable rfl rfl (fun b _ => recovers_flag b) nofun ?_
  cases x
  exact .nil _

/-- A schema object is read back by as many levels as it is written with. -/
theorem recovers_decodeWithin {levels : Nat} : ∀ {x : SchemaObject}, x.IsWritable →
    x.encode.toTree.height ≤ levels → (decodeWithin levels).Recovers x.encode x := by
  induction levels with
  | zero =>
    intro x _ hheight
    rw [encode_eq_record] at hheight
    exact absurd hheight (Nat.not_succ_le_zero _)
  | succ levels ih =>
    intro x hx hheight
    obtain ⟨htabled, hfinite⟩ := hx x .self
    refine recovers_keywords htabled hfinite fun p hp => ?_
    exact ih (hx.of_mem_parts hp)
      (Nat.le_of_lt_succ ((height_lt_of_mem_parts hp).trans_le hheight))

theorem recovers_encode {x : SchemaObject} (hx : x.IsWritable) : decode.Recovers x.encode x where
  reads := by
    intro mode hmode
    have hreach : mode.reach x.encode.toTree = x.encode.toTree.height := by
      cases mode with
      | textual anchors levels => exact nomatch hmode
      | _ => rfl
    rw [decode, hreach]
    exact (recovers_decodeWithin hx le_rfl).reads mode hmode
  shown := by
    intro anchors levels t ht
    exact (recovers_decodeWithin hx (Json.height_le_of_isShownBy _ ht)).shown anchors levels t ht

end SchemaObject

/-- A schema that may be absent is read back as a field. -/
theorem recovers_schema {schema : Option SchemaObject} (h : ∀ x ∈ schema, x.IsWritable) :
    ∀ x, schema = some x →
      SchemaObject.decode.Recovers x.encode x ∧ x.encode.isPresent = true := fun x hx =>
  ⟨SchemaObject.recovers_encode (h x hx), x.isPresent_encode⟩

/-! ## Requests and responses -/

/-- The schemas in the content of a request or a response. -/
def contentSchemas (content : Assoc String MediaTypeObject) : List SchemaObject :=
  content.values.flatMap (·.schema.toList)

theorem MediaTypeObject.recovers_encode {m : MediaTypeObject} (h : ∀ x ∈ m.schema, x.IsWritable) :
    decode.Recovers m.encode m := by
  refine Recovers.record (by decide) ?_
  refine .nullable rfl rfl (recovers_schema h) nofun ?_
  exact .nil m

theorem recovers_content {content : Assoc String MediaTypeObject} (hn : content.keys.Nodup)
    (h : ∀ x ∈ contentSchemas content, x.IsWritable) :
    (Decoder.table MediaTypeObject.decode).Recovers (.table MediaTypeObject.encode content)
      content := by
  refine Recovers.table hn fun p hp => MediaTypeObject.recovers_encode fun x hx => h x ?_
  exact List.mem_flatMap.2 ⟨p.2, List.mem_map_of_mem hp, Option.mem_toList.2 hx⟩

theorem HeaderObject.recovers_encode {o : HeaderObject} (h : ∀ x ∈ o.schema, x.IsWritable) :
    decode.Recovers o.encode o := by
  refine Recovers.record (by decide) ?_
  refine .nullable rfl rfl (fun w _ => recovers_text w) nofun ?_
  refine .nullable rfl rfl (recovers_schema h) nofun ?_
  exact .nil o

namespace ResponseObject

/-- The schemas of a response. -/
def schemas (r : ResponseObject) : List SchemaObject :=
  contentSchemas r.content ++ r.headers.values.flatMap (·.schema.toList)

/-- The tables of a response have distinct keys. -/
structure IsTabled (r : ResponseObject) : Prop where
  headers : r.headers.keys.Nodup
  content : r.content.keys.Nodup

theorem recovers_encode {r : ResponseObject} (ht : r.IsTabled)
    (h : ∀ x ∈ r.schemas, x.IsWritable) : decode.Recovers r.encode r := by
  obtain ⟨hcontent, hheaders⟩ := List.forall_mem_append.1 h
  refine Recovers.record (by decide) ?_
  refine .present (Recovers.text r.description).map ?_
  refine .defaulted rfl (fun h => by rw [h]) (Recovers.table ht.headers fun p hp => ?_) nofun ?_
  · refine HeaderObject.recovers_encode fun x hx => hheaders x ?_
    exact List.mem_flatMap.2 ⟨p.2, List.mem_map_of_mem hp, Option.mem_toList.2 hx⟩
  refine .defaulted rfl (fun h => by rw [h]) (recovers_content ht.content hcontent) nofun ?_
  exact .nil r

end ResponseObject

theorem RequestBodyObject.recovers_encode {b : RequestBodyObject} (hn : b.content.keys.Nodup)
    (h : ∀ x ∈ contentSchemas b.content, x.IsWritable) : decode.Recovers b.encode b := by
  refine Recovers.record (by decide) ?_
  refine .nullable rfl rfl (fun w _ => recovers_text w) nofun ?_
  refine .present (recovers_content hn h).map ?_
  refine .nullable rfl rfl (fun f _ => recovers_flag f) nofun ?_
  exact .nil b

theorem ParameterObject.recovers_encode {p : ParameterObject} (h : ∀ x ∈ p.schema, x.IsWritable) :
    decode.Recovers p.encode p := by
  refine Recovers.record (by decide) ?_
  refine .present (Recovers.text p.name).map ?_
  refine .present (Recovers.text p.location).map ?_
  refine .nullable rfl rfl (fun w _ => recovers_text w) nofun ?_
  refine .nullable rfl rfl (fun b _ => recovers_flag b) nofun ?_
  refine .nullable rfl rfl (fun b _ => recovers_flag b) nofun ?_
  refine .nullable rfl rfl (recovers_schema h) nofun ?_
  exact .nil p

/-! ## Operations -/

namespace OperationObject

/-- The schemas of an operation. -/
def schemas (o : OperationObject) : List SchemaObject :=
  o.parameters.flatMap (·.schema.toList) ++
    o.requestBody.toList.flatMap (fun b => contentSchemas b.content) ++
    o.responses.values.flatMap (·.schemas)

/-- The tables of an operation have distinct keys. -/
structure IsTabled (o : OperationObject) : Prop where
  content : ∀ b ∈ o.requestBody, b.content.keys.Nodup
  responses : o.responses.keys.Nodup
  parts : ∀ r ∈ o.responses.values, r.IsTabled

theorem recovers_encode {o : OperationObject} (ht : o.IsTabled)
    (h : ∀ x ∈ o.schemas, x.IsWritable) : decode.Recovers o.encode o := by
  rw [schemas, List.forall_mem_append, List.forall_mem_append] at h
  obtain ⟨⟨hparameters, hbody⟩, hresponses⟩ := h
  have hparameter : ∀ p ∈ o.parameters, ParameterObject.decode.Recovers p.encode p :=
    fun p hp => ParameterObject.recovers_encode fun x hx =>
      hparameters x (List.mem_flatMap.2 ⟨p, hp, Option.mem_toList.2 hx⟩)
  have hresponse : ∀ p ∈ o.responses, ResponseObject.decode.Recovers p.2.encode p.2 :=
    fun p hp => ResponseObject.recovers_encode (ht.parts p.2 (List.mem_map_of_mem hp)) fun x hx =>
      hresponses x (List.mem_flatMap.2 ⟨p.2, List.mem_map_of_mem hp, hx⟩)
  refine Recovers.record (by decide) ?_
  refine .defaulted rfl (fun h => by rw [h]) (.texts o.tags) nofun ?_
  refine .nullable rfl rfl (fun w _ => recovers_text w) nofun ?_
  refine .nullable rfl rfl (fun w _ => recovers_text w) nofun ?_
  refine .nullable rfl rfl (fun w _ => recovers_text w) nofun ?_
  refine .defaulted rfl (fun h => by rw [h]) (.list hparameter) nofun ?_
  refine .nullable rfl rfl (fun b hb => ⟨?_, rfl⟩) nofun ?_
  · refine RequestBodyObject.recovers_encode (ht.content b hb) fun x hx => hbody x ?_
    exact List.mem_flatMap.2 ⟨b, Option.mem_toList.2 hb, hx⟩
  refine .present (Recovers.table ht.responses hresponse).map ?_
  refine .nullable rfl rfl (fun b _ => recovers_flag b) nofun ?_
  exact .nil o

end OperationObject

theorem PathItem.recovers_encode {item : PathItem}
    (h : ∀ o ∈ item.operationObjects, o.IsTabled ∧ ∀ x ∈ o.schemas, x.IsWritable) :
    decode.Recovers item.encode item := by
  have hoperation : ∀ verb o, item.operation? verb = some o →
      OperationObject.decode.Recovers o.encode o ∧ o.encode.isPresent = true := by
    intro verb o ho
    obtain ⟨ht, hschemas⟩ := h o (List.mem_filterMap.2 ⟨verb, verb.mem_all, ho⟩)
    exact ⟨OperationObject.recovers_encode ht hschemas, rfl⟩
  refine Recovers.record (by decide) ?_
  refine .nullable rfl rfl (hoperation .get) nofun ?_
  refine .nullable rfl rfl (hoperation .put) nofun ?_
  refine .nullable rfl rfl (hoperation .post) nofun ?_
  refine .nullable rfl rfl (hoperation .delete) nofun ?_
  refine .nullable rfl rfl (hoperation .options) nofun ?_
  refine .nullable rfl rfl (hoperation .head) nofun ?_
  refine .nullable rfl rfl (hoperation .patch) nofun ?_
  refine .nullable rfl rfl (hoperation .trace) nofun ?_
  exact .nil item

/-! ## Specifications -/

theorem Info.recovers_encode (i : Info) : (decodeWith .nullable).Recovers i.encode i := by
  refine Recovers.record (by decide) ?_
  refine .present (Recovers.text i.title).map ?_
  refine .nullable rfl rfl (fun w _ => recovers_text w) nofun ?_
  refine .present (Recovers.text i.version).map ?_
  exact .nil i

theorem Server.recovers_encode (s : Server) : (decodeWith .nullable).Recovers s.encode s := by
  refine Recovers.record (by decide) ?_
  refine .present (Recovers.text s.url).map ?_
  refine .nullable rfl rfl (fun w _ => recovers_text w) nofun ?_
  exact .nil s

theorem TagObject.recovers_encode (t : TagObject) : decode.Recovers t.encode t := by
  refine Recovers.record (by decide) ?_
  refine .present (Recovers.text t.name).map ?_
  exact .nil t

theorem ComponentsObject.recovers_encode {c : ComponentsObject} (hs : c.schemas.IsIncreasing)
    (h : ∀ x ∈ c.schemas.values, x.IsWritable) : decode.Recovers c.encode c := by
  refine Recovers.record (by decide) ?_
  refine .defaulted rfl (fun h => by rw [h]) (.sortedTable hs fun p hp =>
    SchemaObject.recovers_encode (h p.2 (List.mem_map_of_mem hp))) nofun ?_
  exact .nil c

namespace Specification

/-- The operations of a specification. -/
def operationObjects (s : Specification) : List OperationObject :=
  s.paths.values.flatMap PathItem.operationObjects

/-- The schemas of a specification. -/
def schemaObjects (s : Specification) : List SchemaObject :=
  s.schemas.values ++ s.operationObjects.flatMap (·.schemas)

/-- What a specification is as a value: paths and components increase, and all other tables have
distinct keys. -/
structure IsTabled (s : Specification) : Prop where
  paths : s.paths.IsIncreasing
  components : ∀ c ∈ s.components, c.schemas.IsIncreasing
  operations : ∀ o ∈ s.operationObjects, o.IsTabled
  schemas : ∀ x ∈ s.schemaObjects, ∀ node, SchemaObject.Inside node x → node.IsTabled

/-- All bounds in a specification are finite. -/
def HasFiniteBounds (s : Specification) : Prop :=
  ∀ x ∈ s.schemaObjects, ∀ node, SchemaObject.Inside node x → node.HasFiniteBounds

/-- A specification with finite bounds is read back from its written form. -/
theorem recovers_encode {s : Specification} (ht : s.IsTabled) (hf : s.HasFiniteBounds) :
    decode.Recovers s.encode s := by
  have hwritable : ∀ x ∈ s.schemaObjects, x.IsWritable := fun x hx node hnode =>
    ⟨ht.schemas x hx node hnode, hf x hx node hnode⟩
  obtain ⟨hcomponents, hoperations⟩ := List.forall_mem_append.1 hwritable
  have hpath : ∀ p ∈ s.paths, PathItem.decode.Recovers p.2.encode p.2 := by
    intro p hp
    refine PathItem.recovers_encode fun o ho => ?_
    have hmem : o ∈ s.operationObjects :=
      List.mem_flatMap.2 ⟨p.2, List.mem_map_of_mem hp, ho⟩
    exact ⟨ht.operations o hmem, fun x hx =>
      hoperations x (List.mem_flatMap.2 ⟨o, hmem, hx⟩)⟩
  refine Recovers.record (by decide) ?_
  refine .present (Recovers.text s.openapi).map ?_
  refine .present s.info.recovers_encode.map ?_
  refine .defaulted rfl (fun h => by rw [h]) (.list fun server _ => server.recovers_encode)
    nofun ?_
  refine .present (Recovers.sortedTable ht.paths hpath).map ?_
  refine .nullable rfl rfl (fun c hc => ⟨?_, rfl⟩) nofun ?_
  · refine ComponentsObject.recovers_encode (ht.components c hc) fun x hx => hcomponents x ?_
    rwa [schemas, hc]
  refine .defaulted rfl (fun h => by rw [h]) (.list fun t _ => t.recovers_encode) nofun ?_
  exact .nil s

end Specification

/-- What a text reads as in a format. -/
def Format.readSource (format : Format) (text : String) : Source :=
  match format with
  | .json => Json.readSource text
  | .yaml => Yaml.readSource text

variable {s : Specification} {format : Format}

/-- A text that shows the written form of a specification holds the specification. -/
theorem ofText_of_shows (ht : s.IsTabled) (hf : s.HasFiniteBounds) {text : String}
    (h : (format.readSource text).Shows s.encode) : Specification.ofText format text = .ok s := by
  have hdecode := (Specification.recovers_encode ht hf).decode_source h
  cases format with
  | json => exact congrArg (Except.mapError fun _ => Fault.json none) hdecode
  | yaml => exact congrArg (Except.mapError fun _ => Fault.yaml none) hdecode

/-- A specification whose bounds are finite is read back from the values that it is written as. If
the text that is written shows these values to a reader of its format, a specification that has been
saved in the format of its file name is loaded again, without loss. -/
theorem specifications_read_back (s : Specification) (ht : s.IsTabled) (hf : s.HasFiniteBounds) :
    s.encode.source.decode Specification.decode = .ok s ∧
    ∀ (path : String) (format : Format) (indented : Bool) (files saved : FileStore),
      Format.ofPath? path = some format →
      (format.readSource (s.write format indented)).Shows s.encode →
      (Specification.save (m := StateM FileStore) s path format indented).run files =
        (.ok (), saved) →
      (Specification.load (m := StateM FileStore) path).run saved = (.ok s, saved) := by
  have hsource : s.encode.source.Shows s.encode := ⟨rfl, rfl⟩
  refine ⟨(Specification.recovers_encode ht hf).decode_source hsource, ?_⟩
  intro path format indented files saved hformat hshows hsave
  have htext : Specification.ofText (Format.ofFile path (s.write format indented))
      (s.write format indented) = .ok s := by
    rw [Format.ofFile, hformat]
    exact ofText_of_shows ht hf hshows
  have hload : (Specification.load (m := StateM FileStore) path).run saved =
      ((saved.read path).bind fun text =>
        Specification.ofText (Format.ofFile path text) text, saved) := rfl
  rw [hload, FileStore.read_save (FileStore.run_save_eq_ok.1 hsave)]
  exact congrArg (·, saved) htext

/-- A number whose least value is a half. -/
def fareObject : SchemaObject := { minimum := some ⟨0x3FE0000000000000⟩ }

/-- A specification with one component. -/
def fareSpecification : Specification where
  openapi := Specification.version
  info := { title := "Ferries", version := "1" }
  components := some ⟨[("Fare", fareObject)]⟩

/-- A tariff with fares by name. -/
def tariffObject : SchemaObject where
  additionalProperties := some fareObject
  allOf := [{ ref := some "#/components/schemas/Table" }]
  discriminatorValue := some "ferry"

/-- An operation that takes a fare. -/
def bookOperation : OperationObject where
  operationId := some "book"
  requestBody := some {
    content := [("text/plain", { schema := some { ref := some "#/components/schemas/Fare" } })] }
  responses := [("200", { description := "OK" })]

/-- A specification with one component and one operation. -/
def bookSpecification : Specification where
  openapi := Specification.version
  info := { title := "Ferries", version := "1" }
  paths := [("/fares", { post := some bookOperation })]
  components := some ⟨[("Tariff", tariffObject)]⟩

theorem isWritable_reference (text : String) :
    ({ ref := some text } : SchemaObject).IsWritable :=
  .of_parts ⟨List.nodup_nil, nofun, nofun⟩ ⟨nofun, nofun⟩ nofun

theorem isWritable_fareObject : fareObject.IsWritable := by
  refine .of_parts ⟨List.nodup_nil, nofun, nofun⟩ ⟨fun b hb => ?_, nofun⟩ nofun
  obtain rfl := Option.some.inj hb
  decide

theorem isWritable_tariffObject : tariffObject.IsWritable :=
  .of_parts ⟨List.nodup_nil, nofun, nofun⟩ ⟨nofun, nofun⟩
    (List.forall_mem_cons.2
      ⟨isWritable_fareObject, List.forall_mem_singleton.2 (isWritable_reference _)⟩)

/-- What is written has the keys of the standard, and none for what is absent. -/
theorem specifications_read_back_fare :
    (bookSpecification.IsTabled ∧ bookSpecification.HasFiniteBounds ∧
      bookSpecification.encode = .obj [
        ("openapi", .str "3.0.3"),
        ("info", .obj [("title", .str "Ferries"), ("version", .str "1")]),
        ("paths", .obj [("/fares", .obj [("post", .obj [
          ("operationId", .str "book"),
          ("requestBody", .obj [("content", .obj [("text/plain", .obj [
            ("schema", .obj [("$ref", .str "#/components/schemas/Fare")])])])]),
          ("responses", .obj [("200", .obj [("description", .str "OK")])])])])]),
        ("components", .obj [("schemas", .obj [("Tariff", .obj [
          ("additionalProperties", .obj [("minimum", .float ⟨0x3FE0000000000000⟩)]),
          ("allOf", .arr [.obj [("$ref", .str "#/components/schemas/Table")]]),
          ("x-discriminator-value", .str "ferry")])])])] ∧
      bookSpecification.encode.source.decode Specification.decode = .ok bookSpecification) ∧
    fareSpecification.IsTabled ∧ fareSpecification.HasFiniteBounds ∧
    fareSpecification.encode.source.decode Specification.decode = .ok fareSpecification ∧
    ∃ saved : FileStore,
      (Specification.save (m := StateM FileStore) fareSpecification "out/api.yaml" .yaml true).run
        {} = (.ok (), saved) ∧
      (Specification.load (m := StateM FileStore) "out/api.yaml").run saved =
        (.ok fareSpecification, saved) := by
  have hbook : ∀ x ∈ bookSpecification.schemaObjects, x.IsWritable := List.forall_mem_cons.2
    ⟨isWritable_tariffObject, List.forall_mem_singleton.2 (isWritable_reference _)⟩
  have hfare : ∀ x ∈ fareSpecification.schemaObjects, x.IsWritable :=
    List.forall_mem_singleton.2 isWritable_fareObject
  have hbooktabled : bookSpecification.IsTabled := by
    refine ⟨List.pairwise_singleton _ _, fun c hc => ?_, fun o ho => ?_,
      fun x hx node hin => (hbook x hx node hin).1⟩
    · obtain rfl := Option.some.inj hc
      exact List.pairwise_singleton _ _
    · obtain rfl : o = bookOperation := List.mem_singleton.1 ho
      refine ⟨fun b hb => ?_, List.nodup_singleton _, List.forall_mem_singleton.2 ?_⟩
      · obtain rfl := Option.some.inj hb
        exact List.nodup_singleton _
      · exact ⟨List.nodup_nil, List.nodup_nil⟩
  have hbookfinite : bookSpecification.HasFiniteBounds := fun x hx node hin =>
    (hbook x hx node hin).2
  have htabled : fareSpecification.IsTabled := by
    refine ⟨List.Pairwise.nil, fun c hc => ?_, nofun,
      fun x hx node hin => (hfare x hx node hin).1⟩
    obtain rfl := Option.some.inj hc
    exact List.pairwise_singleton _ _
  have hfinite : fareSpecification.HasFiniteBounds := fun x hx node hin => (hfare x hx node hin).2
  obtain ⟨hbooksource, -⟩ := specifications_read_back bookSpecification hbooktabled hbookfinite
  obtain ⟨hsource, hfile⟩ := specifications_read_back fareSpecification htabled hfinite
  obtain ⟨saved, hsaved⟩ := exists_eq_ok_of_toBool
    (show (FileStore.save {} "out/api.yaml" (fareSpecification.write .yaml true)).toBool = true by
      decide +kernel)
  have hsave := FileStore.run_save_eq_ok.2 hsaved
  refine ⟨⟨hbooktabled, hbookfinite, rfl, hbooksource⟩, htabled, hfinite, hsource, saved, hsave, ?_⟩
  refine hfile "out/api.yaml" .yaml true {} saved (by decide +kernel) ?_ hsave
  exact Source.shows_of_showsByText (by decide +kernel)

end ApiContract
