import ApiContract.Proofs.TypeGrammar
import ApiContract.Text.LetterCase
/-!
# Canonical types

The types that notations give. A type is canonical if the texts in it are boxed, its names look
like names and are no keywords, and its foreign types have a text without blanks around it. Writing
and reading are inverse to each other on these types, and on no others.

* `TypeRef.IsCanonical` : the canonical types.
* `denotes_writeChars` : the written form of a canonical type denotes it.
* `isCanonical_of_denotes` : whatever a text denotes is canonical.
* `written_types_read_back` : reading the written form gives a type back exactly if it is canonical.
-/

namespace ApiContract

open Text

namespace TypeRef

/-- The keywords that look like names. -/
def reservedWords : List String :=
  ["int32", "int64", "float", "double", "boolean", "string", "date", "uuid", "file", "void"]

/-- A type that a notation can give. -/
def IsCanonical : TypeRef → Prop
  | .primitive kind boxed => kind = .string → boxed = true
  | .list element => IsCanonical element
  | .array element => IsCanonical element
  | .map value => IsCanonical value
  | .envelope inner => IsCanonical inner
  | .foreign text => text ≠ "" ∧ IsTrimmed text.toList
  | .named name => name ≠ "" ∧ (∀ c ∈ name.toList, isNameChar c = true) ∧ name ∉ reservedWords
  | _ => True

instance decidableIsCanonical : (t : TypeRef) → Decidable t.IsCanonical
  | .primitive kind boxed => inferInstanceAs (Decidable (kind = .string → boxed = true))
  | .list element => decidableIsCanonical element
  | .array element => decidableIsCanonical element
  | .map value => decidableIsCanonical value
  | .envelope inner => decidableIsCanonical inner
  | .foreign text => inferInstanceAs (Decidable (text ≠ "" ∧ IsTrimmed text.toList))
  | .named name => inferInstanceAs (Decidable
      (name ≠ "" ∧ (∀ c ∈ name.toList, isNameChar c = true) ∧ name ∉ reservedWords))
  | .date | .dateTime | .uuid | .file | .void => isTrue trivial

/-- Names that are no reserved words are no keywords: the other keyword has a hyphen in it. -/
theorem not_mem_keywordTable_iff {name : String} (hc : ∀ c ∈ name.toList, isNameChar c = true) :
    name ∉ keywordTable.map Prod.fst ↔ name ∉ reservedWords := by
  have hwords : keywordTable.map Prod.fst =
      ["int32", "int64", "float", "double", "boolean", "string", "date", "date-time", "uuid",
        "file", "void"] := rfl
  have hhyphen : name ≠ "date-time" := by
    rintro rfl
    exact absurd (hc '-' (by decide)) (by decide)
  simp [hwords, reservedWords, hhyphen]

/-! ## Whatever is read is canonical -/

theorem isCanonical_of_denotesLeaf {body : List Char} {t : TypeRef} (h : DenotesLeaf body t) :
    t.IsCanonical := by
  cases h with
  | boxed kind hb => exact fun _ => rfl
  | keyword hw =>
    simp only [keywordTable, List.mem_cons, Prod.mk.injEq, List.not_mem_nil, or_false] at hw
    rcases hw with ⟨-, rfl⟩ | ⟨-, rfl⟩ | ⟨-, rfl⟩ | ⟨-, rfl⟩ | ⟨-, rfl⟩ | ⟨-, rfl⟩ | ⟨-, rfl⟩ |
      ⟨-, rfl⟩ | ⟨-, rfl⟩ | ⟨-, rfl⟩ | ⟨-, rfl⟩ <;> simp [IsCanonical]
  | named hne hc hw => exact ⟨hne, hc, (not_mem_keywordTable_iff hc).1 hw⟩

theorem isCanonical_of_denotes {s : List Char} {t : TypeRef} (h : Denotes s t) :
    t.IsCanonical := by
  induction h with
  | leaf hs => exact isCanonical_of_denotesLeaf hs
  | array hs he ih => exact ih
  | wrapper hw hs he ih =>
    rcases mem_wrapperTable_iff.1 hw with ⟨-, rfl⟩ | ⟨-, rfl⟩ | ⟨-, rfl⟩
    · exact ih
    · exact ih
    · exact ih
  | @foreign s e hs he =>
    refine ⟨by simpa using he, ?_⟩
    rw [String.toList_ofList]
    exact isTrimmed_trim e

/-! ## Whatever is canonical is read back -/

/-- The characters of names are ASCII. -/
theorem isAscii_of_isNameChar {c : Char} (h : isNameChar c = true) : isAscii c = true := by
  simp only [isNameChar, Bool.or_eq_true, beq_iff_eq] at h
  rcases h with ((h | rfl) | rfl) | rfl
  · exact isAscii_of_isAlphanum h
  all_goals rfl

theorem isBlank_eq_false_of_isNameChar {c : Char} (h : isNameChar c = true) :
    isBlank c = false :=
  of_isAscii (p := fun c => isNameChar c = true → isBlank c = false) (by decide)
    (isAscii_of_isNameChar h) h

theorem isTrimmed_of_isNameChar {s : List Char} (h : ∀ c ∈ s, isNameChar c = true) :
    IsTrimmed s := by
  constructor
  · intro c hc
    exact isBlank_eq_false_of_isNameChar (h c (List.mem_of_head? hc))
  · intro c hc
    exact isBlank_eq_false_of_isNameChar (h c (List.mem_of_getLast? hc))

/-- An argument in brackets behind a word. -/
def wrapChars (head : String) (argument : List Char) : List Char :=
  head.toList ++ '<' :: (argument ++ ['>'])

theorem isTrimmed_wrapChars {head : String} {argument : List Char} (hhead : IsTrimmed head.toList)
    (hargument : IsTrimmed argument) : IsTrimmed (wrapChars head argument) := by
  have hopen : IsTrimmed ['<'] := by decide
  have hclose : IsTrimmed ['>'] := by decide
  exact hhead.append (hopen.append (hargument.append hclose))

/-- The written form of a wrapped type. -/
theorem writeChars_wrap {head : String} {wrap : TypeRef → TypeRef}
    (hw : (head, wrap) ∈ wrapperTable) (t : TypeRef) :
    (wrap t).writeChars = wrapChars head t.writeChars := by
  have hlist : "list<".toList = "list".toList ++ ['<'] := rfl
  have hmap : "map<".toList = "map".toList ++ ['<'] := rfl
  have henvelope : "envelope<".toList = "envelope".toList ++ ['<'] := rfl
  rcases mem_wrapperTable_iff.1 hw with ⟨rfl, rfl⟩ | ⟨rfl, rfl⟩ | ⟨rfl, rfl⟩
  · show "list<".toList ++ t.writeChars ++ ['>'] = _
    rw [hlist, List.append_assoc, List.append_assoc]
    rfl
  · show "map<".toList ++ t.writeChars ++ ['>'] = _
    rw [hmap, List.append_assoc, List.append_assoc]
    rfl
  · show "envelope<".toList ++ t.writeChars ++ ['>'] = _
    rw [henvelope, List.append_assoc, List.append_assoc]
    rfl

theorem writeChars_foreign (text : String) :
    (TypeRef.foreign text).writeChars = wrapChars "opaque" text.toList := by
  have hforeign : "opaque<".toList = "opaque".toList ++ ['<'] := rfl
  show "opaque<".toList ++ text.toList ++ ['>'] = _
  rw [hforeign, List.append_assoc, List.append_assoc]
  rfl

theorem wrapperWord_spec {head : String} (h : head ∈ "opaque" :: wrapperTable.map Prod.fst) :
    IsTrimmed head.toList ∧ '<' ∉ head.toList := by
  have hall : ∀ word ∈ ["opaque", "list", "map", "envelope"],
      IsTrimmed word.toList ∧ '<' ∉ word.toList := by decide
  exact hall head h

/-- What stands in the brackets is the argument. -/
theorem isGeneric_wrapChars {head : String} (h : head ∈ "opaque" :: wrapperTable.map Prod.fst)
    {argument : List Char} (hargument : IsTrimmed argument) :
    IsTrimmed (wrapChars head argument) ∧ IsGeneric head argument (wrapChars head argument) := by
  obtain ⟨hword, hplain⟩ := wrapperWord_spec h
  have hwhole := isTrimmed_wrapChars hword hargument
  exact ⟨hwhole, head.toList, trim_eq_self hwhole, hplain, trim_eq_self hword⟩

/-- A primitive is written as its keyword, with the mark behind it if it is boxed. Texts, which are
always boxed, do without the mark. -/
theorem denotesLeaf_primitive {kind : Primitive} {boxed : Bool}
    (h : kind = .string → boxed = true) :
    DenotesLeaf (TypeRef.primitive kind boxed).writeChars (.primitive kind boxed) := by
  by_cases hkind : kind = .string
  · subst hkind
    obtain rfl := h rfl
    have hmem : ("string", TypeRef.primitive .string true) ∈ keywordTable := by decide
    exact .keyword hmem
  · cases boxed with
    | false =>
      have hwrite : (TypeRef.primitive kind false).writeChars = kind.keyword.toList :=
        List.append_nil _
      have hunboxed : unboxed kind = .primitive kind false := by simp [unboxed, hkind]
      rw [hwrite, ← hunboxed]
      exact .keyword (mem_keywordTable_unboxed kind)
    | true =>
      have hwrite : (TypeRef.primitive kind true).writeChars =
          kind.keyword.toList ++ [] ++ ['?'] := by
        show kind.keyword.toList ++ (if true && kind != .string then ['?'] else []) = _
        simp [hkind]
      rw [hwrite]
      exact .boxed kind (by simp)

theorem DenotesLeaf.isTrimmed {body : List Char} {t : TypeRef} (h : DenotesLeaf body t) :
    IsTrimmed body := by
  cases h with
  | boxed kind hb =>
    obtain ⟨hne, ht, -⟩ := keyword_spec (mem_keywordTable_unboxed kind)
    constructor
    · intro c hc
      apply ht.1
      obtain ⟨d, rest, hword⟩ := List.exists_cons_of_ne_nil hne
      rw [hword] at hc ⊢
      exact hc
    · intro c hc
      rw [List.getLast?_concat] at hc
      obtain rfl := Option.some.inj hc
      decide
  | keyword hw => exact (keyword_spec hw).2.1
  | named hne hc hw => exact isTrimmed_of_isNameChar hc

theorem DenotesLeaf.denotes {body : List Char} {t : TypeRef} (h : DenotesLeaf body t) :
    IsTrimmed body ∧ Denotes body t := by
  have ht := h.isTrimmed
  have hleaf : DenotesLeaf (trim body) t := (trim_eq_self ht).symm ▸ h
  exact ⟨ht, .leaf hleaf⟩

theorem denotes_keyword {word : String} {t : TypeRef} (h : (word, t) ∈ keywordTable) :
    IsTrimmed word.toList ∧ Denotes word.toList t := (DenotesLeaf.keyword h).denotes

theorem denotes_wrapChars {head : String} {wrap : TypeRef → TypeRef}
    (hw : (head, wrap) ∈ wrapperTable) {t : TypeRef}
    (h : IsTrimmed t.writeChars ∧ Denotes t.writeChars t) :
    IsTrimmed (wrap t).writeChars ∧ Denotes (wrap t).writeChars (wrap t) := by
  have hhead : head ∈ "opaque" :: wrapperTable.map Prod.fst :=
    List.mem_cons_of_mem _ (List.mem_map.2 ⟨_, hw, rfl⟩)
  obtain ⟨hwhole, hs⟩ := isGeneric_wrapChars hhead h.1
  rw [writeChars_wrap hw]
  exact ⟨hwhole, .wrapper hw hs h.2⟩

/-- The written form of a canonical type has no blanks around it and denotes the type. -/
theorem denotes_writeChars {t : TypeRef} (h : t.IsCanonical) :
    IsTrimmed t.writeChars ∧ Denotes t.writeChars t := by
  induction t with
  | primitive kind boxed => exact (denotesLeaf_primitive h).denotes
  | date => exact denotes_keyword (show ("date", .date) ∈ keywordTable by decide)
  | dateTime => exact denotes_keyword (show ("date-time", .dateTime) ∈ keywordTable by decide)
  | uuid => exact denotes_keyword (show ("uuid", .uuid) ∈ keywordTable by decide)
  | file => exact denotes_keyword (show ("file", .file) ∈ keywordTable by decide)
  | void => exact denotes_keyword (show ("void", .void) ∈ keywordTable by decide)
  | list element ih =>
    have hmem : ("list", TypeRef.list) ∈ wrapperTable := by simp [mem_wrapperTable_iff]
    exact denotes_wrapChars hmem (ih h)
  | array element ih =>
    obtain ⟨ht, helement⟩ := ih h
    have hmark : IsTrimmed ['[', ']'] := by decide
    have hwhole := ht.append hmark
    exact ⟨hwhole, .array (trim_eq_self hwhole) helement⟩
  | map value ih =>
    have hmem : ("map", TypeRef.map) ∈ wrapperTable := by simp [mem_wrapperTable_iff]
    exact denotes_wrapChars hmem (ih h)
  | envelope inner ih =>
    have hmem : ("envelope", TypeRef.envelope) ∈ wrapperTable := by simp [mem_wrapperTable_iff]
    exact denotes_wrapChars hmem (ih h)
  | foreign text =>
    obtain ⟨hne, ht⟩ := h
    obtain ⟨hwhole, hs⟩ := isGeneric_wrapChars List.mem_cons_self ht
    have htrim : trim text.toList = text.toList := trim_eq_self ht
    have hargument : trim text.toList ≠ [] := by simpa [htrim] using hne
    have hdenotes := Denotes.foreign hs hargument
    rw [htrim, String.ofList_toList] at hdenotes
    rw [writeChars_foreign]
    exact ⟨hwhole, hdenotes⟩
  | named name =>
    obtain ⟨hne, hc, hw⟩ := h
    exact (DenotesLeaf.named hne hc ((not_mem_keywordTable_iff hc).2 hw)).denotes

/-- Reading the written form gives a type back exactly if the type is canonical, and whatever is
read is canonical. So reading, writing and reading again changes nothing, and no two types that
were read are written alike. -/
theorem written_types_read_back :
    (∀ t : TypeRef, parse t.write = .ok t ↔ t.IsCanonical) ∧
    (∀ s t, parse s = .ok t → t.IsCanonical ∧ parse t.write = .ok t) ∧
    ∀ r s t u, parse r = .ok t → parse s = .ok u → t.write = u.write → t = u := by
  have hread : ∀ s t, parse s = .ok t → t.IsCanonical := fun s t h =>
    isCanonical_of_denotes (parseChars_eq_ok_iff.1 h)
  have hback : ∀ t : TypeRef, t.IsCanonical → parse t.write = .ok t := by
    intro t h
    rw [parse, write, String.toList_ofList]
    exact parseChars_eq_ok_iff.2 (denotes_writeChars h).2
  refine ⟨fun t => ⟨hread _ t, hback t⟩, fun s t h => ⟨hread s t h, hback t (hread s t h)⟩, ?_⟩
  intro r s t u ht hu hwrite
  have hback_t := hback t (hread r t ht)
  rw [hwrite, hback u (hread s u hu)] at hback_t
  exact (Except.ok.inj hback_t).symm

end TypeRef
end ApiContract
