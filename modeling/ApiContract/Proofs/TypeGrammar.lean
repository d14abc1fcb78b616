import ApiContract.Proofs.Outcome
import ApiContract.TypeRef
/-!
# The grammar of type notations

Which types a text denotes, said without running the reader. `Denotes` is the grammar, one
constructor for each form of a notation. It only looks at the text without the blanks around it.

* `keywordTable`, `wrapperTable` : the keywords and the wrappers.
* `Denotes` : the grammar; `Denotes.of_trim_eq` says that blanks around a text do not count.
* `IsInner` : the text that the reader turns to next, which is shorter.
* `parseChars_eq_ok_iff` : the reader accepts exactly the grammar.
* `readings_follow_grammar` : this, that no text has two readings, what a refusal names, and why
  the reader ends.
-/

namespace ApiContract

open Text

namespace TypeRef

/-! ## The grammar -/

/-- The keywords and the types that they stand for. -/
def keywordTable : List (String × TypeRef) :=
  [("int32", .primitive .int32 false), ("int64", .primitive .int64 false),
    ("float", .primitive .float false), ("double", .primitive .double false),
    ("boolean", .primitive .boolean false), ("string", .primitive .string true),
    ("date", .date), ("date-time", .dateTime), ("uuid", .uuid), ("file", .file), ("void", .void)]

/-- The wrappers of one type, by the word before the bracket. -/
def wrapperTable : List (String × (TypeRef → TypeRef)) :=
  [("list", .list), ("map", .map), ("envelope", .envelope)]

/-- A text without blanks around it denotes a type that has no parts. -/
inductive DenotesLeaf : List Char → TypeRef → Prop
  | boxed (kind : Primitive) {blanks : List Char} (hb : ∀ c ∈ blanks, isBlank c = true) :
      DenotesLeaf (kind.keyword.toList ++ blanks ++ ['?']) (.primitive kind true)
  | keyword {word : String} {t : TypeRef} (hw : (word, t) ∈ keywordTable) :
      DenotesLeaf word.toList t
  | named {name : String} (hne : name ≠ "") (hc : ∀ c ∈ name.toList, isNameChar c = true)
      (hw : name ∉ keywordTable.map Prod.fst) : DenotesLeaf name.toList (.named name)

/-- Apart from blanks, `s` is `head`, then `<`, then `e`, then `>`. -/
def IsGeneric (head : String) (e s : List Char) : Prop :=
  ∃ front, trim s = front ++ '<' :: (e ++ ['>']) ∧ '<' ∉ front ∧ trim front = head.toList

/-- A text denotes a type. -/
inductive Denotes : List Char → TypeRef → Prop
  | leaf {s : List Char} {t : TypeRef} (hs : DenotesLeaf (trim s) t) : Denotes s t
  | array {s e : List Char} {t : TypeRef} (hs : trim s = e ++ ['[', ']']) (he : Denotes e t) :
      Denotes s (.array t)
  | wrapper {s e : List Char} {t : TypeRef} {head : String} {wrap : TypeRef → TypeRef}
      (hw : (head, wrap) ∈ wrapperTable) (hs : IsGeneric head e s) (he : Denotes e t) :
      Denotes s (wrap t)
  | foreign {s e : List Char} (hs : IsGeneric "opaque" e s) (he : trim e ≠ []) :
      Denotes s (.foreign (String.ofList (trim e)))

/-- The text inside a notation that the reader turns to next. -/
inductive IsInner (s : List Char) : List Char → Prop
  | element {e : List Char} (hs : trim s = e ++ ['[', ']']) : IsInner s e
  | argument {e : List Char} {head : String} {wrap : TypeRef → TypeRef}
      (hw : (head, wrap) ∈ wrapperTable) (hs : IsGeneric head e s) (he : trim e ≠ []) :
      IsInner s (trim e)

/-! ## Blanks around a notation -/

theorem IsGeneric.of_trim_eq {head : String} {e r s : List Char} (h : IsGeneric head e s)
    (hr : trim r = trim s) : IsGeneric head e r := by
  obtain ⟨front, hs, hfront, hhead⟩ := h
  exact ⟨front, hr.trans hs, hfront, hhead⟩

/-- Texts that differ in the blanks around them denote the same types. -/
theorem Denotes.of_trim_eq {r s : List Char} {t : TypeRef} (h : Denotes s t)
    (hr : trim r = trim s) : Denotes r t := by
  cases h with
  | leaf hs => exact .leaf (hr ▸ hs)
  | array hs he => exact .array (hr.trans hs) he
  | wrapper hw hs he => exact .wrapper hw (hs.of_trim_eq hr) he
  | foreign hs he => exact .foreign (hs.of_trim_eq hr) he

/-! ## Notations without parts -/

/-- Keywords have no blanks around them and none of the characters that end other notations. -/
theorem keyword_spec {word : String} {t : TypeRef} (h : (word, t) ∈ keywordTable) :
    word.toList ≠ [] ∧ IsTrimmed word.toList ∧
      '<' ∉ word.toList ∧ ']' ∉ word.toList ∧ '?' ∉ word.toList := by
  have hall : ∀ entry ∈ keywordTable, entry.1.toList ≠ [] ∧ IsTrimmed entry.1.toList ∧
      '<' ∉ entry.1.toList ∧ ']' ∉ entry.1.toList ∧ '?' ∉ entry.1.toList := by decide
  exact hall _ h

theorem mem_keywordTable_unboxed (kind : Primitive) :
    (kind.keyword, unboxed kind) ∈ keywordTable := by
  cases kind <;> decide

theorem not_mem_of_all {p : Char → Bool} {s : List Char} (h : ∀ c ∈ s, p c = true) {d : Char}
    (hd : p d = false) : d ∉ s := by
  intro hmem
  rw [h d hmem] at hd
  cases hd

theorem ofKeyword?_eq_some_iff {word : String} {kind : Primitive} :
    Primitive.ofKeyword? word = some kind ↔ word = kind.keyword := by
  constructor
  · intro h
    have hk := List.find?_some h
    exact (eq_of_beq hk).symm
  · rintro rfl
    cases kind <;> decide

theorem special?_of_mem {word : String} {t : TypeRef} (h : special? word = some t) :
    (word, t) ∈ keywordTable := by
  unfold special? at h
  split at h
  all_goals
    cases h
    try decide

/-- The keywords are those of the kinds and the special ones. -/
theorem mem_keywordTable_iff {word : String} {t : TypeRef} :
    (word, t) ∈ keywordTable ↔
      (∃ kind, Primitive.ofKeyword? word = some kind ∧ t = unboxed kind) ∨
        (Primitive.ofKeyword? word = none ∧ special? word = some t) := by
  constructor
  · intro h
    have hall : ∀ entry ∈ keywordTable,
        (∃ kind ∈ Primitive.all, Primitive.ofKeyword? entry.1 = some kind ∧
            entry.2 = unboxed kind) ∨
          (Primitive.ofKeyword? entry.1 = none ∧ special? entry.1 = some entry.2) := by decide
    rcases hall _ h with ⟨kind, -, hk⟩ | hspecial
    · exact Or.inl ⟨kind, hk⟩
    · exact Or.inr hspecial
  · rintro (⟨kind, hk, rfl⟩ | ⟨-, hspecial⟩)
    · rw [ofKeyword?_eq_some_iff.1 hk]
      exact mem_keywordTable_unboxed kind
    · exact special?_of_mem hspecial

theorem DenotesLeaf.ne_nil {body : List Char} {t : TypeRef} (h : DenotesLeaf body t) :
    body ≠ [] := by
  cases h with
  | boxed kind hb => simp
  | keyword hw => exact (keyword_spec hw).1
  | named hne hc hw => simpa using hne

/-- No bracket stands in a notation without parts. -/
theorem DenotesLeaf.not_mem_brackets {body : List Char} {t : TypeRef} (h : DenotesLeaf body t) :
    '<' ∉ body ∧ ']' ∉ body := by
  cases h with
  | boxed kind hb =>
    obtain ⟨-, -, hopen, hclose, -⟩ := keyword_spec (mem_keywordTable_unboxed kind)
    constructor
    · simp [hopen, not_mem_of_all hb (d := '<') (by decide)]
    · simp [hclose, not_mem_of_all hb (d := ']') (by decide)]
  | keyword hw =>
    obtain ⟨-, -, hopen, hclose, -⟩ := keyword_spec hw
    exact ⟨hopen, hclose⟩
  | named hne hc hw => exact ⟨not_mem_of_all hc (by decide), not_mem_of_all hc (by decide)⟩

/-- What stands before the question mark of a boxed kind is its keyword and blanks. -/
theorem exists_blanks_of_trim_eq {base word : List Char} (ht : IsTrimmed (base ++ ['?']))
    (h : trim base = word) :
    ∃ blanks, (∀ c ∈ blanks, isBlank c = true) ∧ base = word ++ blanks := by
  have hstart : trimStart base = base := by
    apply trimStart_eq_self
    intro c hc
    apply ht.1
    rw [List.head?_append, hc]
    rfl
  obtain ⟨blanks, hb, hbase⟩ := exists_trimEnd (trimStart base)
  rw [← trim, h, hstart] at hbase
  exact ⟨blanks, hb, hbase⟩

/-- A text with a question mark behind it is a boxed kind or nothing. -/
theorem parseLeaf_mark_eq_ok_iff {s base : List Char} {t : TypeRef} :
    parseLeaf s (base ++ ['?']) = .ok t ↔
      ∃ kind : Primitive, trim base = kind.keyword.toList ∧ t = .primitive kind true := by
  have hend : dropEnding? ['?'] (base ++ ['?']) = some base := dropEnding?_eq_some_iff.2 rfl
  rw [parseLeaf, hend]
  constructor
  · intro h
    cases hk : Primitive.ofKeyword? (String.ofList (trim base)) with
    | none =>
      simp only [hk] at h
      cases h
    | some kind =>
      simp only [hk] at h
      have hword := ofKeyword?_eq_some_iff.1 hk
      exact ⟨kind, by rw [← hword, String.toList_ofList], (Except.ok.inj h).symm⟩
  · rintro ⟨kind, hword, rfl⟩
    have hk : Primitive.ofKeyword? (String.ofList (trim base)) = some kind := by
      rw [ofKeyword?_eq_some_iff, hword, String.ofList_toList]
    simp only [hk]
    rfl

theorem parseLeaf_of_mem {s body : List Char} {t : TypeRef} (hend : dropEnding? ['?'] body = none)
    (hw : (String.ofList body, t) ∈ keywordTable) : parseLeaf s body = .ok t := by
  rw [parseLeaf, hend]
  rcases mem_keywordTable_iff.1 hw with ⟨kind, hk, rfl⟩ | ⟨hk, hspecial⟩
  · simp only [hk]
  · simp only [hk, hspecial]

theorem parseLeaf_of_not_mem {s body : List Char} (hend : dropEnding? ['?'] body = none)
    (hw : String.ofList body ∉ keywordTable.map Prod.fst) :
    parseLeaf s body =
      if body.all isNameChar then .ok (.named (String.ofList body))
      else .error ⟨String.ofList s, .notAName⟩ := by
  have hnone : ∀ t, (String.ofList body, t) ∉ keywordTable := fun t hmem =>
    hw (List.mem_map.2 ⟨_, hmem, rfl⟩)
  have hk : Primitive.ofKeyword? (String.ofList body) = none := by
    rw [Option.eq_none_iff_forall_ne_some]
    exact fun kind hk => hnone _ (mem_keywordTable_iff.2 (Or.inl ⟨kind, hk, rfl⟩))
  have hspecial : special? (String.ofList body) = none := by
    rw [Option.eq_none_iff_forall_ne_some]
    exact fun t ht => hnone t (special?_of_mem ht)
  rw [parseLeaf, hend]
  simp only [hk, hspecial]

/-- Texts without brackets are read as the grammar says. -/
theorem parseLeaf_eq_ok_iff {s body : List Char} {t : TypeRef} (ht : IsTrimmed body)
    (hne : body ≠ []) : parseLeaf s body = .ok t ↔ DenotesLeaf body t := by
  constructor
  · intro h
    cases hend : dropEnding? ['?'] body with
    | some base =>
      obtain rfl := dropEnding?_eq_some_iff.1 hend
      obtain ⟨kind, hword, rfl⟩ := parseLeaf_mark_eq_ok_iff.1 h
      obtain ⟨blanks, hb, rfl⟩ := exists_blanks_of_trim_eq ht hword
      exact .boxed kind hb
    | none =>
      obtain ⟨word, rfl⟩ : ∃ word : String, body = word.toList :=
        ⟨String.ofList body, String.toList_ofList.symm⟩
      by_cases hw : word ∈ keywordTable.map Prod.fst
      · obtain ⟨⟨word, u⟩, hmem, rfl⟩ := List.mem_map.1 hw
        rw [parseLeaf_of_mem hend (by rwa [String.ofList_toList])] at h
        cases h
        exact .keyword hmem
      · rw [parseLeaf_of_not_mem hend (by rwa [String.ofList_toList]), String.ofList_toList] at h
        split at h
        · next hall =>
          cases h
          exact .named (by simpa using hne) (List.all_eq_true.1 hall) hw
        · cases h
  · intro h
    cases h with
    | boxed kind hb =>
      have hk := (keyword_spec (mem_keywordTable_unboxed kind)).2.1
      exact parseLeaf_mark_eq_ok_iff.2 ⟨kind, trim_append_of_blanks hk hb, rfl⟩
    | @keyword word t hw =>
      have hend : dropEnding? ['?'] word.toList = none := by
        rw [Option.eq_none_iff_forall_ne_some]
        intro base hbase
        obtain ⟨-, -, -, -, hmark⟩ := keyword_spec hw
        exact hmark (by simp [dropEnding?_eq_some_iff.1 hbase])
      exact parseLeaf_of_mem hend (by rwa [String.ofList_toList])
    | @named name hne hc hw =>
      have hend : dropEnding? ['?'] name.toList = none := by
        rw [Option.eq_none_iff_forall_ne_some]
        intro base hbase
        have hmem : '?' ∈ name.toList := by simp [dropEnding?_eq_some_iff.1 hbase]
        exact not_mem_of_all hc (by decide) hmem
      rw [parseLeaf_of_not_mem hend (by rwa [String.ofList_toList]), String.ofList_toList,
        if_pos (List.all_eq_true.2 hc)]

/-! ## One step of the reader -/

theorem dropEnding?_eq_none_of_getLast? {s : List Char} {c : Char} (h : s.getLast? = some c)
    (hc : c ≠ ']') : dropEnding? ['[', ']'] s = none := by
  rw [Option.eq_none_iff_forall_ne_some]
  intro e he
  rw [dropEnding?_eq_some_iff.1 he] at h
  simp at h
  exact hc h.symm

theorem parseChars_of_element {s e : List Char} (hs : trim s = e ++ ['[', ']']) :
    parseChars s = (parseChars e).map .array := by
  have hne : trim s ≠ [] := by simp [hs]
  have hend : dropEnding? ['[', ']'] (trim s) = some e := dropEnding?_eq_some_iff.2 hs
  rw [parseChars]
  simp only [hne, dite_false]
  split
  · next e' he' =>
    obtain rfl : e' = e := Option.some.inj (he'.symm.trans hend)
    rfl
  · next hnone =>
    rw [hend] at hnone
    cases hnone

/-- How a text with an argument in brackets comes apart. -/
theorem IsGeneric.spec {head : String} {e s : List Char} (h : IsGeneric head e s) :
    trim s ≠ [] ∧ dropEnding? ['[', ']'] (trim s) = none ∧ '<' ∈ trim s ∧
      (trim s).getLast? = some '>' ∧ String.ofList (wrapperHead (trim s)) = head ∧
      wrapperArgument (trim s) = trim e := by
  obtain ⟨front, hs, hfront, hhead⟩ := h
  have hlast : (trim s).getLast? = some '>' := by
    rw [hs, ← List.cons_append, ← List.append_assoc, List.getLast?_concat]
  have hplain : ∀ c ∈ front, decide (c ≠ '<') = true := by
    intro c hc
    apply decide_eq_true
    rintro rfl
    exact hfront hc
  have htake : wrapperHead (trim s) = trim front := by
    rw [wrapperHead, hs, List.takeWhile_append_of_pos hplain]
    simp
  have hdrop : wrapperArgument (trim s) = trim e := by
    rw [wrapperArgument, hs, List.dropWhile_append_of_pos hplain]
    simp
  refine ⟨by simp [hs], dropEnding?_eq_none_of_getLast? hlast (by decide), by simp [hs], hlast,
    ?_, hdrop⟩
  rw [htake, hhead, String.ofList_toList]

theorem parseChars_of_leaf {s : List Char} (hne : trim s ≠ []) (hopen : '<' ∉ trim s)
    (hclose : ']' ∉ trim s) : parseChars s = parseLeaf s (trim s) := by
  have hend : dropEnding? ['[', ']'] (trim s) = none := by
    rw [Option.eq_none_iff_forall_ne_some]
    intro e he
    apply hclose
    simp [dropEnding?_eq_some_iff.1 he]
  rw [parseChars]
  simp only [hne, hopen, dite_false]
  split
  · next e he =>
    rw [hend] at he
    cases he
  · rfl

theorem mem_wrapperTable_iff {head : String} {wrap : TypeRef → TypeRef} :
    (head, wrap) ∈ wrapperTable ↔ (head = "list" ∧ wrap = .list) ∨ (head = "map" ∧ wrap = .map) ∨
      (head = "envelope" ∧ wrap = .envelope) := by
  simp only [wrapperTable, List.mem_cons, Prod.mk.injEq, List.not_mem_nil, or_false]

theorem wrapper?_eq_some_iff {head : String} {wrap : TypeRef → TypeRef} :
    wrapper? head = some wrap ↔ (head, wrap) ∈ wrapperTable := by
  rw [mem_wrapperTable_iff]
  constructor
  · intro h
    unfold wrapper? at h
    split at h
    · exact Or.inl ⟨rfl, (Option.some.inj h).symm⟩
    · exact Or.inr (Or.inl ⟨rfl, (Option.some.inj h).symm⟩)
    · exact Or.inr (Or.inr ⟨rfl, (Option.some.inj h).symm⟩)
    · cases h
  · rintro (⟨rfl, rfl⟩ | ⟨rfl, rfl⟩ | ⟨rfl, rfl⟩) <;> rfl

theorem parseChars_of_argument {s e : List Char} {head : String} {wrap : TypeRef → TypeRef}
    (hw : (head, wrap) ∈ wrapperTable) (hs : IsGeneric head e s) (he : trim e ≠ []) :
    parseChars s = (parseChars (trim e)).map wrap := by
  obtain ⟨hne, hend, hopen, hlast, hhead, hargument⟩ := hs.spec
  have hwrap : wrapper? head = some wrap := wrapper?_eq_some_iff.2 hw
  rw [parseChars]
  simp only [hne, hopen, hlast, hhead, hargument, he, hwrap, dite_false, dite_true, if_false]
  split
  · next e' he' =>
    rw [hend] at he'
    cases he'
  · rfl

theorem parseChars_of_opaque {s e : List Char} (hs : IsGeneric "opaque" e s) (he : trim e ≠ []) :
    parseChars s = .ok (.foreign (String.ofList (trim e))) := by
  obtain ⟨hne, hend, hopen, hlast, hhead, hargument⟩ := hs.spec
  rw [parseChars]
  simp only [hne, hopen, hlast, hhead, hargument, he, dite_false, dite_true, if_false]
  split
  · next e' he' =>
    rw [hend] at he'
    cases he'
  · rfl

/-- The reader goes on with an inner text, which is shorter, and puts a wrapper around what it
finds there. -/
theorem IsInner.spec {s e : List Char} (h : IsInner s e) :
    e.length < s.length ∧
      ∃ wrap ∈ [TypeRef.array, .list, .map, .envelope], parseChars s = (parseChars e).map wrap := by
  have hle := length_trim_le s
  cases h with
  | element hs =>
    refine ⟨?_, .array, by simp, parseChars_of_element hs⟩
    rw [hs] at hle
    simp at hle
    omega
  | @argument e head wrap hw hs he =>
    have hmem : wrap ∈ [TypeRef.array, .list, .map, .envelope] := by
      rcases mem_wrapperTable_iff.1 hw with ⟨-, rfl⟩ | ⟨-, rfl⟩ | ⟨-, rfl⟩ <;> simp
    refine ⟨?_, wrap, hmem, parseChars_of_argument hw hs he⟩
    obtain ⟨front, hs, -⟩ := hs
    have hinner := length_trim_le e
    rw [hs] at hle
    simp at hle
    omega

/-! ## The reader and the grammar -/

/-- A blank text denotes nothing. -/
theorem Denotes.trim_ne_nil {s : List Char} {t : TypeRef} (h : Denotes s t) : trim s ≠ [] := by
  cases h with
  | leaf hs => exact hs.ne_nil
  | array hs he => simp [hs]
  | wrapper hw hs he => exact hs.spec.1
  | foreign hs he => exact hs.spec.1

/-- What the grammar derives is read, whatever blanks stand around it. -/
theorem parseChars_of_denotes {r s : List Char} {t : TypeRef} (h : Denotes s t)
    (hr : trim r = trim s) : parseChars r = .ok t := by
  induction h generalizing r with
  | leaf hs =>
    rw [← hr] at hs
    obtain ⟨hopen, hclose⟩ := hs.not_mem_brackets
    rw [parseChars_of_leaf hs.ne_nil hopen hclose]
    exact (parseLeaf_eq_ok_iff (isTrimmed_trim r) hs.ne_nil).2 hs
  | array hs he ih =>
    rw [parseChars_of_element (hr.trans hs), ih rfl]
    rfl
  | wrapper hw hs he ih =>
    rw [parseChars_of_argument hw (hs.of_trim_eq hr) he.trim_ne_nil, ih (trim_trim _)]
    rfl
  | foreign hs he => exact parseChars_of_opaque (hs.of_trim_eq hr) he

/-- A text with an opening bracket in it and a closing one behind it has a head and an argument. -/
theorem exists_isGeneric {s : List Char} (hopen : '<' ∈ trim s)
    (hlast : (trim s).getLast? = some '>') :
    ∃ e, IsGeneric (String.ofList (wrapperHead (trim s))) e s ∧
      wrapperArgument (trim s) = trim e := by
  obtain ⟨front, rest, hs, hfront⟩ := List.eq_append_cons_of_mem hopen
  obtain ⟨e, rfl⟩ : ∃ e, rest = e ++ ['>'] := by
    rw [hs, List.getLast?_append, List.getLast?_cons] at hlast
    cases hrest : rest.getLast? with
    | none => simp [hrest] at hlast
    | some c =>
      simp only [hrest, Option.getD_some, Option.some_or, Option.some.injEq] at hlast
      exact List.getLast?_eq_some_iff.1 (hlast ▸ hrest)
  have hgeneric : IsGeneric (String.ofList (trim front)) e s :=
    ⟨front, hs, hfront, String.toList_ofList.symm⟩
  obtain ⟨-, -, -, -, hhead, hargument⟩ := hgeneric.spec
  exact ⟨e, hhead ▸ hgeneric, hargument⟩

/-- What is read is derived by the grammar. -/
theorem denotes_of_parseChars {s : List Char} {t : TypeRef} (h : parseChars s = .ok t) :
    Denotes s t := by
  fun_induction parseChars s generalizing t
  case case1 s body hbody => cases h
  case case2 s body hbody e hend hlt ih =>
    obtain ⟨u, hu, rfl⟩ := exceptMap_eq_ok.1 h
    exact .array (dropEnding?_eq_some_iff.1 hend) (ih hu)
  case case3 s body hbody hend hopen hlast => cases h
  case case4 s body hbody hend hopen hlast argument hempty => cases h
  case case5 s body hbody hend hopen hlast head argument hne wrap hwrap hlt ih =>
    obtain ⟨u, hu, rfl⟩ := exceptMap_eq_ok.1 h
    obtain ⟨e, hs, he⟩ := exists_isGeneric hopen (Classical.not_not.1 hlast)
    have hinner : Denotes e u := (ih hu).of_trim_eq (by rw [← trim_trim e, ← he])
    exact .wrapper (wrapper?_eq_some_iff.1 hwrap) hs hinner
  case case6 s body hbody hend hopen hlast head argument hne hwrap hhead =>
    obtain ⟨e, hs, he⟩ := exists_isGeneric hopen (Classical.not_not.1 hlast)
    obtain rfl := Except.ok.inj h
    have hargument : argument = trim e := he
    have hforeign : IsGeneric "opaque" e s := hhead ▸ hs
    rw [hargument]
    exact .foreign hforeign (hargument ▸ hne)
  case case7 s body hbody hend hopen hlast head argument hne hwrap hhead => cases h
  case case8 s body hbody hend hopen =>
    exact .leaf ((parseLeaf_eq_ok_iff (isTrimmed_trim s) hbody).1 h)

/-- The reader accepts exactly the grammar. -/
theorem parseChars_eq_ok_iff {s : List Char} {t : TypeRef} :
    parseChars s = .ok t ↔ Denotes s t :=
  ⟨denotes_of_parseChars, fun h => parseChars_of_denotes h rfl⟩

/-- No text denotes two types. -/
theorem Denotes.unique {s : List Char} {t u : TypeRef} (ht : Denotes s t) (hu : Denotes s u) :
    t = u :=
  Except.ok.inj ((parseChars_eq_ok_iff.2 ht).symm.trans (parseChars_eq_ok_iff.2 hu))

/-! ## Refusals -/

/-- The inner text of a notation stands in it. -/
theorem IsInner.isPart {s e : List Char} (h : IsInner s e) : e <:+: s := by
  cases h with
  | element hs => exact (hs ▸ List.infix_append' [] e _).trans (infix_trim s)
  | @argument e head wrap hw hs he =>
    obtain ⟨front, hs, -⟩ := hs
    have hmiddle : e <:+: trim s := ⟨front ++ ['<'], ['>'], by simp [hs]⟩
    exact (infix_trim e).trans (hmiddle.trans (infix_trim s))

theorem parseLeaf_error {s body : List Char} {error : NotationError}
    (h : parseLeaf s body = .error error) : error.text = String.ofList s := by
  rw [parseLeaf] at h
  split at h
  · split at h
    · cases h
    · exact (congrArg NotationError.text (Except.error.inj h)).symm
  · dsimp only at h
    split at h
    · cases h
    · split at h
      · cases h
      · split at h
        · cases h
        · exact (congrArg NotationError.text (Except.error.inj h)).symm

/-- A refusal names the text or a part of it. -/
theorem parseChars_error_infix {s : List Char} {error : NotationError}
    (h : parseChars s = .error error) : error.text.toList <:+: s := by
  fun_induction parseChars s
  case case1 s body hbody =>
    obtain rfl := Except.error.inj h
    simp
  case case2 s body hbody e hend hlt ih =>
    have hinner : IsInner s e := .element (dropEnding?_eq_some_iff.1 hend)
    exact (ih (exceptMap_eq_error.1 h)).trans hinner.isPart
  case case3 s body hbody hend hopen hlast =>
    obtain rfl := Except.error.inj h
    simpa using infix_trim s
  case case4 s body hbody hend hopen hlast argument hempty =>
    obtain rfl := Except.error.inj h
    simpa using infix_trim s
  case case5 s body hbody hend hopen hlast head argument hne wrap hwrap hlt ih =>
    obtain ⟨e, hs, he⟩ := exists_isGeneric hopen (Classical.not_not.1 hlast)
    have hargument : argument = trim e := he
    have hinner : IsInner s (trim e) :=
      .argument (wrapper?_eq_some_iff.1 hwrap) hs (hargument ▸ hne)
    have hpart := ih (exceptMap_eq_error.1 h)
    rw [hargument] at hpart
    exact hpart.trans hinner.isPart
  case case6 s body hbody hend hopen hlast head argument hne hwrap hhead => cases h
  case case7 s body hbody hend hopen hlast head argument hne hwrap hhead =>
    obtain rfl := Except.error.inj h
    simpa using infix_trim s
  case case8 s body hbody hend hopen => simp [parseLeaf_error h]

/-- The reader accepts exactly the grammar, and no text has two readings. Any other text is refused
with an error that names the text or a part of it. The reader ends, since it goes from a notation
to inner texts that are shorter, and only puts a wrapper around what it finds there. -/
theorem readings_follow_grammar :
    (∀ s t, parse s = .ok t ↔ Denotes s.toList t) ∧
    (∀ s t u, Denotes s t → Denotes s u → t = u) ∧
    (∀ s, (∀ t, ¬ Denotes s.toList t) →
      ∃ error, parse s = .error error ∧ error.text.toList <:+: s.toList) ∧
    ∀ s e, IsInner s e → e.length < s.length ∧
      ∃ wrap ∈ [TypeRef.array, .list, .map, .envelope],
        parseChars s = (parseChars e).map wrap := by
  refine ⟨fun s t => parseChars_eq_ok_iff, fun s t u ht hu => ht.unique hu, ?_,
    fun s e h => h.spec⟩
  intro s hnone
  rw [parse]
  cases h : parseChars s.toList with
  | ok t => exact absurd (parseChars_eq_ok_iff.1 h) (hnone t)
  | error error => exact ⟨error, rfl, parseChars_error_infix h⟩

end TypeRef
end ApiContract
