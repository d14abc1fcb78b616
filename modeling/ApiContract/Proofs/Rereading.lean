import ApiContract.Proofs.Decoding
/-!
# Reading what was written

A decoder `Reads` a JSON value as another value if that is what it gives, in whatever way of reading
by value. There is one lemma for each decoder and the way its values are written. A record is read
back if its members, in the order of its fields, `Fill` it one after the other; members that are
left out leave the blank record as it is.

* `Decoder.Reads` : what a decoder gives for a JSON value.
* `Decoder.mapM_eq_pure`, `Decoder.entriesInto_eq_pure` : items and entries read one by one.
* `Decoder.Fills`, `Decoder.Fills.read` : members that fill the fields of a record, by value or in
  another form in which they are read.
* `Decoder.Reads.record`, `Decoder.Reads.tagged` : records, and records told apart by a word.
-/

namespace ApiContract

namespace Json

/-- The members of a record that are there, under their keys. -/
def given (members : List Member) : List (String × Json) :=
  members.filterMap fun m => m.value.map (m.key, ·)

/-- Whether a value is not written as null. -/
def isPresent : Json → Bool
  | .null => false
  | .float x => x.isFinite
  | _ => true

theorem toTrees_eq_map (items : List Json) : toTrees items = items.map toTree := by
  induction items with
  | nil => rfl
  | cons item rest ih => rw [toTrees, ih, List.map_cons]

theorem toEntries_eq_map (members : List (String × Json)) :
    toEntries members = members.map fun m => (.ofText m.1, m.2.toTree) := by
  induction members with
  | nil => rfl
  | cons member rest ih => rw [toEntries, ih, List.map_cons]

mutual

theorem canSettle_toTree : (v : Json) → v.toTree.canSettle = true
  | .null => rfl
  | .bool _ => rfl
  | .int _ => rfl
  | .float x => by
    cases hx : x.isFinite <;> simp [toTree, hx, Tree.ofAtom, Tree.canSettle]
  | .str _ => rfl
  | .arr items => canSettle_toTrees items
  | .obj members => canSettle_toEntries members

theorem canSettle_toTrees : (items : List Json) → Tree.canSettleAll (toTrees items) = true
  | [] => rfl
  | item :: rest => by
    rw [toTrees, Tree.canSettleAll, canSettle_toTree item, canSettle_toTrees rest]
    rfl

theorem canSettle_toEntries : (members : List (String × Json)) →
    Tree.canSettleEntries (toEntries members) = true
  | [] => rfl
  | (key, value) :: rest => by
    rw [toEntries, Tree.canSettleEntries, canSettle_toTree value, canSettle_toEntries rest]
    rfl

end

theorem resolve_toTree {mode : Reading} (hmode : mode.isTextual = false) (v : Json) :
    mode.resolve v.toTree = pure v.toTree := by
  cases mode with
  | textual anchors levels => exact nomatch hmode
  | _ => cases v <;> rfl

end Json

namespace Decoder

variable {α β : Type} {d : Decoder α}

/-! ## Parts one by one -/

/-- Trees that give their values one by one give the list of the values. -/
theorem mapM_eq_pure {γ : Type} {f : γ → Decoding α} {items : List γ} {values : List α}
    (h : List.Forall₂ (fun a item => f item = pure a) values items) :
    items.mapM f = pure values := by
  induction h with
  | nil => rfl
  | cons ha _ ih => rw [List.mapM_cons, ha, pure_bind, ih, pure_bind]

/-- Entries that give their keys and values one by one are inserted in turn. -/
theorem entriesInto_eq_pure (insert : β → String → α → β) {mode : Reading}
    {entries : List (Tree × Tree)} {pairs : List (String × α)}
    (h : List.Forall₂ (fun p e => text mode e.1 = pure p.1 ∧ d mode e.2 = pure p.2) pairs entries)
    (table : β) :
    entriesInto insert d mode table entries =
      pure (pairs.foldl (fun table p => insert table p.1 p.2) table) := by
  induction h generalizing table with
  | nil => rfl
  | cons hp _ ih => rw [entriesInto, hp.1, pure_bind, hp.2, pure_bind, ih, List.foldl_cons]

/-! ## What decoders read -/

/-- The decoder reads a JSON value as another value, whatever the way of reading by value. -/
def Reads (d : Decoder α) (v : Json) (a : α) : Prop :=
  ∀ mode : Reading, mode.isTextual = false → d mode v.toTree = pure a

namespace Reads

/-- There are three ways of reading by value. -/
theorem of_modes {v : Json} {a : α} (htyped : d .typed v.toTree = pure a)
    (hlenient : d .lenient v.toTree = pure a) (hbuffered : d .buffered v.toTree = pure a) :
    d.Reads v a := by
  intro mode hmode
  cases mode with
  | typed => exact htyped
  | lenient => exact hlenient
  | buffered => exact hbuffered
  | textual anchors levels => exact nomatch hmode

theorem map {f : α → β} {v : Json} {a : α} (h : d.Reads v a) : (d.map f).Reads v (f a) := by
  intro mode hmode
  rw [Decoder.map, h mode hmode, map_pure]

theorem text (s : String) : Decoder.text.Reads (.str s) s := of_modes rfl rfl rfl

theorem flag (b : Bool) : Decoder.flag.Reads (.bool b) b := of_modes rfl rfl rfl

theorem natBelow {limit n : Nat} (h : n < limit) : (Decoder.natBelow limit).Reads (.int n) n := by
  have hrange : (0 : Int) ≤ n ∧ (n : Int) < limit := by omega
  have hread : (if (0 : Int) ≤ n ∧ (n : Int) < limit then pure (n : Int).toNat else .fail) =
      (pure n : Decoding Nat) := by rw [if_pos hrange, Int.toNat_natCast]
  exact of_modes hread hread hread

theorem word64 (n : UInt64) : Decoder.word64.Reads (.int n.toNat) n := by
  have hread := (natBelow n.toNat_lt_size).map (f := UInt64.ofNat)
  rwa [UInt64.ofNat_toNat] at hread

theorem word16 (n : UInt16) : Decoder.word16.Reads (.int n.toNat) n := by
  have hread := (natBelow n.toNat_lt_size).map (f := UInt16.ofNat)
  rwa [UInt16.ofNat_toNat] at hread

theorem real {x : Binary64} (h : x.isFinite = true) : Decoder.real.Reads (.float x) x := by
  have hread : ∀ mode : Reading, mode.isTextual = false →
      Decoder.real mode (.ofAtom (.float x)) = pure x := by
    intro mode hmode
    cases mode with
    | textual anchors levels => exact nomatch hmode
    | _ => rfl
  intro mode hmode
  rw [Json.toTree, h]
  exact hread mode hmode

theorem word {values : List α} {names : α → List String} {name : String} {a : α}
    (h : values.find? (fun a => (names a).contains name) = some a) :
    (Decoder.word values names).Reads (.str name) a := by
  apply of_modes <;>
    simp only [Decoder.word, Json.toTree, Tree.ofText, Reading.resolve, pure_bind, h]

theorem unit (a : α) (members : List Json.Member) :
    (Decoder.unit a).Reads (.record members) a := fun _ _ => rfl

theorem mapM_toTrees {f : α → Json} {items : List α} (h : ∀ a ∈ items, d.Reads (f a) a)
    {mode : Reading} (hmode : mode.isTextual = false) :
    (Json.toTrees (items.map f)).mapM (d mode) = pure items := by
  refine mapM_eq_pure ?_
  rw [Json.toTrees_eq_map, List.forall₂_map_right_iff, List.forall₂_map_right_iff]
  exact List.forall₂_same.2 fun a ha => h a ha mode hmode

theorem list {f : α → Json} {items : List α} (h : ∀ a ∈ items, d.Reads (f a) a) :
    (Decoder.list d).Reads (.list f items) items :=
  of_modes (mapM_toTrees h rfl) (mapM_toTrees h rfl) (mapM_toTrees h rfl)

theorem option_none : (Decoder.option d).Reads .null none := of_modes rfl rfl rfl

/-- A value that is not written as null is read as itself. -/
theorem option_some {v : Json} {a : α} (h : d.Reads v a) (hv : v.isPresent = true) :
    (Decoder.option d).Reads v (some a) := by
  have hoption : ∀ mode : Reading, mode.isTextual = false →
      Decoder.option d mode v.toTree = some <$> d mode v.toTree := by
    intro mode hmode
    cases mode with
    | textual anchors levels => exact nomatch hmode
    | _ =>
      cases v with
      | null => exact nomatch hv
      | float x =>
        rw [Json.toTree, show x.isFinite = true from hv]
        rfl
      | _ => rfl
  intro mode hmode
  rw [hoption mode hmode, h mode hmode, map_pure]

theorem nullable {f : α → Json} {a : Option α} (h : ∀ b, a = some b → d.Reads (f b) b)
    (hf : ∀ b, (f b).isPresent = true) : (Decoder.option d).Reads (.nullable f a) a := by
  cases a with
  | none => exact option_none
  | some b => exact option_some (h b rfl) (hf b)

theorem nullableText (a : Option String) :
    (Decoder.option .text).Reads (.nullable .str a) a :=
  nullable (fun b _ => text b) fun _ => rfl

theorem texts (items : List String) : (Decoder.list .text).Reads (.texts items) items :=
  list fun s _ => text s

theorem entriesInto_toEntries {β : Type} (insert : β → String → α → β) {f : α → Json}
    {entries : Assoc String α} (h : ∀ p ∈ entries, d.Reads (f p.2) p.2) (read : β)
    {mode : Reading} (hmode : mode.isTextual = false) :
    entriesInto insert d mode read (Json.toEntries (entries.map fun p => (p.1, f p.2))) =
      pure (entries.foldl (fun read p => insert read p.1 p.2) read) := by
  refine entriesInto_eq_pure insert ?_ read
  rw [Json.toEntries_eq_map, List.forall₂_map_right_iff, List.forall₂_map_right_iff]
  exact List.forall₂_same.2 fun p hp => ⟨text p.1 mode hmode, h p hp mode hmode⟩

theorem table {f : α → Json} {entries : Assoc String α} (hn : (Assoc.keys entries).Nodup)
    (h : ∀ p ∈ entries, d.Reads (f p.2) p.2) :
    (Decoder.table d).Reads (.table f entries) entries := by
  have hread : ∀ mode : Reading, mode.isTextual = false →
      entriesInto Assoc.insert d mode []
        (Json.toEntries (entries.map fun p => (p.1, f p.2))) = pure entries := by
    intro mode hmode
    rw [entriesInto_toEntries Assoc.insert h [] hmode]
    exact congrArg pure (Assoc.ofPairs_eq_self hn)
  exact of_modes (hread .typed rfl) (hread .lenient rfl) (hread .buffered rfl)

end Reads

/-! ## Records -/

/-- Members that are, in the order of the slots, read into a record one after the other; `R` is what
it means that a decoder reads a value. Only a member that is not required may be absent. -/
inductive Fills (R : Decoder α → Json → α → Prop) (set : α → String → Decoder α) :
    List (String × Presence) → List Json.Member → α → α → Prop where
  | nil (a : α) : Fills R set [] [] a a
  | present {key : String} {presence : Presence} {slots : List (String × Presence)} {v : Json}
      {members : List Json.Member} {a a' b : α} (h : R (set a key) v a')
      (hrest : Fills R set slots members a' b) :
      Fills R set ((key, presence) :: slots) (⟨key, some v⟩ :: members) a b
  | absent {key : String} {presence : Presence} {slots : List (String × Presence)}
      {members : List Json.Member} {a b : α} (h : presence ≠ .required)
      (hrest : Fills R set slots members a b) :
      Fills R set ((key, presence) :: slots) (⟨key, none⟩ :: members) a b

section

variable {R : Decoder α → Json → α → Prop} {set : α → String → Decoder α}
  {slots : List (String × Presence)} {members : List Json.Member} {key : String}
  {presence : Presence} {a a' b : α}

theorem Fills.mono {R' : Decoder α → Json → α → Prop} (h : Fills R set slots members a b)
    (hR : ∀ d v a, R d v a → R' d v a) : Fills R' set slots members a b := by
  induction h with
  | nil a => exact .nil a
  | present hread _ ih => exact .present (hR _ _ _ hread) ih
  | absent hpresence _ ih => exact .absent hpresence ih

theorem Fills.nonEmpty {γ : Type} {f : List γ → Json} {xs : List γ}
    (h : R (set a key) (f xs) a') (hempty : xs = [] → presence ≠ .required ∧ a' = a)
    (hrest : Fills R set slots members a' b) :
    Fills R set ((key, presence) :: slots) (.nonEmpty key f xs :: members) a b := by
  cases xs with
  | nil =>
    obtain ⟨hpresence, rfl⟩ := hempty rfl
    exact .absent hpresence hrest
  | cons x xs => exact .present h hrest

theorem Fills.optional {γ : Type} {f : γ → Json} {value : Option γ}
    (h : ∀ v, value = some v → R (set a key) (f v) a')
    (hnone : value = none → presence ≠ .required ∧ a' = a)
    (hrest : Fills R set slots members a' b) :
    Fills R set ((key, presence) :: slots) (.optional key f value :: members) a b := by
  cases value with
  | none =>
    obtain ⟨hpresence, rfl⟩ := hnone rfl
    exact .absent hpresence hrest
  | some v => exact .present (h v rfl) hrest

/-- An entry stands for a member: it names the field that the member has as key, and gives what is
read of the value of the member. -/
structure Presents (R : Decoder α → Json → α → Prop) (mode : Reading) (member : String × Json)
    (entry : Tree × Tree) : Prop where
  key : ∀ slots : List (String × Presence), slots.any (fun slot => slot.1 == member.1) = true →
    fieldName slots mode entry.1 = pure (some member.1)
  value : ∀ (d : Decoder α) (a : α), R d member.2 a → d mode entry.2 = pure a

/-- The members that are there are read field by field, and what is required is named. -/
theorem Fills.fieldsInto {all : List (String × Presence)} {mode : Reading}
    (h : Fills R set slots members a b) {entries : List (Tree × Tree)}
    (hentries : List.Forall₂ (Presents R mode) (Json.given members) entries)
    (hslots : ∀ slot ∈ slots, slot ∈ all) (hn : (slots.map Prod.fst).Nodup) (named : List String)
    (hnamed : ∀ slot ∈ slots, slot.1 ∉ named) :
    ∃ read, Decoder.fieldsInto all set mode a named entries = pure (b, read) ∧
      (∀ name ∈ named, name ∈ read) ∧
      ∀ slot ∈ slots, slot.2 = .required → slot.1 ∈ read := by
  induction h generalizing named entries with
  | nil a =>
    cases hentries
    exact ⟨named, rfl, fun _ => id, nofun⟩
  | @present key presence slots v members a a' b hread _ ih =>
    obtain ⟨hslot, hslots⟩ := List.forall_mem_cons.1 hslots
    obtain ⟨hkey, hnamed⟩ := List.forall_mem_cons.1 hnamed
    rw [List.map_cons, List.nodup_cons] at hn
    obtain ⟨entry, others, hentry, hothers, rfl⟩ := List.forall₂_cons_left_iff.1 hentries
    have hknown : all.any (fun slot => slot.1 == key) = true :=
      List.any_eq_true.2 ⟨_, hslot, beq_self_eq_true key⟩
    have hrest : ∀ slot ∈ slots, slot.1 ∉ key :: named := by
      intro slot hmem hin
      rcases List.mem_cons.1 hin with heq | hin
      · exact hn.1 (List.mem_map.2 ⟨slot, hmem, heq⟩)
      · exact hnamed slot hmem hin
    obtain ⟨read, hfields, hkept, hrequired⟩ := ih hothers hslots hn.2 _ hrest
    refine ⟨read, ?_, fun name hname => hkept name (List.mem_cons_of_mem _ hname), ?_⟩
    · rw [Decoder.fieldsInto, hentry.key all hknown, pure_bind]
      dsimp only
      rw [if_neg hkey, hentry.value _ _ hread, pure_bind, hfields]
    · refine List.forall_mem_cons.2 ⟨fun _ => ?_, hrequired⟩
      exact hkept key List.mem_cons_self
  | @absent key presence slots members a b hpresence _ ih =>
    obtain ⟨-, hslots⟩ := List.forall_mem_cons.1 hslots
    obtain ⟨-, hnamed⟩ := List.forall_mem_cons.1 hnamed
    rw [List.map_cons, List.nodup_cons] at hn
    obtain ⟨read, hfields, hkept, hrequired⟩ := ih hentries hslots hn.2 named hnamed
    exact ⟨read, hfields, hkept,
      List.forall_mem_cons.2 ⟨fun hreq => absurd hreq hpresence, hrequired⟩⟩

/-- A record is read from the entries of the members that fill its fields. -/
theorem Fills.read (h : Fills R set slots members a b) (hn : (slots.map Prod.fst).Nodup)
    {mode : Reading} {entries : List (Tree × Tree)}
    (hentries : List.Forall₂ (Presents R mode) (Json.given members) entries) :
    (do
      let p ← Decoder.fieldsInto slots set mode a [] entries
      if slots.all (fun slot : String × Presence =>
        slot.2 != Presence.required || p.2.contains slot.1) then return p.1
      else .fail) = (pure b : Decoding α) := by
  obtain ⟨read, hfields, -, hrequired⟩ :=
    h.fieldsInto hentries (fun _ => id) hn [] fun _ _ => List.not_mem_nil
  rw [hfields, pure_bind]
  refine if_pos (List.all_eq_true.2 fun slot hslot => ?_)
  by_cases hreq : slot.2 = .required
  · simpa [hreq] using hrequired slot hslot hreq
  · simp [hreq]

theorem presents_toEntries {mode : Reading} (hmode : mode.isTextual = false)
    (given : List (String × Json)) :
    List.Forall₂ (Presents (Reads (α := α)) mode) given (Json.toEntries given) := by
  rw [Json.toEntries_eq_map, List.forall₂_map_right_iff]
  refine List.forall₂_same.2 fun m _ => ⟨fun slots hknown => ?_, fun d a h => h mode hmode⟩
  have hfield : (if slots.any (fun slot => slot.1 == m.1) then some m.1 else none) = some m.1 :=
    if_pos hknown
  rw [← hfield]
  cases mode with
  | textual anchors levels => exact nomatch hmode
  | _ => rfl

/-- A record is read from the members that fill its fields. -/
theorem Reads.record (hn : (slots.map Prod.fst).Nodup) (h : Fills Reads set slots members a b) :
    (Decoder.record slots a set).Reads (.record members) b := by
  have hread := fun (mode : Reading) (hmode : mode.isTextual = false) =>
    h.read hn (presents_toEntries hmode _)
  exact of_modes (hread .typed rfl) (hread .lenient rfl) (hread .buffered rfl)

/-- Settling the entries of a JSON value changes nothing. -/
theorem settle_toEntries {mode : Reading} (hmode : mode.isTextual = false) (tag : String)
    (entries : List (String × Json)) :
    ((Json.toEntries entries).mapM fun (k, v) => do
      let k ← mode.settle k
      if splitTag.isTag tag k then return (k, v)
      let v ← mode.settle v
      return (k, v)) = pure (Json.toEntries entries) := by
  have hsettle : ∀ v : Json, mode.settle v.toTree = pure v.toTree := by
    intro v
    rw [settle_eq hmode, Json.canSettle_toTree]
    rfl
  have hkey : ∀ key : String, mode.settle (.ofText key) = pure (.ofText key) := fun key =>
    hsettle (.str key)
  induction entries with
  | nil => rfl
  | cons entry rest ih =>
    rw [Json.toEntries, List.mapM_cons, ih]
    simp only [hkey, hsettle, pure_bind]
    split <;> simp only [pure_bind]

theorem splitTag_toEntries {tag : String} {entries : List (String × Json)}
    (h : ∀ entry ∈ entries, entry.1 ≠ tag) :
    splitTag tag (Json.toEntries entries) = ([], Json.toEntries entries) := by
  induction entries with
  | nil => rfl
  | cons entry rest ih =>
    obtain ⟨hkey, hrest⟩ := List.forall_mem_cons.1 h
    have hother : splitTag.isTag tag (.ofText entry.1) = false := beq_eq_false_iff_ne.2 hkey
    rw [Json.toEntries, splitTag, ih hrest]
    simp [hother]

theorem tagParts_toEntries {mode : Reading} (hmode : mode.isTextual = false) {tag : String}
    (word : Json) {entries : List (String × Json)} (h : ∀ entry ∈ entries, entry.1 ≠ tag) :
    tagParts tag mode (.map (Json.toEntries ((tag, word) :: entries))) =
      pure (word.toTree, .map (Json.toEntries entries)) := by
  have htag : splitTag.isTag tag (.ofText tag) = true := beq_self_eq_true tag
  have hsplit : splitTag tag (Json.toEntries ((tag, word) :: entries)) =
      ([word.toTree], Json.toEntries entries) := by
    rw [Json.toEntries, splitTag, splitTag_toEntries h]
    simp [htag]
  rw [tagParts, settle_toEntries hmode, pure_bind, hsplit]

/-- The word of a variant is read from the first member, the variant from the others. -/
theorem Reads.tagged {tag name : String} {variant : String → Option (Decoder α)}
    (hvariant : variant name = some d) (hkeys : ∀ m ∈ members, m.key ≠ tag)
    (h : d.Reads (.record members) a) :
    (Decoder.tagged tag variant).Reads (.record (.always tag (.str name) :: members)) a := by
  have hentries : ∀ entry ∈ Json.given members, entry.1 ≠ tag := by
    intro entry hentry
    obtain ⟨m, hm, hvalue⟩ := List.mem_filterMap.1 hentry
    obtain ⟨v, -, rfl⟩ := Option.map_eq_some_iff.1 hvalue
    exact hkeys m hm
  intro mode hmode
  rw [Decoder.tagged, Json.resolve_toTree hmode, pure_bind, inner_of_typed hmode, pure_bind,
    show (Json.record (.always tag (.str name) :: members)).toTree =
      .map (Json.toEntries ((tag, .str name) :: Json.given members)) from rfl,
    tagParts_toEntries hmode (.str name) hentries, pure_bind]
  dsimp only
  rw [text name mode hmode, pure_bind, hvariant]
  exact h .buffered rfl

end

end Decoder
end ApiContract
