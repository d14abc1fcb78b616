import ApiContract.Proofs.RoundedIntegers
import ApiContract.Proofs.Table
import ApiContract.Source.Decode
/-!
# Readings by value

What decoders can give when they read the tree of a JSON value. A decoder `Yields` values of some
sort if whatever it reads by value is of that sort. There is one lemma for each decoder; for a
record it asks that the blank record is of the sort and that setting a field keeps it.

* `Decoding.Ends` : what holds of the value of a reading that succeeds.
* `Tree.IsStored`, `Json.fitsWords` : the integers fit 64 bits and the doubles are finite.
* `Decoder.Yields` : what holds of the values that a decoder reads.
-/

namespace ApiContract

/-! ## Readings that succeed -/

namespace Decoding

variable {α β : Type} {x : Decoding α} {P : α → Prop} {Q : β → Prop}

/-- Whatever the reading gives has the property. -/
def Ends (x : Decoding α) (P : α → Prop) : Prop := ∀ n a n', x n = .ok (a, n') → P a

namespace Ends

theorem pure {a : α} (h : P a) : Ends (Pure.pure a) P := by
  rintro n _ n' ⟨⟩
  exact h

theorem fail : Ends (Decoding.fail : Decoding α) P := nofun

theorem throw {fault : DecodeFault} : Ends (MonadExcept.throw fault : Decoding α) P := nofun

theorem trivial : x.Ends fun _ => True := fun _ _ _ _ => True.intro

theorem bind {f : α → Decoding β} (h : x.Ends P) (hf : ∀ a, P a → (f a).Ends Q) :
    (x >>= f).Ends Q := by
  intro n b n' hx
  change (x n >>= fun p => f p.1 p.2) = .ok (b, n') at hx
  cases hn : x n with
  | error fault =>
    rw [hn] at hx
    exact nomatch hx
  | ok p =>
    rw [hn] at hx
    exact hf p.1 (h n p.1 p.2 hn) p.2 b n' hx

theorem map {f : α → β} (h : x.Ends P) (hf : ∀ a, P a → Q (f a)) : (f <$> x).Ends Q := by
  rw [map_eq_pure_bind]
  exact h.bind fun a ha => .pure (hf a ha)

theorem mapM {γ : Type} {f : γ → Decoding α} {items : List γ}
    (h : ∀ item ∈ items, (f item).Ends P) : (items.mapM f).Ends fun as => ∀ a ∈ as, P a := by
  induction items with
  | nil => exact .pure nofun
  | cons item rest ih =>
    rw [List.mapM_cons]
    refine (h item List.mem_cons_self).bind fun a ha => ?_
    refine (ih fun item hitem => h item (List.mem_cons_of_mem _ hitem)).bind fun as has => ?_
    exact .pure (List.forall_mem_cons.2 ⟨ha, has⟩)

end Ends

end Decoding

/-! ## Trees of values -/

/-- Whether a scalar is one that a value holds: integers have 64 bits, and doubles are finite. -/
def Atom.IsStored : Atom → Prop
  | .int n => n.natAbs < Nat.pow 2 64
  | .float x => x.isFinite = true
  | _ => True

/-- A tree of collections and of scalars that values hold. -/
inductive Tree.IsStored : Tree → Prop where
  | scalar {s : Scalar} (h : s.atom.IsStored) : IsStored (.scalar s)
  | seq {items : List Tree} (h : ∀ t ∈ items, t.IsStored) : IsStored (.seq items)
  | map {entries : List (Tree × Tree)} (h : ∀ e ∈ entries, e.2.IsStored) : IsStored (.map entries)

namespace Json

mutual

/-- Whether all integers are integers of 64 bits, signed or not. -/
def fitsWords : Json → Bool
  | .int n => decide (-(Nat.pow 2 63 : Int) ≤ n ∧ n < (Nat.pow 2 64 : Int))
  | .arr items => itemsFit items
  | .obj members => membersFit members
  | _ => true

/-- `fitsWords` for each value of a list. -/
def itemsFit : List Json → Bool
  | [] => true
  | item :: rest => fitsWords item && itemsFit rest

/-- `fitsWords` for each member. -/
def membersFit : List (String × Json) → Bool
  | [] => true
  | (_, value) :: rest => fitsWords value && membersFit rest

end

/-- A value as the source of a reading, as if its text had been read. -/
def source (v : Json) : Source := { tree := v.toTree, ended := true }

mutual

theorem isStored_toTree : (v : Json) → v.fitsWords = true → v.toTree.IsStored
  | .null, _ => .scalar True.intro
  | .bool _, _ => .scalar True.intro
  | .int n, h => .scalar (by
      have hn : -(Nat.pow 2 63 : Int) ≤ n ∧ n < (Nat.pow 2 64 : Int) := of_decide_eq_true h
      have hlimits : Nat.pow 2 63 < Nat.pow 2 64 := by decide
      show n.natAbs < Nat.pow 2 64
      omega)
  | .float x, _ => .scalar (by
      cases hx : x.isFinite with
      | true => exact hx
      | false => exact True.intro)
  | .str _, _ => .scalar True.intro
  | .arr items, h => .seq (isStored_toTrees items h)
  | .obj members, h => .map (isStored_toEntries members h)

theorem isStored_toTrees : (items : List Json) → itemsFit items = true →
    ∀ t ∈ toTrees items, t.IsStored
  | [], _ => nofun
  | item :: rest, h => by
    have hboth : item.fitsWords = true ∧ itemsFit rest = true := by simpa [itemsFit] using h
    exact List.forall_mem_cons.2 ⟨isStored_toTree item hboth.1, isStored_toTrees rest hboth.2⟩

theorem isStored_toEntries : (members : List (String × Json)) → membersFit members = true →
    ∀ e ∈ toEntries members, e.2.IsStored
  | [], _ => nofun
  | (_, value) :: rest, h => by
    have hboth : value.fitsWords = true ∧ membersFit rest = true := by
      simpa [membersFit] using h
    exact List.forall_mem_cons.2 ⟨isStored_toTree value hboth.1, isStored_toEntries rest hboth.2⟩

end

end Json

/-! ## What decoders yield -/

namespace Decoder

variable {α β : Type} {d : Decoder α} {P : α → Prop} {Q : β → Prop} {mode : Reading} {t : Tree}

/-- Whatever the decoder reads by value from a well-formed tree has the property. -/
def Yields (d : Decoder α) (P : α → Prop) : Prop :=
  ∀ (mode : Reading) (t : Tree), mode.isTextual = false → t.IsStored → (d mode t).Ends P

theorem resolve_of_isStored (hmode : mode.isTextual = false) (ht : t.IsStored) :
    mode.resolve t = pure t := by
  cases mode with
  | textual anchors levels => exact nomatch hmode
  | _ => cases ht <;> rfl

theorem collection_of_typed (hmode : mode.isTextual = false) (t : Tree) :
    mode.collection t = t := by
  rw [Reading.collection, hmode]
  rfl

theorem isBlank_of_typed (hmode : mode.isTextual = false) (t : Tree) :
    mode.isBlank t = false := by
  cases t <;> simp [Reading.isBlank, hmode]

theorem inner_of_typed (hmode : mode.isTextual = false) : mode.inner = pure mode := by
  cases mode with
  | textual anchors levels => exact nomatch hmode
  | _ => rfl

theorem settle_eq (hmode : mode.isTextual = false) :
    mode.settle t = if t.canSettle then pure t else .fail := by
  cases mode with
  | textual anchors levels => exact nomatch hmode
  | _ => rfl

theorem mem_of_mem_splitTag (tag : String) {entries : List (Tree × Tree)} :
    ∀ e ∈ (splitTag tag entries).2, e ∈ entries := by
  induction entries with
  | nil => exact nofun
  | cons e rest ih =>
    intro other hother
    rw [splitTag] at hother
    dsimp only at hother
    split at hother
    · exact List.mem_cons_of_mem _ (ih other hother)
    · rcases List.mem_cons.1 hother with rfl | hother
      · exact List.mem_cons_self
      · exact List.mem_cons_of_mem _ (ih other hother)

namespace Yields

theorem trivial (d : Decoder α) : d.Yields fun _ => True := fun _ _ _ _ => .trivial

theorem map {f : α → β} (h : d.Yields P) (hf : ∀ a, P a → Q (f a)) : (d.map f).Yields Q :=
  fun mode t hmode ht => (h mode t hmode ht).map hf

theorem skip {a : α} (h : P a) : (Decoder.skip a).Yields P := by
  intro mode t _ _
  unfold Decoder.skip
  split
  · exact .pure h
  · exact .fail

theorem unit {a : α} (h : P a) : (Decoder.unit a).Yields P := by
  intro mode t _ _
  unfold Decoder.unit
  split
  · exact .fail
  · exact .pure h

/-- Numbers that are read are finite. -/
theorem real : Decoder.real.Yields fun x => x.isFinite = true := by
  intro mode t hmode ht
  rw [Decoder.real, resolve_of_isStored hmode ht, pure_bind]
  split
  · exact nomatch hmode
  · cases ht with
    | scalar h => exact .pure (Binary64.isFinite_ofInt h)
  · cases ht with
    | scalar h => exact .pure h
  · exact .fail

theorem list (h : d.Yields P) : (Decoder.list d).Yields fun as => ∀ a ∈ as, P a := by
  intro mode t hmode ht
  rw [Decoder.list, resolve_of_isStored hmode ht, pure_bind, collection_of_typed hmode]
  split
  · rw [inner_of_typed hmode, pure_bind]
    cases ht with
    | seq hitems => exact .mapM fun item hitem => h mode item hmode (hitems item hitem)
  · rw [isBlank_of_typed hmode]
    exact .fail

theorem option (h : d.Yields P) : (Decoder.option d).Yields fun a => ∀ b, a = some b → P b := by
  have hsome : ∀ a, P a → ∀ b, some a = some b → P b := by
    rintro a ha _ ⟨⟩
    exact ha
  intro mode t hmode ht
  rw [Decoder.option, resolve_of_isStored hmode ht, pure_bind]
  split
  · exact nomatch hmode
  · exact nomatch hmode
  · exact .pure nofun
  · exact (h mode t hmode ht).map hsome

theorem entriesInto (h : d.Yields P) (hmode : mode.isTextual = false)
    {entries : List (Tree × Tree)} (hentries : ∀ e ∈ entries, e.2.IsStored) {a : Assoc String α}
    (hn : (Assoc.keys a).Nodup) (ha : ∀ p ∈ a, P p.2) :
    (Decoder.entriesInto Assoc.insert d mode a entries).Ends fun a =>
      (Assoc.keys a).Nodup ∧ ∀ p ∈ a, P p.2 := by
  induction entries generalizing a with
  | nil => exact .pure ⟨hn, ha⟩
  | cons e rest ih =>
    obtain ⟨hvalue, hrest⟩ := List.forall_mem_cons.1 hentries
    refine Decoding.Ends.trivial.bind fun key _ => (h mode e.2 hmode hvalue).bind fun v hv => ?_
    refine ih hrest (Assoc.nodup_keys_insert hn key v) fun p hp => ?_
    rcases Assoc.mem_of_mem_insert hp with rfl | hp
    · exact hv
    · exact ha p hp

/-- Tables that are read have no key twice. -/
theorem table (h : d.Yields P) :
    (Decoder.table d).Yields fun a => (Assoc.keys a).Nodup ∧ ∀ p ∈ a, P p.2 := by
  intro mode t hmode ht
  rw [Decoder.table, tableBy, resolve_of_isStored hmode ht, pure_bind, collection_of_typed hmode]
  split
  · rw [inner_of_typed hmode, pure_bind]
    cases ht with
    | map hentries => exact entriesInto h hmode hentries List.nodup_nil nofun
  · rw [isBlank_of_typed hmode]
    exact .fail

section

variable {slots : List (String × Presence)} {blank : α} {set : α → String → Decoder α}

theorem fieldsInto (hset : ∀ a name, P a → (set a name).Yields P) (hmode : mode.isTextual = false)
    {entries : List (Tree × Tree)} (hentries : ∀ e ∈ entries, e.2.IsStored) {a : α} (ha : P a)
    (named : List String) :
    (Decoder.fieldsInto slots set mode a named entries).Ends fun p => P p.1 := by
  induction entries generalizing a named with
  | nil => exact .pure ha
  | cons e rest ih =>
    obtain ⟨hvalue, hrest⟩ := List.forall_mem_cons.1 hentries
    rw [Decoder.fieldsInto]
    refine Decoding.Ends.trivial.bind fun field _ => ?_
    cases field with
    | none =>
      exact (Yields.skip ha mode e.2 hmode hvalue).bind fun a ha => ih hrest ha named
    | some name =>
      dsimp only
      split
      · exact .fail
      · exact (hset a name ha mode e.2 hmode hvalue).bind fun a ha => ih hrest ha _

theorem itemsInto (hset : ∀ a name, P a → (set a name).Yields P) (hmode : mode.isTextual = false)
    {items : List Tree} (hitems : ∀ t ∈ items, t.IsStored) {a : α} (ha : P a) :
    (Decoder.itemsInto set mode a slots items).Ends P := by
  induction items generalizing a slots with
  | nil =>
    rw [Decoder.itemsInto]
    split
    · exact .pure ha
    · exact .fail
  | cons t rest ih =>
    obtain ⟨hvalue, hrest⟩ := List.forall_mem_cons.1 hitems
    cases slots with
    | nil =>
      cases mode with
      | lenient => exact .pure ha
      | _ => exact .fail
    | cons slot slots =>
      rw [Decoder.itemsInto]
      exact (hset a slot.1 ha mode t hmode hvalue).bind fun a ha => ih hrest ha

/-- What holds of the blank record and is kept by every field holds of the records that are read. -/
theorem record (hblank : P blank) (hset : ∀ a name, P a → (set a name).Yields P) :
    (Decoder.record slots blank set).Yields P := by
  intro mode t hmode ht
  rw [Decoder.record, resolve_of_isStored hmode ht, pure_bind, collection_of_typed hmode]
  split
  · rw [inner_of_typed hmode, pure_bind]
    cases ht with
    | map hentries =>
      refine (fieldsInto hset hmode hentries hblank []).bind fun p hp => ?_
      dsimp only
      split
      · exact .pure hp
      · exact .fail
  · exact nomatch hmode
  · cases ht with
    | seq hitems => exact itemsInto hset hmode hitems hblank
  · exact .fail

end

theorem settle_of_typed (hmode : mode.isTextual = false) (ht : t.IsStored) :
    (mode.settle t).Ends Tree.IsStored := by
  rw [settle_eq hmode]
  split
  · exact .pure ht
  · exact .fail

theorem tagParts (tag : String) (hmode : mode.isTextual = false) (ht : t.IsStored) :
    (Decoder.tagParts tag mode t).Ends fun parts => parts.2.IsStored := by
  unfold Decoder.tagParts
  split
  · cases ht with
    | map hentries =>
      refine (Decoding.Ends.mapM (P := fun e => e.2.IsStored) fun e he => ?_).bind
        fun settled hstored => ?_
      · refine Decoding.Ends.trivial.bind fun k _ => ?_
        split
        · exact .pure (hentries e he)
        · exact (settle_of_typed hmode (hentries e he)).bind fun v hv => .pure hv
      · have hothers := fun e he => hstored e (mem_of_mem_splitTag tag e he)
        split
        · next others heq =>
          rw [heq] at hothers
          exact .pure (.map hothers)
        · exact .fail
  · cases ht with
    | seq hitems =>
      refine (Decoding.Ends.mapM fun t ht => ?_).bind fun items hstored => .pure (.seq hstored)
      exact settle_of_typed hmode (hitems t (List.mem_cons_of_mem _ ht))
  · exact .fail

/-- Whatever holds of each variant holds of the values that are read. -/
theorem tagged {tag : String} {variant : String → Option (Decoder α)}
    (h : ∀ word d, variant word = some d → d.Yields P) : (Decoder.tagged tag variant).Yields P := by
  intro mode t hmode ht
  rw [Decoder.tagged, resolve_of_isStored hmode ht, pure_bind, inner_of_typed hmode, pure_bind]
  refine (tagParts tag hmode ht).bind fun parts hparts => ?_
  refine Decoding.Ends.trivial.bind fun word _ => ?_
  split
  · next d hd => exact h word d hd .buffered parts.2 rfl hparts
  · exact .fail

end Yields

end Decoder
end ApiContract
