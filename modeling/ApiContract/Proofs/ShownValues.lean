import ApiContract.Proofs.Rereading
/-!
# Values in texts

A text that is read by value is a value as it stands. In a text whose scalars are read by their
words a value can be shown in several ways: a text with quotes or without, nothing as a word or as
nothing at all. `Json.isShownBy` says that a tree shows a value, without tags and anchors, and not
nested too deeply. A decoder `Recovers` a value if it reads it by value and from every tree that
shows it; the lemmas are those on reading by value, each with its other half.

* `Scalar.means`, `Json.isShownBy`, `Source.Shows` : what a scalar, a tree and a text show.
* `Decoder.Recovers` : a decoder gives a value, whatever the way of reading.
* `Recovers.list`, `Recovers.some`, `Recovers.table`, `Recovers.sortedTable`, `Recovers.record` :
  compounds.
* `Recovers.json` : values of any sort.
-/

namespace ApiContract

/-! ## Trees that show values -/

/-- The value of a scalar that shows a value, unless that is made of others. -/
def Json.atom? : Json → Option Atom
  | .null => some .null
  | .bool b => some (.bool b)
  | .int n => some (.int n)
  | .float x => some (.float x)
  | .str w => some (.text w)
  | .arr _ => none
  | .obj _ => none

/-- Whether a scalar without a tag has a value, by its text as well as by itself. -/
def Scalar.means (s : Scalar) (v : Json) : Bool :=
  s.tag == none && v.atom? == some s.atom && match v with
    | .null => s.isNothing
    | .str w => !s.isNothing && s.text == w
    | v => !s.isNothing && s.form == .plain && match v with
      | .bool b => boolOfText? s.text == some b
      | .int n => n < 0 || natOfSigned? s.text.toList == some n.toNat
      | .float x => realOfText? s.text.toList == some x
      | _ => false

namespace Scalar

variable {s : Scalar} {v : Json}

theorem tag_of_means (h : s.means v = true) : s.tag = none ∧ v.atom? = some s.atom := by
  unfold means at h
  simp only [Bool.and_eq_true, beq_iff_eq] at h
  exact h.1

theorem isNothing_of_means (h : s.means v = true) (hv : v.isPresent = true) :
    s.isNothing = false := by
  cases v <;> simp_all [means, Json.isPresent]

end Scalar

namespace Tree

/-- Whether a tree is a scalar that means a value. -/
def means (v : Json) : Tree → Bool
  | .scalar s => s.means v
  | _ => false

/-- Whether a tree is a scalar with a text, whatever its value. -/
def isWord (word : String) : Tree → Bool
  | .scalar s => s.text == word
  | _ => false

end Tree

namespace Json

mutual

/-- Whether a tree shows the value, with so many levels of nesting left. -/
def isShownBy : Json → Nat → Tree → Bool
  | .arr items, levels, t =>
    match levels, t with
    | levels + 1, .seq ts => areShownBy items levels ts
    | _, _ => false
  | .obj members, levels, t =>
    match levels, t with
    | levels + 1, .map entries => membersShownBy members levels entries
    | _, _ => false
  | .null, _, t => t.means .null
  | .bool b, _, t => t.means (.bool b)
  | .int n, _, t => t.means (.int n)
  | .float x, _, t => t.means (.float x)
  | .str w, _, t => t.means (.str w)

/-- Whether trees show some values, one each. -/
def areShownBy : List Json → Nat → List Tree → Bool
  | [], _, [] => true
  | v :: values, levels, t :: ts => isShownBy v levels t && areShownBy values levels ts
  | _, _, _ => false

/-- Whether entries show some members, one each. -/
def membersShownBy : List (String × Json) → Nat → List (Tree × Tree) → Bool
  | [], _, [] => true
  | (key, v) :: members, levels, (k, t) :: entries =>
    k.isWord key && isShownBy v levels t && membersShownBy members levels entries
  | _, _, _ => false

end

variable {v : Json} {levels : Nat} {t : Tree}

theorem forall₂_of_areShownBy {items : List Json} {ts : List Tree}
    (h : areShownBy items levels ts = true) :
    List.Forall₂ (fun v t => v.isShownBy levels t = true) items ts := by
  induction items generalizing ts with
  | nil =>
    cases ts with
    | nil => exact .nil
    | cons t ts => exact nomatch h
  | cons v items ih =>
    cases ts with
    | nil => exact nomatch h
    | cons t ts =>
      rw [areShownBy, Bool.and_eq_true] at h
      exact .cons h.1 (ih h.2)

theorem forall₂_of_membersShownBy {members : List (String × Json)} {entries : List (Tree × Tree)}
    (h : membersShownBy members levels entries = true) :
    List.Forall₂ (fun m e => e.1.isWord m.1 = true ∧ m.2.isShownBy levels e.2 = true)
      members entries := by
  induction members generalizing entries with
  | nil =>
    cases entries with
    | nil => exact .nil
    | cons e entries => exact nomatch h
  | cons m members ih =>
    cases entries with
    | nil => exact nomatch h
    | cons e entries =>
      rw [membersShownBy, Bool.and_eq_true, Bool.and_eq_true] at h
      exact .cons h.1 (ih h.2)

/-- A list is shown by a list of trees, each of which shows an item. -/
theorem isShownBy_arr {items : List Json} (h : (Json.arr items).isShownBy levels t = true) :
    ∃ inside ts, levels = inside + 1 ∧ t = .seq ts ∧
      List.Forall₂ (fun v t => v.isShownBy inside t = true) items ts := by
  cases levels with
  | zero => exact nomatch h
  | succ inside =>
    cases t with
    | seq => exact ⟨_, _, rfl, rfl, forall₂_of_areShownBy h⟩
    | _ => exact nomatch h

/-- An object is shown by a table, each entry of which shows a member. -/
theorem isShownBy_obj {members : List (String × Json)}
    (h : (Json.obj members).isShownBy levels t = true) :
    ∃ inside entries, levels = inside + 1 ∧ t = .map entries ∧
      List.Forall₂ (fun m e => e.1.isWord m.1 = true ∧ m.2.isShownBy inside e.2 = true)
        members entries := by
  cases levels with
  | zero => exact nomatch h
  | succ inside =>
    cases t with
    | map => exact ⟨_, _, rfl, rfl, forall₂_of_membersShownBy h⟩
    | _ => exact nomatch h

/-- A value that is not made of others is shown by a scalar. -/
theorem isShownBy_scalar (h : t.means v = true) : ∃ s, t = .scalar s ∧ s.means v = true := by
  cases t with
  | scalar s => exact ⟨s, rfl, h⟩
  | _ => exact nomatch h

/-- What shows a value is a scalar that means it, or a collection. -/
theorem isShownBy_cases (h : v.isShownBy levels t = true) :
    (∃ s, t = .scalar s ∧ s.means v = true) ∨ (∃ ts, t = .seq ts) ∨
      ∃ entries, t = .map entries := by
  cases v with
  | arr items =>
    obtain ⟨-, ts, -, rfl, -⟩ := isShownBy_arr h
    exact Or.inr (Or.inl ⟨ts, rfl⟩)
  | obj members =>
    obtain ⟨-, entries, -, rfl, -⟩ := isShownBy_obj h
    exact Or.inr (Or.inr ⟨entries, rfl⟩)
  | _ => exact Or.inl (isShownBy_scalar h)

theorem resolve_of_isShownBy (h : v.isShownBy levels t = true) (anchors : Anchors) (left : Nat) :
    Reading.resolve (.textual anchors left) t = pure t := by
  obtain ⟨s, rfl, -⟩ | ⟨ts, rfl⟩ | ⟨entries, rfl⟩ := isShownBy_cases h <;> rfl

mutual

/-- A value that is shown is not nested more deeply than the levels allow. -/
theorem height_le_of_isShownBy : (v : Json) → {levels : Nat} → {t : Tree} →
    v.isShownBy levels t = true → v.toTree.height ≤ levels + 1
  | .null, _, _, _ | .bool _, _, _, _ | .int _, _, _, _ | .float _, _, _, _ | .str _, _, _, _ => by
    simp [toTree, Tree.ofAtom, Tree.ofText, Tree.height]
  | .arr items, _, _, h => by
    obtain ⟨inside, ts, rfl, rfl, hitems⟩ := isShownBy_arr h
    exact Nat.succ_le_succ (heights_le_of_areShown items hitems)
  | .obj members, _, _, h => by
    obtain ⟨inside, entries, rfl, rfl, hmembers⟩ := isShownBy_obj h
    exact Nat.succ_le_succ (entryHeights_le_of_areShown members hmembers)

theorem heights_le_of_areShown : (items : List Json) → {levels : Nat} → {ts : List Tree} →
    List.Forall₂ (fun v t => v.isShownBy levels t = true) items ts →
      Tree.heights (toTrees items) ≤ levels + 1
  | [], _, _, _ => Nat.zero_le _
  | v :: items, _, _, .cons hv hitems =>
    Nat.max_le.2 ⟨height_le_of_isShownBy v hv, heights_le_of_areShown items hitems⟩

theorem entryHeights_le_of_areShown : (members : List (String × Json)) → {levels : Nat} →
    {entries : List (Tree × Tree)} →
    List.Forall₂ (fun m e => e.1.isWord m.1 = true ∧ m.2.isShownBy levels e.2 = true)
      members entries → Tree.entryHeights (toEntries members) ≤ levels + 1
  | [], _, _, _ => Nat.zero_le _
  | (_, v) :: members, _, _, .cons hm hmembers =>
    Nat.max_le.2 ⟨height_le_of_isShownBy v hm.2, entryHeights_le_of_areShown members hmembers⟩

end

end Json

/-- A tree shows a value in a way of reading: by value, it is that value. -/
def Reading.Shows (mode : Reading) (t : Tree) (v : Json) : Prop :=
  match mode with
  | .textual _ levels => v.isShownBy levels t = true
  | _ => t = v.toTree

/-- A text ends behind a tree that shows a value. -/
structure Source.Shows (s : Source) (v : Json) : Prop where
  ended : s.ended = true
  tree : s.reading.Shows s.tree v

/-- Whether a text that is read by its words shows a value. -/
def Source.showsByText (s : Source) (v : Json) : Bool :=
  match s.reading with
  | .textual _ levels => s.ended && v.isShownBy levels s.tree
  | _ => false

theorem Source.shows_of_showsByText {s : Source} {v : Json} (h : s.showsByText v = true) :
    s.Shows v := by
  unfold Source.showsByText at h
  split at h
  · next anchors levels hreading =>
    rw [Bool.and_eq_true] at h
    exact ⟨h.1, by rw [hreading]; exact h.2⟩
  · exact nomatch h

/-! ## Decoders -/

namespace Decoder

variable {α β : Type} {d : Decoder α} {v : Json} {a : α}

/-- The decoder gives a value, by value and from every tree that shows it. -/
structure Recovers (d : Decoder α) (v : Json) (a : α) : Prop where
  reads : d.Reads v a
  shown : ∀ (anchors : Anchors) (levels : Nat) (t : Tree), v.isShownBy levels t = true →
    d (.textual anchors levels) t = pure a

namespace Recovers

theorem shows (h : d.Recovers v a) {mode : Reading} {t : Tree} (ht : mode.Shows t v) :
    d mode t = pure a := by
  cases mode with
  | textual anchors levels => exact h.shown anchors levels t ht
  | _ =>
    obtain rfl := ht
    exact h.reads _ rfl

/-- A text holds the value whose written form it shows. -/
theorem decode_source (h : d.Recovers v a) {s : Source} (hs : s.Shows v) :
    s.decode d = .ok a := by
  have hrun : d.run s.reading s.tree s.anchors = .ok a := by
    rw [Decoder.run, h.shows hs.tree]
    rfl
  rw [Source.decode, hrun]
  exact if_pos hs.ended

theorem map {f : α → β} (h : d.Recovers v a) : (d.map f).Recovers v (f a) where
  reads := h.reads.map
  shown := by
    intro anchors levels t ht
    rw [Decoder.map, h.shown anchors levels t ht, map_pure]

/-- A decoder of scalars gives a value if it does so by value and from each scalar that means the
value. -/
theorem of_scalar (hreads : d.Reads v a) (hv : ∀ levels t, v.isShownBy levels t = t.means v)
    (h : ∀ anchors levels (s : Scalar), s.means v = true →
      d (.textual anchors levels) (.scalar s) = pure a) : d.Recovers v a where
  reads := hreads
  shown := by
    intro anchors levels t ht
    rw [hv] at ht
    cases t with
    | scalar s => exact h anchors levels s ht
    | _ => exact nomatch ht

theorem text (w : String) : Decoder.text.Recovers (.str w) w := by
  refine of_scalar (Reads.text w) (fun _ _ => rfl) fun anchors levels s hs => ?_
  simp only [Scalar.means, Bool.and_eq_true, beq_iff_eq] at hs
  obtain ⟨-, -, hw⟩ := hs
  rw [← hw]
  rfl

theorem flag (b : Bool) : Decoder.flag.Recovers (.bool b) b := by
  refine of_scalar (Reads.flag b) (fun _ _ => rfl) fun anchors levels s hs => ?_
  simp only [Scalar.means, Bool.and_eq_true, beq_iff_eq] at hs
  obtain ⟨-, ⟨-, hform⟩, hb⟩ := hs
  simp [Decoder.flag, Reading.resolve, hb, Scalar.serves, hform]

theorem natBelow {limit n : Nat} (h : n < limit) :
    (Decoder.natBelow limit).Recovers (.int n) n := by
  refine of_scalar (Reads.natBelow h) (fun _ _ => rfl) fun anchors levels s hs => ?_
  simp only [Scalar.means, Bool.and_eq_true, beq_iff_eq] at hs
  obtain ⟨-, ⟨-, hform⟩, hn⟩ := hs
  have htext : natOfSigned? s.text.toList = some n := by
    simpa [Int.not_lt.2 (Int.natCast_nonneg n)] using hn
  simp [Decoder.natBelow, Reading.resolve, htext, Scalar.serves, hform, h]

theorem word64 (n : UInt64) : Decoder.word64.Recovers (.int n.toNat) n := by
  have hread := (natBelow n.toNat_lt_size).map (f := UInt64.ofNat)
  rwa [UInt64.ofNat_toNat] at hread

theorem real {x : Binary64} (h : x.isFinite = true) : Decoder.real.Recovers (.float x) x := by
  refine of_scalar (Reads.real h) (fun _ _ => rfl) fun anchors levels s hs => ?_
  simp only [Scalar.means, Bool.and_eq_true, beq_iff_eq] at hs
  obtain ⟨-, ⟨-, hform⟩, hx⟩ := hs
  simp [Decoder.real, Reading.resolve, hx, Scalar.serves, hform]

/-- A value that is not written as null is recovered as itself. -/
theorem some (h : d.Recovers v a) (hv : v.isPresent = true) :
    (Decoder.option d).Recovers v (some a) where
  reads := h.reads.option_some hv
  shown := by
    intro anchors levels t ht
    have hread : Decoder.option d (.textual anchors levels) t =
        Option.some <$> d (.textual anchors levels) t := by
      rw [Decoder.option, Json.resolve_of_isShownBy ht, pure_bind]
      obtain ⟨s, rfl, hs⟩ | ⟨ts, rfl⟩ | ⟨entries, rfl⟩ := Json.isShownBy_cases ht
      · simp [(Scalar.tag_of_means hs).1, Scalar.isNothing_of_means hs hv]
      · rfl
      · rfl
    rw [hread, h.shown anchors levels t ht, map_pure]

/-- The items of a list are read one by one from the trees that show them. -/
theorem list {f : α → Json} {items : List α} (h : ∀ a ∈ items, d.Recovers (f a) a) :
    (Decoder.list d).Recovers (.list f items) items where
  reads := Reads.list fun a ha => (h a ha).reads
  shown := by
    intro anchors levels t ht
    obtain ⟨inside, ts, rfl, rfl, hitems⟩ := Json.isShownBy_arr ht
    rw [List.forall₂_map_left_iff] at hitems
    have hread : ts.mapM (d (.textual anchors inside)) = pure items :=
      mapM_eq_pure (((List.forall₂_and_left _ _).2 ⟨h, hitems⟩).imp fun a t ha =>
        ha.1.shown anchors inside t ha.2)
    exact hread

theorem texts (items : List String) : (Decoder.list .text).Recovers (.texts items) items :=
  list fun w _ => text w

theorem text_of_isWord {w : String} {t : Tree} (h : t.isWord w = true) (anchors : Anchors)
    (levels : Nat) : Decoder.text (.textual anchors levels) t = pure w := by
  cases t with
  | scalar s =>
    obtain rfl := beq_iff_eq.1 h
    rfl
  | _ => exact nomatch h

/-- The entries of a table are read one by one from the entries that show them. -/
theorem entriesInto_of_shown {β : Type} (insert : β → String → α → β) (read : β) {f : α → Json}
    {pairs : Assoc String α} (h : ∀ p ∈ pairs, d.Recovers (f p.2) p.2) {levels : Nat}
    {entries : List (Tree × Tree)}
    (hentries : List.Forall₂ (fun m e => e.1.isWord m.1 = true ∧ m.2.isShownBy levels e.2 = true)
      (pairs.map fun p => (p.1, f p.2)) entries) (anchors : Anchors) :
    entriesInto insert d (.textual anchors levels) read entries =
      pure (pairs.foldl (fun read p => insert read p.1 p.2) read) := by
  rw [List.forall₂_map_left_iff] at hentries
  refine entriesInto_eq_pure insert ?_ read
  refine ((List.forall₂_and_left _ _).2 ⟨h, hentries⟩).imp fun p e hp => ?_
  exact ⟨text_of_isWord hp.2.1 anchors levels, hp.1.shown anchors levels e.2 hp.2.2⟩

/-- A table is recovered if inserting its entries in turn gives the table. -/
theorem tableBy {insert : Assoc String α → String → α → Assoc String α} {f : α → Json}
    {entries : Assoc String α}
    (hinsert : entries.foldl (fun read p => insert read p.1 p.2) [] = entries)
    (h : ∀ p ∈ entries, d.Recovers (f p.2) p.2) :
    (Decoder.tableBy insert [] d).Recovers (.table f entries) entries where
  reads := by
    have hread : ∀ mode : Reading, mode.isTextual = false →
        entriesInto insert d mode []
          (Json.toEntries (entries.map fun p => (p.1, f p.2))) = pure entries := by
      intro mode hmode
      rw [Reads.entriesInto_toEntries insert (fun p hp => (h p hp).reads) [] hmode, hinsert]
    exact Reads.of_modes (hread .typed rfl) (hread .lenient rfl) (hread .buffered rfl)
  shown := by
    intro anchors levels t ht
    obtain ⟨inside, shown, rfl, rfl, hshown⟩ := Json.isShownBy_obj ht
    have hread := entriesInto_of_shown insert [] h hshown anchors
    rw [hinsert] at hread
    exact hread

theorem table {f : α → Json} {entries : Assoc String α} (hn : (Assoc.keys entries).Nodup)
    (h : ∀ p ∈ entries, d.Recovers (f p.2) p.2) :
    (Decoder.table d).Recovers (.table f entries) entries :=
  tableBy (Assoc.ofPairs_eq_self hn) h

theorem sortedTable {f : α → Json} {entries : Assoc String α} (hs : entries.IsIncreasing)
    (h : ∀ p ∈ entries, d.Recovers (f p.2) p.2) :
    (Decoder.sortedTable d).Recovers (.table f entries) entries :=
  tableBy (Assoc.foldl_insertSorted_of_isIncreasing (t := []) hs) h

theorem presents_of_shown {levels : Nat} {member : String × Json} {entry : Tree × Tree}
    (h : entry.1.isWord member.1 = true ∧ member.2.isShownBy levels entry.2 = true)
    (anchors : Anchors) :
    Presents (Recovers (α := α)) (.textual anchors levels) member entry where
  key := by
    intro slots hknown
    obtain ⟨k, t⟩ := entry
    cases k with
    | scalar s =>
      have htext : s.text = member.1 := beq_iff_eq.1 h.1
      have hfield : (if slots.any (fun slot => slot.1 == s.text) then Option.some s.text
          else none) = Option.some s.text := if_pos (htext ▸ hknown)
      rw [← htext, ← hfield]
      rfl
    | _ => exact nomatch h.1
  value := fun d a hread => hread.shown anchors levels entry.2 h.2

/-- A record is recovered from the members that fill its fields. -/
theorem record {slots : List (String × Presence)} {set : α → String → Decoder α} {b : α}
    {members : List Json.Member} (hn : (slots.map Prod.fst).Nodup)
    (h : Fills Recovers set slots members a b) :
    (Decoder.record slots a set).Recovers (.record members) b where
  reads := Reads.record hn (h.mono fun _ _ _ hread => hread.reads)
  shown := by
    intro anchors levels t ht
    obtain ⟨inside, entries, rfl, rfl, hentries⟩ := Json.isShownBy_obj ht
    exact h.read hn (hentries.imp fun m e hm => presents_of_shown hm anchors)

end Recovers

end Decoder

/-! ## Values of any sort -/

namespace Json

mutual

/-- Whether a value can be held in memory: its doubles are finite, and no object has two members
with one key. -/
def isProper : Json → Bool
  | .float x => x.isFinite
  | .arr items => areProper items
  | .obj members => decide (members.map Prod.fst).Nodup && membersProper members
  | _ => true

/-- `isProper` for each value. -/
def areProper : List Json → Bool
  | [] => true
  | v :: items => isProper v && areProper items

/-- `isProper` for each member. -/
def membersProper : List (String × Json) → Bool
  | [] => true
  | (_, v) :: members => isProper v && membersProper members

end

end Json

namespace Decoder

open Json (toTree toTrees toEntries isProper areProper membersProper)

theorem jsonItems_eq_pure {items : List Json} {ts : List Tree}
    (h : List.Forall₂ (fun v t => jsonOf t = pure v) items ts) : jsonItems ts = pure items := by
  induction h with
  | nil => rfl
  | cons hv _ ih => rw [jsonItems, hv, pure_bind, ih, pure_bind]

/-- Members with distinct keys are read one behind the other. -/
theorem jsonMembers_eq_pure {members : List (String × Json)} {entries : List (Tree × Tree)}
    (h : List.Forall₂ (fun m e => text .typed e.1 = pure m.1 ∧ jsonOf e.2 = pure m.2)
      members entries) (hn : (members.map Prod.fst).Nodup) :
    jsonMembers [] entries = pure members := by
  have hread : ∀ read, jsonMembers read entries =
      pure (members.foldl (fun read m => Assoc.insert read m.1 m.2) read) := by
    induction h with
    | nil => exact fun _ => rfl
    | cons hm _ ih =>
      intro read
      rw [jsonMembers, hm.1, pure_bind, hm.2, pure_bind, ih (List.nodup_cons.1 hn).2,
        List.foldl_cons]
  rw [hread]
  exact congrArg pure (Assoc.ofPairs_eq_self hn)

theorem jsonOf_float {x : Binary64} (h : x.isFinite = true) {s : Scalar} (hs : s.atom = .float x) :
    jsonOf (.scalar s) = pure (.float x) := by
  rw [jsonOf, hs]
  simp [h]

mutual

theorem jsonOf_toTree : (v : Json) → v.isProper = true → jsonOf v.toTree = pure v
  | .null, _ | .bool _, _ | .int _, _ | .str _, _ => rfl
  | .float x, h => by
    rw [toTree, if_pos (show x.isFinite = true from h)]
    exact jsonOf_float h rfl
  | .arr items, h => by
    rw [toTree, jsonOf, jsonItems_eq_pure (jsonOf_toTrees items h)]
    rfl
  | .obj members, h => by
    rw [isProper, Bool.and_eq_true, decide_eq_true_eq] at h
    rw [toTree, jsonOf, jsonMembers_eq_pure (jsonOf_toEntries members h.2) h.1]
    rfl

theorem jsonOf_toTrees : (items : List Json) → areProper items = true →
    List.Forall₂ (fun v t => jsonOf t = pure v) items (toTrees items)
  | [], _ => .nil
  | v :: items, h => by
    rw [areProper, Bool.and_eq_true] at h
    exact .cons (jsonOf_toTree v h.1) (jsonOf_toTrees items h.2)

theorem jsonOf_toEntries : (members : List (String × Json)) → membersProper members = true →
    List.Forall₂ (fun m e => text .typed e.1 = pure m.1 ∧ jsonOf e.2 = pure m.2)
      members (toEntries members)
  | [], _ => .nil
  | (key, v) :: members, h => by
    rw [membersProper, Bool.and_eq_true] at h
    exact .cons ⟨rfl, jsonOf_toTree v h.1⟩ (jsonOf_toEntries members h.2)

end

theorem jsonOf_of_means {v : Json} (hv : v.isProper = true) {s : Scalar} (hs : s.means v = true) :
    s.atom ≠ .other ∧ jsonOf (.scalar s) = pure v := by
  have hatom := (Scalar.tag_of_means hs).2
  cases v with
  | arr items => exact nomatch hatom
  | obj members => exact nomatch hatom
  | float x =>
    have hatom := (Option.some.inj hatom).symm
    exact ⟨by rw [hatom]; nofun, jsonOf_float hv hatom⟩
  | _ =>
    have hatom := (Option.some.inj hatom).symm
    exact ⟨by rw [hatom]; nofun, by rw [jsonOf, hatom]⟩

variable {anchors : Anchors}

theorem expand_key {key : String} {k : Tree} (h : k.isWord key = true) :
    Reading.expand.key anchors k = pure (.ofText key) := by
  cases k with
  | scalar s =>
    obtain rfl := beq_iff_eq.1 h
    rfl
  | _ => exact nomatch h

/-- A scalar stays as it is, whatever the levels left. -/
theorem expand_scalar {s : Scalar} (h : s.atom ≠ .other) (levels : Nat) :
    Reading.expand anchors true levels (.scalar s) = pure (.scalar s) := by
  have hsettled : Reading.settledScalar s = pure (.scalar s) := if_neg h
  cases levels <;> exact hsettled

mutual

/-- A tree that shows a value has, without anchors, that value. -/
theorem expand_of_isShownBy : (v : Json) → v.isProper = true → {levels : Nat} → {t : Tree} →
    v.isShownBy levels t = true →
      ∃ t', Reading.expand anchors true levels t = pure t' ∧ jsonOf t' = pure v
  | .arr items, hv, _, _, h => by
    obtain ⟨inside, ts, rfl, rfl, hitems⟩ := Json.isShownBy_arr h
    obtain ⟨ts', hts', hread⟩ := expandAll_of_areShown items hv hitems
    refine ⟨.seq ts', ?_, by rw [jsonOf, jsonItems_eq_pure hread]; rfl⟩
    rw [Reading.expand, Json.resolve_of_isShownBy h, pure_bind]
    dsimp only
    rw [hts', pure_bind]
  | .obj members, hv, _, _, h => by
    obtain ⟨inside, entries, rfl, rfl, hmembers⟩ := Json.isShownBy_obj h
    rw [isProper, Bool.and_eq_true, decide_eq_true_eq] at hv
    obtain ⟨entries', hentries', hread⟩ := expandEntries_of_areShown members hv.2 hmembers
    refine ⟨.map entries', ?_, by rw [jsonOf, jsonMembers_eq_pure hread hv.1]; rfl⟩
    rw [Reading.expand, Json.resolve_of_isShownBy h, pure_bind]
    dsimp only
    rw [hentries', pure_bind]
  | .null, hv, levels, _, h | .bool _, hv, levels, _, h | .int _, hv, levels, _, h
  | .float _, hv, levels, _, h | .str _, hv, levels, _, h => by
    obtain ⟨s, rfl, hs⟩ := Json.isShownBy_scalar h
    obtain ⟨hatom, hread⟩ := jsonOf_of_means hv hs
    exact ⟨.scalar s, expand_scalar hatom levels, hread⟩

theorem expandAll_of_areShown : (items : List Json) → areProper items = true →
    {levels : Nat} → {ts : List Tree} →
    List.Forall₂ (fun v t => v.isShownBy levels t = true) items ts →
      ∃ ts', ts.mapM (fun t => Reading.expand anchors true levels t) = pure ts' ∧
        List.Forall₂ (fun v t => jsonOf t = pure v) items ts'
  | [], _, _, _, .nil => ⟨[], rfl, .nil⟩
  | v :: items, hv, _, _, .cons h hitems => by
    rw [areProper, Bool.and_eq_true] at hv
    obtain ⟨t', ht', hread⟩ := expand_of_isShownBy v hv.1 h
    obtain ⟨ts', hts', hreads⟩ := expandAll_of_areShown items hv.2 hitems
    exact ⟨t' :: ts', by rw [List.mapM_cons, ht', pure_bind, hts', pure_bind], .cons hread hreads⟩

theorem expandEntries_of_areShown : (members : List (String × Json)) →
    membersProper members = true → {levels : Nat} → {entries : List (Tree × Tree)} →
    List.Forall₂ (fun m e => e.1.isWord m.1 = true ∧ m.2.isShownBy levels e.2 = true)
      members entries →
      ∃ entries', (entries.mapM fun (k, v) => do
          let k ← if true then Reading.expand.key anchors k
            else Reading.expand anchors true levels k
          let v ← Reading.expand anchors true levels v
          return (k, v)) = pure entries' ∧
        List.Forall₂ (fun m e => text .typed e.1 = pure m.1 ∧ jsonOf e.2 = pure m.2)
          members entries'
  | [], _, _, _, .nil => ⟨[], rfl, .nil⟩
  | (key, v) :: members, hv, _, _, .cons h hmembers => by
    rw [membersProper, Bool.and_eq_true] at hv
    obtain ⟨t', ht', hread⟩ := expand_of_isShownBy v hv.1 h.2
    obtain ⟨entries', hentries', hreads⟩ := expandEntries_of_areShown members hv.2 hmembers
    refine ⟨(.ofText key, t') :: entries', ?_, .cons ⟨rfl, hread⟩ hreads⟩
    rw [List.mapM_cons, hentries']
    simp only [if_true, expand_key h.1, ht', pure_bind]

end

/-- A value of any sort is read as itself. -/
theorem Recovers.json {v : Json} (hv : v.isProper = true) : Decoder.json.Recovers v v where
  reads := by
    have hread := jsonOf_toTree v hv
    exact Reads.of_modes hread hread hread
  shown := by
    intro anchors levels t ht
    obtain ⟨t', ht', hread⟩ := expand_of_isShownBy v hv ht
    rw [Decoder.json, ht', pure_bind, hread]

/-- Values of any sort are read as they are. -/
theorem Recovers.values {items : List Json} (h : ∀ v ∈ items, v.isProper = true) :
    (Decoder.list .json).Recovers (.arr items) items := by
  have hread := Recovers.list (f := id) fun v hv => Recovers.json (h v hv)
  rwa [Json.list, List.map_id] at hread

end Decoder
end ApiContract
