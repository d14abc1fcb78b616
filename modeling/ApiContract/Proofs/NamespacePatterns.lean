import ApiContract.Proofs.FaultyDeclarations
import ApiContract.Proofs.PatternExpressions
/-!
# What namespace patterns match

A pattern covers a namespace exactly if its segments match a non-empty front of the segments of the
namespace: a text matches an equal segment, `*` any segment, `**` one or more.

* `patternOf` : the segments of a pattern from its text; `ofTexts_eq_ok` : what is read.
* `IsInstance` : segments that match a pattern one after the other.
* `matchesSegments_iff` : `matchesSegments` finds a front that is an instance.
* `mem_language_patternOf_iff` : the regular expression of a pattern matches the same namespaces.
* `patterns_cover` : which patterns are read and which namespaces they cover.
-/

namespace ApiContract

open Text

/-! ## Reading patterns -/

/-- A segment of a pattern from its text. -/
def PatternSegment.ofText (text : List Char) : PatternSegment :=
  if text = ['*'] then .one else if text = ['*', '*'] then .many else .literal text

/-- The segments of a pattern from its text. -/
def patternOf (text : String) : List PatternSegment :=
  (patternSegments text).map PatternSegment.ofText

theorem parseSegment_eq_ok {text : String} {segment : List Char} {p : PatternSegment}
    (h : NamespacePattern.parseSegment text segment = .ok p) : p = .ofText segment := by
  rw [NamespacePattern.parseSegment] at h
  rw [PatternSegment.ofText]
  by_cases hone : segment = ['*']
  · rw [if_pos hone] at h ⊢
    exact (Except.ok.inj h).symm
  by_cases hmany : segment = ['*', '*']
  · rw [if_neg hone, if_pos hmany] at h ⊢
    exact (Except.ok.inj h).symm
  rw [if_neg hone, if_neg hmany] at h ⊢
  split at h
  · cases h
  · split at h
    · cases h
    · exact (Except.ok.inj h).symm

theorem mapM_eq_ok_map {α β ε : Type} {f : α → Except ε β} {g : α → β}
    (hf : ∀ {x y}, f x = .ok y → y = g x) {xs : List α} {ys : List β} (h : xs.mapM f = .ok ys) :
    ys = xs.map g := by
  induction xs generalizing ys with
  | nil => cases h; rfl
  | cons x rest ih =>
    rw [List.mapM_cons] at h
    obtain ⟨y, hy, h⟩ := exceptBind_eq_ok.1 h
    obtain ⟨ys', hys', h⟩ := exceptBind_eq_ok.1 h
    rw [← Except.ok.inj h, hf hy, ih hys', List.map_cons]

theorem parse_eq_ok {text : String} {p : NamespacePattern}
    (h : NamespacePattern.parse text = .ok p) : p = ⟨text, patternOf text⟩ := by
  obtain ⟨segments, hsegments, rfl⟩ := exceptMap_eq_ok.1 h
  rw [mapM_eq_ok_map parseSegment_eq_ok hsegments, patternOf, patternSegments]

variable {texts : List String} {m : NamespaceMatcher} {pattern : List PatternSegment}
  {segment : List Char} {segments rest : List (List Char)}

theorem ofTexts_eq_ok (h : NamespaceMatcher.ofTexts texts = .ok m) :
    m.patterns = texts.map fun text => ⟨text, patternOf text⟩ := by
  rw [NamespaceMatcher.ofTexts] at h
  split at h
  · next patterns hpatterns =>
    rw [← Except.ok.inj h]
    exact mapM_eq_ok_map parse_eq_ok hpatterns
  · cases h

theorem isSoundPattern_of_ofTexts {text : String} (h : NamespaceMatcher.ofTexts texts = .ok m)
    (ht : text ∈ texts) : IsSoundPattern text :=
  exists_ofTexts_iff.1 ⟨m, h⟩ text ht

theorem patternOf_ne_nil (text : String) : patternOf text ≠ [] :=
  fun h => splitOn_ne_nil _ _ (List.map_eq_nil_iff.1 h)

/-- A literal stands in the text of its pattern. -/
theorem mem_patternSegments_of_literal {text : String} {raw : List Char}
    (h : .literal raw ∈ patternOf text) : raw ∈ patternSegments text := by
  obtain ⟨segment, hsegment, heq⟩ := List.mem_map.1 h
  rw [PatternSegment.ofText] at heq
  split at heq
  · cases heq
  · split at heq
    · cases heq
    · cases heq
      exact hsegment

theorem matchesNamespace_iff (h : NamespaceMatcher.ofTexts texts = .ok m) (name : String) :
    m.matchesNamespace name = true ↔
      ∃ text ∈ texts, matchesSegments (patternOf text) (splitOn '.' name.toList) = true := by
  rw [NamespaceMatcher.matchesNamespace, ofTexts_eq_ok h]
  simp only [List.any_map, List.any_eq_true, Function.comp_apply,
    NamespacePattern.matchesNamespace_eq]

/-! ## Instances -/

/-- Segments of a namespace that match the segments of a pattern one after the other. -/
inductive IsInstance : List PatternSegment → List (List Char) → Prop
  | nil : IsInstance [] []
  | literal {pattern : List PatternSegment} {segments : List (List Char)} (text : List Char)
      (h : IsInstance pattern segments) : IsInstance (.literal text :: pattern) (text :: segments)
  | one {pattern : List PatternSegment} {segments : List (List Char)} (segment : List Char)
      (h : IsInstance pattern segments) : IsInstance (.one :: pattern) (segment :: segments)
  | many {pattern : List PatternSegment} {segments : List (List Char)} (run : List (List Char))
      (hrun : run ≠ []) (h : IsInstance pattern segments) :
      IsInstance (.many :: pattern) (run ++ segments)

theorem IsInstance.ne_nil {p : PatternSegment} (h : IsInstance (p :: pattern) segments) :
    segments ≠ [] := by
  cases h with
  | literal => exact List.cons_ne_nil _ _
  | one => exact List.cons_ne_nil _ _
  | many run hrun h => exact List.append_ne_nil_of_left_ne_nil hrun _

theorem isInstance_literal_cons {text : List Char} :
    IsInstance (.literal text :: pattern) (segment :: segments) ↔
      segment = text ∧ IsInstance pattern segments := by
  constructor
  · intro h
    cases h with
    | literal _ h => exact ⟨rfl, h⟩
  · rintro ⟨rfl, h⟩
    exact .literal segment h

theorem isInstance_one_cons :
    IsInstance (.one :: pattern) (segment :: segments) ↔ IsInstance pattern segments := by
  constructor
  · intro h
    cases h with
    | one _ h => exact h
  · exact .one segment

/-- The run of a `**` ends with its first segment or goes on behind it. -/
theorem isInstance_many_cons :
    IsInstance (.many :: pattern) (segment :: segments) ↔
      IsInstance pattern segments ∨ IsInstance (.many :: pattern) segments := by
  constructor
  · generalize hall : segment :: segments = all
    intro h
    cases h with
    | many run hrun h =>
      cases run with
      | nil => exact absurd rfl hrun
      | cons first run =>
        obtain ⟨rfl, rfl⟩ := List.cons.inj hall
        by_cases hlast : run = []
        · subst hlast
          exact Or.inl h
        · exact Or.inr (.many run hlast h)
  · rintro (h | h)
    · exact .many [segment] (List.cons_ne_nil _ _) h
    · generalize hall : segments = all at h
      cases h with
      | many run hrun h =>
        exact .many (segment :: run) (List.cons_ne_nil _ _) h

/-- A segment of a namespace: something without dots, on one line. -/
structure IsPlainSegment (segment : List Char) : Prop where
  ne_nil : segment ≠ []
  noDot : '.' ∉ segment
  oneLine : '\n' ∉ segment

instance (segment : List Char) : Decidable (IsPlainSegment segment) :=
  decidable_of_iff (segment ≠ [] ∧ '.' ∉ segment ∧ '\n' ∉ segment)
    ⟨fun ⟨hne, hdot, hline⟩ => ⟨hne, hdot, hline⟩, fun h => ⟨h.ne_nil, h.noDot, h.oneLine⟩⟩

/-- An instance of a pattern begins with the first segment. -/
theorem exists_front_cons {p : PatternSegment} :
    (∃ front, front <+: segment :: rest ∧ IsInstance (p :: pattern) front) ↔
      ∃ front, front <+: rest ∧ IsInstance (p :: pattern) (segment :: front) := by
  constructor
  · rintro ⟨front, hfront, h⟩
    obtain ⟨first, front, rfl⟩ := List.exists_cons_of_ne_nil h.ne_nil
    obtain ⟨rfl, hrest⟩ := List.cons_prefix_cons.1 hfront
    exact ⟨front, hrest, h⟩
  · rintro ⟨front, hfront, h⟩
    exact ⟨segment :: front, List.cons_prefix_cons.2 ⟨rfl, hfront⟩, h⟩

/-- Everything behind a match is nested below it. -/
theorem isNested_of_isPlainSegment (hsegments : ∀ s ∈ segments, IsPlainSegment s) :
    isNested segments = true := by
  rw [isNested, Bool.and_eq_true, bne_iff_ne, List.all_eq_true]
  constructor
  · rintro rfl
    exact (hsegments [] (List.mem_singleton_self _)).ne_nil rfl
  · intro s hs
    simpa using (hsegments s hs).oneLine

/-- A pattern covers segments exactly if a front of them is an instance of it. -/
theorem matchesSegments_iff (hsegments : ∀ s ∈ segments, IsPlainSegment s) :
    matchesSegments pattern segments = true ↔
      ∃ front, front <+: segments ∧ IsInstance pattern front := by
  -- a segment of the pattern takes one segment of the front; what is left at the end is nested
  fun_induction matchesSegments pattern segments with
  | case1 => exact iff_of_true rfl ⟨[], List.prefix_rfl, .nil⟩
  | case2 segments =>
    exact iff_of_true (isNested_of_isPlainSegment hsegments) ⟨[], List.nil_prefix, .nil⟩
  | case3 p pattern =>
    refine iff_of_false Bool.false_ne_true ?_
    rintro ⟨front, hfront, h⟩
    exact h.ne_nil (List.prefix_nil.1 hfront)
  | case4 text pattern segment rest ih =>
    obtain ⟨hsegment, hrest⟩ := List.forall_mem_cons.1 hsegments
    simp [exists_front_cons, isInstance_literal_cons, ih hrest, and_left_comm]
  | case5 pattern segment rest ih =>
    obtain ⟨hsegment, hrest⟩ := List.forall_mem_cons.1 hsegments
    simp [exists_front_cons, isInstance_one_cons, hsegment.ne_nil, ih hrest]
  | case6 pattern segment rest ihlast ihmore =>
    obtain ⟨hsegment, hrest⟩ := List.forall_mem_cons.1 hsegments
    simp [exists_front_cons, isInstance_many_cons, hsegment.ne_nil, ihlast hrest, ihmore hrest,
      and_or_left, exists_or]

/-! ## What a matcher covers -/

/-- The namespace with these segments. -/
def namespaceText (segments : List (List Char)) : String := String.ofList (joinWith '.' segments)

/-- One of the patterns has an instance at the beginning of these segments. -/
def HasInstanceIn (texts : List String) (segments : List (List Char)) : Prop :=
  ∃ text ∈ texts, ∃ front, front ≠ [] ∧ front <+: segments ∧ IsInstance (patternOf text) front

theorem HasInstanceIn.append (h : HasInstanceIn texts segments) (deeper : List (List Char)) :
    HasInstanceIn texts (segments ++ deeper) := by
  obtain ⟨text, ht, front, hne, hfront, hinstance⟩ := h
  exact ⟨text, ht, front, hne, hfront.trans (List.prefix_append ..), hinstance⟩

theorem matchesNamespace_iff_hasInstanceIn (h : NamespaceMatcher.ofTexts texts = .ok m)
    (hne : segments ≠ []) (hsegments : ∀ s ∈ segments, IsPlainSegment s) :
    m.matchesNamespace (namespaceText segments) = true ↔ HasInstanceIn texts segments := by
  have hsplit : splitOn '.' (namespaceText segments).toList = segments := by
    rw [namespaceText, String.toList_ofList,
      splitOn_joinWith hne fun s hs => (hsegments s hs).noDot]
  have hfront : ∀ text, matchesSegments (patternOf text) segments = true ↔
      ∃ front, front ≠ [] ∧ front <+: segments ∧ IsInstance (patternOf text) front := by
    intro text
    obtain ⟨p, pattern, hp⟩ := List.exists_cons_of_ne_nil (patternOf_ne_nil text)
    rw [matchesSegments_iff hsegments, hp]
    exact exists_congr fun front => ⟨fun h => ⟨h.2.ne_nil, h⟩, fun h => h.2⟩
  rw [matchesNamespace_iff h, hsplit]
  simp only [hfront, HasInstanceIn]

/-- The regular expressions of the patterns match the same namespaces, whatever they look like. -/
theorem mem_language_patternOf_iff (text : String) (name : List Char) :
    name ∈ (patternExpression (patternOf text)).language ↔
      matchesSegments (patternOf text) (splitOn '.' name) = true :=
  mem_patternExpression_iff (patternOf_ne_nil text)
    (fun _ h => not_mem_of_mem_splitOn (mem_patternSegments_of_literal h)) name

/-- The only segment of the empty namespace is empty, and no segment of a pattern matches that. -/
theorem matchesNamespace_empty (h : NamespaceMatcher.ofTexts texts = .ok m) :
    m.matchesNamespace "" = false := by
  rw [Bool.eq_false_iff, Ne, matchesNamespace_iff h]
  rintro ⟨text, ht, hmatch⟩
  obtain ⟨p, pattern, hp⟩ := List.exists_cons_of_ne_nil (patternOf_ne_nil text)
  have hempty : splitOn '.' "".toList = [[]] := rfl
  rw [hp, hempty] at hmatch
  cases p with
  | literal raw =>
    have hraw : raw ∈ patternSegments text :=
      mem_patternSegments_of_literal (hp ▸ List.mem_cons_self ..)
    have hnil : [] = raw := by simpa using (Bool.and_eq_true_iff.1 hmatch).1
    exact isSoundPattern_of_ofTexts h ht raw hraw (Or.inl hnil.symm)
  | one => cases hmatch
  | many => cases hmatch

theorem namespaceOf_eq_empty {name : String} (h : '.' ∉ name.toList) : namespaceOf name = "" := by
  rw [namespaceOf, splitLast_eq_none h]

/-- Patterns are read exactly if each segment is a wildcard or a text without asterisks. What is
read covers exactly the namespaces of which a non-empty front is an instance of a pattern, and with
a namespace those nested below it, but never the empty one; and it covers exactly what matches the
regular expression of a pattern. -/
theorem patterns_cover (texts : List String) :
    ((∃ m, NamespaceMatcher.ofTexts texts = .ok m) ↔
      ∀ text ∈ texts, ∀ segment ∈ patternSegments text,
        segment ≠ [] ∧ ('*' ∈ segment → segment = ['*'] ∨ segment = ['*', '*'])) ∧
    ∀ m, NamespaceMatcher.ofTexts texts = .ok m →
      (∀ segments, segments ≠ [] → (∀ s ∈ segments, IsPlainSegment s) →
        (m.matchesNamespace (namespaceText segments) = true ↔ HasInstanceIn texts segments)) ∧
      (∀ segments deeper, segments ≠ [] → (∀ s ∈ segments ++ deeper, IsPlainSegment s) →
        m.matchesNamespace (namespaceText segments) = true →
        m.matchesNamespace (namespaceText (segments ++ deeper)) = true) ∧
      m.matchesNamespace "" = false ∧
      (∀ name, '.' ∉ name.toList → m.containsType name = false) ∧
      ∀ name, m.matchesNamespace name = true ↔
        ∃ text ∈ texts, name.toList ∈ (patternExpression (patternOf text)).language := by
  refine ⟨?_, fun m hm => ⟨?_, ?_, ?_, ?_, ?_⟩⟩
  · have hsound : ∀ segment, ¬ IsFaultySegment segment ↔
        segment ≠ [] ∧ ('*' ∈ segment → segment = ['*'] ∨ segment = ['*', '*']) := by
      intro segment
      rw [IsFaultySegment]
      tauto
    rw [exists_ofTexts_iff]
    simp only [IsSoundPattern, hsound]
  · exact fun segments => matchesNamespace_iff_hasInstanceIn hm
  · intro segments deeper hne hplain h
    rw [matchesNamespace_iff_hasInstanceIn hm (List.append_ne_nil_of_left_ne_nil hne _) hplain]
    refine HasInstanceIn.append ?_ deeper
    exact (matchesNamespace_iff_hasInstanceIn hm hne
      fun s hs => hplain s (List.mem_append_left _ hs)).1 h
  · exact matchesNamespace_empty hm
  · intro name hname
    rw [NamespaceMatcher.containsType, namespaceOf_eq_empty hname, matchesNamespace_empty hm]
  · intro name
    simp only [matchesNamespace_iff hm, mem_language_patternOf_iff]

theorem patterns_cover_dto :
    ∃ m, NamespaceMatcher.ofTexts ["com.**.dto", " a+(b).* "] = .ok m ∧
      m.matchesNamespace "com.shop.web.dto" = true ∧
      m.matchesNamespace "com.shop.web.dto.inner" = true ∧
      m.matchesNamespace "a+(b).c" = true ∧
      ¬ HasInstanceIn ["com.**.dto", " a+(b).* "] ["com".toList, "dto".toList] ∧
      m.containsType "Car" = false ∧
      ∃ text ∈ ["com.**.dto", " a+(b).* "],
        "com.shop.web.dto".toList ∈ (patternExpression (patternOf text)).language := by
  have h := patterns_cover ["com.**.dto", " a+(b).* "]
  obtain ⟨m, hm⟩ := h.1.2 (by decide +kernel)
  obtain ⟨hcovers, hdeeper, -, hcar, hlanguage⟩ := h.2 m hm
  have hdto : m.matchesNamespace "com.shop.web.dto" = true := by
    refine (hcovers ["com".toList, "shop".toList, "web".toList, "dto".toList] (by decide)
      (by decide)).2 ⟨"com.**.dto", by decide, _, by decide, List.prefix_rfl, ?_⟩
    exact .literal _ (.many ["shop".toList, "web".toList] (by decide) (.literal _ .nil))
  have hab : m.matchesNamespace "a+(b).c" = true := by
    refine (hcovers ["a+(b)".toList, "c".toList] (by decide) (by decide)).2
      ⟨" a+(b).* ", by decide, _, by decide, List.prefix_rfl, ?_⟩
    exact .literal _ (.one _ .nil)
  have hinner := hdeeper ["com".toList, "shop".toList, "web".toList, "dto".toList]
    ["inner".toList] (by decide) (by decide) hdto
  have hshort : ¬ HasInstanceIn ["com.**.dto", " a+(b).* "] ["com".toList, "dto".toList] := by
    rw [← hcovers ["com".toList, "dto".toList] (by decide) (by decide)]
    obtain rfl : m = ⟨[⟨"com.**.dto", [.literal "com".toList, .many, .literal "dto".toList]⟩,
        ⟨" a+(b).* ", [.literal "a+(b)".toList, .one]⟩]⟩ :=
      Except.ok.inj (hm.symm.trans (by decide +kernel))
    decide +kernel
  exact ⟨m, hm, hdto, hinner, hab, hshort, hcar "Car" (by decide),
    (hlanguage "com.shop.web.dto").1 hdto⟩

end ApiContract
