import Mathlib.Computability.Language
import ApiContract.NamespacePattern
/-!
# Patterns as regular expressions

A pattern stands for a regular expression over the characters of a namespace: its segments with
`\.` between them and `(?:\..+)?` behind them, from the first character to the last. A wildcard
becomes `[^.]+` or `[^.]+(?:\.[^.]+)*`, any other segment the text itself. A piece of the expression
cannot match across a dot, so that a text matches the expression exactly if its segments match the
pattern.

* `Expression`, `Expression.language` : regular expressions and the texts that match them.
* `patternExpression` : the expression of a pattern.
* `append_mem_mul_iff` : a word up to its first dot, and what comes behind it.
* `mem_behind_iff` : what comes behind a segment, along `matchesSegments`.
* `mem_patternExpression_iff` : the expression and the pattern match the same namespaces.
-/

namespace ApiContract

open Text Computability

/-! ## Regular expressions -/

/-- A regular expression over characters, with what the expressions of patterns need. -/
inductive Expression where
  /-- a text, each of its characters standing for itself -/
  | text (s : List Char)
  /-- `[^c]`, any character but one -/
  | anyBut (c : Char)
  /-- one expression and then another one -/
  | append (e f : Expression)
  /-- `e+` -/
  | oneOrMore (e : Expression)
  /-- `(?:e)*` -/
  | zeroOrMore (e : Expression)
  /-- `(?:e)?` -/
  | optional (e : Expression)

/-- The texts that match an expression from their first to their last character. -/
def Expression.language : Expression → Language Char
  | .text s => {s}
  | .anyBut c => {s | ∃ d, d ≠ c ∧ s = [d]}
  | .append e f => e.language * f.language
  | .oneOrMore e => e.language * e.language∗
  | .zeroOrMore e => e.language∗
  | .optional e => 1 + e.language

/-- The expression of a segment: `[^.]+` for one, `[^.]+(?:\.[^.]+)*` for many. -/
def PatternSegment.expression : PatternSegment → Expression
  | .literal text => .text text
  | .one => .oneOrMore (.anyBut '.')
  | .many =>
    .append (.oneOrMore (.anyBut '.'))
      (.zeroOrMore (.append (.text ['.']) (.oneOrMore (.anyBut '.'))))

/-- The expressions of segments with `\.` between them. -/
def joinedExpression : List PatternSegment → Expression
  | [] => .text []
  | [p] => p.expression
  | p :: next :: pattern =>
    .append p.expression (.append (.text ['.']) (joinedExpression (next :: pattern)))

/-- `(?:\..+)?`, where `.` is any character but a line break. -/
def nestedExpression : Expression :=
  .optional (.append (.text ['.']) (.oneOrMore (.anyBut '\n')))

/-- The expression of a pattern. -/
def patternExpression (pattern : List PatternSegment) : Expression :=
  .append (joinedExpression pattern) nestedExpression

/-! ## Words without a character, words behind a dot -/

variable {K M : Language Char} {s w : List Char}

theorem mem_kstar_anyBut {c : Char} : s ∈ (Expression.anyBut c).language∗ ↔ c ∉ s := by
  rw [Language.mem_kstar]
  constructor
  · rintro ⟨pieces, rfl, hpieces⟩ hc
    obtain ⟨piece, hpiece, hc⟩ := List.mem_flatten.1 hc
    obtain ⟨d, hd, rfl⟩ := hpieces piece hpiece
    exact hd (List.mem_singleton.1 hc).symm
  · intro hc
    refine ⟨s.map ([·]), ?_, ?_⟩
    · induction s with
      | nil => rfl
      | cons d rest ih =>
        rw [List.map_cons, List.flatten_cons, ← ih (List.not_mem_of_not_mem_cons hc)]
        rfl
    · intro piece hpiece
      obtain ⟨d, hd, rfl⟩ := List.mem_map.1 hpiece
      exact ⟨d, fun h => hc (h ▸ hd), rfl⟩

theorem mem_oneOrMore_anyBut {c : Char} :
    s ∈ (Expression.oneOrMore (.anyBut c)).language ↔ s ≠ [] ∧ c ∉ s := by
  rw [Expression.language, Language.mem_mul]
  constructor
  · rintro ⟨_, ⟨d, hd, rfl⟩, rest, hrest, rfl⟩
    rw [mem_kstar_anyBut] at hrest
    exact ⟨nofun, fun hc => (List.mem_cons.1 hc).elim (fun h => hd h.symm) hrest⟩
  · rintro ⟨hne, hc⟩
    obtain ⟨d, rest, rfl⟩ := List.exists_cons_of_ne_nil hne
    rw [List.mem_cons, not_or] at hc
    exact ⟨[d], ⟨d, Ne.symm hc.1, rfl⟩, rest, mem_kstar_anyBut.2 hc.2, rfl⟩

/-- The words behind a dot. -/
def dotThen (M : Language Char) : Language Char := (Expression.text ['.']).language * M

theorem mem_dotThen_iff : w ∈ dotThen M ↔ ∃ v ∈ M, w = '.' :: v := by
  rw [dotThen, Language.mem_mul]
  constructor
  · rintro ⟨_, rfl, v, hv, rfl⟩
    exact ⟨v, hv, rfl⟩
  · rintro ⟨v, hv, rfl⟩
    exact ⟨['.'], rfl, v, hv, rfl⟩

theorem cons_mem_dotThen_iff : '.' :: w ∈ dotThen M ↔ w ∈ M := by
  rw [mem_dotThen_iff]
  constructor
  · rintro ⟨v, hv, h⟩
    exact (List.cons.inj h).2 ▸ hv
  · exact fun hw => ⟨w, hw, rfl⟩

theorem nil_not_mem_dotThen : [] ∉ dotThen M := by
  rw [mem_dotThen_iff]
  rintro ⟨v, -, h⟩
  cases h

/-- Nothing at all, or something behind a dot. -/
def IsTail (w : List Char) : Prop := w = [] ∨ ∃ v, w = '.' :: v

/-- Segments of a namespace, each behind a dot. -/
def dotted (segments : List (List Char)) : List Char := segments.flatMap ('.' :: ·)

theorem dotted_cons (segment : List Char) (rest : List (List Char)) :
    dotted (segment :: rest) = '.' :: (segment ++ dotted rest) := rfl

theorem isTail_dotted (segments : List (List Char)) : IsTail (dotted segments) := by
  cases segments with
  | nil => exact Or.inl rfl
  | cons segment rest => exact Or.inr ⟨_, rfl⟩

theorem isTail_of_mem_dotThen (h : w ∈ dotThen M) : IsTail w := by
  obtain ⟨v, -, rfl⟩ := mem_dotThen_iff.1 h
  exact Or.inr ⟨v, rfl⟩

/-- A word without dots ends where a tail begins. -/
theorem append_tail_cancel {s' t t' : List Char} (hs : '.' ∉ s) (hs' : '.' ∉ s') (ht : IsTail t)
    (ht' : IsTail t') (h : s ++ t = s' ++ t') : s = s' ∧ t = t' := by
  rcases ht with rfl | ⟨v, rfl⟩
  · rcases ht' with rfl | ⟨v', rfl⟩
    · simpa using h
    · exact absurd (by simp [show s = s' ++ '.' :: v' by simpa using h]) hs
  · rcases ht' with rfl | ⟨v', rfl⟩
    · exact absurd (by simp [show s' = s ++ '.' :: v by simpa using h.symm]) hs'
    · obtain ⟨rfl, rfl⟩ := append_cons_cancel hs hs' h
      exact ⟨rfl, rfl⟩

/-- If the words of `K` have no dots and those of `M` are tails, there is one way only to take a
text apart. -/
theorem append_mem_mul_iff (hK : ∀ v ∈ K, '.' ∉ v) (hM : ∀ v ∈ M, IsTail v) (hs : '.' ∉ s)
    (hw : IsTail w) : s ++ w ∈ K * M ↔ s ∈ K ∧ w ∈ M := by
  constructor
  · intro h
    obtain ⟨v, hv, t, ht, heq⟩ := Language.mem_mul.1 h
    obtain ⟨rfl, rfl⟩ := append_tail_cancel (hK v hv) hs (hM t ht) hw heq
    exact ⟨hv, ht⟩
  · exact fun h => Language.append_mem_mul h.1 h.2

theorem dotted_cons_mem_iff {segment : List Char} {rest : List (List Char)}
    (hK : ∀ v ∈ K, '.' ∉ v) (hM : ∀ v ∈ M, IsTail v) (hs : '.' ∉ segment) :
    dotted (segment :: rest) ∈ dotThen (K * M) ↔ segment ∈ K ∧ dotted rest ∈ M := by
  rw [dotted_cons, cons_mem_dotThen_iff, append_mem_mul_iff hK hM hs (isTail_dotted rest)]

/-! ## The expression of a pattern -/

/-- What stands behind a segment: the other segments of the pattern, each behind a dot, and then
what is nested below them. -/
def behind : List PatternSegment → Language Char
  | [] => nestedExpression.language
  | p :: pattern => dotThen (p.expression.language * behind pattern)

theorem isTail_of_mem_behind {pattern : List PatternSegment} (h : w ∈ behind pattern) :
    IsTail w := by
  cases pattern with
  | nil =>
    rcases (Language.mem_add _ _ _).1 h with h | h
    · exact Or.inl h
    · exact isTail_of_mem_dotThen h
  | cons p pattern => exact isTail_of_mem_dotThen h

/-- A dot and the expression of a pattern. -/
theorem dotThen_patternExpression {pattern : List PatternSegment} (h : pattern ≠ []) :
    dotThen (patternExpression pattern).language = behind pattern := by
  induction pattern with
  | nil => exact absurd rfl h
  | cons p pattern ih =>
    cases pattern with
    | nil => rfl
    | cons next pattern =>
      rw [behind, ← ih (List.cons_ne_nil next pattern)]
      simp only [patternExpression, joinedExpression, Expression.language, dotThen, mul_assoc]

/-- Many segments are one, with nothing behind it or with many others. -/
theorem many_mul (M : Language Char) :
    PatternSegment.many.expression.language * M =
      PatternSegment.one.expression.language *
        (M + dotThen (PatternSegment.many.expression.language * M)) := by
  set one := PatternSegment.one.expression.language with hone
  have hmany : PatternSegment.many.expression.language =
      one * ((Expression.text ['.']).language * one)∗ := rfl
  set more := (Expression.text ['.']).language * one with hmore
  calc PatternSegment.many.expression.language * M
      = one * (1 + more * more∗) * M := by
        rw [hmany, Language.one_add_self_mul_kstar_eq_kstar]
    _ = one * (M + more * more∗ * M) := by rw [mul_assoc, add_mul, one_mul]
    _ = one * (M + dotThen (PatternSegment.many.expression.language * M)) := by
        simp only [hmany, dotThen, hmore, mul_assoc]

theorem mem_behind_nil_iff {segments : List (List Char)} (h : segments ≠ []) :
    dotted segments ∈ behind [] ↔ isNested segments = true := by
  obtain ⟨segment, rest, rfl⟩ := List.exists_cons_of_ne_nil h
  have hword : segment ++ dotted rest = [] ↔ segment :: rest = [[]] := by
    cases rest with
    | nil => simp [dotted]
    | cons next more => simp [dotted]
  have hlines : '\n' ∉ segment ++ dotted rest ↔ ∀ s ∈ segment :: rest, '\n' ∉ s := by
    simp [dotted]
  have hnested : behind [] = 1 + dotThen (Expression.oneOrMore (.anyBut '\n')).language := rfl
  rw [dotted_cons, hnested, Language.mem_add, Language.mem_one, cons_mem_dotThen_iff,
    mem_oneOrMore_anyBut, Ne, hword, hlines]
  simp [isNested]

/-- What stands behind a segment is matched segment by segment. -/
theorem mem_behind_iff {pattern : List PatternSegment} {segments : List (List Char)}
    (hpattern : ∀ text, .literal text ∈ pattern → '.' ∉ text)
    (hsegments : ∀ segment ∈ segments, '.' ∉ segment) :
    dotted segments ∈ behind pattern ↔ matchesSegments pattern segments = true := by
  have hone : ∀ v ∈ PatternSegment.one.expression.language, '.' ∉ v := fun v hv =>
    (mem_oneOrMore_anyBut.1 hv).2
  -- no word of the expression of a segment has a dot, so it ends where the segment does
  fun_induction matchesSegments pattern segments with
  | case1 => exact iff_of_true (Or.inl rfl) rfl
  | case2 segments hne => exact mem_behind_nil_iff hne
  | case3 => exact iff_of_false nil_not_mem_dotThen Bool.false_ne_true
  | case4 text pattern segment rest ih =>
    obtain ⟨hsegment, hrest⟩ := List.forall_mem_cons.1 hsegments
    have htext : ∀ v ∈ (PatternSegment.literal text).expression.language, '.' ∉ v := by
      rintro v rfl
      exact hpattern v (List.mem_cons_self ..)
    have hbehind : dotted rest ∈ behind pattern ↔ matchesSegments pattern rest = true :=
      ih (fun t ht => hpattern t (List.mem_cons_of_mem _ ht)) hrest
    rw [behind, dotted_cons_mem_iff htext (fun _ => isTail_of_mem_behind) hsegment, hbehind,
      Bool.and_eq_true, beq_iff_eq]
    rfl
  | case5 pattern segment rest ih =>
    obtain ⟨hsegment, hrest⟩ := List.forall_mem_cons.1 hsegments
    have hbehind : dotted rest ∈ behind pattern ↔ matchesSegments pattern rest = true :=
      ih (fun t ht => hpattern t (List.mem_cons_of_mem _ ht)) hrest
    rw [behind, dotted_cons_mem_iff hone (fun _ => isTail_of_mem_behind) hsegment, hbehind,
      PatternSegment.expression, mem_oneOrMore_anyBut]
    simp [hsegment]
  | case6 pattern segment rest ihlast ihmore =>
    obtain ⟨hsegment, hrest⟩ := List.forall_mem_cons.1 hsegments
    -- `**` itself matches across dots: `many_mul` leaves one segment of it, with more behind it
    have htails : ∀ v ∈ behind pattern + behind (.many :: pattern), IsTail v := fun v hv =>
      ((Language.mem_add _ _ _).1 hv).elim isTail_of_mem_behind isTail_of_mem_behind
    have hmany : behind (.many :: pattern) = dotThen (PatternSegment.one.expression.language *
        (behind pattern + behind (.many :: pattern))) :=
      congrArg dotThen (many_mul _)
    have hlast : dotted rest ∈ behind pattern ↔ matchesSegments pattern rest = true :=
      ihlast (fun t ht => hpattern t (List.mem_cons_of_mem _ ht)) hrest
    have hmore : dotted rest ∈ behind (.many :: pattern) ↔
        matchesSegments (.many :: pattern) rest = true := ihmore hpattern hrest
    rw [hmany, dotted_cons_mem_iff hone htails hsegment, Language.mem_add, hlast, hmore,
      PatternSegment.expression, mem_oneOrMore_anyBut]
    simp [hsegment]

/-- The expression of a pattern matches a namespace exactly if the pattern does. -/
theorem mem_patternExpression_iff {pattern : List PatternSegment} (hne : pattern ≠ [])
    (hpattern : ∀ text, .literal text ∈ pattern → '.' ∉ text) (name : List Char) :
    name ∈ (patternExpression pattern).language ↔
      matchesSegments pattern (splitOn '.' name) = true := by
  have hname : dotted (splitOn '.' name) = '.' :: name := by
    rw [dotted, ← cons_joinWith '.' (splitOn_ne_nil '.' name), joinWith_splitOn]
  rw [← mem_behind_iff hpattern fun _ => not_mem_of_mem_splitOn, hname,
    ← dotThen_patternExpression hne, cons_mem_dotThen_iff]

end ApiContract
