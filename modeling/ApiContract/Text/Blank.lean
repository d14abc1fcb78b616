/-!
# White space

`isBlank` is Unicode's White_Space property; `trim` drops blanks at both ends of a text. Texts are
lists of characters here, so that the readers built on them recurse on the text itself.

* `length_trim_le` : trimming never lengthens a text, which bounds the readers that trim first.
* `IsTrimmed` : there are no blanks at either end. Trimming gives such texts (`isTrimmed_trim`) and
  leaves them alone (`trim_eq_self`); `exists_trimStart` and `exists_trimEnd` say what it drops.
-/

namespace ApiContract.Text

/-- Unicode's White_Space property. -/
def isBlank (c : Char) : Bool :=
  ('\t' ≤ c && c ≤ '\r') || c == ' ' || c == '\u0085' || c == '\u00a0' || c == '\u1680' ||
    ('\u2000' ≤ c && c ≤ '\u200a') || c == '\u2028' || c == '\u2029' || c == '\u202f' ||
    c == '\u205f' || c == '\u3000'

/-- A text without its leading blanks. -/
def trimStart (s : List Char) : List Char := s.dropWhile isBlank

/-- A text without its trailing blanks. -/
def trimEnd (s : List Char) : List Char := (s.reverse.dropWhile isBlank).reverse

/-- A text without the blanks at its two ends. -/
def trim (s : List Char) : List Char := trimEnd (trimStart s)

/-- `trim` on strings. -/
def trimmed (s : String) : String := String.ofList (trim s.toList)

theorem length_dropWhile_le (p : Char → Bool) (s : List Char) :
    (s.dropWhile p).length ≤ s.length :=
  (List.dropWhile_sublist p).length_le

theorem length_trim_le (s : List Char) : (trim s).length ≤ s.length := by
  have h₁ := length_dropWhile_le isBlank (trimStart s).reverse
  have h₂ := length_dropWhile_le isBlank s
  simp only [trim, trimEnd, trimStart, List.length_reverse] at *
  omega

/-- A text has no blank at either end. -/
def IsTrimmed (s : List Char) : Prop :=
  (∀ c ∈ s.head?, isBlank c = false) ∧ ∀ c ∈ s.getLast?, isBlank c = false

theorem isTrimmed_iff {s : List Char} :
    (s.head?.all (!isBlank ·) && s.getLast?.all (!isBlank ·)) = true ↔ IsTrimmed s := by
  simp [IsTrimmed, Option.all_eq_true]

instance decidableIsTrimmed (s : List Char) : Decidable (IsTrimmed s) :=
  decidable_of_decidable_of_iff isTrimmed_iff

theorem IsTrimmed.append {s r : List Char} (hs : IsTrimmed s) (hr : IsTrimmed r) :
    IsTrimmed (s ++ r) := by
  constructor
  · intro c hc
    rw [List.head?_append] at hc
    cases h : s.head? with
    | none =>
      rw [h] at hc
      exact hr.1 c hc
    | some d =>
      rw [h] at hc
      exact hs.1 c (h.trans hc)
  · intro c hc
    rw [List.getLast?_append] at hc
    cases h : r.getLast? with
    | none =>
      rw [h] at hc
      exact hs.2 c hc
    | some d =>
      rw [h] at hc
      exact hr.2 c (h.trans hc)

theorem head?_trimStart (s : List Char) : ∀ c ∈ (trimStart s).head?, isBlank c = false := by
  intro c hc
  have h := List.head?_dropWhile_not isBlank s
  rw [← trimStart, hc] at h
  exact h

theorem trimStart_eq_self {s : List Char} (h : ∀ c ∈ s.head?, isBlank c = false) :
    trimStart s = s := by
  cases s with
  | nil => rfl
  | cons c rest =>
    have hc : isBlank c = false := h c rfl
    simp [trimStart, hc]

theorem trimEnd_eq_self {s : List Char} (h : ∀ c ∈ s.getLast?, isBlank c = false) :
    trimEnd s = s := by
  have hstart : trimStart s.reverse = s.reverse := trimStart_eq_self (by simpa using h)
  rw [trimEnd, ← trimStart, hstart, List.reverse_reverse]

theorem trim_eq_self {s : List Char} (h : IsTrimmed s) : trim s = s := by
  rw [trim, trimStart_eq_self h.1, trimEnd_eq_self h.2]

theorem exists_trimStart (s : List Char) :
    ∃ blanks, (∀ c ∈ blanks, isBlank c = true) ∧ s = blanks ++ trimStart s :=
  ⟨s.takeWhile isBlank, List.all_eq_true.1 List.all_takeWhile,
    List.takeWhile_append_dropWhile.symm⟩

theorem exists_trimEnd (s : List Char) :
    ∃ blanks, (∀ c ∈ blanks, isBlank c = true) ∧ s = trimEnd s ++ blanks := by
  obtain ⟨blanks, hb, h⟩ := exists_trimStart s.reverse
  refine ⟨blanks.reverse, fun c hc => hb c (List.mem_reverse.1 hc), ?_⟩
  rw [trimEnd, ← trimStart, ← List.reverse_append, ← h, List.reverse_reverse]

theorem isTrimmed_trim (s : List Char) : IsTrimmed (trim s) := by
  constructor
  · intro c hc
    -- the trimmed text begins as the text without its leading blanks does
    obtain ⟨blanks, -, h⟩ := exists_trimEnd (trimStart s)
    have hhead : (trimStart s).head? = some c := by
      rw [h, ← trim, List.head?_append, hc]
      rfl
    exact head?_trimStart s c hhead
  · intro c hc
    rw [trim, trimEnd, List.getLast?_reverse] at hc
    exact head?_trimStart _ c hc

theorem trim_trim (s : List Char) : trim (trim s) = trim s := trim_eq_self (isTrimmed_trim s)

theorem infix_trim (s : List Char) : trim s <:+: s := by
  obtain ⟨before, -, hstart⟩ := exists_trimStart s
  obtain ⟨after, -, hend⟩ := exists_trimEnd (trimStart s)
  exact ⟨before, after, by rw [trim, List.append_assoc, ← hend, ← hstart]⟩

/-- Blanks behind a trimmed text are all that trimming drops. -/
theorem trim_append_of_blanks {s blanks : List Char} (hs : IsTrimmed s)
    (hb : ∀ c ∈ blanks, isBlank c = true) : trim (s ++ blanks) = s := by
  cases s with
  | nil =>
    have hnil : trimStart (blanks ++ []) = trimStart [] := List.dropWhile_append_of_pos hb
    rw [List.append_nil] at hnil
    rw [List.nil_append, trim, hnil]
    rfl
  | cons c rest =>
    have hstart : trimStart (c :: rest ++ blanks) = c :: rest ++ blanks :=
      trimStart_eq_self hs.1
    have hend : trimEnd (c :: rest ++ blanks) = trimEnd (c :: rest) := by
      rw [trimEnd, trimEnd, List.reverse_append, List.dropWhile_append_of_pos]
      exact fun d hd => hb d (List.mem_reverse.1 hd)
    rw [trim, hstart, hend, trimEnd_eq_self hs.2]

end ApiContract.Text
