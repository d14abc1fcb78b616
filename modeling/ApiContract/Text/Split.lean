/-!
# Splitting and joining

`splitOn` cuts a text at every occurrence of one character and `joinWith` puts the pieces back;
`joinWith_splitOn` says that nothing is lost, `splitOn_joinWith` that pieces are found again.
`splitLast` cuts at the last occurrence only.
-/

namespace ApiContract.Text

/-- The pieces of a text between the occurrences of `sep`; there is always at least one. -/
def splitOn (sep : Char) : List Char → List (List Char)
  | [] => [[]]
  | c :: rest =>
    if c = sep then [] :: splitOn sep rest
    else match splitOn sep rest with
      | [] => [[c]]
      | piece :: pieces => (c :: piece) :: pieces

/-- Pieces joined by `sep`. -/
def joinWith (sep : Char) : List (List Char) → List Char
  | [] => []
  | [piece] => piece
  | piece :: next :: pieces => piece ++ sep :: joinWith sep (next :: pieces)

/-- The text before and the text after the last occurrence of `sep`, if it occurs. -/
def splitLast (sep : Char) : List Char → Option (List Char × List Char)
  | [] => none
  | c :: rest =>
    match splitLast sep rest with
    | some (before, after) => some (c :: before, after)
    | none => if c = sep then some ([], rest) else none

/-- `s` without a final `ending`, if it ends so. -/
def dropEnding? (ending s : List Char) : Option (List Char) :=
  if ending.isSuffixOf s then some (s.take (s.length - ending.length)) else none

theorem splitOn_ne_nil (sep : Char) (s : List Char) : splitOn sep s ≠ [] := by
  cases s with
  | nil => simp [splitOn]
  | cons c rest =>
    rw [splitOn]
    split
    · simp
    · split <;> simp

theorem joinWith_splitOn (sep : Char) (s : List Char) : joinWith sep (splitOn sep s) = s := by
  induction s with
  | nil => rfl
  | cons c rest ih =>
    rw [splitOn]
    split
    · next h =>
      subst h
      cases hs : splitOn c rest with
      | nil => exact absurd hs (splitOn_ne_nil c rest)
      | cons piece pieces => rw [joinWith, ← hs, ih]; rfl
    · split
      · next hs => exact absurd hs (splitOn_ne_nil sep rest)
      · next piece pieces hs =>
        rw [hs] at ih
        cases pieces with
        | nil => simpa [joinWith] using ih
        | cons next more => simpa [joinWith] using ih

theorem splitOn_append_cons (sep : Char) (s t : List Char) :
    splitOn sep (s ++ sep :: t) = splitOn sep s ++ splitOn sep t := by
  induction s with
  | nil => simp [splitOn]
  | cons c rest ih =>
    rw [List.cons_append, splitOn, splitOn]
    split
    · rw [ih, List.cons_append]
    · cases hs : splitOn sep rest with
      | nil => exact absurd hs (splitOn_ne_nil sep rest)
      | cons piece pieces => rw [ih, hs]; rfl

theorem splitOn_of_not_mem {sep : Char} {s : List Char} (h : sep ∉ s) : splitOn sep s = [s] := by
  induction s with
  | nil => rfl
  | cons c rest ih =>
    rw [List.mem_cons, not_or] at h
    rw [splitOn, if_neg (Ne.symm h.1), ih h.2]

theorem not_mem_of_mem_splitOn {sep : Char} {s piece : List Char} (h : piece ∈ splitOn sep s) :
    sep ∉ piece := by
  induction s generalizing piece with
  | nil => simp_all [splitOn]
  | cons c rest ih =>
    rw [splitOn] at h
    split at h
    · rcases List.mem_cons.1 h with rfl | h
      · exact List.not_mem_nil
      · exact ih h
    · next hc =>
      cases hs : splitOn sep rest with
      | nil => exact absurd hs (splitOn_ne_nil sep rest)
      | cons first pieces =>
        rw [hs] at h ih
        rcases List.mem_cons.1 h with rfl | h
        · rw [List.mem_cons, not_or]
          exact ⟨Ne.symm hc, ih (List.mem_cons_self ..)⟩
        · exact ih (List.mem_cons_of_mem _ h)

theorem joinWith_cons {sep : Char} {pieces : List (List Char)} (piece : List Char)
    (h : pieces ≠ []) : joinWith sep (piece :: pieces) = piece ++ sep :: joinWith sep pieces := by
  cases pieces with
  | nil => exact absurd rfl h
  | cons next more => rfl

/-- Pieces without the separator in them are what the joined text is cut into. -/
theorem splitOn_joinWith {sep : Char} {pieces : List (List Char)} (hne : pieces ≠ [])
    (h : ∀ piece ∈ pieces, sep ∉ piece) : splitOn sep (joinWith sep pieces) = pieces := by
  induction pieces with
  | nil => exact absurd rfl hne
  | cons piece pieces ih =>
    rw [List.forall_mem_cons] at h
    by_cases hp : pieces = []
    · subst hp
      exact splitOn_of_not_mem h.1
    · rw [joinWith_cons piece hp, splitOn_append_cons, splitOn_of_not_mem h.1, ih hp h.2]
      rfl

theorem cons_joinWith (sep : Char) {pieces : List (List Char)} (h : pieces ≠ []) :
    sep :: joinWith sep pieces = pieces.flatMap (sep :: ·) := by
  induction pieces with
  | nil => exact absurd rfl h
  | cons piece pieces ih =>
    by_cases hp : pieces = []
    · subst hp
      simp [joinWith]
    · rw [joinWith_cons piece hp, List.flatMap_cons, ← ih hp, List.cons_append]

/-- Where a text has an empty piece, two separators stand side by side or one stands at its end. -/
theorem exists_of_nil_mem_splitOn {sep : Char} {s : List Char} (h : [] ∈ splitOn sep s) :
    ∃ before after, sep :: s = before ++ sep :: after ∧
      (after = [] ∨ ∃ rest, after = sep :: rest) := by
  obtain ⟨front, back, hpieces⟩ := List.mem_iff_append.1 h
  have hs := cons_joinWith sep (splitOn_ne_nil sep s)
  rw [joinWith_splitOn, hpieces, List.flatMap_append, List.flatMap_cons] at hs
  refine ⟨_, _, hs, ?_⟩
  cases back with
  | nil => exact Or.inl rfl
  | cons piece back => exact Or.inr ⟨_, rfl⟩

/-- A text has one part before its first separator. -/
theorem append_cons_cancel {sep : Char} {s s' t t' : List Char} (hs : sep ∉ s) (hs' : sep ∉ s')
    (h : s ++ sep :: t = s' ++ sep :: t') : s = s' ∧ t = t' := by
  have hpieces := congrArg (splitOn sep) h
  rw [splitOn_append_cons, splitOn_append_cons, splitOn_of_not_mem hs,
    splitOn_of_not_mem hs'] at hpieces
  obtain ⟨rfl, -⟩ := List.cons.inj hpieces
  exact ⟨rfl, (List.cons.inj (List.append_cancel_left h)).2⟩

theorem splitLast_eq_none {sep : Char} {s : List Char} (h : sep ∉ s) : splitLast sep s = none := by
  induction s with
  | nil => rfl
  | cons c rest ih =>
    rw [List.mem_cons, not_or] at h
    rw [splitLast, ih h.2]
    exact if_neg (Ne.symm h.1)

/-- A text is cut before the last piece. -/
theorem splitLast_append {sep : Char} (before : List Char) {after : List Char} (h : sep ∉ after) :
    splitLast sep (before ++ sep :: after) = some (before, after) := by
  induction before with
  | nil =>
    rw [List.nil_append, splitLast, splitLast_eq_none h]
    exact if_pos rfl
  | cons c rest ih => rw [List.cons_append, splitLast, ih]

theorem length_of_dropEnding? {ending s rest : List Char} (h : dropEnding? ending s = some rest) :
    rest.length = s.length - ending.length := by
  unfold dropEnding? at h
  split at h
  · cases h
    simp [List.length_take]
  · cases h

theorem dropEnding?_eq_some_iff {ending s rest : List Char} :
    dropEnding? ending s = some rest ↔ s = rest ++ ending := by
  rw [dropEnding?]
  constructor
  · intro h
    split at h
    · next hs =>
      obtain ⟨front, rfl⟩ := List.isSuffixOf_iff_suffix.1 hs
      simpa using h
    · cases h
  · rintro rfl
    have hs : ending.isSuffixOf (rest ++ ending) = true :=
      List.isSuffixOf_iff_suffix.2 (List.suffix_append rest ending)
    simp [hs]

end ApiContract.Text
