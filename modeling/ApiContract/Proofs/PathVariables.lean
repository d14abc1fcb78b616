import ApiContract.Proofs.CanonicalPaths
/-!
# Variables of paths

What the search for variables finds in a text: equations for each form that a text can begin with,
and the law that a slash divides the search. So the variables of a canonical path are those of the
text that it has the names of.
-/

namespace ApiContract

open Text

/-- A text that can be the name of a variable. -/
def IsVariableName (name : List Char) : Prop := name ≠ [] ∧ ∀ c ∈ name, isVariableChar c = true

@[simp] theorem variablesOf_nil : variablesOf [] = [] := by rw [variablesOf]

theorem variablesOf_cons_of_ne {c : Char} (hc : c ≠ '\x7b') (s : List Char) :
    variablesOf (c :: s) = variablesOf s := by
  rw [variablesOf, if_neg hc]

theorem variablesOf_append_of_not_mem {s : List Char} (h : '\x7b' ∉ s) (t : List Char) :
    variablesOf (s ++ t) = variablesOf t := by
  induction s with
  | nil => rfl
  | cons c rest ih =>
    rw [List.mem_cons, not_or] at h
    rw [List.cons_append, variablesOf_cons_of_ne (Ne.symm h.1), ih h.2]

theorem takeWhile_isVariableChar {name : List Char} (h : ∀ c ∈ name, isVariableChar c = true)
    {d : Char} (hd : isVariableChar d = false) (t : List Char) :
    (name ++ d :: t).takeWhile isVariableChar = name ∧
      (name ++ d :: t).dropWhile isVariableChar = d :: t := by
  rw [List.takeWhile_append_of_pos h, List.dropWhile_append_of_pos h, List.takeWhile_cons_of_neg,
    List.dropWhile_cons_of_neg]
  · simp
  · simp [hd]
  · simp [hd]

/-- A name in braces is a variable. -/
theorem variablesOf_variable {name : List Char} (h : IsVariableName name) (t : List Char) :
    variablesOf ('\x7b' :: (name ++ '\x7d' :: t)) = name :: variablesOf t := by
  obtain ⟨htake, hdrop⟩ := takeWhile_isVariableChar h.2 (d := '\x7d') rfl t
  rw [variablesOf, if_pos rfl]
  split
  · next after hafter =>
    rw [hdrop] at hafter
    obtain ⟨-, rfl⟩ := List.cons.inj hafter
    rw [htake, if_neg (by simp [h.1])]
  · next hother => exact absurd hdrop (hother t)

/-- A brace behind which no name stands in braces is passed over. -/
theorem variablesOf_brace {s : List Char}
    (h : ∀ name t, IsVariableName name → s ≠ name ++ '\x7d' :: t) :
    variablesOf ('\x7b' :: s) = variablesOf s := by
  rw [variablesOf, if_pos rfl]
  split
  · next after hafter =>
    dsimp only
    split
    · rfl
    · next hne =>
      have hs := (List.takeWhile_append_dropWhile (p := isVariableChar) (l := s)).symm
      rw [hafter] at hs
      exact absurd hs (h _ after ⟨by simpa using hne, List.all_eq_true.1 List.all_takeWhile⟩)
  · rfl

/-- A name in braces at the start of a text stands before the first slash. -/
theorem exists_of_append_slash {s t name u : List Char} (hn : IsVariableName name)
    (h : s ++ '/' :: t = name ++ '\x7d' :: u) : ∃ u', s = name ++ '\x7d' :: u' := by
  rcases List.append_eq_append_iff.1 h with ⟨more, hname, hmore⟩ | ⟨more, hs, hmore⟩
  · cases more with
    | nil => simp at hmore
    | cons c more =>
      obtain ⟨rfl, -⟩ := List.cons.inj hmore
      have hslash := hn.2 '/' (by simp [hname])
      cases hslash
  · cases more with
    | nil => simp at hmore
    | cons c more =>
      obtain ⟨rfl, -⟩ := List.cons.inj hmore
      exact ⟨more, hs⟩

/-- No variable goes across a slash. -/
theorem variablesOf_append_slash (s t : List Char) :
    variablesOf (s ++ '/' :: t) = variablesOf s ++ variablesOf t := by
  match s with
  | [] =>
    rw [List.nil_append, variablesOf_nil, List.nil_append]
    exact variablesOf_cons_of_ne (show '/' ≠ '\x7b' by decide) t
  | c :: rest =>
    by_cases hc : c = '\x7b'
    · subst hc
      -- a variable that closes before the slash is found with and without what stands behind it
      by_cases hname : ∃ name after, IsVariableName name ∧ rest = name ++ '\x7d' :: after
      · obtain ⟨name, after, hn, rfl⟩ := hname
        have hbraces : '\x7b' :: (name ++ '\x7d' :: after) ++ '/' :: t =
            '\x7b' :: (name ++ '\x7d' :: (after ++ '/' :: t)) := by simp
        rw [hbraces, variablesOf_variable hn, variablesOf_variable hn,
          variablesOf_append_slash after t, List.cons_append]
      · rw [variablesOf_brace fun name after hn hrest => hname ⟨name, after, hn, hrest⟩,
          List.cons_append, variablesOf_brace, variablesOf_append_slash rest t]
        intro name after hn hrest
        obtain ⟨u, hu⟩ := exists_of_append_slash hn hrest
        exact hname ⟨name, u, hn, hu⟩
    · rw [List.cons_append, variablesOf_cons_of_ne hc, variablesOf_cons_of_ne hc,
        variablesOf_append_slash rest t]
termination_by s.length

/-- The variables of a text are those of the names in it. -/
theorem variablesOf_eq_flatMap (s : List Char) :
    variablesOf s = (pathNames s).flatMap variablesOf := by
  have hpieces : ∀ pieces : List (List Char),
      variablesOf (joinWith '/' pieces) = (pieces.filter (· ≠ [])).flatMap variablesOf := by
    intro pieces
    induction pieces with
    | nil => exact variablesOf_nil
    | cons piece pieces ih =>
      have hpiece : variablesOf piece = ([piece].filter (· ≠ [])).flatMap variablesOf := by
        cases piece with
        | nil => simp
        | cons c rest => simp
      rw [← List.singleton_append, List.filter_append, List.flatMap_append, ← hpiece, ← ih]
      by_cases hlast : pieces = []
      · subst hlast
        simp [joinWith]
      · rw [List.singleton_append, joinWith_cons piece hlast, variablesOf_append_slash]
  rw [pathNames, ← hpieces, joinWith_splitOn]

/-- A canonical path has the variables of the text that it has the names of. -/
theorem variablesOf_canonicalPath (s : List Char) :
    variablesOf (canonicalPath s) = variablesOf (cleanedPath s) := by
  rw [variablesOf_eq_flatMap (canonicalPath s), canonicalPath_eq,
    pathNames_rootedPath (arePathNames_pathNames _), ← variablesOf_eq_flatMap]

end ApiContract
