import ApiContract.Endpoint.Path
import ApiContract.Text.Split
/-!
# Canonical paths

A canonical path begins with a slash, has safe characters only, no two slashes in a row and no slash
at its end, and opens no brace while another one is open. Preparing a path gives a canonical one and
leaves canonical ones as they are.

The passes of `canonicalPath` are looked at one by one. Each keeps what the next one relies on:

* `openBraces`, `HasFlatBraces` : how deep braces stand in a text. Only the braces count
  (`bracesOf`), and after the patterns only flat ones are left.
* `stripPatterns_append` : a text whose braces are closed is read apart from what follows it.
* `pathNames`, `rootedPath` : a path as a list of names; `canonicalPath_eq` is the closed form of
  the canonical path.
* `canonicalPath_eq_self_iff` : the canonical paths are those that are left as they are.
* `canonical_paths` : what preparing gives for any segments.
-/

namespace ApiContract

open Text

/-! ## Open braces -/

/-- How many braces are open after a character. A closing brace with nothing to close does not
count. -/
def bracesAfter (depth : Nat) (c : Char) : Nat :=
  if c = '\x7b' then depth + 1 else if c = '\x7d' then depth - 1 else depth

/-- How many braces are open behind a text, if `depth` are open before it. -/
def openBraces (depth : Nat) (s : List Char) : Nat := s.foldl bracesAfter depth

/-- No brace is opened in a text while another one is open, if `depth` are open before it. -/
def HasFlatBraces (depth : Nat) (s : List Char) : Prop :=
  ∀ before after, s = before ++ '\x7b' :: after → openBraces depth before = 0

/-- The braces of a text. -/
def bracesOf (s : List Char) : List Char := s.filter fun c => c == '\x7b' || c == '\x7d'

@[simp] theorem openBraces_cons (depth : Nat) (c : Char) (s : List Char) :
    openBraces depth (c :: s) = openBraces (bracesAfter depth c) s := rfl

theorem hasFlatBraces_nil (depth : Nat) : HasFlatBraces depth [] := by
  intro before after h
  simp at h

theorem hasFlatBraces_cons {depth : Nat} {c : Char} {s : List Char} :
    HasFlatBraces depth (c :: s) ↔
      (c = '\x7b' → depth = 0) ∧ HasFlatBraces (bracesAfter depth c) s := by
  constructor
  · intro h
    refine ⟨fun hc => h [] s (by rw [hc, List.nil_append]), fun before after hs => ?_⟩
    exact h (c :: before) after (by rw [hs, List.cons_append])
  · rintro ⟨hc, hs⟩ before after heq
    cases before with
    | nil => exact hc (List.cons.inj heq).1
    | cons b before =>
      obtain ⟨rfl, hrest⟩ := List.cons.inj heq
      exact hs before after hrest

/-- A character that neither opens nor closes a brace. -/
theorem bracesAfter_eq_self {depth : Nat} {c : Char} (ho : c ≠ '\x7b')
    (hc : ¬(c = '\x7d' ∧ 0 < depth)) : bracesAfter depth c = depth := by
  rw [bracesAfter, if_neg ho]
  split
  · next h =>
    have hd : depth = 0 := Nat.eq_zero_of_not_pos fun hd => hc ⟨h, hd⟩
    rw [hd]
  · rfl

theorem openBraces_bracesOf (depth : Nat) (s : List Char) :
    openBraces depth (bracesOf s) = openBraces depth s := by
  induction s generalizing depth with
  | nil => rfl
  | cons c rest ih =>
    rw [bracesOf, List.filter_cons, ← bracesOf]
    split
    · rw [openBraces_cons, openBraces_cons, ih]
    · next h =>
      simp only [Bool.or_eq_true, beq_iff_eq, not_or] at h
      rw [openBraces_cons, bracesAfter_eq_self h.1 fun hc => h.2 hc.1, ih]

theorem hasFlatBraces_bracesOf {depth : Nat} {s : List Char} :
    HasFlatBraces depth (bracesOf s) ↔ HasFlatBraces depth s := by
  induction s generalizing depth with
  | nil => rfl
  | cons c rest ih =>
    rw [bracesOf, List.filter_cons, ← bracesOf]
    split
    · rw [hasFlatBraces_cons, hasFlatBraces_cons, ih]
    · next h =>
      simp only [Bool.or_eq_true, beq_iff_eq, not_or] at h
      rw [hasFlatBraces_cons, bracesAfter_eq_self h.1 fun hc => h.2 hc.1, ih]
      simp [h.1]

/-! ## Variable patterns -/

/-- At most one brace is open at a time in what is left. -/
theorem hasFlatBraces_stripPatterns (depth : Nat) (skipping : Bool) (s : List Char) :
    HasFlatBraces (min depth 1) (stripPatterns depth skipping s) := by
  fun_induction stripPatterns depth skipping s
  case case1 depth skipping => exact hasFlatBraces_nil _
  case case2 skipping rest ih => exact hasFlatBraces_cons.2 ⟨fun _ => rfl, ih⟩
  case case3 depth skipping rest hd ih =>
    have hmin : min depth 1 = min (depth + 1) 1 := by omega
    exact hmin ▸ ih
  case case4 skipping c rest ho hc ih =>
    obtain ⟨rfl, -⟩ := hc
    exact hasFlatBraces_cons.2 ⟨fun h => absurd h ho, ih⟩
  case case5 depth skipping c rest ho hc hd ih =>
    have hmin : min depth 1 = min (depth - 1) 1 := by omega
    exact hmin ▸ ih
  case case6 depth skipping c rest ho hc hcolon ih => exact ih
  case case7 depth skipping c rest ho hc hcolon hskip ih => exact ih
  case case8 depth skipping c rest ho hc hcolon hskip ih =>
    refine hasFlatBraces_cons.2 ⟨fun h => absurd h ho, ?_⟩
    rw [bracesAfter_eq_self ho fun h => hc ⟨h.1, by omega⟩]
    exact ih

/-- A brace is open behind what is left if one is open behind the text. -/
theorem openBraces_stripPatterns (depth : Nat) (skipping : Bool) (s : List Char) :
    openBraces (min depth 1) (stripPatterns depth skipping s) = min (openBraces depth s) 1 := by
  -- of the braces that are open in the text, what is left of it has the outermost one
  fun_induction stripPatterns depth skipping s
  case case1 depth skipping => rfl
  case case2 skipping rest ih => exact ih
  case case3 depth skipping rest hd ih =>
    have hmin : min depth 1 = min (depth + 1) 1 := by omega
    rw [hmin, ih]
    rfl
  case case4 skipping c rest ho hc ih =>
    obtain ⟨rfl, -⟩ := hc
    exact ih
  case case5 depth skipping c rest ho hc hd ih =>
    have hmin : min depth 1 = min (depth - 1) 1 := by omega
    obtain ⟨rfl, -⟩ := hc
    rw [hmin, ih]
    rfl
  case case6 depth skipping c rest ho hc hcolon ih =>
    obtain ⟨rfl, -⟩ := hcolon
    exact ih
  case case7 depth skipping c rest ho hc hcolon hskip ih =>
    rw [ih, openBraces_cons, bracesAfter_eq_self ho hc]
  case case8 depth skipping c rest ho hc hcolon hskip ih =>
    rw [openBraces_cons, bracesAfter_eq_self ho fun h => hc ⟨h.1, by omega⟩, ih, openBraces_cons,
      bracesAfter_eq_self ho hc]

/-- Patterns are dropped from a text whose braces are closed and from what follows on their own. -/
theorem stripPatterns_append {depth : Nat} {skipping : Bool} {s : List Char}
    (hskip : skipping = true → 0 < depth) (hs : openBraces depth s = 0) (t : List Char) :
    stripPatterns depth skipping (s ++ t) =
      stripPatterns depth skipping s ++ stripPatterns 0 false t := by
  fun_induction stripPatterns depth skipping s
  case case1 depth skipping =>
    -- a pattern is only skipped while its brace is open
    obtain rfl : depth = 0 := hs
    cases skipping with
    | false => rfl
    | true => exact absurd (hskip rfl) (Nat.lt_irrefl 0)
  case case2 skipping rest ih =>
    rw [List.cons_append, stripPatterns, if_pos rfl, if_pos rfl, ih (fun _ => Nat.one_pos) hs,
      List.cons_append]
  case case3 depth skipping rest hd ih =>
    rw [List.cons_append, stripPatterns, if_pos rfl, if_neg hd,
      ih (fun _ => Nat.succ_pos depth) hs]
  case case4 skipping c rest ho hc ih =>
    obtain ⟨rfl, -⟩ := hc
    rw [List.cons_append, stripPatterns, if_neg ho, if_pos ⟨rfl, Nat.one_pos⟩, if_pos rfl,
      ih nofun hs, List.cons_append]
  case case5 depth skipping c rest ho hc hd ih =>
    obtain ⟨rfl, hpos⟩ := hc
    rw [List.cons_append, stripPatterns, if_neg ho, if_pos ⟨rfl, hpos⟩, if_neg hd,
      ih (fun _ => by omega) hs]
  case case6 depth skipping c rest ho hc hcolon ih =>
    rw [openBraces_cons, bracesAfter_eq_self ho hc] at hs
    rw [List.cons_append, stripPatterns, if_neg ho, if_neg hc, if_pos hcolon,
      ih (fun _ => by omega) hs]
  case case7 depth skipping c rest ho hc hcolon hdrop ih =>
    rw [openBraces_cons, bracesAfter_eq_self ho hc] at hs
    rw [List.cons_append, stripPatterns, if_neg ho, if_neg hc, if_neg hcolon, if_pos hdrop,
      ih hskip hs]
  case case8 depth skipping c rest ho hc hcolon hkeep ih =>
    rw [openBraces_cons, bracesAfter_eq_self ho hc] at hs
    rw [List.cons_append, stripPatterns, if_neg ho, if_neg hc, if_neg hcolon, if_neg hkeep,
      ih hskip hs, List.cons_append]

/-- A text without colons in which no brace stands inside of braces has no patterns. -/
theorem stripPatterns_eq_self {depth : Nat} {s : List Char} (hd : depth ≤ 1)
    (hs : HasFlatBraces depth s) (hcolon : ':' ∉ s) : stripPatterns depth false s = s := by
  induction s generalizing depth with
  | nil => rfl
  | cons c rest ih =>
    obtain ⟨hopen, hrest⟩ := hasFlatBraces_cons.1 hs
    rw [List.mem_cons, not_or] at hcolon
    rw [stripPatterns]
    by_cases ho : c = '\x7b'
    · obtain rfl := hopen ho
      subst ho
      rw [if_pos rfl, if_pos rfl, ih (Nat.le_refl 1) hrest hcolon.2]
    · by_cases hc : c = '\x7d' ∧ 0 < depth
      · obtain ⟨rfl, hpos⟩ := hc
        obtain rfl : depth = 1 := by omega
        rw [if_neg ho, if_pos ⟨rfl, hpos⟩, if_pos rfl, ih (Nat.zero_le 1) hrest hcolon.2]
      · rw [bracesAfter_eq_self ho hc] at hrest
        rw [if_neg ho, if_neg hc, if_neg fun h => hcolon.1 h.1.symm, if_neg (by simp; omega),
          ih hd hrest hcolon.2]

/-! ## Slashes -/

/-- The names in a path: what stands between its slashes and is not empty. -/
def pathNames (s : List Char) : List (List Char) := (splitOn '/' s).filter (· ≠ [])

/-- A slash and some names with slashes between them. -/
def rootedPath (names : List (List Char)) : List Char := '/' :: joinWith '/' names

/-- Names have characters, and no slash is one of them. -/
def ArePathNames (names : List (List Char)) : Prop := ∀ name ∈ names, name ≠ [] ∧ '/' ∉ name

theorem arePathNames_pathNames (s : List Char) : ArePathNames (pathNames s) := by
  intro name hname
  obtain ⟨hmem, hne⟩ := List.mem_filter.1 hname
  exact ⟨of_decide_eq_true hne, not_mem_of_mem_splitOn hmem⟩

theorem pathNames_append (s t : List Char) :
    pathNames (s ++ '/' :: t) = pathNames s ++ pathNames t := by
  rw [pathNames, splitOn_append_cons, List.filter_append, ← pathNames, ← pathNames]

theorem pathNames_cons (t : List Char) : pathNames ('/' :: t) = pathNames t :=
  pathNames_append [] t

theorem splitOn_rootedPath {names : List (List Char)} (h : ArePathNames names) (hnil : names ≠ []) :
    splitOn '/' (rootedPath names) = [] :: names := by
  rw [rootedPath, ← List.nil_append ('/' :: _), splitOn_append_cons,
    splitOn_joinWith hnil fun name hname => (h name hname).2]
  rfl

theorem pathNames_rootedPath {names : List (List Char)} (h : ArePathNames names) :
    pathNames (rootedPath names) = names := by
  by_cases hnil : names = []
  · subst hnil
    rfl
  · rw [pathNames, splitOn_rootedPath h hnil, List.filter_cons_of_neg (by simp),
      List.filter_eq_self]
    exact fun name hname => decide_eq_true (h name hname).1

/-- Behind a slash in a rooted path stands a name, unless the path is that slash. -/
theorem behind_slash {names : List (List Char)} (hn : ArePathNames names) {s t : List Char}
    (h : rootedPath names = s ++ '/' :: t) :
    (s = [] ∧ t = []) ∨ ∃ c rest, t = c :: rest ∧ c ≠ '/' := by
  by_cases hnil : names = []
  · subst hnil
    cases s with
    | nil => exact Or.inl ⟨rfl, (List.cons.inj h).2.symm⟩
    | cons c rest => simp [rootedPath, joinWith] at h
  · right
    have hpieces : [] :: names = splitOn '/' s ++ splitOn '/' t := by
      rw [← splitOn_append_cons, ← h, splitOn_rootedPath hn hnil]
    -- the pieces of `t` are the last ones, and only the first piece of the path is empty
    have hname : [] ∉ splitOn '/' t := by
      cases hs : splitOn '/' s with
      | nil => exact absurd hs (splitOn_ne_nil '/' s)
      | cons first pieces =>
        rw [hs] at hpieces
        obtain ⟨-, hnames⟩ := List.cons.inj hpieces
        intro hmem
        exact (hn [] (hnames ▸ List.mem_append_right pieces hmem)).1 rfl
    cases t with
    | nil => exact absurd (List.mem_singleton_self []) hname
    | cons c rest =>
      refine ⟨c, rest, rfl, fun hc => hname ?_⟩
      rw [splitOn, if_pos hc]
      exact List.mem_cons_self ..

theorem collapseSlashes_append {s : List Char} (hs : '/' ∉ s) (hne : s ≠ []) (afterSlash : Bool)
    (t : List Char) :
    collapseSlashes afterSlash (s ++ t) = s ++ collapseSlashes false t := by
  induction s generalizing afterSlash with
  | nil => exact absurd rfl hne
  | cons c rest ih =>
    rw [List.mem_cons, not_or] at hs
    rw [List.cons_append, collapseSlashes, if_neg (Ne.symm hs.1)]
    by_cases hrest : rest = []
    · subst hrest
      rfl
    · rw [ih hs.2 hrest, List.cons_append]

/-- What is left of slashes when runs of them are collapsed: one between two names, and one more
behind the last name if the text ends in one. -/
theorem collapseSlashes_joinWith {pieces : List (List Char)} (h : ∀ p ∈ pieces, '/' ∉ p) :
    collapseSlashes true (joinWith '/' pieces) = joinWith '/' (pieces.filter (· ≠ [])) ∨
      (pieces.filter (· ≠ []) ≠ [] ∧ collapseSlashes true (joinWith '/' pieces) =
        joinWith '/' (pieces.filter (· ≠ [])) ++ ['/']) := by
  induction pieces with
  | nil => exact Or.inl rfl
  | cons piece pieces ih =>
    rw [List.forall_mem_cons] at h
    by_cases hlast : pieces = []
    · subst hlast
      left
      by_cases hp : piece = []
      · simp [hp, joinWith, collapseSlashes]
      · have hself := collapseSlashes_append h.1 hp true []
        simpa [hp, joinWith, collapseSlashes] using hself
    · rw [joinWith_cons piece hlast]
      by_cases hp : piece = []
      · subst hp
        exact ih h.2
      · rw [List.filter_cons_of_pos (by simpa using hp), collapseSlashes_append h.1 hp]
        show piece ++ '/' :: collapseSlashes true (joinWith '/' pieces) = _ ∨
          _ ∧ piece ++ '/' :: collapseSlashes true (joinWith '/' pieces) = _
        -- the slash behind this piece stands before another name, or is the last one that is left
        rcases ih h.2 with hsame | ⟨hne, hmore⟩
        · rw [hsame]
          by_cases hnone : pieces.filter (· ≠ []) = []
          · right
            rw [hnone]
            exact ⟨by simp, by simp [joinWith]⟩
          · left
            rw [joinWith_cons piece hnone]
        · right
          rw [hmore, joinWith_cons piece hne]
          exact ⟨by simp, by simp⟩

theorem dropFinalSlash_append {s : List Char} (hs : s ≠ []) : dropFinalSlash (s ++ ['/']) = s := by
  have hlength : 0 < s.length := List.length_pos_iff.2 hs
  rw [dropFinalSlash, if_pos ⟨by simp; omega, List.getLast?_concat⟩, List.dropLast_concat]

theorem dropFinalSlash_rootedPath {names : List (List Char)} (h : ArePathNames names) :
    dropFinalSlash (rootedPath names) = rootedPath names := by
  rw [dropFinalSlash]
  split
  · next hlast =>
    obtain ⟨s, hs⟩ := List.getLast?_eq_some_iff.1 hlast.2
    rcases behind_slash h hs with ⟨rfl, -⟩ | ⟨c, rest, hnil, -⟩
    · rw [hs] at hlast
      exact absurd hlast.1 (Nat.lt_irrefl 1)
    · cases hnil
  · rfl

/-- The text of which a canonical path has the names. -/
def cleanedPath (s : List Char) : List Char := (stripPatterns 0 false s).filter isPathSafe

/-- A canonical path is made of names alone. -/
theorem canonicalPath_eq (s : List Char) :
    canonicalPath s = rootedPath (pathNames (cleanedPath s)) := by
  have hnames := arePathNames_pathNames (cleanedPath s)
  have hpieces : ∀ piece ∈ splitOn '/' (cleanedPath s), '/' ∉ piece := fun piece hp =>
    not_mem_of_mem_splitOn hp
  have hcollapse := collapseSlashes_joinWith hpieces
  rw [joinWith_splitOn, ← pathNames] at hcollapse
  rw [canonicalPath, ← cleanedPath]
  rcases hcollapse with hsame | ⟨-, hmore⟩
  · rw [hsame]
    exact dropFinalSlash_rootedPath hnames
  · rw [hmore, ← List.cons_append]
    exact dropFinalSlash_append (by simp)

/-! ## Canonical paths -/

/-- The characters of paths besides letters and digits. -/
def pathMarks : List Char := ['/', '\x7b', '\x7d', '-', '_', '.', '~']

/-- A path is in canonical form. -/
structure IsCanonicalPath (s : List Char) : Prop where
  rooted : s.head? = some '/'
  safe : ∀ c ∈ s, c.isAlphanum = true ∨ c ∈ pathMarks
  single : ¬ ['/', '/'] <:+: s
  ending : s.getLast? = some '/' → s = ['/']
  flat : HasFlatBraces 0 s

theorem isPathSafe_iff {c : Char} :
    isPathSafe c = true ↔ c.isAlphanum = true ∨ c ∈ pathMarks := by
  simp only [isPathSafe, pathMarks, Bool.or_eq_true, beq_iff_eq, List.mem_cons, List.not_mem_nil,
    or_false, or_assoc]

theorem bracesOf_append (s t : List Char) : bracesOf (s ++ t) = bracesOf s ++ bracesOf t :=
  List.filter_append ..

/-- Braces are safe. -/
theorem bracesOf_filter_isPathSafe (s : List Char) :
    bracesOf (s.filter isPathSafe) = bracesOf s := by
  rw [bracesOf, bracesOf, List.filter_filter]
  refine List.filter_congr fun c _ => ?_
  cases hc : c == '\x7b' || c == '\x7d' with
  | false => rfl
  | true =>
    rw [Bool.or_eq_true, beq_iff_eq, beq_iff_eq] at hc
    rcases hc with rfl | rfl <;> rfl

theorem bracesOf_collapseSlashes (afterSlash : Bool) (s : List Char) :
    bracesOf (collapseSlashes afterSlash s) = bracesOf s := by
  fun_induction collapseSlashes afterSlash s
  case case1 => rfl
  case case2 rest ih => exact ih
  case case3 rest hfirst ih => exact ih
  case case4 afterSlash c rest hc ih =>
    rw [← List.singleton_append, bracesOf_append, ih, ← bracesOf_append, List.singleton_append]

theorem bracesOf_dropFinalSlash (s : List Char) : bracesOf (dropFinalSlash s) = bracesOf s := by
  rw [dropFinalSlash]
  split
  · next h =>
    obtain ⟨t, rfl⟩ := List.getLast?_eq_some_iff.1 h.2
    rw [List.dropLast_concat, bracesOf_append]
    exact (List.append_nil _).symm
  · rfl

/-- Only the braces inside of braces are lost. -/
theorem bracesOf_canonicalPath (s : List Char) :
    bracesOf (canonicalPath s) = bracesOf (stripPatterns 0 false s) := by
  rw [canonicalPath, bracesOf_dropFinalSlash]
  show bracesOf (collapseSlashes true _) = _
  rw [bracesOf_collapseSlashes, bracesOf_filter_isPathSafe]

theorem collapseSlashes_sublist (afterSlash : Bool) (s : List Char) :
    (collapseSlashes afterSlash s).Sublist s := by
  fun_induction collapseSlashes afterSlash s
  case case1 => exact .slnil
  case case2 rest ih => exact ih.cons _
  case case3 rest hfirst ih => exact ih.cons_cons _
  case case4 afterSlash c rest hc ih => exact ih.cons_cons _

theorem dropFinalSlash_sublist (s : List Char) : (dropFinalSlash s).Sublist s := by
  rw [dropFinalSlash]
  split
  · exact List.dropLast_sublist s
  · exact .refl s

theorem isPathSafe_of_mem_canonicalPath {s : List Char} {c : Char} (h : c ∈ canonicalPath s) :
    isPathSafe c = true := by
  rcases List.mem_cons.1 ((dropFinalSlash_sublist _).mem h) with rfl | hc
  · rfl
  · exact (List.mem_filter.1 ((collapseSlashes_sublist true _).mem hc)).2

theorem isCanonicalPath_canonicalPath (s : List Char) : IsCanonicalPath (canonicalPath s) := by
  have hnames := arePathNames_pathNames (cleanedPath s)
  have hslash : ∀ {before after}, canonicalPath s = before ++ '/' :: after → _ := fun h =>
    behind_slash hnames ((canonicalPath_eq s).symm.trans h)
  refine ⟨?_, ?_, ?_, ?_, ?_⟩
  · rw [canonicalPath_eq]
    rfl
  · exact fun c hc => isPathSafe_iff.1 (isPathSafe_of_mem_canonicalPath hc)
  · rintro ⟨before, after, h⟩
    rcases hslash (by simpa using h.symm) with ⟨-, hnil⟩ | ⟨c, rest, hc, hne⟩
    · cases hnil
    · exact hne (List.cons.inj hc).1.symm
  · intro hlast
    obtain ⟨before, h⟩ := List.getLast?_eq_some_iff.1 hlast
    rcases hslash h with ⟨rfl, -⟩ | ⟨c, rest, hc, -⟩
    · exact h
    · cases hc
  · rw [← hasFlatBraces_bracesOf, bracesOf_canonicalPath, hasFlatBraces_bracesOf]
    exact hasFlatBraces_stripPatterns 0 false s

theorem openBraces_canonicalPath (s : List Char) :
    openBraces 0 (canonicalPath s) = min (openBraces 0 s) 1 := by
  rw [← openBraces_bracesOf, bracesOf_canonicalPath, openBraces_bracesOf]
  exact openBraces_stripPatterns 0 false s

theorem cleanedPath_eq_self {s : List Char} (h : IsCanonicalPath s) : cleanedPath s = s := by
  have hsafe : ∀ c ∈ s, isPathSafe c = true := fun c hc => isPathSafe_iff.2 (h.safe c hc)
  have hcolon : ':' ∉ s := fun hc => absurd (hsafe ':' hc) (by decide)
  rw [cleanedPath, stripPatterns_eq_self (Nat.zero_le 1) h.flat hcolon, List.filter_eq_self]
  exact hsafe

theorem rootedPath_pathNames {s : List Char} (h : IsCanonicalPath s) :
    rootedPath (pathNames s) = s := by
  obtain ⟨rest, rfl⟩ : ∃ rest, s = '/' :: rest := List.head?_eq_some_iff.1 h.rooted
  rw [pathNames_cons]
  by_cases hnil : rest = []
  · subst hnil
    rfl
  · have hpieces : [] ∉ splitOn '/' rest := by
      intro hmem
      obtain ⟨before, after, hs, rfl | ⟨more, rfl⟩⟩ := exists_of_nil_mem_splitOn hmem
      · have hroot := h.ending (by rw [hs, List.getLast?_concat])
        exact hnil (List.cons.inj hroot).2
      · exact h.single ⟨before, more, by rw [hs]; simp⟩
    have hfilter : pathNames rest = splitOn '/' rest := by
      rw [pathNames, List.filter_eq_self]
      exact fun piece hp => decide_eq_true fun hnone => hpieces (hnone ▸ hp)
    rw [hfilter, rootedPath, joinWith_splitOn]

theorem canonicalPath_eq_self_iff {s : List Char} : canonicalPath s = s ↔ IsCanonicalPath s := by
  constructor
  · intro h
    rw [← h]
    exact isCanonicalPath_canonicalPath s
  · intro h
    rw [canonicalPath_eq, cleanedPath_eq_self h, rootedPath_pathNames h]

theorem toList_preparePath (segments : List String) :
    (preparePath segments).toList = canonicalPath ("/".intercalate segments).toList :=
  String.toList_ofList

theorem preparePath_singleton (path : String) :
    preparePath [path] = String.ofList (canonicalPath path.toList) := rfl

/-- Every prepared path is canonical, and the canonical paths are those that preparing leaves as
they are. -/
theorem canonical_paths :
    (∀ segments, IsCanonicalPath (preparePath segments).toList) ∧
    (∀ path : String, preparePath [path] = path ↔ IsCanonicalPath path.toList) ∧
    ∀ segments, preparePath [preparePath segments] = preparePath segments := by
  have hcanonical : ∀ segments, IsCanonicalPath (preparePath segments).toList := fun segments =>
    toList_preparePath segments ▸ isCanonicalPath_canonicalPath _
  have hfixed : ∀ path : String, preparePath [path] = path ↔ IsCanonicalPath path.toList := by
    intro path
    rw [← canonicalPath_eq_self_iff, preparePath_singleton]
    constructor
    · intro h
      simpa using congrArg String.toList h
    · intro h
      rw [h, String.ofList_toList]
  exact ⟨hcanonical, hfixed, fun segments => (hfixed _).2 (hcanonical segments)⟩

end ApiContract
