import ApiContract.Proofs.JoinedPaths
import ApiContract.Proofs.PathVariables
import ApiContract.Proofs.UnboundVariables
/-!
# Path templates

A path template is made of literal text and of variables, each with or without a pattern that its
values have to match. Preparing the path drops the patterns and keeps the variables.

* `HasBalancedBraces` : what a pattern can be.
* `TemplatePiece`, `PathTemplate` : templates, from which `PathTemplate.toPath` makes a path.
* `stripPatterns_template` : a template is read piece by piece, and its patterns are dropped.
* `pathVariables_templates` : the variables of a prepared path are those of its templates.
* `templates_keep_variables` : the path, its variables and the reports on them, patterns or not.
-/

namespace ApiContract

open Text

/-! ## Templates -/

/-- No brace stands in a text. -/
def IsBraceless (s : List Char) : Prop := ∀ c ∈ s, c ≠ '\x7b' ∧ c ≠ '\x7d'

instance (s : List Char) : Decidable (IsBraceless s) :=
  List.decidableBAll (fun c => c ≠ '\x7b' ∧ c ≠ '\x7d') s

/-- Every brace in a text has its partner there. -/
inductive HasBalancedBraces : List Char → Prop
  | nil : HasBalancedBraces []
  | char {c : Char} {s : List Char} (ho : c ≠ '\x7b') (hc : c ≠ '\x7d')
      (hs : HasBalancedBraces s) : HasBalancedBraces (c :: s)
  | group {s t : List Char} (hs : HasBalancedBraces s) (ht : HasBalancedBraces t) :
      HasBalancedBraces ('\x7b' :: (s ++ '\x7d' :: t))

theorem IsBraceless.append {s t : List Char} (hs : IsBraceless s) (ht : HasBalancedBraces t) :
    HasBalancedBraces (s ++ t) := by
  induction s with
  | nil => exact ht
  | cons c rest ih =>
    obtain ⟨⟨ho, hc⟩, hrest⟩ := List.forall_mem_cons.1 hs
    exact .char ho hc (ih hrest)

/-- The pattern of a variable. -/
def VariablePattern : Type := { s : List Char // HasBalancedBraces s }

/-- A piece of a path template. -/
inductive TemplatePiece where
  | literal (chars : List Char) (h : IsBraceless chars)
  | placeholder (name : List Char) (hb : IsBraceless name) (hc : ':' ∉ name)
      (pattern : Option VariablePattern)

namespace TemplatePiece

/-- A piece as text. -/
def chars : TemplatePiece → List Char
  | .literal chars _ => chars
  | .placeholder name _ _ none => '\x7b' :: (name ++ ['\x7d'])
  | .placeholder name _ _ (some pattern) =>
    '\x7b' :: (name ++ ':' :: (pattern.val ++ ['\x7d']))

/-- A piece without its pattern. -/
def withoutPattern : TemplatePiece → TemplatePiece
  | .literal chars h => .literal chars h
  | .placeholder name hb hc _ => .placeholder name hb hc none

/-- The variable that is left of a piece: the safe characters of its name, if there are any and no
slash is one of them. -/
def captured? : TemplatePiece → Option (List Char)
  | .literal .. => none
  | .placeholder name _ _ _ =>
    let kept := name.filter isPathSafe
    if kept ≠ [] ∧ '/' ∉ kept then some kept else none

end TemplatePiece

/-- A path template. -/
abbrev PathTemplate : Type := List TemplatePiece

namespace PathTemplate

/-- A template as text. -/
def chars (t : PathTemplate) : List Char := t.flatMap TemplatePiece.chars

/-- The path that a template stands for. -/
def toPath (t : PathTemplate) : String := String.ofList t.chars

/-- A template without its patterns. -/
def withoutPatterns (t : PathTemplate) : PathTemplate := t.map TemplatePiece.withoutPattern

/-- The variables that are left of a template, in order. -/
def captures (t : PathTemplate) : List String :=
  (t.filterMap TemplatePiece.captured?).map String.ofList

end PathTemplate

/-! ## Patterns are dropped -/

/-- Outside of patterns all characters are kept but braces inside of braces. -/
theorem stripPatterns_of_braceless {depth : Nat} (hd : depth ≤ 1) {s : List Char}
    (hs : IsBraceless s) (hcolon : depth = 1 → ':' ∉ s) (t : List Char) :
    stripPatterns depth false (s ++ t) = s ++ stripPatterns depth false t := by
  induction s with
  | nil => rfl
  | cons c rest ih =>
    obtain ⟨⟨ho, hc⟩, hrest⟩ := List.forall_mem_cons.1 hs
    have hnot : ¬(c = ':' ∧ depth = 1) := by
      rintro ⟨rfl, h⟩
      exact hcolon h (List.mem_cons_self ..)
    rw [List.cons_append, stripPatterns, if_neg ho, if_neg fun h => hc h.1, if_neg hnot,
      if_neg (by simp; omega), ih hrest fun h hmem => hcolon h (List.mem_cons_of_mem _ hmem),
      List.cons_append]

/-- In a pattern, or deeper in braces, all is dropped until the brace is closed. -/
theorem stripPatterns_of_balanced {s : List Char} (hs : HasBalancedBraces s) {depth : Nat}
    {skipping : Bool} (hd : 0 < depth) (hskip : skipping = true ∨ 1 < depth) (t : List Char) :
    stripPatterns depth skipping (s ++ t) = stripPatterns depth skipping t := by
  induction hs generalizing depth skipping t with
  | nil => rfl
  | @char c s ho hc _ ih =>
    rw [List.cons_append, stripPatterns, if_neg ho, if_neg fun h => hc h.1]
    by_cases hcolon : c = ':' ∧ depth = 1
    · have hsome : skipping = true := hskip.resolve_right (by omega)
      rw [if_pos hcolon, hsome, ih hd (Or.inl rfl)]
    · rw [if_neg hcolon, if_pos hskip, ih hd hskip]
  | @group s u _ _ ihs iht =>
    have hopen : depth ≠ 0 := by omega
    have hinner : depth + 1 ≠ 1 := by omega
    rw [List.cons_append, List.append_assoc, stripPatterns, if_pos rfl, if_neg hopen,
      ihs (Nat.succ_pos depth) (Or.inr (by omega)), List.cons_append, stripPatterns,
      if_neg (by decide), if_pos ⟨rfl, Nat.succ_pos depth⟩, if_neg hinner, Nat.succ_sub_one,
      iht hd hskip]

namespace TemplatePiece

/-- A piece is read apart from what follows it, and its pattern is dropped. -/
theorem stripPatterns_chars (p : TemplatePiece) (t : List Char) :
    stripPatterns 0 false (p.chars ++ t) = p.withoutPattern.chars ++ stripPatterns 0 false t := by
  cases p with
  | literal chars h => exact stripPatterns_of_braceless (Nat.zero_le 1) h nofun t
  | placeholder name hb hc pattern =>
    have hname := stripPatterns_of_braceless (Nat.le_refl 1) hb fun _ => hc
    have hclose : stripPatterns 1 false ('\x7d' :: t) = '\x7d' :: stripPatterns 0 false t := rfl
    have hplain : stripPatterns 0 false ('\x7b' :: (name ++ ['\x7d'] ++ t)) =
        '\x7b' :: (name ++ ['\x7d']) ++ stripPatterns 0 false t := by
      show '\x7b' :: stripPatterns 1 false (name ++ ['\x7d'] ++ t) = _
      rw [List.append_assoc, hname, List.singleton_append, hclose]
      simp
    cases pattern with
    | none => exact hplain
    | some pattern =>
      -- from the colon on all is skipped, up to the brace that closes the variable
      have hskip : stripPatterns 1 false (':' :: (pattern.val ++ '\x7d' :: t)) =
          stripPatterns 1 false ('\x7d' :: t) :=
        stripPatterns_of_balanced pattern.property Nat.one_pos (Or.inl rfl) ('\x7d' :: t)
      refine Eq.trans ?_ hplain
      show '\x7b' :: stripPatterns 1 false (name ++ ':' :: (pattern.val ++ ['\x7d']) ++ t) =
        '\x7b' :: stripPatterns 1 false (name ++ ['\x7d'] ++ t)
      rw [List.append_assoc, hname, List.append_assoc, hname, List.cons_append, List.append_assoc,
        List.singleton_append, hskip]

theorem withoutPattern_twice (p : TemplatePiece) :
    p.withoutPattern.withoutPattern = p.withoutPattern := by
  cases p with
  | literal chars h => rfl
  | placeholder name hb hc pattern => rfl

/-- What a piece becomes is searched apart from what follows it, and its variable is found. -/
theorem variablesOf_chars (p : TemplatePiece) (t : List Char) :
    variablesOf (p.withoutPattern.chars.filter isPathSafe ++ t) =
      p.captured?.toList ++ variablesOf t := by
  cases p with
  | literal chars h =>
    refine variablesOf_append_of_not_mem (fun hmem => ?_) t
    exact (h _ (List.mem_filter.1 hmem).1).1 rfl
  | placeholder name hb hc pattern =>
    have hbraces : ∀ c ∈ name.filter isPathSafe, c ≠ '\x7b' ∧ c ≠ '\x7d' := fun c hmem =>
      hb c (List.mem_filter.1 hmem).1
    have hchars : (placeholder name hb hc pattern).withoutPattern.chars.filter isPathSafe ++ t =
        '\x7b' :: (name.filter isPathSafe ++ '\x7d' :: t) := by
      show ('\x7b' :: (name ++ ['\x7d'])).filter isPathSafe ++ t = _
      rw [List.filter_cons_of_pos rfl, List.filter_append]
      show '\x7b' :: (name.filter isPathSafe ++ ['\x7d'] ++ t) = _
      rw [List.append_assoc, List.singleton_append]
    rw [hchars, captured?]
    by_cases hkept : name.filter isPathSafe ≠ [] ∧ '/' ∉ name.filter isPathSafe
    · have hname : IsVariableName (name.filter isPathSafe) := by
        refine ⟨hkept.1, fun c hmem => ?_⟩
        rw [isVariableChar, Bool.and_eq_true, bne_iff_ne, bne_iff_ne]
        exact ⟨(hbraces c hmem).2, fun h => hkept.2 (h ▸ hmem)⟩
      rw [variablesOf_variable hname, if_pos hkept]
      rfl
    · -- the first closing brace ends the name, so no other variable can begin here
      have hnone : ∀ n u, IsVariableName n → name.filter isPathSafe ++ '\x7d' :: t ≠
          n ++ '\x7d' :: u := by
        intro n u hn h
        have hclose : '\x7d' ∉ n := fun hmem => absurd (hn.2 _ hmem) (by decide)
        obtain ⟨rfl, -⟩ := append_cons_cancel (fun hmem => (hbraces _ hmem).2 rfl) hclose h
        exact hkept ⟨hn.1, fun hmem => absurd (hn.2 _ hmem) (by decide)⟩
      rw [variablesOf_brace hnone, variablesOf_append_of_not_mem fun hmem => (hbraces _ hmem).1 rfl,
        variablesOf_cons_of_ne (by decide), if_neg hkept]
      rfl

end TemplatePiece

namespace PathTemplate

theorem stripPatterns_chars (p : PathTemplate) (t : List Char) :
    stripPatterns 0 false (p.chars ++ t) = p.withoutPatterns.chars ++ stripPatterns 0 false t := by
  induction p with
  | nil => rfl
  | cons piece rest ih =>
    show stripPatterns 0 false (piece.chars ++ chars rest ++ t) =
      piece.withoutPattern.chars ++ chars (withoutPatterns rest) ++ stripPatterns 0 false t
    rw [List.append_assoc, piece.stripPatterns_chars, ih, List.append_assoc]

theorem withoutPatterns_twice (p : PathTemplate) :
    p.withoutPatterns.withoutPatterns = p.withoutPatterns := by
  rw [withoutPatterns, withoutPatterns, List.map_map]
  exact List.map_congr_left fun piece _ => piece.withoutPattern_twice

theorem variablesOf_chars (p : PathTemplate) (t : List Char) :
    variablesOf (p.withoutPatterns.chars.filter isPathSafe ++ t) =
      p.filterMap TemplatePiece.captured? ++ variablesOf t := by
  induction p with
  | nil => rfl
  | cons piece rest ih =>
    show variablesOf ((piece.withoutPattern.chars ++ chars (withoutPatterns rest)).filter
      isPathSafe ++ t) = _
    rw [List.filter_append, List.append_assoc, piece.variablesOf_chars, ih, List.filterMap_cons]
    cases piece.captured? with
    | none => rfl
    | some name => rfl

end PathTemplate

/-! ## Paths made of templates -/

theorem toList_intercalate_toPath (ts : List PathTemplate) :
    ("/".intercalate (ts.map PathTemplate.toPath)).toList =
      joinWith '/' (ts.map PathTemplate.chars) := by
  induction ts with
  | nil => rfl
  | cons t ts ih =>
    by_cases hlast : ts = []
    · subst hlast
      exact String.toList_ofList
    · have hpaths : ts.map PathTemplate.toPath ≠ [] := by simpa using hlast
      have hchars : ts.map PathTemplate.chars ≠ [] := by simpa using hlast
      rw [List.map_cons, ← List.singleton_append, intercalate_append (by simp) hpaths, ih,
        List.map_cons, joinWith_cons _ hchars, String.intercalate_singleton, PathTemplate.toPath,
        String.toList_ofList]

/-- The patterns of joined templates are dropped, and all else is kept. -/
theorem stripPatterns_joinWith (ts : List PathTemplate) :
    stripPatterns 0 false (joinWith '/' (ts.map PathTemplate.chars)) =
      joinWith '/' (ts.map fun t => t.withoutPatterns.chars) := by
  induction ts with
  | nil => rfl
  | cons t ts ih =>
    by_cases hlast : ts = []
    · subst hlast
      have hself := t.stripPatterns_chars []
      simpa [joinWith, stripPatterns] using hself
    · have hchars : ts.map PathTemplate.chars ≠ [] := by simpa using hlast
      have hplain : (ts.map fun t => t.withoutPatterns.chars) ≠ [] := by simpa using hlast
      rw [List.map_cons, joinWith_cons _ hchars, t.stripPatterns_chars, List.map_cons,
        joinWith_cons _ hplain, ← ih]
      rfl

theorem variablesOf_joinWith (ts : List PathTemplate) :
    variablesOf ((joinWith '/' (ts.map fun t => t.withoutPatterns.chars)).filter isPathSafe) =
      ts.flatMap fun t => t.filterMap TemplatePiece.captured? := by
  induction ts with
  | nil => exact variablesOf_nil
  | cons t ts ih =>
    by_cases hlast : ts = []
    · subst hlast
      have hself := t.variablesOf_chars []
      simpa [joinWith] using hself
    · have hplain : (ts.map fun t => t.withoutPatterns.chars) ≠ [] := by simpa using hlast
      rw [List.map_cons, joinWith_cons _ hplain, List.filter_append, List.filter_cons_of_pos rfl,
        t.variablesOf_chars, variablesOf_cons_of_ne (by decide), ih, List.flatMap_cons]

/-- A prepared path is that of the templates without their patterns. -/
theorem preparePath_templates (ts : List PathTemplate) :
    preparePath (ts.map PathTemplate.toPath) =
      preparePath (ts.map fun t => t.withoutPatterns.toPath) := by
  have hpaths : (ts.map fun t => t.withoutPatterns.toPath) =
      (ts.map PathTemplate.withoutPatterns).map PathTemplate.toPath := by
    rw [List.map_map]
    rfl
  have hchars : (ts.map fun t => t.withoutPatterns.chars) =
      (ts.map PathTemplate.withoutPatterns).map fun t => t.withoutPatterns.chars := by
    rw [List.map_map]
    exact List.map_congr_left fun t _ => congrArg PathTemplate.chars t.withoutPatterns_twice.symm
  rw [hpaths, preparePath_eq, preparePath_eq (List.map _ (List.map _ _)), jointNames, jointNames,
    toList_intercalate_toPath, toList_intercalate_toPath, cleanedPath, cleanedPath,
    stripPatterns_joinWith, stripPatterns_joinWith, hchars]

/-- The variables of a prepared path are those of its templates. -/
theorem pathVariables_templates (ts : List PathTemplate) :
    pathVariables (preparePath (ts.map PathTemplate.toPath)) =
      ts.flatMap PathTemplate.captures := by
  rw [pathVariables, toList_preparePath, variablesOf_canonicalPath, toList_intercalate_toPath,
    cleanedPath, stripPatterns_joinWith, variablesOf_joinWith, List.map_flatMap]
  rfl

/-- The patterns of path templates are dropped and their variables are kept, in order. So of the
paths of a method that is extracted, those that are templates under a base path that is one have
reports on exactly the variables without a path parameter of their name. -/
theorem templates_keep_variables :
    (∀ ts : List PathTemplate, preparePath (ts.map PathTemplate.toPath) =
      preparePath (ts.map fun t => t.withoutPatterns.toPath)) ∧
    (∀ ts : List PathTemplate, pathVariables (preparePath (ts.map PathTemplate.toPath)) =
      ts.flatMap PathTemplate.captures) ∧
    ∀ (scope : Scope) (hooks : Hooks) (handler : TypeDescriptor) (base : PathTemplate)
      (tag : String) (m : MethodDescriptor) (route : Route) (operations : List Operation),
      (operationsOfMethod scope hooks handler base.toPath tag m route).result = .ok operations →
      ∃ body parameters, (bodyPosition hooks m).result = .ok body ∧
        (parametersOf scope hooks m body).result = .ok parameters ∧
        ∃ reports : String → List Event,
          (operationsOfMethod scope hooks handler base.toPath tag m route).unbound =
            route.methodPaths.flatMap reports ∧
          ∀ t : PathTemplate, t.toPath ∈ route.methodPaths →
            reports t.toPath = reportsOn handler m parameters
              (preparePath [base.toPath, t.toPath]) (base.captures ++ t.captures) := by
  refine ⟨preparePath_templates, pathVariables_templates, ?_⟩
  intro scope hooks handler base tag m route operations h
  obtain ⟨body, parameters, hbody, hparameters, hunbound⟩ := unbound_operationsOfMethod h
  refine ⟨body, parameters, hbody, hparameters, _, hunbound, fun t _ => ?_⟩
  have hvariables := pathVariables_templates [base, t]
  rw [List.map_cons, List.map_singleton, List.flatMap_cons, List.flatMap_singleton] at hvariables
  rw [hvariables]

/-- The base path `/shelves/{shelf}`. -/
def shelfPath : PathTemplate :=
  [.literal "/shelves/".toList (by decide),
    .placeholder "shelf".toList (by decide) (by decide) none]

/-- The path `{co py:[0-9/:]{2}}//{a/b}`: a nested pattern, a blank in a name, and a name that holds
a slash. -/
def copyPath : PathTemplate :=
  [.placeholder "co py".toList (by decide) (by decide)
      (some ⟨"[0-9/:]".toList ++ '\x7b' :: ("2".toList ++ '\x7d' :: []),
        IsBraceless.append (by decide) (.group (.char (by decide) (by decide) .nil) .nil)⟩),
    .literal "//".toList (by decide),
    .placeholder "a/b".toList (by decide) (by decide) none]

/-- A method that binds one of the variables of its path. -/
def copyMethod : MethodDescriptor where
  name := "copy"
  parameters := [{ name := "shelf", type := .text, directives := [.binding { location := .path }] }]
  directives := [.route (.ofPath copyPath.toPath [.get])]

/-- A handler on shelves. -/
def shelvesHandler : TypeDescriptor where
  name := "library.web.Shelves"
  directives := [.route (.base shelfPath.toPath)]
  methods := [copyMethod]

/-- The extraction of the method. -/
def copyOperations : Traced (List Operation) :=
  operationsOfMethod { graph := .empty, namespaces := ⟨[]⟩ } Hooks.none shelvesHandler
    shelfPath.toPath "shelves" copyMethod (.ofPath copyPath.toPath [.get])

/-- The variable that is bound and the one with a slash in it are not reported. -/
theorem templates_keep_variables_copies :
    ∃ operations, copyOperations.result = .ok operations ∧
      copyPath.toPath ∈ (Route.ofPath copyPath.toPath [.get]).methodPaths ∧
      copyOperations.unbound =
        [.unboundVariable "copy" "/shelves/\x7bshelf\x7d/\x7bcopy\x7d/\x7ba/b\x7d"
          "library.web.Shelves" "copy"] ∧
      ∃ body parameters, (bodyPosition Hooks.none copyMethod).result = .ok body ∧
        (parametersOf { graph := .empty, namespaces := ⟨[]⟩ } Hooks.none copyMethod body).result =
          .ok parameters ∧
        ∃ reports : String → List Event,
          copyOperations.unbound =
            (Route.ofPath copyPath.toPath [.get]).methodPaths.flatMap reports ∧
          reports copyPath.toPath = reportsOn shelvesHandler copyMethod parameters
            (preparePath [shelfPath.toPath, copyPath.toPath])
            (shelfPath.captures ++ copyPath.captures) := by
  obtain ⟨operations, hoperations⟩ := exists_eq_ok_of_toBool
    (show copyOperations.result.toBool = true by decide +kernel)
  have hmem : copyPath.toPath ∈ (Route.ofPath copyPath.toPath [.get]).methodPaths :=
    List.mem_singleton_self _
  obtain ⟨body, parameters, hbody, hparameters, reports, hunbound, hreports⟩ :=
    templates_keep_variables.2.2 _ _ _ _ _ _ _ _ hoperations
  exact ⟨operations, hoperations, hmem, by decide +kernel, body, parameters, hbody, hparameters,
    reports, hunbound, hreports copyPath hmem⟩

end ApiContract
