import ApiContract.Endpoint.Operations
import ApiContract.Proofs.CanonicalPaths
/-!
# Joined paths

Preparing a path and joining paths commute, as long as every brace that a part opens is closed in
it: what stands behind the part is then read as if nothing stood before it.

* `jointNames` : the names in the canonical path of some segments; `jointNames_append` is the law
  of composition.
* `preparePath_join` : the parts of a path may be prepared before they are joined.
* `joined_paths` : this, for any grouping of the segments and for the base paths of handlers.
-/

namespace ApiContract

open Text

/-- Every brace that some segments open is closed again in them. -/
def ClosesBraces (segments : List String) : Prop :=
  openBraces 0 ("/".intercalate segments).toList = 0

instance (segments : List String) : Decidable (ClosesBraces segments) :=
  inferInstanceAs (Decidable (_ = 0))

/-- The names in the canonical path of some segments. -/
def jointNames (segments : List String) : List (List Char) :=
  pathNames (cleanedPath ("/".intercalate segments).toList)

theorem preparePath_eq (segments : List String) :
    preparePath segments = String.ofList (rootedPath (jointNames segments)) := by
  rw [preparePath, canonicalPath_eq, ← jointNames]

theorem intercalate_append {a b : List String} (ha : a ≠ []) (hb : b ≠ []) :
    ("/".intercalate (a ++ b)).toList =
      ("/".intercalate a).toList ++ '/' :: ("/".intercalate b).toList := by
  rw [String.intercalate_append_of_ne_nil ha hb, String.toList_append, String.toList_append,
    List.append_assoc]
  rfl

theorem pathNames_cleanedPath_append {s : List Char} (hs : openBraces 0 s = 0) (t : List Char) :
    pathNames (cleanedPath (s ++ '/' :: t)) =
      pathNames (cleanedPath s) ++ pathNames (cleanedPath t) := by
  have hstrip := stripPatterns_append (show false = true → 0 < 0 from nofun) hs ('/' :: t)
  have hslash : cleanedPath ('/' :: t) = '/' :: cleanedPath t := rfl
  rw [cleanedPath, hstrip, List.filter_append, ← cleanedPath, ← cleanedPath, hslash,
    pathNames_append]

/-- The names in two lists of segments are those in one and then those in the other. -/
theorem jointNames_append {a : List String} (ha : ClosesBraces a) (b : List String) :
    jointNames (a ++ b) = jointNames a ++ jointNames b := by
  -- without segments on one side no slash is put between the two
  by_cases hna : a = []
  · subst hna
    rfl
  by_cases hnb : b = []
  · subst hnb
    rw [List.append_nil]
    exact (List.append_nil _).symm
  · rw [jointNames, intercalate_append hna hnb, pathNames_cleanedPath_append ha, ← jointNames,
      ← jointNames]

theorem jointNames_preparePath (segments : List String) :
    jointNames [preparePath segments] = jointNames segments := by
  have hcanonical := isCanonicalPath_canonicalPath ("/".intercalate segments).toList
  have hnames : ArePathNames (jointNames segments) := arePathNames_pathNames _
  rw [jointNames, String.intercalate_singleton, toList_preparePath, cleanedPath_eq_self hcanonical,
    canonicalPath_eq, ← jointNames, pathNames_rootedPath hnames]

/-- Closed braces stay closed. -/
theorem ClosesBraces.preparePath {segments : List String} (h : ClosesBraces segments) :
    ClosesBraces [preparePath segments] := by
  rw [ClosesBraces] at h
  rw [ClosesBraces, String.intercalate_singleton, toList_preparePath, openBraces_canonicalPath, h]
  rfl

/-- The parts of a path may be prepared before they are joined. -/
theorem preparePath_join {a : List String} (ha : ClosesBraces a) (b : List String) :
    preparePath (a ++ b) = preparePath [preparePath a, preparePath b] := by
  have hparts : jointNames [preparePath a, preparePath b] = jointNames a ++ jointNames b := by
    rw [← List.singleton_append, jointNames_append ha.preparePath, jointNames_preparePath,
      jointNames_preparePath]
  rw [preparePath_eq, preparePath_eq [_, _], hparts, jointNames_append ha]

/-- All segments together have the names of each group in turn. -/
theorem jointNames_flatten {groups : List (List String)}
    (h : ∀ group ∈ groups.dropLast, ClosesBraces group) :
    jointNames groups.flatten = jointNames (groups.map preparePath) := by
  induction groups with
  | nil => rfl
  | cons group groups ih =>
    by_cases hlast : groups = []
    · subst hlast
      simp [jointNames_preparePath]
    · rw [List.dropLast_cons_of_ne_nil hlast, List.forall_mem_cons] at h
      rw [List.flatten_cons, jointNames_append h.1, ih h.2, List.map_cons,
        ← List.singleton_append, jointNames_append h.1.preparePath, jointNames_preparePath]

/-- A base path counts through its canonical form alone. -/
theorem preparePath_congr_base {base base' : String} (hb : ClosesBraces [base])
    (hb' : ClosesBraces [base']) (h : preparePath [base] = preparePath [base']) (path : String) :
    preparePath [base, path] = preparePath [base', path] := by
  calc preparePath [base, path]
      = preparePath [preparePath [base], preparePath [path]] := preparePath_join hb [path]
    _ = preparePath [preparePath [base'], preparePath [path]] := by rw [h]
    _ = preparePath [base', path] := (preparePath_join hb' [path]).symm

variable {scope : Scope} {hooks : Hooks}

theorem operationsOnPaths_congr_base {base base' : String} (handler : TypeDescriptor)
    (m : MethodDescriptor) (route : Route) (template : Operation)
    (h : ∀ path, preparePath [base, path] = preparePath [base', path]) (paths : List String) :
    operationsOnPaths hooks handler m route base template paths =
      operationsOnPaths hooks handler m route base' template paths := by
  induction paths with
  | nil => rfl
  | cons path rest ih => rw [operationsOnPaths, operationsOnPaths, h path, ih]

theorem operationsOfMethods_congr_base {base base' : String} (handler : TypeDescriptor)
    (tag : String) (h : ∀ path, preparePath [base, path] = preparePath [base', path])
    (methods : List MethodDescriptor) :
    operationsOfMethods scope hooks handler base tag methods =
      operationsOfMethods scope hooks handler base' tag methods := by
  have hmethod : ∀ m route, operationsOfMethod scope hooks handler base tag m route =
      operationsOfMethod scope hooks handler base' tag m route := by
    intro m route
    simp only [operationsOfMethod, operationsOnPaths_congr_base handler m route _ h]
  induction methods with
  | nil => rfl
  | cons m rest ih => simp only [operationsOfMethods, hmethod, ih]

/-- Parts of a path may be prepared before they are joined, however the segments are grouped, if no
group but the last leaves a brace open. So all that a base path does to the operations of a handler,
and to what is reported about them, it does through its canonical form. -/
theorem joined_paths :
    (∀ a b : List String, ClosesBraces a →
      preparePath (a ++ b) = preparePath [preparePath a, preparePath b]) ∧
    (∀ groups : List (List String), (∀ group ∈ groups.dropLast, ClosesBraces group) →
      preparePath groups.flatten = preparePath (groups.map preparePath)) ∧
    ∀ (scope : Scope) (hooks : Hooks) (handler : TypeDescriptor) (tag base base' : String)
      (methods : List MethodDescriptor), ClosesBraces [base] → ClosesBraces [base'] →
      preparePath [base] = preparePath [base'] →
      operationsOfMethods scope hooks handler base tag methods =
        operationsOfMethods scope hooks handler base' tag methods := by
  refine ⟨fun a b ha => preparePath_join ha b, fun groups h => ?_, ?_⟩
  · rw [preparePath_eq, preparePath_eq (groups.map preparePath), jointNames_flatten h]
  · intro scope hooks handler tag base base' methods hb hb' h
    exact operationsOfMethods_congr_base handler tag (preparePath_congr_base hb hb' h) methods

/-- A pattern with braces in it, empty segments, and a brace that stays open at the end. -/
theorem joined_paths_shelves :
    (ClosesBraces ["/shelves//", "\x7bid:[0-9]\x7b3\x7d\x7d/"] ∧
      preparePath (["/shelves//", "\x7bid:[0-9]\x7b3\x7d\x7d/"] ++ ["", "copy \x7bx"]) =
        preparePath [preparePath ["/shelves//", "\x7bid:[0-9]\x7b3\x7d\x7d/"],
          preparePath ["", "copy \x7bx"]]) ∧
    ((∀ group ∈ [["/shelves//"], ["", "\x7bid:/\x7d"], ["\x7bx:/"]].dropLast,
        ClosesBraces group) ∧
      preparePath [["/shelves//"], ["", "\x7bid:/\x7d"], ["\x7bx:/"]].flatten =
        preparePath ([["/shelves//"], ["", "\x7bid:/\x7d"], ["\x7bx:/"]].map preparePath)) ∧
    ClosesBraces ["shelves//"] ∧ ClosesBraces ["/shelves"] ∧
    preparePath ["shelves//"] = preparePath ["/shelves"] ∧
    ∀ scope hooks handler tag methods,
      operationsOfMethods scope hooks handler "shelves//" tag methods =
        operationsOfMethods scope hooks handler "/shelves" tag methods := by
  have hclosed : ClosesBraces ["/shelves//", "\x7bid:[0-9]\x7b3\x7d\x7d/"] := by decide +kernel
  have hgroups : ∀ group ∈ [["/shelves//"], ["", "\x7bid:/\x7d"], ["\x7bx:/"]].dropLast,
      ClosesBraces group := by decide +kernel
  have hbase : ClosesBraces ["shelves//"] := by decide +kernel
  have hbase' : ClosesBraces ["/shelves"] := by decide +kernel
  have hsame : preparePath ["shelves//"] = preparePath ["/shelves"] := by decide +kernel
  refine ⟨⟨hclosed, joined_paths.1 _ _ hclosed⟩, ⟨hgroups, joined_paths.2.1 _ hgroups⟩, hbase,
    hbase', hsame, ?_⟩
  intro scope hooks handler tag methods
  exact joined_paths.2.2 scope hooks handler tag _ _ methods hbase hbase' hsame

end ApiContract
