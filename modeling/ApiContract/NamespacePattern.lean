import ApiContract.Fault
import ApiContract.Names
import ApiContract.Text.Blank
/-!
# Namespace patterns

A pattern is a namespace whose segments may be wildcards: `*` stands for exactly one segment, `**`
for one or more. A pattern covers the namespaces it matches and all namespaces nested below them.

* `NamespacePattern.parse` : a pattern from its text.
* `matchesSegments` : whether a pattern covers a namespace, segment by segment.
* `coverings` : whether it covers the namespace and each part of it from some segment on, found
  without trying anything twice; `coverings_head?` says that this is the same.
* `NamespaceMatcher` : several patterns, of which one has to match.
-/

namespace ApiContract

open Text

/-- A segment of a pattern. -/
inductive PatternSegment where
  | literal (text : List Char)
  | one
  | many
deriving DecidableEq, Repr

/-- A pattern and the text that it was read from. -/
structure NamespacePattern where
  text : String
  segments : List PatternSegment
deriving DecidableEq, Repr

/-- Whether the segments left behind a match form a nested namespace: there is something behind the
dot, and all of it stands on one line. -/
def isNested (rest : List (List Char)) : Bool :=
  rest != [[]] && rest.all fun segment => !segment.contains '\n'

/-- Whether segments of a pattern match the start of a namespace of which the rest is nested. -/
def matchesSegments : List PatternSegment → List (List Char) → Bool
  | [], [] => true
  | [], rest => isNested rest
  | _ :: _, [] => false
  | .literal text :: pattern, segment :: rest => segment == text && matchesSegments pattern rest
  | .one :: pattern, segment :: rest => !segment.isEmpty && matchesSegments pattern rest
  | .many :: pattern, segment :: rest =>
    !segment.isEmpty && (matchesSegments pattern rest || matchesSegments (.many :: pattern) rest)

/-! ## All parts of a namespace at once -/

/-- Whether what is left of a namespace is nested, for each part of the namespace to its end. -/
def endings : List (List Char) → List Bool
  | [] => [true]
  | segment :: rest => isNested (segment :: rest) :: endings rest

/-- Whether a segment and the pattern behind it cover each part of a namespace, given which parts
the pattern behind it covers. -/
def PatternSegment.extend (p : PatternSegment) : List (List Char) → List Bool → List Bool
  | [], _ => [false]
  | segment :: rest, behind =>
    let later := p.extend rest behind.tail
    let covered := behind.tail.headD false
    let here := match p with
      | .literal text => segment == text && covered
      | .one => !segment.isEmpty && covered
      | .many => !segment.isEmpty && (covered || later.headD false)
    here :: later

/-- Whether a pattern covers each part of a namespace from some segment on, the whole namespace
first. -/
def coverings : List PatternSegment → List (List Char) → List Bool
  | [], segments => endings segments
  | p :: pattern, segments => p.extend segments (coverings pattern segments)

theorem coverings_cons (pattern : List PatternSegment) (segment : List Char)
    (rest : List (List Char)) :
    coverings pattern (segment :: rest) =
      matchesSegments pattern (segment :: rest) :: coverings pattern rest := by
  induction pattern generalizing segment rest with
  | nil => rfl
  | cons p pattern ih =>
    have head : ∀ (segments : List (List Char)),
        (coverings pattern segments).headD false = matchesSegments pattern segments := by
      intro segments
      cases segments with
      | nil => cases pattern <;> rfl
      | cons s r => rw [ih]; rfl
    have step : ∀ (segment : List Char) (rest : List (List Char)),
        coverings (p :: pattern) (segment :: rest) =
        (match p with
          | .literal text => segment == text && (coverings pattern rest).headD false
          | .one => !segment.isEmpty && (coverings pattern rest).headD false
          | .many => !segment.isEmpty && ((coverings pattern rest).headD false ||
              (coverings (p :: pattern) rest).headD false)) :: coverings (p :: pattern) rest := by
      intro segment rest
      show p.extend (segment :: rest) (coverings pattern (segment :: rest)) = _
      rw [ih]
      cases p <;> rfl
    induction rest generalizing segment with
    | nil =>
      rw [step, head]
      cases p <;> simp [matchesSegments, coverings, PatternSegment.extend]
    | cons s r ihr =>
      have later : (coverings (p :: pattern) (s :: r)).headD false =
          matchesSegments (p :: pattern) (s :: r) := by
        rw [ihr]
        rfl
      rw [step, head, later]
      cases p <;> simp [matchesSegments]

theorem coverings_head? (pattern : List PatternSegment) (segments : List (List Char)) :
    (coverings pattern segments).head? = some (matchesSegments pattern segments) := by
  cases segments with
  | nil => cases pattern <;> rfl
  | cons s r => rw [coverings_cons]; rfl

namespace NamespacePattern

/-- Reads a segment of the pattern `text`. -/
def parseSegment (text : String) (segment : List Char) :
    Except ConfigurationProblem PatternSegment :=
  if segment = ['*'] then .ok .one
  else if segment = ['*', '*'] then .ok .many
  else if segment = [] then .error (.emptySegment text)
  else if '*' ∈ segment then .error (.partialWildcard text)
  else .ok (.literal segment)

/-- Reads a pattern. Blanks around it do not count. -/
def parse (text : String) : Except ConfigurationProblem NamespacePattern :=
  ((splitOn '.' (trim text.toList)).mapM (parseSegment text)).map fun segments => ⟨text, segments⟩

/-- Whether a pattern covers a namespace. -/
def matchesNamespace (p : NamespacePattern) (name : String) : Bool :=
  (coverings p.segments (splitOn '.' name.toList)).headD false

theorem matchesNamespace_eq (p : NamespacePattern) (name : String) :
    p.matchesNamespace name = matchesSegments p.segments (splitOn '.' name.toList) := by
  have h := coverings_head? p.segments (splitOn '.' name.toList)
  rw [matchesNamespace, List.headD_eq_head?_getD, h]
  rfl

end NamespacePattern

/-- A set of patterns. -/
structure NamespaceMatcher where
  patterns : List NamespacePattern
deriving DecidableEq, Repr

namespace NamespaceMatcher

/-- Reads a set of patterns. -/
def ofTexts (texts : List String) : Except Fault NamespaceMatcher :=
  match texts.mapM NamespacePattern.parse with
  | .ok patterns => .ok ⟨patterns⟩
  | .error problem => .error (.configuration problem)

/-- Whether one of the patterns covers a namespace. -/
def matchesNamespace (m : NamespaceMatcher) (name : String) : Bool :=
  m.patterns.any (·.matchesNamespace name)

/-- Whether one of the patterns covers the namespace of a type. -/
def containsType (m : NamespaceMatcher) (typeName : String) : Bool :=
  m.matchesNamespace (namespaceOf typeName)

/-- Whether there are no patterns. -/
def isEmpty (m : NamespaceMatcher) : Bool := m.patterns.isEmpty

/-- The texts of the patterns. -/
def texts (m : NamespaceMatcher) : List String := m.patterns.map (·.text)

end NamespaceMatcher

end ApiContract
