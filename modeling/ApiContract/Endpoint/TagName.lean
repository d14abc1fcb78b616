import ApiContract.Text.LetterCase
/-!
# Tag names

The operations of a handler are grouped under a tag. A handler without a tag of its own gets its
simple name in lower case, with a hyphen where a new word begins: `CarController` becomes
`car-controller`, `HTTPClient` becomes `http-client`.
-/

namespace ApiContract

open Text

/-- Whether a new word begins at an upper-case character, by the characters before and after it:
behind a lower-case letter or a digit always, within a run of upper-case letters only where a
lower-case letter follows. -/
def startsWord (previous : Option Char) (c : Char) (next : Option Char) : Bool :=
  match previous with
  | none => false
  | some p => isUpper c && (isLower p || p.isDigit || (isUpper p && next.any isLower))

/-- The hyphenated form of the text that follows `previous`. -/
def hyphenate (previous : Option Char) : List Char → List Char
  | [] => []
  | c :: rest =>
    (if startsWord previous c rest.head? then ['-'] else []) ++ lower c ++ hyphenate (some c) rest

/-- The hyphenated, lower-case form of a name. -/
def kebabCase (name : String) : String := String.ofList (hyphenate none name.toList)

end ApiContract
