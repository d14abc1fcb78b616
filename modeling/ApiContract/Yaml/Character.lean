/-!
# Characters in YAML

The classes of characters that decide how a YAML text is read and written.
-/

namespace ApiContract.Yaml

/-- Line breaks: line feed, carriage return, next line, line separator, paragraph separator. -/
def isBreak (c : Char) : Bool :=
  c == '\n' || c == '\r' || c == '\u0085' || c == '\u2028' || c == '\u2029'

/-- Blanks within a line. -/
def isBlank (c : Char) : Bool := c == ' ' || c == '\t'

/-- Whether a text is at its end, or goes on with a blank or a line break. A null character counts
as the end. -/
def endsWord (s : List Char) : Bool :=
  match s with
  | [] => true
  | c :: _ => isBlank c || isBreak c || c == '\x00'

/-- Characters that are written as they are: neither control characters other than the line feed,
nor a byte order mark, nor the two codes at the end of the first plane that are no characters. -/
def isPrintable (c : Char) : Bool :=
  c == '\n' || (' ' ≤ c && c ≤ '~') || ('\u00a0' ≤ c && c ≤ '\ufffd' && c != '\ufeff') ||
    0x10000 ≤ c.toNat

/-- Characters that may stand in a YAML text at all. -/
def isAllowed (c : Char) : Bool :=
  c == '\t' || c == '\n' || c == '\r' || (' ' ≤ c && c ≤ '~') || c == '\u0085' ||
    ('\u00a0' ≤ c && c ≤ '\ufffd') || 0x10000 ≤ c.toNat

/-- Characters of anchors, of directive names and of tag handles. -/
def isWordChar (c : Char) : Bool := c.isAlphanum || c == '_' || c == '-'

end ApiContract.Yaml
