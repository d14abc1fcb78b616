/-!
# Texts on a terminal

Lines of a log go to a terminal, which takes some control characters as orders. In such lines they
are written by their codes.

* `isOrder` : the characters that a terminal acts on, blanks and line ends apart.
* `shown` : a text with these characters written by their codes.
-/

namespace ApiContract.Text

/-- Whether a terminal takes a character as an order. -/
def isOrder (c : Char) : Bool :=
  ['\x07', '\x08', '\x0c', '\x1b', '\x7f'].contains c || ('\u0080' ≤ c && c ≤ '\u009f')

/-- A character as it is shown. -/
def shownChar (c : Char) : List Char :=
  if isOrder c then
    if c.toNat < 128 then ['\\', 'x', Nat.digitChar (c.toNat / 16), Nat.digitChar (c.toNat % 16)]
    else '\\' :: 'u' :: '\x7b' :: (Nat.toDigits 16 c.toNat ++ ['\x7d'])
  else [c]

/-- A text as it is shown. -/
def shown (s : String) : String := String.ofList (s.toList.flatMap shownChar)

end ApiContract.Text
