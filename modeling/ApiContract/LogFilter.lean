import ApiContract.Source.PlainScalar
import ApiContract.Text.Alphanumeric
import ApiContract.Text.Blank
import ApiContract.Text.RegularExpression
import ApiContract.Text.Split
import ApiContract.Trace
/-!
# Log filters

A log filter says which events are worth a line. It is a list of rules: `warn` holds for all events,
`apigen::schema=debug` for those whose origin starts so, and `[{message}]=info` for those with a
field of that name. The rule that says most about an event decides. Without a rule for it an event
is left out.

* `LogRule.ofText?` : what a rule says, unless it is malformed.
* `LogFilter.ofText?` : the filter that a text describes, unless a rule in it is malformed.
* `LogFilter.admits` : whether an event passes.
-/

namespace ApiContract

open Text

/-- How urgent an event has to be. -/
inductive Threshold where
  | off
  | error
  | warn
  | info
  | debug
  | trace
deriving DecidableEq, Repr

namespace Threshold

/-- Whether an event of a level is urgent enough. -/
def admits : Threshold → Level → Bool
  | .off, _ => false
  | .error, _ => false
  | .warn, level => level == .warn
  | .info, level => level != .debug
  | .debug, _ => true
  | .trace, _ => true

/-- All thresholds, each at the place of its number. -/
def all : List Threshold := [.off, .error, .warn, .info, .debug, .trace]

/-- The name of a threshold. -/
def name : Threshold → String
  | .off => "off"
  | .error => "error"
  | .warn => "warn"
  | .info => "info"
  | .debug => "debug"
  | .trace => "trace"

/-- The threshold that a word gives: its number, with a plus sign or none, or its name in any letter
case. -/
def ofWord? (word : List Char) : Option Threshold :=
  let digits := match word with
    | '+' :: rest => rest
    | word => word
  if digits ≠ [] ∧ digits.all Char.isDigit then all[natOfDecimal digits]?
  else
    let small := String.ofList (word.map Char.toLower)
    all.find? fun t => t.name == small

end Threshold

/-- A rule for the events whose origin starts in a given way and that have a given field, if the
rule names one. -/
structure LogRule where
  origin : List Char := []
  field : Option (List Char) := none
  threshold : Threshold
deriving DecidableEq, Repr

/-- Which events are worth a line. -/
abbrev LogFilter := List LogRule

namespace LogRule

/-- Whether a rule can start with a character. -/
def canStart (c : Char) : Bool := isAlphanumeric c || c == '-' || c == ':' || c == '_' || c == '['

/-- The rule that a word alone gives: a threshold for all events, or else an origin of which all
events pass. -/
def ofWord (word : List Char) : LogRule :=
  match Threshold.ofWord? word with
  | some threshold => { threshold }
  | none => { origin := word, threshold := .trace }

/-- The threshold behind an equals sign; nothing there means that all events pass. -/
def thresholdAfter? (word : List Char) : Option Threshold :=
  if word = [] then some .trace else Threshold.ofWord? word

/-- The threshold behind the brackets of a rule: `rest` follows them, and the text of the rule from
there on is `word`. -/
def thresholdBehind? (rest word : List Char) : Option Threshold :=
  match rest with
  | [] => some .trace
  | '=' :: _ => thresholdAfter? (word.drop 1)
  | _ => none

/-- Whether a text is a value that a field can be compared with: a number or a regular
expression. Of the numbers only those with a plus sign are no regular expressions. -/
def isFieldValue (value : List Char) : Bool :=
  match value with
  | '+' :: rest =>
    (decimalOfText? value).isSome ||
      ["inf", "infinity", "nan"].contains (String.ofList (rest.map Char.toLower))
  | value => isRegularExpression value

/-- The name of a field, and whether it is compared with a value. -/
def fieldOf? (text : List Char) : Option (List Char × Bool) :=
  match splitOn '=' text with
  | name :: value :: _ => if isFieldValue value then some (name, true) else none
  | _ => if text = [] then none else some (text, false)

/-- What a rule says. A rule about a span or about the value of a field is well formed, but says
nothing, for no event lies in a span.

The parts of a rule are found behind the blanks before it, but they are taken from the same places
of the text with these blanks. So a rule with blanks before it says nothing useful. -/
def ofText? (text : List Char) : Option (List LogRule) :=
  let rule := trim text
  let origin := rule.takeWhile fun c => c != '=' && c != '['
  let place := origin.length
  if rule.head?.any canStart then
    match rule.drop place with
    | [] => some [ofWord text]
    | '=' :: _ =>
      (thresholdAfter? (text.drop (place + 1))).map fun threshold =>
        [{ origin := text.take place, threshold }]
    | _ :: inside =>
      let span := inside.takeWhile fun c => c != '\x7b' && c != ']'
      let fieldPlace := place + span.length + 2
      match inside.drop span.length with
      | ']' :: rest => (thresholdBehind? rest (text.drop fieldPlace)).map fun _ => []
      | '\x7b' :: inside =>
        let field := inside.takeWhile (· != '\x7d')
        match inside.drop field.length with
        | '\x7d' :: ']' :: rest => do
          let (name, compared) ← fieldOf? ((text.drop fieldPlace).take field.length)
          let threshold ← thresholdBehind? rest (text.drop (fieldPlace + field.length + 2))
          if span = [] ∧ compared = false then
            return [{ origin := text.take place, field := some name, threshold }]
          return []
        | _ => none
      | _ => none
  else none

/-- Whether a rule is about an event. The one field of an event is its message. -/
def concerns (rule : LogRule) (e : Event) : Bool :=
  rule.origin.isPrefixOf e.origin.toList && rule.field.all (· == "message".toList)

/-- Whether a rule says no more about events than another does. -/
def saysNoMore (rule other : LogRule) : Bool :=
  rule.origin.length < other.origin.length ||
    (rule.origin.length == other.origin.length && (rule.field.isNone || other.field.isSome))

end LogRule

namespace LogFilter

/-- The filter with one rule for all events. -/
def overall (threshold : Threshold) : LogFilter := [{ threshold }]

/-- The filter that a text describes: rules with commas between them. -/
def ofText? (text : String) : Option LogFilter :=
  (((splitOn ',' text.toList).filter (· ≠ [])).mapM LogRule.ofText?).map List.flatten

/-- The rule that decides on an event: the one that says most about it, and of two that say the same
the later one. -/
def ruleFor? (f : LogFilter) (e : Event) : Option LogRule :=
  f.foldl (fun best rule =>
    if rule.concerns e && best.all (·.saysNoMore rule) then some rule else best) none

/-- Whether an event passes. -/
def admits (f : LogFilter) (e : Event) : Bool :=
  (f.ruleFor? e).any fun rule => rule.threshold.admits e.level

end LogFilter

end ApiContract
