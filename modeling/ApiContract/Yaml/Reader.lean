import ApiContract.Assoc
import ApiContract.Source.PlainScalar
import ApiContract.Source.Reading
import ApiContract.Yaml.Token.Scanner
/-!
# From tokens to trees

`Yaml.readSource` reads a YAML text as a source tree. Each reader takes the tokens that are left and
gives what it read and what is then left; where the text stops being well formed, the tree ends in
`Tree.broken`, and nothing more is read.

A reference to an anchor stands in the tree as the number of the anchor. That number is the number
of names used for anchors before it; so an anchor that has the name of an earlier one may have the
number of a third one, and of all anchors with one number the last one counts.

* `node` : a scalar, a collection, or a reference to an anchor.
* `scalarOf` : a scalar with the value that its tag and its style give it.
* `readSource` : the tree of a text that holds one document, and whether nothing followed it.
-/

namespace ApiContract.Yaml

/-- What is left of a text, and what was learned on the way: what tag handles stand for, the numbers
of the anchors by name, how many anchors were met, their trees, each with its place among the
anchors and its number, and how many nodes were met. -/
structure Progress where
  tokens : List Token
  handles : List (String × String) := []
  names : Assoc String Nat := []
  opened : Nat := 0
  anchored : List (Nat × Nat × Tree) := []
  events : Nat := 0
  stopped : Bool := false
deriving Inhabited

/-- The most levels of nesting that are read. -/
def depthLimit : Nat := 128

/-- The most references that are followed for each part of a document. -/
def jumpLimit : Nat := 100

/-- A node that is not there. -/
def blankNode : Tree := .scalar { atom := .null }

/-- What a tag says. -/
def tagOf (uri : String) : Tag :=
  if uri = coreUri ++ "null" then .null
  else if uri = coreUri ++ "bool" then .bool
  else if uri = coreUri ++ "int" then .int
  else if uri = coreUri ++ "float" then .float
  else
    match uri.toList with
    | '!' :: [] => .variant "!"
    | '!' :: name => .variant (String.ofList name)
    | _ => .other

/-- The value of a scalar. Without a tag a plain scalar means what its word means, and any other its
text. -/
def atomOf (tag : Option Tag) (form : ScalarForm) (word : String) : Atom :=
  let s := word.toList
  match tag with
  | none => if form = .plain then .ofPlain s else .text word
  | some .null => if isNullWord word then .null else .other
  | some .bool => ((boolOfText? word).map Atom.bool).getD .other
  | some .int => ((intOfText? s).bind Atom.ofInt?).getD .other
  | some .float => ((realOfText? s).map Atom.float).getD .other
  | some (.variant _) => .other
  | some .other => .text word

/-- How a scalar of a style is set. -/
def formOf : ScalarStyle → ScalarForm
  | .plain => .plain
  | .literal => .literal
  | _ => .quoted

/-- A scalar. -/
def scalarOf (tag : Option Tag) (style : ScalarStyle) (word : String) : Tree :=
  let form := formOf style
  .scalar { atom := atomOf tag form word, text := word, form, tag }

/-- A collection under a tag. -/
def collectionOf (tag : Option Tag) (t : Tree) : Tree :=
  if tag matches some (.variant _) then .marked t else t

namespace Progress

/-- Goes on with other tokens, having met a node. -/
def met (p : Progress) (tokens : List Token) : Progress :=
  { p with tokens, events := p.events + 1 }

/-- Goes on with other tokens. -/
def onto (p : Progress) (tokens : List Token) : Progress := { p with tokens }

/-- Stops where the text is no longer well formed. -/
def stop (p : Progress) : Progress := { p with stopped := true }

/-- What a tag with a handle stands for. -/
def tag? (p : Progress) (handle suffix : String) : Option Tag :=
  if handle = "" then some (tagOf suffix)
  else
    let known := p.handles ++ [("!", "!"), ("!!", coreUri)]
    (known.find? (·.1 == handle)).map fun (_, uri) => tagOf (uri ++ suffix)

/-- Names the node that follows. -/
def openAnchor (p : Progress) (anchor : Option String) : Progress :=
  match anchor with
  | some name => { p with names := p.names.insert name p.names.length, opened := p.opened + 1 }
  | none => p

/-- Keeps the tree of a node that was named when `start` was left. -/
def closeAnchor (p start : Progress) (anchor : Option String) (t : Tree) : Progress :=
  match anchor with
  | some _ => { p with anchored := (start.opened, start.names.length, t) :: p.anchored }
  | none => p

/-- The trees that anchors stand for. -/
def anchors (p : Progress) : Anchors :=
  (p.anchored.mergeSort fun a b => b.1 ≤ a.1).map Prod.snd

/-- Reads anchor and tag of a node, in either order. -/
def properties (p : Progress) : Option (Option String × Option Tag × Progress) :=
  let tagged (anchor : Option String) (handle suffix : String) (rest : List Token) :
      Option (Option String × Option Tag × Progress) :=
    (p.tag? handle suffix).map fun tag => (anchor, some tag, p.onto rest)
  match p.tokens with
  | .anchor name :: .tag handle suffix :: rest => tagged (some name) handle suffix rest
  | .anchor name :: rest => some (some name, none, p.onto rest)
  | .tag handle suffix :: .anchor name :: rest => tagged (some name) handle suffix rest
  | .tag handle suffix :: rest => tagged none handle suffix rest
  | _ => some (none, none, p)

end Progress

/-- Whether a key, a value or an item ends the node before it, or stands where a node is missing. -/
def Token.endsBlockNode : Token → Bool
  | .key | .value | .blockEnd => true
  | _ => false

/-- Whether a node inside brackets, which end in `close`, is missing before a token. -/
def Token.endsFlowNode (close : Token) (t : Token) : Bool := t == .flowEntry || t == close

mutual

/-- A node. `block` says that it may be a block collection, and `indentless` that it may be a list
whose dashes stand in the column of its key. -/
def node (fuel : Nat) (block indentless : Bool) (p : Progress) : Tree × Progress :=
  match fuel with
  | 0 => (.broken, p.stop)
  | fuel + 1 =>
    match p.tokens with
    | .alias name :: rest =>
      match p.names.get? name with
      | some anchor => (.anchored anchor, p.met rest)
      | none => (.broken, p.stop)
    | _ =>
      match p.properties with
      | none => (.broken, p.stop)
      | some (anchor, tag, start) =>
        let opened := start.openAnchor anchor
        let finish (t : Tree) (p : Progress) : Tree × Progress :=
          (t, p.closeAnchor start anchor t)
        let list (content : List Tree × Progress) : Tree × Progress :=
          finish (collectionOf tag (.seq content.1)) content.2
        let table (content : List (Tree × Tree) × Progress) : Tree × Progress :=
          finish (collectionOf tag (.map content.1)) content.2
        let missing : Tree × Progress :=
          if anchor.isSome || tag.isSome then
            finish (scalarOf tag .plain "") (opened.met start.tokens)
          else (.broken, opened.stop)
        match start.tokens with
        | .scalar style word :: rest => finish (scalarOf tag style word) (opened.met rest)
        | .blockEntry :: rest =>
          if indentless then list (indentlessItems fuel (opened.met (.blockEntry :: rest)))
          else missing
        | .flowSequenceStart :: rest => list (flowItems fuel true (opened.met rest))
        | .flowMappingStart :: rest => table (flowEntries fuel true (opened.met rest))
        | .blockSequenceStart :: rest =>
          if block then list (blockItems fuel (opened.met rest)) else missing
        | .blockMappingStart :: rest =>
          if block then table (blockEntries fuel (opened.met rest)) else missing
        | [] => (.broken, opened.stop)
        | _ => missing

/-- The items of a block list up to its end. -/
def blockItems (fuel : Nat) (p : Progress) : List Tree × Progress :=
  match fuel with
  | 0 => ([.broken], p.stop)
  | fuel + 1 =>
    match p.tokens with
    | .blockEntry :: next :: rest =>
      let (t, p) : Tree × Progress := match next with
        | .blockEntry | .blockEnd => (blankNode, p.met (next :: rest))
        | _ => node fuel true false (p.onto (next :: rest))
      if p.stopped then ([t], p)
      else
        let (ts, p) := blockItems fuel p
        (t :: ts, p)
    | .blockEnd :: rest => ([], p.met rest)
    | _ => ([.broken], p.stop)

/-- The items of a list whose dashes stand in the column of its key. -/
def indentlessItems (fuel : Nat) (p : Progress) : List Tree × Progress :=
  match fuel with
  | 0 => ([.broken], p.stop)
  | fuel + 1 =>
    match p.tokens with
    | [] => ([.broken], p.stop)
    | .blockEntry :: [] => ([.broken], p.stop)
    | .blockEntry :: next :: rest =>
      let (t, p) : Tree × Progress := if next == .blockEntry || next.endsBlockNode
        then (blankNode, p.met (next :: rest))
        else node fuel true false (p.onto (next :: rest))
      if p.stopped then ([t], p)
      else
        let (ts, p) := indentlessItems fuel p
        (t :: ts, p)
    | tokens => ([], p.met tokens)

/-- A key or a value in a block. -/
def blockPart (fuel : Nat) (p : Progress) : Tree × Progress :=
  match fuel with
  | 0 => (.broken, p.stop)
  | fuel + 1 =>
    match p.tokens with
    | [] => (.broken, p.stop)
    | next :: rest =>
      if next.endsBlockNode then (blankNode, p.met (next :: rest)) else node fuel true true p

/-- The entries of a block table up to its end. -/
def blockEntries (fuel : Nat) (p : Progress) : List (Tree × Tree) × Progress :=
  match fuel with
  | 0 => ([(.broken, .broken)], p.stop)
  | fuel + 1 =>
    match p.tokens with
    | .key :: rest =>
      let (k, p) := blockPart fuel (p.onto rest)
      if p.stopped then ([(k, .broken)], p)
      else
        let (v, p) : Tree × Progress := match p.tokens with
          | .value :: rest => blockPart fuel (p.onto rest)
          | [] => (.broken, p.stop)
          | tokens => (blankNode, p.met tokens)
        if p.stopped then ([(k, v)], p)
        else
          let (es, p) := blockEntries fuel p
          ((k, v) :: es, p)
    | .blockEnd :: rest => ([], p.met rest)
    | _ => ([(.broken, .broken)], p.stop)

/-- The value behind a key inside brackets, which end in `close`, if there is one. -/
def flowValue (fuel : Nat) (close : Token) (p : Progress) : Tree × Progress :=
  match fuel with
  | 0 => (.broken, p.stop)
  | fuel + 1 =>
    match p.tokens with
    | [] => (.broken, p.stop)
    | .value :: [] => (.broken, p.stop)
    | .value :: next :: rest =>
      if next.endsFlowNode close then (blankNode, p.met (next :: rest))
      else node fuel false false (p.onto (next :: rest))
    | tokens => (blankNode, p.met tokens)

/-- The items of a list in brackets. An item may be a key with a value, which is a table of its
own. -/
def flowItems (fuel : Nat) (first : Bool) (p : Progress) : List Tree × Progress :=
  match fuel with
  | 0 => ([.broken], p.stop)
  | fuel + 1 =>
    match p.tokens with
    | .flowSequenceEnd :: rest => ([], p.met rest)
    | tokens =>
      let start := if first then some tokens else match tokens with
        | .flowEntry :: rest => some rest
        | _ => none
      match start with
      | none => ([.broken], p.stop)
      | some [] => ([.broken], p.stop)
      | some (.flowSequenceEnd :: rest) => ([], p.met rest)
      | some (.key :: rest) =>
        let (k, p) : Tree × Progress := match rest with
          | [] => (.broken, p.stop)
          | next :: more =>
            if next == .value || next.endsFlowNode .flowSequenceEnd
            then (blankNode, (p.met more).met more)
            else node fuel false false (p.met rest)
        if p.stopped then ([.map [(k, .broken)]], p)
        else
          let (v, p) := flowValue fuel .flowSequenceEnd p
          if p.stopped then ([.map [(k, v)]], p)
          else
            let (ts, p) := flowItems fuel false (p.met p.tokens)
            (.map [(k, v)] :: ts, p)
      | some tokens =>
        let (t, p) := node fuel false false (p.onto tokens)
        if p.stopped then ([t], p)
        else
          let (ts, p) := flowItems fuel false p
          (t :: ts, p)

/-- The entries of a table in braces. -/
def flowEntries (fuel : Nat) (first : Bool) (p : Progress) : List (Tree × Tree) × Progress :=
  match fuel with
  | 0 => ([(.broken, .broken)], p.stop)
  | fuel + 1 =>
    match p.tokens with
    | .flowMappingEnd :: rest => ([], p.met rest)
    | tokens =>
      let start := if first then some tokens else match tokens with
        | .flowEntry :: rest => some rest
        | _ => none
      match start with
      | none => ([(.broken, .broken)], p.stop)
      | some [] => ([(.broken, .broken)], p.stop)
      | some (.flowMappingEnd :: rest) => ([], p.met rest)
      | some (.key :: []) => ([(.broken, .broken)], p.stop)
      | some (.key :: next :: rest) =>
        let (k, p) : Tree × Progress := if next == .value || next.endsFlowNode .flowMappingEnd
          then (blankNode, p.met (next :: rest))
          else node fuel false false (p.onto (next :: rest))
        if p.stopped then ([(k, .broken)], p)
        else
          let (v, p) := flowValue fuel .flowMappingEnd p
          if p.stopped then ([(k, v)], p)
          else
            let (es, p) := flowEntries fuel false p
            ((k, v) :: es, p)
      | some tokens =>
        let (k, p) := node fuel false false (p.onto tokens)
        if p.stopped then ([(k, .broken)], p)
        else
          let (es, p) := flowEntries fuel false (p.met p.tokens)
          ((k, blankNode) :: es, p)

end

/-- Reads the directives of a document: at most one version, of the two that there are, and for each
tag handle at most one meaning. -/
def directives (version : Bool) (handles : List (String × String)) :
    List Token → Option (List (String × String) × List Token)
  | .version major minor :: rest =>
    if version || major != 1 || (minor != 1 && minor != 2) then none
    else directives true handles rest
  | .tagDirective handle uri :: rest =>
    if handles.any (·.1 == handle) then none
    else directives version (handles ++ [(handle, uri)]) rest
  | rest => some (handles, rest)

/-- Whether no second document follows the end of a document. -/
def endsStream (tokens : List Token) : Bool :=
  match tokens.dropWhile (· == .documentEnd) with
  | [.streamEnd] => true
  | _ => false

/-- A document without anything in it. -/
def blankSource (ended : Bool) : Source :=
  { tree := blankNode, ended, reading := .textual [] depthLimit }

/-- A text that is not well formed. -/
def brokenSource : Source :=
  { tree := .broken, ended := false, reading := .textual [] depthLimit }

/-- What a document reads as, from its first token on. -/
def document (tokens : List Token) (handles : List (String × String)) : Source :=
  let (tree, p) := node (3 * tokens.length + 3) true false { tokens, handles }
  { tree
    ended := !p.stopped && endsStream p.tokens
    reading := .textual p.anchors depthLimit
    anchors := jumpLimit * p.events }

/-- What a text reads as that holds one document. A text without anything is a document with a
blank node. -/
def readSource (text : String) : Source :=
  let s := match text.toList with
    | '\ufeff' :: rest => rest
    | s => s
  if s.any fun c => !isAllowed c then brokenSource
  else
    let tokens := Token.ofText s
    match tokens with
    | [] => brokenSource
    | .streamEnd :: _ => blankSource true
    | .version .. :: _ | .tagDirective .. :: _ | .documentStart :: _ =>
      match directives false [] tokens with
      | some (handles, .documentStart :: rest) =>
        match rest with
        | [] => brokenSource
        | .version .. :: _ | .tagDirective .. :: _ | .documentStart :: _ => blankSource false
        | .documentEnd :: _ | .streamEnd :: _ => blankSource (endsStream rest)
        | _ => document rest handles
      | _ => brokenSource
    | _ => document tokens []

end ApiContract.Yaml
