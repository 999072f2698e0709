import ChipEight.Yaml.Node
import ChipEight.Yaml.Token

namespace ChipEight
namespace Yaml

/-!
Reading a document.

A collection is written in brackets or by indentation.  In an indented sequence every item hangs
on a dash in the column of the sequence; in an indented mapping every key stands in the column of
the mapping, and a sequence may hang directly under its key.  A name and a tag stand in front of the
node to which they belong.  A part that is not written at all is a plain scalar without a character.

The readers take a bound on the depth of their recursion, which the number of tokens supplies; no
document needs more.
-/

abbrev Reading := Node × List Token

/-- Read a part, unless one of the tokens follows in front of which it may be absent. -/
def orAbsent (ends : List Token) (read? : List Token -> Option Reading) (tokens : List Token) :
    Option Reading :=
  if tokens.head?.any (· ∈ ends) then some (.absent, tokens) else read? tokens

/-- What stands in front of a node. -/
structure Properties where
  number : Option Nat := none
  tag : Option Tag := none

namespace Properties

/-- Read what stands in front of a node, one name and one tag at most. -/
def read : List Token -> Properties × List Token
  | .anchor number :: .tag tag :: rest => (⟨some number, some tag⟩, rest)
  | .tag tag :: .anchor number :: rest => (⟨some number, some tag⟩, rest)
  | .anchor number :: rest => (⟨some number, none⟩, rest)
  | .tag tag :: rest => (⟨none, some tag⟩, rest)
  | tokens => (⟨none, none⟩, tokens)

def isEmpty (properties : Properties) : Bool :=
  properties.number.isNone && properties.tag.isNone

def apply (properties : Properties) (node : Node) : Node :=
  let node := properties.tag.elim node (fun tag => .tagged tag node)
  properties.number.elim node (fun number => .anchored number node)

end Properties

/-- Where a node stands, which decides about the forms that it may take. -/
inductive Setting where
  /-- Inside brackets: no indented collection. -/
  | bracketed
  | indented
  /-- In an entry of an indented mapping: also a sequence in the column of the mapping. -/
  | entry
deriving DecidableEq, Repr

def Setting.admits (setting : Setting) : Token -> Bool
  | .plain _ => true
  | .quoted _ => true
  | .openBracket => true
  | .openBrace => true
  | .openSequence => setting ≠ .bracketed
  | .openMapping => setting ≠ .bracketed
  | .dash => setting = .entry
  | _ => false

mutual

/-- A node: a reference, or contents, which need not be written behind a name or a tag. -/
def node : Nat -> Setting -> List Token -> Option Reading
  | 0, _, _ => none
  | depth + 1, setting, tokens =>
      match tokens with
      | .reference number :: rest => some (.reference number, rest)
      | tokens =>
          let (properties, rest) := Properties.read tokens
          if rest.head?.any setting.admits then
            (contents depth rest).map (fun (node, rest) => (properties.apply node, rest))
          else if properties.isEmpty then none
          else some (properties.apply .absent, rest)

def contents : Nat -> List Token -> Option Reading
  | 0, _ => none
  | depth + 1, tokens =>
      match tokens with
      | .plain text :: rest => some (.plain text, rest)
      | .quoted text :: rest => some (.quoted text, rest)
      | .openBracket :: .closeBracket :: rest => some (.sequence [], rest)
      | .openBracket :: rest => inlineItems depth [] rest
      | .openBrace :: .closeBrace :: rest => some (.mapping [], rest)
      | .openBrace :: rest => inlineEntries depth [] rest
      | .openSequence :: rest => indentedItems depth [] rest
      | .openMapping :: rest => indentedEntries depth [] rest
      | tokens => hangingItems depth [] tokens

/-- The value behind a key inside brackets that end as given; it need not be written. -/
def inlineValue : Nat -> Token -> List Token -> Option Reading
  | 0, _, _ => none
  | depth + 1, last, tokens =>
      match tokens with
      | .colon :: rest => orAbsent [.comma, last] (node depth .bracketed) rest
      | tokens => some (.absent, tokens)

/--
The key of a pair inside brackets, behind its mark.  A key that is not written takes the colon,
the comma or the bracket that follows its mark with it.
-/
def pairKey : Nat -> List Token -> Option Reading
  | 0, _ => none
  | depth + 1, tokens =>
      match tokens with
      | .colon :: rest => some (.absent, rest)
      | .comma :: rest => some (.absent, rest)
      | .closeBracket :: rest => some (.absent, rest)
      | tokens => node depth .bracketed tokens

/-- A sequence in brackets from an item on; a pair is a mapping of one entry. -/
def inlineItems : Nat -> List Node -> List Token -> Option Reading
  | 0, _, _ => none
  | depth + 1, items, tokens => do
      let (item, rest) ←
        match tokens with
        | .key :: rest => do
            let (key, rest) ← pairKey depth rest
            let (value, rest) ← inlineValue depth .closeBracket rest
            pure (Node.mapping [(key, value)], rest)
        | tokens => node depth .bracketed tokens
      match rest with
      | .comma :: .closeBracket :: rest => some (.sequence (item :: items).reverse, rest)
      | .closeBracket :: rest => some (.sequence (item :: items).reverse, rest)
      | .comma :: rest => inlineItems depth (item :: items) rest
      | _ => none

/-- A mapping in brackets from an entry on; an entry without a mark is a key alone. -/
def inlineEntries : Nat -> List (Node × Node) -> List Token -> Option Reading
  | 0, _, _ => none
  | depth + 1, entries, tokens => do
      let (entry, rest) ←
        match tokens with
        | .key :: rest => do
            let (key, rest) ← orAbsent [.colon, .comma, .closeBrace] (node depth .bracketed) rest
            let (value, rest) ← inlineValue depth .closeBrace rest
            pure ((key, value), rest)
        | tokens =>
            (node depth .bracketed tokens).map (fun (key, rest) => ((key, Node.absent), rest))
      match rest with
      | .comma :: .closeBrace :: rest => some (.mapping (entry :: entries).reverse, rest)
      | .closeBrace :: rest => some (.mapping (entry :: entries).reverse, rest)
      | .comma :: rest => inlineEntries depth (entry :: entries) rest
      | _ => none

/-- The items of an indented sequence, the last first. -/
def indentedItems : Nat -> List Node -> List Token -> Option Reading
  | 0, _, _ => none
  | depth + 1, items, tokens =>
      match tokens with
      | .dash :: rest => do
          let (item, rest) ← orAbsent [.dash, .close] (node depth .indented) rest
          indentedItems depth (item :: items) rest
      | .close :: rest => some (.sequence items.reverse, rest)
      | _ => none

/-- The items of a sequence that hangs under a key in the column of the key. -/
def hangingItems : Nat -> List Node -> List Token -> Option Reading
  | 0, _, _ => none
  | depth + 1, items, tokens =>
      match tokens with
      | .dash :: rest => do
          let (item, rest) ← orAbsent [.dash, .key, .colon, .close] (node depth .indented) rest
          hangingItems depth (item :: items) rest
      | tokens => some (.sequence items.reverse, tokens)

/-- The entries of an indented mapping, the last first. -/
def indentedEntries : Nat -> List (Node × Node) -> List Token -> Option Reading
  | 0, _, _ => none
  | depth + 1, entries, tokens =>
      let part := orAbsent [.key, .colon, .close] (node depth .entry)
      match tokens with
      | .key :: rest => do
          let (key, rest) ← part rest
          let (value, rest) ←
            match rest with
            | .colon :: rest => part rest
            | rest => some (Node.absent, rest)
          indentedEntries depth ((key, value) :: entries) rest
      | .close :: rest => some (.mapping entries.reverse, rest)
      | _ => none

end

/-- The contents of a text. -/
inductive Contents where
  /-- There is no document, only blanks and comments at most. -/
  | empty
  | document (root : Node)

/--
The contents that some tokens describe.  Directives need a mark of the document behind them, and
behind the document only marks of its end may follow.
-/
def contents? (tokens : List Token) : Option Contents := do
  let indented := node (4 * tokens.length + 4) .indented
  let marked := tokens.dropWhile (· == .directive)
  guard (tokens.head? != some .directive || marked.head? == some .documentStart)
  match marked with
  | [] => return .empty
  | tokens =>
      let (root, rest) ←
        match tokens with
        | [.documentStart] => pure (Node.absent, [])
        | .documentStart :: rest =>
            orAbsent [.documentStart, .documentEnd, .directive] indented rest
        | tokens => indented tokens
      guard (rest.all (· == .documentEnd))
      return .document root

def read? (text : String) : Option Contents := do
  guard (text.toList.all isAllowed)
  contents? (← tokens? (locate .start text.toList))

end Yaml
end ChipEight
