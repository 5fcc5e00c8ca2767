import AsyncLint.Source.SyntaxTree
import AsyncLint.Text.Pieces

/-!
# Shapes

The grammar sees no blanks and comments. It gives the shape of a tree: which nodes there are and how many tokens
stand where. A tree is the shape filled with the tokens of a source, in their order.

Blanks and comments before a node stand outside of it, except that some items take the comments directly before
them; those after its last token stand outside as well.
-/

namespace AsyncLint.Source

open AsyncLint.Text

/-- The shape of a tree. -/
inductive Shape where
  /-- As many tokens, taken as one. -/
  | tokens (count : Nat)
  /-- As many characters of the next token, taken as a token of its own. -/
  | part (kind : TokenKind) (length : Nat)
  | node (kind : NodeKind) (children : List Shape)

/-- Whether `text` is a comment that documents what follows. -/
def isOuterDoc (text : String) : Bool :=
  match text.toList with
  | '/' :: '/' :: '/' :: '/' :: _ | '/' :: '*' :: '*' :: '*' :: _ => false
  | '/' :: '/' :: '/' :: _ | '/' :: '*' :: '*' :: _ => true
  | _ => false

/-- Whether `text` is a comment that documents what it stands in. -/
def isInnerDoc (text : String) : Bool :=
  match text.toList with
  | '/' :: '/' :: '!' :: _ | '/' :: '*' :: '!' :: _ => true
  | _ => false

/-- Whether `text` holds two newlines in a row. -/
def hasBlankLine (text : String) : Bool :=
  hasPart ['\n', '\n'] text.toList

/-- How many of the blanks and comments before an item belong to it. They are given in reverse: the nearest comes
first, `seen` have been passed. The last comment taken is the farthest one that neither an inner document comment nor
a blank line separates from the item; a blank line after an outer document comment does not separate. -/
def attached : List Token → Nat → Nat → Nat
  | [], _, taken => taken
  | t :: rest, seen, taken =>
    if t.kind = .comment then
      if isInnerDoc t.text then taken else attached rest (seen + 1) (seen + 1)
    else if hasBlankLine t.text && !(rest.head?.any fun c => c.kind == .comment && isOuterDoc c.text) then taken
    else attached rest (seen + 1) taken

/-- A token as a tree. -/
def Token.tree (t : Token) : SyntaxTree :=
  .token t.kind t.text

/-- The first `count` tokens as one tree. -/
def gluedTree (tokens : List Token) (count : Nat) : List SyntaxTree :=
  match tokens.take count with
  | [] => []
  | [t] => [t.tree]
  | ts => [.token .punct (String.join (ts.map (·.text)))]

/-- Cuts `length` characters off the first token. -/
def cutToken (kind : TokenKind) (length : Nat) (tokens : List Token) : List SyntaxTree × List Token :=
  match tokens with
  | [] => ([], [])
  | t :: rest =>
    let left := String.ofList (t.text.toList.drop length)
    ([.token kind (String.ofList (t.text.toList.take length))],
      if left = "" then rest else { t with text := left } :: rest)

mutual

/-- Fills a shape from the tokens `input`. The result is the tree, behind what stands before it and outside of it,
and the tokens left. -/
def Shape.fill : Shape → List Token → List SyntaxTree × List Token
  | .tokens count, input =>
    let trivia := input.takeWhile (·.kind.isTrivia)
    let rest := input.drop trivia.length
    (trivia.map (·.tree) ++ gluedTree rest count, rest.drop count)
  | .part kind length, input =>
    let trivia := input.takeWhile (·.kind.isTrivia)
    let (trees, rest) := cutToken kind length (input.drop trivia.length)
    (trivia.map (·.tree) ++ trees, rest)
  | .node kind children, input =>
    let trivia := input.takeWhile (·.kind.isTrivia)
    let inside := if kind.takesComments then attached trivia.reverse 0 0 else 0
    let outside := trivia.length - inside
    let (trees, rest) := Shape.fillAll children (input.drop trivia.length)
    ((trivia.take outside).map (·.tree) ++ [.node kind ((trivia.drop outside).map (·.tree) ++ trees)], rest)

/-- Fills shapes that stand side by side. -/
def Shape.fillAll : List Shape → List Token → List SyntaxTree × List Token
  | [], input => ([], input)
  | s :: ss, input =>
    let (trees, rest) := s.fill input
    let (more, rest) := Shape.fillAll ss rest
    (trees ++ more, rest)

end

/-- The tree of a whole source: the filled shapes, then all tokens left. -/
def fillFile (shapes : List Shape) (tokens : List Token) : SyntaxTree :=
  let (trees, rest) := Shape.fillAll shapes tokens
  .node .sourceFile (trees ++ rest.map (·.tree))

end AsyncLint.Source
