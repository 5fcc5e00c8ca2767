import AsyncLint.Fixture.LineMap
import AsyncLint.Source.Lexer
import AsyncLint.Text.Pieces

/-!
# Expectations

A fixture says in comments on which lines findings are expected. A comment `//~ redundant` speaks about its own line,
and with `^` signs behind the tilde about a line as many lines above. An exclamation mark says that no finding is
expected.
-/

namespace AsyncLint

open Source Text

/-- What is expected on a line. -/
structure Expectation where
  line : Nat
  /-- No finding is expected. -/
  negated : Bool
  /-- The text of the comment behind its signs. -/
  raw : String
deriving DecidableEq, Repr

/-- A comment that is no expectation although it starts like one. -/
inductive ExpectationError where
  | unknownMarker (line : Nat) (text : String)
  | empty (line : Nat)
  /-- The signs point above the first line. -/
  | outOfRange (line : Nat)
deriving DecidableEq, Repr

def ExpectationError.message : ExpectationError → String
  | .unknownMarker line text => "line " ++ toString line ++ ": unknown expectation '" ++ text ++ "'"
  | .empty line => "line " ++ toString line ++ ": empty expectation"
  | .outOfRange line => "line " ++ toString line ++ ": caret points above the first line"

namespace Expectation

/-- The word that stands for a finding. -/
def marker : List Char := "redundant".toList

/-- The expectation in what follows `//~` in a comment on `line`. -/
def ofComment (text : List Char) (line : Nat) : Except ExpectationError Expectation :=
  let carets := text.takeWhile (· = '^')
  if line ≤ carets.length then .error (.outOfRange line)
  else
    let body := trim (text.drop carets.length)
    let negated := body.head? = some '!'
    let word := if negated then trim body.tail else body
    if word = [] then .error (.empty line)
    else if word ≠ marker then .error (.unknownMarker line (String.ofList body))
    else .ok { line := line - carets.length, negated, raw := String.ofList body }

/-- How an expectation comment starts. -/
def opening : List Char := "//~".toList

/-- What follows `//~` in each comment that starts with it, and the line of the comment, among tokens that start on
`line`. -/
def comments (line : Nat) : List Token → List (Nat × List Char)
  | [] => []
  | t :: ts =>
    let chars := t.text.toList
    let rest := comments (line + chars.count '\n') ts
    if t.kind = .comment then
      match dropLeading? opening chars with
      | some text => (line, text) :: rest
      | none => rest
    else rest

/-- The expectations of a source, as far as they are well formed; the last one for a line counts. -/
def ofSource (source : String) : LineMap Expectation × List ExpectationError :=
  let add (acc : LineMap Expectation × List ExpectationError) (comment : Nat × List Char) :=
    match ofComment comment.2 comment.1 with
    | .ok e => (acc.1.insert e.line e, acc.2)
    | .error e => (acc.1, acc.2 ++ [e])
  (comments 1 (tokenize source)).foldl add ([], [])

/-- The lines on which a finding is expected. -/
def reportedLines (expectations : LineMap Expectation) : List Nat :=
  (expectations.filter fun (_, e) => !e.negated).map fun (_, e) => e.line

end Expectation

end AsyncLint
