import AsyncLint.Source.Escape
import AsyncLint.Source.Token
import AsyncLint.Text.Emoji
import AsyncLint.Text.Letter
import AsyncLint.Text.Pieces

/-!
# Cutting a source into tokens

A scan looks at the first character of what is left and at the characters after it, and says what token starts
there and how many of the characters after the first belong to it. Since the token is then cut off by that
count, nothing is lost and nothing is added, whatever the scan says.
-/

namespace AsyncLint.Source

open AsyncLint.Text

/-- What token starts at a character: its kind and how many further characters it takes. -/
structure Scan where
  kind : TokenKind
  extra : Nat := 0
  wellFormed : Bool := true
  bareReturn : Bool := false
deriving DecidableEq, Repr

namespace Scan

/-- Number of characters at the start that satisfy `p`. -/
def run (p : Char → Bool) (cs : List Char) : Nat :=
  (cs.takeWhile p).length

/-- Length of the identifier at the start, zero if there is none. A literal takes it as its suffix. -/
def suffix : List Char → Nat
  | [] => 0
  | c :: cs => if isIdentStart c then 1 + run isIdentContinue cs else 0

/-- A literal of `length` further characters and the suffix that follows it. -/
def literal (kind : TokenKind) (length : Nat) (cs : List Char) (wellFormed : Bool) : Scan :=
  { kind, extra := length + suffix (cs.drop length), wellFormed }

/-! ## Comments -/

/-- The rest of a block comment that stands inside `depth` others: its length, and whether it ends. -/
def blockComment : List Char → Nat → Nat × Bool
  | [], _ => (0, false)
  | '/' :: '*' :: cs, depth => let (n, closed) := blockComment cs (depth + 1); (n + 2, closed)
  | '*' :: '/' :: cs, depth =>
    match depth with
    | 0 => (2, true)
    | depth + 1 => let (n, closed) := blockComment cs depth; (n + 2, closed)
  | _ :: cs, depth => let (n, closed) := blockComment cs depth; (n + 1, closed)

/-! ## Numbers -/

/-- Length of a run of digits and underscores. -/
def digits (isDigit : Char → Bool) (cs : List Char) : Nat :=
  run (fun c => c == '_' || isDigit c) cs

/-- Whether a run of digits and underscores has a digit. -/
def hasDigit (isDigit : Char → Bool) (cs : List Char) : Bool :=
  (cs.takeWhile fun c => c == '_' || isDigit c).any isDigit

/-- An exponent after its letter: its length, and whether it has digits. -/
def exponent (cs : List Char) : Nat × Bool :=
  let sign := if cs.head? = some '-' ∨ cs.head? = some '+' then 1 else 0
  (sign + digits Char.isDigit (cs.drop sign), hasDigit Char.isDigit (cs.drop sign))

/-- What follows the digits before the point, `length` characters long so far: a fraction, an exponent, both or
neither. A point before another point or before an identifier does not belong to the number. -/
def fraction (length : Nat) (cs : List Char) : Scan :=
  match cs.drop length with
  | '.' :: rest =>
    if rest.head?.any fun c => c == '.' || isIdentStart c then literal .int length cs true
    else if rest.head?.any Char.isDigit then
      let n := digits Char.isDigit rest
      match rest.drop n with
      | c :: rest =>
        if c = 'e' ∨ c = 'E' then
          let (m, proper) := exponent rest
          literal .float (length + 1 + n + 1 + m) cs proper
        else literal .float (length + 1 + n) cs true
      | [] => literal .float (length + 1 + n) cs true
    else literal .float (length + 1) cs true
  | c :: rest =>
    if c = 'e' ∨ c = 'E' then
      let (m, proper) := exponent rest
      literal .float (length + 1 + m) cs proper
    else literal .int length cs true
  | [] => literal .int length cs true

/-- A number with a base letter after its first zero. -/
def based (isDigit : Char → Bool) (cs : List Char) : Scan :=
  let rest := cs.drop 1
  if hasDigit isDigit rest then fraction (1 + digits isDigit rest) cs
  else literal .int (1 + digits isDigit rest) cs false

/-- A number with first digit `c`. -/
def number (c : Char) (cs : List Char) : Scan :=
  if c = '0' then
    match cs with
    | 'b' :: _ | 'o' :: _ => based Char.isDigit cs
    | 'x' :: _ => based (fun c => (hexDigit? c).isSome) cs
    | _ => fraction (digits Char.isDigit cs) cs
  else fraction (digits Char.isDigit cs) cs

/-! ## Quoted literals -/

/-- The rest of a string: its length with the closing quote, and whether there is one. -/
def doubleQuoted : List Char → Nat × Bool
  | [] => (0, false)
  | '"' :: _ => (1, true)
  | '\\' :: '\\' :: cs | '\\' :: '"' :: cs => let (n, closed) := doubleQuoted cs; (n + 2, closed)
  | _ :: cs => let (n, closed) := doubleQuoted cs; (n + 1, closed)

/-- The rest of a character literal of more than one character, as `doubleQuoted`. It is given up at a slash and
at the end of the line. -/
def singleQuoted : List Char → Nat × Bool
  | [] => (0, false)
  | '\'' :: _ => (1, true)
  | '/' :: _ => (0, false)
  | '\n' :: '\'' :: _ => (2, true)
  | '\n' :: _ => (0, false)
  | '\\' :: _ :: cs => let (n, closed) := singleQuoted cs; (n + 2, closed)
  | _ :: cs => let (n, closed) := singleQuoted cs; (n + 1, closed)

/-- A string after `skip` characters that stand before and at its opening quote. -/
def string (kind : TokenKind) (form : LiteralForm) (skip : Nat) (cs : List Char) : Scan :=
  let (n, closed) := doubleQuoted (cs.drop skip)
  let content := (cs.drop skip).take (n - 1)
  if closed then
    { literal kind (skip + n) cs (isStringContent true form content) with
      bareReturn := !isStringContent false form content }
  else { kind, extra := skip + n, wellFormed := false }

/-- A character literal after `skip` characters that stand before and at its opening quote. -/
def character (kind : TokenKind) (form : LiteralForm) (skip : Nat) (cs : List Char) : Scan :=
  let rest := cs.drop skip
  let (n, closed) :=
    match rest with
    | c :: '\'' :: _ => if c ≠ '\\' then (2, true) else singleQuoted rest
    | _ => singleQuoted rest
  let content := rest.take (n - 1)
  if closed then
    { literal kind (skip + n) cs (isCharContent true form content) with
      bareReturn := !isCharContent false form content }
  else { kind, extra := skip + n, wellFormed := false }

/-- The rest of a raw string up to a quote with `hashes` hashes after it: its length, and whether it ends. -/
def rawQuoted (hashes : Nat) : List Char → Nat × Bool
  | [] => (0, false)
  | '"' :: cs =>
    if run (· == '#') cs ≥ hashes then (1 + hashes, true)
    else let (n, closed) := rawQuoted hashes cs; (n + 1, closed)
  | _ :: cs => let (n, closed) := rawQuoted hashes cs; (n + 1, closed)

/-- A raw string after `skip` characters that end with its letter `r`. Its hashes number at most 255. -/
def rawString (kind : TokenKind) (skip : Nat) (cs : List Char) : Scan :=
  let rest := cs.drop skip
  let hashes := run (· == '#') rest
  match rest.drop hashes with
  | '"' :: rest =>
    let (n, closed) := rawQuoted hashes rest
    if closed ∧ hashes ≤ 255 then literal kind (skip + hashes + 1 + n) cs true
    else { kind, extra := skip + hashes + 1 + n, wellFormed := false }
  | _ :: _ => { kind, extra := skip + hashes + 1, wellFormed := false }
  | [] => { kind, extra := skip + hashes, wellFormed := false }

/-! ## Words -/

/-- A word with first character `c`: an identifier or a keyword. A word directly before a quote or a hash would
be the mark of a literal that does not exist. -/
def word (c : Char) (cs : List Char) : Scan :=
  let length := run isIdentContinue cs
  let text := String.ofList (c :: cs.take length)
  let marksLiteral := (cs.drop length).head?.any fun c => c == '"' || c == '\'' || c == '#'
  if marksLiteral then { kind := .ident, extra := length, wellFormed := text = "builtin" }
  else if text = "_" then { kind := .underscore }
  else { kind := if keywords.contains text then .keyword else .ident, extra := length }

/-- A lifetime or a character literal, after its quote. -/
def quote (cs : List Char) : Scan :=
  match cs with
  | c :: rest =>
    if rest.head? = some '\'' ∨ ¬(isIdentStart c ∨ c.isDigit) then character .char .char 0 cs
    else if c = 'r' ∧ rest.head? = some '#' ∧ ((rest.drop 1).head?.any isIdentStart) then
      { kind := .lifetime, extra := 2 + suffix (rest.drop 1) }
    else
      let length := 1 + run isIdentContinue rest
      match cs.drop length with
      | '\'' :: _ => { kind := .char, extra := length + 1, wellFormed := isCharContent true .char (cs.take length) }
      | '#' :: _ => { kind := .lifetime, extra := length, wellFormed := false }
      | _ => { kind := .lifetime, extra := length, wellFormed := !c.isDigit }
  | [] => character .char .char 0 cs

/-- The characters that are punctuation. -/
def punctuation : List Char :=
  [';', ',', '.', '(', ')', '{', '}', '[', ']', '@', '#', '~', '?', ':', '$', '=', '!', '<', '>', '-', '&',
   '|', '+', '*', '/', '^', '%']

/-- The token that starts with `c`, before the characters `cs`. -/
def token (c : Char) (cs : List Char) : Scan :=
  match c, cs with
  | '/', '/' :: rest => { kind := .comment, extra := 1 + run (· != '\n') rest }
  | '/', '*' :: rest =>
    let (n, closed) := blockComment rest 0
    { kind := .comment, extra := 1 + n, wellFormed := closed }
  | 'r', '"' :: _ => rawString .string 0 cs
  | 'r', '#' :: d :: _ =>
    if isIdentStart d then { kind := .ident, extra := 1 + suffix (cs.drop 1) } else rawString .string 0 cs
  | 'r', ['#'] => rawString .string 0 cs
  | 'b', '\'' :: _ => character .byte .byte 1 cs
  | 'b', '"' :: _ => string .byteString .byteString 1 cs
  | 'b', 'r' :: '"' :: _ | 'b', 'r' :: '#' :: _ => rawString .byteString 1 cs
  | 'c', '"' :: _ => string .cString .cString 1 cs
  | 'c', 'r' :: '"' :: _ | 'c', 'r' :: '#' :: _ => rawString .cString 1 cs
  | '"', _ => string .string .string 0 cs
  | '\'', _ => quote cs
  | _, _ =>
    if isSeparator c then { kind := .whitespace, extra := run isSeparator cs }
    else if isIdentStart c then word c cs
    else if c.isDigit then number c cs
    else if punctuation.contains c then { kind := .punct }
    else { kind := .unknown, wellFormed := !isEmoji c }

end Scan

/-- Cuts off one token after the other. -/
def tokensOf (cs : List Char) : List Token :=
  match cs with
  | [] => []
  | c :: rest =>
    let scan := Scan.token c rest
    { kind := scan.kind, text := String.ofList (c :: rest.take scan.extra), wellFormed := scan.wellFormed,
      bareReturn := scan.bareReturn } ::
      tokensOf (rest.drop scan.extra)
termination_by cs.length
decreasing_by simp only [List.length_drop, List.length_cons]; omega

/-- Whether a comment documents something. -/
def isDocComment : List Char → Bool
  | '/' :: '/' :: '!' :: _ | '/' :: '*' :: '!' :: _ => true
  | '/' :: '/' :: '/' :: '/' :: _ => false
  | '/' :: '/' :: '/' :: _ => true
  | '/' :: '*' :: '*' :: '*' :: _ | ['/', '*', '*', '/'] => false
  | '/' :: '*' :: '*' :: _ => true
  | _ => false

/-- Whether a token is a blank or a comment that documents nothing. -/
def Token.isPlainTrivia (t : Token) : Bool :=
  t.kind == .whitespace || (t.kind == .comment && !isDocComment t.text.toList)

/-- Length of the interpreter line at the start, if there is one. A hash and an exclamation mark before an opening
bracket start an attribute instead, whatever blanks and plain comments stand between. -/
def shebangLength? (cs : List Char) : Option Nat :=
  match cs with
  | '#' :: '!' :: rest =>
    if ((tokensOf rest).find? fun t => !t.isPlainTrivia).any fun t => t.text == "[" then none
    else some (2 + ((lines rest).headD []).length)
  | _ => none

/-- The tokens of a source. -/
def tokenize (source : String) : List Token :=
  let cs := source.toList
  match shebangLength? cs with
  | some n => { kind := .shebang, text := String.ofList (cs.take n) } :: tokensOf (cs.drop n)
  | none => tokensOf cs

end AsyncLint.Source
