/-!
# Escapes in literals

Which texts may stand between the quotes of a character or string literal.
-/

namespace AsyncLint.Source

/-- Where an escape stands. -/
inductive LiteralForm where
  | char
  | byte
  | string
  | byteString
  | cString
deriving DecidableEq, Repr

namespace LiteralForm

/-- Whether the literal is made of bytes, so that only ASCII characters can be written plainly. -/
def isBytes : LiteralForm → Bool
  | .byte | .byteString => true
  | _ => false

/-- Whether two-digit escapes stop at the end of ASCII. -/
def shortEscapesAreAscii : LiteralForm → Bool
  | .char | .string => true
  | _ => false

end LiteralForm

/-- An escape: the code it stands for and the number of characters after the backslash. -/
structure Escape where
  code : Nat
  length : Nat
deriving DecidableEq, Repr

def hexDigit? (c : Char) : Option Nat :=
  if c.isDigit then some (c.toNat - '0'.toNat)
  else if 'a' ≤ c ∧ c ≤ 'f' then some (c.toNat - 'a'.toNat + 10)
  else if 'A' ≤ c ∧ c ≤ 'F' then some (c.toNat - 'A'.toNat + 10)
  else none

/-- The digits of a code in braces up to the closing brace: the code, the number of digits and of characters.
Underscores may stand between digits. -/
def bracedDigits : List Char → Nat → Nat → Nat → Option (Nat × Nat × Nat)
  | [], _, _, _ => none
  | c :: cs, code, digits, length =>
    if c = '}' then some (code, digits, length + 1)
    else if c = '_' then bracedDigits cs code digits (length + 1)
    else (hexDigit? c).bind fun d => bracedDigits cs (code * 16 + d) (digits + 1) (length + 1)

/-- A code in braces: one to six digits, the first thing being a digit, and a proper character. -/
def bracedEscape? (cs : List Char) : Option Escape :=
  match cs with
  | '{' :: c :: rest =>
    (hexDigit? c).bind fun d =>
      (bracedDigits rest d 1 0).bind fun (code, digits, length) =>
        if digits ≤ 6 ∧ Nat.isValidChar code then some { code, length := length + 3 } else none
  | _ => none

/-- The escape at the start of `cs`, the characters after a backslash. -/
def escape? (form : LiteralForm) (cs : List Char) : Option Escape :=
  match cs with
  | '"' :: _ => some { code := 34, length := 1 }
  | 'n' :: _ => some { code := 10, length := 1 }
  | 'r' :: _ => some { code := 13, length := 1 }
  | 't' :: _ => some { code := 9, length := 1 }
  | '\\' :: _ => some { code := 92, length := 1 }
  | '\'' :: _ => some { code := 39, length := 1 }
  | '0' :: _ => some { code := 0, length := 1 }
  | 'x' :: h :: l :: _ =>
    (hexDigit? h).bind fun h => (hexDigit? l).bind fun l =>
      let code := 16 * h + l
      if form.shortEscapesAreAscii ∧ code > 0x7f then none else some { code, length := 3 }
  | 'u' :: rest => if form.isBytes then none else bracedEscape? rest
  | _ => none

/-- Whether `cs` may stand between the quotes of a character or byte literal. Carriage returns are allowed plainly
where `returns` says so. -/
def isCharContent (returns : Bool) (form : LiteralForm) (cs : List Char) : Bool :=
  match cs with
  | '\\' :: rest => (escape? form rest).any fun e => e.length == rest.length
  | [c] => c != '\n' && c != '\t' && (c != '\r' || returns) && c != '\'' && (!form.isBytes || c.toNat < 128)
  | _ => false

/-- Whether `c` may stand plainly in a string. -/
def isPlainChar (returns : Bool) (form : LiteralForm) (c : Char) : Bool :=
  c != '"' && (c != '\r' || returns) && (!form.isBytes || c.toNat < 128) && (form != .cString || c.toNat != 0)

/-- Whether `cs` may stand between the quotes of a string literal. A backslash at the end of a line removes the
blanks that follow. -/
def isStringContent (returns : Bool) (form : LiteralForm) (cs : List Char) : Bool :=
  match cs with
  | [] => true
  | '\\' :: '\n' :: rest =>
    isStringContent returns form (rest.dropWhile fun c => [' ', '\t', '\n', '\r'].contains c)
  | '\\' :: rest =>
    match escape? form rest with
    | some e => (form != .cString || e.code != 0) && isStringContent returns form (rest.drop e.length)
    | none => false
  | c :: rest => isPlainChar returns form c && isStringContent returns form rest
termination_by cs.length
decreasing_by
  · have := (List.dropWhile_sublist (fun c => [' ', '\t', '\n', '\r'].contains c) (l := rest)).length_le
    simp only [List.length_cons]; omega
  · simp only [List.length_drop, List.length_cons]; omega
  · simp only [List.length_cons]; omega

end AsyncLint.Source
