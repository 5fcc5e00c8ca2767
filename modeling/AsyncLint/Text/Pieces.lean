import AsyncLint.Text.Blank

/-!
# Pieces of texts

Trimming, cutting and searching, on lists of characters.
-/

namespace AsyncLint.Text

/-- Without the blanks at the start. -/
def trimStart (cs : List Char) : List Char :=
  cs.dropWhile isBlank

/-- Without the blanks at the end. -/
def trimEnd (cs : List Char) : List Char :=
  (cs.reverse.dropWhile isBlank).reverse

/-- Without the blanks at both ends. -/
def trim (cs : List Char) : List Char :=
  trimEnd (trimStart cs)

/-- Without any blanks. -/
def squeeze (cs : List Char) : List Char :=
  cs.filter fun c => !isBlank c

/-- What follows `part`, if the text starts with it. -/
def dropLeading? (part cs : List Char) : Option (List Char) :=
  if part.isPrefixOf cs then some (cs.drop part.length) else none

/-- Without any number of copies of `part` at the start. -/
def dropCopies (part cs : List Char) : List Char :=
  if _h : part ≠ [] ∧ part.isPrefixOf cs then dropCopies part (cs.drop part.length) else cs
termination_by cs.length
decreasing_by
  have hl : 0 < part.length := List.length_pos_iff.2 _h.1
  have hp := (List.isPrefixOf_iff_prefix.1 _h.2).length_le
  simp only [List.length_drop]
  omega

/-- Without any number of copies of `part` at the end. -/
def dropTrailingCopies (part cs : List Char) : List Char :=
  (dropCopies part.reverse cs.reverse).reverse

/-- Whether `part` occurs in the text. -/
def hasPart (part : List Char) : List Char → Bool
  | [] => part.isEmpty
  | c :: cs => part.isPrefixOf (c :: cs) || hasPart part cs

/-- What follows the last occurrence of `part`, if there is one. -/
def afterLast? (part : List Char) : List Char → Option (List Char)
  | [] => if part.isEmpty then some [] else none
  | c :: cs => (afterLast? part cs).or (dropLeading? part (c :: cs))

/-- What follows the last occurrence of `part`, or the whole text. -/
def afterLast (part cs : List Char) : List Char :=
  (afterLast? part cs).getD cs

/-- A line without the carriage return before its end. -/
def dropReturn (line : List Char) : List Char :=
  if line.getLast? = some '\r' then line.dropLast else line

/-- The lines of a text. A line ends before a newline, and one carriage return before that newline belongs to
the line end; a last line without newline is kept as it is, and an empty one does not count. -/
def lines (cs : List Char) : List (List Char) :=
  let pieces := cs.splitOn '\n'
  pieces.dropLast.map dropReturn ++ (pieces.getLast?.filter (· ≠ [])).toList

end AsyncLint.Text
