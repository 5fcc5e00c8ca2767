/-!
# JSON values and how they are written

Each element of a list and each field of an object stands on a line of its own, two blanks further in than the bracket
around it. Empty lists and objects stay on one line.
-/

namespace AsyncLint.Json

/-- A value. Numbers are natural numbers here. -/
inductive Value where
  | number (n : Nat)
  | string (s : String)
  | list (elements : List Value)
  | object (fields : List (String × Value))

/-- A character inside a string. -/
def escapeChar (c : Char) : List Char :=
  if c = '"' then ['\\', '"']
  else if c = '\\' then ['\\', '\\']
  else if c = '\n' then ['\\', 'n']
  else if c = '\r' then ['\\', 'r']
  else if c = '\t' then ['\\', 't']
  else if c = '\x08' then ['\\', 'b']
  else if c = '\x0c' then ['\\', 'f']
  else if c.toNat < 32 then ['\\', 'u', '0', '0', Nat.digitChar (c.toNat / 16), Nat.digitChar (c.toNat % 16)]
  else [c]

/-- A string in quotes. -/
def writeString (s : String) : List Char :=
  '"' :: s.toList.flatMap escapeChar ++ ['"']

/-- A new line, `depth` steps further in. -/
def newLine (depth : Nat) : List Char :=
  '\n' :: List.replicate (2 * depth) ' '

namespace Value

mutual

/-- The text of a value that stands `depth` steps further in. -/
def write (depth : Nat) : Value → List Char
  | .number n => Nat.toDigits 10 n
  | .string s => writeString s
  | .list [] => ['[', ']']
  | .list (v :: vs) =>
    '[' :: newLine (depth + 1) ++ v.write (depth + 1) ++ writeElements (depth + 1) vs ++ newLine depth ++ [']']
  | .object [] => ['{', '}']
  | .object ((key, v) :: fields) =>
    '{' :: newLine (depth + 1) ++ writeString key ++ [':', ' '] ++ v.write (depth + 1) ++
      writeFields (depth + 1) fields ++ newLine depth ++ ['}']

/-- The elements of a list behind the first one. -/
def writeElements (depth : Nat) : List Value → List Char
  | [] => []
  | v :: vs => ',' :: newLine depth ++ v.write depth ++ writeElements depth vs

/-- The fields of an object behind the first one. -/
def writeFields (depth : Nat) : List (String × Value) → List Char
  | [] => []
  | (key, v) :: fields =>
    ',' :: newLine depth ++ writeString key ++ [':', ' '] ++ v.write depth ++ writeFields depth fields

end

/-- The text of a value. -/
protected def toString (v : Value) : String :=
  String.ofList (v.write 0)

end Value

end AsyncLint.Json
