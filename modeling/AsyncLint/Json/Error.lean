/-!
# What can be wrong with a text

Complaints about a text that should be JSON of a certain form, and the place they point at.
-/

namespace AsyncLint.Json

/-- A place in a text: the line, counted from one, and the number of its bytes before the place. -/
structure Place where
  line : Nat := 1
  column : Nat := 0
deriving DecidableEq, Repr

/-- The place behind a character. -/
def Place.after (p : Place) (c : Char) : Place :=
  if c = '\n' then { line := p.line + 1 } else { p with column := p.column + c.utf8Size }

/-- The place behind the first byte of a character. -/
def Place.into (p : Place) (c : Char) : Place :=
  if c = '\n' then { line := p.line + 1 } else { p with column := p.column + 1 }

/-- What a text breaks off in. -/
inductive Inside where
  | value
  | object
  | list
  | string
deriving DecidableEq, Repr

protected def Inside.toString : Inside → String
  | .value => "a value"
  | .object => "an object"
  | .list => "a list"
  | .string => "a string"

/-- A value that stands where another form was expected. -/
inductive Found where
  | null
  | bool (b : Bool)
  | integer (n : Int)
  /-- A number with a fraction, an exponent, or too many digits; `text` is its shortest form. -/
  | float (text : String)
  | string (quoted : String)
  | list
  | object
deriving DecidableEq, Repr

protected def Found.toString : Found → String
  | .null => "null"
  | .bool b => "boolean `" ++ toString b ++ "`"
  | .integer n => "integer `" ++ toString n ++ "`"
  | .float text => "floating point `" ++ text ++ "`"
  | .string quoted => "string " ++ quoted
  | .list => "sequence"
  | .object => "map"

/-- A complaint about a text. -/
inductive Complaint where
  | breaksOff (inside : Inside)
  | expectedValue
  | expectedWord
  | expectedColon
  | expectedCommaOrBrace
  | expectedCommaOrBracket
  | keyIsNoString
  | trailingComma
  | trailingCharacters
  | invalidNumber
  | numberOutOfRange
  | invalidEscape
  | loneSurrogate
  | unfinishedSurrogatePair
  | controlCharacter
  | duplicateField (name : String)
  | unknownVariant (name : String) (known : List String)
  | wrongForm (found : Found) (expected : String)
deriving DecidableEq, Repr

protected def Complaint.toString : Complaint → String
  | .breaksOff inside => "EOF while parsing " ++ inside.toString
  | .expectedValue => "expected value"
  | .expectedWord => "expected ident"
  | .expectedColon => "expected `:`"
  | .expectedCommaOrBrace => "expected `,` or `\x7d`"
  | .expectedCommaOrBracket => "expected `,` or `]`"
  | .keyIsNoString => "key must be a string"
  | .trailingComma => "trailing comma"
  | .trailingCharacters => "trailing characters"
  | .invalidNumber => "invalid number"
  | .numberOutOfRange => "number out of range"
  | .invalidEscape => "invalid escape"
  | .loneSurrogate => "lone leading surrogate in hex escape"
  | .unfinishedSurrogatePair => "unexpected end of hex escape"
  | .controlCharacter => "control character (\\u0000-\\u001F) found while parsing a string"
  | .duplicateField name => "duplicate field `" ++ name ++ "`"
  | .unknownVariant name known =>
    "unknown variant `" ++ name ++ "`, expected one of " ++ String.intercalate ", " (known.map fun k => "`" ++ k ++ "`")
  | .wrongForm found expected => "invalid type: " ++ found.toString ++ ", expected " ++ expected

/-- A complaint and the place it points at. -/
structure ReadError where
  complaint : Complaint
  place : Place
deriving DecidableEq, Repr

def ReadError.message (e : ReadError) : String :=
  e.complaint.toString ++ " at line " ++ toString e.place.line ++ " column " ++ toString e.place.column

end AsyncLint.Json
