/-!
# Tokens

A source is cut into tokens without loss: the texts of its tokens, put together, are the source. Punctuation
comes one character at a time; longer signs are put together where the grammar asks for them.
-/

namespace AsyncLint.Source

/-- What kind of token a piece of source is. -/
inductive TokenKind where
  | whitespace
  | comment
  /-- A first line that starts with a hash and an exclamation mark and names an interpreter. -/
  | shebang
  | ident
  | keyword
  | underscore
  | lifetime
  | int
  | float
  | char
  | byte
  | string
  | byteString
  | cString
  | punct
  /-- A character that starts no token. -/
  | unknown
deriving DecidableEq, Repr

/-- Whether tokens of this kind have no meaning to the grammar. -/
def TokenKind.isTrivia : TokenKind → Bool
  | .whitespace | .comment => true
  | _ => false

/-- Whether tokens of this kind are literals. -/
def TokenKind.isLiteral : TokenKind → Bool
  | .int | .float | .char | .byte | .string | .byteString | .cString => true
  | _ => false

/-- A piece of source. -/
structure Token where
  kind : TokenKind
  text : String
  /-- Whether the lexical rules accept it: a literal that ends and has proper escapes, digits where needed. -/
  wellFormed : Bool := true
  /-- Whether it has a carriage return between its quotes that should be escaped. Only a literal that the grammar reads
  as such must not have one. -/
  bareReturn : Bool := false
deriving DecidableEq, Repr

/-- The words that are never identifiers. -/
def keywords : List String :=
  ["as", "async", "await", "break", "const", "continue", "crate", "dyn", "else", "enum", "extern", "false", "fn",
   "for", "if", "impl", "in", "let", "loop", "match", "mod", "move", "mut", "pub", "ref", "return", "self", "Self",
   "static", "struct", "super", "trait", "true", "try", "type", "unsafe", "use", "where", "while",
   "abstract", "become", "box", "do", "final", "macro", "override", "priv", "typeof", "unsized", "virtual", "yield"]

end AsyncLint.Source
