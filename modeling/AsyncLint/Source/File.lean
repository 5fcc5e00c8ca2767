import AsyncLint.Source.Grammar
import AsyncLint.Source.Lexer
import AsyncLint.Source.Validity

/-!
# Source files

The tree of a source text. There is one if the tokens are well formed, follow the grammar, and the tree meets the
further conditions.
-/

namespace AsyncLint.Source

/-- The tree of a source, if it has one. -/
def parse? (source : String) : Option SyntaxTree := do
  let tokens := tokenize source
  guard (tokens.all (·.wellFormed))
  let shapes ← shapesOf? (lexemesOf tokens)
  let tree := fillFile shapes tokens
  guard (tree.isValid {})
  return tree

/-- A source that starts with `head` and goes on with a block, whose parts have blanks between them. Samples of sources are
written with it. -/
def braced (head : String) (parts : List String) : String :=
  let inside := parts.foldr (fun part rest => " " ++ part ++ rest) (if parts.isEmpty then "" else " ")
  head ++ " " ++ openBrace ++ inside ++ closeBrace

end AsyncLint.Source
