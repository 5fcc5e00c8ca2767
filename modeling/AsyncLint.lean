import AsyncLint.Main
import AsyncLint.Proofs.Await
import AsyncLint.Proofs.Strengthening
import AsyncLint.Proofs.Reordering
import AsyncLint.Proofs.Numbering
import AsyncLint.Proofs.Effect
import AsyncLint.Proofs.Grammar
import AsyncLint.Proofs.Correspondence
import AsyncLint.Proofs.Expectations
import AsyncLint.Proofs.Transparency
import AsyncLint.Proofs.Names
import AsyncLint.Proofs.Agreement
import AsyncLint.Proofs.Depth
import AsyncLint.Proofs.Lossless
import AsyncLint.Proofs.Lines
import AsyncLint.Proofs.Pointing
import AsyncLint.Proofs.Modules
import AsyncLint.Proofs.Foreign
import AsyncLint.Proofs.Boundary
import AsyncLint.Proofs.Scope
import AsyncLint.Proofs.Comparison
import AsyncLint.Proofs.Document
import AsyncLint.Proofs.Rendering
import AsyncLint.Proofs.Clearing
import AsyncLint.Proofs.Spelling
import AsyncLint.Proofs.Macro
import AsyncLint.Proofs.Lexical
import AsyncLint.Proofs.Offsets
import AsyncLint.Proofs.Workers
import AsyncLint.Proofs.Trimming
import AsyncLint.Proofs.Comment
import AsyncLint.Proofs.Directory
import AsyncLint.Proofs.Traversal
import AsyncLint.Proofs.Lookup
import AsyncLint.Proofs.Building
import AsyncLint.Proofs.Components
import AsyncLint.Proofs.Agreement
import AsyncLint.Proofs.Depth
