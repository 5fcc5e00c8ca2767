/-!
# Function bodies

A body is a tree of expressions. Only what matters for suspension is kept apart: calls, function values
and the shapes of control flow. Calls and function values carry a number under which the unit records
what is known about them.
-/

namespace AsyncLint

/-- Number of a function declaration in its unit. -/
abbrev DeclId := Nat

/-- Number of a call in the call table of its unit. -/
abbrev CallId := Nat

/-- Number of a function value (lambda or reference) in the slot table of its unit. -/
abbrev SlotId := Nat

/-- A node of a function body. -/
inductive Expression where
  /-- A call. The callee is found in the unit under `id`. -/
  | call (id : CallId) (arguments : List Expression)
  | block (items : List Expression)
  | conditional (condition thenBranch : Expression) (elseBranch : Option Expression)
  | tryCatch (body : Expression) (handlers : List Expression) (finallyBranch : Option Expression)
  /-- A loop. The header holds the condition or the iterable. -/
  | loop (header : List Expression) (body : Expression)
  /-- A lambda bound to the parameter recorded under `slot`. -/
  | lambda (slot : SlotId) (body : Expression)
  /-- A declaration used as a value, bound to the parameter recorded under `slot`. -/
  | reference (slot : SlotId) (target : DeclId)
  /-- Anything else. It never suspends. -/
  | inert

namespace Expression

instance : Inhabited Expression := ⟨.inert⟩

/-- Direct children, in evaluation order. -/
def children : Expression → List Expression
  | .call _ arguments => arguments
  | .block items => items
  | .conditional c t e => c :: t :: e.toList
  | .tryCatch b hs f => b :: hs ++ f.toList
  | .loop header body => header ++ [body]
  | .lambda _ body => [body]
  | .reference _ _ | .inert => []

theorem sizeOf_lt_of_mem_children {c e : Expression} (h : c ∈ e.children) : sizeOf c < sizeOf e := by
  have list : ∀ {es : List Expression}, c ∈ es → sizeOf c < sizeOf es := List.sizeOf_lt_of_mem
  have option : ∀ {o : Option Expression}, c ∈ o.toList → sizeOf c < sizeOf o := by
    intro o ho
    cases o with
    | none => simp at ho
    | some d =>
      obtain rfl : c = d := by simpa using ho
      simp
  cases e with
  | call id arguments =>
    have := list (show c ∈ arguments from h)
    simp only [call.sizeOf_spec]; omega
  | block items =>
    have := list (show c ∈ items from h)
    simp only [block.sizeOf_spec]; omega
  | conditional a t o =>
    simp only [children, List.mem_cons] at h
    simp only [conditional.sizeOf_spec]
    rcases h with rfl | rfl | h
    · omega
    · omega
    · have := option h; omega
  | tryCatch b hs o =>
    simp only [children, List.cons_append, List.mem_cons, List.mem_append] at h
    simp only [tryCatch.sizeOf_spec]
    rcases h with rfl | h | h
    · omega
    · have := list h; omega
    · have := option h; omega
  | loop header body =>
    simp only [children, List.mem_append, List.mem_singleton] at h
    simp only [loop.sizeOf_spec]
    rcases h with h | rfl
    · have := list h; omega
    · omega
  | lambda slot body =>
    obtain rfl : c = body := by simpa [children] using h
    simp only [lambda.sizeOf_spec]; omega
  | reference slot target => simp [children] at h
  | inert => simp [children] at h

/-- Number of nodes. -/
def size (e : Expression) : Nat :=
  1 + (e.children.attach.map fun ⟨c, _⟩ => c.size).foldr (· + ·) 0
termination_by sizeOf e
decreasing_by exact sizeOf_lt_of_mem_children (by assumption)

/-- Number of nodes of all trees of a list. -/
def sizes (es : List Expression) : Nat :=
  (es.map size).foldr (· + ·) 0

theorem size_eq (e : Expression) : e.size = 1 + sizes e.children := by
  rw [size, sizes]
  congr 2
  exact List.attach_map_val (f := size)

theorem sizes_cons (e : Expression) (es : List Expression) : sizes (e :: es) = e.size + sizes es := rfl

theorem sizes_append (es fs : List Expression) : sizes (es ++ fs) = sizes es + sizes fs := by
  induction es with
  | nil => simp [sizes]
  | cons e es ih => rw [List.cons_append, sizes_cons, sizes_cons, ih, Nat.add_assoc]

/-- The node itself, then the nodes below each child in turn, lambda bodies included. -/
def preorder (e : Expression) : List Expression :=
  e :: (e.children.attach.map fun ⟨c, _⟩ => c.preorder).flatten
termination_by sizeOf e
decreasing_by exact sizeOf_lt_of_mem_children (by assumption)

theorem preorder_eq (e : Expression) : e.preorder = e :: e.children.flatMap preorder := by
  rw [preorder, List.flatMap]
  congr 2
  exact List.attach_map_val (f := preorder)

/-- Repeatedly takes the top of `stack` and puts its children in its place. -/
def unfoldStack (stack : List Expression) : List Expression :=
  match stack with
  | [] => []
  | e :: rest => e :: unfoldStack (e.children ++ rest)
termination_by sizes stack
decreasing_by
  rw [sizes_append, sizes_cons, size_eq]
  omega

/-- All nodes from the root down, by an explicit stack. -/
def descendants (e : Expression) : List Expression :=
  unfoldStack [e]

end Expression

end AsyncLint
