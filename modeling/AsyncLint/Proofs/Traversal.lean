import AsyncLint.Proofs.Expression
import Mathlib.Data.List.Forall2
import Mathlib.Data.List.Induction

/-!
# Walking through a body with a stack

The nodes of a body are listed with an explicit stack of what has not been visited yet. Here the order is said without a
stack, by one rule for every kind of expression, and the two are shown to agree: for the walk as a whole, for the walk
cut off after any number of steps, and for the places at which the nodes stand.
-/

namespace AsyncLint

namespace Expression

/-! ## The order of the nodes -/

mutual

/-- An expression and all below it: the node comes first, then its parts in the order in which they are evaluated. -/
def nodes : Expression → List Expression
  | .call id arguments => .call id arguments :: nodesOf arguments
  | .block items => .block items :: nodesOf items
  | .conditional c t e => .conditional c t e :: (nodes c ++ nodes t ++ nodesOfOption e)
  | .tryCatch b hs f => .tryCatch b hs f :: (nodes b ++ nodesOf hs ++ nodesOfOption f)
  | .loop header body => .loop header body :: (nodesOf header ++ nodes body)
  | .lambda slot body => .lambda slot body :: nodes body
  | .reference slot target => [.reference slot target]
  | .inert => [.inert]

def nodesOf : List Expression → List Expression
  | [] => []
  | e :: es => nodes e ++ nodesOf es

def nodesOfOption : Option Expression → List Expression
  | none => []
  | some e => nodes e

end

mutual

theorem nodes_eq_preorder : (e : Expression) → e.nodes = e.preorder
  | .call id arguments => by rw [nodes, nodesOf_eq arguments, preorder_eq]; rfl
  | .block items => by rw [nodes, nodesOf_eq items, preorder_eq]; rfl
  | .conditional c t e => by
      rw [nodes, nodes_eq_preorder c, nodes_eq_preorder t, nodesOfOption_eq e, preorder_eq (.conditional c t e)]
      simp [children]
  | .tryCatch b hs f => by
      rw [nodes, nodes_eq_preorder b, nodesOf_eq hs, nodesOfOption_eq f, preorder_eq (.tryCatch b hs f)]
      simp [children]
  | .loop header body => by
      rw [nodes, nodesOf_eq header, nodes_eq_preorder body, preorder_eq (.loop header body)]
      simp [children]
  | .lambda slot body => by
      rw [nodes, nodes_eq_preorder body, preorder_eq (.lambda slot body)]
      simp [children]
  | .reference slot target => by rw [nodes, preorder_eq]; rfl
  | .inert => by rw [nodes, preorder_eq]; rfl

theorem nodesOf_eq : (es : List Expression) → nodesOf es = es.flatMap preorder
  | [] => by rw [nodesOf, List.flatMap_nil]
  | e :: es => by rw [nodesOf, nodes_eq_preorder e, nodesOf_eq es, List.flatMap_cons]

theorem nodesOfOption_eq : (o : Option Expression) → nodesOfOption o = o.toList.flatMap preorder
  | none => by rw [nodesOfOption]; rfl
  | some e => by
      rw [nodesOfOption, nodes_eq_preorder e, Option.toList_some, List.flatMap_cons, List.flatMap_nil, List.append_nil]

end

theorem nodes_eq (e : Expression) : e.nodes = e :: e.children.flatMap nodes := by
  rw [nodes_eq_preorder, preorder_eq, show nodes = preorder from funext nodes_eq_preorder]

/-! ## Step by step -/

/-- One step of the walk. The end of the stack is taken off and handed out, and its children take its place, the first
of them at the end. -/
def next? (stack : Array Expression) : Option (Expression × Array Expression) :=
  stack.back?.map fun e => (e, stack.pop ++ e.children.reverse)

/-- What the first `n` steps hand out, or all steps if there are fewer. -/
def handedOut : Nat → Array Expression → List Expression
  | 0, _ => []
  | n + 1, stack =>
    match next? stack with
    | none => []
    | some (e, rest) => e :: handedOut n rest

/-- What a stack still stands for: the nodes of everything on it, beginning at its end. -/
def outstanding (stack : Array Expression) : List Expression :=
  stack.toList.reverse.flatMap nodes

theorem next?_push (stack : Array Expression) (e : Expression) :
    next? (stack.push e) = some (e, stack ++ e.children.reverse) := by
  rw [next?, Array.back?_push, Option.map_some, Array.pop_push]

theorem outstanding_push (stack : Array Expression) (e : Expression) :
    outstanding (stack.push e) = e :: outstanding (stack ++ e.children.reverse) := by
  simp [outstanding, nodes_eq e]

/-- However far the walk has gone, what it hands out is what the stack stands for. -/
theorem handedOut_eq (n : Nat) (stack : Array Expression) : handedOut n stack = (outstanding stack).take n := by
  induction n generalizing stack with
  | zero => rw [handedOut, List.take_zero]
  | succ n ih =>
      rw [handedOut]
      by_cases hempty : stack = #[]
      · subst hempty
        rfl
      · obtain ⟨rest, e, rfl⟩ := Array.exists_push_of_ne_empty hempty
        rw [next?_push, outstanding_push, List.take_succ_cons]
        exact congrArg (e :: ·) (ih _)

/-! ## The places of the nodes -/

/-- The node at a place, given by the position among the children at each step down. -/
def nodeAt? (e : Expression) : List Nat → Option Expression
  | [] => some e
  | i :: path => e.children[i]?.bind (nodeAt? · path)

/-- The same for expressions that stand side by side: the first step picks one of them. -/
def nodeBelow? (es : List Expression) : List Nat → Option Expression
  | [] => none
  | i :: path => es[i]?.bind (nodeAt? · path)

theorem lt_length_of_nodeBelow? {es : List Expression} {i : Nat} {path : List Nat} {n : Expression}
    (h : nodeBelow? es (i :: path) = some n) : i < es.length := by
  obtain ⟨c, hc, _⟩ := Option.bind_eq_some_iff.mp h
  exact (List.getElem?_eq_some_iff.mp hc).1

theorem nodeBelow?_concat_eq_some_iff {es : List Expression} {e n : Expression} {path : List Nat} :
    nodeBelow? (es ++ [e]) path = some n ↔
      nodeBelow? es path = some n ∨ ∃ rest, path = es.length :: rest ∧ e.nodeAt? rest = some n := by
  cases path with
  | nil => simp [nodeBelow?]
  | cons i rest =>
      rcases Nat.lt_trichotomy i es.length with hi | rfl | hi
      · simp [nodeBelow?, List.getElem?_append_left hi, Nat.ne_of_lt hi]
      · simp [nodeBelow?]
      · have hlen : (es ++ [e]).length ≤ i := by rw [List.length_append]; exact hi
        simp [nodeBelow?, List.getElem?_eq_none hlen, List.getElem?_eq_none (Nat.le_of_lt hi), Nat.ne_of_gt hi]

/-- Going through the places in `order` meets the nodes `ns` one after the other, comes to every place at which there is
a node, and never comes to a place from below. -/
structure Tours (at? : List Nat → Option Expression) (ns : List Expression) (order : List (List Nat)) : Prop where
  meets : List.Forall₂ (fun path node => at? path = some node) order ns
  complete : ∀ path, path ∈ order ↔ (at? path).isSome
  downward : order.Pairwise fun earlier later => ¬ later <+: earlier

namespace Tours

variable {at? : List Nat → Option Expression} {ns es : List Expression} {e : Expression} {order order' : List (List Nat)}

/-- No place is visited twice, since every place lies below itself. -/
theorem nodup (h : Tours at? ns order) : order.Nodup := by
  refine h.downward.imp ?_
  intro earlier later hp he
  exact hp (he ▸ List.prefix_rfl)

theorem nil : Tours (nodeBelow? []) [] [] where
  meets := .nil
  complete path := by cases path <;> simp [nodeBelow?]
  downward := .nil

/-- The places of a further expression on the right come after all others. -/
theorem concat (h : Tours (nodeBelow? es) (es.flatMap nodes) order) (he : Tours e.nodeAt? e.nodes order') :
    Tours (nodeBelow? (es ++ [e])) ((es ++ [e]).flatMap nodes) (order ++ order'.map (es.length :: ·)) := by
  refine ⟨?_, fun path => ?_, List.pairwise_append.mpr ⟨h.downward, ?_, ?_⟩⟩
  · rw [List.flatMap_append, List.flatMap_cons, List.flatMap_nil, List.append_nil]
    refine List.rel_append (h.meets.imp fun _ _ hn => nodeBelow?_concat_eq_some_iff.mpr (Or.inl hn)) ?_
    rw [List.forall₂_map_left_iff]
    exact he.meets.imp fun rest _ hn => nodeBelow?_concat_eq_some_iff.mpr (Or.inr ⟨rest, rfl, hn⟩)
  · simp only [List.mem_append, List.mem_map, h.complete, he.complete, Option.isSome_iff_exists,
      nodeBelow?_concat_eq_some_iff, exists_or]
    refine or_congr_right ⟨?_, ?_⟩
    · rintro ⟨rest, ⟨n, hn⟩, rfl⟩
      exact ⟨n, rest, rfl, hn⟩
    · rintro ⟨n, rest, rfl, hn⟩
      exact ⟨rest, ⟨n, hn⟩, rfl⟩
  · rw [List.pairwise_map]
    simpa only [List.cons_prefix_cons, true_and] using he.downward
  · intro earlier hearlier later hlater hp
    obtain ⟨rest, _, rfl⟩ := List.mem_map.mp hlater
    obtain ⟨n, hn⟩ := Option.isSome_iff_exists.mp ((h.complete earlier).mp hearlier)
    cases earlier with
    | nil => cases hn
    | cons i path =>
        have hi := lt_length_of_nodeBelow? hn
        have heq := (List.cons_prefix_cons.mp hp).1
        omega

theorem root (h : Tours (nodeBelow? e.children) (e.children.flatMap nodes) order) :
    Tours e.nodeAt? e.nodes ([] :: order) := by
  refine ⟨?_, fun path => ?_, List.pairwise_cons.mpr ⟨fun path hpath hp => ?_, h.downward⟩⟩
  · rw [nodes_eq]
    refine .cons rfl (h.meets.imp fun path node hn => ?_)
    cases path with
    | nil => cases hn
    | cons i rest => exact hn
  · cases path with
    | nil => simp [nodeAt?]
    | cons i rest =>
        rw [List.mem_cons, or_iff_right (by simp)]
        exact h.complete (i :: rest)
  · rw [List.prefix_nil.mp hp] at hpath
    cases (h.complete []).mp hpath

end Tours

theorem exists_tours (e : Expression) : ∃ order, Tours e.nodeAt? e.nodes order := by
  induction e using induction_on_children with
  | step e ih =>
      have hchildren : ∀ es : List Expression, (∀ c ∈ es, ∃ order, Tours c.nodeAt? c.nodes order) →
          ∃ order, Tours (nodeBelow? es) (es.flatMap nodes) order := by
        intro es hes
        induction es using List.reverseRecOn with
        | nil => exact ⟨[], .nil⟩
        | append_singleton es c ihs =>
            obtain ⟨order, horder⟩ := ihs fun c' hc' => hes c' (by simp [hc'])
            obtain ⟨order', horder'⟩ := hes c (by simp)
            exact ⟨_, horder.concat horder'⟩
      obtain ⟨order, horder⟩ := hchildren e.children ih
      exact ⟨_, horder.root⟩

/-- The walk with a stack lists a node, then the nodes of each of its parts in the order of evaluation. After any number
of steps it has handed out just that many of them, so it stops after the last one. Every place of the tree is visited
exactly once, and before all places below it. -/
theorem descendants_visit_in_order (e : Expression) :
    e.descendants = e.nodes ∧
    (∀ n, handedOut n #[e] = e.nodes.take n) ∧
    ∃ order, order.Nodup ∧ Tours e.nodeAt? e.descendants order := by
  have hnodes : e.descendants = e.nodes := by rw [descendants_eq_preorder, nodes_eq_preorder]
  obtain ⟨order, horder⟩ := exists_tours e
  refine ⟨hnodes, fun n => ?_, order, horder.nodup, hnodes ▸ horder⟩
  rw [handedOut_eq, outstanding]
  simp

end Expression

end AsyncLint
