import AsyncLint.Lowering.Registry
import AsyncLint.Proofs.Names
import AsyncLint.Proofs.Offsets

/-!
# The tree keeps the source

Cutting a source into tokens and filling shapes with them loses nothing: the text of the tree is the source. So the
count of bytes at which a node starts is that of the text before it, and the name of a function is found in the source
where the function says it is.
-/

namespace AsyncLint

open Source Text

namespace Source

/-! ## Tokens -/

theorem text_tokensOf (cs : List Char) : (tokensOf cs).flatMap (·.text.toList) = cs := by
  induction cs using tokensOf.induct with
  | case1 => simp [tokensOf]
  | case2 c rest scan ih => simp [tokensOf, ih, scan]

theorem text_tokenize (source : String) : (tokenize source).flatMap (·.text.toList) = source.toList := by
  unfold tokenize
  dsimp only
  split <;> simp [text_tokensOf]

/-! ## Shapes -/

theorem SyntaxTree.toList_textOf (ts : List SyntaxTree) : (textOf ts).toList = ts.flatMap (·.text.toList) := by
  induction ts with
  | nil => simp [textOf]
  | cons t ts ih => simp [textOf, ih]

theorem SyntaxTree.toList_text_node (kind : NodeKind) (children : List SyntaxTree) :
    (node kind children).text.toList = children.flatMap (·.text.toList) := by
  rw [text, toList_textOf]

theorem text_tokens (ts : List Token) :
    (ts.map (·.tree)).flatMap (·.text.toList) = ts.flatMap (·.text.toList) := by
  rw [List.flatMap_map]
  rfl

theorem text_gluedTree (ts : List Token) (count : Nat) :
    (gluedTree ts count).flatMap (·.text.toList) = (ts.take count).flatMap (·.text.toList) := by
  unfold gluedTree
  split
  · rename_i h
    rw [h]
    rfl
  · rename_i t h
    rw [h]
    rfl
  · simp only [List.flatMap_cons, List.flatMap_nil, List.append_nil, SyntaxTree.text, String.toList_join,
      List.flatMap_map]

theorem text_cutToken (kind : TokenKind) (length : Nat) (ts : List Token) :
    (cutToken kind length ts).1.flatMap (·.text.toList) ++ (cutToken kind length ts).2.flatMap (·.text.toList) =
      ts.flatMap (·.text.toList) := by
  cases ts with
  | nil => rfl
  | cons t ts =>
      simp only [cutToken]
      split
      · rename_i h
        have hnil : t.text.toList.drop length = [] := by simpa using congrArg String.toList h
        simp [SyntaxTree.text, List.take_of_length_le (List.drop_eq_nil_iff.mp hnil)]
      · simp [SyntaxTree.text, ← List.append_assoc]

theorem text_append_drop {ts us : List Token} (h : ts <+: us) :
    ts.flatMap (·.text.toList) ++ (us.drop ts.length).flatMap (·.text.toList) = us.flatMap (·.text.toList) := by
  obtain ⟨vs, rfl⟩ := h
  simp

mutual

theorem Shape.text_fill (s : Shape) (input : List Token) :
    (s.fill input).1.flatMap (·.text.toList) ++ (s.fill input).2.flatMap (·.text.toList) =
      input.flatMap (·.text.toList) := by
  have htrivia := text_append_drop (input.takeWhile_prefix (·.kind.isTrivia))
  cases s with
  | tokens count =>
      simp only [fill, List.flatMap_append, text_tokens, text_gluedTree, List.append_assoc]
      rw [← List.flatMap_append, List.take_append_drop, htrivia]
  | part kind length =>
      simp only [fill, List.flatMap_append, text_tokens, List.append_assoc]
      rw [text_cutToken, htrivia]
  | node kind children =>
      simp only [fill, List.flatMap_append, List.flatMap_cons, List.flatMap_nil, List.append_nil, text_tokens,
        SyntaxTree.toList_text_node, List.append_assoc]
      rw [Shape.text_fillAll, ← List.append_assoc, ← List.flatMap_append, List.take_append_drop, htrivia]

theorem Shape.text_fillAll (ss : List Shape) (input : List Token) :
    (fillAll ss input).1.flatMap (·.text.toList) ++ (fillAll ss input).2.flatMap (·.text.toList) =
      input.flatMap (·.text.toList) := by
  cases ss with
  | nil => simp [fillAll]
  | cons s ss =>
      simp only [fillAll, List.flatMap_append, List.append_assoc]
      rw [Shape.text_fillAll, Shape.text_fill]

end

/-- The text of the tree of a source is the source. -/
theorem text_of_parse? {source : String} {tree : SyntaxTree} (h : parse? source = some tree) :
    tree.text.toList = source.toList := by
  obtain ⟨shapes, _, rfl⟩ := exists_shapes_of_parse? h
  rw [fillFile, SyntaxTree.toList_text_node, List.flatMap_append, text_tokens, Shape.text_fillAll, text_tokenize]

/-! ## Counts of bytes -/

mutual

theorem SyntaxTree.byteSize_eq (t : SyntaxTree) : t.byteSize = byteLength t.text.toList := by
  cases t with
  | token kind text => rw [byteSize, SyntaxTree.text, utf8ByteSize_eq]
  | node kind children => rw [byteSize, toList_text_node, SyntaxTree.byteSizeOf_eq]

theorem SyntaxTree.byteSizeOf_eq (ts : List SyntaxTree) :
    byteSizeOf ts = byteLength (ts.flatMap (·.text.toList)) := by
  cases ts with
  | nil => rfl
  | cons t ts =>
      rw [byteSizeOf, List.flatMap_cons, byteLength_append, SyntaxTree.byteSize_eq, SyntaxTree.byteSizeOf_eq]

end

end Source

/-! ## Functions in the text -/

variable {site : FnSite}

mutual

/-- What holds of a tree and of the parts of every tree holds of the functions below it. -/
theorem of_mem_fnSites {P : SyntaxTree → Prop} (hP : ∀ kind children, P (.node kind children) → ∀ c ∈ children, P c)
    (s : Surroundings) (offset : Nat) : (t : SyntaxTree) → P t → site ∈ fnSites s offset t → P site.node
  | .token _ _, _, hs => by cases hs
  | .node kind children, ht, hs => by
      rw [fnSites] at hs
      split at hs
      · rcases List.mem_cons.mp hs with rfl | hs
        · exact ht
        · exact of_mem_fnSitesOf hP _ offset children (hP kind children ht) hs
      · exact of_mem_fnSitesOf hP _ offset children (hP kind children ht) hs

theorem of_mem_fnSitesOf {P : SyntaxTree → Prop} (hP : ∀ kind children, P (.node kind children) → ∀ c ∈ children, P c)
    (s : Surroundings) (offset : Nat) :
    (ts : List SyntaxTree) → (∀ t ∈ ts, P t) → site ∈ fnSitesOf s offset ts → P site.node
  | [], _, hs => by cases hs
  | t :: ts, h, hs => by
      rw [fnSitesOf] at hs
      rcases List.mem_append.mp hs with hs | hs
      · exact of_mem_fnSites hP s offset t (h t List.mem_cons_self) hs
      · exact of_mem_fnSitesOf hP s _ ts (fun t ht => h t (List.mem_cons_of_mem _ ht)) hs

end

/-- The function stands where it says in `text`, which starts at `offset`. -/
def FnSite.StandsIn (site : FnSite) (offset : Nat) (text : List Char) : Prop :=
  ∃ before after, text = before ++ site.node.text.toList ++ after ∧ site.offset = offset + byteLength before

mutual

theorem standsIn_of_mem_fnSites (s : Surroundings) (offset : Nat) :
    (t : SyntaxTree) → site ∈ fnSites s offset t → site.StandsIn offset t.text.toList
  | .token _ _, hs => by cases hs
  | .node kind children, hs => by
      rw [fnSites] at hs
      split at hs
      · rcases List.mem_cons.mp hs with rfl | hs
        · exact ⟨[], [], by simp, rfl⟩
        · rw [SyntaxTree.toList_text_node]
          exact standsIn_of_mem_fnSitesOf _ offset children hs
      · rw [SyntaxTree.toList_text_node]
        exact standsIn_of_mem_fnSitesOf _ offset children hs

theorem standsIn_of_mem_fnSitesOf (s : Surroundings) (offset : Nat) :
    (ts : List SyntaxTree) → site ∈ fnSitesOf s offset ts → site.StandsIn offset (ts.flatMap (·.text.toList))
  | [], hs => by cases hs
  | t :: ts, hs => by
      rw [fnSitesOf] at hs
      rcases List.mem_append.mp hs with hs | hs
      · obtain ⟨before, after, htext, hoffset⟩ := standsIn_of_mem_fnSites s offset t hs
        exact ⟨before, after ++ ts.flatMap (·.text.toList), by simp [htext], hoffset⟩
      · obtain ⟨before, after, htext, hoffset⟩ := standsIn_of_mem_fnSitesOf s _ ts hs
        refine ⟨t.text.toList ++ before, after, by simp [htext], ?_⟩
        rw [hoffset, SyntaxTree.byteSize_eq, byteLength_append, Nat.add_assoc]

end

/-- A name node is one word. -/
theorem Source.SyntaxTree.Named.name {t : SyntaxTree} (h : t.Named) (hk : t.isNode .name = true) :
    IsWord t.firstToken ∧ t.text = t.firstToken := by
  cases h with
  | token => cases hk
  | node name below =>
      obtain ⟨k, text, rfl, hword⟩ := name (by simpa [SyntaxTree.isNode, SyntaxTree.kind?] using hk)
      exact ⟨hword, by simp [SyntaxTree.text, SyntaxTree.textOf, SyntaxTree.firstToken]⟩

theorem Source.SyntaxTree.Named.of_mem_children {t c : SyntaxTree} (h : t.Named) (hc : c ∈ t.children) : c.Named := by
  cases h with
  | token => cases hc
  | node _ below => exact below c hc

/-- The name of a function is a word that stands where the function says. -/
theorem FnSite.StandsIn.name {text : List Char} {name : String} (h : site.StandsIn 0 text) (hnamed : site.node.Named)
    (hname : site.node.name? = some name) :
    IsWord name ∧ ∃ before after, text = before ++ name.toList ++ after ∧ byteLength before = site.nameOffset := by
  obtain ⟨before, after, rfl, hoffset⟩ := h
  obtain ⟨n, hn, rfl⟩ := Option.map_eq_some_iff.mp hname
  obtain ⟨hkind, earlier, later, hchildren, hearlier⟩ := List.find?_eq_some_iff_append.mp hn
  have hmem : n ∈ site.node.children := by rw [hchildren]; simp
  obtain ⟨hword, htext⟩ := (hnamed.of_mem_children hmem).name hkind
  have hnode : site.node.text.toList = site.node.children.flatMap (·.text.toList) := by
    cases hs : site.node with
    | token k t => rw [hs] at hmem; cases hmem
    | node k cs => exact SyntaxTree.toList_text_node k cs
  refine ⟨hword, before ++ earlier.flatMap (·.text.toList), later.flatMap (·.text.toList) ++ after, ?_, ?_⟩
  · simp [hnode, hchildren, htext]
  · have htake : site.node.children.takeWhile (fun c => !c.isNode .name) = earlier := by
      rw [hchildren, List.takeWhile_append_of_pos hearlier, List.takeWhile_cons_of_neg (by simp [hkind]),
        List.append_nil]
    rw [FnSite.nameOffset, htake, hoffset, byteLength_append, SyntaxTree.byteSizeOf_eq, Nat.zero_add]

end AsyncLint
