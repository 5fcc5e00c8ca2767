import AsyncLint.Lowering.Unit
import AsyncLint.Proofs.Expression

/-!
# Lowered bodies

Lowering enters the calls of a body into the call table, each after the calls among its parts, and the calls of the
expression that comes out carry the numbers of these entries, in the same order. No call is lost between a body and its
expression.
-/

namespace AsyncLint

open Source

/-! ## Entries of the call table -/

namespace CompileUnit

/-- Between `u` and `u'` the calls `ts` were entered into the table, under the numbers `ids`. -/
structure Enters (u : CompileUnit) (ts : List CallTarget) (ids : List CallId) (u' : CompileUnit) : Prop where
  declarations : u'.declarations = u.declarations
  callTargets : u'.callTargets.toList = u.callTargets.toList ++ ts
  numbered : ids = List.range' u.callTargets.size ts.length

/-- The table has the calls `ts` under the numbers `ids`. -/
def Resolves (u : CompileUnit) (ids : List CallId) (ts : List CallTarget) : Prop :=
  ids.map (u.callTargets[·]?) = ts.map some

variable {u v w : CompileUnit} {ts us : List CallTarget} {ids is : List CallId}

theorem Enters.of_eq (hd : v.declarations = u.declarations) (hc : v.callTargets = u.callTargets) :
    Enters u [] [] v :=
  ⟨hd, by rw [hc, List.append_nil], rfl⟩

theorem Enters.append (h₁ : Enters u ts ids v) (h₂ : Enters v us is w) : Enters u (ts ++ us) (ids ++ is) w := by
  refine ⟨h₂.declarations.trans h₁.declarations, ?_, ?_⟩
  · rw [h₂.callTargets, h₁.callTargets, List.append_assoc]
  · have hsize : v.callTargets.size = u.callTargets.size + ts.length := by
      rw [← Array.length_toList, h₁.callTargets, List.length_append, Array.length_toList]
    rw [h₁.numbered, h₂.numbered, hsize, List.length_append, List.range'_append_1]

theorem Enters.resolves (h : Enters u ts ids v) : v.Resolves ids ts := by
  unfold Resolves
  rw [h.numbered]
  apply List.ext_getElem
  · simp
  · intro i h₁ h₂
    have hi : i < ts.length := by simpa using h₂
    simp only [List.getElem_map, List.getElem_range', ← Array.getElem?_toList, h.callTargets]
    rw [List.getElem?_append_right (by simp)]
    simp [hi]

theorem Resolves.mono (h : u.Resolves ids ts) (hp : u.callTargets.toList <+: v.callTargets.toList) :
    v.Resolves ids ts := by
  refine Eq.trans (List.map_congr_left fun id hid => ?_) h
  obtain ⟨t, _, ht⟩ : ∃ t ∈ ts, some t = u.callTargets[id]? := by
    have hm : u.callTargets[id]? ∈ ts.map some := h ▸ List.mem_map_of_mem hid
    simpa using hm
  obtain ⟨more, hmore⟩ := hp
  rw [← Array.getElem?_toList] at ht
  rw [← Array.getElem?_toList, ← Array.getElem?_toList, ← hmore]
  exact List.getElem?_append_left (List.getElem?_eq_some_iff.mp ht.symm).1

theorem Resolves.exists_call {e : Expression} {t : CallTarget} (h : u.Resolves e.callIds ts) (ht : t ∈ ts) :
    ∃ id arguments, .call id arguments ∈ e.preorder ∧ u.callTarget id = t := by
  have hm : some t ∈ e.callIds.map (u.callTargets[·]?) := h ▸ List.mem_map_of_mem ht
  obtain ⟨id, hid, hlook⟩ := List.mem_map.mp hm
  obtain ⟨arguments, hcall⟩ := Expression.mem_callIds_iff.mp hid
  exact ⟨id, arguments, hcall, by rw [callTarget, hlook, Option.getD_some]⟩

end CompileUnit

open CompileUnit

/-! ## One expression -/

namespace Head

/-- What the expression itself resolves to, if it is a call. -/
def target? : Head → Option CallTarget
  | .call target => some target
  | _ => none

/-- Whether an expression of this kind has a place for `n` parts. -/
def takes (n : Nat) : Head → Bool
  | .closure => n ≤ 1
  | .conditional => n ≤ 3
  | .reference _ | .inert => n = 0
  | .call _ | .deferred | .block | .loop => true

/-- All parts end up in the expression, and a call takes the next number. -/
theorem build_enters {head : Head} {parts : List Expression} (h : head.takes parts.length = true)
    (u : CompileUnit) : ∃ e v ids, (head.build parts).run u = (e, v) ∧
      e.callIds = parts.flatMap Expression.callIds ++ ids ∧ Enters u head.target?.toList ids v := by
  cases head with
  | call target =>
      refine ⟨_, _, [u.callTargets.size], rfl, Expression.callIds_call _ _, rfl, ?_, rfl⟩
      simp [target?]
  | closure =>
      refine ⟨_, _, [], rfl, ?_, .of_eq rfl rfl⟩
      match parts, h with
      | [], _ => simp
      | [e], _ => simp
  | deferred => exact ⟨_, _, [], rfl, by simp, .of_eq rfl rfl⟩
  | block => exact ⟨_, _, [], rfl, by simp, .of_eq rfl rfl⟩
  | conditional =>
      match parts, h with
      | [], _ => exact ⟨_, _, [], rfl, by simp, .of_eq rfl rfl⟩
      | [c], _ => exact ⟨_, _, [], rfl, by simp, .of_eq rfl rfl⟩
      | [c, t], _ => exact ⟨_, _, [], rfl, by simp, .of_eq rfl rfl⟩
      | [c, t, e], _ => exact ⟨_, _, [], rfl, by simp, .of_eq rfl rfl⟩
  | loop =>
      refine ⟨_, _, [], rfl, ?_, .of_eq rfl rfl⟩
      rcases List.eq_nil_or_concat parts with rfl | ⟨header, body, rfl⟩ <;> simp
  | reference target =>
      obtain rfl : parts = [] := by simpa [takes] using h
      exact ⟨_, _, [], rfl, by simp, .of_eq rfl rfl⟩
  | inert =>
      obtain rfl : parts = [] := by simpa [takes] using h
      exact ⟨_, _, [], rfl, by simp, .of_eq rfl rfl⟩

end Head

namespace Context

theorem macroForm_head (ctx : Context) (t : SyntaxTree) :
    (ctx.macroForm t).head = .call .suspension ∨ (ctx.macroForm t).head = .inert := by
  simp only [macroForm]
  split
  · exact Or.inl rfl
  · exact Or.inr rfl

theorem form_takes (ctx : Context) (t : SyntaxTree) : (ctx.form t).head.takes (ctx.form t).parts.length = true := by
  have hmac : ∀ m, (ctx.macroForm m).head.takes (ctx.macroForm m).parts.length = true := by
    intro m
    rw [macroForm_parts]
    rcases ctx.macroForm_head m with h | h <;> rw [h] <;> rfl
  unfold form
  split
  · unfold awaitForm
    split
    · rfl
    · simp only
      split <;> rfl
  · rfl
  · rfl
  · cases t.exprs <;> rfl
  · simp only
    split <;> rfl
  · exact decide_eq_true (List.length_take_le 3 t.exprs)
  · rfl
  · rfl
  · rfl
  · split <;> rfl
  · cases t.child? .macroCall with
    | none => rfl
    | some m => exact hmac m
  · exact hmac t
  · rfl
  · split <;> rfl

/-- What the calls of a lowered tree resolve to, each after the calls among its parts. -/
def emitted (ctx : Context) (t : SyntaxTree) : List CallTarget :=
  ((ctx.form t).parts.attach.map fun ⟨part, _⟩ => ctx.emitted part).flatten ++ (ctx.form t).head.target?.toList
termination_by sizeOf t
decreasing_by exact sizeOf_lt_of_mem_form (by assumption)

theorem emitted_eq (ctx : Context) (t : SyntaxTree) :
    ctx.emitted t = (ctx.form t).parts.flatMap ctx.emitted ++ (ctx.form t).head.target?.toList := by
  rw [emitted, List.flatMap]
  congr 2
  exact List.attach_map_val (f := ctx.emitted)

/-- A property of all trees follows from the step from the parts of a node to the node. -/
@[elab_as_elim]
theorem induction_on_parts (ctx : Context) {P : SyntaxTree → Prop} (t : SyntaxTree)
    (step : ∀ t, (∀ part ∈ (ctx.form t).parts, P part) → P t) : P t :=
  step t fun part _ => ctx.induction_on_parts part step
termination_by sizeOf t
decreasing_by exact sizeOf_lt_of_mem_form (by assumption)

end Context

theorem lower_eq (ctx : Context) (t : SyntaxTree) :
    lower ctx t = (ctx.form t).parts.mapM (lower ctx) >>= (ctx.form t).head.build := by
  rw [lower]
  congr 1
  exact (List.mapM_map (f := Subtype.val) (g := lower ctx)).symm.trans (by rw [List.attach_map_subtype_val])

/-- What is known about the lowering of a tree, from any unit on. -/
def LowersAll (ctx : Context) (t : SyntaxTree) : Prop :=
  ∀ u, ∃ e v, (lower ctx t).run u = (e, v) ∧ Enters u (ctx.emitted t) e.callIds v

theorem mapM_lower_enters {ctx : Context} {ts : List SyntaxTree} (h : ∀ t ∈ ts, LowersAll ctx t) (u : CompileUnit) :
    ∃ es v, (ts.mapM (lower ctx)).run u = (es, v) ∧ es.length = ts.length ∧
      Enters u (ts.flatMap ctx.emitted) (es.flatMap Expression.callIds) v := by
  induction ts generalizing u with
  | nil => exact ⟨[], u, rfl, rfl, .of_eq rfl rfl⟩
  | cons t ts ih =>
      obtain ⟨e, v, he, hev⟩ := h t (by simp) u
      obtain ⟨es, w, hes, hlen, hvw⟩ := ih (fun t ht => h t (by simp [ht])) v
      refine ⟨e :: es, w, ?_, by simp [hlen], ?_⟩
      · rw [List.mapM_cons, StateT.run_bind, he]
        change (ts.mapM (lower ctx) >>= fun es => pure (e :: es)).run v = _
        rw [StateT.run_bind, hes]
        rfl
      · exact hev.append hvw

theorem lower_enters (ctx : Context) (t : SyntaxTree) : LowersAll ctx t := by
  induction t using ctx.induction_on_parts with
  | step t ih =>
      intro u
      obtain ⟨es, v, hes, hlen, huv⟩ := mapM_lower_enters ih u
      obtain ⟨e, w, ids, he, hids, hvw⟩ := Head.build_enters (hlen ▸ ctx.form_takes t) v
      refine ⟨e, w, ?_, ?_⟩
      · rw [lower_eq, StateT.run_bind, hes]
        exact he
      · rw [ctx.emitted_eq, hids]
        exact huv.append hvw

/-! ## All functions of a source -/

section

variable {path : String} {registry : Registry} {config : LoweringConfig} {u v : CompileUnit}

namespace FnEntry

/-- What the calls of the lowered body resolve to. -/
def emitted (e : FnEntry) (registry : Registry) (config : LoweringConfig) : List CallTarget :=
  e.body.elim [] (e.context registry config).emitted

/-- `body` is what has become of the body of a function, in a unit that has all its calls. -/
def Becomes (e : FnEntry) (registry : Registry) (config : LoweringConfig) (u : CompileUnit)
    (body : Option Expression) : Prop :=
  Option.Rel (fun t x => u.Resolves x.callIds ((e.context registry config).emitted t)) e.body body

theorem Becomes.mono {e : FnEntry} {body : Option Expression} (h : e.Becomes registry config u body)
    (hp : u.callTargets.toList <+: v.callTargets.toList) : e.Becomes registry config v body := by
  unfold Becomes at *
  generalize e.body = t at h ⊢
  cases h with
  | some h => exact .some (h.mono hp)
  | none => exact .none

/-- Lowering the body of one function fills in its declaration and leaves the others alone. -/
theorem lowerBody_fills (e : FnEntry) (registry : Registry) (config : LoweringConfig) {id : DeclId} {d : Declaration}
    (hd : u.declaration? id = some d) (hb : d.body = none) : ∃ v body, (e.lowerBody id registry config).run u = ((), v) ∧
      v.callTargets.toList = u.callTargets.toList ++ e.emitted registry config ∧ v.size = u.size ∧
      v.declaration? id = some { d with body } ∧ (∀ other, other ≠ id → v.declaration? other = u.declaration? other) ∧
      e.Becomes registry config v body := by
  unfold lowerBody emitted Becomes
  cases e.body with
  | none => exact ⟨u, none, rfl, by simp, rfl, by rw [hd, ← hb], fun _ _ => rfl, .none⟩
  | some t =>
      obtain ⟨x, v, hx, huv⟩ := lower_enters (e.context registry config) t u
      have hlt : id < v.size := by
        rw [CompileUnit.size, huv.declarations]
        exact (Array.getElem?_eq_some_iff.mp hd).1
      have hset : (v.setBody? id x).getD v =
          { v with declarations := v.declarations.modify id fun d => { d with body := some x } } := by
        rw [CompileUnit.setBody?, CompileUnit.edit?, if_pos hlt, Option.getD_some]
      refine ⟨(v.setBody? id x).getD v, some x, ?_, ?_, ?_, ?_, ?_, ?_⟩
      · change (lower (e.context registry config) t >>= _).run u = _
        rw [StateT.run_bind, hx]
        rfl
      · rw [hset]
        exact huv.callTargets
      · rw [hset, CompileUnit.size, Array.size_modify, huv.declarations, CompileUnit.size]
      · rw [hset, CompileUnit.declaration?, Array.getElem?_modify, if_pos rfl, huv.declarations]
        rw [CompileUnit.declaration?] at hd
        rw [hd, Option.map_some]
      · intro other hne
        rw [hset, CompileUnit.declaration?, Array.getElem?_modify, if_neg (Ne.symm hne), huv.declarations,
          CompileUnit.declaration?]
      · rw [hset]
        exact .some (huv.resolves.mono (by simp))

end FnEntry

/-- The functions `es` have become the declarations from number `k` on. -/
structure Lowered (path : String) (registry : Registry) (config : LoweringConfig) (es : List FnEntry) (k : Nat)
    (u v : CompileUnit) : Prop where
  size : v.size = u.size
  callTargets : v.callTargets.toList = u.callTargets.toList ++ es.flatMap (·.emitted registry config)
  before : ∀ j : Nat, j < k → v.declaration? j = u.declaration? j
  declarations : ∀ i e, es[i]? = some e →
    ∃ body, v.declaration? (k + i) = some { e.declaration path with body } ∧ e.Becomes registry config v body

/-- Lowers the bodies of the functions `es`, whose declarations have the numbers from `k` on. -/
def lowerBodies (registry : Registry) (config : LoweringConfig) (es : List FnEntry) (k : Nat) : Building Unit :=
  (es.zipIdx k).forM fun (e, id) => e.lowerBody id registry config

theorem lowerBodies_cons (e : FnEntry) (es : List FnEntry) (k : Nat) :
    lowerBodies registry config (e :: es) k =
      e.lowerBody k registry config >>= fun _ => lowerBodies registry config es (k + 1) :=
  rfl

theorem lowerBodies_lowered {es : List FnEntry} {k : Nat}
    (h : ∀ (i : Nat) (e : FnEntry), es[i]? = some e → u.declaration? (k + i) = some (e.declaration path)) :
    Lowered path registry config es k u ((lowerBodies registry config es k).run u).2 := by
  induction es generalizing k u with
  | nil => exact ⟨rfl, (List.append_nil _).symm, fun _ _ => rfl, by simp⟩
  | cons e es ih =>
      obtain ⟨v, body, hrun, hcalls, hsize, hdecl, hother, hbody⟩ :=
        e.lowerBody_fills registry config (h 0 e rfl) rfl
      have hrest : ∀ (i : Nat) (e' : FnEntry), es[i]? = some e' →
          v.declaration? (k + 1 + i) = some (e'.declaration path) := by
        intro i e' he'
        have hne : k + 1 + i ≠ k := by omega
        rw [hother _ hne, Nat.add_assoc, Nat.add_comm 1]
        exact h (i + 1) e' he'
      have hstep : (lowerBodies registry config (e :: es) k).run u =
          (lowerBodies registry config es (k + 1)).run v := by
        rw [lowerBodies_cons, StateT.run_bind]
        exact congrArg (fun r => (lowerBodies registry config es (k + 1)).run r.2) hrun
      rw [hstep]
      have hih := ih hrest
      refine ⟨hih.size.trans hsize, ?_, ?_, ?_⟩
      · rw [hih.callTargets, hcalls, List.append_assoc, List.flatMap_cons]
      · intro j hj
        rw [hih.before j (by omega), hother j (Nat.ne_of_lt hj)]
      · rintro (_ | i) e' he'
        · obtain rfl : e = e' := by simpa using he'
          refine ⟨body, (hih.before k (by omega)).trans hdecl, hbody.mono ?_⟩
          exact ⟨_, hih.callTargets.symm⟩
        · obtain ⟨body', hd', hb'⟩ := hih.declarations i e' he'
          refine ⟨body', ?_, hb'⟩
          rw [← hd', Nat.add_assoc, Nat.add_comm 1]

/-- The declarations of the unit of a source are its functions, in order, each with its lowered body. -/
theorem unitOfTree_lowered (path source : String) (tree : SyntaxTree) (config : LoweringConfig) :
    Lowered path (Registry.of source tree config) config (Registry.of source tree config).entries 0
      { name := path, declarations := ((Registry.of source tree config).entries.map (·.declaration path)).toArray }
      (unitOfTree path source tree config) := by
  apply lowerBodies_lowered
  intro i e he
  simp [CompileUnit.declaration?, he]

theorem size_unitOfTree (path source : String) (tree : SyntaxTree) (config : LoweringConfig) :
    (unitOfTree path source tree config).size = (Registry.of source tree config).entries.length := by
  rw [(unitOfTree_lowered path source tree config).size]
  simp [CompileUnit.size]

theorem declaration?_unitOfTree (path : String) {source : String} {tree : SyntaxTree} {id : DeclId} {e : FnEntry}
    (he : (Registry.of source tree config).entries[id]? = some e) :
    ∃ body, (unitOfTree path source tree config).declaration? id = some { e.declaration path with body } ∧
      e.Becomes (Registry.of source tree config) config (unitOfTree path source tree config) body := by
  simpa using (unitOfTree_lowered path source tree config).declarations id e he

theorem exists_entry_of_declaration? {source : String} {tree : SyntaxTree} {id : DeclId} {d : Declaration}
    (hd : (unitOfTree path source tree config).declaration? id = some d) :
    ∃ e body, (Registry.of source tree config).entries[id]? = some e ∧ d = { e.declaration path with body } ∧
      e.Becomes (Registry.of source tree config) config (unitOfTree path source tree config) body := by
  have hlt : id < (Registry.of source tree config).entries.length :=
    size_unitOfTree path source tree config ▸ (Array.getElem?_eq_some_iff.mp hd).1
  have he := List.getElem?_eq_getElem hlt
  obtain ⟨body, hdecl, hbody⟩ := declaration?_unitOfTree path he
  exact ⟨_, body, he, Option.some.inj (hd.symm.trans hdecl), hbody⟩

end

end AsyncLint
