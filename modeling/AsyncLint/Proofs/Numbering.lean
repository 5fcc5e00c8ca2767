import AsyncLint.Proofs.Await

/-!
# Numbers and names in lowered units

Lowering gives out the numbers of calls and of function values one after the other, each to a node of some body, and it
resolves names to functions of the source only. So a lowered unit has no number twice, none unused, and no name that
leads nowhere.
-/

namespace AsyncLint

open Source

/-! ## Reading off numbers -/

namespace Expression

/-- The number of a node, if it is a function value. -/
def slotId? : Expression → Option SlotId
  | .lambda slot _ | .reference slot _ => some slot
  | _ => none

/-- The declaration that a node refers to, if it is a reference. -/
def referent? : Expression → Option DeclId
  | .reference _ target => some target
  | _ => none

/-- What `f` reads off the nodes of a tree, each after those below it. -/
def collect {α : Type} (f : Expression → Option α) (e : Expression) : List α :=
  e.postorder.filterMap f

/-- The numbers of all function values, each after those below it. -/
def slotIds (e : Expression) : List SlotId :=
  e.collect slotId?

variable {α : Type} {f : Expression → Option α}

theorem collect_eq (e : Expression) : e.collect f = e.children.flatMap (collect f) ++ (f e).toList := by
  rw [collect, postorder_eq, List.filterMap_append, List.filterMap_flatMap]
  rfl

end Expression

/-- Everything that can be read off the parts can be read off the expression built from them. -/
theorem Head.build_collect {α : Type} {f : Expression → Option α} (hi : f .inert = none)
    (hb : ∀ items, f (.block items) = none) {head : Head} {parts : List Expression}
    (h : head.takes parts.length = true) (u : CompileUnit) :
    ((head.build parts).run u).1.collect f =
      parts.flatMap (Expression.collect f) ++ (f ((head.build parts).run u).1).toList := by
  have hinert : Expression.inert.collect f = [] := by
    rw [Expression.collect_eq, hi]
    rfl
  rw [Expression.collect_eq]
  congr 1
  cases head with
  | call target => rfl
  | closure =>
      match parts, h with
      | [], _ => exact (List.append_nil _).trans hinert
      | [e], _ => rfl
  | deferred =>
      change Expression.collect f (.block parts) ++ [] = _
      rw [Expression.collect_eq, hb, List.append_nil]
      exact List.append_nil _
  | block => rfl
  | conditional =>
      match parts, h with
      | [], _ =>
          change [Expression.inert, .inert].flatMap (Expression.collect f) = []
          simp [hinert]
      | [c], _ =>
          change [c, .inert].flatMap (Expression.collect f) = [c].flatMap (Expression.collect f)
          simp [hinert]
      | [c, t], _ => rfl
      | [c, t, e], _ => rfl
  | loop =>
      change List.flatMap _ (_ ++ [_]) = _
      rcases List.eq_nil_or_concat parts with rfl | ⟨header, body, rfl⟩ <;> simp [hinert]
  | reference target =>
      obtain rfl : parts = [] := by simpa [takes] using h
      rfl
  | inert =>
      obtain rfl : parts = [] := by simpa [takes] using h
      rfl

/-! ## Names of the source -/

namespace Registry

end Registry

namespace Context

variable {ctx : Context} {t : SyntaxTree} {id : DeclId}

end Context

/-- A call leads to a function of the source if it leads to a declaration, and to an async one if it waits for it. -/
def CallTarget.IsKnown (r : Registry) : CallTarget → Prop
  | .asyncDecl callee => ∃ e, r.entries[callee]? = some e ∧ e.isAsync = true
  | .syncDecl callee => callee < r.entries.length
  | .suspension | .unknown => True

/-- The declarations that an expression names by itself are functions of the source. -/
def Head.IsKnown (r : Registry) : Head → Prop
  | .call target => target.IsKnown r
  | .reference target => target < r.entries.length
  | _ => True

/-- The expressions `es` carry all numbers that the tables of `u` have entries for, in order, and name functions of the
source only. -/
structure Numbered (r : Registry) (u : CompileUnit) (es : List Expression) : Prop where
  calls : es.flatMap Expression.callIds = List.range u.callTargets.size
  slots : es.flatMap Expression.slotIds = List.range u.asyncSlots.size
  notAsync : ∀ slot ∈ u.asyncSlots.toList, slot = false
  targets : ∀ target ∈ u.callTargets.toList, target.IsKnown r
  referents : ∀ target ∈ es.flatMap (Expression.collect Expression.referent?), target < r.entries.length

namespace Head

/-- Whether the parameter behind the expression itself is async, if the expression is a function value. -/
def slot? : Head → Option Bool
  | .closure | .deferred | .reference _ => some false
  | _ => none

/-- Building `e` enters `e` itself into the tables, and nothing else. -/
structure Builds (head : Head) (u : CompileUnit) (e : Expression) (v : CompileUnit) : Prop where
  declarations : v.declarations = u.declarations
  callTargets : v.callTargets.toList = u.callTargets.toList ++ head.target?.toList
  asyncSlots : v.asyncSlots.toList = u.asyncSlots.toList ++ head.slot?.toList
  callId : e.callId?.toList = List.range' u.callTargets.size head.target?.toList.length
  slotId : e.slotId?.toList = List.range' u.asyncSlots.size head.slot?.toList.length
  referent : ∀ target ∈ e.referent?, head = .reference target

theorem build_builds (head : Head) (parts : List Expression) (u : CompileUnit) :
    head.Builds u ((head.build parts).run u).1 ((head.build parts).run u).2 := by
  have hplain : ∀ {e : Expression}, e.callId? = none → e.slotId? = none → e.referent? = none → head.target? = none →
      head.slot? = none → head.Builds u e u := by
    intro e hc hs hr ht hv
    exact ⟨rfl, by simp [ht], by simp [hv], by simp [hc, ht], by simp [hs, hv], by simp [hr]⟩
  cases head with
  | call target => exact ⟨rfl, Array.toList_push, (List.append_nil _).symm, rfl, rfl, fun _ h => by cases h⟩
  | closure => exact ⟨rfl, (List.append_nil _).symm, Array.toList_push, rfl, rfl, fun _ h => by cases h⟩
  | deferred => exact ⟨rfl, (List.append_nil _).symm, Array.toList_push, rfl, rfl, fun _ h => by cases h⟩
  | block => exact hplain rfl rfl rfl rfl rfl
  | conditional =>
      match parts with
      | [] | [_] | _ :: _ :: _ => exact hplain rfl rfl rfl rfl rfl
  | loop => exact hplain rfl rfl rfl rfl rfl
  | reference target => exact ⟨rfl, (List.append_nil _).symm, Array.toList_push, rfl, rfl, fun _ h => by cases h; rfl⟩
  | inert => exact hplain rfl rfl rfl rfl rfl

end Head

/-- Numbers for the entries of a table, then numbers for the entries that are added, are numbers for all entries. -/
theorem append_eq_range {α : Type} {table table' : Array α} {added : List α} {old own : List Nat}
    (hold : old = List.range table.size) (hown : own = List.range' table.size added.length)
    (htable : table'.toList = table.toList ++ added) : old ++ own = List.range table'.size := by
  have hsize : table'.size = table.size + added.length := by
    rw [← Array.length_toList, htable, List.length_append, Array.length_toList]
  have happend := @List.range'_append_1 0 table.size added.length
  rw [Nat.zero_add] at happend
  rw [hold, hown, hsize, List.range_eq_range', List.range_eq_range', happend]

namespace Numbered

variable {r : Registry} {u : CompileUnit} {es parts : List Expression} {head : Head}

/-- An expression takes the place of its parts when it is built. -/
theorem build (h : Numbered r u (es ++ parts)) (hk : head.IsKnown r) (ht : head.takes parts.length = true) :
    Numbered r ((head.build parts).run u).2 (es ++ [((head.build parts).run u).1]) := by
  have hcalls : ((head.build parts).run u).1.callIds = parts.flatMap Expression.callIds ++ _ :=
    Head.build_collect (f := Expression.callId?) rfl (fun _ => rfl) ht u
  have hslots : ((head.build parts).run u).1.slotIds = parts.flatMap Expression.slotIds ++ _ :=
    Head.build_collect (f := Expression.slotId?) rfl (fun _ => rfl) ht u
  have hrefs := Head.build_collect (f := Expression.referent?) rfl (fun _ => rfl) ht u
  have hb := head.build_builds parts u
  generalize ((head.build parts).run u).1 = e at *
  generalize ((head.build parts).run u).2 = v at *
  have hsplit : ∀ {α : Type} (f : Expression → List α), (es ++ [e]).flatMap f = es.flatMap f ++ f e := by simp
  refine ⟨?_, ?_, fun slot hm => ?_, fun target hm => ?_, fun target hm => ?_⟩
  · rw [hsplit, hcalls, ← List.append_assoc, ← List.flatMap_append]
    exact append_eq_range h.calls hb.callId hb.callTargets
  · rw [hsplit, hslots, ← List.append_assoc, ← List.flatMap_append]
    exact append_eq_range h.slots hb.slotId hb.asyncSlots
  · rw [hb.asyncSlots, List.mem_append] at hm
    rcases hm with hm | hm
    · exact h.notAsync slot hm
    · cases head <;> simp_all [Head.slot?]
  · rw [hb.callTargets, List.mem_append] at hm
    rcases hm with hm | hm
    · exact h.targets target hm
    · cases head with
      | call target' =>
          obtain rfl : target = target' := by simpa [Head.target?] using hm
          exact hk
      | _ => cases hm
  · rw [hsplit, hrefs, ← List.append_assoc, ← List.flatMap_append, List.mem_append, Option.mem_toList] at hm
    rcases hm with hm | hm
    · exact h.referents target hm
    · rw [hb.referent target hm] at hk
      exact hk

end Numbered

/-! ## Lowering -/

namespace CompileUnit

/-- No declaration from number `k` on has a body. -/
def BodilessFrom (u : CompileUnit) (k : Nat) : Prop :=
  ∀ d ∈ u.declarations.toList.drop k, d.body = none

variable {u : CompileUnit} {k : Nat} {body : Expression}

theorem BodilessFrom.succ (h : u.BodilessFrom k) : u.BodilessFrom (k + 1) := by
  intro d hd
  rw [← List.drop_drop] at hd
  exact h d (List.mem_of_mem_drop hd)

theorem BodilessFrom.bodies_eq (h : u.BodilessFrom k) :
    u.bodies = (u.declarations.toList.take k).filterMap (·.body) := by
  have hdrop : (u.declarations.toList.drop k).filterMap (·.body) = [] := List.filterMap_eq_nil_iff.mpr h
  rw [bodies, ← List.take_append_drop k u.declarations.toList, List.filterMap_append, hdrop, List.append_nil,
    List.take_append_drop]

/-- A body that is stored where none of the later declarations has one yet becomes the last body. -/
theorem BodilessFrom.modify (h : u.BodilessFrom k) (hk : k < u.size) {v : CompileUnit}
    (hv : v.declarations = u.declarations.modify k fun d => { d with body := some body }) :
    v.BodilessFrom (k + 1) ∧ v.bodies = u.bodies ++ [body] := by
  have hlt : k < u.declarations.toList.length := by rwa [Array.length_toList]
  have hfrom : v.BodilessFrom (k + 1) := by
    intro d hd
    rw [hv, Array.toList_modify, List.drop_modify_of_lt _ _ _ _ (Nat.lt_succ_self k)] at hd
    exact h.succ d hd
  refine ⟨hfrom, ?_⟩
  have htake : v.declarations.toList.take (k + 1) =
      u.declarations.toList.take k ++ [{ u.declarations.toList[k] with body := some body }] := by
    rw [hv, Array.toList_modify, List.modify_eq_take_cons_drop hlt, List.append_cons]
    exact List.take_left' (by rw [List.length_append, List.length_take_of_le hlt.le, List.length_singleton])
  rw [hfrom.bodies_eq, h.bodies_eq, htake, List.filterMap_append]
  rfl

end CompileUnit

end AsyncLint
