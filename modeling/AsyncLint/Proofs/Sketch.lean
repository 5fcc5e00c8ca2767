import AsyncLint.Proofs.Numbering
import Mathlib.Data.List.Intervals

/-!
# Bodies built from sketches

A sketch says what a body is meant to be: what each call resolves to, and whether the parameter behind each function
value is async. Building it moves this knowledge into the tables of a unit and leaves numbers in the body. Nothing is
lost on the way: read back through the tables, the body is the sketch again, however much the unit has grown since.
-/

namespace AsyncLint

/-! ## Tables that only grow -/

namespace CompileUnit

/-- What the tables of `u` say about calls and slots is also what the tables of `u'` say. -/
structure Grows (u u' : CompileUnit) : Prop where
  callTargets : u.callTargets.toList <+: u'.callTargets.toList
  asyncSlots : u.asyncSlots.toList <+: u'.asyncSlots.toList

namespace Grows

variable {u u' u'' : CompileUnit}

theorem refl (u : CompileUnit) : u.Grows u :=
  ⟨List.prefix_rfl, List.prefix_rfl⟩

theorem trans (h : u.Grows u') (h' : u'.Grows u'') : u.Grows u'' :=
  ⟨h.callTargets.trans h'.callTargets, h.asyncSlots.trans h'.asyncSlots⟩

theorem push_callTarget (u : CompileUnit) (target : CallTarget) :
    u.Grows { u with callTargets := u.callTargets.push target } :=
  ⟨by simp, List.prefix_rfl⟩

theorem push_asyncSlot (u : CompileUnit) (slotIsAsync : Bool) :
    u.Grows { u with asyncSlots := u.asyncSlots.push slotIsAsync } :=
  ⟨List.prefix_rfl, by simp⟩

theorem getElem?_of_isPrefix {α : Type} {xs ys : Array α} (h : xs.toList <+: ys.toList) {i : Nat} {a : α}
    (hi : xs[i]? = some a) : ys[i]? = some a := by
  obtain ⟨rest, hrest⟩ := h
  rw [← Array.getElem?_toList] at hi ⊢
  rw [← hrest, List.getElem?_append_left (List.getElem?_eq_some_iff.mp hi).1, hi]

theorem callTarget_eq (h : u.Grows u') {id : CallId} {target : CallTarget} (hid : u.callTargets[id]? = some target) :
    u'.callTarget id = target := by
  rw [callTarget, getElem?_of_isPrefix h.callTargets hid, Option.getD_some]

theorem slotIsAsync_eq (h : u.Grows u') {slot : SlotId} {slotIsAsync : Bool}
    (hslot : u.asyncSlots[slot]? = some slotIsAsync) : u'.slotIsAsync slot = slotIsAsync := by
  rw [CompileUnit.slotIsAsync, getElem?_of_isPrefix h.asyncSlots hslot, Option.getD_some]

end Grows

end CompileUnit

/-! ## Sketches -/

/-- A body as it is meant, before its calls and function values have numbers. -/
inductive Sketch where
  | call (target : CallTarget) (arguments : List Sketch)
  | block (items : List Sketch)
  | conditional (condition thenBranch : Sketch) (elseBranch : Option Sketch)
  | tryCatch (body : Sketch) (handlers : List Sketch) (finallyBranch : Option Sketch)
  | loop (header : List Sketch) (body : Sketch)
  | lambda (slotIsAsync : Bool) (body : Sketch)
  | reference (target : DeclId) (slotIsAsync : Bool)
  | inert

namespace Sketch

mutual

/-- Builds the parts of a sketch in the order of evaluation, then the node itself. -/
def build : Sketch → Building Expression
  | .call target arguments => do Expression.mkCall target (← buildAll arguments)
  | .block items => return .block (← buildAll items)
  | .conditional c t e => return .conditional (← build c) (← build t) (← buildOption e)
  | .tryCatch b hs f => return .tryCatch (← build b) (← buildAll hs) (← buildOption f)
  | .loop header body => return .loop (← buildAll header) (← build body)
  | .lambda slotIsAsync body => do Expression.mkLambda slotIsAsync (← build body)
  | .reference target slotIsAsync => Expression.mkReference target slotIsAsync
  | .inert => return .inert

def buildAll : List Sketch → Building (List Expression)
  | [] => return []
  | s :: ss => return (← build s) :: (← buildAll ss)

def buildOption : Option Sketch → Building (Option Expression)
  | none => return none
  | some s => return some (← build s)

end

end Sketch

namespace Expression

variable (u : CompileUnit)

mutual

/-- Reads an expression back, with what the tables of the unit say about it. -/
def sketch : Expression → Sketch
  | .call id arguments => .call (u.callTarget id) (sketches arguments)
  | .block items => .block (sketches items)
  | .conditional c t e => .conditional (sketch c) (sketch t) (sketchOption e)
  | .tryCatch b hs f => .tryCatch (sketch b) (sketches hs) (sketchOption f)
  | .loop header body => .loop (sketches header) (sketch body)
  | .lambda slot body => .lambda (u.slotIsAsync slot) (sketch body)
  | .reference slot target => .reference target (u.slotIsAsync slot)
  | .inert => .inert

def sketches : List Expression → List Sketch
  | [] => []
  | e :: es => sketch e :: sketches es

def sketchOption : Option Expression → Option Sketch
  | none => none
  | some e => some (sketch e)

end

end Expression

/-! ## Numbers -/

/-- The expressions have exactly the numbers that `u'` knows beyond those of `u`, each node after those below it. -/
structure Spans (u : CompileUnit) (es : List Expression) (u' : CompileUnit) : Prop where
  grows : u.Grows u'
  callIds : es.flatMap Expression.callIds = List.Ico u.callTargets.size u'.callTargets.size
  slotIds : es.flatMap Expression.slotIds = List.Ico u.asyncSlots.size u'.asyncSlots.size
  declarations : u'.declarations = u.declarations

namespace Spans

variable {u u' u'' : CompileUnit} {es es' : List Expression} {e : Expression}

theorem nil (u : CompileUnit) : Spans u [] u where
  grows := .refl u
  callIds := (List.Ico.self_empty).symm
  slotIds := (List.Ico.self_empty).symm
  declarations := rfl

theorem append (h : Spans u es u') (h' : Spans u' es' u'') : Spans u (es ++ es') u'' where
  grows := h.grows.trans h'.grows
  callIds := by
    rw [List.flatMap_append, h.callIds, h'.callIds]
    exact List.Ico.append_consecutive h.grows.callTargets.length_le h'.grows.callTargets.length_le
  slotIds := by
    rw [List.flatMap_append, h.slotIds, h'.slotIds]
    exact List.Ico.append_consecutive h.grows.asyncSlots.length_le h'.grows.asyncSlots.length_le
  declarations := h'.declarations.trans h.declarations

/-- A node without a number of its own. -/
theorem node (h : Spans u e.children u') (hc : e.callId? = none) (hs : e.slotId? = none) : Spans u [e] u' where
  grows := h.grows
  callIds := by
    rw [List.flatMap_singleton, Expression.callIds_eq, h.callIds, hc, Option.toList_none, List.append_nil]
  slotIds := by
    rw [List.flatMap_singleton, Expression.slotIds, Expression.collect_eq, hs, Option.toList_none, List.append_nil]
    exact h.slotIds
  declarations := h.declarations

/-- A call takes the next number of its table. -/
theorem call (h : Spans u es u') (target : CallTarget) :
    Spans u [.call u'.callTargets.size es] { u' with callTargets := u'.callTargets.push target } where
  grows := h.grows.trans (.push_callTarget u' target)
  callIds := by
    rw [List.flatMap_singleton, Expression.callIds_call, h.callIds, Array.size_push]
    exact (List.Ico.succ_top h.grows.callTargets.length_le).symm
  slotIds := by
    rw [List.flatMap_singleton, Expression.slotIds, Expression.collect_eq]
    exact (List.append_nil _).trans h.slotIds
  declarations := h.declarations

/-- A function value takes the next number of its table. -/
theorem value (h : Spans u e.children u') (hc : e.callId? = none) (hs : e.slotId? = some u'.asyncSlots.size)
    (slotIsAsync : Bool) : Spans u [e] { u' with asyncSlots := u'.asyncSlots.push slotIsAsync } where
  grows := h.grows.trans (.push_asyncSlot u' slotIsAsync)
  callIds := by
    rw [List.flatMap_singleton, Expression.callIds_eq, h.callIds, hc, Option.toList_none, List.append_nil]
  slotIds := by
    rw [List.flatMap_singleton, Expression.slotIds, Expression.collect_eq, hs, Array.size_push,
      List.Ico.succ_top (by simpa using h.grows.asyncSlots.length_le), ← h.slotIds]
    rfl
  declarations := h.declarations

end Spans

namespace Sketch

mutual

theorem spans_build : (s : Sketch) → (u : CompileUnit) → Spans u [(s.build u).1] (s.build u).2
  | .call target arguments, u => (spans_buildAll arguments u).call target
  | .block items, u => (spans_buildAll items u).node rfl rfl
  | .conditional c t e, u =>
      Spans.node (e := (build (.conditional c t e) u).1)
        ((spans_build c u).append ((spans_build t _).append (spans_buildOption e _))) rfl rfl
  | .tryCatch b hs f, u =>
      Spans.node (e := (build (.tryCatch b hs f) u).1)
        ((spans_build b u).append ((spans_buildAll hs _).append (spans_buildOption f _))) rfl rfl
  | .loop header body, u =>
      Spans.node (e := (build (.loop header body) u).1)
        ((spans_buildAll header u).append (spans_build body _)) rfl rfl
  | .lambda slotIsAsync body, u =>
      Spans.value (e := (build (.lambda slotIsAsync body) u).1) (spans_build body u) rfl rfl slotIsAsync
  | .reference target slotIsAsync, u =>
      Spans.value (e := (build (.reference target slotIsAsync) u).1) (.nil u) rfl rfl slotIsAsync
  | .inert, u => Spans.node (e := .inert) (.nil u) rfl rfl

theorem spans_buildAll : (ss : List Sketch) → (u : CompileUnit) → Spans u (buildAll ss u).1 (buildAll ss u).2
  | [], u => .nil u
  | s :: ss, u => (spans_build s u).append (spans_buildAll ss _)

theorem spans_buildOption : (o : Option Sketch) → (u : CompileUnit) →
    Spans u (buildOption o u).1.toList (buildOption o u).2
  | none, u => .nil u
  | some s, u => spans_build s u

end

mutual

/-- A body that was built from a sketch reads as that sketch in every later state of the unit. -/
theorem sketch_build : (s : Sketch) → (u : CompileUnit) → {v : CompileUnit} → (s.build u).2.Grows v →
    (s.build u).1.sketch v = s
  | .call target arguments, u, v, h => by
      have ha := sketches_buildAll arguments u ((CompileUnit.Grows.push_callTarget _ target).trans h)
      exact congrArg₂ Sketch.call (h.callTarget_eq Array.getElem?_push_size) ha
  | .block items, u, _, h => congrArg Sketch.block (sketches_buildAll items u h)
  | .conditional c t e, u, v, h => by
      have he := sketchOption_buildOption e (build t (build c u).2).2 h
      have hgt := (spans_buildOption e (build t (build c u).2).2).grows.trans h
      have ht := sketch_build t (build c u).2 hgt
      have hc := sketch_build c u ((spans_build t (build c u).2).grows.trans hgt)
      exact congr (congrArg₂ Sketch.conditional hc ht) he
  | .tryCatch b hs f, u, v, h => by
      have hf := sketchOption_buildOption f (buildAll hs (build b u).2).2 h
      have hgs := (spans_buildOption f (buildAll hs (build b u).2).2).grows.trans h
      have hhs := sketches_buildAll hs (build b u).2 hgs
      have hb := sketch_build b u ((spans_buildAll hs (build b u).2).grows.trans hgs)
      exact congr (congrArg₂ Sketch.tryCatch hb hhs) hf
  | .loop header body, u, v, h => by
      have hb := sketch_build body (buildAll header u).2 h
      have hh := sketches_buildAll header u ((spans_build body (buildAll header u).2).grows.trans h)
      exact congrArg₂ Sketch.loop hh hb
  | .lambda slotIsAsync body, u, v, h => by
      have hb := sketch_build body u ((CompileUnit.Grows.push_asyncSlot _ slotIsAsync).trans h)
      exact congrArg₂ Sketch.lambda (h.slotIsAsync_eq Array.getElem?_push_size) hb
  | .reference target slotIsAsync, u, v, h =>
      congrArg (Sketch.reference target) (h.slotIsAsync_eq Array.getElem?_push_size)
  | .inert, _, _, _ => rfl

theorem sketches_buildAll : (ss : List Sketch) → (u : CompileUnit) → {v : CompileUnit} → (buildAll ss u).2.Grows v →
    Expression.sketches v (buildAll ss u).1 = ss
  | [], _, _, _ => rfl
  | s :: ss, u, v, h => by
      have hss := sketches_buildAll ss (build s u).2 h
      have hs := sketch_build s u ((spans_buildAll ss (build s u).2).grows.trans h)
      exact congrArg₂ List.cons hs hss

theorem sketchOption_buildOption : (o : Option Sketch) → (u : CompileUnit) → {v : CompileUnit} →
    (buildOption o u).2.Grows v → Expression.sketchOption v (buildOption o u).1 = o
  | none, _, _, _ => rfl
  | some s, u, _, h => congrArg some (sketch_build s u h)

end

end Sketch

end AsyncLint
