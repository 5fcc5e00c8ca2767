import AsyncLint.Proofs.Sketch
import Mathlib.Data.List.Induction

/-!
# Building units step by step

A unit grows by single operations. Expressions are handed out with the numbers that the tables give them, are kept
outside, and are stored later in any declaration. Here any number of operations is done in any order: the tables only
ever grow at their ends, so a number keeps its meaning, and a declaration changes only by what names it.
-/

namespace AsyncLint

/-- What can be done with a unit that is being built. A call of a declaration, of a suspension or of something unknown
is a call without arguments. -/
inductive Operation where
  /-- Adds a declaration that begins with a name and the next place, and is filled in before it is added. -/
  | declare (name : String) (fill : Declaration → Declaration)
  | push (d : Declaration)
  | setBody (id : DeclId) (body : Expression)
  | edit (id : DeclId) (change : Declaration → Declaration)
  | call (target : CallTarget) (arguments : List Expression)
  | lambda (slotIsAsync : Bool) (body : Expression)
  | reference (target : DeclId) (slotIsAsync : Bool)
  /-- Builds a whole body. -/
  | build (s : Sketch)

/-- What an operation hands out. -/
inductive Product where
  | declared (id : DeclId)
  | edited
  /-- A new node on top of expressions that were there before. -/
  | made (e : Expression)
  /-- A tree of new nodes. -/
  | built (e : Expression)

/-! The numbers of the declarations, calls and slots that are new in a product. -/

namespace Product

def declIds : Product → List DeclId
  | .declared id => [id]
  | .edited | .made _ | .built _ => []

def callIds : Product → List CallId
  | .made e => e.callId?.toList
  | .built e => e.callIds
  | .declared _ | .edited => []

def slotIds : Product → List SlotId
  | .made e => e.slotId?.toList
  | .built e => e.slotIds
  | .declared _ | .edited => []

end Product

namespace Operation

/-- Does one operation. Nothing comes out if it names a declaration that has not been added. -/
def perform? : Operation → CompileUnit → Option (Product × CompileUnit)
  | .declare name fill, u =>
    let (id, u) := u.push (fill { name, location := u.nextLocation })
    some (.declared id, u)
  | .push d, u =>
    let (id, u) := u.push d
    some (.declared id, u)
  | .setBody id body, u => (u.setBody? id body).map (.edited, ·)
  | .edit id change, u => (u.edit? id change).map (.edited, ·)
  | .call target arguments, u =>
    let (e, u) := Expression.mkCall target arguments u
    some (.made e, u)
  | .lambda slotIsAsync body, u =>
    let (e, u) := Expression.mkLambda slotIsAsync body u
    some (.made e, u)
  | .reference target slotIsAsync, u =>
    let (e, u) := Expression.mkReference target slotIsAsync u
    some (.made e, u)
  | .build s, u =>
    let (e, u) := s.build u
    some (.built e, u)

/-- Does operations one after the other, and notes what each of them hands out. -/
def run? : List Operation → CompileUnit → Option (List (Operation × Product) × CompileUnit)
  | [], u => some ([], u)
  | op :: ops, u => do
    let (p, u) ← op.perform? u
    let (log, u) ← run? ops u
    return ((op, p) :: log, u)

/-- The declaration that an operation adds to `u`. -/
def adds? (u : CompileUnit) : Operation → Option Declaration
  | .declare name fill => some (fill { name, location := u.nextLocation })
  | .push d => some d
  | _ => none

/-- The declaration that an operation changes, and how. -/
def edits? : Operation → Option (DeclId × (Declaration → Declaration))
  | .setBody id body => some (id, fun d => { d with body := some body })
  | .edit id change => some (id, change)
  | _ => none

def isAddition : Operation → Bool
  | .declare _ _ | .push _ => true
  | .setBody _ _ | .edit _ _ | .call _ _ | .lambda _ _ | .reference _ _ | .build _ => false

variable {op : Operation} {ops : List Operation} {p : Product} {u u' u₀ : CompileUnit}
  {log : List (Operation × Product)}

/-! ## One operation -/

/-- All that one operation can do to `u`. -/
inductive Effect (u : CompileUnit) : Operation → Product → CompileUnit → Prop where
  | adds {op : Operation} {d : Declaration} (h : op.adds? u = some d) :
      Effect u op (.declared u.size) { u with declarations := u.declarations.push d }
  | edits {op : Operation} {id : DeclId} {change : Declaration → Declaration} (h : op.edits? = some (id, change))
      (hid : id < u.size) : Effect u op .edited { u with declarations := u.declarations.modify id change }
  | calls (target : CallTarget) (arguments : List Expression) :
      Effect u (.call target arguments) (.made (.call u.callTargets.size arguments))
        { u with callTargets := u.callTargets.push target }
  | lambda (slotIsAsync : Bool) (body : Expression) :
      Effect u (.lambda slotIsAsync body) (.made (.lambda u.asyncSlots.size body))
        { u with asyncSlots := u.asyncSlots.push slotIsAsync }
  | reference (target : DeclId) (slotIsAsync : Bool) :
      Effect u (.reference target slotIsAsync) (.made (.reference u.asyncSlots.size target))
        { u with asyncSlots := u.asyncSlots.push slotIsAsync }
  | builds (s : Sketch) : Effect u (.build s) (.built (s.build u).1) (s.build u).2

theorem perform?_eq_some_iff : op.perform? u = some (p, u') ↔ Effect u op p u' := by
  have hedit : ∀ {id change}, op.edits? = some (id, change) →
      (u.edit? id change).map (Product.edited, ·) = some (p, u') → Effect u op p u' := by
    intro id change hop h
    obtain ⟨v, hv, he⟩ := Option.map_eq_some_iff.mp h
    obtain ⟨rfl, rfl⟩ := Prod.mk.inj he
    obtain ⟨hid, hv⟩ := Option.ite_none_right_eq_some.mp hv
    obtain rfl := Option.some.inj hv
    exact .edits hop hid
  constructor
  · intro h
    cases op with
    | setBody id body => exact hedit rfl h
    | edit id change => exact hedit rfl h
    | declare name fill => cases h; exact .adds rfl
    | push d => cases h; exact .adds rfl
    | call target arguments => cases h; exact .calls target arguments
    | lambda slotIsAsync body => cases h; exact .lambda slotIsAsync body
    | reference target slotIsAsync => cases h; exact .reference target slotIsAsync
    | build s => cases h; exact .builds s
  · intro h
    cases h with
    | adds h => cases op <;> cases h <;> rfl
    | edits h hid => cases op <;> cases h <;> simp [perform?, CompileUnit.setBody?, CompileUnit.edit?, hid]
    | calls _ _ => rfl
    | lambda _ _ => rfl
    | reference _ _ => rfl
    | builds _ => rfl

namespace Effect

theorem grows (h : Effect u op p u') : u.Grows u' := by
  cases h with
  | adds _ => exact ⟨List.prefix_rfl, List.prefix_rfl⟩
  | edits _ _ => exact ⟨List.prefix_rfl, List.prefix_rfl⟩
  | calls target _ => exact .push_callTarget u target
  | lambda slotIsAsync _ => exact .push_asyncSlot u slotIsAsync
  | reference _ slotIsAsync => exact .push_asyncSlot u slotIsAsync
  | builds s => exact (s.spans_build u).grows

theorem size_eq (h : Effect u op p u') : u'.size = if op.isAddition then u.size + 1 else u.size := by
  cases h with
  | adds h =>
      have hop : op.isAddition = true := by cases op <;> simp_all [adds?, isAddition]
      rw [hop]
      exact Array.size_push _
  | edits h _ =>
      have hop : op.isAddition = false := by cases op <;> simp_all [edits?, isAddition]
      rw [hop]
      exact Array.size_modify
  | calls _ _ => rfl
  | lambda _ _ => rfl
  | reference _ _ => rfl
  | builds s => exact congrArg Array.size (s.spans_build u).declarations

/-- Every operation hands out the numbers that its tables gain. -/
theorem ids_eq (h : Effect u op p u') :
    p.declIds = List.Ico u.size u'.size ∧ p.callIds = List.Ico u.callTargets.size u'.callTargets.size ∧
      p.slotIds = List.Ico u.asyncSlots.size u'.asyncSlots.size := by
  cases h with
  | builds s =>
      obtain ⟨_, hc, hs, hd⟩ := s.spans_build u
      rw [List.flatMap_singleton] at hc hs
      exact ⟨by simp [Product.declIds, CompileUnit.size, hd], hc, hs⟩
  | _ => simp [Product.declIds, Product.callIds, Product.slotIds, CompileUnit.size, Expression.callId?, Expression.slotId?]

end Effect

/-! ## Many operations -/

theorem run?_append (ops ops' : List Operation) (u : CompileUnit) :
    run? (ops ++ ops') u = (run? ops u).bind fun (log, u) => (run? ops' u).map fun (log', u) => (log ++ log', u) := by
  induction ops generalizing u with
  | nil => simp [run?]
  | cons op ops ih =>
      simp only [List.cons_append, run?, ih, Option.bind_eq_bind, Option.bind_assoc]
      refine Option.bind_congr fun x _ => ?_
      simp [Option.bind_assoc, Option.map_eq_bind]

theorem run?_concat_eq_some_iff {log' : List (Operation × Product)} : run? (ops ++ [op]) u₀ = some (log', u') ↔
    ∃ log u p, run? ops u₀ = some (log, u) ∧ Effect u op p u' ∧ log' = log ++ [(op, p)] := by
  rw [run?_append]
  constructor
  · intro h
    obtain ⟨⟨log, u⟩, hrun, h⟩ := Option.bind_eq_some_iff.mp h
    obtain ⟨⟨last, v⟩, hlast, he⟩ := Option.map_eq_some_iff.mp h
    obtain ⟨⟨p, w⟩, hp, hlast⟩ := Option.bind_eq_some_iff.mp hlast
    cases hlast
    cases he
    exact ⟨log, u, p, hrun, perform?_eq_some_iff.mp hp, rfl⟩
  · rintro ⟨log, u, p, hrun, he, rfl⟩
    simp only [hrun, Option.bind_some, run?, perform?_eq_some_iff.mpr he]
    rfl

theorem log_fst (h : run? ops u₀ = some (log, u)) : log.map Prod.fst = ops := by
  induction ops using List.reverseRecOn generalizing log u with
  | nil =>
      cases h
      rfl
  | append_singleton ops op ih =>
      obtain ⟨log', v, p, hrun, _, rfl⟩ := run?_concat_eq_some_iff.mp h
      rw [List.map_append, ih hrun]
      rfl

/-- What holds at the beginning and is kept by every operation holds after any number of operations. -/
theorem run_induction {motive : List (Operation × Product) → CompileUnit → Prop} (start : motive [] u₀)
    (step : ∀ log u op p u', run? (log.map Prod.fst) u₀ = some (log, u) → motive log u → Effect u op p u' →
      motive (log ++ [(op, p)]) u')
    (h : run? ops u₀ = some (log, u)) : motive log u := by
  induction ops using List.reverseRecOn generalizing log u with
  | nil =>
      cases h
      exact start
  | append_singleton ops op ih =>
      obtain ⟨log', v, p, hrun, he, rfl⟩ := run?_concat_eq_some_iff.mp h
      exact step log' v op p u (by rw [log_fst hrun, hrun]) (ih hrun) he

/-! ## Numbers -/

/-- The numbers that were handed out are those of the entries of the three tables, in order. -/
structure Numbers (log : List (Operation × Product)) (u : CompileUnit) : Prop where
  declIds : log.flatMap (·.2.declIds) = List.range u.size
  callIds : log.flatMap (·.2.callIds) = List.range u.callTargets.size
  slotIds : log.flatMap (·.2.slotIds) = List.range u.asyncSlots.size

theorem Numbers.step (h : Numbers log u) (he : Effect u op p u') : Numbers (log ++ [(op, p)]) u' := by
  have next : ∀ {f : Operation × Product → List Nat} {n m : Nat}, log.flatMap f = List.range n →
      f (op, p) = List.Ico n m → n ≤ m → (log ++ [(op, p)]).flatMap f = List.range m := by
    intro f n m hf hp hle
    rw [List.flatMap_append, hf, List.flatMap_singleton, hp, ← List.Ico.zero_bot, ← List.Ico.zero_bot]
    exact List.Ico.append_consecutive (Nat.zero_le n) hle
  obtain ⟨hd, hc, hs⟩ := he.ids_eq
  have hsize : u.size ≤ u'.size := by rw [he.size_eq]; split <;> omega
  exact ⟨next h.declIds hd hsize, next h.callIds hc he.grows.callTargets.length_le,
    next h.slotIds hs he.grows.asyncSlots.length_le⟩

/-! ## What the tables say about expressions that were handed out -/

/-- The tables of `u` say of an expression what was said when it was made. -/
def Recorded (u : CompileUnit) : Operation → Product → Prop
  | .call target arguments, p => ∃ id, p = .made (.call id arguments) ∧ u.callTargets[id]? = some target
  | .lambda slotIsAsync body, p => ∃ slot, p = .made (.lambda slot body) ∧ u.asyncSlots[slot]? = some slotIsAsync
  | .reference target slotIsAsync, p =>
    ∃ slot, p = .made (.reference slot target) ∧ u.asyncSlots[slot]? = some slotIsAsync
  | .build s, p => ∃ e, p = .built e ∧ (∀ v, u.Grows v → e.sketch v = s) ∧ e.callIds.Pairwise (· < ·) ∧
      e.slotIds.Pairwise (· < ·)
  | .declare _ _, _ | .push _, _ | .setBody _ _, _ | .edit _ _, _ => True

theorem Recorded.of_grows (hg : u.Grows u') (h : Recorded u op p) : Recorded u' op p := by
  cases op with
  | call target arguments =>
      obtain ⟨id, hp, hid⟩ := h
      exact ⟨id, hp, CompileUnit.Grows.getElem?_of_isPrefix hg.callTargets hid⟩
  | lambda slotIsAsync body =>
      obtain ⟨slot, hp, hslot⟩ := h
      exact ⟨slot, hp, CompileUnit.Grows.getElem?_of_isPrefix hg.asyncSlots hslot⟩
  | reference target slotIsAsync =>
      obtain ⟨slot, hp, hslot⟩ := h
      exact ⟨slot, hp, CompileUnit.Grows.getElem?_of_isPrefix hg.asyncSlots hslot⟩
  | build s =>
      obtain ⟨e, hp, hs, hids⟩ := h
      exact ⟨e, hp, fun v hv => hs v (hg.trans hv), hids⟩
  | declare _ _ | push _ | setBody _ _ | edit _ _ => trivial

theorem Effect.recorded (h : Effect u op p u') : Recorded u' op p := by
  cases h with
  | adds h => cases op <;> trivial
  | edits h _ => cases op <;> trivial
  | calls _ _ => exact ⟨_, rfl, Array.getElem?_push_size⟩
  | lambda _ _ => exact ⟨_, rfl, Array.getElem?_push_size⟩
  | reference _ _ => exact ⟨_, rfl, Array.getElem?_push_size⟩
  | builds s =>
      obtain ⟨_, hc, hs, _⟩ := s.spans_build u
      rw [List.flatMap_singleton] at hc hs
      refine ⟨_, rfl, fun v hv => s.sketch_build u hv, ?_, ?_⟩
      · rw [hc]
        exact List.Ico.pairwise_lt _ _
      · rw [hs]
        exact List.Ico.pairwise_lt _ _

theorem recorded_of_run? (h : run? ops u₀ = some (log, u)) : ∀ x ∈ log, Recorded u x.1 x.2 := by
  refine run_induction (motive := fun log u => ∀ x ∈ log, Recorded u x.1 x.2) (by simp) ?_ h
  intro log u op p u' _ ih he x hx
  rcases List.mem_append.mp hx with hx | hx
  · exact (ih x hx).of_grows he.grows
  · obtain rfl := List.mem_singleton.mp hx
    exact he.recorded

/-! ## Declarations -/

/-- The declaration that an operation is about: the one that it adds, or the one that it changes. -/
def addressed? (op : Operation) (p : Product) : Option DeclId :=
  p.declIds.head?.or (op.edits?.map Prod.fst)

/-- What stands under number `i` after an operation about it, if `u` is the unit before. -/
def written? (op : Operation) (u : CompileUnit) (i : DeclId) : Option Declaration :=
  (op.adds? u).or (op.edits?.bind fun edit => (u.declaration? i).map edit.2)

/-- An operation writes the declaration that it is about, and no other. -/
theorem Effect.declaration?_eq (h : Effect u op p u') (i : DeclId) :
    u'.declaration? i = if op.addressed? p = some i then op.written? u i else u.declaration? i := by
  cases h with
  | @adds op d h =>
      have hw : op.written? u i = some d := by rw [written?, h, Option.some_or]
      have ha : op.addressed? (.declared u.size) = some u.size := rfl
      rw [hw, ha, CompileUnit.declaration?, Array.getElem?_push]
      simp only [Option.some.injEq, eq_comm]
      rfl
  | @edits op id change h hid =>
      have hnone : op.adds? u = none := by cases op <;> simp_all [edits?, adds?]
      have hw : op.written? u i = (u.declaration? i).map change := by
        rw [written?, hnone, h, Option.none_or, Option.bind_some]
      have ha : op.addressed? .edited = some id := by rw [addressed?, h]; rfl
      rw [hw, ha, CompileUnit.declaration?, Array.getElem?_modify]
      simp only [Option.some.injEq]
      rfl
  | calls _ _ => rfl
  | lambda _ _ => rfl
  | reference _ _ => rfl
  | builds s =>
      rw [CompileUnit.declaration?, (s.spans_build u).declarations]
      rfl

/-- Among the operations of a log, the last one about declaration `i` wrote `d`. -/
def WrittenLast (u₀ : CompileUnit) (log : List (Operation × Product)) (i : DeclId) (d : Declaration) : Prop :=
  ∃ before op p after u, log = before ++ (op, p) :: after ∧ run? (before.map Prod.fst) u₀ = some (before, u) ∧
    op.addressed? p = some i ∧ (∀ x ∈ after, x.1.addressed? x.2 ≠ some i) ∧ op.written? u i = some d

theorem WrittenLast.concat {i : DeclId} {d : Declaration} (h : WrittenLast u₀ log i d)
    (hop : op.addressed? p ≠ some i) : WrittenLast u₀ (log ++ [(op, p)]) i d := by
  obtain ⟨before, op', p', after, v, rfl, hrun, hop', hafter, hd⟩ := h
  refine ⟨before, op', p', after ++ [(op, p)], v, by simp, hrun, hop', fun x hx => ?_, hd⟩
  rcases List.mem_append.mp hx with hx | hx
  · exact hafter x hx
  · obtain rfl := List.mem_singleton.mp hx
    exact hop

theorem writtenLast_of_run? {name : String} (h : run? ops { name } = some (log, u)) {i : DeclId} {d : Declaration}
    (hd : u.declaration? i = some d) : WrittenLast { name } log i d := by
  revert d
  refine run_induction (motive := fun log u => ∀ {d}, u.declaration? i = some d → WrittenLast { name } log i d)
    (fun hd => by cases hd) ?_ h
  intro log u op p u' hrun ih he d hd
  rw [he.declaration?_eq] at hd
  split at hd
  · rename_i hop
    exact ⟨log, op, p, [], u, rfl, hrun, hop, by simp, hd⟩
  · rename_i hop
    exact (ih hd).concat hop

/-! ## When nothing comes out -/

/-- Every operation that changes a declaration names one that is there: one of the first `n`, or one that was added by an
operation before it. -/
def InRange : Nat → List Operation → Prop
  | _, [] => True
  | n, op :: ops => (∀ edit, op.edits? = some edit → edit.1 < n) ∧ InRange (if op.isAddition then n + 1 else n) ops

theorem exists_effect_iff : (∃ p u', Effect u op p u') ↔ ∀ edit, op.edits? = some edit → edit.1 < u.size := by
  constructor
  · rintro ⟨p, u', he⟩ edit hop
    cases he with
    | adds h => cases op <;> cases h <;> cases hop
    | edits h hid =>
        obtain rfl := Option.some.inj (h.symm.trans hop)
        exact hid
    | calls _ _ => cases hop
    | lambda _ _ => cases hop
    | reference _ _ => cases hop
    | builds _ => cases hop
  · intro h
    cases op with
    | declare name fill => exact ⟨_, _, .adds rfl⟩
    | push d => exact ⟨_, _, .adds rfl⟩
    | setBody id body => exact ⟨_, _, .edits rfl (h _ rfl)⟩
    | edit id change => exact ⟨_, _, .edits rfl (h _ rfl)⟩
    | call target arguments => exact ⟨_, _, .calls target arguments⟩
    | lambda slotIsAsync body => exact ⟨_, _, .lambda slotIsAsync body⟩
    | reference target slotIsAsync => exact ⟨_, _, .reference target slotIsAsync⟩
    | build s => exact ⟨_, _, .builds s⟩

theorem exists_run?_iff : (∃ log u', run? ops u = some (log, u')) ↔ InRange u.size ops := by
  induction ops generalizing u with
  | nil => exact ⟨fun _ => trivial, fun _ => ⟨[], u, rfl⟩⟩
  | cons op ops ih =>
      rw [InRange, ← exists_effect_iff]
      constructor
      · rintro ⟨log, u', h⟩
        obtain ⟨⟨p, v⟩, hp, h⟩ := Option.bind_eq_some_iff.mp h
        obtain ⟨⟨rest, w⟩, hrest, -⟩ := Option.bind_eq_some_iff.mp h
        have he := perform?_eq_some_iff.mp hp
        exact ⟨⟨p, v, he⟩, he.size_eq ▸ ih.mp ⟨rest, w, hrest⟩⟩
      · rintro ⟨⟨p, v, he⟩, h⟩
        obtain ⟨rest, w, hrest⟩ := ih.mpr (he.size_eq ▸ h)
        exact ⟨(op, p) :: rest, w, by simp [run?, perform?_eq_some_iff.mpr he, hrest]⟩

/-! ## Finished units -/

/-- Operations in any order come to an end exactly if they change only declarations that have been added. What they have
handed out then means in the finished unit what it was made for; no number is handed out twice, and none left out; a body
that was built from a sketch reads as that sketch; and every declaration is what the last operation about it wrote. -/
theorem built_units_keep_meaning (name : String) (ops : List Operation) :
    ((∃ log u, run? ops { name } = some (log, u)) ↔ InRange 0 ops) ∧
    ∀ log u, run? ops { name } = some (log, u) →
      log.map Prod.fst = ops ∧
      (∀ target arguments p, (.call target arguments, p) ∈ log →
        ∃ id, p = .made (.call id arguments) ∧ u.callTarget id = target) ∧
      (∀ slotIsAsync body p, (.lambda slotIsAsync body, p) ∈ log →
        ∃ slot, p = .made (.lambda slot body) ∧ u.slotIsAsync slot = slotIsAsync) ∧
      (∀ target slotIsAsync p, (.reference target slotIsAsync, p) ∈ log →
        ∃ slot, p = .made (.reference slot target) ∧ u.slotIsAsync slot = slotIsAsync) ∧
      (∀ s p, (.build s, p) ∈ log →
        ∃ e, p = .built e ∧ e.sketch u = s ∧ e.callIds.Pairwise (· < ·) ∧ e.slotIds.Pairwise (· < ·)) ∧
      Numbers log u ∧
      ∀ i d, u.declaration? i = some d → WrittenLast { name } log i d := by
  refine ⟨exists_run?_iff, fun log u h => ?_⟩
  have hrecorded := recorded_of_run? h
  refine ⟨log_fst h, ?_, ?_, ?_, ?_, ?_, fun i d hd => writtenLast_of_run? h hd⟩
  · intro target arguments p hp
    obtain ⟨id, rfl, hid⟩ := hrecorded _ hp
    exact ⟨id, rfl, (CompileUnit.Grows.refl u).callTarget_eq hid⟩
  · intro slotIsAsync body p hp
    obtain ⟨slot, rfl, hslot⟩ := hrecorded _ hp
    exact ⟨slot, rfl, (CompileUnit.Grows.refl u).slotIsAsync_eq hslot⟩
  · intro target slotIsAsync p hp
    obtain ⟨slot, rfl, hslot⟩ := hrecorded _ hp
    exact ⟨slot, rfl, (CompileUnit.Grows.refl u).slotIsAsync_eq hslot⟩
  · intro s p hp
    obtain ⟨e, rfl, hs, hids⟩ := hrecorded _ hp
    exact ⟨e, rfl, hs u (.refl u), hids⟩
  · exact run_induction (motive := Numbers) ⟨rfl, rfl, rfl⟩ (fun _ _ _ _ _ _ hn he => hn.step he) h

/-- A body that hands a lambda and a declaration to a call of the second declaration. -/
def handover : Sketch :=
  .call (.asyncDecl 1) [.lambda true (.call .suspension []), .reference 1 false]

/-- The first declaration gets a body that calls the second one before that is there, and another body later. -/
def handoverOps : List Operation :=
  [.call (.asyncDecl 1) [], .declare "caller" id, .setBody 0 (.block [.call 0 []]), .declare "callee" id,
    .build handover, .setBody 0 (.call 2 [.lambda 0 (.call 1 []), .reference 1 1])]

theorem built_units_keep_meaning_handover : InRange 0 handoverOps ∧ ∃ log u e,
    run? handoverOps { name := "handover.rs" } = some (log, u) ∧ (.build handover, .built e) ∈ log ∧
      e.sketch u = handover ∧ e.callIds.Pairwise (· < ·) := by
  have hrange : InRange 0 handoverOps := by simp [InRange, handoverOps, edits?, isAddition]
  obtain ⟨log, u, hrun⟩ := (built_units_keep_meaning "handover.rs" handoverOps).1.mpr hrange
  obtain ⟨hlog, _, _, _, hbuilt, _⟩ := (built_units_keep_meaning "handover.rs" handoverOps).2 log u hrun
  obtain ⟨⟨op, p⟩, hp, rfl⟩ : ∃ x ∈ log, x.1 = .build handover := by
    rw [← List.mem_map (f := Prod.fst), hlog]
    simp [handoverOps]
  obtain ⟨e, rfl, hs, hids, _⟩ := hbuilt handover p hp
  exact ⟨hrange, log, u, e, hrun, hp, hs, hids⟩

end Operation

end AsyncLint
