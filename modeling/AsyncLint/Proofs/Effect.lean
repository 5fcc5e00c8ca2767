import AsyncLint.Proofs.Reading
import AsyncLint.Proofs.Regular

/-!
# What rules do to the open node

While a rule reads, shapes are added to the open node and put into nodes of their own. Only the kinds of these shapes
matter for what nodes they can go into. The effect of a rule says what has to be known about the open node at the start
for something to be known about it at the end. Effects of rules are found step by step from those of their parts.
-/

namespace AsyncLint.Source

set_option synthInstance.maxSize 20000

/-- What stands side by side: the kind of each node, and nothing for a token. -/
abbrev Word := List (Option NodeKind)

/-- Nothing but attributes. -/
def Word.Attrs (w : Word) : Prop :=
  ∀ l ∈ w, l = some .attr

@[simp]
theorem Word.attrs_nil : Attrs [] :=
  fun _ h => by cases h

theorem Word.Attrs.push {w : Word} (h : w.Attrs) : Attrs (w ++ [some .attr]) := by
  intro l hl
  rcases List.mem_append.mp hl with hl | hl
  · exact h l hl
  · exact List.mem_singleton.mp hl

namespace Progress

/-- All shapes of the open node are regular, and `w` is what stands in it. -/
structure Has (p : Progress) (w : Word) : Prop where
  regular : ∀ s ∈ p.built, s.Regular
  word : p.built.reverse.map Shape.kind? = w

/-- Nothing that was read comes back between `p` and `q`, the shapes stay in step with it, and what stands in the open
node at the end satisfies `Q`. -/
structure Leads (p q : Progress) (Q : Word → Prop) : Prop where
  rest : q.rest <:+ p.rest
  keeps : (∀ l ∈ p.rest, l.Proper) → ∀ start, Reads p.built.reverse start p.rest → Reads q.built.reverse start q.rest
  has : ∃ v, q.Has v ∧ Q v

variable {p q r : Progress} {w v : Word} {Q Q' : Word → Prop}

theorem Has.leads (h : p.Has w) (hQ : Q w) : p.Leads p Q :=
  ⟨List.suffix_rfl, fun _ _ hr => hr, w, h, hQ⟩

theorem Leads.trans (h : p.Leads q Q) (h' : ∀ v, q.Has v → Q v → q.Leads r Q') : p.Leads r Q' := by
  obtain ⟨v, hv, hQ⟩ := h.has
  have hr := h' v hv hQ
  refine ⟨hr.rest.trans h.rest, fun hproper start hs => ?_, hr.has⟩
  exact hr.keeps (fun l hl => hproper l (h.rest.subset hl)) start (h.keeps hproper start hs)

theorem Has.node {k : NodeKind} (h : p.Has w) (hk : k.Admits w.reduceOption) :
    (Shape.node k p.built.reverse).Regular := by
  refine .node ?_ fun c hc => h.regular c (List.mem_reverse.mp hc)
  rwa [← h.word, List.reduceOption, List.filterMap_map] at hk

theorem Has.push {s : Shape} (h : p.Has w) (hs : s.Regular) (hq : q.built = s :: p.built) : q.Has (w ++ [s.kind?]) := by
  refine ⟨fun c hc => ?_, by rw [hq, List.reverse_cons, List.map_append, h.word]; rfl⟩
  rw [hq] at hc
  rcases List.mem_cons.mp hc with rfl | hc
  · exact hs
  · exact h.regular c hc

theorem Has.append (h : p.Has w) (h' : q.Has v) (hr : r.built = q.built ++ p.built) : r.Has (w ++ v) := by
  refine ⟨fun c hc => ?_, by rw [hr, List.reverse_append, List.map_append, h.word, h'.word]⟩
  rw [hr] at hc
  exact (List.mem_append.mp hc).elim (h'.regular c) (h.regular c)

theorem Has.nil (hp : p.built = []) : p.Has [] :=
  ⟨by simp [hp], by simp [hp]⟩

end Progress

/-- A regular expression can take attributes in front of its children. -/
theorem Shape.Regular.absorb {k : NodeKind} {children before : List Shape} (h : (Shape.node k children).Regular)
    (hk : k.isExpr = true) (hb : ∀ s ∈ before, s.Regular) (hattrs : ∀ s ∈ before, s.kind? = some .attr) :
    (Shape.node k (before ++ children)).Regular := by
  cases h with
  | node admits below =>
      refine .node ?_ fun c hc => (List.mem_append.mp hc).elim (hb c) (below c)
      induction before with
      | nil => exact admits
      | cons s before ih =>
          rw [List.cons_append, List.filterMap_cons_some (hattrs s List.mem_cons_self)]
          exact .attr hk (ih (fun s hs => hb s (List.mem_cons_of_mem _ hs))
            fun s hs => hattrs s (List.mem_cons_of_mem _ hs))

/-- What suffices at the start for something to hold of the result and the open node at the end. -/
abbrev Effect (α : Type) :=
  (α → Word → Prop) → Word → Prop

namespace Effect

variable {α : Type}

/-- Nothing is known of the open node afterwards. -/
@[simp]
abbrev any : Effect α :=
  fun Q _ => ∀ a w, Q a w

/-- A node of a kind out of `S` is added. -/
@[simp]
abbrev adds (S : NodeKind → Bool) : Effect α :=
  fun Q w => ∀ a k, S k = true → Q a (w ++ [some k])

/-- A node of kind `k` is added. -/
@[simp]
abbrev node (k : NodeKind) : Effect Unit :=
  fun Q w => Q () (w ++ [some k])

/-- A node of kind `k` is added, or nothing. -/
@[simp]
abbrev node? (k : NodeKind) : Effect Unit :=
  fun Q w => Q () w ∧ Q () (w ++ [some k])

/-- Without a result nothing is added. -/
@[simp]
abbrev anyIf : Effect Bool :=
  fun Q w => (∀ v, Q true v) ∧ Q false w

/-- The open node, of which `P` is known, comes to hold a single expression. -/
@[simp]
abbrev turns (P : Word → Prop) : Effect α :=
  fun Q w => P w ∧ ∀ a k, k.isExpr = true → Q a [some k]

end Effect

namespace Parse

/-- Whenever the rule comes to an end, `F` tells what holds then. -/
class HasEffect {α : Type} (rule : Parse α) (F : outParam (Effect α)) : Prop where
  leads {Q : α → Word → Prop} {w : Word} {p q : Progress} {a : α} (hF : F Q w) (hp : p.Has w)
    (hrun : rule.run p = some (a, q)) : p.Leads q (Q a)

/-! ## Steps -/

section

variable {α β : Type} {rule next : Parse α} {f : α → Parse β} {F G : Effect α}

theorem run_bind {p q : Progress} {b : β} (hrun : (rule >>= f).run p = some (b, q)) :
    ∃ a r, rule.run p = some (a, r) ∧ (f a).run r = some (b, q) := by
  obtain ⟨⟨a, r⟩, hrule, hf⟩ := Option.bind_eq_some_iff.mp hrun
  exact ⟨a, r, hrule, hf⟩

theorem HasEffect.mono (h : rule.HasEffect F) (hG : ∀ Q w, G Q w → F Q w) : rule.HasEffect G :=
  ⟨fun hQ => h.leads (hG _ _ hQ)⟩

theorem HasEffect.weaken [h : rule.HasEffect F] (hG : ∀ Q w, G Q w → F Q w) : rule.HasEffect G :=
  h.mono hG

instance pure_effect {a : α} : (pure a : Parse α).HasEffect fun Q w => Q a w :=
  ⟨fun hQ hp hrun => by cases hrun; exact hp.leads hQ⟩

instance failure_effect : (failure : Parse α).HasEffect fun _ _ => True :=
  ⟨fun _ _ hrun => by cases hrun⟩

theorem HasEffect.bind {G : α → Effect β} (h : rule.HasEffect F) (h' : ∀ a, (f a).HasEffect (G a)) :
    (rule >>= f).HasEffect fun Q w => F (fun a v => G a Q v) w := by
  refine ⟨fun hQ hp hrun => ?_⟩
  obtain ⟨a, r, hrule, hf⟩ := run_bind hrun
  exact (h.leads hQ hp hrule).trans fun v hv hG => (h' a).leads hG hv hf

instance bind_effect {G : α → Effect β} [h : rule.HasEffect F] [h' : ∀ a, (f a).HasEffect (G a)] :
    (rule >>= f).HasEffect fun Q w => F (fun a v => G a Q v) w :=
  h.bind h'

theorem HasEffect.ite {c : Prop} [Decidable c] (h : rule.HasEffect F) (h' : next.HasEffect G) :
    (if c then rule else next).HasEffect fun Q w => (c → F Q w) ∧ (¬ c → G Q w) := by
  refine ⟨fun hQ hp hrun => ?_⟩
  split at hrun
  · rename_i hc
    exact h.leads (hQ.1 hc) hp hrun
  · rename_i hc
    exact h'.leads (hQ.2 hc) hp hrun

instance ite_effect {c : Prop} [Decidable c] [h : rule.HasEffect F] [h' : next.HasEffect G] :
    (if c then rule else next).HasEffect fun Q w => (c → F Q w) ∧ (¬ c → G Q w) :=
  h.ite h'

instance get_effect : (get : Parse Progress).HasEffect fun Q w => ∀ p, Q p w :=
  ⟨fun hQ hp hrun => by cases hrun; exact hp.leads (hQ _)⟩

instance look_effect : look.HasEffect fun Q w => ∀ ts, Q ts w := by
  dsimp only [look]
  exact .weaken fun _ _ h _ => h _

theorem HasEffect.of_look {f : Lexemes → Parse α} (h : ∀ ts, (f ts).HasEffect F) : (look >>= f).HasEffect F :=
  .weaken fun _ _ h _ => h

/-- Whenever the rule starts at the lexemes `ts` and comes to an end, `F` tells what holds then. -/
structure HasEffectAt (ts : Lexemes) (rule : Parse α) (F : Effect α) : Prop where
  leads {Q : α → Word → Prop} {w : Word} {p q : Progress} {a : α} (hrest : p.rest = ts) (hF : F Q w) (hp : p.Has w)
    (hrun : rule.run p = some (a, q)) : p.Leads q (Q a)

theorem HasEffect.at {ts : Lexemes} (h : rule.HasEffect F) : HasEffectAt ts rule F :=
  ⟨fun _ => h.leads⟩

theorem HasEffectAt.mono {ts : Lexemes} (h : HasEffectAt ts rule F) (hG : ∀ Q w, G Q w → F Q w) :
    HasEffectAt ts rule G :=
  ⟨fun hrest hQ => h.leads hrest (hG _ _ hQ)⟩

theorem HasEffectAt.bind {ts : Lexemes} {G : α → Effect β} (h : HasEffectAt ts rule F)
    (h' : ∀ a, (f a).HasEffect (G a)) : HasEffectAt ts (rule >>= f) fun Q w => F (fun a v => G a Q v) w := by
  refine ⟨fun hrest hQ hp hrun => ?_⟩
  obtain ⟨a, r, hrule, hf⟩ := run_bind hrun
  exact (h.leads hrest hQ hp hrule).trans fun v hv hG => (h' a).leads hG hv hf

/-- The lexemes looked at are those at which the rest of the rule starts. -/
theorem HasEffect.of_look_at {f : Lexemes → Parse α} (h : ∀ ts, HasEffectAt ts (f ts) F) : (look >>= f).HasEffect F := by
  refine ⟨fun hF hp hrun => ?_⟩
  obtain ⟨_, _, hlook, hf⟩ := run_bind hrun
  cases hlook
  exact (h _).leads rfl hF hp hf

theorem run_bump {n : Nat} {p q : Progress} {a : Unit} (hrun : (bump n).run p = some (a, q)) :
    n ≤ p.rest.length ∧ q.rest = p.rest.drop n ∧ q.built = .tokens n :: p.built := by
  change (if p.rest.length < n then failure else skip n >>= fun _ => emit (.tokens n) : Parse Unit).run p = _ at hrun
  split at hrun
  · cases hrun
  · cases hrun
    exact ⟨by omega, rfl, rfl⟩

/-- Lexemes without gaps can be read as one token. -/
theorem leads_of_bump {n : Nat} {p q : Progress} {a : Unit} {w : Word} {Q : Word → Prop}
    (hrun : (bump n).run p = some (a, q)) (hp : p.Has w) (hQ : Q (w ++ [none]))
    (hjoint : (∀ l ∈ p.rest, l.Proper) → ∀ l ∈ p.rest.take (n - 1), l.joint = true) : p.Leads q Q := by
  obtain ⟨-, hrest, hbuilt⟩ := run_bump hrun
  refine ⟨hrest ▸ List.drop_suffix _ _, fun hproper start hs => ?_, _, hp.push (.tokens n) hbuilt, hQ⟩
  rw [hbuilt, hrest, List.reverse_cons]
  exact hs.append (.tokens (hjoint hproper) .nil)

instance bump_effect : (bump 1).HasEffect fun Q w => Q () (w ++ [none]) :=
  ⟨fun hQ hp hrun => leads_of_bump hrun hp hQ (by simp)⟩

instance eat_effect {text : String} : (eat text).HasEffect fun Q w => Q true (w ++ [none]) ∧ Q false w := by
  refine ⟨fun {Q w p q a} hQ hp hrun => ?_⟩
  change (if p.rest.starts text then bump (width text) >>= fun _ => pure true else pure false : Parse Bool).run p = _
    at hrun
  split at hrun
  · rename_i hstarts
    obtain ⟨_, _, hbump, hrun⟩ := run_bind hrun
    cases hrun
    exact leads_of_bump hbump hp hQ.1 fun hproper => joint_of_starts hproper hstarts
  · cases hrun
    exact hp.leads hQ.2

instance eat?_effect {text : String} : (eat? text).HasEffect fun Q w => Q () (w ++ [none]) ∧ Q () w := by
  dsimp only [eat?]
  exact .weaken fun Q w h => by simp [h]

instance expect_effect {text : String} : (expect text).HasEffect fun Q w => Q () (w ++ [none]) := by
  dsimp only [expect]
  exact .weaken fun Q w h => by simp [h]

theorem run_expect {text : String} {p q : Progress} {a : Unit} (hrun : (expect text).run p = some (a, q)) :
    p.rest.starts text = true ∧ (bump (width text)).run p = some ((), q) := by
  change ((if p.rest.starts text then bump (width text) >>= fun _ => pure true else pure false : Parse Bool) >>=
    fun b => if b then pure () else failure).run p = _ at hrun
  split at hrun
  · rename_i hstarts
    obtain ⟨_, _, heat, hrun⟩ := run_bind hrun
    obtain ⟨_, _, hbump, heat⟩ := run_bind heat
    cases heat
    cases hrun
    exact ⟨hstarts, hbump⟩
  · cases hrun

/-! ## Nodes -/

theorem HasEffect.isolate (h : rule.HasEffect F) :
    (isolate rule).HasEffect fun Q w => F (fun a v => Q a (w ++ v)) [] := by
  refine ⟨fun {Q w p q a} hQ hp hrun => ?_⟩
  obtain ⟨⟨b, r⟩, hrule, hf⟩ := Option.bind_eq_some_iff.mp hrun
  cases hf
  obtain ⟨hrest, hkeeps, v, hv, hQv⟩ := h.leads hQ (.nil rfl) hrule
  refine ⟨hrest, fun hproper start hs => ?_, w ++ v, hp.append hv rfl, hQv⟩
  rw [List.reverse_append]
  exact hs.append (hkeeps hproper p.rest .nil)

instance isolate_effect [h : rule.HasEffect F] :
    (isolate rule).HasEffect fun Q w => F (fun a v => Q a (w ++ v)) [] :=
  h.isolate

instance wrap_effect {k : NodeKind} :
    (wrap k).HasEffect fun Q w => k ≠ .name ∧ k.Admits w.reduceOption ∧ Q () [some k] := by
  refine ⟨fun {Q w p q a} ⟨hk, hadmits, hQ⟩ hp hrun => ?_⟩
  cases hrun
  refine ⟨List.suffix_rfl, fun _ _ hs => hs.wrap hk, _, ⟨?_, rfl⟩, hQ⟩
  intro s hs
  obtain rfl := List.mem_singleton.mp hs
  exact hp.node hadmits

instance node_effect {k : NodeKind} {rule : Parse Unit} {F : Effect Unit} [rule.HasEffect F] :
    (node k rule).HasEffect fun Q w =>
      F (fun _ v => k ≠ .name ∧ k.Admits v.reduceOption ∧ Q () (w ++ [some k])) [] := by
  dsimp only [node]
  exact inferInstance

theorem run_node {k : NodeKind} {rule : Parse Unit} {p q : Progress} {a : Unit}
    (hrun : (node k rule).run p = some (a, q)) : ∃ b r, rule.run { p with built := [] } = some (b, r) ∧
      q = { r with built := .node k r.built.reverse :: p.built } := by
  obtain ⟨⟨_, _⟩, hwrapped, hadd⟩ := Option.bind_eq_some_iff.mp hrun
  obtain ⟨b, r, hbody, hwrap⟩ := run_bind hwrapped
  cases hadd
  cases hwrap
  exact ⟨b, r, hbody, rfl⟩

theorem node_effect_of_any {k : NodeKind} {rule : Parse Unit} (hk : k.isFree = true) (hname : k ≠ .name)
    (h : rule.HasEffect .any) : (node k rule).HasEffect (.node k) :=
  .weaken fun Q w h => by simp [hk, hname, h]

/-- Attributes in front of an expression can become its first children. -/
instance absorb_effect : absorb.HasEffect fun Q w =>
    Word.Attrs w.dropLast ∧ ∃ k, w.getLast? = some (some k) ∧ k.isExpr = true ∧ Q () [some k] := by
  refine ⟨fun {Q w p q a} hQ hp hrun => ?_⟩
  obtain ⟨hattrs, k, hlast, hk, hQ⟩ := hQ
  obtain ⟨rest, built, last⟩ := p
  obtain rfl := hp.word
  cases built with
  | nil => simp at hlast
  | cons s before =>
      obtain hs : s.kind? = some k := by simpa using hlast
      cases s with
      | tokens _ | part _ _ => cases hs
      | node kind children =>
          obtain rfl : kind = k := Option.some.inj hs
          cases hrun
          refine ⟨List.suffix_rfl, fun _ _ hs => ?_, _, ⟨fun s hs => ?_, rfl⟩, hQ⟩
          · rw [List.reverse_cons] at hs
            exact hs.absorb (by rintro rfl; cases hk)
          obtain rfl := List.mem_singleton.mp hs
          exact (hp.regular _ List.mem_cons_self).absorb hk (fun c hc => hp.regular c (by simp_all))
            (by simpa [Word.Attrs] using hattrs)

end

/-! ## Loops -/

section

variable {step : Parse Bool} {F : Effect Bool} {I : Word → Prop}

theorem repeatAtMost_effect [h : step.HasEffect F] (hI : ∀ v, I v → F (fun _ => I) v) (n : Nat) :
    (repeatAtMost n step).HasEffect fun Q w => I w ∧ ∀ v, I v → Q () v := by
  induction n with
  | zero =>
      dsimp only [repeatAtMost]
      exact .weaken fun _ _ _ => trivial
  | succ n ih =>
      dsimp only [repeatAtMost]
      refine ⟨fun {Q w p q a} hQ hp hrun => ?_⟩
      obtain ⟨b, r, hstep, hrest⟩ := run_bind hrun
      refine (h.leads (hI w hQ.1) hp hstep).trans fun v hv hi => ?_
      cases b with
      | true => exact ih.leads ⟨hi, hQ.2⟩ hv hrest
      | false => exact pure_effect.leads (hQ.2 v hi) hv hrest

/-- What every repetition keeps, the loop keeps. -/
theorem HasEffect.loop (h : step.HasEffect F) : (loop step).HasEffect fun Q w =>
    ∃ I : Word → Prop, I w ∧ (∀ v, I v → F (fun _ => I) v) ∧ ∀ v, I v → Q () v := by
  refine ⟨fun {Q w p q a} hQ hp hrun => ?_⟩
  obtain ⟨I, hw, hI, hQ⟩ := hQ
  exact (repeatAtMost_effect hI (p.rest.length + 1)).leads ⟨hw, hQ⟩ hp hrun

instance loop_effect [h : step.HasEffect F] :
    (loop step).HasEffect fun Q _ => (∀ v, F (fun _ _ => True) v) ∧ ∀ v, Q () v :=
  h.loop.mono fun _ _ hQ => ⟨fun _ => True, trivial, fun v _ => hQ.1 v, fun v _ => hQ.2 v⟩

end

section

variable {opening closing : String} {element : Parse Unit} {F : Effect Unit}

theorem delimited_invariant [element.HasEffect F] : (delimited opening closing element).HasEffect fun Q w =>
    ∃ I : Word → Prop, I (w ++ [none]) ∧ (∀ v, I v → F (fun _ v => I (v ++ [none]) ∧ I v) v) ∧
      ∀ v, I v → Q () (v ++ [none]) := by
  dsimp only [delimited]
  refine .mono (.bind inferInstance fun _ => .bind (.loop inferInstance) fun _ => inferInstance) fun Q w h => ?_
  obtain ⟨I, hw, hI, hQ⟩ := h
  exact ⟨I, hw, fun v hv ts => ⟨fun _ => hv, fun _ => hI v hv⟩, hQ⟩

instance delimited_effect [element.HasEffect F] :
    (delimited opening closing element).HasEffect fun Q _ => (∀ v, F (fun _ _ => True) v) ∧ ∀ v, Q () v := by
  dsimp only [delimited]
  exact .weaken fun Q w h => by simp [h]

instance listUntil_effect [element.HasEffect F] :
    (listUntil closing element).HasEffect fun Q _ => (∀ v, F (fun _ _ => True) v) ∧ ∀ v, Q () v := by
  dsimp only [listUntil]
  exact .weaken fun Q w h => by simp [h]

end

/-! ## Rules that do nothing without reading -/

/-- Words and signs that are not empty. -/
class Visible (text : String) : Prop where
  width : 0 < width text

instance visible_pub : Visible "pub" := ⟨by decide⟩

instance visible_const : Visible "const" := ⟨by decide⟩

instance visible_async : Visible "async" := ⟨by decide⟩

instance visible_unsafe : Visible "unsafe" := ⟨by decide⟩

instance visible_extern : Visible "extern" := ⟨by decide⟩

/-- The rule reads something, unless it changes nothing. -/
class Advances {α : Type} (rule : Parse α) : Prop where
  moves {p q : Progress} {a : α} (hrun : rule.run p = some (a, q)) : q.rest.length < p.rest.length ∨ q = p

section

variable {α β : Type} {rule next : Parse α} {f : α → Parse β} {text : String}

instance pure_advances {a : α} : (pure a : Parse α).Advances :=
  ⟨fun hrun => by cases hrun; exact Or.inr rfl⟩

instance failure_advances : (failure : Parse α).Advances :=
  ⟨fun hrun => by cases hrun⟩

instance bind_advances [h : rule.Advances] [h' : ∀ a, (f a).Advances] : (rule >>= f).Advances := by
  refine ⟨fun hrun => ?_⟩
  obtain ⟨a, r, hrule, hf⟩ := run_bind hrun
  rcases h.moves hrule with hr | rfl
  · rcases (h' a).moves hf with hq | rfl
    · exact Or.inl (Nat.lt_trans hq hr)
    · exact Or.inl hr
  · exact (h' a).moves hf

instance ite_advances {c : Prop} [Decidable c] [rule.Advances] [next.Advances] :
    (if c then rule else next).Advances := by
  split <;> assumption

instance look_advances : look.Advances :=
  ⟨fun hrun => by cases hrun; exact Or.inr rfl⟩

theorem rest_of_bump {n : Nat} {p q : Progress} {a : Unit} (hrun : (bump n).run p = some (a, q)) :
    q.rest.length + n = p.rest.length := by
  obtain ⟨hle, hrest, -⟩ := run_bump hrun
  rw [hrest, List.length_drop]
  omega

instance bump_advances {n : Nat} : (bump (n + 1)).Advances := by
  refine ⟨fun hrun => Or.inl ?_⟩
  have := rest_of_bump hrun
  omega

instance bump_width_advances [h : Visible text] : (bump (width text)).Advances := by
  refine ⟨fun hrun => Or.inl ?_⟩
  have := rest_of_bump hrun
  have := h.width
  omega

instance eat_advances [Visible text] : (eat text).Advances := by
  dsimp only [eat]
  infer_instance

instance eat?_advances [Visible text] : (eat? text).Advances := by
  dsimp only [eat?]
  infer_instance

instance expect_advances [Visible text] : (expect text).Advances := by
  dsimp only [expect]
  infer_instance

theorem rest_of_expect [h : Visible text] {p q : Progress} {a : Unit} (hrun : (expect text).run p = some (a, q)) :
    q.rest.length < p.rest.length := by
  have := rest_of_bump (run_expect hrun).2
  have := h.width
  omega

/-- A node that starts with a word or sign. -/
theorem node_advances [Visible text] {k : NodeKind} {f : Unit → Parse Unit} {F : Unit → Effect Unit}
    [h : ∀ u, (f u).HasEffect (F u)] (hF : F () (fun _ _ => True) [none]) : (node k (expect text >>= f)).Advances := by
  refine ⟨fun {p q a} hrun => Or.inl ?_⟩
  obtain ⟨_, _, hbody, rfl⟩ := run_node hrun
  obtain ⟨_, _, hexpect, hf⟩ := run_bind hbody
  obtain ⟨-, -, v, hv, rfl⟩ := expect_effect.leads (Q := fun _ v => v = [none]) rfl (.nil rfl) hexpect
  have hle := ((h ()).leads hF hv hf).rest.length_le
  have hlt := rest_of_expect (p := { p with built := [] }) hexpect
  exact Nat.lt_of_le_of_lt hle hlt

end

end Parse

end AsyncLint.Source
