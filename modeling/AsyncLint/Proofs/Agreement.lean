import AsyncLint.Proofs.Effect

/-!
# Rules that do the same

Two rules can be compared on inputs up to some length. Once a lexeme has been read, what follows need only do the same
on shorter inputs. As with effects, agreement of rules is found step by step from that of their parts.
-/

namespace AsyncLint.Source

open Parse

/-- A keyword or sign that comes next consists of something. -/
theorem width_pos_of_starts {input : Lexemes} {text : String} (hproper : ∀ l ∈ input, l.Proper)
    (h : input.starts text = true) : 0 < width text := by
  rcases starts_cases hproper h with hsign | hword
  · unfold width
    split
    · exact Nat.one_pos
    · refine List.length_pos_of_ne_nil fun hnil => ?_
      rw [hnil] at hsign
      cases input <;> cases hsign
  · rw [hword]
    exact Nat.one_pos

namespace Parse

variable {α β : Type} {n m : Nat}

/-- On at most `n` proper lexemes both rules do the same, and they leave an end of what they are given. -/
class Agree (n : Nat) (x y : Parse α) : Prop where
  run_eq {p : Progress} (hn : p.rest.length ≤ n) (hp : ∀ l ∈ p.rest, l.Proper) : x.run p = y.run p
  suffix {p q : Progress} {a : α} (hn : p.rest.length ≤ n) (hp : ∀ l ∈ p.rest, l.Proper)
    (hrun : x.run p = some (a, q)) : q.rest <:+ p.rest

/-- The rules agree on fewer than `n` lexemes. -/
class AgreeBelow (n : Nat) (x y : Parse α) : Prop where
  agree {m : Nat} (hm : m < n) : Agree m x y

/-- The rules agree on at most `n` lexemes, and read at least one. -/
class Eats (n : Nat) (x y : Parse α) : Prop extends Agree n x y where
  shorter {p q : Progress} {a : α} (hn : p.rest.length ≤ n) (hp : ∀ l ∈ p.rest, l.Proper)
    (hrun : x.run p = some (a, q)) : q.rest.length < p.rest.length

theorem Agree.mono {x y : Parse α} (h : Agree n x y) (hm : m ≤ n) : Agree m x y :=
  ⟨fun hn => h.run_eq (Nat.le_trans hn hm), fun hn => h.suffix (Nat.le_trans hn hm)⟩

theorem Agree.below {x y : Parse α} (h : Agree n x y) : AgreeBelow (n + 1) x y :=
  ⟨fun hm => h.mono (Nat.le_of_lt_succ hm)⟩

theorem agreeBelow_zero (x y : Parse α) : AgreeBelow 0 x y :=
  ⟨fun hm => absurd hm (Nat.not_lt_zero _)⟩

instance (priority := low) agreeBelow_of_agree {x y : Parse α} [h : Agree n x y] : AgreeBelow n x y :=
  ⟨fun hm => h.mono (Nat.le_of_lt hm)⟩

/-! ## Steps -/

section

variable {x y x' y' : Parse α} {f f' : α → Parse β}

instance pure_agree {a : α} : Agree n (pure a : Parse α) (pure a) :=
  ⟨fun _ _ => rfl, fun _ _ hrun => by cases hrun; exact List.suffix_rfl⟩

instance failure_eats : Eats n (failure : Parse α) failure where
  run_eq _ _ := rfl
  suffix _ _ hrun := by cases hrun
  shorter _ _ hrun := by cases hrun

instance get_agree : Agree n (get : Parse Progress) get :=
  ⟨fun _ _ => rfl, fun _ _ hrun => by cases hrun; exact List.suffix_rfl⟩

theorem agree_modify {change : Progress → Progress} (h : ∀ p, (change p).rest <:+ p.rest) :
    Agree n (modify change : Parse Unit) (modify change) :=
  ⟨fun _ _ => rfl, fun _ _ hrun => by cases hrun; exact h _⟩

/-- The rest of a rule has to agree only on what its first step leaves. -/
theorem Agree.bind_of_run (hx : Agree n x y) (hf : ∀ {p q a}, p.rest.length ≤ n → (∀ l ∈ p.rest, l.Proper) →
    x.run p = some (a, q) → Agree q.rest.length (f a) (f' a)) : Agree n (x >>= f) (y >>= f') := by
  constructor
  · intro p hn hp
    change (x.run p).bind (fun r => (f r.1).run r.2) = (y.run p).bind fun r => (f' r.1).run r.2
    rw [← hx.run_eq hn hp]
    cases hrun : x.run p with
    | none => rfl
    | some r => exact (hf hn hp hrun).run_eq (Nat.le_refl _) fun l hl => hp l ((hx.suffix hn hp hrun).subset hl)
  · intro p q b hn hp hrun
    obtain ⟨a, r, hx', hf'⟩ := run_bind hrun
    have hr := hx.suffix hn hp hx'
    exact ((hf hn hp hx').suffix (Nat.le_refl _) (fun l hl => hp l (hr.subset hl)) hf').trans hr

theorem Agree.bind (hx : Agree n x y) (hf : ∀ a, Agree n (f a) (f' a)) : Agree n (x >>= f) (y >>= f') :=
  hx.bind_of_run fun hn hp hrun => (hf _).mono (Nat.le_trans (hx.suffix hn hp hrun).length_le hn)

instance bind_agree [hx : Agree n x y] [hf : ∀ a, Agree n (f a) (f' a)] : Agree n (x >>= f) (y >>= f') :=
  hx.bind hf

theorem Eats.bind (hx : Eats n x y) (hf : ∀ a, AgreeBelow n (f a) (f' a)) : Agree n (x >>= f) (y >>= f') :=
  hx.bind_of_run fun hn hp hrun => (hf _).agree (Nat.lt_of_lt_of_le (hx.shorter hn hp hrun) hn)

instance bind_agree_of_eats [hx : Eats n x y] [hf : ∀ a, AgreeBelow n (f a) (f' a)] : Agree n (x >>= f) (y >>= f') :=
  hx.bind hf

instance bind_agreeBelow [hx : AgreeBelow n x y] [hf : ∀ a, AgreeBelow n (f a) (f' a)] :
    AgreeBelow n (x >>= f) (y >>= f') := by
  refine ⟨fun {m} hm => ?_⟩
  have := hx.agree hm
  have := fun a => (hf a).agree hm
  infer_instance

instance bind_eats [hx : Agree n x y] [hf : ∀ a, Eats n (f a) (f' a)] : Eats n (x >>= f) (y >>= f') := by
  refine ⟨fun {p q b} hn hp hrun => ?_⟩
  obtain ⟨a, r, hx', hf'⟩ := run_bind hrun
  have hr := hx.suffix hn hp hx'
  have hq := (hf a).shorter (Nat.le_trans hr.length_le hn) (fun l hl => hp l (hr.subset hl)) hf'
  exact Nat.lt_of_lt_of_le hq hr.length_le

instance bind_eats_of_eats [hx : Eats n x y] [hf : ∀ a, AgreeBelow n (f a) (f' a)] : Eats n (x >>= f) (y >>= f') := by
  refine ⟨fun {p q b} hn hp hrun => ?_⟩
  obtain ⟨a, r, hx', hf'⟩ := run_bind hrun
  have hr := hx.shorter hn hp hx'
  have hq := ((hf a).agree (Nat.lt_of_lt_of_le hr hn)).suffix (Nat.le_refl _)
    (fun l hl => hp l ((hx.suffix hn hp hx').subset hl)) hf'
  exact Nat.lt_of_le_of_lt hq.length_le hr

theorem Agree.ite {c : Prop} [Decidable c] (h : Agree n x y) (h' : Agree n x' y') :
    Agree n (if c then x else x') (if c then y else y') := by
  split <;> assumption

instance ite_agree {c : Prop} [Decidable c] [h : Agree n x y] [h' : Agree n x' y'] :
    Agree n (if c then x else x') (if c then y else y') :=
  h.ite h'

instance ite_agreeBelow {c : Prop} [Decidable c] [AgreeBelow n x y] [AgreeBelow n x' y'] :
    AgreeBelow n (if c then x else x') (if c then y else y') := by
  split <;> assumption

instance ite_eats {c : Prop} [Decidable c] [Eats n x y] [Eats n x' y'] :
    Eats n (if c then x else x') (if c then y else y') := by
  split <;> assumption

end

instance look_agree : Agree n look look := by
  dsimp only [look]
  infer_instance

section

variable {f f' : Lexemes → Parse α}

theorem Agree.of_look (h : ∀ ts, Agree n (f ts) (f' ts)) : Agree n (look >>= f) (look >>= f') :=
  inferInstance

theorem AgreeBelow.of_look (h : ∀ ts, AgreeBelow n (f ts) (f' ts)) : AgreeBelow n (look >>= f) (look >>= f') :=
  inferInstance

end

instance emit_agree {s : Shape} : Agree n (emit s) (emit s) :=
  agree_modify fun _ => List.suffix_rfl

instance skip_agree {k : Nat} : Agree n (skip k) (skip k) :=
  agree_modify fun _ => List.drop_suffix _ _

instance wrap_agree {k : NodeKind} : Agree n (wrap k) (wrap k) :=
  agree_modify fun _ => List.suffix_rfl

instance absorb_agree : Agree n absorb absorb := by
  refine agree_modify fun p => ?_
  split <;> exact List.suffix_rfl

instance bump_agree {k : Nat} : Agree n (bump k) (bump k) := by
  dsimp only [bump]
  infer_instance

instance bump_eats : Eats n (bump 1) (bump 1) := by
  refine ⟨fun _ _ hrun => ?_⟩
  have := rest_of_bump hrun
  omega

variable {text : String}

instance eat_agree : Agree n (eat text) (eat text) := by
  dsimp only [eat]
  infer_instance

instance eat?_agree : Agree n (eat? text) (eat? text) := by
  dsimp only [eat?]
  infer_instance

instance expect_agree : Agree n (expect text) (expect text) := by
  dsimp only [expect]
  infer_instance

instance expect_eats : Eats n (expect text) (expect text) := by
  refine ⟨fun _ hp hrun => ?_⟩
  obtain ⟨hstarts, hbump⟩ := run_expect hrun
  have := rest_of_bump hbump
  have := width_pos_of_starts hp hstarts
  omega

/-! ## Nodes -/

section

variable {x y : Parse α}

theorem run_isolate (x : Parse α) (p : Progress) : (isolate x).run p =
    (x.run { p with built := [] }).map fun r => (r.1, { r.2 with built := r.2.built ++ p.built }) := by
  change (x.run { p with built := [] }).bind _ = _
  rw [Option.map_eq_bind]
  rfl

theorem exists_run_of_isolate {p q : Progress} {a : α} (hrun : (isolate x).run p = some (a, q)) :
    ∃ r, x.run { p with built := [] } = some (a, r) ∧ r.rest = q.rest := by
  rw [run_isolate] at hrun
  obtain ⟨⟨b, r⟩, hx, hq⟩ := Option.map_eq_some_iff.mp hrun
  cases hq
  exact ⟨r, hx, rfl⟩

instance isolate_agree [h : Agree n x y] : Agree n (isolate x) (isolate y) := by
  refine ⟨fun {p} hn hp => ?_, fun {p q a} hn hp hrun => ?_⟩
  · rw [run_isolate, run_isolate, h.run_eq (p := { p with built := [] }) hn hp]
  · obtain ⟨r, hx, hr⟩ := exists_run_of_isolate hrun
    exact hr ▸ h.suffix (p := { p with built := [] }) hn hp hx

theorem Agree.isolate (h : Agree n x y) : Agree n (isolate x) (isolate y) :=
  inferInstance

instance isolate_agreeBelow [h : AgreeBelow n x y] : AgreeBelow n (isolate x) (isolate y) := by
  refine ⟨fun {m} hm => ?_⟩
  have := h.agree hm
  infer_instance

instance isolate_eats [h : Eats n x y] : Eats n (isolate x) (isolate y) := by
  refine ⟨fun {p q a} hn hp hrun => ?_⟩
  obtain ⟨r, hx, hr⟩ := exists_run_of_isolate hrun
  exact hr ▸ h.shorter (p := { p with built := [] }) hn hp hx

end

section

variable {k : NodeKind} {x y : Parse Unit}

instance node_agree [Agree n x y] : Agree n (node k x) (node k y) := by
  dsimp only [node]
  infer_instance

theorem Agree.node (h : Agree n x y) : Agree n (node k x) (node k y) :=
  inferInstance

instance node_agreeBelow [AgreeBelow n x y] : AgreeBelow n (node k x) (node k y) := by
  dsimp only [node]
  infer_instance

instance node_eats [Eats n x y] : Eats n (node k x) (node k y) := by
  dsimp only [node]
  infer_instance

end

/-! ## Loops -/

section

variable {step step' : Parse Bool}

instance repeatAtMost_agree [Agree n step step'] {k : Nat} :
    Agree n (repeatAtMost k step) (repeatAtMost k step') := by
  induction k with
  | zero =>
      dsimp only [repeatAtMost]
      infer_instance
  | succ k ih =>
      dsimp only [repeatAtMost]
      infer_instance

instance loop_agree [Agree n step step'] : Agree n (loop step) (loop step') := by
  dsimp only [loop]
  infer_instance

theorem Agree.loop (h : Agree n step step') : Agree n (loop step) (loop step') :=
  inferInstance

instance loop_agreeBelow [h : AgreeBelow n step step'] : AgreeBelow n (loop step) (loop step') := by
  refine ⟨fun {m} hm => ?_⟩
  have := h.agree hm
  infer_instance

end

section

variable {opening closing : String} {element element' : Parse Unit} [AgreeBelow n element element']

instance delimited_eats : Eats n (delimited opening closing element) (delimited opening closing element') := by
  dsimp only [delimited]
  infer_instance

instance listUntil_agreeBelow : AgreeBelow n (listUntil closing element) (listUntil closing element') := by
  dsimp only [listUntil]
  infer_instance

end

/-! ## Names -/

instance name_eats : Eats n name name := by
  dsimp only [name]
  infer_instance

instance selfName_eats : Eats n selfName selfName := by
  dsimp only [selfName]
  infer_instance

instance nameRef_eats : Eats n nameRef nameRef := by
  dsimp only [nameRef]
  infer_instance

instance segmentName_eats : Eats n segmentName segmentName := by
  dsimp only [segmentName]
  infer_instance

instance fieldName_eats : Eats n fieldName fieldName := by
  dsimp only [fieldName]
  infer_instance

instance lifetime_eats : Eats n lifetime lifetime := by
  dsimp only [lifetime]
  infer_instance

instance literal_eats : Eats n literal literal := by
  dsimp only [literal]
  infer_instance

end Parse

end AsyncLint.Source
