import AsyncLint.Proofs.Spelling
import Mathlib.Data.List.NodupEquivFin

/-!
# Lookups when functions are added

A function is found only if it is the only one that is asked for. So code that is added to a source never turns a
lookup to another function: what was found is found again, at its new number, or it has become ambiguous and nothing is
found.
-/

namespace AsyncLint

/-- A type or trait of this name is what the function is declared in. -/
def Owner.IsIn (owner : Owner) (scope : String) : Prop :=
  owner = .inherent scope ∨ (∃ traitName, owner = .traitImpl traitName scope) ∨ owner = .traitDef scope

theorem Owner.scope?_eq_some_iff {owner : Owner} {scope : String} : owner.scope? = some scope ↔ owner.IsIn scope := by
  cases owner <;> simp [scope?, IsIn]

/-- What a registry can be asked for. -/
inductive Lookup where
  /-- A free function of a module. -/
  | freeFunction (module : List String) (name : String)
  /-- A method of a type or trait, wherever that is declared. -/
  | method (scope name : String)
  /-- A method of a type or trait, among those declared in a module. -/
  | methodIn (module : List String) (scope name : String)

/-- The functions that a lookup asks for. -/
def Lookup.Matches : Lookup → FnEntry → Prop
  | .freeFunction module name, e => e.owner = .free ∧ e.module = module ∧ e.name = name
  | .method scope name, e => e.owner.IsIn scope ∧ e.name = name
  | .methodIn module scope name, e => e.owner.IsIn scope ∧ e.module = module ∧ e.name = name

namespace Registry

def answer? (r : Registry) : Lookup → Option DeclId
  | .freeFunction module name => r.freeFunction? module name
  | .method scope name => r.method? scope name
  | .methodIn module scope name => r.methodIn? module scope name

/-- The function with this number is one that the lookup asks for. -/
def MatchesAt (r : Registry) (q : Lookup) (id : DeclId) : Prop :=
  ∃ e, r.entries[id]? = some e ∧ q.Matches e

variable {r r' : Registry} {q : Lookup} {id i j : DeclId}

theorem methodIn?_eq_some_iff {module : List String} {scope name : String} : r.methodIn? module scope name = some id ↔
    r.OnlyFit (fun e => e.owner.scope? = some scope ∧ e.module = module ∧ e.name = name) id := by
  rw [methodIn?, unique?_eq_some_iff]
  simp only [Bool.and_eq_true, beq_iff_eq, and_assoc]

theorem onlyFit_matches_iff :
    r.OnlyFit q.Matches id ↔ r.MatchesAt q id ∧ ∀ other, r.MatchesAt q other → other = id := by
  constructor
  · rintro ⟨e, he, hm, honly⟩
    exact ⟨⟨e, he, hm⟩, fun other ⟨e', he', hm'⟩ => honly other e' he' hm'⟩
  · rintro ⟨⟨e, he, hm⟩, honly⟩
    exact ⟨e, he, hm, fun other e' he' hm' => honly other ⟨e', he', hm'⟩⟩

/-- A lookup finds a function exactly if it is the only one that is asked for. -/
theorem answer?_eq_some_iff :
    r.answer? q = some id ↔ r.MatchesAt q id ∧ ∀ other, r.MatchesAt q other → other = id := by
  rw [← onlyFit_matches_iff]
  cases q with
  | freeFunction module name => exact freeFunction?_eq_some_iff
  | method scope name =>
      simp only [answer?, method?_eq_some_iff, FnEntry.IsMethod, Owner.scope?_eq_some_iff]
      exact Iff.rfl
  | methodIn module scope name =>
      simp only [answer?, methodIn?_eq_some_iff, Owner.scope?_eq_some_iff]
      exact Iff.rfl

theorem answer?_eq_none_of_two (hij : i ≠ j) (hi : r.MatchesAt q i) (hj : r.MatchesAt q j) : r.answer? q = none := by
  refine Option.eq_none_iff_forall_ne_some.mpr fun id h => hij ?_
  have honly := (answer?_eq_some_iff.mp h).2
  rw [honly i hi, honly j hj]

/-! ## Adding functions -/

/-- Functions are added to `r` at any places, and the result is `r'`. The function with number `i` gets the number
`shift i`, so the order of the functions stays. -/
structure Insertion (r r' : Registry) where
  shift : Nat ↪o Nat
  kept : ∀ i, r'.entries[shift i]? = r.entries[i]?

/-- Adding functions is possible exactly if all functions are there again, in the same order. -/
theorem nonempty_insertion_iff : Nonempty (Insertion r r') ↔ r.entries.Sublist r'.entries := by
  rw [List.sublist_iff_exists_orderEmbedding_getElem?_eq]
  exact ⟨fun ⟨x⟩ => ⟨x.shift, fun i => (x.kept i).symm⟩, fun ⟨shift, h⟩ => ⟨⟨shift, fun i => (h i).symm⟩⟩⟩

namespace Insertion

variable (x : Insertion r r')

/-- The number belongs to none of the old functions. -/
def IsNew (j : DeclId) : Prop :=
  ∀ i, x.shift i ≠ j

theorem matchesAt_shift_iff : r'.MatchesAt q (x.shift i) ↔ r.MatchesAt q i := by
  rw [MatchesAt, MatchesAt, x.kept]

theorem answer?_of_no_new (h : r.answer? q = some id) (hnew : ∀ j, r'.MatchesAt q j → ¬ x.IsNew j) :
    r'.answer? q = some (x.shift id) := by
  obtain ⟨hid, honly⟩ := answer?_eq_some_iff.mp h
  refine answer?_eq_some_iff.mpr ⟨x.matchesAt_shift_iff.mpr hid, fun j hj => ?_⟩
  obtain ⟨i, rfl⟩ : ∃ i, x.shift i = j := by simpa [IsNew] using hnew j hj
  rw [honly i (x.matchesAt_shift_iff.mp hj)]

theorem answer?_of_new (h : r.answer? q = some id) (hj : r'.MatchesAt q j) (hnew : x.IsNew j) :
    r'.answer? q = none :=
  answer?_eq_none_of_two (hnew id) (x.matchesAt_shift_iff.mpr (answer?_eq_some_iff.mp h).1) hj

end Insertion

/-- A lookup finds the one function that is asked for, if there is exactly one. Added functions leave it as it is as long
as none of them is asked for too, and then it is found under its new number; otherwise nothing is found any more. It is
never another function, and what is ambiguous stays so. -/
theorem lookup_stable_under_insertion (r r' : Registry) (x : r.Insertion r') (q : Lookup) :
    (∀ id, r.answer? q = some id ↔ r.MatchesAt q id ∧ ∀ other, r.MatchesAt q other → other = id) ∧
    (∀ id, r.answer? q = some id →
      ((∀ j, r'.MatchesAt q j → ¬ x.IsNew j) → r'.answer? q = some (x.shift id)) ∧
      ((∃ j, r'.MatchesAt q j ∧ x.IsNew j) → r'.answer? q = none) ∧
      ∀ id', r'.answer? q = some id' → id' = x.shift id ∧ r'.entries[id']? = r.entries[id]?) ∧
    ∀ i j, i ≠ j → r.MatchesAt q i → r.MatchesAt q j → r.answer? q = none ∧ r'.answer? q = none := by
  refine ⟨fun id => answer?_eq_some_iff, fun id h => ⟨x.answer?_of_no_new h, ?_, fun id' h' => ?_⟩, ?_⟩
  · rintro ⟨j, hj, hnew⟩
    exact x.answer?_of_new h hj hnew
  · have hid : id' = x.shift id :=
      ((answer?_eq_some_iff.mp h').2 _ (x.matchesAt_shift_iff.mpr (answer?_eq_some_iff.mp h).1)).symm
    exact ⟨hid, hid ▸ x.kept id⟩
  · intro i j hij hi hj
    refine ⟨answer?_eq_none_of_two hij hi hj, ?_⟩
    exact answer?_eq_none_of_two (fun h => hij (x.shift.injective h)) (x.matchesAt_shift_iff.mpr hi)
      (x.matchesAt_shift_iff.mpr hj)

/-- One function more in front of all others. -/
def Insertion.front (r : Registry) (e : FnEntry) : r.Insertion { r with entries := e :: r.entries } where
  shift := OrderEmbedding.ofStrictMono Nat.succ fun _ _ h => Nat.succ_lt_succ h
  kept _ := rfl

/-- A function `g` of this owner, at the root of a source. -/
def sample (owner : Owner) : FnEntry where
  name := "g"
  owner := owner
  module := []
  isAsync := true
  visibility := .hidden
  implicitProtocol := false
  line := 1
  column := 1
  body := none

/-- A method is found again behind a free function of the same name. Behind a method of the same name that implements a
trait for the same type it is not found any more. -/
theorem lookup_stable_under_insertion_namesake :
    let r : Registry := { entries := [sample (.inherent "S")], modules := [[]] }
    let q : Lookup := .method "S" "g"
    r.answer? q = some 0 ∧
    { r with entries := sample .free :: r.entries }.answer? q = some 1 ∧
    { r with entries := sample (.traitImpl "T" "S") :: r.entries }.answer? q = none := by
  intro r q
  have hfound : r.answer? q = some 0 := by decide
  refine ⟨hfound, ?_, ?_⟩
  · refine ((lookup_stable_under_insertion r _ (.front r _) q).2.1 0 hfound).1 fun j hj hnew => ?_
    cases j with
    | zero =>
        obtain ⟨e, he, howner, _⟩ := hj
        obtain rfl := Option.some.inj he
        simp [Owner.IsIn, sample] at howner
    | succ i => exact hnew i rfl
  · refine ((lookup_stable_under_insertion r _ (.front r _) q).2.1 0 hfound).2.1 ⟨0, ⟨_, rfl, ?_⟩, fun i h => ?_⟩
    · exact ⟨Or.inr (Or.inl ⟨"T", rfl⟩), rfl⟩
    · exact Nat.succ_ne_zero i h

end Registry

end AsyncLint
