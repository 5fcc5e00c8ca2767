import AsyncLint.Json.Form
import AsyncLint.Json.Value
import AsyncLint.Proofs.Trimming

/-!
# Reading what was written

The readers for configurations read JSON character by character. Put together to a reader for all values, they give back
every value from its text: from strings with whatever characters, from lists and objects with blanks around their parts,
and from lists and objects without any.
-/

namespace AsyncLint.Json

/-! ## Readers for all values -/

/-- Reads the digits of a natural number, without zeros before it. -/
def readNatural : Reading Nat := do
  let digits ← upcomingDigits
  match digits with
  | [] => failAhead .invalidNumber
  | '0' :: _ :: _ => failAhead .invalidNumber
  | _ =>
    eat digits.length
    return Nat.ofDigitChars 10 digits 0

/-- Reads the keys and values of an object that are left. -/
def readMembers {α : Type} (value : Reading α) : Nat → Bool → Reading (List (String × α))
  | 0, _ => return []
  | fuel + 1, first => do
    if ← nextKey first then
      eat
      let key ← readText
      readColon
      let a ← value
      return (key, a) :: (← readMembers value fuel false)
    else
      return []

/-- Reads a value with at most `depth` values around one another. -/
def readValue : (depth : Nat) → Reading Value
  | 0 => failHere (.breaksOff .value)
  | depth + 1 => do
    match ← valueStart with
    | '"' => return .string (← readString)
    | '[' => return .list (← readList (readValue depth))
    | '{' =>
      eat
      let fields ← readMembers (readValue depth) ((← get).rest.length + 1) true
      closeObject
      return .object fields
    | c => if c.isDigit then return .number (← readNatural) else failAhead .expectedValue

/-- The value that a text describes, among strings, natural numbers, lists and objects. -/
def parse (text : String) : Except ReadError Value :=
  readWhole (readValue (text.length + 1)) text

/-! ## What readers do -/

/-- Before `x`, the reader `m` reads `a` and stops before `y`, wherever in the text `x` starts. -/
def Yields {α : Type} (m : Reading α) (x : List Char) (a : α) (y : List Char) : Prop :=
  ∀ p, ∃ q, m.run.run { rest := x, place := p } = (.ok a, { rest := y, place := q })

variable {α β : Type} {m : Reading α} {f : α → Reading β} {a : α} {b : β} {x y z : List Char}

theorem yields_pure (a : α) (x : List Char) : Yields (pure a) x a x :=
  fun p => ⟨p, rfl⟩

theorem Yields.bind (hm : Yields m x a y) (hf : Yields (f a) y b z) : Yields (m >>= f) x b z := by
  intro p
  obtain ⟨q, hq⟩ := hm p
  obtain ⟨q', hq'⟩ := hf q
  refine ⟨q', ?_⟩
  rw [ExceptT.run_bind, StateT.run_bind, hq]
  exact hq'

theorem Yields.get_bind {f : Cursor → Reading β} (hf : ∀ p, Yields (f { rest := x, place := p }) x b z) :
    Yields (get >>= f) x b z :=
  fun p => hf p p

theorem rest_advance (n : Nat) (c : Cursor) : (c.advance n).rest = c.rest.drop n := by
  induction n generalizing c with
  | zero => rfl
  | succ n ih =>
      obtain ⟨rest, place⟩ := c
      cases rest with
      | nil => rfl
      | cons c rest => exact ih _

theorem yields_eat (n : Nat) (x : List Char) : Yields (eat n) x () (x.drop n) := by
  intro p
  refine ⟨(Cursor.advance n { rest := x, place := p }).place, ?_⟩
  have hrest := rest_advance n { rest := x, place := p }
  change (Except.ok (), Cursor.advance n { rest := x, place := p }) = _
  rw [← hrest]

theorem yields_peek (x : List Char) : Yields peek x x.head? x :=
  fun p => ⟨p, rfl⟩

variable {blanks : List Char} {c : Char}

theorem yields_skipBlanks (hb : ∀ c ∈ blanks, isBlank c = true) (hy : ∀ c ∈ y.head?, isBlank c = false) :
    Yields skipBlanks (blanks ++ y) y.head? y := by
  refine .get_bind fun p => .bind (yields_eat _ _) ?_
  rw [Text.takeWhile_append_eq hb hy, List.drop_left]
  exact yields_peek y

theorem yields_skipBlanks_of_none (hy : ∀ c ∈ y.head?, isBlank c = false) : Yields skipBlanks y y.head? y :=
  yields_skipBlanks (List.forall_mem_nil _) hy

theorem yields_valueStart (hb : ∀ c ∈ blanks, isBlank c = true) (hc : isBlank c = false) (y : List Char) :
    Yields valueStart (blanks ++ c :: y) c (c :: y) :=
  .bind (yields_skipBlanks hb (by simpa using hc)) (yields_pure c _)

/-! ## Strings -/

theorem hexValue?_digitChar : ∀ d < 16, hexValue? (Nat.digitChar d) = some d ∧ (Nat.digitChar d).utf8Size = 1 := by
  decide

theorem yields_readHex {n : Nat} (hn : n < 256) (y : List Char) :
    Yields readHex ('0' :: '0' :: Nat.digitChar (n / 16) :: Nat.digitChar (n % 16) :: y) n y := by
  obtain ⟨hhigh, hhigh'⟩ := hexValue?_digitChar (n / 16) (by omega)
  obtain ⟨hlow, hlow'⟩ := hexValue?_digitChar (n % 16) (by omega)
  have hzero : hexValue? '0' = some 0 ∧ '0'.utf8Size = 1 := by decide
  have hdigits : ['0', '0', Nat.digitChar (n / 16), Nat.digitChar (n % 16)].mapM hexValue? =
      some [0, 0, n / 16, n % 16] := by
    simp [hzero.1, hhigh, hlow]
  have hbytes : Text.byteLength ['0', '0', Nat.digitChar (n / 16), Nat.digitChar (n % 16)] = 4 := by
    simp [Text.byteLength, hzero.2, hhigh', hlow']
  refine .get_bind fun p => ?_
  simp only [bytesLeft, List.take_succ_cons, List.take_zero, hbytes, hdigits, Nat.lt_irrefl, if_false]
  refine .bind (yields_eat 4 _) ?_
  have hvalue : ((0 * 16 + 0) * 16 + n / 16) * 16 + n % 16 = n := by omega
  rw [hvalue]
  exact yields_pure n y

/-- A character is written as a short escape, by its code point or as itself. -/
theorem escapeChar_cases (c : Char) :
    (∃ e, escapeChar c = ['\\', e] ∧ e ≠ 'u' ∧ shortEscape? e = some c) ∨
    c.toNat < 32 ∧ escapeChar c =
      ['\\', 'u', '0', '0', Nat.digitChar (c.toNat / 16), Nat.digitChar (c.toNat % 16)] ∨
    escapeChar c = [c] ∧ c ≠ '"' ∧ c ≠ '\\' ∧ ¬ c.toNat < 32 := by
  unfold escapeChar
  split
  · exact Or.inl ⟨'"', rfl, by decide, by simp_all [shortEscape?]⟩
  split
  · exact Or.inl ⟨'\\', rfl, by decide, by simp_all [shortEscape?]⟩
  split
  · exact Or.inl ⟨'n', rfl, by decide, by simp_all [shortEscape?]⟩
  split
  · exact Or.inl ⟨'r', rfl, by decide, by simp_all [shortEscape?]⟩
  split
  · exact Or.inl ⟨'t', rfl, by decide, by simp_all [shortEscape?]⟩
  split
  · exact Or.inl ⟨'b', rfl, by decide, by simp_all [shortEscape?]⟩
  split
  · exact Or.inl ⟨'f', rfl, by decide, by simp_all [shortEscape?]⟩
  split
  · exact Or.inr (Or.inl ⟨‹_›, rfl⟩)
  · exact Or.inr (Or.inr ⟨rfl, ‹_›, ‹_›, ‹_›⟩)

theorem yields_readEscape {e : Char} (he : e ≠ 'u') (hc : shortEscape? e = some c) (y : List Char) :
    Yields (readEscape id readCodePoint) (e :: y) c y := by
  refine .bind (yields_peek _) ?_
  simp only [List.head?_cons, hc]
  exact .bind (yields_eat 1 _) (yields_pure c y)

theorem yields_readEscape_codePoint (hc : c.toNat < 32) (y : List Char) :
    Yields (readEscape id readCodePoint)
      ('u' :: '0' :: '0' :: Nat.digitChar (c.toNat / 16) :: Nat.digitChar (c.toNat % 16) :: y) c y := by
  refine .bind (yields_peek _) (.bind (yields_eat 1 _) (.bind (yields_readHex (by omega) y) ?_))
  rw [if_neg (by simp; omega), if_pos (by simp; omega), Char.ofNat_toNat]
  exact yields_pure c y

/-- Reading on behind a character that has been written. -/
theorem Yields.readChars_escapeChar {fuel : Nat} {done : List Char} {s : String}
    (h : Yields (readChars fuel (c :: done)) y s z) : Yields (readChars (fuel + 1) done) (escapeChar c ++ y) s z := by
  rcases escapeChar_cases c with ⟨e, hw, he, hc⟩ | ⟨hc, hw⟩ | ⟨hw, hquote, hslash, hc⟩
  · rw [hw]
    exact .bind (yields_peek _) (.bind (yields_eat 1 _) (.bind (yields_readEscape he hc y) h))
  · rw [hw]
    exact .bind (yields_peek _) (.bind (yields_eat 1 _) (.bind (yields_readEscape_codePoint hc y) h))
  · rw [hw]
    refine .bind (yields_peek _) ?_
    simp only [List.cons_append, List.nil_append, List.head?_cons, hc, if_false]
    exact .bind (yields_eat 1 _) h

theorem yields_readChars (cs done y : List Char) (more : Nat) :
    Yields (readChars (cs.length + more + 1) done) (cs.flatMap escapeChar ++ '"' :: y)
      (String.ofList (done.reverse ++ cs)) y := by
  induction cs generalizing done more with
  | nil =>
      rw [List.append_nil]
      exact .bind (yields_peek _) (.bind (yields_eat 1 _) (yields_pure _ y))
  | cons c cs ih =>
      have hnext := ih (c :: done) more
      rw [List.reverse_cons, List.append_assoc, List.singleton_append] at hnext
      rw [List.flatMap_cons, List.append_assoc, List.length_cons, Nat.add_right_comm cs.length 1]
      exact hnext.readChars_escapeChar

theorem one_le_length_escapeChar (c : Char) : 1 ≤ (escapeChar c).length := by
  rcases escapeChar_cases c with ⟨e, hw, _⟩ | ⟨_, hw⟩ | ⟨hw, _⟩ <;> simp [hw]

theorem length_le_length_flatMap {g : α → List Char} (h : ∀ a, 1 ≤ (g a).length) (as : List α) :
    as.length ≤ (as.flatMap g).length := by
  induction as with
  | nil => simp
  | cons a as ih =>
      have := h a
      simp only [List.flatMap_cons, List.length_append, List.length_cons]
      omega

/-- A string in quotes is read from behind its first quote on. -/
theorem yields_readText (s : String) (y : List Char) :
    Yields readText (s.toList.flatMap escapeChar ++ '"' :: y) s y := by
  refine .get_bind fun p => ?_
  have hlength := length_le_length_flatMap one_le_length_escapeChar s.toList
  obtain ⟨more, hmore⟩ : ∃ more, (s.toList.flatMap escapeChar ++ '"' :: y).length = s.toList.length + more :=
    Nat.exists_eq_add_of_le (by simp only [List.length_append]; omega)
  rw [hmore]
  simpa using yields_readChars s.toList [] y more

/-! ## Numbers -/

theorem isDigit_of_mem_toDigits {n : Nat} (h : c ∈ Nat.toDigits 10 n) : c.isDigit = true :=
  Nat.isDigit_of_mem_toDigits (by decide) (by decide) h

/-- Zero stands for itself only. -/
theorem toDigits_eq_cons (n : Nat) :
    ∃ d ds, Nat.toDigits 10 n = d :: ds ∧ d.isDigit = true ∧ (d = '0' → n = 0 ∧ ds = []) := by
  suffices h : ∃ d ds, Nat.toDigits 10 n = d :: ds ∧ (d = '0' → n = 0 ∧ ds = []) by
    obtain ⟨d, ds, hd, hzero⟩ := h
    exact ⟨d, ds, hd, isDigit_of_mem_toDigits (hd ▸ List.mem_cons_self), hzero⟩
  induction n using Nat.strongRecOn with
  | _ n ih =>
      by_cases hlt : n < 10
      · have hall : ∀ d < 10, Nat.digitChar d = '0' → d = 0 := by decide
        exact ⟨_, [], Nat.toDigits_of_lt_base hlt, fun h => ⟨hall n hlt h, rfl⟩⟩
      · obtain ⟨d, ds, hd, hzero⟩ := ih (n / 10) (by omega)
        rw [Nat.toDigits_of_base_le (by decide) (by omega), hd]
        refine ⟨d, _, rfl, fun h => ?_⟩
        have := (hzero h).1
        omega

theorem isBlank_of_isDigit (h : c.isDigit = true) : isBlank c = false := by
  cases hb : isBlank c with
  | false => rfl
  | true =>
      simp only [isBlank, Bool.or_eq_true, decide_eq_true_eq] at hb
      rcases hb with ((rfl | rfl) | rfl) | rfl <;> cases h

theorem yields_upcomingDigits (x : List Char) : Yields upcomingDigits x (x.takeWhile Char.isDigit) x :=
  fun p => ⟨p, rfl⟩

theorem yields_readNatural (n : Nat) (hy : ∀ c ∈ y.head?, c.isDigit = false) :
    Yields readNatural (Nat.toDigits 10 n ++ y) n y := by
  have hread := yields_upcomingDigits (Nat.toDigits 10 n ++ y)
  rw [Text.takeWhile_append_eq (fun c => isDigit_of_mem_toDigits) hy] at hread
  refine .bind hread ?_
  obtain ⟨d, ds, hd, _, hzero⟩ := toDigits_eq_cons n
  split
  · rename_i heq
    rw [hd] at heq
    cases heq
  · rename_i heq
    rw [hd] at heq
    cases heq
    cases (hzero rfl).2
  · refine .bind (yields_eat _ _) ?_
    rw [List.drop_left, Nat.ofDigitChars_toDigits (by decide) (by decide)]
    exact yields_pure n y

/-! ## Lists and objects -/

/-- A text that starts as a value does. -/
def StartsValue (x : List Char) : Prop :=
  ∃ c y, x = c :: y ∧ isBlank c = false ∧ c ≠ ']'

theorem StartsValue.append (h : StartsValue x) (y : List Char) : StartsValue (x ++ y) := by
  obtain ⟨c, x, rfl, hc⟩ := h
  exact ⟨c, x ++ y, rfl, hc⟩

/-- What follows a number does not go on with it. -/
def EndsNumber (y : List Char) : Prop :=
  ∀ c ∈ y.head?, c.isDigit = false

/-- The reader `m` reads `a` back from its text, whatever follows and with blanks before it. -/
structure ReadsBack (m : Reading α) (write : α → List Char) (a : α) : Prop where
  starts : StartsValue (write a)
  yields : ∀ {blanks y : List Char}, (∀ c ∈ blanks, isBlank c = true) → EndsNumber y →
    Yields m (blanks ++ (write a ++ y)) a y

theorem isBlank_of_mem_newLine {depth : Nat} : ∀ c ∈ newLine depth, isBlank c = true := by
  intro c h
  rcases List.mem_cons.mp h with rfl | h
  · rfl
  · rw [List.eq_of_mem_replicate h]
    rfl

theorem endsNumber_separated (g : α → List Char) (as : List α) (depth : Nat) (y : List Char) :
    EndsNumber (as.flatMap (fun a => ',' :: g a) ++ (newLine depth ++ y)) := by
  cases as with
  | nil => simp [EndsNumber, newLine]
  | cons a as => simp [EndsNumber]

theorem yields_nextElement_first (hb : ∀ c ∈ blanks, isBlank c = true) (hx : StartsValue x) :
    Yields (nextElement true) (blanks ++ x) true x := by
  obtain ⟨c, y, rfl, hc, hend⟩ := hx
  refine .bind (yields_skipBlanks hb (by simpa using hc)) ?_
  simp only [List.head?_cons, if_true]
  exact yields_pure true _

theorem yields_nextElement_comma (hb : ∀ c ∈ blanks, isBlank c = true) (hx : StartsValue x) :
    Yields (nextElement false) (',' :: (blanks ++ x)) true x := by
  obtain ⟨c, y, rfl, hc, hend⟩ := hx
  refine .bind (yields_skipBlanks_of_none (by simp; decide)) (.bind (yields_eat 1 _)
    (.bind (yields_skipBlanks hb (by simpa using hc)) ?_))
  simp only [List.head?_cons]
  exact yields_pure true _

theorem yields_nextElement_end (first : Bool) (hb : ∀ c ∈ blanks, isBlank c = true) (y : List Char) :
    Yields (nextElement first) (blanks ++ ']' :: y) false (']' :: y) :=
  .bind (yields_skipBlanks hb (by simp; decide)) (yields_pure false _)

theorem yields_closeList (y : List Char) : Yields closeList (']' :: y) () y :=
  .bind (yields_skipBlanks_of_none (by simp; decide)) (yields_eat 1 _)

section
variable {element : Reading α} {write : α → List Char} {as : List α}

theorem Yields.readElements_cons {first : Bool} {fuel : Nat} (hnext : Yields (nextElement first) x true (write a ++ y))
    (ha : ReadsBack element write a) (hy : EndsNumber y) (hrest : Yields (readElements element fuel false) y as z) :
    Yields (readElements element (fuel + 1) first) x (a :: as) z :=
  .bind hnext (.bind (ha.yields (List.forall_mem_nil _) hy) (.bind hrest (yields_pure _ z)))

theorem yields_readElements (inner outer more : Nat) (h : ∀ a ∈ as, ReadsBack element write a) (y : List Char) :
    Yields (readElements element (as.length + more + 1) false)
      (as.flatMap (fun a => ',' :: (newLine inner ++ write a)) ++ (newLine outer ++ ']' :: y)) as (']' :: y) := by
  induction as with
  | nil => exact .bind (yields_nextElement_end false isBlank_of_mem_newLine y) (yields_pure [] _)
  | cons a as ih =>
      have ha := h a List.mem_cons_self
      have hrest := ih fun a ha => h a (List.mem_cons_of_mem _ ha)
      rw [List.flatMap_cons, List.cons_append, List.cons_append, List.append_assoc, List.append_assoc, List.length_cons,
        Nat.add_right_comm as.length 1]
      exact .readElements_cons (yields_nextElement_comma isBlank_of_mem_newLine (ha.starts.append _)) ha
        (endsNumber_separated _ as outer _) hrest

end

theorem yields_nextKey_first (hb : ∀ c ∈ blanks, isBlank c = true) (y : List Char) :
    Yields (nextKey true) (blanks ++ '"' :: y) true ('"' :: y) :=
  .bind (yields_skipBlanks hb (by simp; decide)) (yields_pure true _)

theorem yields_nextKey_comma (hb : ∀ c ∈ blanks, isBlank c = true) (y : List Char) :
    Yields (nextKey false) (',' :: (blanks ++ '"' :: y)) true ('"' :: y) :=
  .bind (yields_skipBlanks_of_none (by simp; decide)) (.bind (yields_eat 1 _)
    (.bind (yields_skipBlanks hb (by simp; decide)) (yields_pure true _)))

theorem yields_nextKey_end (first : Bool) (hb : ∀ c ∈ blanks, isBlank c = true) (y : List Char) :
    Yields (nextKey first) (blanks ++ '}' :: y) false ('}' :: y) :=
  .bind (yields_skipBlanks hb (by simp; decide)) (yields_pure false _)

theorem yields_closeObject (y : List Char) : Yields closeObject ('}' :: y) () y :=
  .bind (yields_skipBlanks_of_none (by simp; decide)) (yields_eat 1 _)

theorem yields_readColon (y : List Char) : Yields readColon (':' :: y) () y :=
  .bind (yields_skipBlanks_of_none (by simp; decide)) (yields_eat 1 _)

section
variable {value : Reading α} {write : α → List Char} {key : String} {fields : List (String × α)}

/-- The text of a field. -/
def writeField (write : α → List Char) (field : String × α) : List Char :=
  writeString field.1 ++ ':' :: ' ' :: write field.2

theorem writeField_append (write : α → List Char) (key : String) (a : α) (y : List Char) :
    writeField write (key, a) ++ y = '"' :: (key.toList.flatMap escapeChar ++ '"' :: ':' :: ' ' :: (write a ++ y)) := by
  simp [writeField, writeString]

theorem Yields.readMembers_cons {first : Bool} {fuel : Nat}
    (hnext : Yields (nextKey first) x true (writeField write (key, a) ++ y)) (ha : ReadsBack value write a)
    (hy : EndsNumber y) (hrest : Yields (readMembers value fuel false) y fields z) :
    Yields (readMembers value (fuel + 1) first) x ((key, a) :: fields) z := by
  rw [writeField_append] at hnext
  refine .bind hnext (.bind (yields_eat 1 _) (.bind (yields_readText key _) (.bind (yields_readColon _) ?_)))
  have hblank : ∀ c ∈ [' '], isBlank c = true := List.forall_mem_singleton.mpr rfl
  exact .bind (ha.yields hblank hy) (.bind hrest (yields_pure _ z))

theorem yields_readMembers (inner outer more : Nat) (h : ∀ f ∈ fields, ReadsBack value write f.2) (y : List Char) :
    Yields (readMembers value (fields.length + more + 1) false)
      (fields.flatMap (fun f => ',' :: (newLine inner ++ writeField write f)) ++ (newLine outer ++ '}' :: y)) fields
      ('}' :: y) := by
  induction fields with
  | nil => exact .bind (yields_nextKey_end false isBlank_of_mem_newLine y) (yields_pure [] _)
  | cons f fields ih =>
      obtain ⟨key, a⟩ := f
      have hrest := ih fun f hf => h f (List.mem_cons_of_mem _ hf)
      rw [List.flatMap_cons, List.cons_append, List.cons_append, List.append_assoc, List.append_assoc, List.length_cons,
        Nat.add_right_comm fields.length 1]
      refine .readMembers_cons ?_ (h _ List.mem_cons_self) (endsNumber_separated _ fields outer _) hrest
      rw [writeField_append]
      exact yields_nextKey_comma isBlank_of_mem_newLine _

end

/-! ## Values -/

namespace Value

/-- A property of all values follows from the steps from the parts of a list or an object to the whole. -/
@[elab_as_elim]
theorem induction_on_values {P : Value → Prop} (v : Value) (number : ∀ n, P (.number n)) (string : ∀ s, P (.string s))
    (list : ∀ vs, (∀ v ∈ vs, P v) → P (.list vs)) (object : ∀ fields, (∀ f ∈ fields, P f.2) → P (.object fields)) :
    P v := by
  match v with
  | .number n => exact number n
  | .string s => exact string s
  | .list vs => exact list vs fun v _ => v.induction_on_values number string list object
  | .object fields => exact object fields fun f _ => f.2.induction_on_values number string list object
termination_by sizeOf v
decreasing_by
  · have hlt := List.sizeOf_lt_of_mem (by assumption : v ∈ vs)
    simp only [Value.list.sizeOf_spec]
    omega
  · have hlt := List.sizeOf_lt_of_mem (by assumption : f ∈ fields)
    obtain ⟨key, v⟩ := f
    simp only [Prod.mk.sizeOf_spec] at hlt
    simp only [Value.object.sizeOf_spec]
    omega

theorem writeElements_eq (depth : Nat) (vs : List Value) :
    writeElements depth vs = vs.flatMap fun v => ',' :: (newLine depth ++ v.write depth) := by
  induction vs with
  | nil => simp [writeElements]
  | cons v vs ih => simp [writeElements, ih]

theorem writeFields_eq (depth : Nat) (fields : List (String × Value)) :
    writeFields depth fields = fields.flatMap fun f => ',' :: (newLine depth ++ writeField (write depth) f) := by
  induction fields with
  | nil => simp [writeFields]
  | cons f fields ih => simp [writeFields, writeField, ih]

theorem write_list_cons (depth : Nat) (v : Value) (vs : List Value) (y : List Char) :
    (Value.list (v :: vs)).write depth ++ y = '[' :: (newLine (depth + 1) ++ (v.write (depth + 1) ++
      (vs.flatMap (fun v => ',' :: (newLine (depth + 1) ++ v.write (depth + 1))) ++ (newLine depth ++ ']' :: y)))) := by
  simp [write, writeElements_eq]

theorem write_object_cons (depth : Nat) (f : String × Value) (fields : List (String × Value)) (y : List Char) :
    (Value.object (f :: fields)).write depth ++ y =
      '{' :: (newLine (depth + 1) ++ (writeField (write (depth + 1)) f ++
        (fields.flatMap (fun f => ',' :: (newLine (depth + 1) ++ writeField (write (depth + 1)) f)) ++
          (newLine depth ++ '}' :: y)))) := by
  simp [write, writeFields_eq, writeField]

theorem startsValue_write (depth : Nat) (v : Value) : StartsValue (v.write depth) := by
  cases v with
  | number n =>
      obtain ⟨d, ds, hd, hdigit, _⟩ := toDigits_eq_cons n
      refine ⟨d, ds, by rw [write, hd], isBlank_of_isDigit hdigit, ?_⟩
      rintro rfl
      cases hdigit
  | string s => exact ⟨'"', _, by rw [write, writeString]; rfl, by decide, by decide⟩
  | list vs =>
      cases vs with
      | nil => exact ⟨'[', _, by rw [write], by decide, by decide⟩
      | cons v vs => exact ⟨'[', _, by rw [← List.append_nil (write _ _), write_list_cons], by decide, by decide⟩
  | object fields =>
      cases fields with
      | nil => exact ⟨'{', _, by rw [write], by decide, by decide⟩
      | cons f fields =>
          exact ⟨'{', _, by rw [← List.append_nil (write _ _), write_object_cons], by decide, by decide⟩

/-- Each of the parts that stand between brackets is at most as long as what stands there. -/
theorem length_le_separated {g : α → List Char} {first : α} {as : List α} (h : a ∈ first :: as) (inner : Nat)
    (z : List Char) : (g a).length ≤
      (newLine inner ++ (g first ++ (as.flatMap (fun a => ',' :: (newLine inner ++ g a)) ++ z))).length := by
  simp only [List.length_append]
  rcases List.mem_cons.mp h with rfl | h
  · omega
  · have hpart := (List.sublist_flatten_of_mem
      (List.mem_map_of_mem (f := fun a => ',' :: (newLine inner ++ g a)) h)).length_le
    rw [← List.flatMap_def, List.length_cons, List.length_append] at hpart
    omega

theorem length_write_list {v : Value} {vs : List Value} (depth : Nat) (h : v ∈ vs) :
    (v.write (depth + 1)).length < ((Value.list vs).write depth).length := by
  cases vs with
  | nil => cases h
  | cons w vs =>
      rw [← List.append_nil (write depth _), write_list_cons, List.length_cons]
      exact Nat.lt_succ_of_le (length_le_separated h _ _)

theorem length_write_object {f : String × Value} {fields : List (String × Value)} (depth : Nat) (h : f ∈ fields) :
    (f.2.write (depth + 1)).length < ((Value.object fields).write depth).length := by
  have hfield : (f.2.write (depth + 1)).length ≤ (writeField (write (depth + 1)) f).length := by
    simp only [writeField, List.length_append, List.length_cons]
    omega
  cases fields with
  | nil => cases h
  | cons f' fields =>
      rw [← List.append_nil (write depth _), write_object_cons, List.length_cons]
      exact Nat.lt_succ_of_le (Nat.le_trans hfield (length_le_separated h _ _))

end Value

/-! ## From the text of a value back to the value -/

section
variable {depth d : Nat} {vs : List Value} {fields : List (String × Value)}

theorem yields_readValue_number (depth n : Nat) (hb : ∀ c ∈ blanks, isBlank c = true) (hy : EndsNumber y) :
    Yields (readValue (depth + 1)) (blanks ++ (Nat.toDigits 10 n ++ y)) (.number n) y := by
  have hread := yields_readNatural n hy
  obtain ⟨d, ds, hd, hdigit, _⟩ := toDigits_eq_cons n
  have hquote : d ≠ '"' := by rintro rfl; cases hdigit
  have hbracket : d ≠ '[' := by rintro rfl; cases hdigit
  have hbrace : d ≠ '{' := by rintro rfl; cases hdigit
  rw [hd, List.cons_append] at hread ⊢
  refine .bind (yields_valueStart hb (isBlank_of_isDigit hdigit) _) ?_
  simp only [hdigit, if_true]
  exact .bind hread (yields_pure _ y)

theorem yields_readValue_string (depth : Nat) (s : String) (hb : ∀ c ∈ blanks, isBlank c = true) (y : List Char) :
    Yields (readValue (depth + 1)) (blanks ++ (writeString s ++ y)) (.string s) y := by
  have hwrite : writeString s ++ y = '"' :: (s.toList.flatMap escapeChar ++ '"' :: y) := by simp [writeString]
  rw [hwrite]
  refine .bind (yields_valueStart hb (by decide) _) (.bind ?_ (yields_pure _ y))
  exact .bind (yields_valueStart (List.forall_mem_nil _) (by decide) _) (.bind (yields_eat 1 _) (yields_readText s y))

theorem Yields.readValue_list (hb : ∀ c ∈ blanks, isBlank c = true)
    (h : Yields (readElements (readValue depth) (x.length + 1) true) x vs (']' :: y)) :
    Yields (readValue (depth + 1)) (blanks ++ '[' :: x) (.list vs) y := by
  refine .bind (yields_valueStart hb (by decide) _) (.bind ?_ (yields_pure _ y))
  exact .bind (yields_valueStart (List.forall_mem_nil _) (by decide) _) (.bind (yields_eat 1 _)
    (.get_bind fun p => .bind h (.bind (yields_closeList y) (yields_pure _ y))))

theorem Yields.readValue_object (hb : ∀ c ∈ blanks, isBlank c = true)
    (h : Yields (readMembers (readValue depth) (x.length + 1) true) x fields ('}' :: y)) :
    Yields (readValue (depth + 1)) (blanks ++ '{' :: x) (.object fields) y :=
  .bind (yields_valueStart hb (by decide) _) (.bind (yields_eat 1 _)
    (.get_bind fun p => .bind h (.bind (yields_closeObject y) (yields_pure _ y))))

/-- There is fuel enough to read the first part and the parts that follow it. -/
theorem exists_fuel (g : α → List Char) (as : List α) (inner : Nat) (y z : List Char) :
    ∃ more, (newLine inner ++ (y ++ (as.flatMap (fun a => ',' :: g a) ++ z))).length = as.length + more + 1 := by
  have hlength := length_le_length_flatMap (g := fun a => ',' :: g a) (fun a => by simp) as
  have hline : 1 ≤ (newLine inner).length := by simp [newLine]
  refine ⟨(newLine inner ++ (y ++ (as.flatMap (fun a => ',' :: g a) ++ z))).length - as.length - 1, ?_⟩
  simp only [List.length_append]
  omega

theorem yields_readValue_list (h : ∀ v ∈ vs, ReadsBack (readValue depth) (Value.write (d + 1)) v)
    (hb : ∀ c ∈ blanks, isBlank c = true) (y : List Char) :
    Yields (readValue (depth + 1)) (blanks ++ ((Value.list vs).write d ++ y)) (.list vs) y := by
  cases vs with
  | nil =>
      rw [Value.write]
      exact .readValue_list hb (.bind (yields_nextElement_end true (List.forall_mem_nil _) y) (yields_pure [] _))
  | cons v vs =>
      have hv := h v List.mem_cons_self
      rw [Value.write_list_cons]
      refine .readValue_list hb ?_
      obtain ⟨more, hmore⟩ := exists_fuel (fun v => newLine (d + 1) ++ v.write (d + 1)) vs (d + 1) (v.write (d + 1))
        (newLine d ++ ']' :: y)
      rw [hmore]
      exact .readElements_cons (yields_nextElement_first isBlank_of_mem_newLine (hv.starts.append _)) hv
        (endsNumber_separated _ vs d _) (yields_readElements _ d more (fun v hv => h v (List.mem_cons_of_mem _ hv)) y)

theorem yields_readValue_object (h : ∀ f ∈ fields, ReadsBack (readValue depth) (Value.write (d + 1)) f.2)
    (hb : ∀ c ∈ blanks, isBlank c = true) (y : List Char) :
    Yields (readValue (depth + 1)) (blanks ++ ((Value.object fields).write d ++ y)) (.object fields) y := by
  cases fields with
  | nil =>
      rw [Value.write]
      exact .readValue_object hb (.bind (yields_nextKey_end true (List.forall_mem_nil _) y) (yields_pure [] _))
  | cons f fields =>
      obtain ⟨key, v⟩ := f
      rw [Value.write_object_cons]
      refine .readValue_object hb ?_
      obtain ⟨more, hmore⟩ := exists_fuel (fun f => newLine (d + 1) ++ writeField (Value.write (d + 1)) f) fields
        (d + 1) (writeField (Value.write (d + 1)) (key, v)) (newLine d ++ '}' :: y)
      rw [hmore]
      refine .readMembers_cons ?_ (h _ List.mem_cons_self) (endsNumber_separated _ fields d _)
        (yields_readMembers (d + 1) d more (fun f hf => h f (List.mem_cons_of_mem _ hf)) y)
      rw [writeField_append]
      exact yields_nextKey_first isBlank_of_mem_newLine _

end

theorem readsBack_of_pos {v : Value} {d depth : Nat} (hle : (v.write d).length ≤ depth)
    (h : ∀ n, depth = n + 1 → ∀ {blanks y : List Char}, (∀ c ∈ blanks, isBlank c = true) → EndsNumber y →
      Yields (readValue (n + 1)) (blanks ++ (v.write d ++ y)) v y) : ReadsBack (readValue depth) (Value.write d) v := by
  obtain ⟨c, x, hx, _⟩ := v.startsValue_write d
  rw [hx, List.length_cons] at hle
  obtain ⟨n, rfl⟩ : ∃ n, depth = n + 1 := ⟨depth - 1, by omega⟩
  exact ⟨v.startsValue_write d, h n rfl⟩

/-- Every value is read back from its text, if as many values may stand around one another as the text has
characters. -/
theorem readsBack_write (v : Value) :
    ∀ d depth : Nat, (v.write d).length ≤ depth → ReadsBack (readValue depth) (Value.write d) v := by
  induction v using Value.induction_on_values with
  | number n =>
      intro d depth hle
      refine readsBack_of_pos hle fun depth _ _ _ hb hy => ?_
      rw [Value.write]
      exact yields_readValue_number depth n hb hy
  | string s =>
      intro d depth hle
      refine readsBack_of_pos hle fun depth _ _ y hb _ => ?_
      rw [Value.write]
      exact yields_readValue_string depth s hb y
  | list vs ih =>
      intro d depth hle
      refine readsBack_of_pos hle fun n hn _ y hb _ => yields_readValue_list (fun v hv => ?_) hb y
      have hlt := Value.length_write_list d hv
      exact ih v hv (d + 1) n (by omega)
  | object fields ih =>
      intro d depth hle
      refine readsBack_of_pos hle fun n hn _ y hb _ => yields_readValue_object (fun f hf => ?_) hb y
      have hlt := Value.length_write_object d hf
      exact ih f hf (d + 1) n (by omega)

theorem Yields.run_eq_ok (h : Yields m x a y) (p : Place) :
    (m.run.run { rest := x, place := p }).1 = .ok a := by
  obtain ⟨q, hq⟩ := h p
  rw [hq]

theorem Yields.readWhole_eq_ok {text : String} (h : Yields m text.toList a blanks)
    (hb : ∀ c ∈ blanks, isBlank c = true) : readWhole m text = .ok a := by
  have hend : Yields skipBlanks (blanks ++ []) none [] := yields_skipBlanks hb (by simp)
  rw [List.append_nil] at hend
  refine Yields.run_eq_ok (y := []) (.bind h (.bind hend ?_)) _
  exact yields_pure a []

/-- The text of a value, also with blanks behind it, describes that value. -/
theorem parse_toString_append (v : Value) {text : String} (hb : ∀ c ∈ text.toList, isBlank c = true) :
    parse (v.toString ++ text) = .ok v := by
  have htext : (v.toString ++ text).toList = [] ++ (v.write 0 ++ text.toList) := by simp [Value.toString]
  have hle : (v.write 0).length ≤ (v.toString ++ text).length + 1 := by
    rw [← String.length_toList, htext]
    simp only [List.nil_append, List.length_append]
    omega
  have hdigit : EndsNumber text.toList := by
    intro c hc
    refine Bool.eq_false_iff.mpr fun hdigit => ?_
    have hblank := hb c (List.mem_of_mem_head? hc)
    rw [isBlank_of_isDigit hdigit] at hblank
    cases hblank
  refine Yields.readWhole_eq_ok ?_ hb
  rw [htext]
  exact (readsBack_write v 0 _ hle).yields (List.forall_mem_nil _) hdigit

end AsyncLint.Json
