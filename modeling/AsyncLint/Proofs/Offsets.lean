import AsyncLint.Proofs.Lines

/-!
# Positions and offsets

A place between two characters is given by the number of bytes before it. Its line can be counted character by character
or in the bytes. Both counts agree, since no character but the newline is written with the byte of a newline. Places
further back in the text have greater positions, so a position belongs to one place only.
-/

namespace AsyncLint.Text

variable {text : String} {before after cs : List Char} {offset : Nat}

/-! ## Counts of bytes -/

theorem byteLength_append (cs ds : List Char) : byteLength (cs ++ ds) = byteLength cs + byteLength ds := by
  induction cs with
  | nil => simp [byteLength]
  | cons c cs ih => simp [byteLength, ih, Nat.add_assoc]

theorem utf8ByteSize_ofList (cs : List Char) : (String.ofList cs).utf8ByteSize = byteLength cs := by
  induction cs with
  | nil => rfl
  | cons c cs ih =>
      have hcons : String.ofList (c :: cs) = String.singleton c ++ String.ofList cs := by simp
      rw [hcons, String.utf8ByteSize_append, String.utf8ByteSize_singleton, ih, byteLength]

theorem utf8ByteSize_eq (text : String) : text.utf8ByteSize = byteLength text.toList := by
  rw [← utf8ByteSize_ofList, String.ofList_toList]

theorem length_le_byteLength (cs : List Char) : cs.length ≤ byteLength cs := by
  induction cs with
  | nil => exact Nat.le_refl 0
  | cons c cs ih =>
      have hc := c.utf8Size_pos
      rw [List.length_cons, byteLength]
      omega

theorem charsBefore_of_le (h : byteLength cs ≤ offset) : charsBefore offset cs = cs := by
  induction cs generalizing offset with
  | nil => rfl
  | cons c cs ih =>
      have hc := c.utf8Size_pos
      rw [byteLength] at h
      rw [charsBefore, if_neg (by omega), ih (by omega)]

theorem length_charsBefore_le (offset : Nat) (cs : List Char) : (charsBefore offset cs).length ≤ cs.length := by
  induction cs generalizing offset with
  | nil => exact Nat.le_refl 0
  | cons c cs ih =>
      rw [charsBefore]
      split
      · exact Nat.zero_le _
      · exact Nat.succ_le_succ (ih _)

/-! ## Newlines among the bytes -/

/-- The bytes of a character that takes several are all at least 128. -/
theorem le_toNat_of_mem_utf8EncodeChar {c : Char} (hc : 127 < c.val.toNat) :
    ∀ b ∈ String.utf8EncodeChar c, 128 ≤ b.toNat := by
  unfold String.utf8EncodeChar
  dsimp only
  rw [if_neg (Nat.not_le.mpr hc)]
  -- two, three or four bytes
  repeat' split
  all_goals
    simp only [List.forall_mem_cons, UInt8.toNat_ofNat', List.not_mem_nil, false_imp_iff, implies_true, and_true]
    omega

theorem count_utf8EncodeChar (c : Char) : (String.utf8EncodeChar c).count '\n'.toUInt8 = [c].count '\n' := by
  rcases Nat.lt_or_ge 127 c.val.toNat with hlong | hascii
  · have hc : c ≠ '\n' := by
      rintro rfl
      exact absurd hlong (by decide)
    have hbyte : '\n'.toUInt8 ∉ String.utf8EncodeChar c := fun hmem =>
      absurd (le_toNat_of_mem_utf8EncodeChar hlong _ hmem) (by decide)
    rw [List.count_eq_zero.mpr hbyte, List.count_singleton, if_neg (by simpa using hc)]
  · have hbyte : UInt8.ofNat c.val.toNat = '\n'.toUInt8 ↔ c = '\n' := by
      constructor
      · intro h
        have hval : c.val.toNat % 256 = 10 := congrArg UInt8.toNat h
        exact Char.toNat_inj.mp (show c.val.toNat = 10 by omega)
      · rintro rfl
        rfl
    unfold String.utf8EncodeChar
    dsimp only
    rw [if_pos hascii, List.count_singleton, List.count_singleton]
    simp only [beq_iff_eq, hbyte]

theorem count_toByteArray (cs : List Char) :
    (String.ofList cs).toByteArray.data.count '\n'.toUInt8 = cs.count '\n' := by
  rw [String.toByteArray_ofList, List.utf8Encode, List.data_toByteArray, List.count_toArray]
  induction cs with
  | nil => rfl
  | cons c cs ih =>
      rw [List.flatMap_cons, List.count_append, ih, count_utf8EncodeChar, ← List.count_append, List.singleton_append]

/-! ## Boundaries -/

/-- A place between two characters, or at an end of the text. -/
def IsBoundary (text : String) (offset : Nat) : Prop :=
  String.Pos.Raw.IsValid text ⟨offset⟩

instance : Decidable (IsBoundary text offset) :=
  inferInstanceAs (Decidable (String.Pos.Raw.IsValid text ⟨offset⟩))

theorem isBoundary_iff : IsBoundary text offset ↔
    ∃ before after, text.toList = before ++ after ∧ offset = byteLength before := by
  rw [IsBoundary, String.Pos.Raw.isValid_iff_exists_append]
  constructor
  · rintro ⟨s, t, rfl, hoffset⟩
    exact ⟨s.toList, t.toList, String.toList_append, by rw [← utf8ByteSize_eq]; exact congrArg (·.byteIdx) hoffset⟩
  · rintro ⟨before, after, htext, rfl⟩
    refine ⟨String.ofList before, String.ofList after, ?_, ?_⟩
    · rw [← String.ofList_append, ← htext, String.ofList_toList]
    · rw [← utf8ByteSize_ofList]
      rfl

theorem IsBoundary.le (h : IsBoundary text offset) : offset ≤ text.utf8ByteSize :=
  String.Pos.Raw.IsValid.le_utf8ByteSize h

/-- Up to a boundary or beyond the end, the characters before a place and the bytes before it are the same text. -/
theorem exists_before (h : IsBoundary text offset ∨ text.utf8ByteSize ≤ offset) :
    ∃ before after, text.toList = before ++ after ∧ charsBefore offset text.toList = before ∧
      min offset text.utf8ByteSize = byteLength before := by
  rcases h with h | h
  · have hle := h.le
    obtain ⟨before, after, htext, rfl⟩ := isBoundary_iff.mp h
    exact ⟨before, after, htext, by rw [htext, charsBefore_append], Nat.min_eq_left hle⟩
  · refine ⟨text.toList, [], (List.append_nil _).symm, charsBefore_of_le (by rwa [← utf8ByteSize_eq]), ?_⟩
    rw [Nat.min_eq_right h, utf8ByteSize_eq]

theorem lineAt?_eq_count (htext : text.toList = before ++ after)
    (hoffset : min offset text.utf8ByteSize = byteLength before) : lineAt? text offset = some (before.count '\n') := by
  have hvalid : String.Pos.Raw.IsValid text ⟨byteLength before⟩ := isBoundary_iff.mpr ⟨before, after, htext, rfl⟩
  have hbytes : text.toUTF8.extract 0 (byteLength before) = (String.ofList before).toByteArray := by
    rw [← String.ofList_toList (s := text), htext, String.ofList_append, String.toUTF8_eq_toByteArray,
      String.toByteArray_append, ByteArray.extract_append_eq_left]
    rw [String.size_toByteArray, utf8ByteSize_ofList]
  unfold lineAt?
  dsimp only
  rw [hoffset, if_pos hvalid, hbytes, count_toByteArray]

/-- Inside a character there is no line. -/
theorem IsBoundary.of_lineAt? {line : Nat} (h : lineAt? text offset = some line) :
    IsBoundary text offset ∨ text.utf8ByteSize ≤ offset := by
  unfold lineAt? at h
  dsimp only at h
  split at h
  · rename_i hvalid
    rcases Nat.le_total offset text.utf8ByteSize with hle | hle
    · rw [Nat.min_eq_left hle] at hvalid
      exact Or.inl hvalid
    · exact Or.inr hle
  · cases h

/-! ## The order of positions -/

namespace Position

/-- An earlier line, or the same line and an earlier column. -/
def Precedes (p q : Position) : Prop :=
  p.line < q.line ∨ p.line = q.line ∧ p.column < q.column

instance (p q : Position) : Decidable (p.Precedes q) :=
  inferInstanceAs (Decidable (_ ∨ _))

variable {p q r : Position}

theorem Precedes.trans (hpq : p.Precedes q) (hqr : q.Precedes r) : p.Precedes r := by
  unfold Precedes at *
  omega

theorem Precedes.irrefl (p : Position) : ¬ p.Precedes p := by
  unfold Precedes
  omega

theorem Precedes.asymm (hpq : p.Precedes q) : ¬ q.Precedes p := fun hqp => irrefl p (hpq.trans hqp)

theorem precedes_advance (p : Position) (c : Char) : p.Precedes (p.advance c) := by
  unfold advance
  split
  · exact Or.inl (Nat.lt_succ_self _)
  · exact Or.inr ⟨rfl, Nat.lt_succ_self _⟩

theorem precedes_foldl_advance (p : Position) (hcs : cs ≠ []) : p.Precedes (cs.foldl advance p) := by
  induction cs generalizing p with
  | nil => exact absurd rfl hcs
  | cons c cs ih =>
      by_cases hne : cs = []
      · rw [hne]
        exact precedes_advance p c
      · exact (precedes_advance p c).trans (ih (p.advance c) hne)

theorem line_foldl_advance (p : Position) (cs : List Char) :
    (cs.foldl advance p).line = p.line + cs.count '\n' := by
  induction cs generalizing p with
  | nil => rfl
  | cons c cs ih =>
      rw [List.foldl_cons, ih, List.count_cons]
      by_cases hc : c = '\n'
      · simp only [advance, hc, if_true, BEq.rfl]
        omega
      · simp only [advance, if_neg hc, beq_iff_eq, Nat.add_zero]

theorem foldl_advance_le (p : Position) (cs : List Char) :
    (cs.foldl advance p).line + (cs.foldl advance p).column ≤ p.line + p.column + cs.length := by
  induction cs generalizing p with
  | nil => exact Nat.le_refl _
  | cons c cs ih =>
      have hstep : (p.advance c).line + (p.advance c).column ≤ p.line + p.column + 1 := by
        unfold advance
        split <;> dsimp only <;> omega
      have hrest := ih (p.advance c)
      rw [List.foldl_cons, List.length_cons]
      omega

end Position

theorem positionAt_le (text : String) (offset : Nat) :
    (positionAt text offset).line + (positionAt text offset).column ≤ text.utf8ByteSize := by
  have hfold : _ ≤ 0 + 0 + _ := Position.foldl_advance_le {} (charsBefore offset text.toList)
  have hchars := length_charsBefore_le offset text.toList
  have hbytes := length_le_byteLength text.toList
  rw [utf8ByteSize_eq, positionAt]
  omega

theorem lineAt?_eq_line (h : IsBoundary text offset ∨ text.utf8ByteSize ≤ offset) :
    lineAt? text offset = some (positionAt text offset).line := by
  obtain ⟨before, after, htext, hbefore, hoffset⟩ := exists_before h
  rw [lineAt?_eq_count htext hoffset, positionAt, hbefore, Position.line_foldl_advance, Nat.zero_add]

theorem positionAt_precedes {a b : Nat} (ha : IsBoundary text a) (hb : IsBoundary text b) (hab : a < b) :
    (positionAt text a).Precedes (positionAt text b) := by
  obtain ⟨before, after, htext, rfl⟩ := isBoundary_iff.mp ha
  obtain ⟨before', after', htext', rfl⟩ := isBoundary_iff.mp hb
  rcases List.append_eq_append_iff.mp (htext.symm.trans htext') with ⟨between, rfl, -⟩ | ⟨between, rfl, -⟩
  · have hne : between ≠ [] := by
      rintro rfl
      simp at hab
    have hfirst : charsBefore (byteLength before) text.toList = before := by rw [htext, charsBefore_append]
    have hsecond : charsBefore (byteLength (before ++ between)) text.toList = before ++ between := by
      rw [htext', charsBefore_append]
    rw [positionAt, positionAt, hfirst, hsecond, List.foldl_append]
    exact Position.precedes_foldl_advance _ hne
  · rw [byteLength_append] at hab
    omega

/-- Counting characters and counting bytes give the same line, at every boundary and beyond the end, and nowhere else.
Boundaries are in the order of their positions, so no two share one, and neither count of a position exceeds the
length of the text. -/
theorem positions_follow_offsets (text : String) :
    (∀ offset, lineAt? text offset = some (positionAt text offset).line ↔
      IsBoundary text offset ∨ text.utf8ByteSize ≤ offset) ∧
    (∀ a b, IsBoundary text a → IsBoundary text b →
      (a < b ↔ (positionAt text a).Precedes (positionAt text b)) ∧ (positionAt text a = positionAt text b → a = b)) ∧
    ∀ offset, (positionAt text offset).line + (positionAt text offset).column ≤ text.utf8ByteSize := by
  refine ⟨fun offset => ⟨IsBoundary.of_lineAt?, lineAt?_eq_line⟩, fun a b ha hb => ?_, positionAt_le text⟩
  rcases Nat.lt_trichotomy a b with hab | rfl | hba
  · have hprecedes := positionAt_precedes ha hb hab
    refine ⟨⟨fun _ => hprecedes, fun _ => hab⟩, fun heq => ?_⟩
    rw [heq] at hprecedes
    exact absurd hprecedes (Position.Precedes.irrefl _)
  · exact ⟨⟨fun h => absurd h (Nat.lt_irrefl a), fun h => absurd h (Position.Precedes.irrefl _)⟩, fun _ => rfl⟩
  · have hprecedes := positionAt_precedes hb ha hba
    refine ⟨⟨fun hab => absurd hab (Nat.lt_asymm hba), fun h => absurd h hprecedes.asymm⟩, fun heq => ?_⟩
    rw [heq] at hprecedes
    exact absurd hprecedes (Position.Precedes.irrefl _)

/-- A character of two bytes, a newline and a character of three bytes. -/
theorem positions_follow_offsets_accented : IsBoundary "é\n∀" 2 ∧ IsBoundary "é\n∀" 3 ∧ ¬ IsBoundary "é\n∀" 1 ∧
    (positionAt "é\n∀" 2).Precedes (positionAt "é\n∀" 3) ∧ lineAt? "é\n∀" 3 = some (positionAt "é\n∀" 3).line := by
  have h2 : IsBoundary "é\n∀" 2 := by decide +kernel
  have h3 : IsBoundary "é\n∀" 3 := by decide +kernel
  obtain ⟨hline, horder, -⟩ := positions_follow_offsets "é\n∀"
  exact ⟨h2, h3, by decide +kernel, (horder 2 3 h2 h3).1.mp (by decide), (hline 3).mpr (Or.inl h3)⟩

end AsyncLint.Text
