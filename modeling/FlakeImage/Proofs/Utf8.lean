import Mathlib
import FlakeImage.Text.Utf8

/-!
# Bytes of a text

`Encodes` says which bytes are a character, a case for each number of bytes. `encodeChar` writes such bytes, and they
are read as the one character; so the bytes that encode a text are read as this text again (`text_encode`). A byte below
128 is a character of its own wherever it stands, so that bytes can be cut there before they are read
(`shown_append_small`).
-/

namespace FlakeImage.Utf8

/-! ### Bytes by their numbers -/

section Numbers
variable {a b : UInt8}

theorem width_eq_one_iff : width a = 1 ↔ a.toNat < 0x80 := by
  simp only [width, UInt8.lt_iff_toNat_lt, UInt8.reduceToNat]
  split_ifs <;> simp <;> omega

theorem width_eq_two_iff : width a = 2 ↔ 0xC2 ≤ a.toNat ∧ a.toNat < 0xE0 := by
  simp only [width, UInt8.lt_iff_toNat_lt, UInt8.reduceToNat]
  split_ifs <;> simp <;> omega

theorem width_eq_three_iff : width a = 3 ↔ 0xE0 ≤ a.toNat ∧ a.toNat < 0xF0 := by
  simp only [width, UInt8.lt_iff_toNat_lt, UInt8.reduceToNat]
  split_ifs <;> simp <;> omega

theorem width_eq_four_iff : width a = 4 ↔ 0xF0 ≤ a.toNat ∧ a.toNat < 0xF5 := by
  simp only [width, UInt8.lt_iff_toNat_lt, UInt8.reduceToNat]
  split_ifs <;> simp <;> omega

theorem isTail_iff : isTail b = true ↔ 0x80 ≤ b.toNat ∧ b.toNat ≤ 0xBF := by
  simp only [isTail, Bool.and_eq_true, decide_eq_true_eq, UInt8.le_iff_toNat_le, UInt8.reduceToNat]

/-- A second byte is a byte after the first; four first bytes narrow its bounds. -/
theorem isSecond_iff : isSecond a b = true ↔ 0x80 ≤ b.toNat ∧ b.toNat ≤ 0xBF ∧
    (a.toNat = 0xE0 → 0xA0 ≤ b.toNat) ∧ (a.toNat = 0xF0 → 0x90 ≤ b.toNat) ∧
    (a.toNat = 0xED → b.toNat ≤ 0x9F) ∧ (a.toNat = 0xF4 → b.toNat ≤ 0x8F) := by
  simp only [isSecond, Bool.and_eq_true, decide_eq_true_eq, UInt8.le_iff_toNat_le, ← UInt8.toNat_inj]
  split_ifs <;> simp only [UInt8.reduceToNat] at * <;> omega

end Numbers

/-! ### One character -/

/-- The bytes of a character, each in the bounds for its place, with the character that they carry. -/
inductive Encodes : Bytes → Char → Prop
  | one {a : UInt8} (ha : width a = 1) : Encodes [a] (Char.ofNat a.toNat)
  | two {a b : UInt8} (ha : width a = 2) (hb : isSecond a b = true) : Encodes [a, b] (char₂ a b)
  | three {a b c : UInt8} (ha : width a = 3) (hb : isSecond a b = true) (hc : isTail c = true) :
    Encodes [a, b, c] (char₃ a b c)
  | four {a b c d : UInt8} (ha : width a = 4) (hb : isSecond a b = true) (hc : isTail c = true)
    (hd : isTail d = true) : Encodes [a, b, c, d] (char₄ a b c d)

section Encode
variable {a b c d : UInt8} {x : Char}

theorem encodes_one (hx : x.toNat < 0x80) (ha : a.toNat = x.toNat) : Encodes [a] x := by
  have hbits : Char.ofNat a.toNat = x := by rw [ha, Char.ofNat_toNat]
  exact hbits ▸ .one (width_eq_one_iff.2 (by omega))

theorem encodes_two (hx : 0x80 ≤ x.toNat) (hx' : x.toNat < 0x800) (ha : a.toNat = 0xC0 + x.toNat / 64)
    (hb : b.toNat = 0x80 + x.toNat % 64) : Encodes [a, b] x := by
  have hbits : (a.toNat - 0xC0) * 64 + low b = x.toNat := by unfold low; omega
  have hchar : char₂ a b = x := by rw [char₂, hbits, Char.ofNat_toNat]
  exact hchar ▸ .two (width_eq_two_iff.2 (by omega)) (isSecond_iff.2 (by omega))

theorem encodes_three (hx : 0x800 ≤ x.toNat) (hx' : x.toNat < 0x10000) (ha : a.toNat = 0xE0 + x.toNat / 4096)
    (hb : b.toNat = 0x80 + x.toNat / 64 % 64) (hc : c.toNat = 0x80 + x.toNat % 64) : Encodes [a, b, c] x := by
  have hvalid : x.toNat < 0xD800 ∨ 0xDFFF < x.toNat ∧ x.toNat < 0x110000 := x.valid
  have hbits : ((a.toNat - 0xE0) * 64 + low b) * 64 + low c = x.toNat := by unfold low; omega
  have hchar : char₃ a b c = x := by rw [char₃, hbits, Char.ofNat_toNat]
  exact hchar ▸ .three (width_eq_three_iff.2 (by omega)) (isSecond_iff.2 (by omega)) (isTail_iff.2 (by omega))

theorem encodes_four (hx : 0x10000 ≤ x.toNat) (ha : a.toNat = 0xF0 + x.toNat / 262144)
    (hb : b.toNat = 0x80 + x.toNat / 4096 % 64) (hc : c.toNat = 0x80 + x.toNat / 64 % 64)
    (hd : d.toNat = 0x80 + x.toNat % 64) : Encodes [a, b, c, d] x := by
  have hvalid : x.toNat < 0xD800 ∨ 0xDFFF < x.toNat ∧ x.toNat < 0x110000 := x.valid
  have hbits : (((a.toNat - 0xF0) * 64 + low b) * 64 + low c) * 64 + low d = x.toNat := by
    unfold low
    omega
  have hchar : char₄ a b c d = x := by rw [char₄, hbits, Char.ofNat_toNat]
  exact hchar ▸ .four (width_eq_four_iff.2 (by omega)) (isSecond_iff.2 (by omega)) (isTail_iff.2 (by omega))
    (isTail_iff.2 (by omega))

end Encode

theorem encodes_encodeChar (c : Char) : Encodes (encodeChar c) c := by
  have hvalid : c.toNat < 0xD800 ∨ 0xDFFF < c.toNat ∧ c.toNat < 0x110000 := c.valid
  have hbyte {n : Nat} (h : n < 256) : (UInt8.ofNat n).toNat = n := UInt8.toNat_ofNat_of_lt' h
  unfold encodeChar
  dsimp only
  split_ifs with h1 h2 h3
  · exact encodes_one h1 (hbyte (by omega))
  · exact encodes_two (by omega) h2 (hbyte (by omega)) (hbyte (by omega))
  · exact encodes_three (by omega) h3 (hbyte (by omega)) (hbyte (by omega)) (hbyte (by omega))
  · exact encodes_four (by omega) (hbyte (by omega)) (hbyte (by omega)) (hbyte (by omega)) (hbyte (by omega))

/-- A character is read from its bytes. -/
theorem Encodes.piecesFrom {l : Bytes} {x : Char} (h : Encodes l x) (r : Bytes) :
    piecesFrom [] (l ++ r) = .char x :: piecesFrom [] r := by
  cases h with
  | one ha => simp [Utf8.piecesFrom, step, extend, ha]
  | two ha hb => simp [Utf8.piecesFrom, step, extend, ha, hb]
  | three ha hb hc => simp [Utf8.piecesFrom, step, extend, ha, hb, hc]
  | four ha hb hc hd => simp [Utf8.piecesFrom, step, extend, ha, hb, hc, hd]

/-! ### Texts -/

theorem pieces_encode (s : String) : pieces (encode s) = Piece.ofText s.toList := by
  unfold pieces encode Piece.ofText
  induction s.toList with
  | nil => rfl
  | cons c r ih => rw [List.flatMap_cons, (encodes_encodeChar c).piecesFrom, ih, List.map_cons]

theorem soundFrom_ofText (index : Nat) (s : List Char) : soundFrom index (Piece.ofText s) = .ok s := by
  induction s generalizing index with
  | nil => rfl
  | cons c r ih => exact congrArg (Except.map (c :: ·)) (ih _)

/-- **The bytes of a text spell it.** -/
theorem text_encode (s : String) : text (encode s) = .ok s := by
  rw [text, pieces_encode, soundFrom_ofText]
  exact congrArg Except.ok String.ofList_toList

theorem shown_encode (s : String) : shown (encode s) = s.toList := by
  have hshown : Piece.shown ∘ Piece.char = id := rfl
  rw [shown, pieces_encode, Piece.ofText, List.map_map, hshown, List.map_id]

theorem encode_eq_nil_iff {s : String} : encode s = [] ↔ s.toList = [] := by
  constructor
  · intro h
    rw [← shown_encode s, h]
    rfl
  · intro h
    rw [encode, h]
    rfl

/-! ### Bytes below 128 -/

section Small
variable {b : UInt8} (hb : b.toNat < 0x80)
include hb

theorem isSecond_small (a : UInt8) : isSecond a b = false :=
  Bool.eq_false_iff.2 fun h => by have := (isSecond_iff.1 h).1; omega

theorem isTail_small : isTail b = false :=
  Bool.eq_false_iff.2 fun h => by have := (isTail_iff.1 h).1; omega

/-- A byte below 128 is a character of its own, also after the beginning of a character, which it breaks. -/
theorem step_small (begun : Bytes) :
    step begun b = (piecesFrom begun [] ++ [.char (Char.ofNat b.toNat)], []) := by
  -- What is begun has at most three bytes; where the next one is compared with bounds, it is below them.
  rcases begun with _ | ⟨a, _ | ⟨c, _ | ⟨d, _ | ⟨e, r⟩⟩⟩⟩ <;>
    simp [step, start, extend, width_eq_one_iff.2 hb, isSecond_small hb, isTail_small hb, piecesFrom]

theorem piecesFrom_append_small (begun x r : Bytes) :
    piecesFrom begun (x ++ b :: r) = piecesFrom begun x ++ .char (Char.ofNat b.toNat) :: piecesFrom [] r := by
  induction x generalizing begun with
  | nil =>
    change (step begun b).1 ++ piecesFrom (step begun b).2 r = _
    rw [step_small hb, List.append_assoc, List.singleton_append]
  | cons a x ih => rw [List.cons_append, piecesFrom, ih, piecesFrom, List.append_assoc]

/-- What is shown of the bytes before a byte below 128 does not depend on those after it. -/
theorem shown_append_small (x r : Bytes) : shown (x ++ b :: r) = shown x ++ Char.ofNat b.toNat :: shown r := by
  simp only [shown, pieces, piecesFrom_append_small hb, List.map_append, List.map_cons, Piece.shown]

end Small

/-- A byte below 128 is the only one of its character. -/
theorem encodeChar_of_mem {b : UInt8} {c : Char} (h : b ∈ encodeChar c) (hb : b.toNat < 0x80) :
    encodeChar c = [b] ∧ c.toNat = b.toNat := by
  have hvalid : c.toNat < 0xD800 ∨ 0xDFFF < c.toNat ∧ c.toNat < 0x110000 := c.valid
  have hbyte {n : Nat} (h : n < 256) : (UInt8.ofNat n).toNat = n := UInt8.toNat_ofNat_of_lt' h
  have hlarge {n : Nat} (hlow : 0x80 ≤ n) (hhigh : n < 256) : b ≠ UInt8.ofNat n := fun h => by
    rw [h, hbyte hhigh] at hb
    omega
  unfold encodeChar at h ⊢
  dsimp only at h ⊢
  split_ifs at h ⊢ with h1 h2 h3
  · obtain rfl := List.mem_singleton.1 h
    exact ⟨rfl, (hbyte (by omega)).symm⟩
  all_goals
    simp only [List.mem_cons, List.not_mem_nil, or_false] at h
    exfalso
  · rcases h with h | h <;> exact hlarge (by omega) (by omega) h
  · rcases h with h | h | h <;> exact hlarge (by omega) (by omega) h
  · rcases h with h | h | h | h <;> exact hlarge (by omega) (by omega) h

/-- A character below 128 stands in a text exactly if its byte stands among the text's bytes. -/
theorem mem_encode_iff {s : String} {x : Char} (hx : x.toNat < 0x80) :
    UInt8.ofNat x.toNat ∈ encode s ↔ x ∈ s.toList := by
  have hbyte : (UInt8.ofNat x.toNat).toNat = x.toNat := UInt8.toNat_ofNat_of_lt' (by change _ < 256; omega)
  rw [encode, List.mem_flatMap]
  constructor
  · rintro ⟨c, hc, hmem⟩
    have hcx : c.toNat = x.toNat := (encodeChar_of_mem hmem (by omega)).2.trans hbyte
    rwa [← Char.ofNat_toNat x, ← hcx, Char.ofNat_toNat]
  · intro hmem
    exact ⟨x, hmem, by simp [encodeChar, hx]⟩

/-- A text ends with a character below 128 exactly if its bytes end with that of the character. -/
theorem getLast?_encode_iff {s : List Char} {x : Char} (hx : x.toNat < 0x80) :
    (encode (String.ofList s)).getLast? = some (UInt8.ofNat x.toNat) ↔ s.getLast? = some x := by
  have hbyte : (UInt8.ofNat x.toNat).toNat = x.toNat := UInt8.toNat_ofNat_of_lt' (by change _ < 256; omega)
  rw [encode, String.toList_ofList]
  rcases List.eq_nil_or_concat s with rfl | ⟨init, c, rfl⟩
  · simp
  · rw [List.concat_eq_append, List.flatMap_append, List.flatMap_singleton, List.getLast?_append,
      List.getLast?_concat]
    constructor
    · intro h
      have hlast : (encodeChar c).getLast? = some (UInt8.ofNat x.toNat) := by
        cases hc : (encodeChar c).getLast? with
        | none => unfold encodeChar at hc; dsimp only at hc; split_ifs at hc <;> simp at hc
        | some b => rw [hc] at h; exact h
      have hcx := (encodeChar_of_mem (List.mem_of_getLast? hlast) (by omega)).2.trans hbyte
      rw [← Char.ofNat_toNat c, hcx, Char.ofNat_toNat]
    · intro h
      obtain rfl := Option.some.inj h
      simp [encodeChar, hx]

end FlakeImage.Utf8
