import FlakeImage.Proofs.Frame
import FlakeImage.Proofs.Literal

/-!
# What stands for a number

`Magnitude` is the grammar of a number after its sign. The reader takes off a number as far as it goes: one that is
followed by no further part of a number is read as it is written (`numberText_written`), and what is read as a number
was written so (`numberText_sound`).
-/

namespace FlakeImage.Json

open Utf8 (Piece)

/-! ### The grammar -/

/-- Digits as they are written. -/
inductive Digits : List Nat → List Char → Prop
  | nil : Digits [] []
  | cons {d : Nat} {ds : List Nat} {w : List Char} (hd : d < 10) (h : Digits ds w) :
    Digits (d :: ds) (Nat.digitChar d :: w)

/-- A fraction, if there is one. -/
inductive Fraction : List Nat → List Char → Prop
  | none : Fraction [] []
  | digits {ds : List Nat} {w : List Char} (hne : ds ≠ []) (h : Digits ds w) : Fraction ds ('.' :: w)

/-- An exponent, if there is one. -/
inductive Exponent : Option (Bool × List Nat) → List Char → Prop
  | none : Exponent none []
  | plain {e : Char} {ds : List Nat} {w : List Char} (he : e = 'e' ∨ e = 'E') (hne : ds ≠ []) (h : Digits ds w) :
    Exponent (some (false, ds)) (e :: w)
  | plus {e : Char} {ds : List Nat} {w : List Char} (he : e = 'e' ∨ e = 'E') (hne : ds ≠ []) (h : Digits ds w) :
    Exponent (some (false, ds)) (e :: '+' :: w)
  | minus {e : Char} {ds : List Nat} {w : List Char} (he : e = 'e' ∨ e = 'E') (hne : ds ≠ []) (h : Digits ds w) :
    Exponent (some (true, ds)) (e :: '-' :: w)

/-- A number after its sign: no further digit follows a leading zero. -/
inductive Magnitude : NumberText → List Char → Prop
  | mk {negative : Bool} {whole fraction : List Nat} {exponent : Option (Bool × List Nat)} {w f e : List Char}
    (hne : whole ≠ []) (hzero : ∀ ds, whole = 0 :: ds → ds = []) (hwhole : Digits whole w)
    (hfraction : Fraction fraction f) (hexponent : Exponent exponent e) :
    Magnitude ⟨negative, whole, fraction, exponent⟩ (w ++ (f ++ e))

/-! ### Digits -/

theorem digit?_digitChar {d : Nat} (h : d < 10) : Number.digit? (Nat.digitChar d) = some d := by
  interval_cases d <;> rfl

theorem digitChar_of_digit? {c : Char} {d : Nat} (h : Number.digit? c = some d) : d < 10 ∧ c = Nat.digitChar d := by
  unfold Number.digit? at h
  split at h
  · next hc =>
    obtain rfl := Option.some.inj h
    refine @forall_of_range (fun c => c.toNat - 48 < 10 ∧ c = Nat.digitChar (c.toNat - 48)) '0' '9'
      (fun k (hlow : 48 ≤ k) (hhigh : k ≤ 57) => ?_) c hc.1 hc.2
    interval_cases k <;> exact ⟨by decide, rfl⟩
  · cases h

/-- The text does not go on with a digit. -/
def NoDigit (s : Input) : Prop := ∀ c r, s = .char c :: r → Number.digit? c = none

theorem digits_of_noDigit {s : Input} (h : NoDigit s) : digits s = ⟨[], s⟩ := by
  rcases s with _ | ⟨c | b, s⟩
  · rfl
  · rw [digits, h c s rfl]
  · rfl

theorem digits_written {ds : List Nat} {w : List Char} (h : Digits ds w) {s : Input} (hs : NoDigit s) :
    digits (Piece.ofText w ++ s) = ⟨ds, s⟩ := by
  induction h with
  | nil => exact digits_of_noDigit hs
  | @cons d ds w hd _ ih =>
    change digits (.char (Nat.digitChar d) :: (Piece.ofText w ++ s)) = _
    rw [digits, digit?_digitChar hd, ih]
    rfl

theorem digits_sound (l : List Char) :
    ∃ w l', l = w ++ l' ∧ (digits (Piece.ofText l)).rest = Piece.ofText l' ∧
      Digits (digits (Piece.ofText l)).value w := by
  induction l with
  | nil => exact ⟨[], [], rfl, rfl, .nil⟩
  | cons c l ih =>
    obtain ⟨w, l', rfl, hrest, hw⟩ := ih
    rw [ofText_cons, digits]
    cases hc : Number.digit? c with
    | none => exact ⟨[], c :: (w ++ l'), rfl, rfl, .nil⟩
    | some d =>
      obtain ⟨hd, rfl⟩ := digitChar_of_digit? hc
      exact ⟨Nat.digitChar d :: w, l', rfl, hrest, .cons hd hw⟩

theorem digits₁_eq_ok_iff {s : Input} {ds : List Nat} {rest : Input} :
    digits₁ s = .ok ⟨ds, rest⟩ ↔ ds ≠ [] ∧ digits s = ⟨ds, rest⟩ := by
  rcases s with _ | ⟨p, s⟩
  · constructor
    · nofun
    · rintro ⟨hne, h⟩
      obtain ⟨rfl, -⟩ := Taken.mk.inj h
      exact absurd rfl hne
  · change (if (digits (p :: s)).value.isEmpty then Except.error Fault.malformed else .ok (digits (p :: s))) = _ ↔ _
    rcases digits (p :: s) with ⟨ds', rest'⟩
    cases ds' with
    | nil =>
      constructor
      · nofun
      · rintro ⟨hne, h⟩
        obtain ⟨rfl, -⟩ := Taken.mk.inj h
        exact absurd rfl hne
    | cons d ds' =>
      constructor
      · intro h
        obtain ⟨rfl, rfl⟩ := Taken.mk.inj (Except.ok.inj h)
        exact ⟨nofun, rfl⟩
      · rintro ⟨-, h⟩
        exact congrArg Except.ok h

theorem digits₁_written {ds : List Nat} {w : List Char} (hne : ds ≠ []) (h : Digits ds w) {s : Input}
    (hs : NoDigit s) : digits₁ (Piece.ofText w ++ s) = .ok ⟨ds, s⟩ :=
  digits₁_eq_ok_iff.2 ⟨hne, digits_written h hs⟩

theorem digits₁_sound {l : List Char} {ds : List Nat} {rest : Input}
    (h : digits₁ (Piece.ofText l) = .ok ⟨ds, rest⟩) :
    ∃ w l', l = w ++ l' ∧ rest = Piece.ofText l' ∧ ds ≠ [] ∧ Digits ds w := by
  obtain ⟨hne, hdigits⟩ := digits₁_eq_ok_iff.1 h
  obtain ⟨w, l', rfl, hrest, hw⟩ := digits_sound l
  rw [hdigits] at hrest hw
  exact ⟨w, l', rfl, hrest, hne, hw⟩

theorem wholeDigits_eq_ok_iff {s : Input} {ds : List Nat} {rest : Input} :
    wholeDigits s = .ok ⟨ds, rest⟩ ↔ (∀ tail, ds = 0 :: tail → tail = []) ∧ digits₁ s = .ok ⟨ds, rest⟩ := by
  unfold wholeDigits
  cases hd : digits₁ s with
  | error e => simp [bind, Except.bind]
  | ok r =>
    obtain ⟨ds', rest'⟩ := r
    simp only [bind, Except.bind, Except.ok.injEq, Taken.mk.injEq]
    split
    · next d tail =>
      constructor
      · intro h
        cases h
      · rintro ⟨hzero, rfl, rfl⟩
        exact absurd (hzero _ rfl) (List.cons_ne_nil d tail)
    · next hnot =>
      simp only [Except.ok.injEq, Taken.mk.injEq]
      constructor
      · rintro ⟨rfl, rfl⟩
        refine ⟨?_, rfl, rfl⟩
        rintro tail rfl
        cases tail with
        | nil => rfl
        | cons d tail => exact absurd rfl (hnot d tail)
      · rintro ⟨-, h⟩
        exact h

/-! ### Fractions and exponents -/

theorem fractionDigits_written {ds : List Nat} {w : List Char} (h : Fraction ds w) {s : Input} (hs : NoDigit s)
    (hpoint : ∀ r, s ≠ .char '.' :: r) : fractionDigits (Piece.ofText w ++ s) = .ok ⟨ds, s⟩ := by
  cases h with
  | none =>
    change fractionDigits s = _
    unfold fractionDigits
    split
    · next r => exact absurd rfl (hpoint r)
    · rfl
  | digits hne h =>
    exact digits₁_written hne h hs

theorem fractionDigits_sound {l : List Char} {ds : List Nat} {rest : Input}
    (h : fractionDigits (Piece.ofText l) = .ok ⟨ds, rest⟩) :
    ∃ w l', l = w ++ l' ∧ rest = Piece.ofText l' ∧ Fraction ds w := by
  unfold fractionDigits at h
  split at h
  · next s hl =>
    obtain ⟨l', rfl, rfl⟩ := exists_of_ofText_char hl
    obtain ⟨w, l'', rfl, rfl, hne, hw⟩ := digits₁_sound h
    exact ⟨'.' :: w, l'', rfl, rfl, .digits hne hw⟩
  · obtain ⟨rfl, rfl⟩ := Taken.mk.inj (Except.ok.inj h)
    exact ⟨[], l, rfl, rfl, .none⟩

theorem exponentDigits_written {ds : List Nat} {w : List Char} (hne : ds ≠ []) (h : Digits ds w) {s : Input}
    (hs : NoDigit s) :
    exponentDigits (Piece.ofText w ++ s) = .ok ⟨(false, ds), s⟩ ∧
      exponentDigits (.char '+' :: (Piece.ofText w ++ s)) = .ok ⟨(false, ds), s⟩ ∧
      exponentDigits (.char '-' :: (Piece.ofText w ++ s)) = .ok ⟨(true, ds), s⟩ := by
  have hread := digits₁_written hne h hs
  refine ⟨?_, ?_, ?_⟩
  · cases h with
    | nil => exact absurd rfl hne
    | @cons d ds w hd h =>
      have hsign : exponentDigits (.char (Nat.digitChar d) :: (Piece.ofText w ++ s)) =
          (digits₁ (.char (Nat.digitChar d) :: (Piece.ofText w ++ s))).map (·.map (false, ·)) := by
        interval_cases d <;> rfl
      refine hsign.trans ?_
      change (digits₁ (Piece.ofText (Nat.digitChar d :: w) ++ s)).map _ = _
      rw [hread]
      rfl
  · rw [exponentDigits, hread]
    rfl
  · rw [exponentDigits, hread]
    rfl

theorem exponent?_written {e : Option (Bool × List Nat)} {w : List Char} (h : Exponent e w) {s : Input}
    (hs : NoDigit s) (hsmall : ∀ r, s ≠ .char 'e' :: r) (hcapital : ∀ r, s ≠ .char 'E' :: r) :
    exponent? (Piece.ofText w ++ s) = .ok ⟨e, s⟩ := by
  have hmark {m : Char} (hm : m = 'e' ∨ m = 'E') (r : Input) :
      exponent? (.char m :: r) = (exponentDigits r).map (·.map some) := by
    rcases hm with rfl | rfl <;> rfl
  cases h with
  | none =>
    change exponent? s = _
    unfold exponent?
    split
    · next r => exact absurd rfl (hsmall r)
    · next r => exact absurd rfl (hcapital r)
    · rfl
  | @plain m ds w hm hne h =>
    refine (hmark hm (Piece.ofText w ++ s)).trans ?_
    rw [(exponentDigits_written hne h hs).1]
    rfl
  | @plus m ds w hm hne h =>
    refine (hmark hm (.char '+' :: (Piece.ofText w ++ s))).trans ?_
    rw [(exponentDigits_written hne h hs).2.1]
    rfl
  | @minus m ds w hm hne h =>
    refine (hmark hm (.char '-' :: (Piece.ofText w ++ s))).trans ?_
    rw [(exponentDigits_written hne h hs).2.2]
    rfl

theorem exponentDigits_sound {l : List Char} {x : Bool × List Nat} {rest : Input}
    (h : exponentDigits (Piece.ofText l) = .ok ⟨x, rest⟩) {m : Char} (hm : m = 'e' ∨ m = 'E') :
    ∃ w l', l = w ++ l' ∧ rest = Piece.ofText l' ∧ Exponent (some x) (m :: w) := by
  unfold exponentDigits at h
  split at h
  · next s hl =>
    obtain ⟨l, rfl, rfl⟩ := exists_of_ofText_char hl
    obtain ⟨⟨ds, rest'⟩, hdigits, htaken⟩ := map_eq_ok h
    obtain ⟨rfl, rfl⟩ := Taken.mk.inj htaken
    obtain ⟨w, l', rfl, rfl, hne, hw⟩ := digits₁_sound hdigits
    exact ⟨'+' :: w, l', rfl, rfl, .plus hm hne hw⟩
  · next s hl =>
    obtain ⟨l, rfl, rfl⟩ := exists_of_ofText_char hl
    obtain ⟨⟨ds, rest'⟩, hdigits, htaken⟩ := map_eq_ok h
    obtain ⟨rfl, rfl⟩ := Taken.mk.inj htaken
    obtain ⟨w, l', rfl, rfl, hne, hw⟩ := digits₁_sound hdigits
    exact ⟨'-' :: w, l', rfl, rfl, .minus hm hne hw⟩
  · obtain ⟨⟨ds, rest'⟩, hdigits, htaken⟩ := map_eq_ok h
    obtain ⟨rfl, rfl⟩ := Taken.mk.inj htaken
    obtain ⟨w, l', rfl, rfl, hne, hw⟩ := digits₁_sound hdigits
    exact ⟨w, l', rfl, rfl, .plain hm hne hw⟩

theorem exponent?_sound {l : List Char} {e : Option (Bool × List Nat)} {rest : Input}
    (h : exponent? (Piece.ofText l) = .ok ⟨e, rest⟩) :
    ∃ w l', l = w ++ l' ∧ rest = Piece.ofText l' ∧ Exponent e w := by
  have hmark {m : Char} (hm : m = 'e' ∨ m = 'E') {l : List Char}
      (h : (exponentDigits (Piece.ofText l)).map (·.map some) = .ok ⟨e, rest⟩) :
      ∃ w l', m :: l = w ++ l' ∧ rest = Piece.ofText l' ∧ Exponent e w := by
    obtain ⟨⟨x, rest'⟩, hdigits, htaken⟩ := map_eq_ok h
    obtain ⟨rfl, rfl⟩ := Taken.mk.inj htaken
    obtain ⟨w, l', rfl, rfl, hw⟩ := exponentDigits_sound hdigits hm
    exact ⟨m :: w, l', rfl, rfl, hw⟩
  unfold exponent? at h
  split at h
  · next s hl =>
    obtain ⟨l, rfl, rfl⟩ := exists_of_ofText_char hl
    exact hmark (.inl rfl) h
  · next s hl =>
    obtain ⟨l, rfl, rfl⟩ := exists_of_ofText_char hl
    exact hmark (.inr rfl) h
  · obtain ⟨rfl, rfl⟩ := Taken.mk.inj (Except.ok.inj h)
    exact ⟨[], l, rfl, rfl, .none⟩

/-! ### Numbers -/

/-- The text does not go on with a part of a number. -/
structure Stops (s : Input) : Prop where
  digit : NoDigit s
  point : ∀ r, s ≠ .char '.' :: r
  small : ∀ r, s ≠ .char 'e' :: r
  capital : ∀ r, s ≠ .char 'E' :: r

theorem noDigit_cons {c : Char} (h : Number.digit? c = none) (s : Input) : NoDigit (.char c :: s) := by
  intro c' r heq
  obtain ⟨hc, -⟩ := List.cons.inj heq
  rwa [← Piece.char.inj hc]

theorem Exponent.head_cases {e : Option (Bool × List Nat)} {w : List Char} (h : Exponent e w) :
    w = [] ∨ ∃ m r, w = m :: r ∧ (m = 'e' ∨ m = 'E') := by
  cases h with
  | none => exact .inl rfl
  | plain hm | plus hm | minus hm => exact .inr ⟨_, _, rfl, hm⟩

/-- **The reader takes off a number** as it is written. -/
theorem numberText_written {t : NumberText} {w : List Char} (h : Magnitude t w) {s : Input} (hs : Stops s) :
    numberText t.negative (Piece.ofText w ++ s) = .ok ⟨t, s⟩ := by
  obtain @⟨negative, whole, fraction, exponent, w, f, e, hne, hzero, hwhole, hfraction, hexponent⟩ := h
  have hexp := exponent?_written hexponent hs.digit hs.small hs.capital
  have hnoDigit : NoDigit (Piece.ofText e ++ s) := by
    rcases hexponent.head_cases with rfl | ⟨m, r, rfl, rfl | rfl⟩
    · exact hs.digit
    · exact noDigit_cons rfl _
    · exact noDigit_cons rfl _
  have hnoPoint : ∀ r, Piece.ofText e ++ s ≠ .char '.' :: r := by
    rcases hexponent.head_cases with rfl | ⟨m, r, rfl, rfl | rfl⟩
    · exact hs.point
    · exact fun r heq => absurd (Piece.char.inj (List.cons.inj heq).1) (by decide)
    · exact fun r heq => absurd (Piece.char.inj (List.cons.inj heq).1) (by decide)
  have hfrac := fractionDigits_written hfraction hnoDigit hnoPoint
  have hnoDigit' : NoDigit (Piece.ofText f ++ (Piece.ofText e ++ s)) := by
    cases hfraction with
    | none => exact hnoDigit
    | digits => exact noDigit_cons rfl _
  have hread : wholeDigits (Piece.ofText w ++ (Piece.ofText f ++ (Piece.ofText e ++ s))) = _ :=
    wholeDigits_eq_ok_iff.2 ⟨hzero, digits₁_written hne hwhole hnoDigit'⟩
  unfold numberText
  simp only [ofText_append, List.append_assoc, hread, hfrac, hexp, bind, Except.bind]

theorem numberText_sound {negative : Bool} {l : List Char} {t : NumberText} {rest : Input}
    (h : numberText negative (Piece.ofText l) = .ok ⟨t, rest⟩) :
    ∃ w l', l = w ++ l' ∧ rest = Piece.ofText l' ∧ t.negative = negative ∧ Magnitude t w := by
  unfold numberText at h
  obtain ⟨⟨whole, s⟩, hwhole, h⟩ := bind_eq_ok h
  obtain ⟨hzero, hdigits⟩ := wholeDigits_eq_ok_iff.1 hwhole
  obtain ⟨w, l, rfl, rfl, hne, hw⟩ := digits₁_sound hdigits
  obtain ⟨⟨fraction, s⟩, hfraction, h⟩ := bind_eq_ok h
  obtain ⟨f, l, rfl, rfl, hf⟩ := fractionDigits_sound hfraction
  obtain ⟨⟨exponent, s⟩, hexponent, h⟩ := bind_eq_ok h
  obtain ⟨e, l, rfl, rfl, he⟩ := exponent?_sound hexponent
  obtain ⟨rfl, rfl⟩ := Taken.mk.inj (Except.ok.inj h)
  exact ⟨w ++ (f ++ e), l, by simp, rfl, rfl, .mk hne hzero hw hf he⟩

end FlakeImage.Json
