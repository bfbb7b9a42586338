import FlakeImage.Proofs.Literal

/-!
# What stands for a string

`Spells` is the grammar of what may stand between quotes, whether it denotes a text or has half a surrogate pair in
it. The loose reader takes off exactly what spells a string, with the text that it denotes, if there is one
(`stringText_eq_ok_iff`).
-/

namespace FlakeImage.Json

open Utf8 (Piece)

/-- What may stand between the quotes of a string. -/
inductive Spells : List Char → Prop
  | nil : Spells []
  | plain {c : Char} {w : List Char} (hcontrol : 0x20 ≤ c.toNat) (hquote : c ≠ '"') (hescape : c ≠ '\\')
    (h : Spells w) : Spells (c :: w)
  | short {e c : Char} {w : List Char} (hc : (e, c) ∈ shortEscapes) (h : Spells w) : Spells ('\\' :: e :: w)
  | unit {n : Nat} {digits w : List Char} (hdigits : FourDigits digits n) (h : Spells w) :
    Spells ('\\' :: 'u' :: (digits ++ w))

/-- What stands between the quotes of a string, with the text that it denotes, if there is one. -/
inductive Literal (w : List Char) : Option String → Prop
  | text {s : List Char} (h : Denotes w s) : Literal w (some (String.ofList s))
  | broken (h : Spells w) (hno : ∀ s, ¬ Denotes w s) : Literal w none

theorem Denotes.spells {w s : List Char} (h : Denotes w s) : Spells w := by
  induction h with
  | nil => exact .nil
  | plain hcontrol hquote hescape _ ih => exact .plain hcontrol hquote hescape ih
  | short hc _ ih => exact .short hc ih
  | unit hdigits _ ih => exact .unit hdigits ih
  | pair _ hhigh hlow _ ih => exact .unit hhigh (.unit hlow ih)

/-- Every text can be written: controls by their number, quotes and backslashes by an escape, others as themselves. -/
theorem exists_denotes (s : List Char) : ∃ w, Denotes w s := by
  induction s with
  | nil => exact ⟨[], .nil⟩
  | cons c s ih =>
    obtain ⟨w, hw⟩ := ih
    by_cases hquote : c = '"'
    · subst hquote
      exact ⟨_, .short (by decide : ('"', '"') ∈ shortEscapes) hw⟩
    · by_cases hescape : c = '\\'
      · subst hescape
        exact ⟨_, .short (by decide : ('\\', '\\') ∈ shortEscapes) hw⟩
      · by_cases hcontrol : 0x20 ≤ c.toNat
        · exact ⟨_, .plain hcontrol hquote hescape hw⟩
        · have hdigits := @FourDigits.mk (Nat.digitChar 0) (Nat.digitChar 0) (Nat.digitChar (c.toNat / 16))
            (Nat.digitChar (c.toNat % 16)) 0 0 (c.toNat / 16) (c.toNat % 16) ⟨by decide, .inl rfl⟩
            ⟨by decide, .inl rfl⟩ ⟨by omega, .inl rfl⟩ ⟨by omega, .inl rfl⟩
          have hnumber : 0 * 16 ^ 3 + 0 * 16 ^ 2 + c.toNat / 16 * 16 + c.toNat % 16 = c.toNat := by omega
          rw [hnumber] at hdigits
          exact ⟨_, .unit hdigits hw⟩

/-! ### Digits of base sixteen -/

theorem hexDigit_of_hexDigit? {c : Char} {n : Nat} (h : hexDigit? c = some n) : HexDigit c n := by
  unfold hexDigit? at h
  split at h
  · next hc =>
    obtain rfl := Option.some.inj h
    refine @forall_of_range (fun c => HexDigit c (c.toNat - 48)) '0' '9'
      (fun k (hlow : 48 ≤ k) (hhigh : k ≤ 57) => ?_) c hc.1 hc.2
    interval_cases k <;> exact ⟨by decide, .inl rfl⟩
  · split at h
    · next hc =>
      obtain rfl := Option.some.inj h
      refine @forall_of_range (fun c => HexDigit c (c.toNat - 87)) 'a' 'f'
        (fun k (hlow : 97 ≤ k) (hhigh : k ≤ 102) => ?_) c hc.1 hc.2
      interval_cases k <;> exact ⟨by decide, .inl rfl⟩
    · split at h
      · next hc =>
        obtain rfl := Option.some.inj h
        refine @forall_of_range (fun c => HexDigit c (c.toNat - 55)) 'A' 'F'
          (fun k (hlow : 65 ≤ k) (hhigh : k ≤ 70) => ?_) c hc.1 hc.2
        interval_cases k <;> exact ⟨by decide, .inr rfl⟩
      · cases h

theorem fourDigits_of_hex₄? {a b c d : Char} {n : Nat}
    (h : hex₄? (.char a) (.char b) (.char c) (.char d) = some n) : FourDigits [a, b, c, d] n := by
  simp only [hex₄?, Option.bind_eq_bind, Option.bind_eq_some_iff, Option.some.injEq] at h
  obtain ⟨k, ha, l, hb, m, hc, n, hd, rfl⟩ := h
  have hfour := FourDigits.mk (hexDigit_of_hexDigit? ha) (hexDigit_of_hexDigit? hb) (hexDigit_of_hexDigit? hc)
    (hexDigit_of_hexDigit? hd)
  have hnumber : ((k * 16 + l) * 16 + m) * 16 + n = k * 16 ^ 3 + l * 16 ^ 2 + m * 16 + n := by ring
  rwa [hnumber]

theorem FourDigits.lt {digits : List Char} {n : Nat} (h : FourDigits digits n) : n < 0x10000 := by
  obtain ⟨⟨hk, -⟩, ⟨hl, -⟩, ⟨hm, -⟩, ⟨hn, -⟩⟩ := h
  omega

theorem mem_shortEscapes {e c : Char} (h : simpleEscape? e = some c) : (e, c) ∈ shortEscapes := by
  unfold simpleEscape? at h
  split at h <;> cases h <;> decide

/-! ### One step of the reader -/

/-- What has been written of a surrogate pair of which the first half is open. -/
inductive Open : Option Nat → List Char → Prop
  | shut : Open none []
  | half {h : Nat} {digits : List Char} (hhigh : isHighSurrogate h = true) (hdigits : FourDigits digits h) :
    Open (some h) ('\\' :: 'u' :: digits)

/-- Reading `v` leads from the text seen in `seen` and the open half `p` to `seen'` and `p'`. -/
def Adds (v : List Char) (seen : Seen) (p : List Char) (seen' : Seen) (p' : List Char) : Prop :=
  ∀ before' w t, seen' = some before' → Denotes (p' ++ w) t →
    ∃ before t', seen = some before ∧ before'.reverse ++ t = before.reverse ++ t' ∧ Denotes (p ++ (v ++ w)) t'

section Step
variable {seen : Seen} {high : Option Nat} {p : List Char}

theorem unpaired_loose : unpaired false seen high = .ok (if high.isNone then seen else none) := by
  unfold unpaired
  split <;> rfl

theorem Open.closed {before : List Char} (hp : Open high p) (h : (if high.isNone then seen else none) = some before) :
    p = [] ∧ seen = some before := by
  cases hp with
  | shut => exact ⟨rfl, h⟩
  | half => cases h

/-- A character, however it is written. -/
theorem Adds.char {c : Char} {v : List Char} (hp : Open high p)
    (hv : ∀ {w t}, Denotes w t → Denotes (v ++ w) (c :: t)) :
    Adds v seen p ((if high.isNone then seen else none).map (c :: ·)) [] := by
  intro before' w t hbefore' ht
  obtain ⟨before, hbefore, rfl⟩ := Option.map_eq_some_iff.1 hbefore'
  obtain ⟨rfl, hseen⟩ := hp.closed hbefore
  exact ⟨before, c :: t, hseen, by simp, hv ht⟩

theorem toNat_ofNat_unit {n : Nat} (hn : n < 0x10000) (hhigh : isHighSurrogate n = false)
    (hlow : isLowSurrogate n = false) : (Char.ofNat n).toNat = n := by
  have hvalid : n.isValidChar := by
    simp only [isHighSurrogate, isLowSurrogate, Bool.and_eq_false_iff, decide_eq_false_iff_not] at hhigh hlow
    unfold Nat.isValidChar
    omega
  rw [Char.toNat_ofNat, if_pos hvalid]

theorem addSingle_adds {n : Nat} {digits : List Char} (hdigits : FourDigits digits n) :
    ∃ r p', addSingle false seen n = .ok r ∧ Open r.2 p' ∧ Adds ('\\' :: 'u' :: digits) seen [] r.1 p' := by
  unfold addSingle
  cases hhigh : isHighSurrogate n with
  | true =>
    refine ⟨(seen, some n), _, rfl, .half hhigh hdigits, ?_⟩
    intro before w t hbefore ht
    exact ⟨before, t, hbefore, rfl, ht⟩
  | false =>
    cases hlow : isLowSurrogate n with
    | true => exact ⟨(none, none), [], rfl, .shut, nofun⟩
    | false =>
      refine ⟨(seen.map (Char.ofNat n :: ·), none), [], rfl, .shut, ?_⟩
      have hchar := toNat_ofNat_unit hdigits.lt hhigh hlow
      exact Adds.char .shut fun ht => .unit (by rwa [hchar]) ht

/-- The second half of a pair. -/
theorem Adds.pair {h n : Nat} {first second : List Char} (hhigh : isHighSurrogate h = true)
    (hfirst : FourDigits first h) (hlow : isLowSurrogate n = true) (hsecond : FourDigits second n) :
    Adds ('\\' :: 'u' :: second) seen ('\\' :: 'u' :: first) (seen.map (ofSurrogates h n :: ·)) [] := by
  simp only [isHighSurrogate, isLowSurrogate, Bool.and_eq_true, decide_eq_true_eq] at hhigh hlow
  have hvalid : ((h - 0xD800) * 1024 + (n - 0xDC00) + 0x10000).isValidChar := by
    unfold Nat.isValidChar
    omega
  have hchar : (ofSurrogates h n).toNat = (h - 0xD800) * 1024 + (n - 0xDC00) + 0x10000 := by
    rw [ofSurrogates, Char.toNat_ofNat, if_pos hvalid]
  have hfirst' : 0xD800 + ((ofSurrogates h n).toNat - 0x10000) / 0x400 = h := by omega
  have hsecond' : 0xDC00 + ((ofSurrogates h n).toNat - 0x10000) % 0x400 = n := by omega
  intro before' w t hbefore' ht
  obtain ⟨before, hbefore, rfl⟩ := Option.map_eq_some_iff.1 hbefore'
  have hpair := Denotes.pair (by omega) (hfirst'.symm ▸ hfirst) (hsecond'.symm ▸ hsecond) ht
  exact ⟨before, ofSurrogates h n :: t, hbefore, by simp, hpair⟩

theorem addUnit_loose (n : Nat) : ∃ r, addUnit false seen high n = .ok r := by
  have hsingle (seen : Seen) : ∃ r, addSingle false seen n = .ok r := by
    unfold addSingle
    by_cases hhigh : isHighSurrogate n = true
    · exact ⟨_, if_pos hhigh⟩
    · by_cases hlow : isLowSurrogate n = true
      · exact ⟨(none, none), by simp [hhigh, hlow]⟩
      · exact ⟨(seen.map (Char.ofNat n :: ·), none), by simp [hhigh, hlow]⟩
  cases high with
  | none => exact hsingle seen
  | some h =>
    unfold addUnit
    by_cases hlow : isLowSurrogate n = true
    · exact ⟨_, if_pos hlow⟩
    · obtain ⟨r, hr⟩ := hsingle none
      exact ⟨r, by simpa [hlow] using hr⟩

theorem addUnit_adds {n : Nat} {digits : List Char} (hp : Open high p) (hdigits : FourDigits digits n) :
    ∃ r p', addUnit false seen high n = .ok r ∧ Open r.2 p' ∧ Adds ('\\' :: 'u' :: digits) seen p r.1 p' := by
  cases hp with
  | shut => exact addSingle_adds hdigits
  | @half h first hhigh hfirst =>
    cases hlow : isLowSurrogate n with
    | true =>
      exact ⟨(seen.map (ofSurrogates h n :: ·), none), [], by simp [addUnit, hlow], .shut,
        .pair hhigh hfirst hlow hdigits⟩
    | false =>
      obtain ⟨r, p', hr, hopen, hadds⟩ := @addSingle_adds none n digits hdigits
      refine ⟨r, p', by simpa [addUnit, hlow] using hr, hopen, ?_⟩
      intro before w t hbefore ht
      obtain ⟨_, _, hnone, -⟩ := hadds before w t hbefore ht
      cases hnone

end Step

/-! ### What the reader takes -/

/-- Before `l`, of which the reader takes `o`, was read what is in `seen`, and the open half `p`. -/
def Takes (seen : Seen) (p l : List Char) (o : Option String) (rest : Input) : Prop :=
  ∃ w l', l = w ++ '"' :: l' ∧ rest = Piece.ofText l' ∧ Spells w ∧
    ∀ text, o = some text → ∃ before t, seen = some before ∧ text = String.ofList (before.reverse ++ t) ∧
      Denotes (p ++ w) t

theorem Takes.before {v l p p' : List Char} {seen seen' : Seen} {o : Option String} {rest : Input}
    (h : Takes seen' p' l o rest) (hspells : ∀ {w}, Spells w → Spells (v ++ w)) (hadds : Adds v seen p seen' p') :
    Takes seen p (v ++ l) o rest := by
  obtain ⟨w, l', rfl, rfl, hw, htext⟩ := h
  refine ⟨v ++ w, l', by simp, rfl, hspells hw, fun text ho => ?_⟩
  obtain ⟨before', t, hseen', rfl, ht⟩ := htext text ho
  obtain ⟨before, t', hseen, heq, ht'⟩ := hadds before' w t hseen' ht
  exact ⟨before, t', hseen, by rw [heq], ht'⟩

theorem stringFrom_sound {seen : Seen} {high : Option Nat} {s : Input} {o : Option String} {rest : Input}
    (h : stringFrom false seen high s = .ok ⟨o, rest⟩) {l p : List Char} (hl : Piece.ofText l = s)
    (hp : Open high p) : Takes seen p l o rest := by
  fun_induction stringFrom false seen high s generalizing l p with
  | case1 | case3 | case4 | case6 | case7 | case9 | case10 => cases h
  | case2 seen high s =>
    obtain ⟨l', rfl, rfl⟩ := exists_of_ofText_char hl
    rw [unpaired_loose] at h
    obtain ⟨ho, rfl⟩ := Taken.mk.inj (Except.ok.inj h)
    refine ⟨[], l', rfl, rfl, .nil, fun text htext => ?_⟩
    obtain ⟨before, hbefore, rfl⟩ := Option.map_eq_some_iff.1 (ho.trans htext)
    obtain ⟨rfl, hseen⟩ := hp.closed hbefore
    exact ⟨before, [], hseen, by simp, .nil⟩
  | case5 seen high _ _ _ _ s n hn ih =>
    obtain ⟨l₁, rfl, h₁⟩ := exists_of_ofText_char hl
    obtain ⟨l₂, rfl, h₂⟩ := exists_of_ofText_char h₁
    obtain ⟨a, l₃, rfl, rfl, h₃⟩ := exists_of_ofText h₂
    obtain ⟨b, l₄, rfl, rfl, h₄⟩ := exists_of_ofText h₃
    obtain ⟨c, l₅, rfl, rfl, h₅⟩ := exists_of_ofText h₄
    obtain ⟨d, l₆, rfl, rfl, h₆⟩ := exists_of_ofText h₅
    have hdigits := fourDigits_of_hex₄? hn
    obtain ⟨r, p', hr, hopen, hadds⟩ := @addUnit_adds seen high p n _ hp hdigits
    rw [hr] at h
    exact (ih r h h₆ hopen).before (.unit hdigits) hadds
  | case8 seen high e s _ _ c hc ih =>
    obtain ⟨l₁, rfl, h₁⟩ := exists_of_ofText_char hl
    obtain ⟨l₂, rfl, h₂⟩ := exists_of_ofText_char h₁
    have hmem := mem_shortEscapes hc
    rw [unpaired_loose] at h
    have hadds : Adds ['\\', e] seen p _ [] := .char hp (.short hmem)
    exact (ih _ h h₂ .shut).before (.short hmem) hadds
  | case11 seen high c s hquote hend _ hunit hshort hbroken hcontrol ih =>
    obtain ⟨l', rfl, hl'⟩ := exists_of_ofText_char hl
    have hescape : c ≠ '\\' := by
      rintro rfl
      rcases s with _ | ⟨_ | _, s⟩
      · exact hend rfl rfl
      · exact hshort _ _ rfl rfl
      · exact hbroken _ _ rfl rfl
    have hcontrol : 0x20 ≤ c.toNat := Nat.le_of_not_lt hcontrol
    rw [unpaired_loose] at h
    have hadds : Adds [c] seen p _ [] := .char hp (.plain hcontrol hquote hescape)
    exact (ih _ h hl' .shut).before (.plain hcontrol hquote hescape) hadds
  | case12 =>
    obtain ⟨c, l', rfl, hc, -⟩ := exists_of_ofText hl
    cases hc

/-- The loose reader does not stop at what denotes nothing. -/
theorem stringFrom_spells {w : List Char} (h : Spells w) (seen : Seen) (high : Option Nat) (s : Input) :
    ∃ o, stringFrom false seen high (Piece.ofText w ++ .char '"' :: s) = .ok ⟨o, s⟩ := by
  induction h generalizing seen high with
  | nil =>
    have hclose : stringFrom false seen high (.char '"' :: s) =
        .ok ⟨(if high.isNone then seen else none).map fun l => String.ofList l.reverse, s⟩ := by
      rw [stringFrom, unpaired_loose]
      rfl
    exact ⟨_, hclose⟩
  | @plain c w hcontrol hquote hescape _ ih =>
    obtain ⟨o, ho⟩ := ih ((if high.isNone then seen else none).map (c :: ·)) none
    refine ⟨o, ?_⟩
    change stringFrom false seen high (.char c :: (Piece.ofText w ++ .char '"' :: s)) = _
    rw [stringFrom_plain hcontrol hquote hescape, unpaired_loose]
    exact ho
  | @short e c w hc _ ih =>
    obtain ⟨o, ho⟩ := ih ((if high.isNone then seen else none).map (c :: ·)) none
    refine ⟨o, ?_⟩
    change stringFrom false seen high (.char '\\' :: .char e :: (Piece.ofText w ++ .char '"' :: s)) = _
    rw [stringFrom_short hc, unpaired_loose]
    exact ho
  | @unit n digits w hdigits _ ih =>
    obtain ⟨r, hr⟩ := @addUnit_loose seen high n
    obtain ⟨o, ho⟩ := ih r.1 r.2
    refine ⟨o, ?_⟩
    change stringFrom false seen high
      (.char '\\' :: .char 'u' :: (Piece.ofText (digits ++ w) ++ .char '"' :: s)) = _
    rw [ofText_append, List.append_assoc, stringFrom_unit hdigits, hr]
    exact ho

/-- **The loose reader takes off what spells a string**, with the text that it denotes. -/
theorem stringText_eq_ok_iff {l : List Char} {o : Option String} {rest : Input} :
    stringText false (Piece.ofText l) = .ok ⟨o, rest⟩ ↔
      ∃ w l', l = w ++ '"' :: l' ∧ rest = Piece.ofText l' ∧ Literal w o := by
  have hdenotes {w s : List Char} (h : Denotes w s) (l' : List Char) :
      stringText false (Piece.ofText (w ++ '"' :: l')) = .ok ⟨some (String.ofList s), Piece.ofText l'⟩ := by
    rw [ofText_append]
    exact stringFrom_of_denotes h []
  constructor
  · intro h
    obtain ⟨w, l', rfl, rfl, hw, htext⟩ := stringFrom_sound h rfl .shut
    refine ⟨w, l', rfl, rfl, ?_⟩
    cases o with
    | some text =>
      obtain ⟨before, t, hbefore, rfl, ht⟩ := htext text rfl
      obtain rfl := Option.some.inj hbefore
      exact .text ht
    | none =>
      refine .broken hw fun s hs => ?_
      rw [hdenotes hs l'] at h
      cases h
  · rintro ⟨w, l', rfl, rfl, h⟩
    cases h with
    | text h => exact hdenotes h l'
    | broken h hno =>
      obtain ⟨o, ho⟩ := stringFrom_spells h (some []) none (Piece.ofText l')
      have hread : stringText false (Piece.ofText (w ++ '"' :: l')) = .ok ⟨o, Piece.ofText l'⟩ := by
        rw [ofText_append]
        exact ho
      cases o with
      | none => exact hread
      | some text =>
        obtain ⟨w', l'', hsame, hrest, -, htext⟩ := stringFrom_sound hread rfl .shut
        obtain rfl := ofText_injective hrest
        obtain rfl := List.append_cancel_right hsame
        obtain ⟨_, t, -, -, ht⟩ := htext text rfl
        exact absurd ht (hno t)

end FlakeImage.Json
