import Mathlib
import FlakeImage.Json.Reader

/-!
# Strings in JSON text

`Denotes` is the grammar of what stands between the quotes of a JSON string, with the text that it denotes: any
character may be written as itself, but for a few, or by an escape. The reader reads every such string as its
text (`stringFrom_of_denotes`). `WritesText` is the grammar of a line that holds an object with one text member.
-/

namespace FlakeImage.Json

open Utf8 (Piece)

/-! ### The grammar -/

/-- A digit of base sixteen with its value: the letters may be small or capital. -/
def HexDigit (c : Char) (n : Nat) : Prop := n < 16 ∧ (c = Nat.digitChar n ∨ c = (Nat.digitChar n).toUpper)

/-- Four digits of base sixteen that write a number. -/
inductive FourDigits : List Char → Nat → Prop
  | mk {a b c d : Char} {k l m n : Nat} (ha : HexDigit a k) (hb : HexDigit b l) (hc : HexDigit c m)
    (hd : HexDigit d n) : FourDigits [a, b, c, d] (k * 16 ^ 3 + l * 16 ^ 2 + m * 16 + n)

/-- The characters that one letter escapes, after the letters. -/
def shortEscapes : List (Char × Char) :=
  [('"', '"'), ('\\', '\\'), ('/', '/'), ('b', '\x08'), ('f', '\x0c'), ('n', '\n'), ('r', '\r'), ('t', '\t')]

/-- What may stand between the quotes of a string, and the text that it denotes. A character beyond four digits
is escaped by a surrogate pair. -/
inductive Denotes : List Char → List Char → Prop
  | nil : Denotes [] []
  | plain {c : Char} {w s : List Char} (hcontrol : 0x20 ≤ c.toNat) (hquote : c ≠ '"') (hescape : c ≠ '\\')
    (h : Denotes w s) : Denotes (c :: w) (c :: s)
  | short {e c : Char} {w s : List Char} (hc : (e, c) ∈ shortEscapes) (h : Denotes w s) :
    Denotes ('\\' :: e :: w) (c :: s)
  | unit {c : Char} {digits w s : List Char} (hdigits : FourDigits digits c.toNat) (h : Denotes w s) :
    Denotes ('\\' :: 'u' :: (digits ++ w)) (c :: s)
  | pair {c : Char} {high low w s : List Char} (hc : 0x10000 ≤ c.toNat)
    (hhigh : FourDigits high (0xD800 + (c.toNat - 0x10000) / 0x400))
    (hlow : FourDigits low (0xDC00 + (c.toNat - 0x10000) % 0x400)) (h : Denotes w s) :
    Denotes ('\\' :: 'u' :: (high ++ '\\' :: 'u' :: (low ++ w))) (c :: s)

/-- Characters that need no escape may be written as themselves. -/
theorem Denotes.append {p w s : List Char} (hp : ∀ c ∈ p, 0x20 ≤ c.toNat ∧ c ≠ '"' ∧ c ≠ '\\')
    (h : Denotes w s) : Denotes (p ++ w) (p ++ s) := by
  induction p with
  | nil => exact h
  | cons c p ih =>
    obtain ⟨⟨hcontrol, hquote, hescape⟩, hp⟩ := List.forall_mem_cons.1 hp
    exact .plain hcontrol hquote hescape (ih hp)

theorem Denotes.self {s : List Char} (h : ∀ c ∈ s, 0x20 ≤ c.toNat ∧ c ≠ '"' ∧ c ≠ '\\') : Denotes s s := by
  have hs := Denotes.append h .nil
  rwa [List.append_nil] at hs

/-! ### Characters of a string -/

theorem HexDigit.printable {c : Char} {n : Nat} (h : HexDigit c n) : 0x20 ≤ c.toNat := by
  obtain ⟨hn, rfl | rfl⟩ := h
  · interval_cases n <;> decide
  · interval_cases n <;> decide

theorem FourDigits.printable {digits : List Char} {n : Nat} (h : FourDigits digits n) :
    ∀ c ∈ digits, 0x20 ≤ c.toNat := by
  obtain ⟨ha, hb, hc, hd⟩ := h
  simp only [List.forall_mem_cons]
  exact ⟨ha.printable, hb.printable, hc.printable, hd.printable, nofun⟩

theorem Denotes.printable {w s : List Char} (h : Denotes w s) : ∀ c ∈ w, 0x20 ≤ c.toNat := by
  induction h with
  | nil => nofun
  | plain hcontrol _ _ _ ih => exact List.forall_mem_cons.2 ⟨hcontrol, ih⟩
  | @short e c w s hc _ ih =>
    have he : ∀ x ∈ shortEscapes, 0x20 ≤ x.1.toNat := by decide
    exact List.forall_mem_cons.2 ⟨by decide, List.forall_mem_cons.2 ⟨he _ hc, ih⟩⟩
  | unit hdigits _ ih =>
    exact List.forall_mem_cons.2 ⟨by decide, List.forall_mem_cons.2 ⟨by decide,
      List.forall_mem_append.2 ⟨hdigits.printable, ih⟩⟩⟩
  | pair _ hhigh hlow _ ih =>
    refine List.forall_mem_cons.2 ⟨by decide, List.forall_mem_cons.2 ⟨by decide,
      List.forall_mem_append.2 ⟨hhigh.printable, ?_⟩⟩⟩
    exact List.forall_mem_cons.2 ⟨by decide, List.forall_mem_cons.2 ⟨by decide,
      List.forall_mem_append.2 ⟨hlow.printable, ih⟩⟩⟩

/-! ### Escapes -/

/-- What holds of the characters with numbers in a range holds of the characters in it. -/
theorem forall_of_range {P : Char → Prop} (low high : Char)
    (h : ∀ k, low.toNat ≤ k → k ≤ high.toNat → P (Char.ofNat k)) {c : Char} (hlow : low ≤ c) (hhigh : c ≤ high) :
    P c := by
  have hc := h c.toNat hlow hhigh
  rwa [Char.ofNat_toNat] at hc

theorem hexDigit?_of_hexDigit {c : Char} {n : Nat} (h : HexDigit c n) : hexDigit? c = some n := by
  obtain ⟨hn, rfl | rfl⟩ := h
  · interval_cases n <;> rfl
  · interval_cases n <;> rfl

/-- Four digits that write a number are characters that `hex₄?` reads as this number. -/
theorem FourDigits.exists_hex {digits : List Char} {n : Nat} (h : FourDigits digits n) :
    ∃ a b c d, digits = [a, b, c, d] ∧ hex₄? (.char a) (.char b) (.char c) (.char d) = some n := by
  obtain ⟨ha, hb, hc, hd⟩ := h
  refine ⟨_, _, _, _, rfl, ?_⟩
  simp only [hex₄?, hexDigit?_of_hexDigit ha, hexDigit?_of_hexDigit hb, hexDigit?_of_hexDigit hc,
    hexDigit?_of_hexDigit hd, Option.bind_eq_bind, Option.bind_some, Option.some.injEq]
  omega

theorem simpleEscape?_of_mem {e c : Char} (h : (e, c) ∈ shortEscapes) :
    e ≠ 'u' ∧ simpleEscape? e = some c := by
  simp only [shortEscapes, List.mem_cons, Prod.mk.injEq, List.not_mem_nil, or_false] at h
  rcases h with ⟨rfl, rfl⟩ | ⟨rfl, rfl⟩ | ⟨rfl, rfl⟩ | ⟨rfl, rfl⟩ | ⟨rfl, rfl⟩ | ⟨rfl, rfl⟩ |
    ⟨rfl, rfl⟩ | ⟨rfl, rfl⟩ <;> exact ⟨by decide, rfl⟩

/-! ### The reader of a string -/

section Reader
variable {strict : Bool} {seen : List Char} {before : Seen} {high : Option Nat} {s : Input}

theorem stringFrom_close : stringFrom strict (some seen) none (.char '"' :: s) =
    .ok ⟨some (String.ofList seen.reverse), s⟩ := by
  rw [stringFrom]
  cases strict <;> rfl

theorem stringFrom_plain {c : Char} (hcontrol : 0x20 ≤ c.toNat) (hquote : c ≠ '"') (hescape : c ≠ '\\') :
    stringFrom strict before high (.char c :: s) =
      (unpaired strict before high).bind fun seen => stringFrom strict (seen.map (c :: ·)) none s := by
  rw [stringFrom.eq_8 _ _ _ _ _ hquote (fun _ => hescape) (fun _ _ _ _ _ _ => hescape)
    (fun _ _ => hescape) (fun _ _ _ => hescape) (fun _ _ _ => hescape), if_neg (Nat.not_lt.2 hcontrol)]
  rfl

theorem stringFrom_short {e c : Char} (hc : (e, c) ∈ shortEscapes) :
    stringFrom strict before high (.char '\\' :: .char e :: s) =
      (unpaired strict before high).bind fun seen => stringFrom strict (seen.map (c :: ·)) none s := by
  obtain ⟨hu, he⟩ := simpleEscape?_of_mem hc
  rw [stringFrom.eq_6 _ _ _ _ _ (fun _ _ _ _ _ _ => hu) hu, he]
  rfl

/-- An escape with four digits is one unit. -/
theorem stringFrom_unit {digits : List Char} {n : Nat} (h : FourDigits digits n) :
    stringFrom strict before high (.char '\\' :: .char 'u' :: (Piece.ofText digits ++ s)) =
      (addUnit strict before high n).bind fun r => stringFrom strict r.1 r.2 s := by
  obtain ⟨a, b, c, d, rfl, hn⟩ := h.exists_hex
  change stringFrom strict before high
    (.char '\\' :: .char 'u' :: .char a :: .char b :: .char c :: .char d :: s) = _
  rw [stringFrom, hn]
  rfl

/-- A unit that is no half of a pair is a character. -/
theorem addUnit_char (c : Char) : addUnit strict (some seen) none c.toNat = .ok (some (c :: seen), none) := by
  have hvalid : c.toNat < 0xD800 ∨ 0xDFFF < c.toNat ∧ c.toNat < 0x110000 := c.valid
  have hhigh : isHighSurrogate c.toNat = false := by
    simp only [isHighSurrogate, Bool.and_eq_false_iff, decide_eq_false_iff_not]
    omega
  have hlow : isLowSurrogate c.toNat = false := by
    simp only [isLowSurrogate, Bool.and_eq_false_iff, decide_eq_false_iff_not]
    omega
  simp [addUnit, addSingle, hhigh, hlow, Char.ofNat_toNat]

/-- The two halves of a pair are a character. -/
theorem addUnit_pair {c : Char} (hc : 0x10000 ≤ c.toNat) :
    addUnit strict (some seen) none (0xD800 + (c.toNat - 0x10000) / 0x400) =
        .ok (some seen, some (0xD800 + (c.toNat - 0x10000) / 0x400)) ∧
      addUnit strict (some seen) (some (0xD800 + (c.toNat - 0x10000) / 0x400))
        (0xDC00 + (c.toNat - 0x10000) % 0x400) = .ok (some (c :: seen), none) := by
  have hvalid : c.toNat < 0xD800 ∨ 0xDFFF < c.toNat ∧ c.toNat < 0x110000 := c.valid
  have hhigh : isHighSurrogate (0xD800 + (c.toNat - 0x10000) / 0x400) = true := by
    simp only [isHighSurrogate, Bool.and_eq_true, decide_eq_true_eq]
    omega
  have hlow : isLowSurrogate (0xDC00 + (c.toNat - 0x10000) % 0x400) = true := by
    simp only [isLowSurrogate, Bool.and_eq_true, decide_eq_true_eq]
    omega
  have hnumber : (0xD800 + (c.toNat - 0x10000) / 0x400 - 0xD800) * 1024 +
      (0xDC00 + (c.toNat - 0x10000) % 0x400 - 0xDC00) + 0x10000 = c.toNat := by omega
  constructor
  · simp only [addUnit, addSingle, hhigh, if_true]
  · simp only [addUnit, hlow, if_true, ofSurrogates, hnumber, Char.ofNat_toNat, Option.map_some]

theorem ofText_append (a b : List Char) : Piece.ofText (a ++ b) = Piece.ofText a ++ Piece.ofText b :=
  List.map_append

theorem ofText_cons (c : Char) (s : List Char) : Piece.ofText (c :: s) = .char c :: Piece.ofText s := rfl

theorem ofText_injective {l l' : List Char} (h : Piece.ofText l = Piece.ofText l') : l = l' :=
  List.map_injective_iff.2 (fun _ _ => Piece.char.inj) h

theorem exists_of_ofText {l : List Char} {p : Piece} {s : Input} (h : Piece.ofText l = p :: s) :
    ∃ c l', l = c :: l' ∧ p = .char c ∧ Piece.ofText l' = s := by
  cases l with
  | nil => cases h
  | cons c l' =>
    obtain ⟨rfl, rfl⟩ := List.cons.inj h
    exact ⟨c, l', rfl, rfl, rfl⟩

theorem exists_of_ofText_char {l : List Char} {c : Char} {s : Input} (h : Piece.ofText l = .char c :: s) :
    ∃ l', l = c :: l' ∧ Piece.ofText l' = s := by
  obtain ⟨_, l', rfl, hc, hl'⟩ := exists_of_ofText h
  obtain rfl := Piece.char.inj hc
  exact ⟨l', rfl, hl'⟩

/-- **A string is read as the text that it denotes.** -/
theorem stringFrom_of_denotes {w text : List Char} (h : Denotes w text) (seen : List Char) :
    stringFrom strict (some seen) none (Piece.ofText w ++ .char '"' :: s) =
      .ok ⟨some (String.ofList (seen.reverse ++ text)), s⟩ := by
  induction h generalizing seen with
  | nil => rw [List.append_nil]; exact stringFrom_close
  | @plain c w text hcontrol hquote hescape h ih =>
    have hread := ih (c :: seen)
    rw [List.reverse_cons, List.append_assoc] at hread
    exact (stringFrom_plain hcontrol hquote hescape).trans hread
  | @short e c w text hc h ih =>
    have hread := ih (c :: seen)
    rw [List.reverse_cons, List.append_assoc] at hread
    exact (stringFrom_short hc).trans hread
  | @unit c digits w text hdigits h ih =>
    have hread := ih (c :: seen)
    rw [List.reverse_cons, List.append_assoc] at hread
    change stringFrom strict (some seen) none
      (.char '\\' :: .char 'u' :: (Piece.ofText (digits ++ w) ++ .char '"' :: s)) = _
    rw [ofText_append, List.append_assoc, stringFrom_unit hdigits, addUnit_char]
    exact hread
  | @pair c high low w text hc hhigh hlow h ih =>
    have hread := ih (c :: seen)
    rw [List.reverse_cons, List.append_assoc] at hread
    obtain ⟨hfirst, hsecond⟩ := @addUnit_pair strict seen c hc
    change stringFrom strict (some seen) none
      (.char '\\' :: .char 'u' :: (Piece.ofText (high ++ '\\' :: 'u' :: (low ++ w)) ++ .char '"' :: s)) = _
    rw [ofText_append, List.append_assoc, stringFrom_unit hhigh, hfirst]
    change stringFrom strict (some seen) (some (0xD800 + (c.toNat - 0x10000) / 0x400))
      (.char '\\' :: .char 'u' :: (Piece.ofText (low ++ w) ++ .char '"' :: s)) = _
    rw [ofText_append, List.append_assoc, stringFrom_unit hlow, hsecond]
    exact hread

end Reader

/-! ### Objects with one member -/

/-- Spaces and tabs. -/
def IsGap (s : List Char) : Prop := ∀ c ∈ s, c = ' ' ∨ c = '\t'

/-- A line that holds an object with one member, a text; there may be gaps at its ends and between its parts. -/
inductive WritesText (name : List Char) (text : List Char) : List Char → Prop
  | mk {g₁ g₂ g₃ g₄ g₅ g₆ written : List Char} (h₁ : IsGap g₁) (h₂ : IsGap g₂) (h₃ : IsGap g₃) (h₄ : IsGap g₄)
    (h₅ : IsGap g₅) (h₆ : IsGap g₆) (htext : Denotes written text) :
    WritesText name text (g₁ ++ '\x7b' :: (g₂ ++ '"' :: (name ++ '"' :: (g₃ ++ ':' ::
      (g₄ ++ '"' :: (written ++ '"' :: (g₅ ++ '\x7d' :: g₆)))))))

theorem IsGap.not_mem {g : List Char} (h : IsGap g) {c : Char} (hspace : c ≠ ' ') (htab : c ≠ '\t') : c ∉ g :=
  fun hc => (h c hc).elim hspace htab

theorem WritesText.lineFeed_not_mem {name text line : List Char} (hname : '\n' ∉ name)
    (h : WritesText name text line) : '\n' ∉ line := by
  obtain ⟨h₁, h₂, h₃, h₄, h₅, h₆, htext⟩ := h
  have hgap {g : List Char} (h : IsGap g) : '\n' ∉ g := h.not_mem (by decide) (by decide)
  have hwritten := mt (htext.printable '\n') (by decide)
  simp [hgap h₁, hgap h₂, hgap h₃, hgap h₄, hgap h₅, hgap h₆, hname, hwritten]

theorem WritesText.getLast?_ne {name text line : List Char} (h : WritesText name text line) :
    line.getLast? ≠ some '\r' := by
  obtain @⟨g₁, g₂, g₃, g₄, g₅, g₆, written, -, -, -, -, -, h₆, -⟩ := h
  have hend : '\r' ∉ '\x7d' :: g₆ := List.not_mem_cons_of_ne_of_not_mem (by decide)
    (h₆.not_mem (by decide) (by decide))
  intro hlast
  rw [show g₁ ++ '\x7b' :: (g₂ ++ '"' :: (name ++ '"' :: (g₃ ++ ':' :: (g₄ ++ '"' :: (written ++ '"' ::
      (g₅ ++ '\x7d' :: g₆)))))) = (g₁ ++ '\x7b' :: (g₂ ++ '"' :: (name ++ '"' :: (g₃ ++ ':' :: (g₄ ++ '"' ::
        (written ++ '"' :: g₅)))))) ++ '\x7d' :: g₆ by simp, List.getLast?_append_cons] at hlast
  exact hend (List.mem_of_getLast? hlast)

end FlakeImage.Json
