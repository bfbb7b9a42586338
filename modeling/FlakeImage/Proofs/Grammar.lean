import FlakeImage.Proofs.Numeral
import FlakeImage.Proofs.Spelling

/-!
# The grammar of JSON text

`Writes` is the grammar of JSON: which text writes which tree. The loose reader is exact for it
(`readLoose_eq_ok_iff`): it reads a text as a tree if and only if the text writes this tree.
-/

namespace FlakeImage.Json

open Utf8 (Piece)

/-! ### The grammar -/

/-- White space. -/
def Blank (s : List Char) : Prop := ∀ c ∈ s, isSpace c = true

/-- A part of a text. -/
inductive Part
  | value (t : Tree)
  /-- A value with the white space around it. -/
  | element (t : Tree)
  | elements (items : List Tree)
  | member (m : Option String × Tree)
  | members (members : List (Option String × Tree))

/-- How the parts of a text are written. -/
inductive Writes : Part → List Char → Prop
  | null : Writes (.value .null) ['n', 'u', 'l', 'l']
  | true : Writes (.value (.bool true)) ['t', 'r', 'u', 'e']
  | false : Writes (.value (.bool false)) ['f', 'a', 'l', 's', 'e']
  | positive {t : NumberText} {w : List Char} (hsign : t.negative = Bool.false) (h : Magnitude t w) :
    Writes (.value (.number t.num?)) w
  | negative {t : NumberText} {w : List Char} (hsign : t.negative = Bool.true) (h : Magnitude t w) :
    Writes (.value (.number t.num?)) ('-' :: w)
  | string {s : Option String} {w : List Char} (h : Literal w s) : Writes (.value (.string s)) ('"' :: (w ++ ['"']))
  | noItems {b : List Char} (hb : Blank b) : Writes (.value (.array [])) ('[' :: (b ++ [']']))
  | array {items : List Tree} {w : List Char} (h : Writes (.elements items) w) :
    Writes (.value (.array items)) ('[' :: (w ++ [']']))
  | noMembers {b : List Char} (hb : Blank b) : Writes (.value (.object [])) ('\x7b' :: (b ++ ['\x7d']))
  | object {members : List (Option String × Tree)} {w : List Char} (h : Writes (.members members) w) :
    Writes (.value (.object members)) ('\x7b' :: (w ++ ['\x7d']))
  | element {t : Tree} {b w b' : List Char} (hb : Blank b) (h : Writes (.value t) w) (hb' : Blank b') :
    Writes (.element t) (b ++ (w ++ b'))
  | lastElement {t : Tree} {w : List Char} (h : Writes (.element t) w) : Writes (.elements [t]) w
  | nextElement {t : Tree} {items : List Tree} {w w' : List Char} (h : Writes (.element t) w)
    (hitems : Writes (.elements items) w') : Writes (.elements (t :: items)) (w ++ ',' :: w')
  | member {name : Option String} {t : Tree} {b n b' w : List Char} (hb : Blank b) (hname : Literal n name)
    (hb' : Blank b') (h : Writes (.element t) w) :
    Writes (.member (name, t)) (b ++ '"' :: (n ++ '"' :: (b' ++ ':' :: w)))
  | lastMember {m : Option String × Tree} {w : List Char} (h : Writes (.member m) w) : Writes (.members [m]) w
  | nextMember {m : Option String × Tree} {members : List (Option String × Tree)} {w w' : List Char}
    (h : Writes (.member m) w) (hmembers : Writes (.members members) w') :
    Writes (.members (m :: members)) (w ++ ',' :: w')

/-- How many values or members a part has. -/
def Part.count : Part → Nat
  | .value _ | .element _ | .member _ => 1
  | .elements l => l.length
  | .members l => l.length

theorem Magnitude.length_pos {t : NumberText} {w : List Char} (h : Magnitude t w) : 0 < w.length := by
  obtain ⟨hne, -, hwhole, -, -⟩ := h
  cases hwhole with
  | nil => exact absurd rfl hne
  | cons => simp

theorem Writes.count_le {p : Part} {w : List Char} (h : Writes p w) : p.count ≤ w.length := by
  induction h with
  | positive _ h => exact Nat.succ_le_of_lt h.length_pos
  | element _ _ _ ih => simp only [Part.count, List.length_append] at ih ⊢; omega
  | lastElement _ ih | lastMember _ ih => exact ih
  | nextElement _ _ ih ih' | nextMember _ _ ih ih' =>
    simp only [Part.count, List.length_append, List.length_cons] at ih ih' ⊢; omega
  | member => simp only [Part.count, List.length_append, List.length_cons]; omega
  | _ => simp [Part.count]

/-! ### White space -/

theorem Blank.nil : Blank [] := nofun

theorem skipSpace_blank {b : List Char} (h : Blank b) (l : List Char) :
    skipSpace (Piece.ofText (b ++ l)) = skipSpace (Piece.ofText l) := by
  induction b with
  | nil => rfl
  | cons c b ih =>
    obtain ⟨hc, hb⟩ := List.forall_mem_cons.1 h
    change (if isSpace c then skipSpace (Piece.ofText (b ++ l)) else _) = _
    rw [if_pos hc, ih hb]

theorem skipSpace_idem (s : Input) : skipSpace (skipSpace s) = skipSpace s := by
  induction s with
  | nil => rfl
  | cons p s ih =>
    cases p with
    | char c =>
      rw [skipSpace]
      split
      · exact ih
      · next hc => rw [skipSpace, if_neg hc]
    | broken b => rfl

theorem exists_blank (l : List Char) :
    ∃ b l', l = b ++ l' ∧ Blank b ∧ skipSpace (Piece.ofText l) = Piece.ofText l' := by
  refine ⟨l.takeWhile isSpace, l.dropWhile isSpace, List.takeWhile_append_dropWhile.symm, ?_, skipSpace_ofText l⟩
  exact fun c hc => List.mem_takeWhile_imp hc

theorem valueWith_skipSpace {strict : Bool} {room : Nat} {inner : Option ItemReader} (s : Input) :
    valueWith strict room inner (skipSpace s) = valueWith strict room inner s := by
  unfold valueWith
  rw [skipSpace_idem]

theorem expect_append (w l : List Char) : expect w (Piece.ofText (w ++ l)) = .ok (Piece.ofText l) := by
  induction w with
  | nil => rfl
  | cons c w ih =>
    change (if c = c then expect w (Piece.ofText (w ++ l)) else .error .malformed) = _
    rw [if_pos rfl, ih]

theorem expect_sound {w : List Char} {l : List Char} {rest : Input} (h : expect w (Piece.ofText l) = .ok rest) :
    ∃ l', l = w ++ l' ∧ rest = Piece.ofText l' := by
  induction w generalizing l with
  | nil => exact ⟨l, rfl, (Except.ok.inj h).symm⟩
  | cons c w ih =>
    cases l with
    | nil => cases h
    | cons d l =>
      rw [ofText_cons, expect] at h
      split at h
      · next hc =>
        subst hc
        obtain ⟨l', rfl, hrest⟩ := ih h
        exact ⟨l', rfl, hrest⟩
      · cases h

/-! ### What is written is read -/

theorem Stops.of_char {c : Char} (hc : Number.digit? c = none) (hpoint : c ≠ '.') (hsmall : c ≠ 'e')
    (hcapital : c ≠ 'E') (s : Input) : Stops (.char c :: s) where
  digit := noDigit_cons hc s
  point _ h := hpoint (Piece.char.inj (List.cons.inj h).1)
  small _ h := hsmall (Piece.char.inj (List.cons.inj h).1)
  capital _ h := hcapital (Piece.char.inj (List.cons.inj h).1)

theorem Stops.nil : Stops [] := ⟨nofun, nofun, nofun, nofun⟩

theorem Stops.blank {b l : List Char} (hb : Blank b) (hl : Stops (Piece.ofText l)) : Stops (Piece.ofText (b ++ l)) := by
  cases b with
  | nil => exact hl
  | cons c b =>
    have hc := hb c List.mem_cons_self
    simp only [isSpace, Bool.or_eq_true, beq_iff_eq] at hc
    rcases hc with ((rfl | rfl) | rfl) | rfl
    all_goals exact .of_char rfl (by decide) (by decide) (by decide) _

/-- A part is read as it is written where the text does not go on with a number. -/
def Reads (room depth : Nat) (w : List Char) : Part → Prop
  | .value t => ∀ r, Stops (Piece.ofText r) →
    valueWithin false room depth (Piece.ofText (w ++ r)) = .ok ⟨t, Piece.ofText r⟩
  | .element t => ∀ r, Stops (Piece.ofText r) → ∃ rest,
    valueWithin false room depth (Piece.ofText (w ++ r)) = .ok ⟨t, rest⟩ ∧ skipSpace rest = skipSpace (Piece.ofText r)
  | .elements l => ∀ n, l.length ≤ n → ∀ r,
    itemsFrom (valueWithin false room depth) n (Piece.ofText (w ++ ']' :: r)) = .ok ⟨l, Piece.ofText r⟩
  | .member m => ∀ r, Stops (Piece.ofText r) → ∃ s rest, skipSpace (Piece.ofText (w ++ r)) = .char '"' :: s ∧
    member false (valueWithin false room depth) s = .ok ⟨m, rest⟩ ∧ skipSpace rest = skipSpace (Piece.ofText r)
  | .members l => ∀ n, l.length ≤ n → ∀ r, ∃ s, skipSpace (Piece.ofText (w ++ '\x7d' :: r)) = .char '"' :: s ∧
    membersFrom false (valueWithin false room depth) n s = .ok ⟨l, Piece.ofText r⟩

theorem exists_valueWithin (strict : Bool) (room depth : Nat) :
    ∃ inner, valueWithin strict room depth = valueWith strict room inner := by
  cases depth with
  | zero => exact ⟨none, rfl⟩
  | succ depth => exact ⟨some (valueWithin strict room depth), rfl⟩

section Written
variable {room depth : Nat} {r : List Char}

theorem valueWithin_skipSpace (s : Input) :
    valueWithin false room depth (skipSpace s) = valueWithin false room depth s := by
  obtain ⟨inner, hinner⟩ := exists_valueWithin false room depth
  rw [hinner, valueWith_skipSpace]

theorem itemsFrom_skipSpace (n : Nat) (s : Input) :
    itemsFrom (valueWithin false room depth) n (skipSpace s) = itemsFrom (valueWithin false room depth) n s := by
  cases n with
  | zero => rfl
  | succ n => rw [itemsFrom, itemsFrom, valueWithin_skipSpace]

section Value
variable {inner : Option ItemReader}

theorem valueWith_digit {d : Nat} (hd : d < 10) (s : Input) :
    valueWith false room inner (.char (Nat.digitChar d) :: s) =
      numberTree false false (.char (Nat.digitChar d) :: s) := by
  interval_cases d <;> rfl

theorem numberTree_written {t : NumberText} {w : List Char} (h : Magnitude t w) (hr : Stops (Piece.ofText r)) :
    numberTree false t.negative (Piece.ofText (w ++ r)) = .ok ⟨.number t.num?, Piece.ofText r⟩ := by
  simp only [numberTree, ofText_append, numberText_written h hr, bind, Except.bind]

theorem Magnitude.exists_digit {t : NumberText} {w : List Char} (h : Magnitude t w) :
    ∃ d w', d < 10 ∧ w = Nat.digitChar d :: w' := by
  obtain ⟨hne, -, hwhole, -, -⟩ := h
  cases hwhole with
  | nil => exact absurd rfl hne
  | cons hd h => exact ⟨_, _, hd, rfl⟩

theorem valueWith_positive {t : NumberText} {w : List Char} (hsign : t.negative = false) (h : Magnitude t w)
    (hr : Stops (Piece.ofText r)) :
    valueWith false room inner (Piece.ofText (w ++ r)) = .ok ⟨.number t.num?, Piece.ofText r⟩ := by
  have htree := numberTree_written h hr
  obtain ⟨d, w, hd, rfl⟩ := h.exists_digit
  rw [hsign] at htree
  exact (valueWith_digit hd _).trans htree

theorem valueWith_negative {t : NumberText} {w : List Char} (hsign : t.negative = true) (h : Magnitude t w)
    (hr : Stops (Piece.ofText r)) :
    valueWith false room inner (Piece.ofText ('-' :: (w ++ r))) = .ok ⟨.number t.num?, Piece.ofText r⟩ := by
  have htree := numberTree_written h hr
  rw [hsign] at htree
  exact htree

theorem stringText_written {s : Option String} {w : List Char} (h : Literal w s) (r : List Char) :
    stringText false (Piece.ofText (w ++ '"' :: r)) = .ok ⟨s, Piece.ofText r⟩ :=
  stringText_eq_ok_iff.2 ⟨w, r, rfl, rfl, h⟩

theorem valueWith_stringLiteral {s : Option String} {w : List Char} (h : Literal w s) (r : List Char) :
    valueWith false room inner (Piece.ofText ('"' :: (w ++ '"' :: r))) = .ok ⟨.string s, Piece.ofText r⟩ := by
  change (stringText false (Piece.ofText (w ++ '"' :: r))).map (·.map Tree.string) = _
  rw [stringText_written h]
  rfl

end Value

/-- A value without items and members is read whatever reads those. -/
theorem reads_value {t : Tree} {w : List Char}
    (h : ∀ inner r, Stops (Piece.ofText r) →
      valueWith false room inner (Piece.ofText (w ++ r)) = .ok ⟨t, Piece.ofText r⟩) :
    Reads room depth w (.value t) := by
  intro r hr
  obtain ⟨inner, hinner⟩ := exists_valueWithin false room depth
  rw [hinner]
  exact h inner r hr

theorem reads_word {t : Tree} {c : Char} {w : List Char}
    (h : ∀ inner l, valueWith false room inner (Piece.ofText (c :: l)) =
      (expect w (Piece.ofText l)).map fun s => ⟨t, s⟩) : Reads room depth (c :: w) (.value t) := by
  refine reads_value fun inner r _ => ?_
  rw [List.cons_append, h, expect_append]
  rfl

/-! #### Arrays -/

theorem items_eq_of_itemsFrom {n : Nat} {s rest : Input} {l : List Tree}
    (h : itemsFrom (valueWithin false room depth) n s = .ok ⟨l, rest⟩) :
    items n (valueWithin false room depth) s = .ok ⟨l, rest⟩ := by
  obtain ⟨inner, hinner⟩ := exists_valueWithin false room depth
  rw [← itemsFrom_skipSpace] at h
  unfold items
  split
  · next hs =>
    rw [hs, hinner] at h
    cases n <;> cases h
  · next s' hs =>
    rw [hs, hinner] at h
    cases n <;> cases h
  · exact h

theorem reads_array {l : List Tree} {w : List Char}
    (h : ∀ r, items room (valueWithin false room depth) (Piece.ofText (w ++ ']' :: r)) = .ok ⟨l, Piece.ofText r⟩) :
    Reads room (depth + 1) ('[' :: (w ++ [']'])) (.value (.array l)) := by
  intro r _
  simp only [List.cons_append, List.append_assoc, List.nil_append]
  change (items room (valueWithin false room depth) (Piece.ofText (w ++ ']' :: r))).map _ = _
  rw [h]
  rfl

theorem items_blank {item : ItemReader} {b : List Char} (hb : Blank b) (r : List Char) :
    items room item (Piece.ofText (b ++ ']' :: r)) = .ok ⟨[], Piece.ofText r⟩ := by
  have hclose : skipSpace (Piece.ofText (b ++ ']' :: r)) = .char ']' :: Piece.ofText r := skipSpace_blank hb _
  unfold items
  rw [hclose]
  rfl

theorem reads_element {t : Tree} {b w b' : List Char} (hb : Blank b) (hb' : Blank b')
    (h : Reads room depth w (.value t)) : Reads room depth (b ++ (w ++ b')) (.element t) := by
  intro r hr
  refine ⟨Piece.ofText (b' ++ r), ?_, skipSpace_blank hb' r⟩
  simp only [List.append_assoc]
  rw [← valueWithin_skipSpace, skipSpace_blank hb, valueWithin_skipSpace, h (b' ++ r) (.blank hb' hr)]

theorem reads_lastElement {t : Tree} {w : List Char} (h : Reads room depth w (.element t)) :
    Reads room depth w (.elements [t]) := by
  intro n hn r
  rcases n with _ | n
  · exact absurd hn (by simp)
  · obtain ⟨rest, hread, hrest⟩ := h (']' :: r) (.of_char rfl (by decide) (by decide) (by decide) _)
    have hclose : skipSpace rest = .char ']' :: Piece.ofText r := hrest
    rw [itemsFrom, hread]
    simp only [bind, Except.bind, hclose]

theorem reads_nextElement {t : Tree} {l : List Tree} {w w' : List Char} (h : Reads room depth w (.element t))
    (hl : Reads room depth w' (.elements l)) : Reads room depth (w ++ ',' :: w') (.elements (t :: l)) := by
  intro n hn r
  rcases n with _ | n
  · exact absurd hn (by simp)
  · obtain ⟨rest, hread, hrest⟩ := h (',' :: (w' ++ ']' :: r)) (.of_char rfl (by decide) (by decide) (by decide) _)
    have hcomma : skipSpace rest = .char ',' :: Piece.ofText (w' ++ ']' :: r) := hrest
    have hitems := hl n (Nat.le_of_succ_le_succ hn) r
    simp only [List.append_assoc, List.cons_append]
    rw [itemsFrom, hread]
    simp only [bind, Except.bind, hcomma, hitems]
    rfl

/-! #### Objects -/

theorem reads_object {l : List (Option String × Tree)} {w : List Char}
    (h : ∀ r, members false room (valueWithin false room depth) (Piece.ofText (w ++ '\x7d' :: r)) =
      .ok ⟨l, Piece.ofText r⟩) :
    Reads room (depth + 1) ('\x7b' :: (w ++ ['\x7d'])) (.value (.object l)) := by
  intro r _
  simp only [List.cons_append, List.append_assoc, List.nil_append]
  change (members false room (valueWithin false room depth) (Piece.ofText (w ++ '\x7d' :: r))).map _ = _
  rw [h]
  rfl

theorem members_blank {item : ItemReader} {b : List Char} (hb : Blank b) (r : List Char) :
    members false room item (Piece.ofText (b ++ '\x7d' :: r)) = .ok ⟨[], Piece.ofText r⟩ := by
  have hclose : skipSpace (Piece.ofText (b ++ '\x7d' :: r)) = .char '\x7d' :: Piece.ofText r := skipSpace_blank hb _
  unfold members
  rw [hclose]
  rfl

theorem reads_member {name : Option String} {t : Tree} {b n b' w : List Char} (hb : Blank b) (hname : Literal n name)
    (hb' : Blank b') (h : Reads room depth w (.element t)) :
    Reads room depth (b ++ '"' :: (n ++ '"' :: (b' ++ ':' :: w))) (.member (name, t)) := by
  intro r hr
  obtain ⟨rest, hread, hrest⟩ := h r hr
  refine ⟨Piece.ofText (n ++ '"' :: (b' ++ ':' :: (w ++ r))), rest, ?_, ?_, hrest⟩
  · simp only [List.append_assoc, List.cons_append]
    exact skipSpace_blank hb _
  · have hcolon : skipSpace (Piece.ofText (b' ++ ':' :: (w ++ r))) = .char ':' :: Piece.ofText (w ++ r) :=
      skipSpace_blank hb' _
    rw [member, stringText_written hname]
    simp only [bind, Except.bind, hcolon, hread]
    rfl

theorem reads_lastMember {m : Option String × Tree} {w : List Char} (h : Reads room depth w (.member m)) :
    Reads room depth w (.members [m]) := by
  intro n hn r
  rcases n with _ | n
  · exact absurd hn (by simp)
  · obtain ⟨s, rest, hquote, hread, hrest⟩ := h ('\x7d' :: r) (.of_char rfl (by decide) (by decide) (by decide) _)
    have hclose : skipSpace rest = .char '\x7d' :: Piece.ofText r := hrest
    refine ⟨s, hquote, ?_⟩
    rw [membersFrom, hread]
    simp only [bind, Except.bind, hclose]

theorem reads_nextMember {m : Option String × Tree} {l : List (Option String × Tree)} {w w' : List Char}
    (h : Reads room depth w (.member m)) (hl : Reads room depth w' (.members l)) :
    Reads room depth (w ++ ',' :: w') (.members (m :: l)) := by
  intro n hn r
  rcases n with _ | n
  · exact absurd hn (by simp)
  · obtain ⟨s, rest, hquote, hread, hrest⟩ := h (',' :: (w' ++ '\x7d' :: r))
      (.of_char rfl (by decide) (by decide) (by decide) _)
    have hcomma : skipSpace rest = .char ',' :: Piece.ofText (w' ++ '\x7d' :: r) := hrest
    obtain ⟨s', hquote', hmembers⟩ := hl n (Nat.le_of_succ_le_succ hn) r
    simp only [List.append_assoc, List.cons_append]
    refine ⟨s, hquote, ?_⟩
    rw [membersFrom, hread]
    simp only [bind, Except.bind, hcomma, hquote', hmembers]
    rfl

end Written

/-- **What is written is read**, where there is room and depth for it. -/
theorem Writes.reads {p : Part} {w : List Char} (h : Writes p w) {room depth : Nat} (hroom : w.length ≤ room)
    (hdepth : w.length ≤ depth) : Reads room depth w p := by
  induction h generalizing depth with
  | null | true | false => exact reads_word fun _ _ => rfl
  | positive hsign h => exact reads_value fun _ _ hr => valueWith_positive hsign h hr
  | negative hsign h => exact reads_value fun _ _ hr => valueWith_negative hsign h hr
  | string h =>
    refine reads_value fun inner r _ => ?_
    simp only [List.cons_append, List.append_assoc, List.nil_append]
    exact valueWith_stringLiteral h r
  | noItems hb =>
    rcases depth with _ | depth
    · exact absurd hdepth (by simp)
    · exact reads_array (items_blank hb)
  | @array l w h ih =>
    rcases depth with _ | depth
    · exact absurd hdepth (by simp)
    · simp only [List.length_cons, List.length_append] at hroom hdepth
      have hitems := ih (by omega) (by omega : w.length ≤ depth) room (h.count_le.trans (by omega))
      exact reads_array fun r => items_eq_of_itemsFrom (hitems r)
  | noMembers hb =>
    rcases depth with _ | depth
    · exact absurd hdepth (by simp)
    · exact reads_object (members_blank hb)
  | @object l w h ih =>
    rcases depth with _ | depth
    · exact absurd hdepth (by simp)
    · simp only [List.length_cons, List.length_append] at hroom hdepth
      have hmembers := ih (by omega) (by omega : w.length ≤ depth) room (h.count_le.trans (by omega))
      refine reads_object fun r => ?_
      obtain ⟨s, hquote, hread⟩ := hmembers r
      unfold members
      rw [hquote]
      exact hread
  | element hb _ hb' ih =>
    simp only [List.length_append] at hroom hdepth
    exact reads_element hb hb' (ih (by omega) (by omega))
  | lastElement _ ih => exact reads_lastElement (ih hroom hdepth)
  | nextElement _ _ ih ih' =>
    simp only [List.length_append, List.length_cons] at hroom hdepth
    exact reads_nextElement (ih (by omega) (by omega)) (ih' (by omega) (by omega))
  | member hb hname hb' _ ih =>
    simp only [List.length_append, List.length_cons] at hroom hdepth
    exact reads_member hb hname hb' (ih (by omega) (by omega))
  | lastMember _ ih => exact reads_lastMember (ih hroom hdepth)
  | nextMember _ _ ih ih' =>
    simp only [List.length_append, List.length_cons] at hroom hdepth
    exact reads_nextMember (ih (by omega) (by omega)) (ih' (by omega) (by omega))

/-! ### What is read was written -/

/-- What such a reader takes off was written as a value, after white space. -/
def Sound (item : ItemReader) : Prop :=
  ∀ {l t rest}, item (Piece.ofText l) = .ok ⟨t, rest⟩ →
    ∃ b w l', l = b ++ (w ++ l') ∧ rest = Piece.ofText l' ∧ Blank b ∧ Writes (.value t) w

section Sound
variable {room depth : Nat} {l : List Char} {rest : Input}

/-- With the white space after it. -/
theorem Sound.element {item : ItemReader} (hitem : Sound item) {t : Tree}
    (h : item (Piece.ofText l) = .ok ⟨t, rest⟩) :
    ∃ w l', l = w ++ l' ∧ skipSpace rest = Piece.ofText l' ∧ Writes (.element t) w := by
  obtain ⟨b, w, l', rfl, rfl, hb, hw⟩ := hitem h
  obtain ⟨b', l'', rfl, hb', hskip⟩ := exists_blank l'
  exact ⟨b ++ (w ++ b'), l'', by simp, hskip, .element hb hw hb'⟩

theorem itemsFrom_sound {item : ItemReader} (hitem : Sound item) {n : Nat} {ts : List Tree}
    (h : itemsFrom item n (Piece.ofText l) = .ok ⟨ts, rest⟩) :
    ∃ w l', l = w ++ ']' :: l' ∧ rest = Piece.ofText l' ∧ Writes (.elements ts) w := by
  induction n generalizing l ts with
  | zero => cases h
  | succ n ih =>
    obtain ⟨⟨t, s⟩, hread, hgoes⟩ := bind_eq_ok h
    obtain ⟨w, l, rfl, hskip, hw⟩ := hitem.element hread
    simp only [hskip] at hgoes
    split at hgoes
    · cases hgoes
    · next s' hl =>
      obtain ⟨l', rfl, rfl⟩ := exists_of_ofText_char hl
      obtain ⟨rfl, rfl⟩ := Taken.mk.inj (Except.ok.inj hgoes)
      exact ⟨w, l', rfl, rfl, .lastElement hw⟩
    · next s' hl =>
      obtain ⟨l', rfl, rfl⟩ := exists_of_ofText_char hl
      obtain ⟨⟨ts', rest'⟩, hitems, htaken⟩ := map_eq_ok hgoes
      obtain ⟨rfl, rfl⟩ := Taken.mk.inj htaken
      obtain ⟨w', l'', rfl, rfl, hw'⟩ := ih hitems
      exact ⟨w ++ ',' :: w', l'', by simp, rfl, .nextElement hw hw'⟩
    · cases hgoes

theorem items_sound (hitem : Sound (valueWithin false room depth)) {ts : List Tree}
    (h : items room (valueWithin false room depth) (Piece.ofText l) = .ok ⟨ts, rest⟩) :
    ∃ w l', l = w ++ ']' :: l' ∧ rest = Piece.ofText l' ∧ Writes (.value (.array ts)) ('[' :: (w ++ [']'])) := by
  obtain ⟨b, l', hl, hb, hskip⟩ := exists_blank l
  unfold items at h
  split at h
  · cases h
  · next s hclose =>
    rw [hskip] at hclose
    obtain ⟨l'', rfl, rfl⟩ := exists_of_ofText_char hclose
    obtain ⟨rfl, rfl⟩ := Taken.mk.inj (Except.ok.inj h)
    exact ⟨b, l'', hl, rfl, .noItems hb⟩
  · rw [itemsFrom_skipSpace] at h
    obtain ⟨w, l'', rfl, rfl, hw⟩ := itemsFrom_sound hitem h
    exact ⟨w, l'', rfl, rfl, .array hw⟩

theorem member_sound {item : ItemReader} (hitem : Sound item) {m : Option String × Tree}
    (h : member false item (Piece.ofText l) = .ok ⟨m, rest⟩) {b : List Char} (hb : Blank b) :
    ∃ w l', b ++ '"' :: l = w ++ l' ∧ skipSpace rest = Piece.ofText l' ∧ Writes (.member m) w := by
  obtain ⟨⟨name, s⟩, hname, h⟩ := bind_eq_ok h
  obtain ⟨n, l, rfl, rfl, hn⟩ := stringText_eq_ok_iff.1 hname
  obtain ⟨b', l', rfl, hb', hskip⟩ := exists_blank l
  simp only [hskip] at h
  split at h
  · cases h
  · next s hcolon =>
    obtain ⟨l, rfl, rfl⟩ := exists_of_ofText_char hcolon
    obtain ⟨⟨t, rest'⟩, hread, htaken⟩ := map_eq_ok h
    obtain ⟨rfl, rfl⟩ := Taken.mk.inj htaken
    obtain ⟨w, l', rfl, hskip', hw⟩ := hitem.element hread
    exact ⟨b ++ '"' :: (n ++ '"' :: (b' ++ ':' :: w)), l', by simp, hskip', .member hb hn hb' hw⟩
  · cases h

theorem membersFrom_sound {item : ItemReader} (hitem : Sound item) {n : Nat} {ms : List (Option String × Tree)}
    (h : membersFrom false item n (Piece.ofText l) = .ok ⟨ms, rest⟩) {b : List Char} (hb : Blank b) :
    ∃ w l', b ++ '"' :: l = w ++ '\x7d' :: l' ∧ rest = Piece.ofText l' ∧ Writes (.members ms) w := by
  induction n generalizing l ms b with
  | zero => cases h
  | succ n ih =>
    obtain ⟨⟨m, s⟩, hread, h⟩ := bind_eq_ok h
    obtain ⟨w, l', hl, hskip, hw⟩ := member_sound hitem hread hb
    simp only [hskip] at h
    split at h
    · cases h
    · next s' hclose =>
      obtain ⟨l'', rfl, rfl⟩ := exists_of_ofText_char hclose
      obtain ⟨rfl, rfl⟩ := Taken.mk.inj (Except.ok.inj h)
      exact ⟨w, l'', hl, rfl, .lastMember hw⟩
    · next s' hcomma =>
      obtain ⟨l', rfl, rfl⟩ := exists_of_ofText_char hcomma
      obtain ⟨b', l', rfl, hb', hskip'⟩ := exists_blank l'
      simp only [hskip'] at h
      split at h
      · cases h
      · next s'' hquote =>
        obtain ⟨l', rfl, rfl⟩ := exists_of_ofText_char hquote
        obtain ⟨⟨ms', rest'⟩, hmembers, htaken⟩ := map_eq_ok h
        obtain ⟨rfl, rfl⟩ := Taken.mk.inj htaken
        obtain ⟨w', l'', hl', rfl, hw'⟩ := ih hmembers hb'
        exact ⟨w ++ ',' :: w', l'', by simp [hl, hl'], rfl, .nextMember hw hw'⟩
      · cases h
    · cases h

theorem members_sound {item : ItemReader} (hitem : Sound item) {ms : List (Option String × Tree)}
    (h : members false room item (Piece.ofText l) = .ok ⟨ms, rest⟩) :
    ∃ w l', l = w ++ '\x7d' :: l' ∧ rest = Piece.ofText l' ∧
      Writes (.value (.object ms)) ('\x7b' :: (w ++ ['\x7d'])) := by
  obtain ⟨b, l', rfl, hb, hskip⟩ := exists_blank l
  unfold members at h
  rw [hskip] at h
  split at h
  · cases h
  · next s hclose =>
    obtain ⟨l'', rfl, rfl⟩ := exists_of_ofText_char hclose
    obtain ⟨rfl, rfl⟩ := Taken.mk.inj (Except.ok.inj h)
    exact ⟨b, l'', rfl, rfl, .noMembers hb⟩
  · next s hquote =>
    obtain ⟨l'', rfl, rfl⟩ := exists_of_ofText_char hquote
    obtain ⟨w, l', hl, rfl, hw⟩ := membersFrom_sound hitem h hb
    exact ⟨w, l', hl, rfl, .object hw⟩
  · cases h

theorem numberTree_sound {negative : Bool} {t : Tree}
    (h : numberTree false negative (Piece.ofText l) = .ok ⟨t, rest⟩) :
    ∃ x w l', l = w ++ l' ∧ rest = Piece.ofText l' ∧ t = .number x.num? ∧ x.negative = negative ∧ Magnitude x w := by
  obtain ⟨⟨x, s⟩, hnumber, h⟩ := bind_eq_ok h
  obtain ⟨w, l', rfl, rfl, hsign, hw⟩ := numberText_sound hnumber
  obtain ⟨rfl, rfl⟩ := Taken.mk.inj (Except.ok.inj h)
  exact ⟨x, w, l', rfl, rfl, rfl, hsign, hw⟩

theorem word_sound {t t' : Tree} {c : Char} {w : List Char} (hw : Writes (.value t) (c :: w))
    (h : (expect w (Piece.ofText l)).map (fun s => ⟨t, s⟩) = .ok (Taken.mk t' rest)) :
    ∃ v l', c :: l = v ++ l' ∧ rest = Piece.ofText l' ∧ Writes (.value t') v := by
  obtain ⟨s, hexpect, htaken⟩ := map_eq_ok h
  obtain ⟨rfl, rfl⟩ := Taken.mk.inj htaken
  obtain ⟨l', rfl, rfl⟩ := expect_sound hexpect
  exact ⟨c :: w, l', rfl, rfl, hw⟩

/-- Such a reader is sound if the one for items and members is. -/
theorem valueWith_sound {inner : Option ItemReader}
    (hinner : ∀ item ∈ inner, ∃ depth, item = valueWithin false room depth ∧ Sound item) :
    Sound (valueWith false room inner) := by
  intro l t rest h
  obtain ⟨b, l, rfl, hb, hskip⟩ := exists_blank l
  unfold valueWith at h
  rw [hskip] at h
  suffices hvalue : ∃ w l', l = w ++ l' ∧ rest = Piece.ofText l' ∧ Writes (.value t) w by
    obtain ⟨w, l', rfl, hrest, hw⟩ := hvalue
    exact ⟨b, w, l', rfl, hrest, hb, hw⟩
  split at h
  · cases h
  · next s hs =>
    obtain ⟨l, rfl, rfl⟩ := exists_of_ofText_char hs
    exact word_sound .null h
  · next s hs =>
    obtain ⟨l, rfl, rfl⟩ := exists_of_ofText_char hs
    exact word_sound .true h
  · next s hs =>
    obtain ⟨l, rfl, rfl⟩ := exists_of_ofText_char hs
    exact word_sound .false h
  · next s hs =>
    obtain ⟨l, rfl, rfl⟩ := exists_of_ofText_char hs
    obtain ⟨⟨o, s⟩, hstring, htaken⟩ := map_eq_ok h
    obtain ⟨rfl, rfl⟩ := Taken.mk.inj htaken
    obtain ⟨w, l', rfl, rfl, hw⟩ := stringText_eq_ok_iff.1 hstring
    exact ⟨'"' :: (w ++ ['"']), l', by simp, rfl, .string hw⟩
  · next s hs =>
    obtain ⟨l, rfl, rfl⟩ := exists_of_ofText_char hs
    obtain ⟨x, w, l', rfl, rfl, rfl, hsign, hw⟩ := numberTree_sound h
    exact ⟨'-' :: w, l', rfl, rfl, .negative hsign hw⟩
  · next s hs =>
    obtain ⟨l, rfl, rfl⟩ := exists_of_ofText_char hs
    split at h
    · cases h
    · next item =>
      obtain ⟨depth, rfl, hitem⟩ := hinner item rfl
      obtain ⟨⟨ts, s⟩, hitems, htaken⟩ := map_eq_ok h
      obtain ⟨rfl, rfl⟩ := Taken.mk.inj htaken
      obtain ⟨w, l', rfl, rfl, hw⟩ := items_sound hitem hitems
      exact ⟨'[' :: (w ++ [']']), l', by simp, rfl, hw⟩
  · next s hs =>
    obtain ⟨l, rfl, rfl⟩ := exists_of_ofText_char hs
    split at h
    · cases h
    · next item =>
      obtain ⟨depth, rfl, hitem⟩ := hinner item rfl
      obtain ⟨⟨ms, s⟩, hmembers, htaken⟩ := map_eq_ok h
      obtain ⟨rfl, rfl⟩ := Taken.mk.inj htaken
      obtain ⟨w, l', rfl, rfl, hw⟩ := members_sound hitem hmembers
      exact ⟨'\x7b' :: (w ++ ['\x7d']), l', by simp, rfl, hw⟩
  · next c s _ _ _ _ _ _ _ hs =>
    split at h
    · rw [← hs] at h
      obtain ⟨x, w, l', rfl, rfl, rfl, hsign, hw⟩ := numberTree_sound h
      exact ⟨w, l', rfl, rfl, .positive hsign hw⟩
    · cases h
  · cases h

/-- Induction on the depth. -/
theorem valueWithin_sound (room depth : Nat) : Sound (valueWithin false room depth) := by
  induction depth with
  | zero => exact valueWith_sound fun item hitem => absurd hitem (Option.not_mem_none item)
  | succ depth ih =>
    refine valueWith_sound fun item hitem => ?_
    obtain rfl := Option.some.inj hitem
    exact ⟨depth, rfl, ih⟩

end Sound

/-- A text is read loosely as the tree that it writes, with any depth that is enough for it. -/
theorem wholeText_eq_ok_iff {l : List Char} {t : Tree} {depth : Nat} (hdepth : l.length ≤ depth) :
    wholeText false depth (Piece.ofText l) = .ok t ↔ Writes (.element t) l := by
  have hlength : (Piece.ofText l).length = l.length := List.length_map _
  unfold wholeText
  rw [hlength]
  constructor
  · intro h
    obtain ⟨⟨t', rest⟩, hread, hend⟩ := bind_eq_ok h
    obtain ⟨w, l', rfl, hskip, hw⟩ := Sound.element (valueWithin_sound _ _) hread
    simp only [hskip] at hend
    split at hend
    · next hempty =>
      obtain rfl := Except.ok.inj hend
      cases l' with
      | nil => rwa [List.append_nil]
      | cons c l' => cases hempty
    · cases hend
  · intro h
    obtain ⟨rest, hread, hrest⟩ := h.reads (Nat.le_succ l.length) hdepth [] .nil
    have hend : skipSpace rest = [] := hrest
    rw [List.append_nil] at hread
    simp only [hread, bind, Except.bind, hend]
    rfl

/-- **The loose reader is exact**: it reads a text as a tree if and only if the text writes this tree. -/
theorem readLoose_eq_ok_iff {l : List Char} {t : Tree} :
    Tree.readLoose (Piece.ofText l) = .ok t ↔ Writes (.element t) l :=
  wholeText_eq_ok_iff (Nat.le_of_eq (List.length_map _).symm)

/-- A text writes one tree at most. -/
theorem Writes.tree_unique {l : List Char} {t t' : Tree} (h : Writes (.element t) l) (h' : Writes (.element t') l) :
    t = t' :=
  Except.ok.inj ((readLoose_eq_ok_iff.2 h).symm.trans (readLoose_eq_ok_iff.2 h'))

/-! ### Objects with one member -/

theorem IsGap.blank {g : List Char} (h : IsGap g) : Blank g := by
  intro c hc
  rcases h c hc with rfl | rfl <;> rfl

theorem WritesText.writes {name text line : List Char} (hname : Denotes name name) (h : WritesText name text line) :
    Writes (.element (.object [(some (String.ofList name), .string (some (String.ofList text)))])) line := by
  obtain ⟨h₁, h₂, h₃, h₄, h₅, h₆, htext⟩ := h
  have hvalue := Writes.element h₄.blank (.string (.text htext)) h₅.blank
  have hobject := Writes.object (.lastMember (.member h₂.blank (.text hname) h₃.blank hvalue))
  have hline := Writes.element h₁.blank hobject h₆.blank
  simp only [List.append_assoc, List.cons_append, List.nil_append] at hline
  exact hline

/-- **An object with one text member is read as such.** -/
theorem readLoose_object {name text line : List Char} (hname : Denotes name name) (h : WritesText name text line) :
    Tree.readLoose (Piece.ofText line) =
      .ok (.object [(some (String.ofList name), .string (some (String.ofList text)))]) :=
  readLoose_eq_ok_iff.2 (h.writes hname)

end FlakeImage.Json
