import FlakeImage.Proofs.Utf8

/-!
# Bytes cut into pieces

`Cut` says how a byte string falls into characters and broken runs, by the bytes of the characters alone: a broken run
begins a character that does not go on, or it is one byte that begins none. The reader of bytes takes a byte after the
other; what each of them does to the beginning of a character is said by `Extends`. It cuts every byte string as `Cut`
says, and there is no other way to do so (`pieces_eq_iff`). No byte is lost on the way (`Cut.bytes_eq`), so the text that
is shown ends with a character below 128 only if the bytes do (`getLast?_of_shown`).
-/

namespace FlakeImage.Utf8

/-! ### The bytes of a character -/

section Encode
variable {l : Bytes} {c : Char}

theorem toNat_ofNat_char {n : Nat} (h : n < 0xD800 ∨ 0xDFFF < n ∧ n < 0x110000) : (Char.ofNat n).toNat = n := by
  rw [Char.toNat_ofNat, if_pos h]

theorem Encodes.encodeChar_eq (h : Encodes l c) : encodeChar c = l := by
  have hbyte (a : UInt8) {n : Nat} (h : n = a.toNat) : UInt8.ofNat n = a := h ▸ UInt8.ofNat_toNat
  cases h with
  | @one a ha =>
    have ha := width_eq_one_iff.1 ha
    have hn : (Char.ofNat a.toNat).toNat = a.toNat := toNat_ofNat_char (by omega)
    unfold encodeChar
    dsimp only
    rw [hn, if_pos ha, hbyte a rfl]
  | @two a b ha hb =>
    have ha := width_eq_two_iff.1 ha
    have hb := isSecond_iff.1 hb
    have hn : (char₂ a b).toNat = (a.toNat - 0xC0) * 64 + (b.toNat - 0x80) := toNat_ofNat_char (by unfold low; omega)
    unfold encodeChar
    dsimp only
    rw [hn, if_neg (by omega), if_pos (by omega), hbyte a (by omega), hbyte b (by omega)]
  | @three a b d ha hb hd =>
    have ha := width_eq_three_iff.1 ha
    have hb := isSecond_iff.1 hb
    have hd := isTail_iff.1 hd
    have hn : (char₃ a b d).toNat = ((a.toNat - 0xE0) * 64 + (b.toNat - 0x80)) * 64 + (d.toNat - 0x80) :=
      toNat_ofNat_char (by unfold low; omega)
    unfold encodeChar
    dsimp only
    rw [hn, if_neg (by omega), if_neg (by omega), if_pos (by omega), hbyte a (by omega), hbyte b (by omega),
      hbyte d (by omega)]
  | @four a b d e ha hb hd he =>
    have ha := width_eq_four_iff.1 ha
    have hb := isSecond_iff.1 hb
    have hd := isTail_iff.1 hd
    have he := isTail_iff.1 he
    have hn : (char₄ a b d e).toNat =
        (((a.toNat - 0xF0) * 64 + (b.toNat - 0x80)) * 64 + (d.toNat - 0x80)) * 64 + (e.toNat - 0x80) :=
      toNat_ofNat_char (by unfold low; omega)
    unfold encodeChar
    dsimp only
    rw [hn, if_neg (by omega), if_neg (by omega), if_neg (by omega), hbyte a (by omega), hbyte b (by omega),
      hbyte d (by omega), hbyte e (by omega)]

theorem encodes_iff : Encodes l c ↔ encodeChar c = l :=
  ⟨Encodes.encodeChar_eq, fun h => h ▸ encodes_encodeChar c⟩

end Encode

/-! ### Beginnings of characters -/

/-- A character starts with these bytes. -/
def StartsChar (run : Bytes) : Prop := ∃ c, run <+: encodeChar c

/-- A character starts with these bytes and has more. -/
def Begun (run : Bytes) : Prop := ∃ b, StartsChar (run ++ [b])

/-- What a byte does to the beginning of a character. -/
inductive Extends (begun : Bytes) (b : UInt8) : Extension → Prop
  | whole {c : Char} (h : encodeChar c = begun ++ [b]) : Extends begun b (.whole c)
  | begun (h : Begun (begun ++ [b])) : Extends begun b (.begun (begun ++ [b]))
  | refused (h : ¬ StartsChar (begun ++ [b])) : Extends begun b .refused

section Begin
variable {m r : Bytes} {a b d : UInt8} {c : Char}

theorem Encodes.startsChar (h : Encodes (m ++ r) c) : StartsChar m := ⟨c, r, (encodes_iff.1 h).symm⟩

theorem Encodes.begun (h : Encodes (m ++ b :: r) c) : Begun m :=
  ⟨b, Encodes.startsChar (r := r) (by rwa [List.append_assoc])⟩

theorem StartsChar.exists_encodes (h : StartsChar m) : ∃ c r, Encodes (m ++ r) c := by
  obtain ⟨c, r, hc⟩ := h
  exact ⟨c, r, encodes_iff.2 hc.symm⟩

theorem Begun.exists_encodes (h : Begun m) : ∃ c b r, Encodes (m ++ b :: r) c := by
  obtain ⟨b, h⟩ := h
  obtain ⟨c, r, hc⟩ := h.exists_encodes
  exact ⟨c, b, r, by rwa [List.append_assoc] at hc⟩

theorem Begun.startsChar (h : Begun m) : StartsChar m := by
  obtain ⟨c, b, r, hc⟩ := h.exists_encodes
  exact hc.startsChar

theorem begun_nil : Begun [] := (Encodes.one (a := 0) rfl).begun (m := [])

theorem begun_second (ha : width a = 3 ∨ width a = 4) (hb : isSecond a b = true) : Begun [a, b] := by
  have htail : isTail 0x80 = true := rfl
  rcases ha with ha | ha
  · exact (Encodes.three ha hb htail).begun (m := [a, b])
  · exact (Encodes.four ha hb htail htail).begun (m := [a, b])

theorem exists_isSecond (a : UInt8) : ∃ b, isSecond a b = true := by
  refine ⟨if a.toNat = 0xE0 then 0xA0 else if a.toNat = 0xF0 then 0x90 else 0x80, isSecond_iff.2 ?_⟩
  split_ifs <;> simp only [UInt8.reduceToNat] <;> omega

theorem begun_first (h0 : width a ≠ 0) (h1 : width a ≠ 1) : Begun [a] := by
  obtain ⟨b, hb⟩ := exists_isSecond a
  have hwidth : width a = 2 ∨ width a = 3 ∨ width a = 4 := by
    unfold width at h0 h1 ⊢
    split_ifs at h0 h1 ⊢ <;> simp_all
  rcases hwidth with ha | ha
  · exact (Encodes.two ha hb).begun (m := [a])
  · obtain ⟨x, h⟩ := begun_second ha hb
    obtain ⟨c, r, hc⟩ := h.exists_encodes
    exact hc.begun (m := [a])

theorem extend_of_encodes (h : Encodes (m ++ b :: r) c) :
    extend m b = if r = [] then .whole c else .begun (m ++ [b]) := by
  rcases m with _ | ⟨x, _ | ⟨y, _ | ⟨z, _ | ⟨w, m⟩⟩⟩⟩
  · cases h <;> simp [extend, *]
  · cases h <;> simp [extend, *]
  · cases h <;> simp [extend, *]
  · cases h
    simp [extend, *]
  · generalize hl : (x :: y :: z :: w :: m) ++ b :: r = l at h
    cases h <;> simp at hl

/-- The bytes that are begun stand in the bounds for their places. -/
theorem Begun.places (h : Begun m) : m = [] ∨ (∃ a, m = [a] ∧ (width a = 2 ∨ width a = 3 ∨ width a = 4)) ∨
    (∃ a b, m = [a, b] ∧ (width a = 3 ∨ width a = 4) ∧ isSecond a b = true) ∨
    ∃ a b d, m = [a, b, d] ∧ width a = 4 ∧ isSecond a b = true ∧ isTail d = true := by
  obtain ⟨c, b, r, hc⟩ := h.exists_encodes
  rcases m with _ | ⟨x, _ | ⟨y, _ | ⟨z, _ | ⟨w, m⟩⟩⟩⟩
  · exact .inl rfl
  · cases hc <;> simp [*]
  · cases hc <;> simp [*]
  · cases hc
    simp [*]
  · generalize hl : (x :: y :: z :: w :: m) ++ b :: r = l at hc
    cases hc <;> simp at hl

/-- What refuses a byte refuses it rightly. -/
theorem extends_of_refused (h : extend m b = .refused) : Extends m b (extend m b) := by
  rw [h]
  refine .refused fun hstarts => ?_
  obtain ⟨c, r, hc⟩ := hstarts.exists_encodes
  rw [List.append_assoc] at hc
  have hextend := (extend_of_encodes hc).symm.trans h
  split_ifs at hextend

/-- **What a byte does** to the beginning of a character depends on the bytes of the characters alone. -/
theorem extends_extend (h : Begun m) (b : UInt8) : Extends m b (extend m b) := by
  rcases h.places with rfl | ⟨a, rfl, ha⟩ | ⟨a, a', rfl, ha, ha'⟩ | ⟨a, a', a'', rfl, ha, ha', ha''⟩
  · by_cases h1 : width b = 1
    · rw [show extend [] b = .whole _ from if_pos h1]
      exact .whole (Encodes.one h1).encodeChar_eq
    · by_cases h0 : width b = 0
      · exact extends_of_refused (by simp [extend, h0])
      · rw [show extend [] b = .begun [b] by simp [extend, h0, h1]]
        exact .begun (begun_first h0 h1)
  · cases hb : isSecond a b with
    | false => exact extends_of_refused (by simp [extend, hb])
    | true =>
      rcases ha with ha | ha
      · rw [show extend [a] b = .whole (char₂ a b) by simp [extend, hb, ha]]
        exact .whole (Encodes.two ha hb).encodeChar_eq
      · rw [show extend [a] b = .begun [a, b] by rcases ha with ha | ha <;> simp [extend, hb, ha]]
        exact .begun (begun_second ha hb)
  · cases hb : isTail b with
    | false => exact extends_of_refused (by simp [extend, hb])
    | true =>
      rcases ha with ha | ha
      · rw [show extend [a, a'] b = .whole (char₃ a a' b) by simp [extend, hb, ha]]
        exact .whole (Encodes.three ha ha' hb).encodeChar_eq
      · rw [show extend [a, a'] b = .begun [a, a', b] by simp [extend, hb, ha]]
        exact .begun ((Encodes.four ha ha' hb (rfl : isTail 0x80 = true)).begun (m := [a, a', b]))
  · cases hb : isTail b with
    | false => exact extends_of_refused (by simp [extend, hb])
    | true =>
      rw [show extend [a, a', a''] b = .whole (char₄ a a' a'' b) by simp [extend, hb]]
      exact .whole (Encodes.four ha ha' ha'' hb).encodeChar_eq

end Begin

/-! ### Pieces -/

/-- The bytes before `rest` are a broken run: a character begins with them and does not go on as `rest` does, or they
are one byte and no character begins with it. -/
inductive Breaks (rest : Bytes) : Bytes → Prop
  | stray {b : UInt8} (h : ¬ StartsChar [b]) : Breaks rest [b]
  | begun {run : Bytes} (hne : run ≠ []) (hrun : Begun run)
    (hrest : ∀ b, rest.head? = some b → ¬ StartsChar (run ++ [b])) : Breaks rest run

/-- The byte string falls into these pieces. -/
inductive Cut : Bytes → List Piece → Prop
  | nil : Cut [] []
  | char {c : Char} {rest : Bytes} {ps : List Piece} (h : Cut rest ps) : Cut (encodeChar c ++ rest) (.char c :: ps)
  | broken {run rest : Bytes} {ps : List Piece} (hrun : Breaks rest run) (h : Cut rest ps) :
    Cut (run ++ rest) (.broken run :: ps)

section Cut
variable {m x : Bytes} {b : UInt8} {ps : List Piece}

theorem piecesFrom_of_whole {c : Char} (h : extend m b = .whole c) (x : Bytes) :
    piecesFrom m (b :: x) = .char c :: piecesFrom [] x := by
  rw [piecesFrom, step, h]
  rfl

theorem piecesFrom_of_begun (h : extend m b = .begun (m ++ [b])) (x : Bytes) :
    piecesFrom m (b :: x) = piecesFrom (m ++ [b]) x := by
  rw [piecesFrom, step, h]
  rfl

theorem piecesFrom_of_stray (h : extend [] b = .refused) (x : Bytes) :
    piecesFrom [] (b :: x) = .broken [b] :: piecesFrom [] x := by
  simp [piecesFrom, step, start, h]

/-- A byte that is refused is looked at again, with nothing begun. -/
theorem piecesFrom_of_refused (hne : m ≠ []) (h : extend m b = .refused) (x : Bytes) :
    piecesFrom m (b :: x) = .broken m :: piecesFrom [] (b :: x) := by
  have hstart : step [] b = start b := by
    unfold step start
    cases extend [] b <;> rfl
  have hstep : step m b = (.broken m :: (start b).1, (start b).2) := by
    rw [step, h]
    simp [hne]
  rw [piecesFrom, piecesFrom, hstart, hstep, List.cons_append]

theorem extend_eq_refused_iff (hm : Begun m) : extend m b = .refused ↔ ¬ StartsChar (m ++ [b]) := by
  have hextends := extends_extend hm b
  generalize extend m b = e at hextends ⊢
  cases hextends with
  | whole hc => exact iff_of_false nofun (not_not_intro ⟨_, [], by rw [hc, List.append_nil]⟩)
  | begun hbegun => exact iff_of_false nofun (not_not_intro hbegun.startsChar)
  | refused h => exact iff_of_true rfl h

/-- The reader cuts bytes into pieces. -/
theorem cut_piecesFrom (hm : Begun m) (x : Bytes) : Cut (m ++ x) (piecesFrom m x) := by
  induction x generalizing m with
  | nil =>
    by_cases hne : m = []
    · subst hne
      exact .nil
    · rw [piecesFrom, if_neg (by simpa using hne)]
      exact .broken (.begun hne hm fun b hb => by cases hb) .nil
  | cons b x ih =>
    have hgoes {m : Bytes} (hm : Begun m) (h : extend m b ≠ .refused) : Cut (m ++ b :: x) (piecesFrom m (b :: x)) := by
      have happend : m ++ b :: x = m ++ [b] ++ x := by simp
      rw [happend]
      have hextends := extends_extend hm b
      generalize he : extend m b = e at hextends h
      cases hextends with
      | whole hc =>
        rw [piecesFrom_of_whole he, ← hc]
        exact .char (ih begun_nil)
      | begun hbegun =>
        rw [piecesFrom_of_begun he]
        exact ih hbegun
      | refused => exact absurd rfl h
    have hfirst : Cut (b :: x) (piecesFrom [] (b :: x)) := by
      by_cases h : extend [] b = .refused
      · rw [piecesFrom_of_stray h]
        exact .broken (.stray ((extend_eq_refused_iff begun_nil).1 h)) (ih begun_nil)
      · exact hgoes begun_nil h
    by_cases h : extend m b = .refused
    · by_cases hne : m = []
      · subst hne
        exact hfirst
      · rw [piecesFrom_of_refused hne h]
        refine .broken (.begun hne hm fun b' hb' => ?_) hfirst
        obtain rfl := Option.some.inj hb'
        exact (extend_eq_refused_iff hm).1 h
    · exact hgoes hm h

theorem piecesFrom_begun (hm : Begun m) (x : Bytes) : piecesFrom [] (m ++ x) = piecesFrom m x := by
  suffices hfrom : ∀ m' r, m = m' ++ r → piecesFrom m' (r ++ x) = piecesFrom m x from hfrom [] m rfl
  intro m' r hmr
  induction r generalizing m' with
  | nil => rw [hmr, List.append_nil, List.nil_append]
  | cons b r ih =>
    obtain ⟨c, b', r', hc⟩ := hm.exists_encodes
    have hc : Encodes (m' ++ b :: (r ++ b' :: r')) c := by simpa [hmr] using hc
    have hextend : extend m' b = .begun (m' ++ [b]) := (extend_of_encodes hc).trans (if_neg (by simp))
    rw [List.cons_append, piecesFrom_of_begun hextend]
    exact ih _ (by rw [hmr, List.append_assoc]; rfl)

theorem Breaks.piecesFrom_eq (h : Breaks x m) : piecesFrom [] (m ++ x) = .broken m :: piecesFrom [] x := by
  cases h with
  | stray h => exact piecesFrom_of_stray ((extend_eq_refused_iff begun_nil).2 h) x
  | begun hne hm hx =>
    rw [piecesFrom_begun hm]
    cases x with
    | nil => rw [piecesFrom, if_neg (by simpa using hne)]; rfl
    | cons b x => exact piecesFrom_of_refused hne ((extend_eq_refused_iff hm).2 (hx b rfl)) x

/-- **There is one way to cut bytes into pieces**, and the reader finds it. -/
theorem pieces_eq_iff : pieces x = ps ↔ Cut x ps := by
  constructor
  · rintro rfl
    exact cut_piecesFrom begun_nil x
  · intro h
    unfold pieces
    induction h with
    | nil => rfl
    | @char c rest ps _ ih => rw [(encodes_encodeChar c).piecesFrom, ih]
    | broken hrun _ ih => rw [hrun.piecesFrom_eq, ih]

end Cut

/-! ### What is shown -/

/-- The bytes of a piece. -/
def Piece.bytes : Piece → Bytes
  | .char c => encodeChar c
  | .broken run => run

/-- No byte is lost. -/
theorem Cut.bytes_eq {x : Bytes} {ps : List Piece} (h : Cut x ps) : ps.flatMap Piece.bytes = x := by
  induction h with
  | nil => rfl
  | char _ ih => rw [List.flatMap_cons, ih]; rfl
  | broken _ _ ih => rw [List.flatMap_cons, ih]; rfl

theorem flatMap_bytes_pieces (x : Bytes) : (pieces x).flatMap Piece.bytes = x := (pieces_eq_iff.1 rfl).bytes_eq

/-- Bytes are shown with a character below 128 at their end only if its byte is their last. -/
theorem getLast?_of_shown {x : Bytes} {c : Char} (h : (shown x).getLast? = some c) (hc : c.toNat < 0x80) :
    x.getLast? = some (UInt8.ofNat c.toNat) := by
  rw [shown, List.getLast?_map] at h
  obtain ⟨p, hp, rfl⟩ := Option.map_eq_some_iff.1 h
  obtain ⟨init, hinit⟩ := List.getLast?_eq_some_iff.1 hp
  rw [← flatMap_bytes_pieces x, hinit, List.flatMap_append, List.flatMap_singleton]
  cases p with
  | char c =>
    have hbytes : Piece.bytes (.char c) = [UInt8.ofNat c.toNat] := if_pos hc
    rw [hbytes, List.getLast?_concat]
    rfl
  | broken run =>
    have hlarge : ¬ replacement.toNat < 0x80 := by decide
    exact absurd hc hlarge

theorem shown_eq_nil_iff {x : Bytes} : shown x = [] ↔ x = [] := by
  constructor
  · intro h
    rw [← flatMap_bytes_pieces x, List.map_eq_nil_iff.1 h]
    rfl
  · rintro rfl
    rfl

theorem shown_append_of_small {x z : Bytes} (hz : ∀ b ∈ z, b.toNat < 0x80) :
    shown (x ++ z) = shown x ++ z.map fun b => Char.ofNat b.toNat := by
  induction z generalizing x with
  | nil => simp
  | cons b z ih =>
    obtain ⟨hb, hz⟩ := List.forall_mem_cons.1 hz
    have hrest : shown z = z.map fun b => Char.ofNat b.toNat := ih (x := []) hz
    rw [shown_append_small hb, hrest, List.map_cons]

/-! ### Which bytes are text -/

section Sound
variable {run rest x : Bytes}

/-- A broken run may become a character if it begins one. -/
theorem Breaks.opens_iff (h : Breaks rest run) : opens run = true ↔ Begun run := by
  have hstarts {b : UInt8} (hb : width b ≠ 0) : StartsChar [b] := by
    by_cases hone : width b = 1
    · exact Encodes.startsChar (r := []) (.one hone)
    · exact (begun_first hb hone).startsChar
  cases h with
  | @stray b h =>
    have hwidth : width b = 0 := by_contra fun hb => h (hstarts hb)
    simp only [opens, hwidth]
    exact iff_of_false (by decide) fun hrun => h hrun.startsChar
  | begun hne hrun =>
    refine iff_of_true ?_ hrun
    rcases hrun.places with rfl | ⟨a, rfl, ha⟩ | ⟨a, b, rfl, ha, -⟩ | ⟨a, b, d, rfl, ha, -⟩
    · exact absurd rfl hne
    · rcases ha with ha | ha | ha <;> simp [opens, ha]
    · rcases ha with ha | ha <;> simp [opens, ha]
    · simp [opens, ha]

/-- The flaw of a broken run with nothing after it that begins a character has no length. -/
theorem Breaks.eq_ofRun_iff (h : Breaks rest run) {flaw : Flaw} {index : Nat} :
    flaw = .ofRun index run rest.isEmpty ↔ flaw.index = index ∧
      (rest = [] ∧ Begun run ∧ flaw.size = none ∨ ¬ (rest = [] ∧ Begun run) ∧ flaw.size = some run.length) := by
  have hlast : (rest.isEmpty && opens run) = true ↔ rest = [] ∧ Begun run := by
    rw [Bool.and_eq_true, List.isEmpty_iff, h.opens_iff]
  obtain ⟨index', size⟩ := flaw
  rw [Flaw.ofRun, Flaw.mk.injEq]
  refine and_congr_right fun _ => ?_
  by_cases hrest : rest = [] ∧ Begun run
  · rw [if_pos (hlast.2 hrest)]
    exact ⟨fun hsize => .inl ⟨hrest.1, hrest.2, hsize⟩, fun h => (h.resolve_right fun h => h.1 hrest).2.2⟩
  · rw [if_neg (mt hlast.1 hrest)]
    exact ⟨fun hsize => .inr ⟨hrest, hsize⟩, fun h => (h.resolve_left fun h => hrest ⟨h.1, h.2.1⟩).2⟩

theorem soundFrom_broken (index : Nat) (s : List Char) (r : List Piece) :
    soundFrom index (Piece.ofText s ++ .broken run :: r) =
      .error (.ofRun (index + (s.flatMap encodeChar).length) run r.isEmpty) := by
  induction s generalizing index with
  | nil => rfl
  | cons c s ih =>
    change (soundFrom (index + (encodeChar c).length) (Piece.ofText s ++ .broken run :: r)).map _ = _
    rw [ih, List.flatMap_cons, List.length_append, Nat.add_assoc]
    rfl

theorem exists_broken (ps : List Piece) :
    (∃ s, ps = Piece.ofText s) ∨ ∃ s run r, ps = Piece.ofText s ++ .broken run :: r := by
  induction ps with
  | nil => exact .inl ⟨[], rfl⟩
  | cons p ps ih =>
    cases p with
    | broken run => exact .inr ⟨[], run, ps, rfl⟩
    | char c =>
      obtain ⟨s, rfl⟩ | ⟨s, run, r, rfl⟩ := ih
      · exact .inl ⟨c :: s, rfl⟩
      · exact .inr ⟨c :: s, run, r, rfl⟩

theorem cut_ofText_append {s : List Char} {ps : List Piece} :
    Cut x (Piece.ofText s ++ ps) ↔ ∃ y, x = s.flatMap encodeChar ++ y ∧ Cut y ps := by
  induction s generalizing x with
  | nil => exact ⟨fun h => ⟨x, rfl, h⟩, fun ⟨y, hx, hy⟩ => hx ▸ hy⟩
  | cons c s ih =>
    constructor
    · intro h
      cases h with
      | char h =>
        obtain ⟨y, rfl, hy⟩ := ih.1 h
        exact ⟨y, by rw [List.flatMap_cons, List.append_assoc], hy⟩
    · rintro ⟨y, rfl, hy⟩
      rw [List.flatMap_cons, List.append_assoc]
      exact .char (ih.2 ⟨y, rfl, hy⟩)

theorem encode_ofList (s : List Char) : encode (String.ofList s) = s.flatMap encodeChar := by
  rw [encode, String.toList_ofList]

/-- Bytes encode a text, or they do so up to a broken run. -/
theorem exists_encode (x : Bytes) :
    (∃ s, x = encode s) ∨ ∃ s run rest, x = encode s ++ (run ++ rest) ∧ Breaks rest run := by
  have hcut : Cut x (pieces x) := pieces_eq_iff.1 rfl
  obtain ⟨s, hs⟩ | ⟨s, run, r, hr⟩ := exists_broken (pieces x)
  · rw [hs, ← List.append_nil (Piece.ofText s), cut_ofText_append] at hcut
    obtain ⟨y, rfl, hy⟩ := hcut
    cases hy
    exact .inl ⟨String.ofList s, by rw [encode_ofList, List.append_nil]⟩
  · rw [hr, cut_ofText_append] at hcut
    obtain ⟨y, rfl, hy⟩ := hcut
    cases hy with
    | broken hrun => exact .inr ⟨String.ofList s, run, _, by rw [encode_ofList], hrun⟩

/-- The flaw of bytes is where the text ends that they encode. The run there is told by its length, unless the bytes
end with it and it might have become a character. -/
theorem text_of_broken (s : String) (h : Breaks rest run) :
    text (encode s ++ (run ++ rest)) = .error (.ofRun (encode s).length run rest.isEmpty) := by
  have hpieces : pieces (encode s ++ (run ++ rest)) = Piece.ofText s.toList ++ .broken run :: pieces rest :=
    pieces_eq_iff.2 (cut_ofText_append.2 ⟨_, rfl, .broken h (pieces_eq_iff.1 rfl)⟩)
  have hempty : (pieces rest).isEmpty = rest.isEmpty := by
    rw [Bool.eq_iff_iff, List.isEmpty_iff, List.isEmpty_iff]
    exact List.map_eq_nil_iff.symm.trans shown_eq_nil_iff
  rw [text, hpieces, soundFrom_broken, Nat.zero_add, hempty]
  rfl

/-- **Bytes are text exactly if they encode it.** -/
theorem text_eq_ok_iff {s : String} : text x = .ok s ↔ x = encode s := by
  constructor
  · intro h
    obtain ⟨s', rfl⟩ | ⟨s', run, rest, rfl, hrun⟩ := exists_encode x
    · rw [text_encode] at h
      rw [Except.ok.inj h]
    · cases (text_of_broken s' hrun).symm.trans h
  · rintro rfl
    exact text_encode s

/-- **Bytes are no text exactly if they have a broken run**, of which the first is told. -/
theorem text_eq_error_iff {flaw : Flaw} : text x = .error flaw ↔
    ∃ s run rest, x = encode s ++ (run ++ rest) ∧ Breaks rest run ∧ flaw.index = (encode s).length ∧
      (rest = [] ∧ Begun run ∧ flaw.size = none ∨ ¬ (rest = [] ∧ Begun run) ∧ flaw.size = some run.length) := by
  constructor
  · intro h
    obtain ⟨s, rfl⟩ | ⟨s, run, rest, rfl, hrun⟩ := exists_encode x
    · cases (text_encode s).symm.trans h
    · have hflaw := Except.error.inj (h.symm.trans (text_of_broken s hrun))
      exact ⟨s, run, rest, rfl, hrun, hrun.eq_ofRun_iff.1 hflaw⟩
  · rintro ⟨s, run, rest, rfl, hrun, hflaw⟩
    rw [text_of_broken s hrun, hrun.eq_ofRun_iff.2 hflaw]

end Sound

end FlakeImage.Utf8
