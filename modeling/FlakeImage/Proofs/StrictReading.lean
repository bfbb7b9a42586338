import FlakeImage.Proofs.Grammar
import FlakeImage.Proofs.Utf8

/-!
# Reading strictly

A strict reading goes the same way as a loose one and stops at what it refuses. `Narrows` relates the two: where the
loose reader takes something off, the strict one takes off the same if it is proper, and otherwise calls the text
malformed. It is carried from the literals to whole texts, by induction on the depth. So a text is read strictly
exactly if it writes a tree of which every literal denotes something and which is nested no deeper than `maxDepth`
(`readStrict_eq_ok_iff`).
-/

namespace FlakeImage.Json

open Utf8 (Piece)

/-! ### Trees that are read strictly -/

mutual

/-- How deep arrays and objects are nested in a tree. -/
def Tree.depth : Tree → Nat
  | .array items => Tree.depths items + 1
  | .object members => Tree.memberDepths members + 1
  | _ => 0

/-- The greatest depth of trees. -/
def Tree.depths : List Tree → Nat
  | [] => 0
  | t :: r => max t.depth (Tree.depths r)

/-- The greatest depth of the values of members. -/
def Tree.memberDepths : List (Option String × Tree) → Nat
  | [] => 0
  | m :: r => max m.2.depth (Tree.memberDepths r)

end

namespace Tree
variable {d : Nat} {t : Tree}

/-- Every literal denotes something, and nothing is nested deeper than `d`. -/
def Proper (d : Nat) (t : Tree) : Prop := t.value?.isSome = true ∧ t.depth ≤ d

theorem values?_isSome {l : List Tree} : (values? l).isSome = true ↔ ∀ t ∈ l, t.value?.isSome = true := by
  induction l with
  | nil => simp [values?]
  | cons t r ih =>
    rw [List.forall_mem_cons, ← ih, values?]
    cases t.value? <;> simp

theorem members?_isSome {l : List (Option String × Tree)} :
    (members? l).isSome = true ↔ ∀ m ∈ l, m.1.isSome = true ∧ m.2.value?.isSome = true := by
  induction l with
  | nil => simp [members?]
  | cons m r ih =>
    obtain ⟨name, t⟩ := m
    rw [List.forall_mem_cons, ← ih, members?]
    cases name with
    | none => simp
    | some name => cases t.value? <;> simp

theorem depths_le {l : List Tree} : depths l ≤ d ↔ ∀ t ∈ l, t.depth ≤ d := by
  induction l with
  | nil => simp [depths]
  | cons t r ih => rw [List.forall_mem_cons, ← ih, depths, max_le_iff]

theorem memberDepths_le {l : List (Option String × Tree)} : memberDepths l ≤ d ↔ ∀ m ∈ l, m.2.depth ≤ d := by
  induction l with
  | nil => simp [memberDepths]
  | cons m r ih => rw [List.forall_mem_cons, ← ih, memberDepths, max_le_iff]

theorem proper_array {l : List Tree} : Proper (d + 1) (.array l) ↔ ∀ t ∈ l, Proper d t := by
  unfold Proper
  rw [value?, Option.isSome_map, values?_isSome, depth, Nat.add_le_add_iff_right, depths_le]
  exact forall₂_and.symm

theorem proper_object {l : List (Option String × Tree)} :
    Proper (d + 1) (.object l) ↔ ∀ m ∈ l, m.1.isSome = true ∧ Proper d m.2 := by
  unfold Proper
  rw [value?, Option.isSome_map, members?_isSome, depth, Nat.add_le_add_iff_right, memberDepths_le]
  constructor
  · intro h m hm
    exact ⟨(h.1 m hm).1, (h.1 m hm).2, h.2 m hm⟩
  · intro h
    exact ⟨fun m hm => ⟨(h m hm).1, (h m hm).2.1⟩, fun m hm => (h m hm).2.2⟩

end Tree

/-! ### One reader narrows another -/

/-- Where the second result is good and proper the first is the same; where it is improper the first is an error. -/
inductive Narrows {ρ : Type} (P : ρ → Prop) : Except Fault ρ → Except Fault ρ → Prop
  | taken {r : ρ} (h : P r) : Narrows P (.ok r) (.ok r)
  | refused {r : ρ} (h : ¬ P r) : Narrows P (.error .malformed) (.ok r)
  | failed (e e' : Fault) : Narrows P (.error e) (.error e')

namespace Narrows
variable {ρ ρ' : Type} {P : ρ → Prop} {Q : ρ' → Prop} {x y : Except Fault ρ}

theorem eq_ok_iff (h : Narrows P x y) {r : ρ} : x = .ok r ↔ y = .ok r ∧ P r := by
  cases h with
  | taken h =>
    constructor
    · rintro ⟨⟩
      exact ⟨rfl, h⟩
    · exact And.left
  | refused h =>
    constructor
    · nofun
    · rintro ⟨⟨⟩, hP⟩
      exact absurd hP h
  | failed e e' => simp

theorem eq_malformed (h : Narrows P x y) {r : ρ} (hy : y = .ok r) (hr : ¬ P r) : x = .error .malformed := by
  cases h with
  | taken h => obtain rfl := Except.ok.inj hy; exact absurd h hr
  | refused h => rfl
  | failed e e' => cases hy

theorem of_improper (h : ∀ r, y = .ok r → ¬ P r) : Narrows P (.error .malformed) y := by
  cases y with
  | error e => exact .failed _ e
  | ok r => exact .refused (h r rfl)

theorem bind (h : Narrows P x y) {f g : ρ → Except Fault ρ'} (hok : ∀ r, P r → Narrows Q (f r) (g r))
    (hno : ∀ r r', y = .ok r → ¬ P r → g r = .ok r' → ¬ Q r') : Narrows Q (x >>= f) (y >>= g) := by
  cases h with
  | taken h => exact hok _ h
  | @refused r h => exact of_improper fun r' hr' => hno r r' rfl h hr'
  | failed e e' => exact .failed e e'

theorem map (h : Narrows P x y) {f : ρ → ρ'} (hf : ∀ r, Q (f r) ↔ P r) : Narrows Q (x.map f) (y.map f) := by
  cases h with
  | taken h => exact .taken ((hf _).2 h)
  | refused h => exact .refused fun hq => h ((hf _).1 hq)
  | failed e e' => exact .failed e e'

theorem refl {x : Except Fault ρ} (h : ∀ r, x = .ok r → P r) : Narrows P x x := by
  cases x with
  | error e => exact .failed e e
  | ok r => exact .taken (h r rfl)

end Narrows

/-! ### Literals -/

theorem unpaired_narrows (seen : Seen) (high : Option Nat) :
    Narrows (fun _ => high.isNone = true) (unpaired true seen high) (unpaired false seen high) := by
  unfold unpaired
  cases high with
  | none => exact .taken rfl
  | some h => exact .refused nofun

theorem unpaired_lost {seen seen' : Seen} {high : Option Nat} (h : unpaired false seen high = .ok seen')
    (hlost : seen = none ∨ ¬ high.isNone = true) : seen' = none := by
  rw [unpaired_loose] at h
  obtain rfl := Except.ok.inj h
  rcases hlost with rfl | hopen
  · exact ite_self none
  · exact if_neg hopen

theorem not_isLowSurrogate {n : Nat} (h : isHighSurrogate n = true) : isLowSurrogate n = false := by
  simp only [isHighSurrogate, Bool.and_eq_true, decide_eq_true_eq] at h
  simp only [isLowSurrogate, Bool.and_eq_false_iff, decide_eq_false_iff_not]
  omega

theorem addSingle_low {strict : Bool} {seen : Seen} {n : Nat} (h : isLowSurrogate n = true) :
    addSingle strict seen n = if strict then .error .malformed else .ok (none, none) := by
  have hhigh : isHighSurrogate n = false := by
    by_contra hhigh
    simp [not_isLowSurrogate (Bool.eq_true_of_not_eq_false hhigh)] at h
  simp [addSingle, h, hhigh]

theorem addSingle_none {n : Nat} {r : Seen × Option Nat} (h : addSingle false none n = .ok r) : r.1 = none := by
  unfold addSingle at h
  split at h
  · rw [← Except.ok.inj h]
  · split at h
    · rw [← Except.ok.inj h]
      rfl
    · rw [← Except.ok.inj h]

theorem addUnit_lost {seen : Seen} {high : Option Nat} {n : Nat} {r : Seen × Option Nat}
    (h : addUnit false seen high n = .ok r) (hlost : seen = none ∨ ¬ isLowSurrogate n = high.isSome) : r.1 = none := by
  cases high with
  | none =>
    rcases hlost with rfl | hn
    · exact addSingle_none h
    · have hlow : isLowSurrogate n = true := by simpa using hn
      rw [addUnit, addSingle_low hlow] at h
      rw [← Except.ok.inj h]
  | some p =>
    simp only [addUnit, Bool.false_eq_true, if_false] at h
    split at h
    · next hlow =>
      obtain rfl := hlost.resolve_right fun hn => hn hlow
      rw [← Except.ok.inj h]
      rfl
    · exact addSingle_none h

/-- A unit has to be a second half if a first half is open, and only then. -/
theorem addUnit_narrows (seen : Seen) (high : Option Nat) (n : Nat) :
    Narrows (fun _ => isLowSurrogate n = high.isSome) (addUnit true seen high n) (addUnit false seen high n) := by
  by_cases hn : isLowSurrogate n = high.isSome
  · have hsame : addUnit true seen high n = addUnit false seen high n := by
      cases high with
      | none => simp [addUnit, addSingle, hn]
      | some p => simp [addUnit, hn]
    rw [hsame]
    exact .refl fun _ _ => hn
  · have hstrict : addUnit true seen high n = .error .malformed := by
      cases high with
      | none =>
        have hlow : isLowSurrogate n = true := by simpa using hn
        exact addSingle_low hlow
      | some p =>
        have hlow : isLowSurrogate n = false := by simpa using hn
        simp [addUnit, hlow]
    obtain ⟨r, hr⟩ := @addUnit_loose seen high n
    rw [hstrict, hr]
    exact .refused hn

/-- Once a part of a string denotes nothing, the string does not. -/
theorem stringFrom_lost {high : Option Nat} {s : Input} {r : Taken (Option String)}
    (h : stringFrom false none high s = .ok r) : r.value = none := by
  generalize hseen : (none : Seen) = seen at h
  fun_induction stringFrom false seen high s with
  | case1 | case3 | case4 | case6 | case7 | case9 | case10 => cases h
  | case2 seen high s =>
    obtain ⟨seen', hseen', h⟩ := bind_eq_ok h
    obtain rfl := unpaired_lost hseen' (.inl hseen.symm)
    obtain rfl := Except.ok.inj h
    rfl
  | case5 seen high _ _ _ _ s n hn ih =>
    obtain ⟨r', hr', h⟩ := bind_eq_ok h
    exact ih r' (addUnit_lost hr' (.inl hseen.symm)).symm h
  | case8 seen high e s _ _ c hc ih | case11 seen high c s _ _ _ _ _ _ _ ih =>
    obtain ⟨seen', hseen', h⟩ := bind_eq_ok h
    obtain rfl := unpaired_lost hseen' (.inl hseen.symm)
    exact ih none rfl h
  | case12 seen high b s ih =>
    obtain ⟨seen', hseen', h⟩ := bind_eq_ok h
    exact ih rfl h

/-- A string is read strictly if all of it denotes something. -/
theorem stringFrom_narrows (seen : Seen) (high : Option Nat) (s : Input) :
    Narrows (fun r => r.value.isSome = true) (stringFrom true seen high s) (stringFrom false seen high s) := by
  have hlost {high : Option Nat} {s : Input} {seen' : Seen} {r : Taken (Option String)} (hseen' : seen' = none)
      (h : stringFrom false seen' high s = .ok r) : ¬ r.value.isSome = true := by
    subst hseen'
    simp [stringFrom_lost h]
  -- An escape takes several pieces at once, so the induction is on the length of the text.
  induction hn : s.length using Nat.strong_induction_on generalizing seen high s with
  | h n ih =>
    have hgoes (f : Seen → Seen) (hf : f none = none) (s : Input) (hs : s.length < n) :
        Narrows (fun r => r.value.isSome = true)
          (unpaired true seen high >>= fun seen => stringFrom true (f seen) none s)
          (unpaired false seen high >>= fun seen => stringFrom false (f seen) none s) := by
      refine (unpaired_narrows seen high).bind (fun seen' _ => ih _ hs _ _ _ rfl) fun seen' r hseen' hopen hr => ?_
      rw [unpaired_lost hseen' (.inr hopen), hf] at hr
      exact hlost rfl hr
    unfold stringFrom
    split
    · exact .failed _ _
    · refine (unpaired_narrows seen high).bind (fun seen' _ => ?_) fun seen' r hseen' hopen hr => ?_
      · cases seen' with
        | none => exact .refused nofun
        | some l => exact .taken rfl
      · obtain rfl := unpaired_lost hseen' (.inr hopen)
        obtain rfl := Except.ok.inj hr
        exact nofun
    · exact .failed _ _
    · split
      · exact .failed _ _
      · refine (addUnit_narrows seen high _).bind (fun r _ => ?_) fun r r' hr hsingle hr' => ?_
        · exact ih _ (by simp at hn; omega) r.1 r.2 _ rfl
        · exact hlost (addUnit_lost hr (.inr hsingle)) hr'
    · exact .failed _ _
    · split
      · exact .failed _ _
      · exact hgoes _ rfl _ (by simp at hn; omega)
    · exact .failed _ _
    · split
      · exact .failed _ _
      · exact hgoes _ rfl _ (by simp at hn; omega)
    · exact hgoes _ rfl _ (by simp at hn; omega)

theorem numberTree_narrows (d : Nat) (negative : Bool) (s : Input) :
    Narrows (fun r => r.value.Proper d) (numberTree true negative s) (numberTree false negative s) := by
  unfold numberTree
  cases numberText negative s with
  | error e => exact .failed e e
  | ok r =>
    simp only [bind, Except.bind]
    cases r.value.num? with
    | none => exact .refused fun h => nomatch h.1
    | some n => exact .taken ⟨rfl, Nat.zero_le d⟩

/-! ### Arrays and objects -/

section Parts
variable {d : Nat} {item item' : ItemReader} (h : ∀ s, Narrows (fun r => r.value.Proper d) (item s) (item' s))
include h

theorem itemsFrom_narrows (n : Nat) (s : Input) :
    Narrows (fun r => ∀ t ∈ r.value, Tree.Proper d t) (itemsFrom item n s) (itemsFrom item' n s) := by
  induction n generalizing s with
  | zero => exact .failed _ _
  | succ n ih =>
    refine (h s).bind (fun r hr => ?_) fun r r' hr hno hr' hall => ?_
    · split
      · exact .failed _ _
      · exact .taken (by simpa using hr)
      · refine (ih _).map fun r' => ?_
        exact List.forall_mem_cons.trans (and_iff_right hr)
      · exact .failed _ _
    · -- The item that is not proper stays in front.
      split at hr'
      · cases hr'
      · obtain rfl := Except.ok.inj hr'
        exact hno (hall _ List.mem_cons_self)
      · obtain ⟨r'', -, rfl⟩ := map_eq_ok hr'
        exact hno (hall _ List.mem_cons_self)
      · cases hr'

theorem items_narrows (room : Nat) (s : Input) :
    Narrows (fun r => ∀ t ∈ r.value, Tree.Proper d t) (items room item s) (items room item' s) := by
  unfold items
  split
  · exact .failed _ _
  · exact .taken nofun
  · exact itemsFrom_narrows h room _

theorem member_narrows (s : Input) :
    Narrows (fun r => r.value.1.isSome = true ∧ r.value.2.Proper d) (member true item s) (member false item' s) := by
  refine (stringFrom_narrows (some []) none s).bind (fun r hr => ?_) fun r r' hr hno hr' hmember => ?_
  · split
    · exact .failed _ _
    · exact (h _).map fun r' => and_iff_right hr
    · exact .failed _ _
  · split at hr'
    · cases hr'
    · obtain ⟨r'', -, rfl⟩ := map_eq_ok hr'
      exact hno hmember.1
    · cases hr'

theorem membersFrom_narrows (n : Nat) (s : Input) :
    Narrows (fun r => ∀ m ∈ r.value, m.1.isSome = true ∧ Tree.Proper d m.2)
      (membersFrom true item n s) (membersFrom false item' n s) := by
  induction n generalizing s with
  | zero => exact .failed _ _
  | succ n ih =>
    refine (member_narrows h s).bind (fun r hr => ?_) fun r r' hr hno hr' hall => ?_
    · split
      · exact .failed _ _
      · exact .taken (by simpa using hr)
      · split
        · exact .failed _ _
        · refine (ih _).map fun r' => ?_
          exact List.forall_mem_cons.trans (and_iff_right hr)
        · exact .failed _ _
      · exact .failed _ _
    · split at hr'
      · cases hr'
      · obtain rfl := Except.ok.inj hr'
        exact hno (hall _ List.mem_cons_self)
      · split at hr'
        · cases hr'
        · obtain ⟨r'', -, rfl⟩ := map_eq_ok hr'
          exact hno (hall _ List.mem_cons_self)
        · cases hr'
      · cases hr'

theorem members_narrows (room : Nat) (s : Input) :
    Narrows (fun r => ∀ m ∈ r.value, m.1.isSome = true ∧ Tree.Proper d m.2)
      (members true room item s) (members false room item' s) := by
  unfold members
  split
  · exact .failed _ _
  · exact .taken nofun
  · exact membersFrom_narrows h room _
  · exact .failed _ _

end Parts

/-! ### Values -/

/-- The items and members that a value has are read by `inner` strictly and by `inner'` loosely. -/
inductive Inner : Nat → Option ItemReader → Option ItemReader → Prop
  | none {inner' : Option ItemReader} : Inner 0 none inner'
  | some {d : Nat} {item item' : ItemReader} (h : ∀ s, Narrows (fun r => r.value.Proper d) (item s) (item' s)) :
    Inner (d + 1) (some item) (some item')

theorem valueWith_narrows {room d : Nat} {inner inner' : Option ItemReader} (h : Inner d inner inner')
    (s : Input) :
    Narrows (fun r => r.value.Proper d) (valueWith true room inner s) (valueWith false room inner' s) := by
  have hword {t : Tree} (ht : t.value?.isSome = true) (hdepth : t.depth = 0) (w : List Char) (s : Input) :
      Narrows (fun r => r.value.Proper d) ((expect w s).map fun s => Taken.mk t s)
        ((expect w s).map fun s => Taken.mk t s) := .refl fun r hr => by
    obtain ⟨s', -, rfl⟩ := map_eq_ok hr
    exact ⟨ht, hdepth ▸ Nat.zero_le d⟩
  unfold valueWith
  split
  · exact .failed _ _
  · exact hword rfl rfl _ _
  · exact hword rfl rfl _ _
  · exact hword rfl rfl _ _
  · refine (stringFrom_narrows (some []) none _).map fun r => ?_
    exact (and_iff_left (Nat.zero_le d)).trans (by rw [Taken.map, Tree.value?, Option.isSome_map])
  · exact numberTree_narrows ..
  · cases h with
    | none =>
      refine .of_improper fun r hr hproper => ?_
      split at hr
      · cases hr
      · obtain ⟨r', -, rfl⟩ := map_eq_ok hr
        exact absurd hproper.2 (Nat.not_succ_le_zero _)
    | some h =>
      refine (items_narrows h room _).map fun r => ?_
      exact Tree.proper_array
  · cases h with
    | none =>
      refine .of_improper fun r hr hproper => ?_
      split at hr
      · cases hr
      · obtain ⟨r', -, rfl⟩ := map_eq_ok hr
        exact absurd hproper.2 (Nat.not_succ_le_zero _)
    | some h =>
      refine (members_narrows h room _).map fun r => ?_
      exact Tree.proper_object
  · split
    · exact numberTree_narrows ..
    · exact .failed _ _
  · exact .failed _ _

theorem valueWithin_narrows (room : Nat) {d d' : Nat} (hd : d ≤ d') (s : Input) :
    Narrows (fun r => r.value.Proper d) (valueWithin true room d s) (valueWithin false room d' s) := by
  induction d generalizing d' s with
  | zero =>
    -- Here the strict reader takes no array and no object, whatever the loose one does with them.
    obtain ⟨inner, hinner⟩ := exists_valueWithin false room d'
    rw [hinner]
    exact valueWith_narrows .none s
  | succ d ih =>
    cases d' with
    | zero => exact absurd hd (by simp)
    | succ d' => exact valueWith_narrows (.some fun s => ih (Nat.le_of_succ_le_succ hd) s) s

theorem readStrict_narrows {d : Nat} (hd : maxDepth ≤ d) (s : Input) :
    Narrows (Tree.Proper maxDepth) (Tree.readStrict s) (wholeText false d s) := by
  refine (valueWithin_narrows (s.length + 1) hd s).bind (fun r hr => ?_) fun r t _ hno ht hproper => ?_
  · split
    · exact .taken hr
    · exact .failed _ _
  · split at ht
    · obtain rfl := Except.ok.inj ht
      exact hno hproper
    · cases ht

/-- **The strict reader is exact**: it reads a text as a tree if and only if the text writes this tree and the tree is
proper. -/
theorem readStrict_eq_ok_iff {l : List Char} {t : Tree} :
    Tree.readStrict (Piece.ofText l) = .ok t ↔ Writes (.element t) l ∧ t.Proper maxDepth := by
  rw [(readStrict_narrows (Nat.le_max_left maxDepth l.length) _).eq_ok_iff,
    wholeText_eq_ok_iff (Nat.le_max_right maxDepth l.length)]

/-- A text that writes any other tree is malformed. -/
theorem Writes.readStrict_eq_malformed {l : List Char} {t : Tree} (h : Writes (.element t) l)
    (ht : ¬ t.Proper maxDepth) : Tree.readStrict (Piece.ofText l) = .error .malformed :=
  (readStrict_narrows (Nat.le_max_left maxDepth l.length) _).eq_malformed
    ((wholeText_eq_ok_iff (Nat.le_max_right maxDepth l.length)).2 h) ht

/-! ### Values of texts -/

section Text
variable {s : String} {t : Tree} {v : Value}

/-- **What a text is read as**: the value of the tree that it writes, if the tree is not nested too deep. -/
theorem ofBytes_encode_eq_ok_iff : Value.ofBytes (Utf8.encode s) = .ok v ↔
    ∃ t, Writes (.element t) s.toList ∧ t.depth ≤ maxDepth ∧ t.value? = some v := by
  unfold Value.ofBytes Value.read
  rw [Utf8.pieces_encode]
  constructor
  · intro h
    obtain ⟨t, hread, h⟩ := bind_eq_ok h
    obtain ⟨hwrites, hproper⟩ := readStrict_eq_ok_iff.1 hread
    split at h
    · next v' hv =>
      obtain rfl := Except.ok.inj h
      exact ⟨t, hwrites, hproper.2, hv⟩
    · cases h
  · rintro ⟨t, hwrites, hdepth, hv⟩
    have hread := readStrict_eq_ok_iff.2 ⟨hwrites, Option.isSome_of_eq_some hv, hdepth⟩
    simp only [hread, bind, Except.bind, hv]

/-- A text that is nested too deep is malformed. -/
theorem Writes.ofBytes_eq_malformed (h : Writes (.element t) s.toList) (ht : maxDepth < t.depth) :
    Value.ofBytes (Utf8.encode s) = .error .malformed := by
  have hread := h.readStrict_eq_malformed fun hproper => absurd hproper.2 (Nat.not_le.2 ht)
  unfold Value.ofBytes Value.read
  rw [Utf8.pieces_encode, hread]
  rfl

end Text

end FlakeImage.Json
