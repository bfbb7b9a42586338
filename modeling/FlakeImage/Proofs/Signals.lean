import FlakeImage.Proofs.Interruption
import FlakeImage.Timeline.Cancellation
import Mathlib.Logic.Relation

/-!
# Signals by their history

A `History` tells which signals are clones of which and when each was to be cancelled. A signal is cancelled at a
time exactly if one of its `Kin` was to be by then (`Leads.conforms`), whatever has been done in between; and a
race with work goes as that time says.
-/

namespace FlakeImage

namespace Deadline

theorem passed_earlier (a b : Deadline) (t : Time) : (a.earlier b).passed t = (a.passed t || b.passed t) := by
  cases a <;> cases b <;> simp [earlier, passed, Bool.decide_or]

/-- A request for a time that is not before the deadline changes nothing. -/
theorem earlier_eq_self {d : Deadline} {t : Time} (h : d.passed t = true) : d.earlier (some t) = d := by
  cases d with
  | none => cases h
  | some c => exact congrArg some (Nat.min_eq_left (of_decide_eq_true h))

end Deadline

namespace Signals

/-! ### Histories -/

/-- What has been done to signals: how many there are, which of them is a clone of which, and the cancellations, each
of a signal at a time. -/
structure History where
  count : Nat := 1
  clones : List (Nat × Nat) := []
  requests : List (Nat × Time) := []

namespace History

/-- An operation that begins at a time. -/
def note (h : History) (now : Time) : Op → History
  | .new => { h with count := h.count + 1 }
  | .clone i => { h with count := h.count + 1, clones := (i, h.count) :: h.clones }
  | .cancel i => { h with requests := (i, now) :: h.requests }
  | .cancelAfter i ms => { h with requests := (i, now + ms) :: h.requests }
  | _ => h

/-- One is a clone of the other, over any number of clones. -/
def Kin (h : History) : Nat → Nat → Prop := Relation.EqvGen fun i j => (i, j) ∈ h.clones

/-- Some signal of the kin was to be cancelled by the time. -/
def CancelledBy (h : History) (i : Nat) (t : Time) : Prop := ∃ j s, (j, s) ∈ h.requests ∧ h.Kin i j ∧ s ≤ t

/-- The first time at which some signal of the kin was to be cancelled. -/
def CancelledFirst (h : History) (i : Nat) (c : Time) : Prop :=
  h.CancelledBy i c ∧ ∀ t, h.CancelledBy i t → c ≤ t

/-- How a race goes between a signal and work that begins at `t` and may have an end. -/
inductive Race (h : History) (i : Nat) (t : Time) (length : Option Nat) : Answer → Time → Prop
  | passed {ms : Nat} (hlength : length = some ms) (hlater : ∀ c, h.CancelledFirst i c → t + ms < c) :
    Race h i t length .passed (t + ms)
  | cancelled {c : Time} (hfirst : h.CancelledFirst i c) (hlength : ∀ ms, length = some ms → c ≤ t + ms) :
    Race h i t length .cancelled (max t c)

end History

/-- The signal is there. A cancellation that is to come takes some time, for one that is due at once comes no earlier
than the next wait. -/
def Op.Fits (count : Nat) : Op → Prop
  | .new | .wait _ => True
  | .cancelAfter i ms => i < count ∧ 0 < ms
  | .clone i | .cancel i | .isCancelled i | .check i | .cancelled i | .guard i _ => i < count

/-- The signal that an operation cancels, now or later. -/
def Op.cancels? : Op → Option Nat
  | .cancel i | .cancelAfter i _ => some i
  | _ => none

/-- The states that operations lead to, each with its history. -/
inductive Leads (limit : Nat) (s : Signals) (h : History) : Signals → History → Prop
  | refl : Leads limit s h s h
  | step {s' : Signals} {h' : History} {op : Op} (hs : Leads limit s h s' h') (hop : op.Fits h'.count) :
    Leads limit s h (s'.step limit op).1 (h'.note s'.now op)

/-- A signal as it is seen by work that begins now. -/
def seen (s : Signals) (i : Nat) : Cancel :=
  match s.deadline i with
  | none => .never
  | some c => if c ≤ s.now then .already else .later c

/-! ### What an operation does to the signals -/

section Views
variable {s : Signals} {i : Nat}

@[simp] theorem classOf_cancelClass (c : Nat) (t : Time) : (s.cancelClass c t).classOf i = s.classOf i := by
  simp [classOf, cancelClass]

theorem classOf_add (hi : i < s.classes.length) : s.add.classOf i = s.classOf i := by
  simp [classOf, add, List.getD_eq_getElem?_getD, List.getElem?_append_left hi, List.getElem?_eq_getElem hi]

theorem classOf_add_length : s.add.classOf s.classes.length = s.cancelAt.length := by
  simp [classOf, add]

theorem getD_add (k : Nat) : s.add.cancelAt.getD k none = s.cancelAt.getD k none := by
  have happend : s.add.cancelAt = s.cancelAt ++ [none] := rfl
  rw [happend, List.getD_eq_getElem?_getD, List.getD_eq_getElem?_getD]
  rcases Nat.lt_or_ge k s.cancelAt.length with hk | hk
  · rw [List.getElem?_append_left hk]
  · rw [List.getElem?_append_right hk, List.getElem?_eq_none hk]
    cases k - s.cancelAt.length <;> rfl

theorem classOf_clone (j : Nat) (hi : i < s.classes.length) : (s.clone j).classOf i = s.classOf i := by
  simp [classOf, clone, List.getD_eq_getElem?_getD, List.getElem?_append_left hi, List.getElem?_eq_getElem hi]

theorem classOf_clone_length (j : Nat) : (s.clone j).classOf s.classes.length = s.classOf j := by
  simp [classOf, clone]

theorem getD_cancelClass {c k : Nat} (hc : c < s.cancelAt.length) (t : Time) :
    (s.cancelClass c t).cancelAt.getD k none =
      if c = k then (s.cancelAt.getD k none).earlier (some t) else s.cancelAt.getD k none := by
  have hmodify : (s.cancelClass c t).cancelAt = s.cancelAt.modify c fun d => d.earlier (some t) := rfl
  rw [hmodify, List.getD_eq_getElem?_getD, List.getD_eq_getElem?_getD, List.getElem?_modify]
  by_cases hck : c = k
  · subst hck
    simp [List.getElem?_eq_getElem hc]
  · simp [hck]

/-- A class that is cancelled by then already is left as it is. -/
theorem cancelClass_eq_self {c : Nat} {t : Time} (h : (s.cancelAt.getD c none).passed t = true) :
    s.cancelClass c t = s := by
  have hsame : s.cancelAt.modify c (fun d => d.earlier (some t)) = s.cancelAt := by
    refine List.ext_getElem? fun k => ?_
    rw [List.getElem?_modify]
    by_cases hck : c = k
    · subst hck
      rw [List.getD_eq_getElem?_getD] at h
      cases hd : s.cancelAt[c]? with
      | none => simp
      | some d =>
        rw [hd] at h
        have hd' : d.earlier (some t) = d := Deadline.earlier_eq_self h
        simp [hd']
    · simp [hck]
  unfold cancelClass
  rw [hsame]

theorem waiting_of_due (h : s.due = []) : s.waiting = s := by
  obtain ⟨classes, cancelAt, now, due⟩ := s
  obtain rfl : due = [] := h
  rfl

theorem settle_eq_moveTo (limit : Nat) {a : Option (Time × Answer)} (ha : ∀ x ∈ a, s.now ≤ x.1) :
    ∃ t, s.now ≤ t ∧ (s.settle limit a).1 = s.moveTo t := by
  rcases a with _ | ⟨t, x⟩
  · exact ⟨_, Nat.le_add_right .., rfl⟩
  · rw [settle]
    split
    · exact ⟨t, ha _ rfl, rfl⟩
    · exact ⟨_, Nat.le_add_right .., rfl⟩

theorem await_eq_settle {limit : Nat} (hlimit : 0 < limit) (hdue : s.due = [])
    (answer : Signals → Option (Time × Answer)) : s.await limit answer = s.settle limit (answer s) := by
  rw [await, waiting_of_due hdue]
  cases ho : s.atOnce? (answer s) with
  | none => rfl
  | some a =>
    obtain ⟨⟨t, a'⟩, hanswer, hx⟩ := Option.bind_eq_some_iff.1 ho
    obtain ⟨rfl, rfl⟩ : t = s.now ∧ a' = a := by simpa using hx
    rw [hanswer, settle, if_pos (Nat.lt_add_of_pos_right hlimit)]
    rfl

theorem step_wait {limit : Nat} (hdue : s.due = []) (ms : Nat) :
    s.step limit (.wait ms) = ({ s with now := s.now + ms }, .done) := by
  rw [step, waiting_of_due hdue]
  split
  · next h => rw [h]; rfl
  · rfl

theorem now_cancelAfter (i ms : Nat) : (s.cancelAfter i ms).now = s.now := by
  unfold cancelAfter
  split <;> rfl

theorem step_guard {limit : Nat} (hlimit : 0 < limit) (hdue : s.due = []) (length : Option Nat) :
    s.step limit (.guard i length) = s.settle limit (s.race i length) :=
  await_eq_settle hlimit hdue (·.race i length)

theorem step_cancelled {limit : Nat} (hlimit : 0 < limit) (hdue : s.due = []) :
    s.step limit (.cancelled i) = s.settle limit (s.cancellation i) :=
  await_eq_settle hlimit hdue (·.cancellation i)

theorem le_of_mem_race {length : Option Nat} : ∀ x ∈ s.race i length, s.now ≤ x.1 := by
  intro x hx
  unfold race at hx
  rcases hd : s.deadline i with _ | c <;> rcases length with _ | ms <;> simp only [hd, Option.map] at hx
  · cases hx
  · cases hx; exact Nat.le_add_right ..
  · cases hx; exact Nat.le_max_left ..
  · split at hx
    · cases hx; exact Nat.le_max_left ..
    · cases hx; exact Nat.le_add_right ..

theorem le_of_mem_cancellation : ∀ x ∈ s.cancellation i, s.now ≤ x.1 := by
  intro x hx
  obtain ⟨c, -, rfl⟩ := Option.map_eq_some_iff.1 hx
  exact Nat.le_max_left ..

end Views

/-- What an operation that cancels such a signal, or none, does to the signals and to their history. -/
inductive Change (s : Signals) (h : History) : Option Nat → Signals → History → Prop
  | add : Change s h none s.add { h with count := h.count + 1 }
  | clone {i : Nat} (hi : i < h.count) :
    Change s h none (s.clone i) { h with count := h.count + 1, clones := (i, h.count) :: h.clones }
  | cancel {i : Nat} {t : Time} (hi : i < h.count) (ht : s.now ≤ t) :
    Change s h (some i) (s.cancelClass (s.classOf i) t) { h with requests := (i, t) :: h.requests }
  | wait {t : Time} (ht : s.now ≤ t) : Change s h none (s.moveTo t) h

theorem change_step {s : Signals} {h : History} {limit : Nat} (hlimit : 0 < limit) (hdue : s.due = []) {op : Op}
    (hop : op.Fits h.count) : Change s h op.cancels? (s.step limit op).1 (h.note s.now op) := by
  cases op with
  | new => exact .add
  | clone i => exact .clone hop
  | cancel i => exact .cancel hop Nat.le.refl
  | cancelAfter i ms =>
    obtain ⟨hi, hms⟩ := hop
    have hlater : (s.step limit (.cancelAfter i ms)).1 = s.cancelClass (s.classOf i) (s.now + ms) :=
      if_neg hms.ne'
    rw [hlater]
    exact .cancel hi (Nat.le_add_right ..)
  | isCancelled i => exact .wait Nat.le.refl
  | check i => exact .wait Nat.le.refl
  | cancelled i =>
    obtain ⟨t, ht, hmoved⟩ := settle_eq_moveTo limit (@le_of_mem_cancellation s i)
    rw [step_cancelled hlimit hdue, hmoved]
    exact .wait ht
  | guard i length =>
    obtain ⟨t, ht, hmoved⟩ := settle_eq_moveTo limit (@le_of_mem_race s i length)
    rw [step_guard hlimit hdue, hmoved]
    exact .wait ht
  | wait ms =>
    rw [step_wait hdue]
    exact .wait (Nat.le_add_right ..)

/-! ### States and their histories -/

/-- The classes of a state are the kin of its history, and each is cancelled as one of its signals was to be. -/
structure Faithful (s : Signals) (h : History) : Prop where
  length : s.classes.length = h.count
  classOf_lt : ∀ i < h.count, s.classOf i < s.cancelAt.length
  clones : ∀ i j, (i, j) ∈ h.clones → i < h.count ∧ j < h.count ∧ s.classOf i = s.classOf j
  kin : ∀ i < h.count, ∀ j < h.count, s.classOf i = s.classOf j → h.Kin i j
  requests : ∀ i t, (i, t) ∈ h.requests → i < h.count
  passed : ∀ k t, (s.cancelAt.getD k none).passed t = true ↔
    ∃ i u, (i, u) ∈ h.requests ∧ s.classOf i = k ∧ u ≤ t
  due : s.due = []

theorem History.Kin.mono {h h' : History} (hsub : h.clones ⊆ h'.clones) {i j : Nat} (hk : h.Kin i j) : h'.Kin i j :=
  Relation.EqvGen.mono (fun _ _ hc => hsub hc) _ _ hk

namespace Faithful
variable {s : Signals} {h : History}

theorem initial : Faithful .initial {} where
  length := rfl
  classOf_lt i hi := by
    obtain rfl : i = 0 := Nat.lt_one_iff.1 hi
    exact Nat.one_pos
  clones := nofun
  kin i hi j hj _ := by
    obtain rfl : i = 0 := Nat.lt_one_iff.1 hi
    obtain rfl : j = 0 := Nat.lt_one_iff.1 hj
    exact .refl 0
  requests := nofun
  passed k t := by
    have hnone : ((Signals.initial.cancelAt).getD k none).passed t = false := by
      cases k <;> rfl
    rw [hnone]
    exact ⟨nofun, nofun⟩
  due := rfl

theorem classOf_eq (hf : Faithful s h) {i j : Nat} (hk : h.Kin i j) : s.classOf i = s.classOf j :=
  (eq_equivalence.comap s.classOf).eqvGen_iff.1
    (Relation.EqvGen.mono (fun i j hc => (hf.clones i j hc).2.2) _ _ hk)

theorem kin_iff (hf : Faithful s h) {i j : Nat} (hi : i < h.count) (hj : j < h.count) :
    h.Kin i j ↔ s.classOf i = s.classOf j :=
  ⟨hf.classOf_eq, hf.kin i hi j hj⟩

/-- Only signals that are there have been asked to be cancelled, and those keep their classes. -/
theorem passed_of_classOf_eq (hf : Faithful s h) {s' : Signals} (hold : ∀ i < h.count, s'.classOf i = s.classOf i)
    (k : Nat) (t : Time) : (s.cancelAt.getD k none).passed t = true ↔
      ∃ i u, (i, u) ∈ h.requests ∧ s'.classOf i = k ∧ u ≤ t := by
  rw [hf.passed]
  refine exists_congr fun i => exists_congr fun u => and_congr_right fun hr => ?_
  rw [hold i (hf.requests i u hr)]

theorem moveTo (hf : Faithful s h) (t : Time) : Faithful (s.moveTo t) h := { hf with }

/-- A new signal is in a class of its own, which nobody has asked to cancel. -/
theorem add (hf : Faithful s h) : Faithful s.add (h.note s.now .new) := by
  have hold {i : Nat} (hi : i < h.count) : s.add.classOf i = s.classOf i := classOf_add (hf.length ▸ hi)
  have hnew : s.add.classOf h.count = s.cancelAt.length := hf.length ▸ classOf_add_length
  have hlt {i : Nat} (hi : i < h.count) : s.classOf i < s.cancelAt.length := hf.classOf_lt i hi
  constructor
  case length => simp [Signals.add, History.note, hf.length]
  case classOf_lt =>
    intro i hi
    have hlength : s.add.cancelAt.length = s.cancelAt.length + 1 := by simp [Signals.add]
    rw [hlength]
    rcases Nat.lt_succ_iff_lt_or_eq.1 hi with hi | rfl
    · rw [hold hi]; exact (hlt hi).trans (Nat.lt_succ_self _)
    · rw [hnew]; exact Nat.lt_succ_self _
  case clones =>
    intro i j hc
    obtain ⟨hi, hj, hclass⟩ := hf.clones i j hc
    refine ⟨hi.trans (Nat.lt_succ_self _), hj.trans (Nat.lt_succ_self _), ?_⟩
    rw [hold hi, hold hj, hclass]
  case kin =>
    -- Either of the two may be the new one, of which the class is beyond all others.
    intro i hi j hj hclass
    rcases Nat.lt_succ_iff_lt_or_eq.1 hi with hi | rfl <;> rcases Nat.lt_succ_iff_lt_or_eq.1 hj with hj | rfl
    · rw [hold hi, hold hj] at hclass
      exact hf.kin i hi j hj hclass
    · rw [hold hi, hnew] at hclass
      exact absurd hclass (hlt hi).ne
    · rw [hold hj, hnew] at hclass
      exact absurd hclass (hlt hj).ne'
    · exact .refl _
  case requests => exact fun i t hr => (hf.requests i t hr).trans (Nat.lt_succ_self _)
  case passed =>
    intro k t
    rw [getD_add]
    exact hf.passed_of_classOf_eq (fun i hi => hold hi) k t
  case due => exact hf.due

/-- A clone is in the class of its signal. -/
theorem clone (hf : Faithful s h) {i : Nat} (hi : i < h.count) : Faithful (s.clone i) (h.note s.now (.clone i)) := by
  have hold {j : Nat} (hj : j < h.count) : (s.clone i).classOf j = s.classOf j := classOf_clone i (hf.length ▸ hj)
  have hnew : (s.clone i).classOf h.count = s.classOf i := hf.length ▸ classOf_clone_length i
  have hmono {j k : Nat} (hk : h.Kin j k) : (h.note s.now (.clone i)).Kin j k :=
    hk.mono (List.subset_cons_self ..)
  have hkin : (h.note s.now (.clone i)).Kin i h.count := .rel _ _ List.mem_cons_self
  constructor
  case length => simp [Signals.clone, History.note, hf.length]
  case classOf_lt =>
    intro j hj
    rcases Nat.lt_succ_iff_lt_or_eq.1 hj with hj | rfl
    · rw [hold hj]; exact hf.classOf_lt j hj
    · rw [hnew]; exact hf.classOf_lt i hi
  case clones =>
    intro j k hc
    rcases List.mem_cons.1 hc with hc | hc
    · obtain ⟨rfl, rfl⟩ := Prod.mk.inj hc
      exact ⟨hi.trans (Nat.lt_succ_self _), Nat.lt_succ_self _, by rw [hold hi, hnew]⟩
    · obtain ⟨hj, hk, hclass⟩ := hf.clones j k hc
      refine ⟨hj.trans (Nat.lt_succ_self _), hk.trans (Nat.lt_succ_self _), ?_⟩
      rw [hold hj, hold hk, hclass]
  case kin =>
    -- What the new one is in a class with is kin of its original.
    intro j hj k hk hclass
    rcases Nat.lt_succ_iff_lt_or_eq.1 hj with hj | rfl <;> rcases Nat.lt_succ_iff_lt_or_eq.1 hk with hk | rfl
    · rw [hold hj, hold hk] at hclass
      exact hmono (hf.kin j hj k hk hclass)
    · rw [hold hj, hnew] at hclass
      exact (hmono (hf.kin j hj i hi hclass)).trans _ _ _ hkin
    · rw [hold hk, hnew] at hclass
      exact hkin.symm.trans _ _ _ (hmono (hf.kin i hi k hk hclass))
    · exact .refl _
  case requests => exact fun j t hr => (hf.requests j t hr).trans (Nat.lt_succ_self _)
  case passed => exact hf.passed_of_classOf_eq fun j hj => hold hj
  case due => exact hf.due

/-- A cancellation goes to the class of its signal. -/
theorem cancelClass (hf : Faithful s h) {i : Nat} (hi : i < h.count) (t : Time) :
    Faithful (s.cancelClass (s.classOf i) t) { h with requests := (i, t) :: h.requests } := by
  constructor
  case length => exact hf.length
  case classOf_lt =>
    intro j hj
    rw [classOf_cancelClass]
    simpa [Signals.cancelClass] using hf.classOf_lt j hj
  case clones =>
    intro j k hc
    rw [classOf_cancelClass, classOf_cancelClass]
    exact hf.clones j k hc
  case kin =>
    intro j hj k hk hclass
    rw [classOf_cancelClass, classOf_cancelClass] at hclass
    exact hf.kin j hj k hk hclass
  case requests =>
    intro j u hr
    rcases List.mem_cons.1 hr with hr | hr
    · obtain ⟨rfl, -⟩ := Prod.mk.inj hr
      exact hi
    · exact hf.requests j u hr
  case passed =>
    intro k u
    have hpassed : ((s.cancelClass (s.classOf i) t).cancelAt.getD k none).passed u = true ↔
        (s.classOf i = k ∧ t ≤ u) ∨ (s.cancelAt.getD k none).passed u = true := by
      rw [getD_cancelClass (hf.classOf_lt i hi)]
      by_cases hk : s.classOf i = k
      · rw [if_pos hk, Deadline.passed_earlier]
        simp [hk, Deadline.passed, or_comm]
      · simp [hk]
    rw [hpassed, hf.passed]
    simp only [classOf_cancelClass]
    constructor
    · rintro (⟨hk, htu⟩ | ⟨j, v, hr, hk, hv⟩)
      · exact ⟨i, t, List.mem_cons_self, hk, htu⟩
      · exact ⟨j, v, List.mem_cons_of_mem _ hr, hk, hv⟩
    · rintro ⟨j, v, hr, hk, hv⟩
      rcases List.mem_cons.1 hr with hr | hr
      · obtain ⟨rfl, rfl⟩ := Prod.mk.inj hr
        exact .inl ⟨hk, hv⟩
      · exact .inr ⟨j, v, hr, hk, hv⟩
  case due => exact hf.due

theorem change (hf : Faithful s h) {o : Option Nat} {s' : Signals} {h' : History} (hc : Change s h o s' h') :
    Faithful s' h' := by
  cases hc with
  | add => exact hf.add
  | clone hi => exact hf.clone hi
  | cancel hi => exact hf.cancelClass hi _
  | wait => exact hf.moveTo _

theorem step (hf : Faithful s h) {limit : Nat} (hlimit : 0 < limit) {op : Op} (hop : op.Fits h.count) :
    Faithful (s.step limit op).1 (h.note s.now op) :=
  hf.change (change_step hlimit hf.due hop)

theorem leads (hf : Faithful s h) {limit : Nat} (hlimit : 0 < limit) {s' : Signals} {h' : History}
    (hl : Leads limit s h s' h') : Faithful s' h' := by
  induction hl with
  | refl => exact hf
  | step _ hop ih => exact ih.step hlimit hop

/-! ### What the history tells -/

section Told
variable {i : Nat}

theorem passed_iff (hf : Faithful s h) (hi : i < h.count) (t : Time) :
    (s.deadline i).passed t = true ↔ h.CancelledBy i t := by
  rw [deadline, hf.passed]
  refine exists_congr fun j => exists_congr fun u => and_congr_right fun hr => and_congr_left fun _ => ?_
  rw [eq_comm, hf.kin_iff hi (hf.requests j u hr)]

theorem deadline_eq_some_iff (hf : Faithful s h) (hi : i < h.count) {c : Time} :
    s.deadline i = some c ↔ h.CancelledFirst i c := by
  simp only [History.CancelledFirst, ← hf.passed_iff hi]
  cases hd : s.deadline i with
  | none => simp
  | some c' =>
    simp only [Option.some.injEq, Deadline.passed_some, decide_eq_true_eq]
    constructor
    · rintro rfl
      exact ⟨Nat.le.refl, fun t ht => ht⟩
    · rintro ⟨hle, hfirst⟩
      exact Nat.le_antisymm hle (hfirst c' Nat.le.refl)

theorem deadline_eq_none_iff (hf : Faithful s h) (hi : i < h.count) :
    s.deadline i = none ↔ ∀ t, ¬ h.CancelledBy i t := by
  simp only [← hf.passed_iff hi]
  cases hd : s.deadline i with
  | none => simp
  | some c => simpa using ⟨c, Nat.le.refl⟩

theorem race_eq_some_iff (hf : Faithful s h) (hi : i < h.count) {length : Option Nat} {e : Time} {a : Answer} :
    s.race i length = some (e, a) ↔ h.Race i s.now length a e := by
  constructor
  · intro hrace
    unfold race at hrace
    cases hd : s.deadline i with
    | none =>
      have hnever := (hf.deadline_eq_none_iff hi).1 hd
      rcases length with _ | ms <;> simp only [hd, Option.map] at hrace
      · cases hrace
      · cases hrace
        exact .passed rfl fun c hc => absurd hc.1 (hnever c)
    | some c =>
      have hfirst := (hf.deadline_eq_some_iff hi).1 hd
      rcases length with _ | ms <;> simp only [hd, Option.map] at hrace
      · cases hrace
        exact .cancelled hfirst nofun
      · split at hrace
        · next hle =>
          cases hrace
          exact .cancelled hfirst fun ms' hms => Option.some.inj hms ▸ hle
        · next hlt =>
          cases hrace
          refine .passed rfl fun c' hc' => ?_
          obtain rfl := Option.some.inj (hd.symm.trans ((hf.deadline_eq_some_iff hi).2 hc'))
          exact Nat.lt_of_not_le hlt
  · rintro (⟨rfl, hlater⟩ | ⟨hfirst, hlength⟩)
    · cases hd : s.deadline i with
      | none => simp [race, hd]
      | some c =>
        have hlt := hlater c ((hf.deadline_eq_some_iff hi).1 hd)
        simp [race, hd, Nat.not_le.2 hlt]
    · have hd := (hf.deadline_eq_some_iff hi).2 hfirst
      cases length with
      | none => simp [race, hd]
      | some ms => simp [race, hd, hlength ms rfl]

/-- Nothing but a cancellation of its kin changes when a signal is cancelled. -/
theorem deadline_eq (hf : Faithful s h) {o : Option Nat} {s' : Signals} {h' : History} (hc : Change s h o s' h')
    (hi : i < h.count) (hother : ∀ j, o = some j → ¬ h.Kin i j) : s'.deadline i = s.deadline i := by
  cases hc with
  | add => rw [deadline, getD_add, classOf_add (hf.length ▸ hi)]; rfl
  | clone hj => rw [deadline, classOf_clone _ (hf.length ▸ hi)]; rfl
  | @cancel j t hj ht =>
    have hclass : s.classOf j ≠ s.classOf i := fun heq => hother j rfl (hf.kin i hi j hj heq.symm)
    rw [deadline, classOf_cancelClass, getD_cancelClass (hf.classOf_lt j hj), if_neg hclass]
    rfl
  | wait ht => rfl

end Told

end Faithful

/-- What stays as it is while operations are done. -/
structure Onward (s : Signals) (h : History) (s' : Signals) (h' : History) : Prop where
  now : s.now ≤ s'.now
  count : h.count ≤ h'.count
  clones : h.clones ⊆ h'.clones
  requests : h.requests ⊆ h'.requests
  classOf : ∀ i < h.count, s'.classOf i = s.classOf i

namespace Onward
variable {s s' s'' : Signals} {h h' h'' : History}

theorem refl : Onward s h s h := ⟨Nat.le.refl, Nat.le.refl, fun _ => id, fun _ => id, fun _ _ => rfl⟩

theorem trans (hx : Onward s h s' h') (hy : Onward s' h' s'' h'') : Onward s h s'' h'' where
  now := hx.now.trans hy.now
  count := hx.count.trans hy.count
  clones _ hc := hy.clones (hx.clones hc)
  requests _ hr := hy.requests (hx.requests hr)
  classOf i hi := (hy.classOf i (hi.trans_le hx.count)).trans (hx.classOf i hi)

theorem change (hf : Faithful s h) {o : Option Nat} (hc : Change s h o s' h') : Onward s h s' h' := by
  cases hc with
  | add =>
    exact ⟨Nat.le.refl, Nat.le_succ _, fun _ => id, fun _ => id, fun i hi => classOf_add (hf.length ▸ hi)⟩
  | clone hj =>
    exact ⟨Nat.le.refl, Nat.le_succ _, List.subset_cons_self .., fun _ => id,
      fun i hi => classOf_clone _ (hf.length ▸ hi)⟩
  | cancel hj ht =>
    exact ⟨Nat.le.refl, Nat.le.refl, fun _ => id, List.subset_cons_self .., fun i _ => classOf_cancelClass ..⟩
  | wait ht => exact ⟨ht, Nat.le.refl, fun _ => id, fun _ => id, fun _ _ => rfl⟩

theorem leads (hf : Faithful s h) {limit : Nat} (hlimit : 0 < limit) (hl : Leads limit s h s' h') :
    Onward s h s' h' := by
  induction hl with
  | refl => exact refl
  | step hs hop ih =>
    have hf' := hf.leads hlimit hs
    exact ih.trans (change hf' (change_step hlimit hf'.due hop))

theorem cancelledBy (hx : Onward s h s' h') {i : Nat} {t t' : Time} (ht : t ≤ t') (hc : h.CancelledBy i t) :
    h'.CancelledBy i t' := by
  obtain ⟨j, u, hr, hk, hu⟩ := hc
  exact ⟨j, u, hx.requests hr, hk.mono hx.clones, hu.trans ht⟩

end Onward

/-- A signal is what its history says, and so is all that is done with it and all that becomes of it. A wait that is
not over when `limit` milliseconds have passed is given up then. -/
structure Conforms (limit : Nat) (s : Signals) (h : History) (i : Nat) : Prop where
  cancelled_iff : ∀ t, ({ s with now := t } : Signals).isCancelled i = true ↔ h.CancelledBy i t
  stays : ∀ {s' h'}, Leads limit s h s' h' → s.isCancelled i = true → s'.isCancelled i = true
  /-- Signals that are not of one kin never become so, and do nothing to each other. -/
  apart : ∀ {s' h'}, Leads limit s h s' h' → ∀ j < h.count, h'.Kin i j ↔ h.Kin i j
  unaffected : ∀ op, op.Fits h.count → (∀ j, op.cancels? = some j → ¬ h.Kin i j) →
    (s.step limit op).1.deadline i = s.deadline i
  /-- A new signal and a clone are counted on from those that are there. -/
  added : ∀ op, op = .new ∨ op = .clone i → (s.step limit op).2 = .index h.count ∧ (s.step limit op).1.now = s.now
  asked : ∀ op, op.cancels? = some i → (s.step limit op).2 = .done ∧ (s.step limit op).1.now = s.now
  /-- A cancellation that comes no earlier than another one changes nothing. -/
  again : h.CancelledBy i s.now → s.step limit (.cancel i) = (s, .done)
  again_later : ∀ ms, 0 < ms → h.CancelledBy i (s.now + ms) → s.step limit (.cancelAfter i ms) = (s, .done)
  flag : ∃ b, s.step limit (.isCancelled i) = (s, .flag b) ∧ (b = true ↔ h.CancelledBy i s.now)
  check_cancelled : h.CancelledBy i s.now → s.step limit (.check i) = (s, .cancelled)
  check_passed : ¬ h.CancelledBy i s.now → s.step limit (.check i) = (s, .passed)
  wait : ∀ ms, s.step limit (.wait ms) = ({ s with now := s.now + ms }, .done)
  race : ∀ length a e, h.Race i s.now length a e →
    s.step limit (.guard i length) =
      if e < s.now + limit then ({ s with now := e }, a) else ({ s with now := s.now + limit }, .pending)
  no_race : ∀ length, (∀ a e, ¬ h.Race i s.now length a e) →
    s.step limit (.guard i length) = ({ s with now := s.now + limit }, .pending)
  resolved : ∀ c, h.CancelledFirst i c →
    s.step limit (.cancelled i) =
      if max s.now c < s.now + limit then ({ s with now := max s.now c }, .passed)
      else ({ s with now := s.now + limit }, .pending)
  unresolved : (∀ t, ¬ h.CancelledBy i t) →
    s.step limit (.cancelled i) = ({ s with now := s.now + limit }, .pending)

/-- The same of the guard of work that can be dropped at any time. -/
structure Guards {σ ε α : Type} (s : Signals) (h : History) (i : Nat) (x : Work σ ε α) (w : σ) : Prop where
  passed : (x none s.now w).ending ≠ .unfinished → (∀ c, h.CancelledFirst i c → (x none s.now w).time < c) →
    Work.guard (s.seen i) x none s.now w =
      ⟨(x none s.now w).ending.caught, (x none s.now w).time, (x none s.now w).world, (x none s.now w).journal⟩
  cancelled : ∀ c, h.CancelledFirst i c → (x none s.now w).ending = .unfinished ∨ c ≤ (x none s.now w).time →
    (Work.guard (s.seen i) x none s.now w).ending = .failure .cancelled ∧
      (Work.guard (s.seen i) x none s.now w).time = max s.now c
  already : h.CancelledBy i s.now →
    Work.guard (s.seen i) x none s.now w = ⟨.failure .cancelled, s.now, w, []⟩
  pending : (∀ t, ¬ h.CancelledBy i t) → (x none s.now w).ending = .unfinished →
    (Work.guard (s.seen i) x none s.now w).ending = .unfinished

namespace Faithful
variable {s : Signals} {h : History} {i : Nat}

theorem signal_conforms (hf : Faithful s h) {limit : Nat} (hlimit : 0 < limit) (hi : i < h.count) :
    Conforms limit s h i where
  cancelled_iff := hf.passed_iff hi
  stays {s' h'} hl hc := by
    have hon := Onward.leads hf hlimit hl
    have hcancelled : h.CancelledBy i s.now := (hf.passed_iff hi _).1 hc
    exact ((hf.leads hlimit hl).passed_iff (hi.trans_le hon.count) _).2 (hon.cancelledBy hon.now hcancelled)
  apart {s' h'} hl j hj := by
    have hon := Onward.leads hf hlimit hl
    rw [(hf.leads hlimit hl).kin_iff (hi.trans_le hon.count) (hj.trans_le hon.count), hf.kin_iff hi hj,
      hon.classOf i hi, hon.classOf j hj]
  unaffected op hop hother := hf.deadline_eq (change_step hlimit hf.due hop) hi hother
  added op hop := by
    rcases hop with rfl | rfl <;> exact ⟨congrArg Answer.index hf.length, rfl⟩
  asked op hop := by
    cases op with
    | cancel j => exact ⟨rfl, rfl⟩
    | cancelAfter j ms => exact ⟨rfl, now_cancelAfter j ms⟩
    | _ => cases hop
  again hc := by
    have hsame : s.cancel i = s := cancelClass_eq_self ((hf.passed_iff hi _).2 hc)
    rw [Signals.step, hsame]
  again_later ms hms hc := by
    have hlater : s.cancelAfter i ms = s.cancelClass (s.classOf i) (s.now + ms) := if_neg hms.ne'
    rw [Signals.step, hlater, cancelClass_eq_self ((hf.passed_iff hi _).2 hc)]
  flag := ⟨s.isCancelled i, rfl, hf.passed_iff hi s.now⟩
  check_cancelled hc := by
    have hcancelled : s.isCancelled i = true := (hf.passed_iff hi s.now).2 hc
    rw [Signals.step, hcancelled, if_pos rfl]
  check_passed hc := by
    have hcancelled : ¬ s.isCancelled i = true := mt (hf.passed_iff hi s.now).1 hc
    rw [Signals.step, if_neg hcancelled]
  wait ms := step_wait hf.due ms
  race length a e hrace := by
    rw [step_guard hlimit hf.due, (hf.race_eq_some_iff hi).2 hrace]
    rfl
  no_race length hno := by
    have hnone : s.race i length = none := by
      cases hr : s.race i length with
      | none => rfl
      | some x => exact absurd ((hf.race_eq_some_iff hi).1 hr) (hno _ _)
    rw [step_guard hlimit hf.due, hnone]
    rfl
  resolved c hc := by
    rw [step_cancelled hlimit hf.due, cancellation, (hf.deadline_eq_some_iff hi).2 hc]
    rfl
  unresolved hno := by
    rw [step_cancelled hlimit hf.due, cancellation, (hf.deadline_eq_none_iff hi).2 hno]
    rfl

theorem seen_of_never (hf : Faithful s h) (hi : i < h.count) (hno : ∀ t, ¬ h.CancelledBy i t) :
    s.seen i = .never := by
  simp [seen, (hf.deadline_eq_none_iff hi).2 hno]

theorem seen_of_later (hf : Faithful s h) (hi : i < h.count) {c : Time} (hfirst : h.CancelledFirst i c)
    (hc : s.now < c) : s.seen i = .later c := by
  simp [seen, (hf.deadline_eq_some_iff hi).2 hfirst, Nat.not_le.2 hc]

theorem seen_of_cancelledBy (hf : Faithful s h) (hi : i < h.count) (hc : h.CancelledBy i s.now) :
    s.seen i = .already := by
  have hpassed := (hf.passed_iff hi _).2 hc
  cases hd : s.deadline i with
  | none => rw [hd] at hpassed; cases hpassed
  | some c =>
    rw [hd] at hpassed
    simp [seen, hd, of_decide_eq_true hpassed]

theorem guards (hf : Faithful s h) (hi : i < h.count) {σ ε α : Type} {x : Work σ ε α} (hx : ∀ T, Drops T x) (w : σ) :
    Guards s h i x w := by
  have halready (hc : h.CancelledBy i s.now) :
      Work.guard (s.seen i) x none s.now w = ⟨.failure .cancelled, s.now, w, []⟩ := by
    rw [hf.seen_of_cancelledBy hi hc]
    exact Work.guard_noticed rfl
  have hundone : ((x none s.now w).ending.caught : Ending BuildError (Except ε α)) = .unfinished ↔
      (x none s.now w).ending = .unfinished := by
    cases (x none s.now w).ending <;> simp [Ending.caught]
  have hcut (c : Time) (hc : s.now < c) := (Cancels.guard (hx c)).cuts s.now w hc
  simp only [Work.guard_never] at hcut
  refine ⟨fun hdone hlater => ?_, fun c hfirst hlate => ?_, halready, fun hno hstuck => ?_⟩
  · cases hd : s.deadline i with
    | none =>
      rw [hf.seen_of_never hi ((hf.deadline_eq_none_iff hi).1 hd), Work.guard_never]
    | some c =>
      have hfirst := (hf.deadline_eq_some_iff hi).1 hd
      have hc : s.now < c := ((hx c).forward s.now w).trans_lt (hlater c hfirst)
      rw [hf.seen_of_later hi hfirst hc]
      exact (hcut c hc).eq_of_early (mt hundone.1 hdone) (hlater c hfirst)
  · by_cases hc : s.now < c
    · rw [hf.seen_of_later hi hfirst hc, Nat.max_eq_right hc.le]
      obtain ⟨hending, htime, -⟩ := (hcut c hc).part_of_late (hlate.imp_left hundone.2)
      exact ⟨hending, htime⟩
    · have hc : c ≤ s.now := Nat.le_of_not_lt hc
      obtain ⟨j, u, hr, hk, hu⟩ := hfirst.1
      rw [halready ⟨j, u, hr, hk, hu.trans hc⟩, Nat.max_eq_left hc]
      exact ⟨rfl, rfl⟩
  · rw [hf.seen_of_never hi hno, Work.guard_never]
    exact hundone.2 hstuck

end Faithful

/-- **Signals are what their history says.** In every state that operations lead to, a signal is cancelled at a time
exactly if one of its kin was to be by then, and stays so; who asks or checks is told so; what is done to others does
not matter to it; a wait for it and a race with it end when its first cancellation says, and so does the guard of any
work. -/
theorem Leads.conforms {limit : Nat} (hlimit : 0 < limit) {s : Signals} {h : History} (hl : Leads limit .initial {} s h)
    {i : Nat} (hi : i < h.count) :
    Conforms limit s h i ∧
      ∀ {σ ε α : Type} (x : Work σ ε α) (w : σ), (∀ T, Drops T x) → Guards s h i x w := by
  have hf : Faithful s h := Faithful.initial.leads hlimit hl
  exact ⟨hf.signal_conforms hlimit hi, fun x w hx => hf.guards hi hx w⟩

/-- A signal, a clone of it that is to be cancelled in five milliseconds, and another signal. -/
def cloned : Signals := { classes := [0, 0, 1], cancelAt := [some 5, none], now := 0 }

/-- How they came to be so. -/
def clonedHistory : History := { count := 3, clones := [(0, 1)], requests := [(1, 5)] }

theorem cloned_leads : Leads 100 .initial {} cloned clonedHistory := by
  have hclone := @Leads.step 100 .initial {} _ _ (.clone 0) .refl Nat.one_pos
  have hnew := @Leads.step 100 .initial {} _ _ .new hclone trivial
  have hcancel := @Leads.step 100 .initial {} _ _ (.cancelAfter 1 5) hnew ⟨by decide, by decide⟩
  exact hcancel

/-- The first signal goes with its clone: it is not cancelled for five milliseconds. -/
theorem cloned_conforms :
    cloned.step 100 (.isCancelled 0) = (cloned, .flag false) ∧
      cloned.step 100 (.check 0) = (cloned, .passed) ∧
      cloned.step 100 (.wait 5) = ({ cloned with now := 5 }, .done) ∧
      ({ cloned with now := 5 } : Signals).step 100 (.check 0) = ({ cloned with now := 5 }, .cancelled) ∧
      cloned.step 100 (.guard 0 (some 9)) = ({ cloned with now := 5 }, .cancelled) ∧
      (Work.guard (cloned.seen 0) (Work.wait 9 : Work Unit LoadError Unit) none 0 ()).time = 5 := by
  have hkin : clonedHistory.Kin 0 1 := .rel _ _ List.mem_cons_self
  have hcancelled : clonedHistory.CancelledBy 0 5 := ⟨1, 5, List.mem_cons_self, hkin, Nat.le.refl⟩
  have hfirst : clonedHistory.CancelledFirst 0 5 := by
    refine ⟨hcancelled, ?_⟩
    rintro t ⟨j, u, hr, -, hu⟩
    obtain ⟨-, rfl⟩ := Prod.mk.inj (List.mem_singleton.1 hr)
    exact hu
  have hnow : ¬ clonedHistory.CancelledBy 0 cloned.now := fun h => absurd (hfirst.2 _ h) (by decide)
  have hrace : clonedHistory.Race 0 cloned.now (some 9) .cancelled 5 :=
    .cancelled hfirst fun ms hms => Option.some.inj hms ▸ by decide
  obtain ⟨hconforms, hguards⟩ :=
    Leads.conforms (by decide : 0 < 100) cloned_leads (by decide : 0 < clonedHistory.count)
  -- Five milliseconds later the history is the same.
  have hlater : Leads 100 .initial {} { cloned with now := 5 } clonedHistory :=
    @Leads.step 100 .initial {} _ _ (.wait 5) cloned_leads trivial
  obtain ⟨hconforms', -⟩ := Leads.conforms (by decide : 0 < 100) hlater (by decide : 0 < clonedHistory.count)
  have hguard := hguards (Work.wait 9 : Work Unit LoadError Unit) () fun T => Drops.wait 9
  obtain ⟨b, hflag, hb⟩ := hconforms.flag
  obtain rfl : b = false := Bool.eq_false_iff.2 (mt hb.1 hnow)
  exact ⟨hflag, hconforms.check_passed hnow, hconforms.wait 5, hconforms'.check_cancelled hcancelled,
    hconforms.race _ _ _ hrace, (hguard.cancelled 5 hfirst (.inr (by decide))).2⟩

end Signals
end FlakeImage
