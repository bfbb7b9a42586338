import Mathlib
import FlakeImage.Text.Lines

/-!
# Trimmed text

A text is what trimming leaves of it, with white space on both sides (`exists_surrounded`). Of a text in white space
trimming leaves all that stands between its first and its last visible character (`trim_surrounded`); nothing is left
of a blank text alone (`trim_eq_nil_iff`). At the end of a text the endings of lines can be taken off in the same way
(`chomp_eq_iff`).
-/

namespace FlakeImage.Text

variable {s core before after : List Char}

theorem isBlankText_iff : isBlankText s = true ↔ ∀ c ∈ s, isBlank c = true := List.all_eq_true

/-- What trimming takes off is white space. -/
theorem exists_surrounded (s : List Char) :
    ∃ before after, s = before ++ (trim s ++ after) ∧ isBlankText before = true ∧ isBlankText after = true := by
  refine ⟨s.takeWhile isBlank, (trimStart s).rtakeWhile isBlank, ?_, ?_, ?_⟩
  · have hend : trim s ++ (trimStart s).rtakeWhile isBlank = trimStart s := List.rdropWhile_append_rtakeWhile
    rw [hend]
    exact List.takeWhile_append_dropWhile.symm
  · rw [isBlankText_iff]
    intro c hc
    exact List.mem_takeWhile_imp hc
  · rw [isBlankText_iff]
    intro c hc
    exact List.mem_rtakeWhile_imp hc

theorem trimStart_append (hbefore : isBlankText before = true) (s : List Char) :
    trimStart (before ++ s) = trimStart s :=
  List.dropWhile_append_of_pos (isBlankText_iff.1 hbefore)

theorem trimStart_of_head (h : ∀ c, s.head? = some c → isBlank c = false) : trimStart s = s := by
  cases s with
  | nil => rfl
  | cons c s =>
    have hc := h c rfl
    exact List.dropWhile_cons_of_neg (by simp [hc])

theorem dropEndWhile_append {p : Char → Bool} (hafter : ∀ c ∈ after, p c = true) (s : List Char) :
    dropEndWhile p (s ++ after) = dropEndWhile p s := by
  unfold dropEndWhile
  rw [List.reverse_append, List.dropWhile_append_of_pos fun c hc => hafter c (List.mem_reverse.1 hc)]

theorem dropEndWhile_of_last {p : Char → Bool} (h : ∀ c, s.getLast? = some c → p c = false) :
    dropEndWhile p s = s := by
  refine List.rdropWhile_eq_self_iff.2 fun hne => ?_
  have hlast := h _ (List.getLast?_eq_some_getLast hne)
  simp [hlast]

theorem exists_ending (p : Char → Bool) (s : List Char) :
    ∃ after, s = dropEndWhile p s ++ after ∧ ∀ c ∈ after, p c = true :=
  ⟨s.rtakeWhile p, List.rdropWhile_append_rtakeWhile.symm, fun _ hc => List.mem_rtakeWhile_imp hc⟩

theorem of_dropEndWhile_last {p : Char → Bool} {c : Char} (h : (dropEndWhile p s).getLast? = some c) : p c = false := by
  have hne : dropEndWhile p s ≠ [] := by
    intro hnil
    rw [hnil] at h
    cases h
  have hlast : ¬ p ((dropEndWhile p s).getLast hne) = true := List.rdropWhile_last_not p s hne
  rw [List.getLast?_eq_some_getLast hne] at h
  obtain rfl := Option.some.inj h
  exact Bool.eq_false_iff.2 hlast

theorem trim_surrounded (hbefore : isBlankText before = true) (hafter : isBlankText after = true)
    (hhead : ∀ c, core.head? = some c → isBlank c = false)
    (hlast : ∀ c, core.getLast? = some c → isBlank c = false) : trim (before ++ (core ++ after)) = core := by
  rw [trim, trimStart_append hbefore]
  by_cases hcore : core = []
  · subst hcore
    have hnone : trimStart after = [] := List.dropWhile_eq_nil_iff.2 (isBlankText_iff.1 hafter)
    rw [List.nil_append, hnone]
    rfl
  · have hstart : trimStart (core ++ after) = core ++ after := by
      refine trimStart_of_head fun c hc => hhead c ?_
      rwa [List.head?_append_of_ne_nil _ hcore] at hc
    rw [hstart, dropEndWhile_append (isBlankText_iff.1 hafter), dropEndWhile_of_last hlast]

/-! ### What trimming leaves -/

theorem visible_of_trim_head {c : Char} (h : (trim s).head? = some c) : isBlank c = false := by
  have hstart : (trimStart s).head? = some c := by
    obtain ⟨after, hafter⟩ : trim s <+: trimStart s := List.rdropWhile_prefix isBlank _
    rw [← hafter, List.head?_append, h, Option.some_or]
  have hnot := List.head?_dropWhile_not isBlank s
  rw [show (s.dropWhile isBlank).head? = some c from hstart] at hnot
  exact hnot

theorem visible_of_trim_last {c : Char} (h : (trim s).getLast? = some c) : isBlank c = false :=
  of_dropEndWhile_last h

theorem isBlankText_append :
    isBlankText (before ++ after) = true ↔ isBlankText before = true ∧ isBlankText after = true := by
  rw [isBlankText, List.all_append, Bool.and_eq_true]
  rfl

theorem trim_append_blank (h : isBlankText after = true) (s : List Char) : trim (s ++ after) = trim s := by
  obtain ⟨before, rest, hs, hbefore, hrest⟩ := exists_surrounded s
  conv => lhs; rw [hs, List.append_assoc, List.append_assoc]
  exact trim_surrounded hbefore (isBlankText_append.2 ⟨hrest, h⟩) (fun _ => visible_of_trim_head)
    (fun _ => visible_of_trim_last)

theorem trim_eq_nil_iff : trim s = [] ↔ isBlankText s = true := by
  constructor
  · intro h
    obtain ⟨before, rest, hs, hbefore, hrest⟩ := exists_surrounded s
    rw [hs, h]
    exact isBlankText_append.2 ⟨hbefore, hrest⟩
  · intro h
    exact trim_append_blank h []

/-! ### Endings of lines -/

theorem isLineEnd_iff {c : Char} : isLineEnd c = true ↔ c = '\r' ∨ c = '\n' := by
  simp [isLineEnd]

theorem isLineEnd_eq_false_iff {c : Char} : isLineEnd c = false ↔ c ≠ '\r' ∧ c ≠ '\n' := by
  simp [isLineEnd]

theorem chomp_eq_iff {t : List Char} : chomp s = t ↔ ∃ ending, s = t ++ ending ∧ (∀ c ∈ ending, isLineEnd c = true) ∧
    ∀ c, t.getLast? = some c → isLineEnd c = false := by
  constructor
  · rintro rfl
    obtain ⟨ending, hs, hending⟩ := exists_ending isLineEnd s
    exact ⟨ending, hs, hending, fun _ => of_dropEndWhile_last⟩
  · rintro ⟨ending, rfl, hending, hlast⟩
    rw [chomp, dropEndWhile_append hending, dropEndWhile_of_last hlast]

end FlakeImage.Text
