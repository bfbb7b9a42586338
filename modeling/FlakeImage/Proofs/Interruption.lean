import FlakeImage.Proofs.Truncation
import FlakeImage.Rehearsal.Cue

/-!
# What a cancelled load has done

`Severs` says more than `Truncates` of a run cut short at a time: it has done all that the other run does before
that time, and nothing else. So cancelling a load that is repeated leaves the attempts and the lines that come
before, and ends it then (`run_cancelled`), wherever the cancellation falls: into the first pause, an attempt or a
pause between attempts.
-/

namespace FlakeImage

variable {σ ε α β : Type}

/-- The runs of `cut` are those of `full`, cut short at `T`, with all that these do before. -/
structure Severs (T : Time) (stop : Option ε) (full cut : Time → σ → Run σ ε α) : Prop
    extends Truncates T stop full cut where
  onward : ∀ t w, ∀ x ∈ (full t w).journal, t ≤ x.time
  kept : ∀ t w, t < T → (full t w).journal.filter (·.time < T) = (cut t w).journal

theorem Journal.filter_eq_nil_of_le {j : Journal} {T : Time} (h : ∀ x ∈ j, T ≤ x.time) :
    j.filter (·.time < T) = [] := by
  rw [List.filter_eq_nil_iff]
  intro x hx
  simpa using h x hx

theorem Journal.filter_eq_self_of_lt {j : Journal} {T : Time} (h : ∀ x ∈ j, x.time < T) :
    j.filter (·.time < T) = j := by
  rw [List.filter_eq_self]
  intro x hx
  simpa using h x hx

namespace Severs
variable {T : Time} {stop : Option ε} {d d' : Deadline} {x x' : Work σ ε α}

theorem of_atOnce (hx : x.AtOnce) : Severs T stop (x d) (x d') := by
  refine ⟨.of_atOnce hx, fun t w e he => Nat.le_of_eq (hx.journal d t w e he).symm, fun t w ht => ?_⟩
  rw [hx.same d' d]
  refine Journal.filter_eq_self_of_lt fun e he => ?_
  rw [hx.journal d t w e he]
  exact ht

theorem journal_bind_of_stopped {f : α → Work σ ε β} {t : Time} {w : σ}
    (h : (x d t w).ending = .stopped stop) : ((x >>= f) d t w).journal = (x d t w).journal := by
  cases stop with
  | none => rw [Work.bind_unfinished h]
  | some e => rw [Work.bind_failure h]

/-- What comes after work that is over at `T` or later comes at `T` or later. -/
theorem bind {f f' : α → Work σ ε β} (hx : Severs T stop (x d) (x' d'))
    (hf : ∀ a, Severs T stop (f a d) (f' a d')) : Severs T stop ((x >>= f) d) ((x' >>= f') d') := by
  refine ⟨hx.toTruncates.bind fun a => (hf a).toTruncates, fun t w e he => ?_, fun t w ht => ?_⟩
  · cases hending : (x d t w).ending with
    | value a =>
      rw [Work.bind_value hending, List.mem_append] at he
      rcases he with he | he
      · exact hx.onward t w e he
      · exact (hx.forward t w).trans ((hf a).onward _ _ e he)
    | failure e' => rw [Work.bind_failure hending] at he; exact hx.onward t w e he
    | unfinished => rw [Work.bind_unfinished hending] at he; exact hx.onward t w e he
  · have hkept := hx.kept t w ht
    rcases hx.cuts t w ht with ⟨hsame, hdone, hearly, -⟩ | ⟨hstopped, -, -, -, hlate⟩
    · cases hending : (x d t w).ending with
      | value a =>
        have hending' : (x' d' t w).ending = .value a := by rw [hsame, hending]
        rw [Work.bind_value hending, Work.bind_value hending', List.filter_append, hkept, hsame]
        exact congrArg _ ((hf a).kept _ _ hearly)
      | failure e =>
        have hending' : (x' d' t w).ending = .failure e := by rw [hsame, hending]
        rw [Work.bind_failure hending, Work.bind_failure hending']
        exact hkept
      | unfinished => exact absurd hending hdone
    · rw [journal_bind_of_stopped hstopped, ← hkept]
      cases hending : (x d t w).ending with
      | value a =>
        have hT : T ≤ (x d t w).time := hlate.resolve_left (by rw [hending]; nofun)
        rw [Work.bind_value hending, List.filter_append,
          Journal.filter_eq_nil_of_le fun e he => hT.trans ((hf a).onward _ _ e he), List.append_nil]
      | failure e => rw [Work.bind_failure hending]
      | unfinished => rw [Work.bind_unfinished hending]

theorem wait (ms : Nat) : Severs T none ((Work.wait ms : Work σ ε Unit) none) (Work.wait ms (some T)) := by
  have hjournal (d : Deadline) (t : Time) (w : σ) : ((Work.wait ms : Work σ ε Unit) d t w).journal = [] := by
    unfold Work.wait
    split <;> rfl
  refine ⟨Drops.wait ms, fun t w e he => ?_, fun t w ht => ?_⟩
  · rw [hjournal] at he; cases he
  · rw [hjournal, hjournal]; rfl

theorem stall : Severs T none ((Work.stall : Work σ ε α) none) (Work.stall (some T)) :=
  ⟨Drops.stall, fun _ _ => nofun, fun _ _ _ => rfl⟩

theorem cue (c : Rehearsal.Cue (Except ε α)) :
    Severs T none ((c.perform : Work σ ε α) none) ((c.perform : Work σ ε α) (some T)) := by
  unfold Rehearsal.Cue.perform
  cases c.pace with
  | atOnce => exact of_atOnce (.ofExcept _)
  | after ms => exact (wait ms).bind fun _ => of_atOnce (.ofExcept _)
  | never => exact stall

end Severs

/-! ### Cancelled work -/

/-- Cancelled work has done all that comes before. -/
def Halts (T : Time) (y : Cancel → Work σ BuildError α) : Prop :=
  Severs T (some .cancelled) (y .never none) (y (.later T) none)

namespace Halts
variable {T : Time}

theorem of_atOnce {x : Work σ BuildError α} (hx : x.AtOnce) : Halts T fun _ => x := Severs.of_atOnce hx

theorem bind {y : Cancel → Work σ BuildError α} {f : Cancel → α → Work σ BuildError β} (hy : Halts T y)
    (hf : ∀ a, Halts T (f · a)) : Halts T fun cancel => y cancel >>= f cancel :=
  Severs.bind hy hf

theorem check : Halts T (Work.check : Cancel → Work σ BuildError Unit) := by
  have hjournal (cancel : Cancel) (t : Time) (w : σ) :
      (Work.check cancel none t w : Run σ BuildError Unit).journal = [] := by
    unfold Work.check
    split <;> rfl
  refine ⟨Cancels.check, fun t w e he => ?_, fun t w ht => ?_⟩
  · rw [hjournal] at he; cases he
  · rw [hjournal, hjournal]; rfl

/-- A race leaves what has been done when it is over. -/
theorem guard {x : Work σ ε α} (hx : Severs T none (x none) (x (some T))) :
    Halts T fun cancel => Work.guard cancel x := by
  change Severs T (some .cancelled) (Work.guard .never x none) (Work.guard (.later T) x none)
  have hjournal (t : Time) (w : σ) (ht : t < T) :
      (Work.guard (.later T) x none t w).journal = (x (some T) t w).journal := by
    have hn := Cancel.not_noticed_of_lt ht
    rcases hr : x (some T) t w with ⟨e, s, v, j⟩
    have hraced : x ((Cancel.later T).deadline.earlier none) t w = ⟨e, s, v, j⟩ := hr
    cases e with
    | value a => rw [Work.guard_done hn hraced nofun]
    | failure e => rw [Work.guard_done hn hraced nofun]
    | unfinished => rw [Work.guard_cancelled hn hraced rfl rfl]
  refine ⟨Cancels.guard hx.toTruncates, fun t w e he => ?_, fun t w ht => ?_⟩
  · rw [Work.guard_never] at he
    exact hx.onward t w e he
  · rw [Work.guard_never, hjournal t w ht]
    exact hx.kept t w ht

theorem sleep (ms : Nat) : Halts T fun cancel => (Work.sleep cancel ms : Work σ BuildError Unit) :=
  (guard (.wait ms)).bind fun _ => of_atOnce (.pure ())

section Loads
variable {attempt : Nat → Work σ LoadError α} (hattempt : ∀ n, Severs T none (attempt n none) (attempt n (some T)))
include hattempt

theorem once {otherwise : Cancel → LoadError → Work σ BuildError α} (hother : ∀ e, Halts T (otherwise · e))
    (number : Nat) : Halts T fun cancel => Retry.once cancel attempt number (otherwise cancel) := by
  refine check.bind fun _ => (of_atOnce (.happen _)).bind fun _ => (guard (hattempt number)).bind fun r => ?_
  cases r with
  | error e => exact hother e
  | ok a =>
    dsimp only
    split
    · exact (of_atOnce (.happen _)).bind fun _ => of_atOnce (.pure a)
    · exact of_atOnce (.pure a)

/-- Induction on the attempts that are left. -/
theorem attemptsFrom (strategy : LoadStrategy) (left number : Nat) :
    Halts T fun cancel => Retry.attemptsFrom strategy cancel attempt left number := by
  induction left generalizing number with
  | zero =>
    have hlast (e : LoadError) :
        Halts T fun _ => (Work.fail (.loadExhausted number e) : Work σ BuildError α) := of_atOnce (.fail _)
    exact once hattempt hlast number
  | succ left ih =>
    exact once hattempt (fun e => (of_atOnce (.happen _)).bind fun _ =>
      (sleep strategy.delay).bind fun _ => ih (number + 1)) number

theorem retry (strategy : LoadStrategy) : Halts T fun cancel => Retry.run strategy cancel attempt := by
  unfold Retry.run
  cases strategy.initialDelay? with
  | none => exact attemptsFrom hattempt strategy _ 1
  | some ms => exact (sleep ms).bind fun _ => attemptsFrom hattempt strategy _ 1

end Loads
end Halts

namespace Retry

/-- A load that is known to be cancelled does nothing. -/
theorem run_of_noticed (strategy : LoadStrategy) (attempt : Nat → Work σ LoadError α) {cancel : Cancel} {t : Time}
    (hn : cancel.noticed t = true) (d : Deadline) (w : σ) :
    run strategy cancel attempt d t w = ⟨.failure .cancelled, t, w, []⟩ := by
  have hcheck : (Work.check cancel : Work σ BuildError Unit) d t w = ⟨.failure .cancelled, t, w, []⟩ := by
    simp only [Work.check, hn, if_true]
  have hsleep (ms : Nat) : (Work.sleep cancel ms : Work σ BuildError Unit) d t w =
      ⟨.failure .cancelled, t, w, []⟩ := by
    have hguard := @Work.guard_noticed _ _ _ (Work.wait ms : Work σ BuildError Unit) d t w _ hn
    exact (Work.bind_failure (congrArg Run.ending hguard)).trans (by rw [hguard])
  have honce (number : Nat) (otherwise : LoadError → Work σ BuildError α) :
      once cancel attempt number otherwise d t w = ⟨.failure .cancelled, t, w, []⟩ :=
    (Work.bind_failure (congrArg Run.ending hcheck)).trans (by rw [hcheck])
  unfold run
  cases strategy.initialDelay? with
  | none =>
    cases strategy.maxAttempts - 1 with
    | zero => exact honce ..
    | succ left => exact honce ..
  | some ms => exact (Work.bind_failure (congrArg Run.ending (hsleep ms))).trans (by rw [hsleep ms])

/-- **A load that is cancelled.** Whatever its attempts give, how long they take and whether they end, a load that
would be over by the time `T` is not changed by its cancellation at `T`. Any other ends at `T` as cancelled. Its
attempts and its lines are those of the load that is not cancelled that come before `T`, and no others. A load that
has been cancelled before makes no attempt and tells nothing. -/
theorem run_cancelled (strategy : LoadStrategy) (cues : Nat → Rehearsal.Cue (Except LoadError α)) {T t : Time}
    (ht : t < T) (w : σ) :
    let attempt (number : Nat) : Work σ LoadError α := (cues number).perform
    let full := run strategy .never attempt none t w
    let cut := run strategy (.later T) attempt none t w
    (full.ending ≠ .unfinished → full.time < T → cut = full) ∧
    (full.ending = .unfinished ∨ T ≤ full.time → cut.ending = .failure .cancelled ∧ cut.time = T) ∧
    cut.journal <+: full.journal ∧ cut.journal = full.journal.filter (·.time < T) ∧
    ∀ cancel, cancel.noticed t = true → run strategy cancel attempt none t w = ⟨.failure .cancelled, t, w, []⟩ := by
  intro attempt full cut
  have hruns : Halts T fun cancel => run strategy cancel attempt :=
    Halts.retry (fun n => Severs.cue (cues n)) strategy
  have hcut : Cut T (some .cancelled) full cut := hruns.cuts t w ht
  have hkept : full.journal.filter (·.time < T) = cut.journal := hruns.kept t w ht
  refine ⟨hcut.eq_of_early, fun hlate => ?_, ?_, hkept.symm, fun cancel hn => run_of_noticed strategy attempt hn ..⟩
  · obtain ⟨hending, htime, -, -⟩ := hcut.part_of_late hlate
    exact ⟨hending, htime⟩
  · rcases hcut with ⟨hsame, -, -, -⟩ | ⟨-, -, hjournal, -, -⟩
    · rw [hsame]
    · exact hjournal

/-- The first attempt fails after four milliseconds, the next one never ends. -/
def stalling (number : Nat) : Rehearsal.Cue (Except LoadError Unit) :=
  if number < 2 then { pace := .after 4, answer := .error (.unrecognised "") }
  else { pace := .never, answer := .ok () }

/-- Cancelled in the pause after its first attempt, and in the second one. -/
theorem stalling_cancelled :
    let load (T : Time) :=
      run (.retry 3 5) (.later T) (fun n => ((stalling n).perform : Work Unit LoadError Unit)) none 0 ()
    ((load 6).ending = .failure .cancelled ∧ (load 6).time = 6 ∧ (load 6).journal.calls = [(0, .attempt 1)]) ∧
      (load 20).ending = .failure .cancelled ∧ (load 20).time = 20 ∧
        (load 20).journal.calls = [(0, .attempt 1), (9, .attempt 2)] := by
  intro load
  have hfull : (run (.retry 3 5) .never (fun n => ((stalling n).perform : Work Unit LoadError Unit)) none 0
    ()).ending = .unfinished := rfl
  obtain ⟨-, hpause, -, -, -⟩ := run_cancelled (.retry 3 5) stalling (by decide : 0 < 6) ()
  obtain ⟨-, hattempt, -, -, -⟩ := run_cancelled (.retry 3 5) stalling (by decide : 0 < 20) ()
  obtain ⟨hpauseEnding, hpauseTime⟩ := hpause (.inl hfull)
  obtain ⟨hattemptEnding, hattemptTime⟩ := hattempt (.inl hfull)
  exact ⟨⟨hpauseEnding, hpauseTime, rfl⟩, hattemptEnding, hattemptTime, rfl⟩

end Retry

end FlakeImage
