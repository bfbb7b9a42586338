import FlakeImage.Proofs.Course

/-!
# The number of attempts that are allowed

`Outlasts` compares the run of a build with that of one that is allowed more attempts: they are one run, but for
the number of attempts in the lines about failures, or the first is at the end of its attempts and its journal
is a beginning of the other's. So a larger number changes nothing for a build that gets to ask for its image,
and only adds calls to one that does not (`build_outlasts`).
-/

namespace FlakeImage

variable {σ α β : Type}

/-! ### Lines without the number of attempts -/

/-- The line without the number of attempts that are allowed. -/
def Progress.unlimited (p : Progress) : Progress :=
  { p with fields := p.fields.map fun f => if f.1 = "max_attempts" then (f.1, "") else f }

def Event.unlimited : Event → Event
  | .report (.progress p) => .report (.progress p.unlimited)
  | e => e

namespace Journal

def unlimited (j : Journal) : Journal := j.map fun x => ⟨x.time, x.event.unlimited⟩

theorem unlimited_append (i j : Journal) : unlimited (i ++ j) = unlimited i ++ unlimited j :=
  List.map_append ..

theorem calls_unlimited (j : Journal) : calls (unlimited j) = calls j := by
  unfold calls unlimited
  rw [List.filterMap_map]
  refine List.filterMap_congr fun x _ => ?_
  rcases x with ⟨t, c | (p | l) | n⟩ <;> rfl

theorem output_unlimited (j : Journal) : (unlimited j).transcript.output = j.transcript.output := by
  unfold transcript Transcript.output unlimited
  simp only [List.filterMap_map, List.filterMap_filterMap]
  refine List.filterMap_congr fun x _ => ?_
  rcases x with ⟨t, c | (p | l) | n⟩ <;> rfl

theorem lines_unlimited (j : Journal) :
    (unlimited j).transcript.lines = j.transcript.lines.map Progress.unlimited := by
  unfold transcript Transcript.lines unlimited
  simp only [List.filterMap_map, List.filterMap_filterMap, List.map_filterMap]
  refine List.filterMap_congr fun x _ => ?_
  rcases x with ⟨t, c | (p | l) | n⟩ <;> rfl

end Journal

/-- The runs are the same, but for the number of attempts that is told. -/
structure SameButLimit {ε : Type} (run run' : Run σ ε α) : Prop where
  ending : run'.ending = run.ending
  calls : run'.journal.calls = run.journal.calls
  output : run'.journal.transcript.output = run.journal.transcript.output
  lines : run'.journal.transcript.lines.map Progress.unlimited = run.journal.transcript.lines.map Progress.unlimited

/-! ### More attempts -/

/-- The run `more` is what becomes of `run` if more attempts are allowed. -/
inductive Outlasts (run more : Run σ BuildError α) : Prop
  | same (ending : more.ending = run.ending) (time : more.time = run.time) (world : more.world = run.world)
      (journal : more.journal.unlimited = run.journal.unlimited)
  | longer {number : Nat} {e : LoadError} (ending : run.ending = .failure (.loadExhausted number e))
      (journal : run.journal.unlimited <+: more.journal.unlimited)

/-- The runs of `more` are those of `x` if more attempts are allowed. -/
def Outlast (x more : Work σ BuildError α) : Prop := ∀ t w, Outlasts (x none t w) (more none t w)

namespace Outlast
variable {x more : Work σ BuildError α}

theorem refl (x : Work σ BuildError α) : Outlast x x := fun _ _ => .same rfl rfl rfl rfl

/-- What comes after the end of the attempts is not done. -/
theorem bind {f g : α → Work σ BuildError β} (hx : Outlast x more) (hf : ∀ a, Outlast (f a) (g a)) :
    Outlast (x >>= f) (more >>= g) := by
  intro t w
  rcases hx t w with ⟨hending, htime, hworld, hjournal⟩ | ⟨hending, hjournal⟩
  · cases he : (x none t w).ending with
    | value a =>
      rw [Work.bind_value he, Work.bind_value (hending.trans he), htime, hworld]
      rcases hf a (x none t w).time (x none t w).world with
        ⟨hending', htime', hworld', hjournal'⟩ | ⟨hending', hjournal'⟩
      · refine .same hending' htime' hworld' ?_
        simp only [Journal.unlimited_append, hjournal, hjournal']
      · refine .longer hending' ?_
        simp only [Journal.unlimited_append, hjournal]
        exact (List.prefix_append_right_inj _).2 hjournal'
    | failure e =>
      rw [Work.bind_failure he, Work.bind_failure (hending.trans he)]
      exact .same rfl htime hworld hjournal
    | unfinished =>
      rw [Work.bind_unfinished he, Work.bind_unfinished (hending.trans he)]
      exact .same rfl htime hworld hjournal
  · rw [Work.bind_failure hending]
    refine .longer rfl (hjournal.trans ?_)
    exact (Work.journal_prefix_bind more g).map _

theorem of_exhausted (number : Nat) (e : LoadError) (more : Work σ BuildError α) :
    Outlast (Work.fail (.loadExhausted number e)) more :=
  fun _ _ => .longer rfl List.nil_prefix

/-- The lines about a failure differ in the number of attempts only. -/
theorem retrying (strategy strategy' : LoadStrategy) (hdelay : strategy'.delay = strategy.delay) (number : Nat)
    (e : LoadError) : Outlast (Work.report (.progress (Retry.retrying strategy number e)) : Work σ BuildError Unit)
      (Work.report (.progress (Retry.retrying strategy' number e))) := by
  refine fun t w => .same rfl rfl rfl ?_
  simp [Work.report, Work.happen, Journal.unlimited, Event.unlimited, Progress.unlimited, Retry.retrying, hdelay]

theorem once (attempt : Nat → Work σ LoadError α) (number : Nat)
    {otherwise otherwise' : LoadError → Work σ BuildError α} (hother : ∀ e, Outlast (otherwise e) (otherwise' e)) :
    Outlast (Retry.once .never attempt number otherwise) (Retry.once .never attempt number otherwise') := by
  refine (refl _).bind fun _ => (refl _).bind fun _ => (refl _).bind fun r => ?_
  cases r with
  | ok a => exact refl _
  | error e => exact hother e

theorem attemptsFrom {strategy strategy' : LoadStrategy} (hdelay : strategy'.delay = strategy.delay)
    (attempt : Nat → Work σ LoadError α) {left left' : Nat} (hleft : left ≤ left') (number : Nat) :
    Outlast (Retry.attemptsFrom strategy .never attempt left number)
      (Retry.attemptsFrom strategy' .never attempt left' number) := by
  -- on the smaller number: where it comes to its end anything may follow in the other
  induction left generalizing left' number with
  | zero =>
    cases left' with
    | zero => exact refl _
    | succ left' => exact once attempt number fun e => of_exhausted number e _
  | succ left ih =>
    obtain ⟨left', rfl⟩ := Nat.exists_eq_add_of_le' (Nat.le_trans (Nat.succ_pos left) hleft)
    refine once attempt number fun e => (retrying strategy strategy' hdelay number e).bind fun _ => ?_
    rw [hdelay]
    exact (refl _).bind fun _ => ih (Nat.le_of_succ_le_succ hleft) (number + 1)

theorem retry (attempt : Nat → Work σ LoadError α) {n m : Nat} (hnm : n ≤ m) (d : Nat) :
    Outlast (Retry.run (.retry n d) .never attempt) (Retry.run (.retry m d) .never attempt) := by
  have hdelay : (LoadStrategy.retry m d).delay = (LoadStrategy.retry n d).delay := rfl
  have hleft : (LoadStrategy.retry n d).maxAttempts - 1 ≤ (LoadStrategy.retry m d).maxAttempts - 1 := by
    simp only [LoadStrategy.maxAttempts]
    omega
  exact attemptsFrom hdelay attempt hleft 1

end Outlast

namespace Builder
variable {b : Builder σ} {r : Request} {n m : Nat}

theorem run_outlast (b : Builder σ) (r : Request) (hnm : n ≤ m) (d : Nat) :
    Outlast ({ b with strategy := .retry n d }.run .never r) ({ b with strategy := .retry m d }.run .never r) := by
  unfold Builder.run
  -- all but the load is the same
  refine (Outlast.refl _).bind fun target => (Outlast.refl _).bind fun started => ?_
  refine (Outlast.refl _).bind fun _ => (Outlast.refl _).bind fun _ => ?_
  refine (Outlast.refl _).bind fun path => (Outlast.refl _).bind fun _ => ?_
  exact (Outlast.retry _ hnm d).bind fun tag => Outlast.refl _

theorem calls_build (cancel : Cancel) (t : Time) (w : σ) :
    (b.build cancel r none t w).journal.calls = (b.run cancel r none t w).journal.calls := by
  refine Work.calls_onFailure fun e ev hev => ?_
  obtain rfl := Option.some.inj hev
  rfl

/-- A build that is allowed more attempts is the same, or goes on where the other one has used up its own. -/
theorem build_outlasts (b : Builder σ) (r : Request) (hnm : n ≤ m) (d : Nat) (t : Time) (w : σ) :
    let few := { b with strategy := .retry n d }.build .never r none t w
    let many := { b with strategy := .retry m d }.build .never r none t w
    SameButLimit few many ∨ ((∃ k e, few.ending = .failure (.loadExhausted k e)) ∧
      few.journal.naming = [] ∧ few.journal.calls <+: many.journal.calls) := by
  intro few many
  have hfew := calls_build (b := { b with strategy := .retry n d }) (r := r) .never t w
  have hmany := calls_build (b := { b with strategy := .retry m d }) (r := r) .never t w
  -- the last line of a build that fails is the same, too, if the rest is; else it stands after all calls
  rcases run_outlast b r hnm d t w with ⟨hending, htime, -, hjournal⟩ | ⟨hending, hjournal⟩
  · have hsame : many.ending = few.ending ∧ many.journal.unlimited = few.journal.unlimited := by
      dsimp only [few, many, Builder.build]
      simp only [Work.onFailure_run, hending, htime, Journal.unlimited_append, hjournal, and_self]
    obtain ⟨hending, hjournal⟩ := hsame
    refine .inl ⟨hending, ?_, ?_, ?_⟩
    · rw [← Journal.calls_unlimited, hjournal, Journal.calls_unlimited]
    · rw [← Journal.output_unlimited, hjournal, Journal.output_unlimited]
    · rw [← Journal.lines_unlimited, hjournal, Journal.lines_unlimited]
  · have hexhausted : ∃ k e, few.ending = .failure (.loadExhausted k e) := by
      dsimp only [few, Builder.build]
      rw [Work.onFailure_run]
      exact ⟨_, _, hending⟩
    have hnone : few.journal.naming = [] := by
      rw [Journal.naming, hfew]
      refine (run_follows .never none t w).naming_eq_nil fun xs hxs => ?_
      rw [hending] at hxs
      exact hxs.not_isNaming_of_exhausted
    have hcalls := hjournal.filterMap fun e : Entry => e.event.call?.map (e.time, ·)
    rw [← Journal.calls, ← Journal.calls, Journal.calls_unlimited, Journal.calls_unlimited] at hcalls
    exact .inr ⟨hexhausted, hnone, by rw [hfew, hmany]; exact hcalls⟩

end Builder

end FlakeImage
