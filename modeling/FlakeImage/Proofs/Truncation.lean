import FlakeImage.Build.Builder
import FlakeImage.Program.Nix
import FlakeImage.Proofs.Work
import FlakeImage.Rehearsal.Tool

/-!
# Runs cut short

`Cut` compares a run with the same run cut short at a time: it is over by then and the two are one run, or the
one cut short ends at that time and its journal is a beginning of the other's. `Truncates` says so of all runs
that begin before. Work that is dropped at a deadline is cut short by it (`Drops`), and a build is cut short
by its cancellation (`Cancels`), as `guard` turns the one into the other.
-/

namespace FlakeImage

variable {σ ε ε' α β : Type}

/-- The ending of a run cut short: it is dropped, or fails. -/
def Ending.stopped : Option ε → Ending ε α
  | none => .unfinished
  | some e => .failure e

/-- The run `cut` is `full`, cut short at `T`. -/
inductive Cut (T : Time) (stop : Option ε) (full cut : Run σ ε α) : Prop
  | whole (same : cut = full) (done : full.ending ≠ .unfinished) (early : full.time < T)
      (before : ∀ x ∈ full.journal, x.time < T)
  | part (ending : cut.ending = .stopped stop) (time : cut.time = T) (journal : cut.journal <+: full.journal)
      (before : ∀ x ∈ cut.journal, x.time < T) (late : full.ending = .unfinished ∨ T ≤ full.time)

namespace Cut
variable {T : Time} {stop : Option ε} {full cut : Run σ ε α}

theorem eq_of_early (h : Cut T stop full cut) (hdone : full.ending ≠ .unfinished) (hearly : full.time < T) :
    cut = full := by
  rcases h with ⟨hsame, -, -, -⟩ | ⟨-, -, -, -, he | hT⟩
  · exact hsame
  · exact absurd he hdone
  · exact absurd hearly (Nat.not_lt.2 hT)

theorem part_of_late (h : Cut T stop full cut) (hlate : full.ending = .unfinished ∨ T ≤ full.time) :
    cut.ending = .stopped stop ∧ cut.time = T ∧ cut.journal <+: full.journal ∧
      ∀ x ∈ cut.journal, x.time < T := by
  rcases h with ⟨-, hdone, hearly, -⟩ | ⟨hending, htime, hjournal, hbefore, -⟩
  · rcases hlate with he | hT
    · exact absurd he hdone
    · exact absurd hearly (Nat.not_lt.2 hT)
  · exact ⟨hending, htime, hjournal, hbefore⟩

end Cut

/-- The runs of `cut` are those of `full`, cut short at `T`. -/
structure Truncates (T : Time) (stop : Option ε) (full cut : Time → σ → Run σ ε α) : Prop where
  forward : ∀ t w, t ≤ (full t w).time
  cuts : ∀ t w, t < T → Cut T stop (full t w) (cut t w)

/-- Work is cut short when it is dropped. -/
def Drops (T : Time) (x : Work σ ε α) : Prop := Truncates T none (x none) (x (some T))

/-- Work is cut short when it is cancelled. -/
def Cancels (T : Time) (y : Cancel → Work σ BuildError α) : Prop :=
  Truncates T (some .cancelled) (y .never none) (y (.later T) none)

/-- Work that takes no time and comes to an end. -/
structure Work.AtOnce (x : Work σ ε α) : Prop where
  same : ∀ d d' t w, x d t w = x d' t w
  done : ∀ d t w, (x d t w).ending ≠ .unfinished
  time : ∀ d t w, (x d t w).time = t
  journal : ∀ d t w, ∀ e ∈ (x d t w).journal, e.time = t

namespace Work.AtOnce

theorem pure (a : α) : AtOnce (Pure.pure a : Work σ ε α) :=
  ⟨fun _ _ _ _ => rfl, fun _ _ _ => nofun, fun _ _ _ => rfl, fun _ _ _ _ => nofun⟩

theorem fail (e : ε) : AtOnce (Work.fail e : Work σ ε α) :=
  ⟨fun _ _ _ _ => rfl, fun _ _ _ => nofun, fun _ _ _ => rfl, fun _ _ _ _ => nofun⟩

theorem ofExcept (a : Except ε α) : AtOnce (Work.ofExcept a : Work σ ε α) := by
  cases a with
  | ok a => exact pure a
  | error e => exact fail e

theorem clock : AtOnce (Work.time : Work σ ε Time) :=
  ⟨fun _ _ _ _ => rfl, fun _ _ _ => nofun, fun _ _ _ => rfl, fun _ _ _ _ => nofun⟩

theorem happen (e : Event) : AtOnce (Work.happen e : Work σ ε Unit) := by
  refine ⟨fun _ _ _ _ => rfl, fun _ _ _ => nofun, fun _ _ _ => rfl, fun d t w x hx => ?_⟩
  rw [List.mem_singleton.1 hx]

end Work.AtOnce

namespace Truncates
variable {T : Time} {stop : Option ε} {d d' : Deadline} {x x' : Work σ ε α}

theorem of_atOnce (hx : x.AtOnce) : Truncates T stop (x d) (x d') := by
  refine ⟨fun t w => Nat.le_of_eq (hx.time d t w).symm, fun t w ht => ?_⟩
  refine .whole (hx.same d' d t w) (hx.done d t w) ?_ fun e he => ?_
  · rw [hx.time]; exact ht
  · rw [hx.journal d t w e he]; exact ht

/-- What comes after work only adds time. -/
theorem forward_bind {f : α → Work σ ε β} (hf : ∀ a t w, t ≤ (f a d t w).time) (t : Time) (w : σ) :
    (x d t w).time ≤ ((x >>= f) d t w).time := by
  cases he : (x d t w).ending with
  | value a => rw [Work.bind_value he]; exact hf a _ _
  | failure e => rw [Work.bind_failure he]
  | unfinished => rw [Work.bind_unfinished he]

/-- The second part of some work is cut short if the first is over in time; else only the first is run. -/
theorem bind {f f' : α → Work σ ε β} (hx : Truncates T stop (x d) (x' d'))
    (hf : ∀ a, Truncates T stop (f a d) (f' a d')) : Truncates T stop ((x >>= f) d) ((x' >>= f') d') := by
  have hmore := forward_bind (x := x) (f := f) (d := d) fun a => (hf a).forward
  refine ⟨fun t w => Nat.le_trans (hx.forward t w) (hmore t w), fun t w ht => ?_⟩
  rcases hx.cuts t w ht with ⟨hsame, hdone, hearly, hbefore⟩ | ⟨hending, htime, hjournal, hbefore, hlate⟩
  · cases he : (x d t w).ending with
    | value a =>
      have he' : (x' d' t w).ending = .value a := by rw [hsame, he]
      rw [Work.bind_value he, Work.bind_value he', hsame]
      rcases (hf a).cuts (x d t w).time (x d t w).world hearly with
        ⟨hsame, hdone, hearly, hbefore'⟩ | ⟨hending, htime, hjournal, hbefore', hlate⟩
      · exact .whole (by rw [hsame]) hdone hearly (List.forall_mem_append.2 ⟨hbefore, hbefore'⟩)
      · exact .part hending htime ((List.prefix_append_right_inj _).2 hjournal)
          (List.forall_mem_append.2 ⟨hbefore, hbefore'⟩) hlate
    | failure e =>
      have he' : (x' d' t w).ending = .failure e := by rw [hsame, he]
      rw [Work.bind_failure he, Work.bind_failure he', hsame]
      exact .whole rfl nofun hearly hbefore
    | unfinished => exact absurd he hdone
  · have hlate' : ((x >>= f) d t w).ending = .unfinished ∨ T ≤ ((x >>= f) d t w).time := by
      rcases hlate with he | hT
      · exact .inl (by rw [Work.bind_unfinished he])
      · exact .inr (Nat.le_trans hT (hmore t w))
    have hjournal' := hjournal.trans (Work.journal_prefix_bind x f)
    cases stop with
    | none => rw [Work.bind_unfinished hending]; exact .part rfl htime hjournal' hbefore hlate'
    | some e => rw [Work.bind_failure hending]; exact .part rfl htime hjournal' hbefore hlate'

/-- A call that is dropped at `T`, or is answered so as to end then, is cut short; `late` says of the call that
is not cut short that it takes longer. -/
theorem cut_request {c : Call} {service : Service σ (Except ε α)} {t : Time} {w : σ} {cut : Run σ ε α}
    (ht : t < T)
    (late : ∀ ms a, (service t w).outcome = some (ms, a) → T ≤ t + ms)
    (hcut : cut = ⟨.stopped stop, T, (service t w).world, Work.opening c t (service t w)⟩) :
    Cut T stop (Work.request c service none t w) cut := by
  subst hcut
  refine .part rfl rfl ?_ (fun x hx => ?_) ?_
  · rw [Work.request_journal]
  · rw [Work.time_of_mem_opening hx]; exact ht
  · rcases Work.request_cases c service none t w with ⟨ms, a, ho, -, h⟩ | ⟨-, h⟩ <;> rw [h]
    · exact .inr (late ms a ho)
    · exact .inl rfl

theorem whole_request {c : Call} {service : Service σ (Except ε α)} {t : Time} {w : σ} {cut : Run σ ε α}
    {ms : Nat} {a : Except ε α} (ht : t < T) (ho : (service t w).outcome = some (ms, a))
    (hm : (service t w).misses (some T) t ms = false) (hcut : cut = Work.request c service none t w) :
    Cut T stop (Work.request c service none t w) cut := by
  rw [Work.request_answered ho (Reply.misses_none ..)] at hcut ⊢
  refine .whole hcut ?_ (Reply.lt_of_not_misses ht hm) fun x hx => ?_
  · cases a <;> nofun
  · rw [Work.time_of_mem_opening hx]; exact ht

theorem forward_request {c : Call} {service : Service σ (Except ε α)} (t : Time) (w : σ) :
    t ≤ (Work.request c service none t w).time := by
  rcases Work.request_cases c service none t w with ⟨ms, a, -, -, h⟩ | ⟨-, h⟩ <;> rw [h]
  · exact Nat.le_add_right t ms
  · exact Nat.le_refl t

/-- The end of work that fails is told of in both runs, but not of work that is cut short. -/
theorem onFailure {g : ε → Option Event} (hx : Truncates T stop (x d) (x' d'))
    (hg : ∀ e, stop = some e → g e = none) : Truncates T stop (x.onFailure g d) (x'.onFailure g d') := by
  refine ⟨fun t w => by rw [Work.onFailure_run]; exact hx.forward t w, fun t w ht => ?_⟩
  rcases hx.cuts t w ht with ⟨hsame, hdone, hearly, hbefore⟩ | ⟨hending, htime, hjournal, hbefore, hlate⟩
  · rw [Work.onFailure_run, Work.onFailure_run, hsame]
    refine .whole rfl hdone hearly (List.forall_mem_append.2 ⟨hbefore, fun entry hentry => ?_⟩)
    obtain ⟨ev, -, rfl⟩ := List.mem_map.1 hentry
    exact hearly
  · have hquiet : (x' d' t w).ending.failure?.bind g = none := by
      rw [hending]
      cases stop with
      | none => rfl
      | some e => exact hg e rfl
    rw [Work.onFailure_run, Work.onFailure_run, hquiet]
    simp only [Option.toList_none, List.map_nil, List.append_nil]
    exact .part hending htime (hjournal.trans (List.prefix_append ..)) hbefore hlate

end Truncates

section Dropping
variable {T : Time}

theorem Drops.of_atOnce {x : Work σ ε α} (hx : x.AtOnce) : Drops T x := Truncates.of_atOnce hx

theorem Drops.bind {x : Work σ ε α} {f : α → Work σ ε β} (hx : Drops T x) (hf : ∀ a, Drops T (f a)) :
    Drops T (x >>= f) := Truncates.bind hx hf

theorem Drops.wait (ms : Nat) : Drops T (Work.wait ms : Work σ ε Unit) := by
  have hnone (t : Time) (w : σ) : (Work.wait ms : Work σ ε Unit) none t w = ⟨.value (), t + ms, w, []⟩ := by
    simp [Work.wait]
  refine ⟨fun t w => by rw [hnone]; exact Nat.le_add_right t ms, fun t w ht => ?_⟩
  rw [hnone]
  by_cases hlate : 0 < ms ∧ T ≤ t + ms
  · have hcut : (Work.wait ms : Work σ ε Unit) (some T) t w = Work.dropped (some T) t w [] := by
      simp [Work.wait, hlate]
    rw [hcut]
    exact .part rfl rfl (List.prefix_refl _) nofun (.inr hlate.2)
  · have hcut : (Work.wait ms : Work σ ε Unit) (some T) t w = ⟨.value (), t + ms, w, []⟩ := by
      simp only [Work.wait, Deadline.passed_some, decide_eq_true_eq, hlate, if_false]
    refine .whole hcut nofun ?_ nofun
    rcases Nat.eq_zero_or_pos ms with rfl | hms
    · exact ht
    · exact Nat.lt_of_not_le fun hT => hlate ⟨hms, hT⟩

theorem Drops.stall : Drops T (Work.stall : Work σ ε α) :=
  ⟨fun t _ => Nat.le_refl t, fun _ _ _ => .part rfl rfl (List.prefix_refl _) nofun (.inl rfl)⟩

theorem Drops.request (c : Call) (service : Service σ (Except ε α)) : Drops T (Work.request c service) := by
  refine ⟨Truncates.forward_request, fun t w ht => ?_⟩
  cases ho : (service t w).outcome with
  | none => exact Truncates.cut_request ht (by rw [ho]; nofun) (Work.request_silent ho)
  | some o =>
    obtain ⟨ms, a⟩ := o
    cases hm : (service t w).misses (some T) t ms with
    | true =>
      refine Truncates.cut_request ht (fun ms' a' h => ?_) (Work.request_missed ho hm)
      obtain ⟨rfl, -⟩ := Prod.mk.inj (Option.some.inj (ho.symm.trans h))
      exact Reply.le_of_misses hm
    | false =>
      refine Truncates.whole_request ht ho hm ?_
      rw [Work.request_answered ho hm, Work.request_answered ho (Reply.misses_none ..)]

theorem Drops.mapError {g : ε → ε'} {x : Work σ ε α} (hx : Drops T x) : Drops T (x.mapError g) := by
  refine ⟨fun t w => by rw [Work.mapError_run]; exact hx.forward t w, fun t w ht => ?_⟩
  rw [Work.mapError_run, Work.mapError_run]
  rcases hx.cuts t w ht with ⟨hsame, hdone, hearly, hbefore⟩ | ⟨hending, htime, hjournal, hbefore, hlate⟩
  · refine .whole (by rw [hsame]) ?_ hearly hbefore
    cases he : (x none t w).ending with
    | unfinished => exact absurd he hdone
    | _ => nofun
  · refine .part (by rw [hending]; rfl) htime hjournal hbefore ?_
    rcases hlate with he | hT
    · exact .inl (by rw [he]; rfl)
    · exact .inr hT

end Dropping

section Cancelling
variable {T : Time}

theorem Cancel.not_noticed_of_lt {t : Time} (ht : t < T) : (Cancel.later T).noticed t = false :=
  decide_eq_false (Nat.lt_asymm ht)

theorem Cancels.of_atOnce {x : Work σ BuildError α} (hx : x.AtOnce) : Cancels T fun _ => x :=
  Truncates.of_atOnce hx

theorem Cancels.bind {y : Cancel → Work σ BuildError α} {f : Cancel → α → Work σ BuildError β}
    (hy : Cancels T y) (hf : ∀ a, Cancels T (f · a)) : Cancels T fun cancel => y cancel >>= f cancel :=
  Truncates.bind hy hf

theorem Cancels.check : Cancels T (Work.check : Cancel → Work σ BuildError Unit) := by
  have hcheck : ∀ t (w : σ), t < T → Work.check (.later T) none t w = ⟨.value (), t, w, []⟩ := by
    intro t w ht
    simp only [Work.check, Cancel.not_noticed_of_lt ht, Bool.false_eq_true, if_false]
  exact ⟨fun t _ => Nat.le_refl t, fun t w ht => .whole (hcheck t w ht) nofun ht nofun⟩

/-- **A race with the cancellation**: what is dropped then is cancelled. -/
theorem Cancels.guard {x : Work σ ε α} (hx : Drops T x) : Cancels T fun cancel => Work.guard cancel x := by
  change Truncates T (some .cancelled) (Work.guard .never x none) (Work.guard (.later T) x none)
  refine ⟨fun t w => by rw [Work.guard_never]; exact hx.forward t w, fun t w ht => ?_⟩
  have hn := Cancel.not_noticed_of_lt ht
  rw [Work.guard_never]
  rcases hx.cuts t w ht with ⟨hsame, hdone, hearly, hbefore⟩ | ⟨hending, -, hjournal, hbefore, hlate⟩
  · refine .whole (Work.guard_done hn hsame hdone) ?_ hearly hbefore
    cases he : (x none t w).ending with
    | unfinished => exact absurd he hdone
    | _ => nofun
  · rcases hr : x (some T) t w with ⟨e, t', v, j⟩
    rw [hr] at hending hjournal hbefore
    obtain rfl : e = .unfinished := hending
    rw [Work.guard_cancelled hn hr rfl rfl]
    refine .part rfl rfl hjournal hbefore ?_
    rcases hlate with he | hT
    · exact .inl (by rw [he]; rfl)
    · exact .inr hT

theorem Cancels.sleep (ms : Nat) : Cancels T fun cancel => (Work.sleep cancel ms : Work σ BuildError Unit) :=
  (Cancels.guard (.wait ms)).bind fun _ => .of_atOnce (.pure ())

/-- One attempt is cut short if the attempt is and what comes after its failure. -/
theorem Cancels.once {attempt : Nat → Work σ LoadError α} (hattempt : ∀ n, Drops T (attempt n))
    {otherwise : Cancel → LoadError → Work σ BuildError α} (hother : ∀ e, Cancels T (otherwise · e))
    (number : Nat) :
    Cancels T fun cancel => Retry.once cancel attempt number (otherwise cancel) := by
  refine Cancels.check.bind fun _ => (Cancels.of_atOnce (.happen _)).bind fun _ =>
    (Cancels.guard (hattempt number)).bind fun r => ?_
  cases r with
  | error e => exact hother e
  | ok a =>
    dsimp only
    split
    · exact (Cancels.of_atOnce (.happen _)).bind fun _ => .of_atOnce (.pure a)
    · exact .of_atOnce (.pure a)

/-- Induction on the attempts that are left. -/
theorem Cancels.attemptsFrom {attempt : Nat → Work σ LoadError α} (hattempt : ∀ n, Drops T (attempt n))
    (strategy : LoadStrategy) (left number : Nat) :
    Cancels T fun cancel => Retry.attemptsFrom strategy cancel attempt left number := by
  induction left generalizing number with
  | zero =>
    have hlast (e : LoadError) :
        Cancels T fun _ => (Work.fail (.loadExhausted number e) : Work σ BuildError α) :=
      .of_atOnce (.fail _)
    exact Cancels.once hattempt hlast number
  | succ left ih =>
    exact Cancels.once hattempt (fun e => (Cancels.of_atOnce (.happen _)).bind fun _ =>
      (Cancels.sleep strategy.delay).bind fun _ => ih (number + 1)) number

theorem Cancels.retry {attempt : Nat → Work σ LoadError α} (hattempt : ∀ n, Drops T (attempt n))
    (strategy : LoadStrategy) : Cancels T fun cancel => Retry.run strategy cancel attempt := by
  unfold Retry.run
  cases strategy.initialDelay? with
  | none => exact Cancels.attemptsFrom hattempt strategy _ 1
  | some ms => exact (Cancels.sleep ms).bind fun _ => Cancels.attemptsFrom hattempt strategy _ 1

end Cancelling

/-! ### Responses -/

namespace Response
variable {T : Time}

theorem relayAll_drops (lines : List String) : Drops T (relayAll lines : Work σ LoadError Unit) := by
  induction lines with
  | nil => exact .of_atOnce (.pure ())
  | cons l r ih => exact (Drops.of_atOnce (.happen _)).bind fun _ => ih

theorem relayLines_drops (last : String) (ls : List Bytes) :
    Drops T (relayLines last ls : Work σ LoadError String) := by
  induction ls generalizing last with
  | nil => exact .of_atOnce (.pure last)
  | cons l r ih =>
    exact (relayAll_drops _).bind fun _ => (Drops.of_atOnce (.ofExcept _)).bind fun last => ih last

theorem relayChunks_drops (line : Bytes) (last : String) (cs : List Chunk) :
    Drops T (relayChunks line last cs : Work σ LoadError (Bytes × String)) := by
  induction cs generalizing line last with
  | nil => exact .of_atOnce (.pure _)
  | cons c r ih => exact (Drops.wait c.after).bind fun _ => (relayLines_drops _ _).bind fun last => ih _ last

theorem relay_drops (s : Stream) : Drops T (relay s : Work σ LoadError String) := by
  refine (relayChunks_drops _ _ _).bind fun x => ?_
  cases s.ending with
  | complete after => exact (Drops.wait after).bind fun _ => relayLines_drops _ _
  | broken after source => exact (Drops.wait after).bind fun _ => .of_atOnce (.fail _)
  | stalled => exact .stall

end Response

namespace Host
variable {T : Time}

theorem loadArchive_drops (h : Host σ) (path : Path) : Drops T (h.loadArchive path) :=
  (Drops.request _ _).mapError.bind fun _ => (Drops.request _ _).mapError.bind fun s =>
    (Response.relay_drops s).bind fun last => .of_atOnce (.ofExcept (defaultTag last))

theorem resolveImage_cancels (h : Host σ) (tag : String) : Cancels T (h.resolveImage · tag) := by
  refine (Cancels.guard (.request _ _)).bind fun r => ?_
  rcases r with e | _ | image
  · exact .of_atOnce (.fail _)
  · exact .of_atOnce (.fail _)
  · exact .of_atOnce (.pure image)

theorem applyTag_cancels (h : Host σ) (image : ImageId) (tag : String) :
    Cancels T (h.applyTag · image tag) := by
  refine (Cancels.guard (.request _ _)).bind fun r => ?_
  cases r with
  | error e => exact .of_atOnce (.fail _)
  | ok u => exact .of_atOnce (.pure image)

end Host

/-! ### Builds -/

/-- While it waits the tool also waits for its cancellation, and does not heed it otherwise. -/
def BuildTool.Races (tool : BuildTool σ) : Prop :=
  ∀ target T t w, t < T →
    tool.build target (.later T) t w = (tool.build target .never t w).racing .cancelled (.later T) t

namespace Builder
variable {T : Time}

/-- The tool is not dropped, but answers at the cancellation. -/
theorem build_cancels {h : Host σ} (hraces : h.tool.Races) (target : Target) :
    Cancels T (h.build · target) := by
  refine ⟨Truncates.forward_request, fun t w ht => ?_⟩
  change Cut T (some .cancelled) (Work.request (.build target) (h.tool.build target .never) none t w)
    (Work.request (.build target) (h.tool.build target (.later T)) none t w)
  have hrace := hraces target T t w ht
  generalize hr : h.tool.build target .never t w = r at hrace
  -- the tool answers at `T` unless its answer comes before
  have hstop : h.tool.build target (.later T) t w = { r with outcome := some (T - t, .error .cancelled) } →
      Work.request (.build target) (h.tool.build target (.later T)) none t w =
        ⟨.failure .cancelled, T, r.world, Work.opening (.build target) t r⟩ := fun h' => by
    rw [Work.request_answered (by rw [h']) (Reply.misses_none ..), h', Nat.add_sub_cancel' (Nat.le_of_lt ht)]
    rfl
  simp only [Reply.racing, Cancel.not_noticed_of_lt ht, Bool.false_eq_true, if_false,
    Cancel.deadline] at hrace
  cases ho : r.outcome with
  | none =>
    rw [ho] at hrace
    exact Truncates.cut_request ht (by rw [hr, ho]; nofun) (by rw [hstop hrace, hr]; rfl)
  | some o =>
    obtain ⟨ms, a⟩ := o
    rw [ho] at hrace
    dsimp only at hrace
    cases hm : r.misses (some T) t ms with
    | true =>
      rw [if_pos hm] at hrace
      refine Truncates.cut_request ht (fun ms' a' h' => ?_) (by rw [hstop hrace, hr]; rfl)
      rw [hr, ho] at h'
      obtain ⟨rfl, -⟩ := Prod.mk.inj (Option.some.inj h')
      exact Reply.le_of_misses hm
    | false =>
      rw [if_neg (by rw [hm]; nofun)] at hrace
      refine Truncates.whole_request ht (by rw [hr, ho]) (by rw [hr, hm]) ?_
      simp only [Work.request, hrace, hr]

theorem run_cancels (b : Builder σ) (r : Request) (hraces : b.host.tool.Races) : Cancels T (b.run · r) := by
  unfold Builder.run
  refine (Cancels.of_atOnce (.ofExcept (b.target r))).bind fun target => ?_
  refine (Cancels.of_atOnce .clock).bind fun started => Cancels.check.bind fun _ => ?_
  refine (Cancels.of_atOnce (.happen _)).bind fun _ => ?_
  have hbuild : Cancels T fun cancel => (b.host.build cancel target).onFailure toolReport :=
    (build_cancels hraces target).onFailure (by rintro e ⟨⟩; rfl)
  refine hbuild.bind fun path => (Cancels.of_atOnce (.happen _)).bind fun _ => ?_
  refine (Cancels.retry (fun _ => b.host.loadArchive_drops path) b.strategy).bind fun tag => ?_
  refine (Cancels.of_atOnce .clock).bind fun loaded => (Cancels.of_atOnce (.happen _)).bind fun _ => ?_
  refine (b.host.resolveImage_cancels tag).bind fun image => (Cancels.of_atOnce (.happen _)).bind fun _ => ?_
  exact (Cancels.of_atOnce (.happen _)).bind fun _ => b.host.applyTag_cancels image _

/-- A build that fails has one more line. -/
theorem build_of_failure {b : Builder σ} {cancel : Cancel} {r : Request} {d : Deadline} {t : Time} {w : σ}
    {e : BuildError} (h : (b.run cancel r d t w).ending = .failure e) :
    b.build cancel r d t w = ⟨.failure e, (b.run cancel r d t w).time, (b.run cancel r d t w).world,
      (b.run cancel r d t w).journal ++
        [⟨(b.run cancel r d t w).time, .report (.progress (failureLine r.plan e))⟩]⟩ := by
  unfold Builder.build
  rw [Work.onFailure_run, h]
  rfl

/-- A build that has been cancelled before gets no farther than its configuration. -/
theorem run_already (b : Builder σ) (r : Request) (d : Deadline) (t : Time) (w : σ) :
    b.run .already r d t w = ⟨.failure (match r.config with
      | .other builder _ => .otherBuilder builder
      | .image c =>
        match c.resolve r.plan b.hostArch with
        | .error _ => .unsupportedArchitecture b.hostArch
        | .ok _ => .cancelled), t, w, []⟩ := by
  unfold Builder.run Builder.target
  cases r.config with
  | other builder settings => rfl
  | image c =>
    dsimp only
    cases h : c.resolve r.plan b.hostArch with
    | error e => obtain rfl := resolveSystem_eq_error (ImageConfig.resolve_eq_error_iff.1 h); rfl
    | ok rc => rfl

/-- **Cancellation only cuts a build short.** A build that would be over by the time `T` is not changed by its
cancellation at `T`. Any other ends at `T` as cancelled: it makes no call at that time or later, and its calls,
its output and its progress lines, but for the last one, are beginnings of those of the build that is not
cancelled. A build that has been cancelled before makes no call, and fails for that reason unless its
configuration is at fault. -/
theorem build_cancelled (b : Builder σ) (r : Request) (hraces : b.host.tool.Races) {T t : Time} (ht : t < T)
    (w : σ) :
    let full := b.build .never r none t w
    let cut := b.build (.later T) r none t w
    let early := b.build .already r none t w
    (full.ending ≠ .unfinished → full.time < T → cut = full) ∧
    (full.ending = .unfinished ∨ T ≤ full.time →
      cut.ending = .failure .cancelled ∧ cut.time = T ∧ (∀ call ∈ cut.journal.calls, call.1 < T) ∧
      cut.journal.calls <+: full.journal.calls ∧
      cut.journal.transcript.output <+: full.journal.transcript.output ∧
      ∃ lines, lines <+: full.journal.transcript.lines ∧
        cut.journal.transcript.lines = lines ++
          [⟨.error, "docker:nix build failed", [("plan", r.plan), ("error", "build cancelled")]⟩]) ∧
    (early.journal.calls = [] ∧ early.ending = .failure (match r.config with
      | .other builder _ => .otherBuilder builder
      | .image c =>
        match c.resolve r.plan b.hostArch with
        | .error _ => .unsupportedArchitecture b.hostArch
        | .ok _ => .cancelled)) := by
  intro full cut early
  have hfull : full.ending = (b.run .never r none t w).ending ∧ full.time = (b.run .never r none t w).time ∧
      (b.run .never r none t w).journal <+: full.journal := by
    dsimp only [full, Builder.build]
    rw [Work.onFailure_run]
    exact ⟨rfl, rfl, List.prefix_append ..⟩
  obtain ⟨hending, htime, hprefix⟩ := hfull
  have hearly := build_of_failure (congrArg Run.ending (run_already b r none t w))
  rw [run_already] at hearly
  have hruns := (run_cancels b r hraces).cuts t w ht
  refine ⟨fun hdone hT => ?_, fun hlate => ?_, by rw [show early = _ from hearly]; exact ⟨rfl, rfl⟩⟩
  · have hsame := hruns.eq_of_early (hending ▸ hdone) (htime ▸ hT)
    simp only [cut, full, Builder.build, Work.onFailure_run, hsame]
  · obtain ⟨hstopped, hT, hjournal, hbefore⟩ := hruns.part_of_late (hending ▸ htime ▸ hlate)
    have hcut : cut = _ := build_of_failure hstopped
    have hjournal := hjournal.trans hprefix
    generalize (b.run (.later T) r none t w).journal = j at hcut hjournal hbefore
    rw [hcut, hT]
    have hcalls :
        Journal.calls (j ++ [⟨T, .report (.progress (failureLine r.plan .cancelled))⟩]) = j.calls := by
      simp
    have htranscript : Journal.transcript (j ++ [⟨T, .report (.progress (failureLine r.plan .cancelled))⟩]) =
        j.transcript ++ [.progress (failureLine r.plan .cancelled)] := by
      simp
    refine ⟨rfl, rfl, fun call hcall => ?_, ?_, ?_, j.transcript.lines, ?_, ?_⟩
    · rw [hcalls] at hcall
      obtain ⟨x, hx, hcall⟩ := Journal.time_of_mem_calls hcall
      rw [← hcall]
      exact hbefore x hx
    · rw [hcalls]
      exact hjournal.filterMap _
    · rw [htranscript, Transcript.output_append]
      exact (List.append_nil _).symm ▸ (hjournal.filterMap _).filterMap _
    · exact (hjournal.filterMap _).filterMap _
    · rw [htranscript, Transcript.lines_append]
      rfl

end Builder

/-! ### Tools that race -/

/-- An answer without delay is not too late. -/
theorem Reply.racing_of_now {e : ε} {T t : Time} (ht : t < T) {r : Reply σ (Except ε α)} {a : Except ε α}
    (h : r.outcome = some (0, a)) (hr : r.isAwaited = false) : r.racing e (.later T) t = r := by
  simp only [racing, Cancel.not_noticed_of_lt ht, Cancel.deadline, h, misses, hr]
  rfl

theorem Nix.tool_races (programs : Programs σ) (program : String) : (Nix.tool programs program).Races := by
  intro target T t w ht
  simp only [Nix.tool]
  cases programs.start (launch program target) t w with
  | error e => exact (Reply.racing_of_now ht rfl rfl).symm
  | ok reply => rfl

namespace Rehearsal

/-- A part of the world races as the whole does. -/
theorem Part.lift_racing {τ : Type} (p : Part σ τ) {e : ε} {cancel : Cancel}
    {service service' : Service τ (Except ε α)} {t : Time} {w : σ} (h : service' t (p.get w) = (service t (p.get w)).racing e cancel t) :
    p.lift service' t w = (p.lift service t w).racing e cancel t := by
  simp only [lift, h]
  generalize service t (p.get w) = r
  cases hn : cancel.noticed t with
  | true => simp [Reply.racing, hn]
  | false =>
    cases hd : cancel.deadline with
    | none => simp [Reply.racing, hn, hd]
    | some c =>
      rcases ho : r.outcome with _ | ⟨ms, a⟩
      · simp [Reply.racing, hn, hd, ho]
      · by_cases hm : (r.isAwaited = true ∨ 0 < ms) ∧ c ≤ t + ms <;>
          simp [Reply.racing, Reply.misses, hn, hd, ho, hm]

theorem Tool.buildTool_races (part : Part σ Tool) : (Tool.buildTool part).Races := by
  intro target T t w ht
  refine part.lift_racing ?_
  unfold respond
  generalize part.get w = tool
  cases ha : isAttentive tool.manner with
  | true => rfl
  | false =>
    refine (Reply.racing_of_now ht (a := (cue tool.manner).answer) ?_ rfl).symm
    cases hm : tool.manner with
    | succeed path => rfl
    | fail stderr => rfl
    | hang => rw [hm] at ha; cases ha
    | scripted cues => rw [hm] at ha; cases ha

end Rehearsal

/-! ### A build that is cut short -/

namespace Builder

/-- The tool takes three milliseconds, and the load of its archive never ends. -/
def stuck : Builder Rehearsal.Tool where
  host.tool := Rehearsal.Tool.buildTool ⟨id, fun tool _ => tool⟩
  host.runtime :=
    ⟨fun _ _ w => { world := w, outcome := none }, fun _ _ w => .now w (.ok none),
      fun _ _ _ w => .now w (.ok ())⟩
  host.openFile _ _ _ := .ok { bytes := [] }
  strategy := default
  hostArch := "x86_64"

def stuckRequest : Request := ⟨"plan", ⟨[]⟩, .image {}⟩

def stuckTool : Rehearsal.Tool := { manner := .scripted [{ pace := .after 3, answer := .ok ⟨[]⟩ }] }

theorem stuck_build_cancelled :
    let cut := stuck.build (.later 5) stuckRequest none 0 stuckTool
    cut.ending = .failure .cancelled ∧ cut.time = 5 ∧ cut.journal.calls.map (·.1) = [0, 3, 3, 3] := by
  intro cut
  have hraces : stuck.host.tool.Races := Rehearsal.Tool.buildTool_races _
  have hfull : (stuck.build .never stuckRequest none 0 stuckTool).ending = .unfinished := rfl
  obtain ⟨-, hcut, -⟩ := build_cancelled stuck stuckRequest hraces (by decide : 0 < 5) stuckTool
  obtain ⟨hending, htime, -⟩ := hcut (.inl hfull)
  exact ⟨hending, htime, rfl⟩

end Builder

end FlakeImage
