import FlakeImage.Proofs.Recovery

/-!
# Builds that come to an end

A host is responsive as long as its world has some property if it answers every call and keeps the property. A build
on it that is neither cancelled nor dropped comes to an end of its own (`Builder.build_completes`).
-/

namespace FlakeImage

variable {σ ε α β : Type}

/-- The service keeps `I` and answers, and its answer is as `good` says. -/
def Responds (I : σ → Prop) (good : α → Prop) (service : Service σ α) : Prop :=
  ∀ t w, I w → I (service t w).world ∧ ∃ ms a, (service t w).outcome = some (ms, a) ∧ good a

/-- In worlds with `I` every call is answered, and no response goes on for ever. -/
structure Host.Responsive (h : Host σ) (I : σ → Prop) : Prop where
  build : ∀ target, Responds I (· ≠ .error .cancelled) (h.tool.build target .never)
  load : ∀ archive, Responds I (fun a => (loadResult a).isSome = true) (h.runtime.load archive)
  imageId : ∀ reference, Responds I (fun _ => True) (h.runtime.imageId reference)
  tag : ∀ image name, Responds I (fun _ => True) (h.runtime.tag image name)

namespace Host.Responsive
variable {h : Host σ} {I : σ → Prop}

theorem exchange_world (hh : h.Responsive I) {t : Time} {w : σ} (hw : I w) (c : Call) :
    I (h.exchange .never none t w c).2 := by
  cases c with
  | build target => exact (hh.build target t w hw).1
  | attempt number => exact hw
  | openArchive path => exact hw
  | load archive => exact (hh.load archive t w hw).1
  | imageId reference => exact (hh.imageId reference t w hw).1
  | tag image name => exact (hh.tag image name t w hw).1

/-- What holds of every call in worlds with the property, and of its time, holds of all calls of a run. -/
theorem forall_exchanges (hh : h.Responsive I) {P : Time → Exchange → Prop}
    (hP : ∀ t v c, I v → P t (h.exchange .never none t v c).1) {w : σ} (hw : I w) (cs : List (Time × Call)) :
    ∀ x ∈ (cs.map (·.1)).zip (h.exchanges .never none w cs).1, P x.1 x.2 := by
  induction cs generalizing w with
  | nil => exact fun x hx => nomatch hx
  | cons c rest ih =>
    exact List.forall_mem_cons.2 ⟨hP c.1 w c.2 hw, ih (hh.exchange_world hw c.2)⟩

end Host.Responsive

/-- Whether a failure stops work does not depend on what the work is to give. -/
theorem Stopped.of_failure {e : BuildError} (h : Stopped (.failure e : Ending BuildError α)) :
    Stopped (.failure e : Ending BuildError β) := by
  cases h
  exact .cancelled

/-- Begun in a world with `I`, and neither cancelled nor dropped, the work ends of its own and keeps `I`. -/
def Work.Completes (I : σ → Prop) (x : Work σ BuildError α) : Prop :=
  ∀ t w, I w → I (x none t w).world ∧ ¬Stopped (x none t w).ending

theorem Host.openArchive_of_error {h : Host σ} {path : Path} {t : Time} {w : σ} {e : SystemError}
    (hopen : h.openFile path t w = .error e) :
    h.openArchive path none t w = ⟨.failure e, t, w, [⟨t, .call (.openArchive path)⟩]⟩ := by
  let service : Service σ (Except SystemError Archive) := fun now world =>
    { Reply.now world (h.openFile path now world) with isAwaited := true }
  have ho : (service t w).outcome = some (0, .error e) := congrArg (fun a => some (0, a)) hopen
  exact Work.request_answered ho (Reply.misses_none ..)

namespace Work.Completes
variable {I : σ → Prop} {x : Work σ BuildError α}

theorem bind {f : α → Work σ BuildError β} (hx : x.Completes I) (hf : ∀ a, (f a).Completes I) :
    (x >>= f).Completes I := by
  intro t w hw
  obtain ⟨hworld, hdone⟩ := hx t w hw
  cases he : (x none t w).ending with
  | value a => rw [bind_value he]; exact hf a _ _ hworld
  | failure e =>
    rw [bind_failure he]
    exact ⟨hworld, fun hs => hdone (he ▸ hs.of_failure)⟩
  | unfinished => rw [he] at hdone; exact absurd .dropped hdone

theorem pure (a : α) : (Pure.pure a : Work σ BuildError α).Completes I := fun _ _ hw => ⟨hw, nofun⟩

theorem fail {e : BuildError} (he : e ≠ .cancelled) : (Work.fail e : Work σ BuildError α).Completes I :=
  fun _ _ hw => ⟨hw, fun hs => by cases hs; exact he rfl⟩

theorem ofExcept {a : Except BuildError α} (ha : a ≠ .error .cancelled) :
    (Work.ofExcept a : Work σ BuildError α).Completes I := by
  cases a with
  | error e => exact fail fun he => ha (congrArg _ he)
  | ok a => exact pure a

theorem happen (e : Event) : (Work.happen e : Work σ BuildError Unit).Completes I := fun _ _ hw => ⟨hw, nofun⟩

theorem clock : (Work.time : Work σ BuildError Time).Completes I := fun _ _ hw => ⟨hw, nofun⟩

theorem check : (Work.check .never : Work σ BuildError Unit).Completes I := fun _ _ hw => ⟨hw, nofun⟩

theorem guard {y : Work σ ε α} (hy : ∀ t w, I w → I (y none t w).world ∧ (y none t w).ending ≠ .unfinished) :
    (Work.guard .never y).Completes I := by
  intro t w hw
  obtain ⟨hworld, hdone⟩ := hy t w hw
  rw [guard_never]
  refine ⟨hworld, ?_⟩
  cases he : (y none t w).ending with
  | value a => exact nofun
  | failure e => exact nofun
  | unfinished => exact absurd he hdone

theorem guard_request {c : Call} {good : Except ε α → Prop} {service : Service σ (Except ε α)}
    (hs : Responds I good service) : (Work.guard .never (Work.request c service)).Completes I := by
  refine guard fun t w hw => ?_
  obtain ⟨hworld, ms, a, ho, -⟩ := hs t w hw
  rw [request_answered ho (Reply.misses_none ..)]
  refine ⟨hworld, ?_⟩
  cases a <;> exact nofun

theorem sleep (ms : Nat) : (Work.sleep .never ms : Work σ BuildError Unit).Completes I := by
  refine bind (guard fun t w hw => ?_) fun _ => pure ()
  have hwait : (Work.wait ms : Work σ BuildError Unit) none t w = ⟨.value (), t + ms, w, []⟩ := by simp [Work.wait]
  rw [hwait]
  refine ⟨hw, ?_⟩
  rintro ⟨⟩

theorem onFailure (hx : x.Completes I) (f : BuildError → Option Event) : (x.onFailure f).Completes I := by
  intro t w hw
  rw [onFailure_run]
  exact hx t w hw

section Attempts
variable {h : Host σ} {path : Path}

theorem guard_loadArchive (hh : h.Responsive I) : (Work.guard .never (h.loadArchive path)).Completes I := by
  refine guard fun t w hw => ?_
  cases hopen : h.openFile path t w with
  | error e =>
    unfold Host.loadArchive
    rw [bind_failure (by rw [mapError_run, Host.openArchive_of_error hopen]; rfl), mapError_run,
      Host.openArchive_of_error hopen]
    exact ⟨hw, nofun⟩
  | ok archive =>
    obtain ⟨hworld, ms, a, hload, hresult⟩ := hh.load archive t w hw
    obtain ⟨result, hresult⟩ := Option.isSome_iff_exists.1 hresult
    obtain ⟨hending, hafter⟩ := Host.loadArchive_of_answer hopen hload hresult
    rw [hafter, hending]
    refine ⟨hworld, ?_⟩
    cases result <;> exact nofun

theorem once (hh : h.Responsive I) (number : Nat) {otherwise : LoadError → Work σ BuildError String}
    (hother : ∀ e, (otherwise e).Completes I) :
    (Retry.once .never (fun _ => h.loadArchive path) number otherwise).Completes I := by
  refine check.bind fun _ => (happen _).bind fun _ => (guard_loadArchive hh).bind fun a => ?_
  cases a with
  | error e => exact hother e
  | ok tag =>
    dsimp only
    split
    · exact (happen _).bind fun _ => pure tag
    · exact pure tag

theorem attemptsFrom (hh : h.Responsive I) (strategy : LoadStrategy) (left number : Nat) :
    (Retry.attemptsFrom strategy .never (fun _ => h.loadArchive path) left number).Completes I := by
  induction left generalizing number with
  | zero => exact once hh number fun e => fail nofun
  | succ left ih => exact once hh number fun e => (happen _).bind fun _ => (sleep _).bind fun _ => ih (number + 1)

theorem retry (hh : h.Responsive I) (strategy : LoadStrategy) :
    (Retry.run strategy .never (fun _ => h.loadArchive path)).Completes I := by
  unfold Retry.run
  cases strategy.initialDelay? with
  | none => exact attemptsFrom hh strategy _ 1
  | some ms => exact (sleep ms).bind fun _ => attemptsFrom hh strategy _ 1

end Attempts

theorem resolveImage {h : Host σ} (hh : h.Responsive I) (tag : String) : (h.resolveImage .never tag).Completes I := by
  refine (guard_request (hh.imageId tag)).bind fun a => ?_
  rcases a with e | _ | image
  · exact fail nofun
  · exact fail nofun
  · exact pure image

theorem applyTag {h : Host σ} (hh : h.Responsive I) (image : ImageId) (tag : String) :
    (h.applyTag .never image tag).Completes I := by
  refine (guard_request (hh.tag image tag)).bind fun a => ?_
  cases a with
  | error e => exact fail nofun
  | ok u => exact pure image

theorem build {h : Host σ} (hh : h.Responsive I) (target : Target) : (h.build .never target).Completes I := by
  intro t w hw
  obtain ⟨hworld, ms, a, ho, hgood⟩ := hh.build target t w hw
  unfold Host.build
  rw [request_answered ho (Reply.misses_none ..)]
  refine ⟨hworld, ?_⟩
  cases a with
  | ok path => exact nofun
  | error e =>
    intro hs
    cases hs
    exact hgood rfl

end Work.Completes

namespace Builder

theorem target_ne_cancelled (b : Builder σ) (r : Request) : b.target r ≠ .error .cancelled := by
  intro h
  unfold Builder.target at h
  split at h
  · cases h
  · next c hc =>
    cases hr : c.resolve r.plan b.hostArch with
    | error e =>
      obtain rfl := resolveSystem_eq_error (ImageConfig.resolve_eq_error_iff.1 hr)
      rw [hr] at h
      cases h
    | ok rc => rw [hr] at h; cases h

/-- **A build on a responsive host comes to an end**, if it is neither cancelled nor dropped. -/
theorem build_completes {b : Builder σ} {I : σ → Prop} (hb : b.host.Responsive I) (r : Request) :
    (b.build .never r).Completes I := by
  refine .onFailure (.bind (.ofExcept (b.target_ne_cancelled r)) fun target => .bind .clock fun started =>
    .bind .check fun _ => .bind (.happen _) fun _ => ?_) _
  refine .bind (.onFailure (.build hb target) _) fun path => .bind (.happen _) fun _ => ?_
  refine .bind (.retry hb b.strategy) fun tag => .bind .clock fun loaded => .bind (.happen _) fun _ => ?_
  refine .bind (.resolveImage hb tag) fun image => .bind (.happen _) fun _ => .bind (.happen _) fun _ => ?_
  exact .applyTag hb image _

end Builder

end FlakeImage
