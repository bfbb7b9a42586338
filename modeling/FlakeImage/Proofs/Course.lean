import FlakeImage.Proofs.Attempt
import FlakeImage.Proofs.Exchange

/-!
# The course of a build

`Course` says which calls a build makes, in which order and on what, depending on the answers so far, and how
it ends: at most one call of the tool, at most as many loads as the strategy allows, each of an archive just
opened at the path that the tool gave, one query for the tag of the load that succeeded, and one tagging of
the image found. Every build follows it (`run_follows`), whatever the world answers, when it answers and when
the build is cancelled.
-/

namespace FlakeImage

/-- The ending of work that is dropped or cancelled. -/
inductive Stopped {α : Type} : Ending BuildError α → Prop
  | dropped : Stopped .unfinished
  | cancelled : Stopped (.failure .cancelled)

/-- An attempt opens the archive at a path, has the runtime take what it has opened, and reads the response.
Its result depends on this response alone; there is none if it is stopped. -/
inductive Attempt (path : Path) (number : Nat) : List Exchange → Option (Except LoadError String) → Prop
  | opening : Attempt path number [.attempt number, .openArchive path none] none
  | unreadable (e : SystemError) :
    Attempt path number [.attempt number, .openArchive path (some (.error e))]
      (some (.error (.unreadable path e)))
  | loading (archive : Archive) :
    Attempt path number [.attempt number, .openArchive path (some (.ok archive)), .load archive none] none
  | refused (archive : Archive) (e : RuntimeError) :
    Attempt path number
      [.attempt number, .openArchive path (some (.ok archive)), .load archive (some (.error e))]
      (some (.error (.ingestion e)))
  | reading (archive : Archive) (s : Stream) :
    Attempt path number
      [.attempt number, .openArchive path (some (.ok archive)), .load archive (some (.ok s))] none
  | read (archive : Archive) (s : Stream) :
    Attempt path number
      [.attempt number, .openArchive path (some (.ok archive)), .load archive (some (.ok s))] s.outcome?

/-- Attempts from `number` on, after which `left` more are allowed. Only a failure is followed by another
attempt, and the last failure is the one that counts. -/
inductive Attempts (path : Path) : (left number : Nat) → List Exchange → Ending BuildError String → Prop
  | waiting {left number : Nat} {e : Ending BuildError String} (h : Stopped e) :
    Attempts path left number [] e
  | stopped {left number : Nat} {xs : List Exchange} {e : Ending BuildError String}
      (hx : Attempt path number xs none) (h : Stopped e) : Attempts path left number xs e
  | loaded {left number : Nat} {xs : List Exchange} {tag : String}
      (hx : Attempt path number xs (some (.ok tag))) : Attempts path left number xs (.value tag)
  | exhausted {number : Nat} {xs : List Exchange} {e : LoadError}
      (hx : Attempt path number xs (some (.error e))) :
    Attempts path 0 number xs (.failure (.loadExhausted number e))
  | again {left number : Nat} {xs ys : List Exchange} {e : LoadError} {ending : Ending BuildError String}
      (hx : Attempt path number xs (some (.error e))) (hy : Attempts path left (number + 1) ys ending) :
    Attempts path (left + 1) number (xs ++ ys) ending

/-- The image found gets the tag of the plan: its name, a colon and the id. -/
inductive Tagging (plan : String) (image : ImageId) : List Exchange → Ending BuildError ImageId → Prop
  | waiting {e : Ending BuildError ImageId} (h : Stopped e) : Tagging plan image [] e
  | stopped {e : Ending BuildError ImageId} (h : Stopped e) :
    Tagging plan image [.tag image (plan ++ ":" ++ image.text) none] e
  | failed (e : RuntimeError) :
    Tagging plan image [.tag image (plan ++ ":" ++ image.text) (some (.error e))]
      (.failure (.tagFailed image (plan ++ ":" ++ image.text) e))
  | tagged : Tagging plan image [.tag image (plan ++ ":" ++ image.text) (some (.ok ()))] (.value image)

/-- The image behind the tag that was loaded is asked for, and tagged if there is one. -/
inductive Naming (plan tag : String) : List Exchange → Ending BuildError ImageId → Prop
  | waiting {e : Ending BuildError ImageId} (h : Stopped e) : Naming plan tag [] e
  | stopped {e : Ending BuildError ImageId} (h : Stopped e) : Naming plan tag [.imageId tag none] e
  | failed (e : RuntimeError) : Naming plan tag [.imageId tag (some (.error e))] (.failure (.runtime e))
  | unknown : Naming plan tag [.imageId tag (some (.ok none))] (.failure (.unknownTag tag))
  | found {image : ImageId} {xs : List Exchange} {e : Ending BuildError ImageId}
      (h : Tagging plan image xs e) : Naming plan tag (.imageId tag (some (.ok (some image))) :: xs) e

/-- The target of a request: its sources with the name and the system of its configuration. -/
def Request.HasTarget (r : Request) (hostArch : String) (target : Target) : Prop :=
  ∃ c rc, r.config = .image c ∧ c.resolve r.plan hostArch = .ok rc ∧ target = ⟨r.source, rc.system, rc.name⟩

/-- The course of a build: its calls with their answers, and its ending. -/
inductive Course {σ : Type} (b : Builder σ) (r : Request) : List Exchange → Ending BuildError ImageId → Prop
  | otherBuilder {builder : String} {settings : Json.Value} (h : r.config = .other builder settings) :
    Course b r [] (.failure (.otherBuilder builder))
  | unresolved {c : ImageConfig} {e : BuildError} (hc : r.config = .image c)
      (h : c.resolve r.plan b.hostArch = .error e) : Course b r [] (.failure e)
  | cancelled {target : Target} (h : r.HasTarget b.hostArch target) : Course b r [] (.failure .cancelled)
  | building {target : Target} (h : r.HasTarget b.hostArch target) :
    Course b r [.build target none] .unfinished
  | unbuilt {target : Target} (h : r.HasTarget b.hostArch target) (e : BuildError) :
    Course b r [.build target (some (.error e))] (.failure e)
  | loading {target : Target} (h : r.HasTarget b.hostArch target) {path : Path} {xs : List Exchange}
      (hx : Attempts path (b.strategy.maxAttempts - 1) 1 xs .unfinished) :
    Course b r (.build target (some (.ok path)) :: xs) .unfinished
  | unloaded {target : Target} (h : r.HasTarget b.hostArch target) {path : Path} {xs : List Exchange}
      {e : BuildError} (hx : Attempts path (b.strategy.maxAttempts - 1) 1 xs (.failure e)) :
    Course b r (.build target (some (.ok path)) :: xs) (.failure e)
  | loaded {target : Target} (h : r.HasTarget b.hostArch target) {path : Path} {xs ys : List Exchange}
      {tag : String} {e : Ending BuildError ImageId}
      (hx : Attempts path (b.strategy.maxAttempts - 1) 1 xs (.value tag)) (hy : Naming r.plan tag ys e) :
    Course b r (.build target (some (.ok path)) :: (xs ++ ys)) e

/-! ### What a course comes to -/

/-- The runtime is given an archive. -/
def Exchange.isLoad : Exchange → Bool
  | .load .. => true
  | _ => false

/-- The call is a part of an attempt to load the archive. -/
def Exchange.isLoading : Exchange → Bool
  | .attempt _ | .openArchive .. | .load .. => true
  | _ => false

/-- The runtime is asked for an image or tags one. -/
def Exchange.isNaming : Exchange → Bool
  | .imageId .. | .tag .. => true
  | _ => false

def Call.isNaming : Call → Bool
  | .imageId .. | .tag .. => true
  | _ => false

/-- The questions about images and the tags that are set, in order. -/
def Journal.naming (j : Journal) : List Call := (j.calls.map (·.2)).filter Call.isNaming

/-- What is not about images in the course of a run is not so in its journal. -/
theorem Follows.naming_eq_nil {σ ε α : Type} {h : Host σ} {cancel : Cancel} {d : Deadline} {w : σ}
    {P : List Exchange → Ending ε α → Prop} {run : Run σ ε α} (hrun : Follows h cancel d w P run)
    (hP : ∀ xs, P xs run.ending → ∀ x ∈ xs, x.isNaming = false) : run.journal.naming = [] := by
  have hnone := hP _ hrun.course
  unfold Journal.naming
  rw [← h.map_call_exchanges cancel d w, List.filter_eq_nil_iff]
  intro c hc
  obtain ⟨x, hx, rfl⟩ := List.mem_map.1 hc
  have hcall : x.call.isNaming = x.isNaming := by cases x <;> rfl
  rw [hcall, hnone x hx]
  nofun

section Outcome
variable {path : Path} {number left : Nat} {xs : List Exchange} {plan tag : String} {image : ImageId}

theorem Attempt.countP_load {o : Option (Except LoadError String)} (h : Attempt path number xs o) :
    xs.countP Exchange.isLoad ≤ 1 := by
  cases h <;> simp [Exchange.isLoad]

theorem Attempt.isLoading {o : Option (Except LoadError String)} (h : Attempt path number xs o) :
    ∀ x ∈ xs, x.isLoading = true := by
  cases h <;> simp [Exchange.isLoading]

theorem Attempts.countP_load {e : Ending BuildError String} (h : Attempts path left number xs e) :
    xs.countP Exchange.isLoad ≤ left + 1 := by
  induction h with
  | waiting h => simp
  | stopped hx h => have := hx.countP_load; omega
  | loaded hx => have := hx.countP_load; omega
  | exhausted hx => have := hx.countP_load; omega
  | again hx hy ih =>
    have := hx.countP_load
    rw [List.countP_append]
    omega

theorem Attempts.isLoading {e : Ending BuildError String} (h : Attempts path left number xs e) :
    ∀ x ∈ xs, x.isLoading = true := by
  induction h with
  | waiting h => simp
  | stopped hx h => exact hx.isLoading
  | loaded hx => exact hx.isLoading
  | exhausted hx => exact hx.isLoading
  | again hx hy ih => exact List.forall_mem_append.2 ⟨hx.isLoading, ih⟩

theorem Attempts.not_isNaming {e : Ending BuildError String} (h : Attempts path left number xs e) :
    ∀ x ∈ xs, x.isNaming = false := by
  intro x hx
  have hloading := h.isLoading x hx
  cases x with
  | imageId => cases hloading
  | tag => cases hloading
  | _ => rfl

theorem Stopped.ne_value {e : Ending BuildError ImageId} (h : Stopped e) : e ≠ .value image := by
  rintro rfl
  cases h

theorem Tagging.value_iff {e : Ending BuildError ImageId} {found : ImageId} (h : Tagging plan found xs e) :
    e = .value image ↔ .tag image (plan ++ ":" ++ image.text) (some (.ok ())) ∈ xs := by
  cases h with
  | waiting h => simp [h.ne_value]
  | stopped h => simp [h.ne_value]
  | failed e => simp
  | tagged =>
    simp only [Ending.value.injEq, List.mem_singleton, Exchange.tag.injEq, and_true]
    exact ⟨fun h => ⟨h.symm, h ▸ rfl⟩, fun h => h.1.symm⟩

theorem Naming.value_iff {e : Ending BuildError ImageId} (h : Naming plan tag xs e) :
    e = .value image ↔ .tag image (plan ++ ":" ++ image.text) (some (.ok ())) ∈ xs := by
  cases h with
  | waiting h => simp [h.ne_value]
  | stopped h => simp [h.ne_value]
  | failed e => simp
  | unknown => simp
  | found h => simp [h.value_iff]

theorem Naming.countP_load {e : Ending BuildError ImageId} (h : Naming plan tag xs e) :
    xs.countP Exchange.isLoad = 0 := by
  cases h with
  | found h => cases h <;> rfl
  | _ => rfl

variable {σ : Type} {b : Builder σ} {r : Request} {e : Ending BuildError ImageId}

/-- A course has a result exactly if its last call, the tagging of the image, succeeds. -/
theorem Course.value_iff (h : Course b r xs e) :
    e = .value image ↔ .tag image (r.plan ++ ":" ++ image.text) (some (.ok ())) ∈ xs := by
  have hnone {path left number ys e'} (hy : Attempts path left number ys e') :
      .tag image (r.plan ++ ":" ++ image.text) (some (.ok ())) ∉ ys := fun hmem => by
    have := hy.not_isNaming _ hmem
    cases this
  cases h with
  | loading _ hx => simpa using hnone hx
  | unloaded _ hx => simpa using hnone hx
  | loaded _ hx hy => simp [hnone hx, hy.value_iff]
  | _ => simp

theorem Course.countP_load (h : Course b r xs e) : xs.countP Exchange.isLoad ≤ b.strategy.maxAttempts := by
  have hpos := b.strategy.maxAttempts_pos
  cases h with
  | loading _ hx => have := hx.countP_load; simp [Exchange.isLoad]; omega
  | unloaded _ hx => have := hx.countP_load; simp [Exchange.isLoad]; omega
  | loaded _ hx hy => have := hx.countP_load; simp [Exchange.isLoad, hy.countP_load]; omega
  | _ => simp [Exchange.isLoad]

/-- A build whose attempts have all failed gets no farther. -/
theorem Course.not_isNaming_of_exhausted {n : Nat} {last : LoadError}
    (h : Course b r xs (.failure (.loadExhausted n last))) : ∀ x ∈ xs, x.isNaming = false := by
  cases h with
  | unresolved hc h => exact fun x => nofun
  | unbuilt h e => simp [Exchange.isNaming]
  | unloaded h hx => exact List.forall_mem_cons.2 ⟨rfl, hx.not_isNaming⟩
  | loaded h hx hy =>
    rcases hy with hs | hs | _ | _ | hy
    · cases hs
    · cases hs
    · rcases hy with hs | hs | _ | _
      · cases hs
      · cases hs

end Outcome

/-! ### Every build follows its course -/

namespace Follows
variable {σ : Type} {h : Host σ} {cancel : Cancel} {d : Deadline} {t : Time} {w : σ}
variable {path : Path} {number : Nat}

theorem call_bind {ε ε' α β : Type} {d' : Deadline} {c : Call} {service : Service σ (Except ε α)} {g : ε → ε'}
    {f : α → Work σ ε' β} {Q : List Exchange → Ending ε' β → Prop} (mk : Option (Except ε α) → Exchange)
    (hx : ∀ t w, h.exchange cancel d t w c = (mk ((service t w).answer? d' t), (service t w).world))
    (hok : ∀ a t w, Follows h cancel d w (fun ys e => Q (mk (some (.ok a)) :: ys) e) (f a d' t w))
    (herror : ∀ e, Q [mk (some (.error e))] (.failure (g e))) (hnone : Q [mk none] .unfinished) :
    Follows h cancel d w Q (((Work.request c service).mapError g >>= f) d' t w) := by
  refine (Follows.request hx).mapError.bind ?_ ?_ ?_
  · rintro xs a ⟨-, ⟨o, rfl, rfl⟩, he⟩ t w
    rcases o with _ | ⟨e | a'⟩ <;> cases he
    exact hok a t w
  · rintro xs e ⟨-, ⟨o, rfl, rfl⟩, he⟩
    rcases o with _ | ⟨e' | a⟩ <;> cases he
    exact herror e'
  · rintro xs ⟨-, ⟨o, rfl, rfl⟩, he⟩
    rcases o with _ | ⟨e | a⟩ <;> cases he
    exact hnone

theorem loadArchive (number : Nat) :
    Follows h cancel d w (fun xs e => ∃ o, Attempt path number (.attempt number :: xs) o ∧ e = .of? o)
      (h.loadArchive path (cancel.deadline.earlier d) t w) := by
  refine call_bind (.openArchive path) (fun t w => rfl) (fun archive t w => ?_)
    (fun e => ⟨_, .unreadable e, rfl⟩) ⟨_, .opening, rfl⟩
  refine call_bind (.load archive) (fun t w => rfl) (fun s t w => ?_)
    (fun e => ⟨_, .refused archive e, rfl⟩) ⟨_, .loading archive, rfl⟩
  obtain ⟨hw, hc, hdone⟩ := Response.relay_outcome (d := cancel.deadline.earlier d) (t := t) (w := w) s
  refine .quiet hw hc ?_
  rcases hdone with ⟨he, -⟩ | ⟨he, -⟩
  · exact ⟨none, .reading archive s, he⟩
  · exact ⟨_, .read archive s, he⟩

theorem sleep (ms : Nat) :
    Follows h cancel d w (fun xs e => xs = [] ∧ (e = .value () ∨ Stopped e))
      (Work.sleep cancel ms d t w) := by
  have hwait : Follows h cancel d w (fun xs e => xs = [] ∧ (e = .value () ∨ e = .unfinished))
      ((Work.wait ms : Work σ BuildError Unit) (cancel.deadline.earlier d) t w) := by
    unfold Work.wait
    split
    · exact .quiet rfl rfl ⟨rfl, .inr rfl⟩
    · exact .quiet rfl rfl ⟨rfl, .inl rfl⟩
  have hguard : Follows h cancel d w (fun xs e => xs = [] ∧ ((∃ a, e = .value a) ∨ Stopped e))
      (Work.guard cancel (Work.wait ms : Work σ BuildError Unit) d t w) := by
    refine hwait.guard (fun _ => ⟨rfl, .inr .cancelled⟩) ?_ ?_ ?_
    · exact fun xs a hx => ⟨hx.1, .inl ⟨_, rfl⟩⟩
    · exact fun xs e hx => ⟨hx.1, .inl ⟨_, rfl⟩⟩
    · exact fun xs hx => ⟨⟨hx.1, .inr .dropped⟩, ⟨hx.1, .inr .cancelled⟩⟩
  refine hguard.bind ?_ ?_ ?_
  · rintro xs a ⟨rfl, -⟩ t w
    exact .quiet rfl rfl ⟨rfl, .inl rfl⟩
  · rintro xs e ⟨rfl, ⟨_, ⟨⟩⟩ | hs⟩
    cases hs
    exact ⟨rfl, .inr .cancelled⟩
  · rintro xs ⟨rfl, -⟩
    exact ⟨rfl, .inr .dropped⟩

theorem guard_loadArchive (number : Nat) (hn : cancel.noticed t = false) :
    Follows h cancel d w (fun xs e =>
      (∃ a, e = .value a ∧ Attempt path number (.attempt number :: xs) (some a)) ∨
        (Stopped e ∧ Attempt path number (.attempt number :: xs) none))
      (Work.guard cancel (h.loadArchive path) d t w) := by
  refine (loadArchive number).guard (fun hnoticed => ?_) ?_ ?_ ?_
  · rw [hn] at hnoticed; cases hnoticed
  · rintro xs a ⟨o, hx, he⟩
    obtain rfl := Ending.of?_eq_value.1 he.symm
    exact .inl ⟨_, rfl, hx⟩
  · rintro xs e ⟨o, hx, he⟩
    obtain rfl := Ending.of?_eq_failure.1 he.symm
    exact .inl ⟨_, rfl, hx⟩
  · rintro xs ⟨o, hx, he⟩
    obtain rfl := Ending.of?_eq_unfinished.1 he.symm
    exact ⟨.inr ⟨.dropped, hx⟩, .inr ⟨.cancelled, hx⟩⟩

/-- One attempt, if every failure of it leads to attempts that go on from there. -/
theorem once {left : Nat} {otherwise : LoadError → Work σ BuildError String}
    (hother : ∀ xs e, Attempt path number xs (some (.error e)) → ∀ t w,
      Follows h cancel d w (fun ys => Attempts path left number (xs ++ ys)) (otherwise e d t w)) :
    Follows h cancel d w (Attempts path left number)
      (Retry.once cancel (fun _ => h.loadArchive path) number otherwise d t w) := by
  refine check_bind (.waiting .cancelled) fun hn => attempt_bind ((guard_loadArchive number hn).bind ?_ ?_ ?_)
  · rintro xs a (⟨_, ⟨⟩, hx⟩ | ⟨hs, -⟩) t w
    · cases a with
      | error e => exact hother _ e hx t w
      | ok tag =>
        dsimp only
        split
        · refine happen_bind rfl (.quiet rfl rfl ?_)
          exact (List.append_nil _).symm ▸ .loaded hx
        · refine .quiet rfl rfl ?_
          exact (List.append_nil _).symm ▸ .loaded hx
    · cases hs
  · rintro xs e (⟨_, ⟨⟩, -⟩ | ⟨hs, hx⟩)
    cases hs
    exact .stopped hx .cancelled
  · rintro xs (⟨_, ⟨⟩, -⟩ | ⟨hs, hx⟩)
    exact .stopped hx .dropped

/-- Induction on the attempts that are left: the last failure is final, each before it leads on. -/
theorem attemptsFrom (strategy : LoadStrategy) (left number : Nat) :
    Follows h cancel d w (Attempts path left number)
      (Retry.attemptsFrom strategy cancel (fun _ => h.loadArchive path) left number d t w) := by
  induction left generalizing number t w with
  | zero =>
    refine once fun xs e hx t w => .quiet rfl rfl ?_
    exact (List.append_nil xs).symm ▸ .exhausted hx
  | succ left ih =>
    refine once fun xs e hx t w => happen_bind rfl ((sleep strategy.delay).bind ?_ ?_ ?_)
    · rintro ys a ⟨rfl, -⟩ t w
      exact (ih (number + 1)).mono fun ys e hy => .again hx hy
    · rintro ys e ⟨rfl, he | hs⟩
      · cases he
      · cases hs
        exact .again hx (.waiting .cancelled)
    · rintro ys ⟨rfl, -⟩
      exact .again hx (.waiting .dropped)

theorem retry (strategy : LoadStrategy) :
    Follows h cancel d w (Attempts path (strategy.maxAttempts - 1) 1)
      (Retry.run strategy cancel (fun _ => h.loadArchive path) d t w) := by
  unfold Retry.run
  cases strategy.initialDelay? with
  | none => exact attemptsFrom strategy _ 1
  | some ms =>
    refine (sleep ms).bind ?_ ?_ ?_
    · rintro xs a ⟨rfl, -⟩ t w
      exact attemptsFrom strategy _ 1
    · rintro xs e ⟨rfl, he | hs⟩
      · cases he
      · cases hs
        exact .waiting .cancelled
    · rintro xs ⟨rfl, -⟩
      exact .waiting .dropped

theorem guard_request_bind {ε α β : Type} {c : Call} {service : Service σ (Except ε α)}
    {f : Except ε α → Work σ BuildError β} {Q : List Exchange → Ending BuildError β → Prop}
    (mk : Option (Except ε α) → Exchange)
    (hx : ∀ t w, h.exchange cancel d t w c =
      (mk ((service t w).answer? (cancel.deadline.earlier d) t), (service t w).world))
    (hanswer : ∀ a t w, Follows h cancel d w (fun ys e => Q (mk (some a) :: ys) e) (f a d t w))
    (hwaiting : Q [] (.failure .cancelled)) (hnone : ∀ e, Stopped e → Q [mk none] e) :
    Follows h cancel d w Q ((Work.guard cancel (Work.request c service) >>= f) d t w) := by
  have hguard : Follows h cancel d w (fun xs e => (∃ a, xs = [mk (some a)] ∧ e = .value a) ∨
      (xs = [] ∧ e = .failure .cancelled) ∨ (xs = [mk none] ∧ Stopped e))
      (Work.guard cancel (Work.request c service) d t w) := by
    refine (Follows.request hx).guard (fun _ => .inr (.inl ⟨rfl, rfl⟩)) ?_ ?_ ?_
    · rintro xs a ⟨o, rfl, he⟩
      obtain rfl := Ending.of?_eq_value.1 he.symm
      exact .inl ⟨_, rfl, rfl⟩
    · rintro xs e ⟨o, rfl, he⟩
      obtain rfl := Ending.of?_eq_failure.1 he.symm
      exact .inl ⟨_, rfl, rfl⟩
    · rintro xs ⟨o, rfl, he⟩
      obtain rfl := Ending.of?_eq_unfinished.1 he.symm
      exact ⟨.inr (.inr ⟨rfl, .dropped⟩), .inr (.inr ⟨rfl, .cancelled⟩)⟩
  refine hguard.bind ?_ ?_ ?_
  · rintro xs a (⟨_, rfl, ⟨⟩⟩ | ⟨-, ⟨⟩⟩ | ⟨-, ⟨⟩⟩) t w
    exact hanswer a t w
  · rintro xs e (⟨_, -, ⟨⟩⟩ | ⟨rfl, ⟨⟩⟩ | ⟨rfl, ⟨⟩⟩)
    · exact hwaiting
    · exact hnone _ .cancelled
  · rintro xs (⟨_, -, ⟨⟩⟩ | ⟨-, ⟨⟩⟩ | ⟨rfl, -⟩)
    exact hnone _ .dropped

theorem applyTag (plan : String) (image : ImageId) :
    Follows h cancel d w (Tagging plan image) (h.applyTag cancel image (planTag plan image) d t w) := by
  refine guard_request_bind (.tag image (planTag plan image)) (fun t w => rfl) (fun a t w => ?_)
    (.waiting .cancelled) (fun e hs => .stopped hs)
  cases a with
  | error e => exact .quiet rfl rfl (.failed e)
  | ok u => exact .quiet rfl rfl .tagged

/-- The image is asked for. Unless it is found, there is nothing more to do. -/
theorem resolveImage (plan tag : String) :
    Follows h cancel d w (fun xs e =>
      (∃ image, xs = [.imageId tag (some (.ok (some image)))] ∧ e = .value image) ∨
        (Naming plan tag xs e ∧ (∀ image, e ≠ .value image) ∧
          ∀ reference image, .imageId reference (some (.ok (some image))) ∉ xs))
      (h.resolveImage cancel tag d t w) := by
  refine guard_request_bind (.imageId tag) (fun t w => rfl) (fun a t w => ?_)
    (.inr ⟨.waiting .cancelled, nofun, fun _ _ => List.not_mem_nil⟩)
    (fun e hs => .inr ⟨.stopped hs, fun _ => hs.ne_value, by simp⟩)
  rcases a with e | _ | image
  · exact .quiet rfl rfl (.inr ⟨.failed e, nofun, by simp⟩)
  · exact .quiet rfl rfl (.inr ⟨.unknown, nofun, by simp⟩)
  · exact .quiet rfl rfl (.inl ⟨image, rfl, rfl⟩)

/-- The image is asked for, and what comes then tags it. -/
theorem resolveImage_bind {plan tag : String} {f : ImageId → Work σ BuildError ImageId}
    (hf : ∀ image t w, Follows h cancel d w (Tagging plan image) (f image d t w)) :
    Follows h cancel d w (Naming plan tag) ((h.resolveImage cancel tag >>= f) d t w) := by
  refine (resolveImage plan tag).bind ?_ ?_ ?_
  · rintro xs image (⟨_, rfl, ⟨⟩⟩ | ⟨-, hvalue, -⟩) t w
    · exact (hf image t w).mono fun ys e hy => .found hy
    · exact absurd rfl (hvalue image)
  · rintro xs e (⟨_, -, ⟨⟩⟩ | ⟨hx, -, -⟩)
    exact hx
  · rintro xs (⟨_, -, ⟨⟩⟩ | ⟨hx, -, -⟩)
    exact hx

/-- The tool is called, and what comes then loads the archive that it gives. -/
theorem build {target : Target} :
    Follows h cancel d w (fun xs e => ∃ a, xs = [.build target a] ∧ e = .of? a)
      ((h.build cancel target).onFailure Builder.toolReport d t w) := by
  refine Follows.onFailure (fun e ev hev => ?_) (.request fun t w => rfl)
  cases e with
  | toolFailed status stderr => obtain rfl := Option.some.inj hev; rfl
  | _ => cases hev

end Follows

namespace Builder
variable {σ : Type} {b : Builder σ} {r : Request}

theorem hasTarget_of_target {target : Target} (h : b.target r = .ok target) :
    r.HasTarget b.hostArch target := by
  unfold Builder.target at h
  split at h
  · cases h
  · next c hc =>
    cases hr : c.resolve r.plan b.hostArch with
    | error e => rw [hr] at h; cases h
    | ok rc => rw [hr] at h; exact ⟨c, rc, hc, hr, (Except.ok.inj h).symm⟩

theorem target_of_hasTarget {target : Target} (h : r.HasTarget b.hostArch target) : b.target r = .ok target := by
  obtain ⟨c, rc, hc, hr, rfl⟩ := h
  unfold Builder.target
  rw [hc]
  dsimp only
  rw [hr]
  rfl

theorem course_of_target {e : BuildError} (h : b.target r = .error e) : Course b r [] (.failure e) := by
  unfold Builder.target at h
  split at h
  · next hc => obtain rfl := Except.error.inj h; exact .otherBuilder hc
  · next c hc =>
    cases hr : c.resolve r.plan b.hostArch with
    | error e' => rw [hr] at h; obtain rfl := Except.error.inj h; exact .unresolved hc hr
    | ok rc => rw [hr] at h; cases h

theorem build_of_target_error {e : BuildError} (h : b.target r = .error e)
    (cancel : Cancel) (d : Deadline) (t : Time) (w : σ) :
    b.build cancel r d t w = ⟨.failure e, t, w, [⟨t, .report (.progress (failureLine r.plan e))⟩]⟩ := by
  unfold Builder.build
  rw [Work.onFailure_run]
  unfold Builder.run
  rw [h]
  rfl

theorem run_follows (cancel : Cancel) (d : Deadline) (t : Time) (w : σ) :
    Follows b.host cancel d w (Course b r) (b.run cancel r d t w) := by
  unfold Builder.run
  cases htarget : b.target r with
  | error e => exact .quiet rfl rfl (course_of_target htarget)
  | ok target =>
    have hhas := hasTarget_of_target htarget
    change Follows b.host cancel d w (Course b r) ((Work.check cancel >>= fun _ => _) d t w)
    refine Follows.check_bind (.cancelled hhas) fun _ => .happen_bind rfl (Follows.build.bind ?_ ?_ ?_)
    · rintro xs path ⟨a, rfl, ha⟩ t w
      obtain rfl := Ending.of?_eq_value.1 ha.symm
      refine .happen_bind rfl ((Follows.retry b.strategy).bind ?_ ?_ ?_)
      · intro xs tag hx t w
        refine .time_bind (.happen_bind rfl ?_)
        refine Follows.mono (P := Naming r.plan tag) (.resolveImage_bind fun image t w => ?_)
          fun ys e hy => ?_
        · exact .happen_bind rfl (.happen_bind rfl (.applyTag r.plan image))
        · change Course b r (.build target (some (.ok path)) :: (xs ++ ys)) e
          exact .loaded hhas hx hy
      · exact fun xs e hx => .unloaded hhas hx
      · exact fun xs hx => .loading hhas hx
    · rintro xs e ⟨a, rfl, ha⟩
      obtain rfl := Ending.of?_eq_failure.1 ha.symm
      exact .unbuilt hhas e
    · rintro xs ⟨a, rfl, ha⟩
      obtain rfl := Ending.of?_eq_unfinished.1 ha.symm
      exact .building hhas

/-- The calls of a build and their answers are a course of it, and the world is what they have made of it. -/
theorem build_follows (b : Builder σ) (cancel : Cancel) (r : Request) (d : Deadline) (t : Time) (w : σ) :
    Follows b.host cancel d w (Course b r) (b.build cancel r d t w) := by
  refine Follows.onFailure (fun e ev hev => ?_) (run_follows cancel d t w)
  obtain rfl := Option.some.inj hev
  rfl

/-- **The calls of a build.** However the world answers, whenever it does and whenever the build is cancelled,
the calls of a build and their answers are a course of it. It has a result exactly if its last call, which
tags the image found, succeeds; and there are no more loads than the strategy allows. -/
theorem build_course (b : Builder σ) (cancel : Cancel) (r : Request) (d : Deadline) (t : Time) (w : σ) :
    let run := b.build cancel r d t w
    let x := b.host.exchanges cancel d w run.journal.calls
    run.world = x.2 ∧ Course b r x.1 run.ending ∧ x.1.countP Exchange.isLoad ≤ b.strategy.maxAttempts ∧
      ∀ image, run.ending = .value image ↔ .tag image (r.plan ++ ":" ++ image.text) (some (.ok ())) ∈ x.1 := by
  intro run x
  have hrun : Follows b.host cancel d w (Course b r) run := build_follows b cancel r d t w
  exact ⟨hrun.world, hrun.course, hrun.course.countP_load, fun image => hrun.course.value_iff⟩

/-- The tool builds at once, and the image that is loaded is there. -/
def ready : Builder Unit where
  host.tool := ⟨fun _ _ _ w => .now w (.ok ⟨[]⟩)⟩
  host.runtime :=
    ⟨fun _ _ w => .now w (.ok (.ofBytes Host.loadedLine)), fun _ _ w => .now w (.ok (some ⟨"sha256:1"⟩)),
      fun _ _ _ w => .now w (.ok ())⟩
  host.openFile _ _ _ := .ok { bytes := [] }
  strategy := .retry 3 5
  hostArch := "x86_64"

def readyRequest : Request := ⟨"plan", ⟨[]⟩, .image {}⟩

theorem ready_course :
    let run := ready.build .never readyRequest none 0 ()
    let xs := (ready.host.exchanges .never none () run.journal.calls).1
    Course ready readyRequest xs run.ending ∧ run.ending = .value ⟨"sha256:1"⟩ ∧
      .tag ⟨"sha256:1"⟩ "plan:sha256:1" (some (.ok ())) ∈ xs ∧ xs.countP Exchange.isLoad ≤ 3 := by
  intro run xs
  have himage : run.ending.value? = some ⟨"sha256:1"⟩ := by decide +kernel
  have hvalue := Ending.value?_eq_some.1 himage
  obtain ⟨-, hcourse, hloads, htagged⟩ := build_course ready .never readyRequest none 0 ()
  exact ⟨hcourse, hvalue, (htagged _).1 hvalue, hloads⟩

end Builder

end FlakeImage
