import FlakeImage.Proofs.Failure

/-!
# What a build tells

`Account` says which progress lines go with which calls: the lines of a `Story` up to the point that the build
has reached, a warning for each attempt that another one may follow. `Tells` is `Follows` with the lines. A build
that fails tells of it in one more line, after one with what the tool has written if it is the tool that failed;
it tells of no error otherwise (`build_account`).
-/

namespace FlakeImage

variable {σ ε ε' α β : Type}

/-! ### The lines of a build -/

/-- The warnings about attempts that have failed, from `number` on. -/
def warnings (policy : Policy) : Nat → List LoadError → List Progress
  | _, [] => []
  | number, e :: es => policy.warning number e :: warnings policy (number + 1) es

/-- The line about the attempt that has succeeded, unless it is the first. -/
def recovery (number : Nat) : List Progress :=
  if 1 < number then [⟨.info, "image archive loaded", [("attempt", toString number)]⟩] else []

/-- The lines about an image that has been found. -/
def taggingLines (plan : String) (image : ImageId) : List Progress :=
  [⟨.info, "got docker image id", [("image_id", image.text)]⟩,
    ⟨.info, "tagging image", [("image_id", image.text), ("tag", plan ++ ":" ++ image.text)]⟩]

/-- What there is to tell of a build that comes to tag an image. -/
structure Story where
  target : Target
  path : Path := ⟨[]⟩
  failures : List LoadError := []
  tag : String := ""
  took : Nat := 0
  image : ImageId := ⟨""⟩

namespace Story
variable (s : Story) (strategy : LoadStrategy) (plan : String)

/-- The lines up to the call of the tool. -/
def begun : List Progress := [⟨.info, "nix build", [("target", s.target.display)]⟩]

/-- The lines up to the last failure that does not end the load. -/
def tried : List Progress :=
  s.begun ++ ⟨.info, "nix build completed", [("path", s.path.display)]⟩ :: warnings strategy.policy 1 s.failures

/-- The lines up to the question for the image. -/
def loaded : List Progress :=
  s.tried strategy ++ recovery (1 + s.failures.length) ++
    [⟨.info, "build completed", [("default_tag", s.tag), ("took_ms", toString s.took)]⟩]

/-- All lines, up to the tagging of the image. -/
def lines : List Progress := s.loaded strategy ++ taggingLines plan s.image

end Story

/-- The line with what a tool that has failed has written. -/
def BuildError.toolLine? : BuildError → Option Progress
  | .toolFailed _ stderr => some ⟨.error, "nix build fail result", [("stderr", stderr)]⟩
  | _ => none

/-- The lines about the failure of a build. -/
def closing (plan : String) : Ending BuildError ImageId → List Progress
  | .failure e =>
    e.toolLine?.toList ++ [⟨.error, "docker:nix build failed", [("plan", plan), ("error", e.message)]⟩]
  | _ => []

/-! ### The account of a build -/

/-- `Attempts` with the failures that another attempt may follow. -/
inductive Tries (path : Path) :
    (left number : Nat) → List Exchange → List LoadError → Ending BuildError String → Prop
  | waiting {left number : Nat} {e : Ending BuildError String} (h : Stopped e) : Tries path left number [] [] e
  | stopped {left number : Nat} {xs : List Exchange} {e : Ending BuildError String}
      (hx : Attempt path number xs none) (h : Stopped e) : Tries path left number xs [] e
  | loaded {left number : Nat} {xs : List Exchange} {tag : String}
      (hx : Attempt path number xs (some (.ok tag))) : Tries path left number xs [] (.value tag)
  | exhausted {number : Nat} {xs : List Exchange} {e : LoadError}
      (hx : Attempt path number xs (some (.error e))) :
    Tries path 0 number xs [] (.failure (.loadExhausted number e))
  | again {left number : Nat} {xs ys : List Exchange} {e : LoadError} {es : List LoadError}
      {ending : Ending BuildError String} (hx : Attempt path number xs (some (.error e)))
      (hy : Tries path left (number + 1) ys es ending) :
    Tries path (left + 1) number (xs ++ ys) (e :: es) ending

/-- The calls of a build with their answers, and what it has told before it fails, if it does. -/
inductive Account (strategy : LoadStrategy) (plan : String) (s : Story) : List Exchange → List Progress → Prop
  | unbegun : Account strategy plan s [] []
  | unbuilt (a : Option (Except BuildError Path)) (ha : ∀ path, a ≠ some (.ok path)) :
    Account strategy plan s [.build s.target a] s.begun
  | unloaded {xs : List Exchange} {e : Ending BuildError String}
      (hx : Tries s.path (strategy.maxAttempts - 1) 1 xs s.failures e) (he : ∀ tag, e ≠ .value tag) :
    Account strategy plan s (.build s.target (some (.ok s.path)) :: xs) (s.tried strategy)
  | unnamed {xs ys : List Exchange}
      (hx : Tries s.path (strategy.maxAttempts - 1) 1 xs s.failures (.value s.tag))
      (hy : ∀ reference image, .imageId reference (some (.ok (some image))) ∉ ys) :
    Account strategy plan s (.build s.target (some (.ok s.path)) :: (xs ++ ys)) (s.loaded strategy)
  | named {xs ys : List Exchange}
      (hx : Tries s.path (strategy.maxAttempts - 1) 1 xs s.failures (.value s.tag)) :
    Account strategy plan s
      (.build s.target (some (.ok s.path)) :: (xs ++ .imageId s.tag (some (.ok (some s.image))) :: ys))
      (s.lines strategy plan)

theorem Tries.attempts {path : Path} {left number : Nat} {xs : List Exchange} {es : List LoadError}
    {e : Ending BuildError String} (h : Tries path left number xs es e) : Attempts path left number xs e := by
  induction h with
  | waiting hs => exact .waiting hs
  | stopped hx hs => exact .stopped hx hs
  | loaded hx => exact .loaded hx
  | exhausted hx => exact .exhausted hx
  | again hx hy ih => exact .again hx ih

section Loading
variable {path : Path} {number left : Nat} {strategy : LoadStrategy}

/-- The line about a load that has succeeded with an attempt. -/
def loadLine (number : Nat) : Ending BuildError String → List Progress
  | .value _ => recovery number
  | _ => []

/-- Attempts with their lines: the warnings, and the line about the success after them. -/
def Loading (strategy : LoadStrategy) (path : Path) (left number : Nat) (xs : List Exchange) (ls : List Progress)
    (e : Ending BuildError String) : Prop :=
  ∃ es, Tries path left number xs es e ∧ ls = warnings strategy.policy number es ++ loadLine (number + es.length) e

theorem Loading.waiting {e : Ending BuildError String} (hs : Stopped e) : Loading strategy path left number [] [] e :=
  ⟨[], .waiting hs, by cases hs <;> rfl⟩

theorem Loading.again {xs ys : List Exchange} {ls : List Progress} {e : LoadError} {ending : Ending BuildError String}
    (hx : Attempt path number xs (some (.error e))) (hy : Loading strategy path left (number + 1) ys ls ending) :
    Loading strategy path (left + 1) number (xs ++ ys) (strategy.policy.warning number e :: ls) ending := by
  obtain ⟨es, hes, rfl⟩ := hy
  refine ⟨e :: es, .again hx hes, ?_⟩
  rw [List.length_cons, Nat.add_comm es.length, ← Nat.add_assoc]
  rfl

end Loading

section Account
variable {strategy : LoadStrategy} {plan : String} {s : Story} {xs : List Exchange} {told : List Progress}

theorem warnings_level (policy : Policy) (number : Nat) (es : List LoadError) :
    ∀ l ∈ warnings policy number es, l.level ≠ .error := by
  induction es generalizing number with
  | nil => exact fun l hl => nomatch hl
  | cons e es ih => exact List.forall_mem_cons.2 ⟨nofun, ih (number + 1)⟩

theorem recovery_level (number : Nat) : ∀ l ∈ recovery number, l.level ≠ .error := by
  unfold recovery
  split
  · exact List.forall_mem_singleton.2 nofun
  · exact fun l hl => nomatch hl

theorem closing_level (plan : String) (e : Ending BuildError ImageId) :
    ∀ l ∈ closing plan e, (l.level == .error) = true := by
  cases e with
  | failure e => cases e <;> simp [closing, BuildError.toolLine?]
  | value image => exact fun l hl => nomatch hl
  | unfinished => exact fun l hl => nomatch hl

theorem Story.lines_level (s : Story) : ∀ l ∈ s.lines strategy plan, l.level ≠ .error := by
  have hinner := And.intro (warnings_level strategy.policy 1 s.failures)
    (recovery_level (1 + s.failures.length))
  simp only [lines, loaded, tried, begun, taggingLines, List.forall_mem_append, List.forall_mem_cons]
  simpa using hinner

theorem Account.told_prefix (h : Account strategy plan s xs told) : told <+: s.lines strategy plan := by
  have hlines : s.loaded strategy <+: s.lines strategy plan := List.prefix_append ..
  have hloaded : s.tried strategy <+: s.loaded strategy := by
    rw [Story.loaded, List.append_assoc]
    exact List.prefix_append ..
  have htried : s.begun <+: s.tried strategy := List.prefix_append ..
  cases h with
  | unbegun => exact List.nil_prefix
  | unbuilt a ha => exact htried.trans (hloaded.trans hlines)
  | unloaded hx he => exact hloaded.trans hlines
  | unnamed hx hy => exact hlines
  | named hx => exact List.prefix_rfl

theorem Account.told_eq_lines_iff (h : Account strategy plan s xs told) :
    told = s.lines strategy plan ↔ ∃ reference image, .imageId reference (some (.ok (some image))) ∈ xs := by
  -- Every part of a story has a line of its own, so that what is told of the parts before it is shorter than the whole.
  have hlength : (s.loaded strategy).length < (s.lines strategy plan).length := by simp [Story.lines, taggingLines]
  have htried : (s.tried strategy).length < (s.loaded strategy).length := by simp [Story.loaded]
  have hbegun : s.begun.length < (s.tried strategy).length := by simp [Story.tried]
  have hshort (ls : List Progress) (hls : ls.length < (s.lines strategy plan).length) : ls ≠ s.lines strategy plan := by
    rintro rfl
    exact absurd hls (Nat.lt_irrefl _)
  have hattempts {path : Path} {left number : Nat} {ys : List Exchange} {es : List LoadError}
      {e : Ending BuildError String} (hys : Tries path left number ys es e) (reference : String) (image : ImageId) :
      .imageId reference (some (.ok (some image))) ∉ ys := fun hmem =>
    nomatch hys.attempts.not_isNaming _ hmem
  cases h with
  | unbegun => simp [hshort [] (by simp [Story.lines, taggingLines])]
  | unbuilt a ha => simp [hshort s.begun (by omega)]
  | unloaded hx he => simp [hshort (s.tried strategy) (by omega), hattempts hx]
  | unnamed hx hy => simp [hshort _ hlength, hattempts hx, hy]
  | named hx => exact iff_of_true rfl ⟨s.tag, s.image, by simp⟩

end Account

/-! ### Silent work -/

/-- The work tells no progress line. -/
def Work.Silent (x : Work σ ε α) : Prop := ∀ d t w, (x d t w).journal.transcript.lines = []

namespace Work.Silent
variable {x : Work σ ε α}

theorem bind {f : α → Work σ ε β} (hx : x.Silent) (hf : ∀ a, (f a).Silent) : (x >>= f).Silent := by
  intro d t w
  cases h : (x d t w).ending with
  | value a => rw [bind_value h, Journal.transcript_append, Transcript.lines_append, hx d t w, hf a, List.append_nil]
  | failure e => rw [bind_failure h]; exact hx d t w
  | unfinished => rw [bind_unfinished h]; exact hx d t w

theorem pure (a : α) : (Pure.pure a : Work σ ε α).Silent := fun _ _ _ => rfl

theorem fail (e : ε) : (Work.fail e : Work σ ε α).Silent := fun _ _ _ => rfl

theorem ofExcept (a : Except ε α) : (Work.ofExcept a : Work σ ε α).Silent := by
  cases a with
  | error e => exact fail e
  | ok a => exact pure a

theorem output (line : String) : (Work.report (.output line) : Work σ ε Unit).Silent := fun _ _ _ => rfl

theorem stall : (Work.stall : Work σ ε α).Silent := fun _ _ _ => rfl

theorem wait (ms : Nat) : (Work.wait ms : Work σ ε Unit).Silent := by
  intro d t w
  unfold Work.wait
  split <;> rfl

theorem request (c : Call) (service : Service σ (Except ε α)) : (Work.request c service).Silent := by
  intro d t w
  rw [request_journal, transcript_opening]
  rfl

theorem mapError (hx : x.Silent) (g : ε → ε') : (x.mapError g).Silent := by
  intro d t w
  rw [mapError_run]
  exact hx d t w

theorem guard (hx : x.Silent) (cancel : Cancel) : (Work.guard cancel x).Silent := by
  intro d t w
  unfold Work.guard
  split
  · rfl
  · dsimp only
    split
    case h_4 => split <;> exact hx _ t w
    all_goals exact hx _ t w

theorem sleep (cancel : Cancel) (ms : Nat) : (Work.sleep cancel ms : Work σ BuildError Unit).Silent :=
  (guard (wait ms) cancel).bind fun _ => pure ()

theorem relayAll (ls : List String) : (Response.relayAll ls : Work σ LoadError Unit).Silent := by
  induction ls with
  | nil => exact pure ()
  | cons l r ih => exact (output l).bind fun _ => ih

theorem relayLines (last : String) (ls : List Bytes) :
    (Response.relayLines last ls : Work σ LoadError String).Silent := by
  induction ls generalizing last with
  | nil => exact pure last
  | cons l r ih => exact (relayAll _).bind fun _ => (ofExcept _).bind fun last => ih last

theorem relayChunks (line : Bytes) (last : String) (cs : List Chunk) :
    (Response.relayChunks line last cs : Work σ LoadError (Bytes × String)).Silent := by
  induction cs generalizing line last with
  | nil => exact pure _
  | cons c r ih => exact (wait _).bind fun _ => (relayLines last _).bind fun last => ih _ last

theorem relay (s : Stream) : (Response.relay s : Work σ LoadError String).Silent := by
  refine (relayChunks [] "" s.chunks).bind fun x => ?_
  cases s.ending with
  | complete after => exact (wait after).bind fun _ => relayLines _ _
  | broken after source => exact (wait after).bind fun _ => fail _
  | stalled => exact stall

theorem loadArchive (h : Host σ) (path : Path) : (h.loadArchive path).Silent :=
  ((request _ _).mapError _).bind fun _ => ((request _ _).mapError _).bind fun s =>
    (relay s).bind fun _ => ofExcept _

theorem resolveImage (h : Host σ) (cancel : Cancel) (tag : String) : (h.resolveImage cancel tag).Silent := by
  refine (guard (request _ _) cancel).bind fun a => ?_
  rcases a with e | _ | image
  · exact fail _
  · exact fail _
  · exact pure image

theorem applyTag (h : Host σ) (cancel : Cancel) (image : ImageId) (tag : String) :
    (h.applyTag cancel image tag).Silent := by
  refine (guard (request _ _) cancel).bind fun a => ?_
  cases a with
  | error e => exact fail _
  | ok u => exact pure image

end Work.Silent

/-! ### Every build has its account -/

/-- `Follows` with the progress lines of the run. -/
def Tells (h : Host σ) (cancel : Cancel) (d : Deadline) (w : σ)
    (P : List Exchange → List Progress → Ending ε α → Prop) (run : Run σ ε α) : Prop :=
  Follows h cancel d w (fun xs e => P xs run.journal.transcript.lines e) run

namespace Tells
variable {h : Host σ} {cancel : Cancel} {d d' : Deadline} {t : Time} {w : σ}
variable {P : List Exchange → List Progress → Ending ε α → Prop}
variable {Q : List Exchange → List Progress → Ending ε β → Prop}

theorem mono {P' : List Exchange → List Progress → Ending ε α → Prop} {run : Run σ ε α}
    (hx : Tells h cancel d w P run) (hP : ∀ xs ls e, P xs ls e → P' xs ls e) : Tells h cancel d w P' run :=
  Follows.mono hx fun xs e => hP xs _ e

/-- What is known of the calls of silent work. -/
theorem of_silent {x : Work σ ε α} (hs : x.Silent) {P : List Exchange → Ending ε α → Prop}
    (hx : Follows h cancel d w P (x d' t w)) :
    Tells h cancel d w (fun xs ls e => ls = [] ∧ P xs e) (x d' t w) :=
  hx.mono fun _ _ hP => ⟨hs d' t w, hP⟩

theorem quiet {run : Run σ ε α} (hw : run.world = w) (hj : run.journal = []) (hP : P [] [] run.ending) :
    Tells h cancel d w P run := by
  refine Follows.quiet hw (by rw [hj]; rfl) ?_
  rw [hj]
  exact hP

theorem bind {x : Work σ ε α} {f : α → Work σ ε β} (hx : Tells h cancel d w P (x d' t w))
    (hvalue : ∀ xs ls a, P xs ls (.value a) →
      ∀ t w, Tells h cancel d w (fun ys more e => Q (xs ++ ys) (ls ++ more) e) (f a d' t w))
    (hfailure : ∀ xs ls e, P xs ls (.failure e) → Q xs ls (.failure e))
    (hunfinished : ∀ xs ls, P xs ls .unfinished → Q xs ls .unfinished) :
    Tells h cancel d w Q ((x >>= f) d' t w) := by
  obtain ⟨hworld, haccount⟩ := hx
  cases he : (x d' t w).ending with
  | value a =>
    rw [he] at haccount
    have hf := hvalue _ _ a haccount (x d' t w).time (x d' t w).world
    rw [Work.bind_value he]
    refine ⟨?_, ?_⟩ <;>
      simp only [Journal.calls_append, Journal.transcript_append, Transcript.lines_append, Host.exchanges_append]
    · rw [← hworld]; exact hf.world
    · rw [← hworld]; exact hf.course
  | failure e =>
    rw [Work.bind_failure he]
    exact ⟨hworld, hfailure _ _ e (he ▸ haccount)⟩
  | unfinished =>
    rw [Work.bind_unfinished he]
    exact ⟨hworld, hunfinished _ _ (he ▸ haccount)⟩

theorem line_bind {line : Progress} {f : Unit → Work σ ε α}
    (hf : Tells h cancel d w (fun xs ls e => P xs (line :: ls) e) (f () d' t w)) :
    Tells h cancel d w P ((Work.report (.progress line) >>= f) d' t w) := by
  unfold Work.report
  rw [Work.happen_bind]
  exact ⟨hf.world, hf.course⟩

theorem attempt_bind {number : Nat} {f : Unit → Work σ ε α}
    (hf : Tells h cancel d w (fun xs ls e => P (.attempt number :: xs) ls e) (f () d' t w)) :
    Tells h cancel d w P ((Work.happen (.call (.attempt number)) >>= f) d' t w) := by
  rw [Work.happen_bind]
  exact ⟨hf.world, hf.course⟩

theorem time_bind {f : Time → Work σ ε α} (hf : Tells h cancel d w P (f t d' t w)) :
    Tells h cancel d w P ((Work.time >>= f) d' t w) := hf

theorem check_bind {f : Unit → Work σ BuildError α} {P : List Exchange → List Progress → Ending BuildError α → Prop}
    (hstop : P [] [] (.failure .cancelled))
    (hf : cancel.noticed t = false → Tells h cancel d w P (f () d' t w)) :
    Tells h cancel d w P ((Work.check cancel >>= f) d' t w) := by
  cases hn : cancel.noticed t with
  | true =>
    rw [Work.bind_failure (e := .cancelled) (by simp [Work.check, hn])]
    exact quiet (by simp [Work.check, hn]) (by simp [Work.check, hn]) hstop
  | false =>
    rw [Work.bind_value (a := ()) (by simp [Work.check, hn])]
    simpa [Work.check, hn] using hf hn

variable {path : Path} {number left : Nat} {strategy : LoadStrategy}

/-- One attempt, if every failure of it leads to attempts that go on from there. -/
theorem once {otherwise : LoadError → Work σ BuildError String}
    (hother : ∀ xs e, Attempt path number xs (some (.error e)) → ∀ t w,
      Tells h cancel d w (fun ys => Loading strategy path left number (xs ++ ys)) (otherwise e d t w)) :
    Tells h cancel d w (Loading strategy path left number)
      (Retry.once cancel (fun _ => h.loadArchive path) number otherwise d t w) := by
  refine check_bind (.waiting .cancelled) fun hn => attempt_bind ?_
  have hattempt := of_silent (.guard (.loadArchive h path) cancel)
    (@Follows.guard_loadArchive _ h cancel d t w path number hn)
  refine hattempt.bind ?_ ?_ ?_
  · rintro xs ls a ⟨rfl, ⟨_, ⟨⟩, hx⟩ | ⟨hs, -⟩⟩ t w
    · cases a with
      | error e => exact hother _ e hx t w
      | ok tag =>
        have hloaded : Loading strategy path left number (.attempt number :: (xs ++ [])) (recovery number)
            (.value tag) := ⟨[], (List.append_nil xs).symm ▸ .loaded hx, rfl⟩
        unfold recovery at hloaded
        dsimp only
        split
        case isTrue hfirst => rw [if_pos hfirst] at hloaded; exact line_bind (quiet rfl rfl hloaded)
        case isFalse hfirst => rw [if_neg hfirst] at hloaded; exact quiet rfl rfl hloaded
    · cases hs
  · rintro xs ls e ⟨rfl, ⟨_, ⟨⟩, -⟩ | ⟨hs, hx⟩⟩
    cases hs
    exact ⟨[], .stopped hx .cancelled, rfl⟩
  · rintro xs ls ⟨rfl, ⟨_, ⟨⟩, -⟩ | ⟨hs, hx⟩⟩
    exact ⟨[], .stopped hx .dropped, rfl⟩

theorem sleep_bind {ms : Nat} {f : Unit → Work σ BuildError α}
    {P : List Exchange → List Progress → Ending BuildError α → Prop} (hstop : ∀ e, Stopped e → P [] [] e)
    (hf : ∀ t w, Tells h cancel d w P (f () d t w)) :
    Tells h cancel d w P ((Work.sleep cancel ms >>= f) d t w) := by
  refine (of_silent (.sleep cancel ms) (Follows.sleep ms)).bind ?_ ?_ ?_
  · rintro xs ls a ⟨rfl, rfl, -⟩ t w
    exact hf t w
  · rintro xs ls e ⟨rfl, rfl, he | hs⟩
    · cases he
    · cases hs
      exact hstop _ .cancelled
  · rintro xs ls ⟨rfl, rfl, -⟩
    exact hstop _ .dropped

theorem attemptsFrom (strategy : LoadStrategy) (left number : Nat) :
    Tells h cancel d w (Loading strategy path left number)
      (Retry.attemptsFrom strategy cancel (fun _ => h.loadArchive path) left number d t w) := by
  -- On the attempts that are left, as for the calls: the next one has another number, and begins later and elsewhere.
  induction left generalizing number t w with
  | zero =>
    refine once fun xs e hx t w => quiet rfl rfl ⟨[], ?_, rfl⟩
    exact (List.append_nil xs).symm ▸ .exhausted hx
  | succ left ih =>
    refine once fun xs e hx t w => ?_
    rw [Retry.retrying_eq]
    refine line_bind (sleep_bind (fun e hs => ?_) fun t w => ?_)
    · exact .again hx (.waiting hs)
    · exact (ih (number + 1)).mono fun ys ls e hy => .again hx hy

theorem retry (strategy : LoadStrategy) :
    Tells h cancel d w (Loading strategy path (strategy.maxAttempts - 1) 1)
      (Retry.run strategy cancel (fun _ => h.loadArchive path) d t w) := by
  unfold Retry.run
  cases strategy.initialDelay? with
  | none => exact attemptsFrom strategy _ 1
  | some ms => exact sleep_bind (fun e hs => .waiting hs) fun t w => attemptsFrom strategy _ 1

end Tells

theorem BuildError.toolLine?_of_isPlain {e : BuildError} (h : e.isPlain = true) : e.toolLine? = none := by
  cases e with
  | toolFailed => cases h
  | _ => rfl

namespace Builder
variable {b : Builder σ} {r : Request} {cancel : Cancel} {d : Deadline} {t : Time} {w : σ}

/-- The account of a build before its last line: if the tool has failed, it has told so. -/
def Accounts (b : Builder σ) (r : Request) (xs : List Exchange) (ls : List Progress) (e : Ending BuildError ImageId) :
    Prop :=
  ∃ s told, Account b.strategy r.plan s xs told ∧ ls = told ++ (e.failure?.bind BuildError.toolLine?).toList

theorem Accounts.plain (s : Story) {xs : List Exchange} {ls told : List Progress} {e : Ending BuildError ImageId}
    (h : Account b.strategy r.plan s xs told) (hls : ls = told)
    (he : ∀ err, e = .failure err → err.toolLine? = none) : b.Accounts r xs ls e := by
  refine ⟨s, told, h, ?_⟩
  rw [hls]
  cases e with
  | failure err => simp [Ending.failure?, he err rfl]
  | value a => simp [Ending.failure?]
  | unfinished => simp [Ending.failure?]

theorem toolLine?_of_naming {tag : String} {xs : List Exchange} {e : Ending BuildError ImageId} {err : BuildError}
    (h : Naming r.plan tag xs e) (he : e = .failure err) : err.toolLine? = none := by
  rw [he] at h
  obtain hplain | ⟨image, source, rfl, -⟩ := h.failure_cases
  · exact BuildError.toolLine?_of_isPlain hplain
  · rfl

/-- The tool is called; what it has written is told of if it has failed. -/
theorem tool_tells {target : Target} :
    Tells b.host cancel d w
      (fun xs ls e => ∃ a, xs = [.build target a] ∧ e = .of? a ∧
        ls = (e.failure?.bind BuildError.toolLine?).toList)
      ((b.host.build cancel target).onFailure toolReport d t w) := by
  obtain ⟨hworld, a, hxs, he⟩ := @Follows.build _ b.host cancel d t w target
  refine ⟨hworld, a, hxs, he, ?_⟩
  have hsilent := Work.Silent.request (.build target) (b.host.tool.build target cancel) d t w
  rw [Work.onFailure_run, Journal.transcript_append, Transcript.lines_append]
  unfold Host.build
  rw [hsilent, List.nil_append]
  cases (Work.request (.build target) (b.host.tool.build target cancel) d t w).ending with
  | failure err => cases err <;> rfl
  | value path => rfl
  | unfinished => rfl

/-- The image is asked for and tagged; both is told of once it has been found. -/
theorem naming_tells (h : Host σ) (plan tag : String) :
    Tells h cancel d w
      (fun xs ls e => Naming plan tag xs e ∧
        ((ls = [] ∧ ∀ reference image, .imageId reference (some (.ok (some image))) ∉ xs) ∨
          ∃ image ys, xs = .imageId tag (some (.ok (some image))) :: ys ∧ ls = taggingLines plan image))
      ((h.resolveImage cancel tag >>= fun image => do
        Work.tell .info "got docker image id" [("image_id", image.text)]
        Work.tell .info "tagging image" [("image_id", image.text), ("tag", planTag plan image)]
        h.applyTag cancel image (planTag plan image)) d t w) := by
  refine (Tells.of_silent (.resolveImage h cancel tag) (Follows.resolveImage plan tag)).bind ?_ ?_ ?_
  · rintro xs ls image ⟨rfl, ⟨_, rfl, ⟨⟩⟩ | ⟨-, hvalue, -⟩⟩ t w
    · have happly := Tells.of_silent (.applyTag h cancel image (planTag plan image))
        (@Follows.applyTag _ h cancel d t w plan image)
      refine .line_bind (.line_bind (happly.mono ?_))
      rintro ys ls e ⟨rfl, hys⟩
      exact ⟨.found hys, .inr ⟨image, ys, rfl, rfl⟩⟩
    · exact absurd rfl (hvalue image)
  · rintro xs ls e ⟨rfl, ⟨_, -, ⟨⟩⟩ | ⟨hx, -, hnone⟩⟩
    exact ⟨hx, .inl ⟨rfl, hnone⟩⟩
  · rintro xs ls ⟨rfl, ⟨_, -, ⟨⟩⟩ | ⟨hx, -, hnone⟩⟩
    exact ⟨hx, .inl ⟨rfl, hnone⟩⟩

theorem run_tells (b : Builder σ) (r : Request) (cancel : Cancel) (d : Deadline) (t : Time) (w : σ) :
    Tells b.host cancel d w (b.Accounts r) (b.run cancel r d t w) := by
  unfold Builder.run
  cases htarget : b.target r with
  | error e =>
    refine .quiet rfl rfl (.plain { target := ⟨r.source, "", ""⟩ } .unbegun rfl ?_)
    rintro err ⟨⟩
    exact BuildError.toolLine?_of_isPlain (isPlain_of_target htarget)
  | ok target =>
    change Tells b.host cancel d w (b.Accounts r) ((Work.check cancel >>= fun _ => _) d t w)
    refine Tells.check_bind (.plain { target } .unbegun rfl ?_) fun _ => .line_bind (tool_tells.bind ?_ ?_ ?_)
    · rintro err ⟨⟩
      rfl
    · -- The tool has given a path.
      rintro xs ls path ⟨a, rfl, ha, rfl⟩ _ _
      obtain rfl := Ending.of?_eq_value.1 ha.symm
      refine .line_bind ((Tells.retry b.strategy).bind ?_ ?_ ?_)
      · -- The archive has been loaded.
        rintro xs ls tag ⟨es, hxs, rfl⟩ loaded _
        refine .time_bind (.line_bind ((naming_tells b.host r.plan tag).mono ?_))
        rintro ys ls e ⟨hys, ⟨rfl, hnone⟩ | ⟨image, zs, rfl, rfl⟩⟩
        · have haccount : Account b.strategy r.plan { target, path, failures := es, tag, took := loaded - t }
            (.build target (some (.ok path)) :: (xs ++ ys)) _ := .unnamed hxs hnone
          refine .plain _ haccount ?_ fun err => toolLine?_of_naming hys
          simp [Story.loaded, Story.tried, Story.begun, Ending.failure?, loadLine]
          rfl
        · have haccount : Account b.strategy r.plan { target, path, failures := es, tag, took := loaded - t, image }
            (.build target (some (.ok path)) :: (xs ++ .imageId tag (some (.ok (some image))) :: zs)) _ := .named hxs
          refine .plain _ haccount ?_ fun err => toolLine?_of_naming hys
          simp [Story.lines, Story.loaded, Story.tried, Story.begun, Ending.failure?, loadLine]
          rfl
      · -- The attempts have failed, or been cancelled.
        rintro xs ls err ⟨es, hxs, rfl⟩
        refine .plain { target, path, failures := es } (.unloaded hxs (by simp)) ?_ ?_
        · simp [Story.tried, Story.begun, Ending.failure?, loadLine]
        · rintro err ⟨⟩
          exact BuildError.toolLine?_of_isPlain hxs.attempts.isPlain
      · rintro xs ls ⟨es, hxs, rfl⟩
        refine .plain { target, path, failures := es } (.unloaded hxs (by simp)) ?_ ?_
        · simp [Story.tried, Story.begun, Ending.failure?, loadLine]
        · rintro err ⟨⟩
    · -- The tool has failed: if it was it that ended without success, its line is told already.
      rintro xs ls err ⟨a, rfl, ha, rfl⟩
      obtain rfl := Ending.of?_eq_failure.1 ha.symm
      exact ⟨{ target }, _, .unbuilt _ (by simp), rfl⟩
    · rintro xs ls ⟨a, rfl, ha, rfl⟩
      obtain rfl := Ending.of?_eq_unfinished.1 ha.symm
      exact ⟨{ target }, _, .unbuilt _ (by simp), rfl⟩

theorem build_tells (b : Builder σ) (r : Request) (cancel : Cancel) (d : Deadline) (t : Time) (w : σ) :
    Tells b.host cancel d w
      (fun xs ls e => ∃ s told, Account b.strategy r.plan s xs told ∧ ls = told ++ closing r.plan e)
      (b.build cancel r d t w) := by
  have hcalls : (b.build cancel r d t w).journal.calls = (b.run cancel r d t w).journal.calls :=
    Work.calls_onFailure fun e ev hev => Option.some.inj hev ▸ rfl
  obtain ⟨hworld, s, told, haccount, hlines⟩ := run_tells b r cancel d t w
  refine ⟨?_, s, told, ?_, ?_⟩
  · rw [hcalls]
    unfold Builder.build
    rw [Work.onFailure_run]
    exact hworld
  · rw [hcalls]
    exact haccount
  · unfold Builder.build
    rw [Work.onFailure_run, Journal.transcript_append, Transcript.lines_append, hlines, List.append_assoc]
    cases (b.run cancel r d t w).ending with
    | failure e => rfl
    | value image => rfl
    | unfinished => rfl

/-- **What a build tells.** A build that fails tells so in its last line, with the plan and the text of the error.
That is its only line about an error, unless the tool has ended without success: then the line before it has what
the tool has written, as it is. A build with a result tells of no error. All other lines are the first of a story:
the target, the archive, a warning for each attempt that another one may follow, the success if it is not that of
the first attempt, the end of the load, the image found and its tag; and all of them are told exactly if the image
has been found, and is to be tagged then. -/
theorem build_account (b : Builder σ) (cancel : Cancel) (r : Request) (d : Deadline) (t : Time) (w : σ) :
    let run := b.build cancel r d t w
    let xs := (b.host.exchanges cancel d w run.journal.calls).1
    (∃ s told, Account b.strategy r.plan s xs told ∧
      run.journal.transcript.lines = told ++ closing r.plan run.ending ∧
      told <+: s.lines b.strategy r.plan ∧
      (told = s.lines b.strategy r.plan ↔ ∃ reference image, .imageId reference (some (.ok (some image))) ∈ xs)) ∧
    run.journal.transcript.atLevel .error = closing r.plan run.ending ∧
    ∀ status stderr, run.ending = .failure (.toolFailed status stderr) ↔
      ∃ target, .build target (some (.error (.toolFailed status stderr))) ∈ xs := by
  intro run xs
  have hcourse := (build_follows b cancel r d t w).course
  change Course b r xs run.ending at hcourse
  obtain ⟨-, s, told, haccount, hlines⟩ := build_tells b r cancel d t w
  change Account b.strategy r.plan s xs told at haccount
  change run.journal.transcript.lines = told ++ closing r.plan run.ending at hlines
  refine ⟨⟨s, told, haccount, hlines, haccount.told_prefix, haccount.told_eq_lines_iff⟩, ?_, fun status stderr => ?_⟩
  · have htold : told.filter (·.level == .error) = [] := List.filter_eq_nil_iff.2 fun l hl => by
      simpa using s.lines_level l (haccount.told_prefix.subset hl)
    have hclosing : (closing r.plan run.ending).filter (·.level == .error) = closing r.plan run.ending :=
      List.filter_eq_self.2 (closing_level r.plan run.ending)
    rw [Transcript.atLevel, hlines, List.filter_append, htold, hclosing, List.nil_append]
  · constructor
    · intro he
      rw [he] at hcourse
      obtain hplain | hmem | ⟨image, source, he', -⟩ := hcourse.failure_cases
      · cases hplain
      · exact hmem
      · cases he'
    · rintro ⟨target, hmem⟩
      exact hcourse.failure_of_unbuilt hmem

/-- The tool ends without success. -/
def untooled : Builder Unit :=
  { ready with host.tool := ⟨fun _ _ _ w => .now w (.error (.toolFailed "exit status: 1" "no\nspace"))⟩ }

/-- A failure of the tool is told of in two lines, a build that has recovered tells all of its story. -/
theorem untooled_account :
    let run := untooled.build .never readyRequest none 0 ()
    let b : Builder Rehearsal.Stage := ⟨Rehearsal.Stage.host .standIn .store, .retry 3 5, "x86_64"⟩
    let recovered := b.build .never readyRequest none 0 Rehearsal.Stage.troubled
    ((∃ told, run.journal.transcript.lines = told ++
        [⟨.error, "nix build fail result", [("stderr", "no\nspace")]⟩,
          ⟨.error, "docker:nix build failed",
            [("plan", "plan"), ("error", "nix build failed: exit status: 1\nno\nspace")]⟩]) ∧
      (run.journal.transcript.atLevel .error).length = 2) ∧
    (∃ s : Story, recovered.journal.transcript.lines = s.lines (.retry 3 5) "plan") ∧
      recovered.journal.transcript.atLevel .error = [] ∧
      recovered.journal.transcript.lines.map (·.message) =
        ["nix build", "nix build completed", "image archive load failed, retrying",
          "image archive load failed, retrying", "image archive loaded", "build completed",
          "got docker image id", "tagging image"] := by
  intro run b recovered
  refine ⟨?_, ?_⟩
  · have hfailed : run.ending.failure? = some (.toolFailed "exit status: 1" "no\nspace") := by decide +kernel
    have hending := Ending.failure?_eq_some.1 hfailed
    obtain ⟨⟨s, told, -, hlines, -⟩, herrors, -⟩ := build_account untooled .never readyRequest none 0 ()
    change run.journal.transcript.lines = told ++ closing "plan" run.ending at hlines
    change run.journal.transcript.atLevel .error = closing "plan" run.ending at herrors
    rw [hending] at hlines herrors
    exact ⟨⟨told, hlines⟩, congrArg List.length herrors⟩
  · have himage : recovered.ending.value? = some ⟨"sha256:1"⟩ := by decide +kernel
    have hending := Ending.value?_eq_some.1 himage
    have hcourse := (build_follows b .never readyRequest none 0 Rehearsal.Stage.troubled).course
    obtain ⟨reference, hfound⟩ := hcourse.found_of_tag_mem (hcourse.value_iff.1 hending)
    obtain ⟨⟨s, told, -, hlines, -, htold⟩, herrors, -⟩ :=
      build_account b .never readyRequest none 0 Rehearsal.Stage.troubled
    change recovered.journal.transcript.lines = told ++ closing "plan" recovered.ending at hlines
    change recovered.journal.transcript.atLevel .error = closing "plan" recovered.ending at herrors
    rw [hending] at hlines herrors
    refine ⟨⟨s, ?_⟩, herrors, by decide +kernel⟩
    rw [hlines, htold.2 ⟨reference, _, hfound⟩]
    exact List.append_nil _

end Builder

end FlakeImage
