import FlakeImage.CommandLine.Session
import FlakeImage.Proofs.Failure

/-!
# What a build prints and how it exits

A script that runs a build has its standard output and its exit code to go by. `Session.run_build` says what they
tell: an image is printed exactly if it has been found and the tagging of it has come to an end, and the exit code
is zero exactly if the tagging has succeeded. `Surroundings.Refuses` are the cases in which no program is started.
-/

namespace FlakeImage

variable {σ : Type}

/-! ### Programs -/

/-- A program that is started at `t` in the world `v` comes to its end before the deadline, or cannot be started. -/
inductive Programs.Ends (p : Programs σ) (launch : Launch) (deadline : Deadline) (t : Time) (v : σ) :
    Except SystemError Finished → Prop
  | unstarted {e : SystemError} (h : p.start launch t v = .error e) : Ends p launch deadline t v (.error e)
  | ended {reply : Reply σ Completion} {ms : Nat} {c : Completion} (h : p.start launch t v = .ok reply)
      (ho : reply.outcome = some (ms, c)) (hd : reply.misses deadline t ms = false) :
    Ends p launch deadline t v c.ended

def Event.launch? : Event → Option Launch
  | .note (.start launch) => some launch
  | _ => none

/-- The programs that have been started. -/
def Journal.launches (j : Journal) : List Launch := j.filterMap (·.event.launch?)

namespace Docker

theorem queryResult_eq_ok_iff {α : Type} {program : String} {arguments : List String} {result : Bytes → α}
    {c : Completion} {a : α} :
    (queryResult program arguments c).map result = .ok a ↔
      ∃ f, c.ended = .ok f ∧ f.status.isSuccess = true ∧ result f.stdout = a := by
  cases hended : c.ended with
  | error e => simp [queryResult, hended, Except.map]
  | ok f => cases hf : f.status.isSuccess <;> simp [queryResult, hended, outputOf, hf, Except.map]

/-- A query is answered exactly if its program comes to an end in time. -/
theorem query_answer?_eq_some_iff {α : Type} {p : Programs σ} {program : String} {arguments : List String}
    {result : Bytes → α} {deadline : Deadline} {t : Time} {v : σ} {a : Except RuntimeError α} :
    (query p program arguments result t v).answer? deadline t = some a ↔
      ∃ e, p.Ends { program, arguments } deadline t v e ∧
        (queryResult program arguments ⟨e, .ok ()⟩).map result = a := by
  cases hstart : p.start { program, arguments } t v with
  | error e =>
    have hanswer : (query p program arguments result t v).answer? deadline t = some (.error (.spawn program e)) := by
      simp [query, runCommand, hstart, Reply.answer?, Reply.misses]
    rw [hanswer]
    constructor
    · rintro ⟨⟩
      exact ⟨.error e, .unstarted hstart, rfl⟩
    · rintro ⟨e', hends, rfl⟩
      cases hends with
      | unstarted h => rw [hstart] at h; cases h; rfl
      | ended h ho hd => rw [hstart] at h; cases h
  | ok reply =>
    have hanswer : (query p program arguments result t v).answer? deadline t =
        (reply.answer? deadline t).map fun c => (queryResult program arguments c).map result := by
      simp only [query, runCommand, hstart]
      exact Reply.answer?_map (fun c => (queryResult program arguments c).map result) reply deadline t
    rw [hanswer, Option.map_eq_some_iff]
    constructor
    · rintro ⟨c, hc, rfl⟩
      obtain ⟨ms, ho, hd⟩ := Reply.answer?_eq_some_iff.1 hc
      exact ⟨c.ended, .ended hstart ho hd, rfl⟩
    · rintro ⟨e, hends, rfl⟩
      cases hends with
      | unstarted h => rw [hstart] at h; cases h
      | @ended _ ms c h ho hd =>
        obtain rfl := Except.ok.inj (hstart.symm.trans h)
        exact ⟨c, Reply.answer?_eq_some_iff.2 ⟨ms, ho, hd⟩, rfl⟩

theorem query_answer?_eq_ok_iff {α : Type} {p : Programs σ} {program : String} {arguments : List String}
    {result : Bytes → α} {deadline : Deadline} {t : Time} {v : σ} {a : α} :
    (query p program arguments result t v).answer? deadline t = some (.ok a) ↔
      ∃ f, p.Ends { program, arguments } deadline t v (.ok f) ∧ f.status.isSuccess = true ∧ result f.stdout = a := by
  rw [query_answer?_eq_some_iff]
  constructor
  · rintro ⟨e, hends, he⟩
    obtain ⟨f, rfl, hf⟩ := queryResult_eq_ok_iff.1 he
    exact ⟨f, hends, hf⟩
  · rintro ⟨f, hends, hf⟩
    exact ⟨.ok f, hends, queryResult_eq_ok_iff.2 ⟨f, rfl, hf⟩⟩

/-- The lookup and the tagging of images answer what the programs say that are started for them, each in the world
that the calls before it have left: an image is found by a program that ends in time and with success, the tagging
comes to an end with its program, and it succeeds with its program. -/
structure Answers (p : Programs σ) (program : String) (h : Host σ) (cancel : Cancel) (d : Deadline) (w : σ)
    (cs : List (Time × Call)) : Prop where
  found : ∀ reference a, .imageId reference a ∈ (h.exchanges cancel d w cs).1 →
    ∃ t v, h.Asked cancel d w cs (.imageId reference a) t v ∧ ∀ image, a = some (.ok (some image)) ↔
      ∃ f, p.Ends { program, arguments := lookupArguments reference } (cancel.deadline.earlier d) t v (.ok f) ∧
        f.status.isSuccess = true ∧ firstId f.stdout = some image
  tagged : ∀ image name a, .tag image name a ∈ (h.exchanges cancel d w cs).1 →
    ∃ t v, h.Asked cancel d w cs (.tag image name a) t v ∧
      (a.isSome = true ↔
        ∃ e, p.Ends { program, arguments := ["tag", image.text, name] } (cancel.deadline.earlier d) t v e) ∧
      (a = some (.ok ()) ↔
        ∃ f, p.Ends { program, arguments := ["tag", image.text, name] } (cancel.deadline.earlier d) t v (.ok f) ∧
          f.status.isSuccess = true)

theorem answers_exchanges {h : Host σ} {p : Programs σ} {program : String} (hruntime : h.runtime = runtime p program)
    (cancel : Cancel) (d : Deadline) (w : σ) (cs : List (Time × Call)) : Answers p program h cancel d w cs := by
  refine ⟨fun reference a hmem => ?_, fun image name a hmem => ?_⟩
  · obtain ⟨t, v, hasked⟩ := Host.exists_asked_of_mem hmem
    refine ⟨t, v, hasked, fun image => ?_⟩
    obtain ⟨-, -, -, -, hx⟩ := hasked
    have ha : a = (h.runtime.imageId reference t v).answer? (cancel.deadline.earlier d) t := (Exchange.imageId.inj hx).2
    rw [ha, hruntime]
    exact query_answer?_eq_ok_iff
  · obtain ⟨t, v, hasked⟩ := Host.exists_asked_of_mem hmem
    refine ⟨t, v, hasked, ?_⟩
    obtain ⟨-, -, -, -, hx⟩ := hasked
    have ha : a = (h.runtime.tag image name t v).answer? (cancel.deadline.earlier d) t := (Exchange.tag.inj hx).2.2
    rw [ha, hruntime, Option.isSome_iff_exists]
    constructor
    · constructor
      · rintro ⟨b, hb⟩
        obtain ⟨e, hends, -⟩ := query_answer?_eq_some_iff.1 hb
        exact ⟨e, hends⟩
      · rintro ⟨e, hends⟩
        exact ⟨_, query_answer?_eq_some_iff.2 ⟨e, hends, rfl⟩⟩
    · exact query_answer?_eq_ok_iff.trans (by simp)

end Docker

theorem Reply.racing_outcome {ε α : Type} (stopped : ε) (cancel : Cancel) (now : Time) (r : Reply σ (Except ε α)) :
    (r.racing stopped cancel now).outcome = r.outcome ∨
      ∃ ms, (r.racing stopped cancel now).outcome = some (ms, .error stopped) := by
  unfold racing
  split
  · exact .inr ⟨_, rfl⟩
  · split
    · exact .inl rfl
    · exact .inr ⟨_, rfl⟩
    · split
      · exact .inr ⟨_, rfl⟩
      · exact .inl rfl

theorem Nix.tool_tagsNothing (programs : Programs σ) (program : String) : (Nix.tool programs program).TagsNothing := by
  intro target cancel t w ms image tag source h
  have hresult (c : Completion) : result c ≠ .error (.tagFailed image tag source) := by
    unfold result outputPath
    cases c.ended with
    | error e => simp
    | ok f => dsimp only; split_ifs <;> simp
  simp only [Nix.tool] at h
  cases hstart : programs.start (launch program target) t w with
  | error e => rw [hstart] at h; cases h
  | ok reply =>
    rw [hstart] at h
    dsimp only at h
    rcases Reply.racing_outcome BuildError.cancelled cancel t _ with ho | ⟨ms', ho⟩
    · rw [ho] at h
      obtain ⟨⟨ms', c⟩, -, hc⟩ := Option.map_eq_some_iff.1 h
      exact hresult c (Prod.mk.inj hc).2
    · rw [ho] at h
      cases h

namespace CommandLine

/-- The configuration of a build before its flags change it. -/
def BuildCommand.configuration (c : BuildCommand) (read : FileReader) : Except BuildError BuildConfig :=
  match c.config with
  | none => .ok (.image defaultConfig)
  | some path => BuildConfig.ofFile (read path)

/-- The cases in which there is nothing to build. -/
inductive Surroundings.Refuses (s : Surroundings σ) (c : BuildCommand) : Prop
  | unread {e : BuildError} (h : c.configuration s.read = .error e)
  | disabled {config : ImageConfig} (h : c.configuration s.read = .ok (.image config))
      (hdisabled : config.enabled = false)
  | otherBuilder {builder : String} {settings : Json.Value}
      (h : c.configuration s.read = .ok (.other builder settings))
  | noSystem {config : ImageConfig} {e : BuildError} (h : c.configuration s.read = .ok (.image config))
      (hsystem : resolveSystem (c.system.or config.system) s.hostArch = .error e)
  | noSource {e : SystemError} (h : s.canonical c.source = .error e)

/-- A file is read the same way for the program and for a caller of the builder. -/
theorem fileConfig_eq_ok_iff {read : FileReader} {path : Path} {config : BuildConfig} :
    fileConfig read path = .ok config ↔ BuildConfig.ofFile (read path) = .ok config := by
  unfold fileConfig BuildConfig.ofFile
  cases read path with
  | error e => simp
  | ok contents =>
    dsimp only
    cases BuildConfig.parse contents with
    | error e => simp
    | ok v =>
      dsimp only
      cases BuildConfig.ofValue v <;> simp [Except.mapError]

theorem loadConfig_eq_ok {read : FileReader} {c : BuildCommand} {config : BuildConfig}
    (h : loadConfig read c.config c.name c.system = .ok config) :
    ∃ before, c.configuration read = .ok before ∧ overridden c.name c.system before = .ok config := by
  unfold loadConfig at h
  unfold BuildCommand.configuration
  cases hc : c.config with
  | none => rw [hc] at h; exact ⟨_, rfl, h⟩
  | some path =>
    rw [hc] at h
    dsimp only at h ⊢
    cases hfile : fileConfig read path with
    | error e => rw [hfile] at h; cases h
    | ok before =>
      rw [hfile] at h
      exact ⟨before, fileConfig_eq_ok_iff.1 hfile, h⟩

namespace Surroundings
variable {s : Surroundings σ} {c : BuildCommand} {r : Request}

theorem request_eq_ok (h : s.request c = .ok r) :
    ∃ before config source, c.configuration s.read = .ok before ∧ overridden c.name c.system before = .ok config ∧
      s.canonical c.source = .ok source ∧ r = ⟨c.plan, source, config⟩ := by
  unfold request at h
  cases hconfig : loadConfig s.read c.config c.name c.system with
  | error e => rw [hconfig] at h; cases h
  | ok config =>
    rw [hconfig] at h
    obtain ⟨before, hbefore, hoverridden⟩ := loadConfig_eq_ok hconfig
    dsimp only at h
    cases hsource : s.canonical c.source with
    | error e => rw [hsource] at h; cases h
    | ok source =>
      rw [hsource] at h
      exact ⟨before, config, source, hbefore, hoverridden, rfl, (Except.ok.inj h).symm⟩

/-- What is refused is not asked of the builder, or refused by it. -/
theorem Refuses.target_eq_error (h : s.Refuses c) (hr : s.request c = .ok r) (settings : Settings) :
    ∃ e, (s.builder settings).target r = .error e := by
  obtain ⟨before, config, source, hbefore, hoverridden, hsource, rfl⟩ := request_eq_ok hr
  -- Of the five cases the program itself refuses three; another builder and a missing system it leaves to the builder.
  cases h with
  | unread h => rw [h] at hbefore; cases hbefore
  | disabled h hdisabled =>
    obtain rfl := Except.ok.inj (h.symm.trans hbefore)
    simp [overridden, hdisabled] at hoverridden
  | otherBuilder h =>
    obtain rfl := Except.ok.inj (h.symm.trans hbefore)
    obtain rfl := Except.ok.inj hoverridden
    exact ⟨_, rfl⟩
  | @noSystem image e h hsystem =>
    obtain rfl := Except.ok.inj (h.symm.trans hbefore)
    cases henabled : image.enabled with
    | false => simp [overridden, henabled] at hoverridden
    | true =>
      simp only [overridden, henabled, if_true, Except.ok.injEq] at hoverridden
      have hresolve {plan : String} : ImageConfig.resolve ⟨true, c.name.or image.name, c.system.or image.system⟩
          plan s.hostArch = .error e := ImageConfig.resolve_eq_error_iff.2 hsystem
      refine ⟨e, ?_⟩
      rw [← hoverridden]
      exact congrArg (Except.map (Target.ofConfig source)) hresolve
  | noSource h => rw [h] at hsource; cases hsource

end Surroundings

namespace Session

/-- What the output and the exit code tell of the calls of a build. -/
structure Verdict (o : Outcome σ) (xs : List Exchange) : Prop where
  /-- An image is printed once its tagging has come to an end. It has been found before. -/
  printed : ∀ image name a, .tag image name (some a) ∈ xs →
    (∃ reference, .imageId reference (some (.ok (some image))) ∈ xs) ∧ o.stdout = image.text ++ "\n"
  /-- Nothing is printed otherwise. -/
  silent : (∀ image name a, .tag image name (some a) ∉ xs) → o.stdout = ""
  /-- The exit code is zero exactly if the tagging has succeeded. -/
  success : o.exitCode = some 0 ↔ ∃ image name, .tag image name (some (.ok ())) ∈ xs
  /-- An image is printed with the exit code zero. -/
  complete : o.exitCode = some 0 → ∃ image : ImageId, o.stdout = image.text ++ "\n"
  /-- An image is printed with another exit code exactly if it is the tagging that has failed. -/
  untagged : o.stdout ≠ "" ∧ o.exitCode ≠ some 0 ↔ ∃ image name source, .tag image name (some (.error source)) ∈ xs

theorem Verdict.of_idle {o : Outcome σ} (hout : o.stdout = "") (hexit : o.exitCode = some 1) : Verdict o [] where
  printed := by simp
  silent := fun _ => hout
  success := by simp [hexit]
  complete := by simp [hexit]
  untagged := by simp [hout]

theorem printed_ne_empty (image : ImageId) : printed (some image) ≠ "" := by
  simp [printed]

section Course
variable {b : Builder σ} {r : Request} {xs : List Exchange} {e : Ending BuildError ImageId} {image : ImageId}
variable {name : String}

theorem value_of_tagged (h : Course b r xs e) (hmem : .tag image name (some (.ok ())) ∈ xs) : e = .value image := by
  obtain ⟨rfl, -⟩ := h.suffix_of_tag_mem hmem
  exact h.value_iff.2 hmem

theorem image?_of_tag_mem {a : Except RuntimeError Unit} (h : Course b r xs e)
    (hmem : .tag image name (some a) ∈ xs) : image? e = some image := by
  cases a with
  | ok u => rw [value_of_tagged h hmem]; rfl
  | error source => rw [h.failure_of_untagged hmem]; rfl

end Course

theorem buildOutcome_exitCode_eq_zero {plan : String} {stop : Option Stop} {run : Run σ BuildError ImageId} :
    (buildOutcome plan stop run).exitCode = some 0 ↔ ∃ image, run.ending = .value image := by
  unfold buildOutcome
  cases run.ending <;> simp

/-- A build gives an image exactly if the tagging of it has come to an end. -/
theorem image?_build_eq_some_iff {b : Builder σ} (htool : b.host.tool.TagsNothing) {cancel : Cancel} {r : Request}
    {d : Deadline} {t : Time} {w : σ} {image : ImageId} :
    let run := b.build cancel r d t w
    image? run.ending = some image ↔
      ∃ name a, .tag image name (some a) ∈ (b.host.exchanges cancel d w run.journal.calls).1 := by
  intro run
  have hcourse := (Builder.build_follows b cancel r d t w).course
  constructor
  · intro himage
    cases he : run.ending with
    | value found =>
      rw [he] at himage
      obtain rfl := Option.some.inj himage
      exact ⟨_, _, hcourse.value_iff.1 he⟩
    | failure e =>
      rw [he] at himage
      obtain ⟨source, hmem⟩ := Builder.untagged_of_partialImage? htool he himage
      exact ⟨_, _, hmem⟩
    | unfinished => rw [he] at himage; cases himage
  · rintro ⟨name, a, hmem⟩
    exact image?_of_tag_mem hcourse hmem

theorem verdict_build (b : Builder σ) (htool : b.host.tool.TagsNothing) (plan : String) (stop : Option Stop)
    (cancel : Cancel) (r : Request) (d : Deadline) (w : σ) :
    let run := b.build cancel r d 0 w
    Verdict (buildOutcome plan stop run) (b.host.exchanges cancel d w run.journal.calls).1 := by
  intro run
  have hcourse := (Builder.build_follows b cancel r d 0 w).course
  have himage (image : ImageId) := @image?_build_eq_some_iff _ b htool cancel r d 0 w image
  refine ⟨fun image name a hmem => ⟨hcourse.found_of_tag_mem hmem, ?_⟩, fun hnone => ?_, ?_, fun hexit => ?_, ?_⟩
  · exact congrArg printed ((himage image).2 ⟨name, a, hmem⟩)
  · have hend : image? run.ending = none := Option.eq_none_iff_forall_ne_some.2 fun image hsome => by
      obtain ⟨name, a, hmem⟩ := (himage image).1 hsome
      exact hnone image name a hmem
    exact congrArg printed hend
  · rw [buildOutcome_exitCode_eq_zero]
    constructor
    · rintro ⟨image, he⟩
      exact ⟨image, _, hcourse.value_iff.1 he⟩
    · rintro ⟨image, name, hmem⟩
      exact ⟨image, value_of_tagged hcourse hmem⟩
  · obtain ⟨image, he⟩ := buildOutcome_exitCode_eq_zero.1 hexit
    exact ⟨image, congrArg (fun e => printed (image? e)) he⟩
  · constructor
    · rintro ⟨hout, hexit⟩
      cases hend : image? run.ending with
      | none => exact absurd (congrArg printed hend) hout
      | some image =>
        -- The image has been tagged or not; had it been, the exit code would be zero.
        obtain ⟨name, a, hmem⟩ := (himage image).1 hend
        cases a with
        | ok u => exact absurd (buildOutcome_exitCode_eq_zero.2 ⟨image, value_of_tagged hcourse hmem⟩) hexit
        | error source => exact ⟨image, name, source, hmem⟩
    · rintro ⟨image, name, source, hmem⟩
      have hout : (buildOutcome plan stop run).stdout = printed (some image) :=
        congrArg printed ((himage image).2 ⟨name, _, hmem⟩)
      have he : run.ending = .failure (.tagFailed image name source) := hcourse.failure_of_untagged hmem
      refine ⟨hout ▸ printed_ne_empty image, ?_⟩
      rw [Ne, buildOutcome_exitCode_eq_zero, he]
      rintro ⟨image', ⟨⟩⟩

/-- The host of a build. -/
def host (s : Surroundings σ) (c : BuildCommand) : Host σ :=
  (s.builder (c.load.settings (Settings.ofVariables s.environment).1)).host

theorem build_of_request_error {s : Surroundings σ} {c : BuildCommand} {e : CommandError} (h : s.request c = .error e)
    (settings : Settings) (stop : Option Stop) (world : σ) : build s settings stop c world = failed e world := by
  rw [build, h]

theorem build_of_request_ok {s : Surroundings σ} {c : BuildCommand} {r : Request} (h : s.request c = .ok r)
    (settings : Settings) (stop : Option Stop) (world : σ) :
    build s settings stop c world =
      buildOutcome c.plan stop ((s.builder (c.load.settings settings)).build ((stop.map Stop.cancel).getD .never) r
        (stop.bind Stop.death) 0 world) := by
  rw [build, h]

theorem build_of_refuses {s : Surroundings σ} {c : BuildCommand} (h : s.Refuses c) (settings : Settings)
    (stop : Option Stop) (world : σ) :
    let o := build s settings stop c world
    o.journal.calls = [] ∧ o.journal.launches = [] ∧ o.world = world ∧ o.stdout = "" ∧ o.exitCode = some 1 := by
  intro o
  cases hr : s.request c with
  | error e =>
    have ho : o = failed e world := build_of_request_error hr settings stop world
    rw [ho]
    exact ⟨rfl, rfl, rfl, rfl, rfl⟩
  | ok r =>
    obtain ⟨e, htarget⟩ := h.target_eq_error hr (c.load.settings settings)
    have ho := build_of_request_ok hr settings stop world
    rw [Builder.build_of_target_error htarget] at ho
    change o = _ at ho
    rw [ho]
    refine ⟨rfl, rfl, rfl, ?_, rfl⟩
    exact congrArg printed (BuildError.partialImage?_of_isPlain (Builder.isPlain_of_target htarget))

theorem run_eq_build {s : Surroundings σ} {stop : Option Stop} {arguments : List String} {world : σ} {i : Invocation}
    {c : BuildCommand} (hi : Invocation.ofArguments arguments = .ok i) (hc : i.command = .build c) :
    ∃ log, run s stop arguments world =
      { build s (Settings.ofVariables s.environment).1 stop c world with log := log } := by
  obtain ⟨command, flags⟩ := i
  obtain rfl : command = .build c := hc
  unfold run
  rw [hi]
  exact ⟨_, rfl⟩

/-- **What a build prints and how it exits.** If the configuration cannot be read, does not allow the build, is for
another builder or leaves the system open, or if there is no directory with the sources, then no program is started,
nothing is printed and the exit code is one. A build prints the id of an image, and nothing else, if the lookup of
images has found it and the tagging has come to an end; it prints nothing otherwise. The exit code is zero exactly if
the tagging has succeeded. So an id is printed with every exit code zero, and with another one exactly if it is the
tagging alone that has failed. What the lookup and the tagging answer is what the ends of the programs say. -/
theorem run_build (s : Surroundings σ) (stop : Option Stop) (arguments : List String) (world : σ) {i : Invocation}
    {c : BuildCommand} (hi : Invocation.ofArguments arguments = .ok i) (hc : i.command = .build c) :
    let o := run s stop arguments world
    let cancel := (stop.map Stop.cancel).getD .never
    let death := stop.bind Stop.death
    (s.Refuses c → o.journal.calls = [] ∧ o.journal.launches = [] ∧ o.world = world ∧ o.stdout = "" ∧
      o.exitCode = some 1) ∧
    Verdict o ((host s c).exchanges cancel death world o.journal.calls).1 ∧
    Docker.Answers s.programs (Settings.ofVariables s.environment).1.dockerProgram (host s c) cancel death world
      o.journal.calls := by
  intro o cancel death
  obtain ⟨log, ho⟩ := @run_eq_build _ s stop arguments world i c hi hc
  change o = _ at ho
  refine ⟨fun hrefuses => ?_, ?_, Docker.answers_exchanges rfl ..⟩
  · rw [ho]
    exact build_of_refuses hrefuses _ stop world
  · have hverdict {b : Outcome σ} (h : Verdict b ((host s c).exchanges cancel death world b.journal.calls).1) :
        Verdict { b with log := log } ((host s c).exchanges cancel death world b.journal.calls).1 :=
      ⟨h.printed, h.silent, h.success, h.complete, h.untagged⟩
    rw [ho]
    refine hverdict ?_
    cases hr : s.request c with
    | error e =>
      rw [build_of_request_error hr]
      exact .of_idle rfl rfl
    | ok r =>
      rw [build_of_request_ok hr]
      exact verdict_build _ (Nix.tool_tagsNothing _ _) c.plan stop _ r _ world

/-- A world in which every program succeeds at once. -/
def compliant : Surroundings Unit where
  environment _ := none
  hostArch := "x86_64"
  buildId := ""
  read _ := .error .notFound
  canonical path := .ok path
  programs := ⟨fun launch _ w =>
    let stdout := match launch.arguments with
      | "build" :: _ => "/archive\n"
      | "load" :: _ => "Loaded image: a:b\n"
      | "images" :: _ => "sha256:1\n"
      | _ => ""
    .ok (.now w ⟨.ok ⟨.code 0, stdout.toUTF8.toList, []⟩, .ok ()⟩)⟩
  openFile _ _ _ := .ok { bytes := [] }

theorem run_build_compliant :
    let arguments := ["build", "-p", "plan"]
    let o := run compliant none arguments ()
    ∃ i c, Invocation.ofArguments arguments = .ok i ∧ i.command = .build c ∧ o.stdout = "sha256:1\n" ∧
      ∃ image name, .tag image name (some (.ok ())) ∈
        ((host compliant c).exchanges .never none () o.journal.calls).1 := by
  intro arguments o
  have hi : Invocation.ofArguments arguments = .ok ⟨.build ⟨"plan", defaultSource, none, none, none, {}⟩, {}⟩ := rfl
  have hout : o.stdout = "sha256:1\n" ∧ o.exitCode = some 0 := by decide +kernel
  obtain ⟨-, hverdict, -⟩ := run_build compliant none arguments () hi rfl
  exact ⟨_, _, hi, rfl, hout.1, hverdict.success.1 hout.2⟩

end Session

end CommandLine

end FlakeImage
