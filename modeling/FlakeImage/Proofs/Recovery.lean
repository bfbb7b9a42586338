import FlakeImage.Proofs.Attempt
import FlakeImage.Proofs.Budget
import FlakeImage.Proofs.Retry
import FlakeImage.Rehearsal.Stage

/-!
# Builds that recover

`Recovers` says of a host that so many loads of an archive fail, one after the other, and that the next one gives a tag.
Runs are `Alike` if they end in the same way and ask the same about images. A build whose loads recover is like that on
a host whose first load gives this tag, if the two hosts answer alike what is asked then: the build asks for nothing
that depends on the number of attempts or on the time (`run_alike`). The store of a rehearsal with a script of loads, and
with what is left of the script once the failures are taken away, are two such hosts (`Stage.resumes`).
-/

namespace FlakeImage

variable {σ τ ε α β : Type}

/-! ### One attempt -/

/-- What an attempt makes of the runtime's answer; there is no result if the response never ends. -/
def loadResult : Except RuntimeError Stream → Option (Except LoadError String)
  | .error e => some (.error (.ingestion e))
  | .ok s => s.outcome?

namespace Host

theorem loadArchive_of_answer {h : Host σ} {path : Path} {t : Time} {w : σ} {archive : Archive} {ms : Nat}
    {a : Except RuntimeError Stream} {result : Except LoadError String}
    (hopen : h.openFile path t w = .ok archive)
    (hload : (h.runtime.load archive t w).outcome = some (ms, a)) (hresult : loadResult a = some result) :
    (h.loadArchive path none t w).ending = .of? (some result) ∧
      (h.loadArchive path none t w).world = (h.runtime.load archive t w).world := by
  have hopened : h.openArchive path none t w = ⟨.value archive, t, w, [⟨t, .call (.openArchive path)⟩]⟩ :=
    (openArchive_of_ok hopen).resolve_left fun hd => hd.2 rfl
  have hanswered : h.load archive none t w = ⟨.of? (some a), t + ms, (h.runtime.load archive t w).world, _⟩ :=
    Work.request_answered hload (Reply.misses_none ..)
  unfold loadArchive
  rw [Work.bind_value (a := archive) (by rw [Work.mapError_run, hopened]; rfl)]
  simp only [Work.mapError_run, hopened]
  cases a with
  | error e =>
    obtain rfl := Option.some.inj hresult
    rw [Work.bind_failure (by rw [Work.mapError_run, hanswered]; rfl), Work.mapError_run, hanswered]
    exact ⟨rfl, rfl⟩
  | ok s =>
    rw [Work.bind_value (a := s) (by rw [Work.mapError_run, hanswered]; rfl), Work.mapError_run, hanswered]
    have hread := Response.relay_outcome (d := none) (t := t + ms) (w := (h.runtime.load archive t w).world) s
    have hending := (hread.done.resolve_left fun hd => hd.2 rfl).1
    exact ⟨hending.trans (congrArg Ending.of? hresult), hread.world⟩

end Host

/-! ### Loads that recover -/

/-- The run ends with a result, at a time and in a world. -/
structure Run.Yields (run : Run σ ε α) (a : α) (last : Time) (after : σ) : Prop where
  ending : run.ending = .value a
  time : run.time = last
  world : run.world = after

namespace Host

/-- The archive at the path can be opened, and the runtime's answer to a load of it has such a result. -/
def Loads (h : Host σ) (path : Path) (t : Time) (w : σ) (result : Except LoadError String) : Prop :=
  ∃ archive ms a, h.openFile path t w = .ok archive ∧
    (h.runtime.load archive t w).outcome = some (ms, a) ∧ loadResult a = some result

/-- From a time and a world on `j` loads of the archive at the path fail, in one way or another, each a pause after the
end of the one before it. The next one gives the tag, and ends at the time `last` in the world `after`. -/
inductive Recovers (h : Host σ) (path : Path) (pause : Nat) (tag : String) (last : Time) (after : σ) :
    (j : Nat) → Time → σ → Prop
  | loaded {t : Time} {w : σ} (hload : h.Loads path t w (.ok tag)) (htime : (h.loadArchive path none t w).time = last)
      (hworld : (h.loadArchive path none t w).world = after) : Recovers h path pause tag last after 0 t w
  | failed {j : Nat} {t : Time} {w : σ} {e : LoadError} (hload : h.Loads path t w (.error e))
      (hnext : Recovers h path pause tag last after j ((h.loadArchive path none t w).time + pause)
        (h.loadArchive path none t w).world) : Recovers h path pause tag last after (j + 1) t w

/-- Two hosts that are asked for the image of a tag, and then to tag the image found for the plan, give the same
answers. How long they take need not be the same. -/
structure Agrees (h : Host σ) (h' : Host τ) (plan tag : String) (t : Time) (w : σ) (t' : Time) (w' : τ) : Prop where
  image : (h.runtime.imageId tag t w).outcome.map (·.2) = (h'.runtime.imageId tag t' w').outcome.map (·.2)
  tagged : ∀ ms ms' image, (h.runtime.imageId tag t w).outcome = some (ms, .ok (some image)) →
    (h'.runtime.imageId tag t' w').outcome = some (ms', .ok (some image)) →
    (h.runtime.tag image (plan ++ ":" ++ image.text) (t + ms) (h.runtime.imageId tag t w).world).outcome.map (·.2) =
      (h'.runtime.tag image (plan ++ ":" ++ image.text) (t' + ms') (h'.runtime.imageId tag t' w').world).outcome.map (·.2)

section Recovers
variable {h : Host σ} {path : Path} {tag : String} {t last : Time} {w after : σ} {j : Nat}

theorem ending_of_loads {result : Except LoadError String} (hload : h.Loads path t w result) :
    (h.loadArchive path none t w).ending = .of? (some result) := by
  obtain ⟨archive, ms, a, hopen, hanswer, hresult⟩ := hload
  exact (loadArchive_of_answer hopen hanswer hresult).1

theorem Recovers.attempts {strategy : LoadStrategy} {left number : Nat}
    (hr : h.Recovers path strategy.policy.pause tag last after j t w) (hj : j ≤ left) :
    (Retry.Try.attempts strategy (fun _ => h.loadArchive path) left ⟨number, t, w⟩).Yields tag last after := by
  -- on the failures: each leads to the attempts from the next one on, of which there is one less
  induction hr generalizing left number with
  | @loaded t w hload htime hworld =>
    have hrun : Retry.Try.attempts strategy (fun _ => h.loadArchive path) left ⟨number, t, w⟩ = _ :=
      Retry.attempts_of_success (Nat.zero_le left) nofun (ending_of_loads hload)
    rw [hrun]
    exact ⟨rfl, htime, hworld⟩
  | @failed j t w e hload hnext ih =>
    obtain ⟨left, rfl⟩ := Nat.exists_eq_add_of_le' (Nat.le_trans (Nat.le_add_left 1 j) hj)
    have hrun : Retry.Try.attempts strategy (fun _ => h.loadArchive path) (left + 1) ⟨number, t, w⟩ = _ :=
      Retry.attempts_of_failure (ending_of_loads hload)
    obtain ⟨hending, htime, hworld⟩ := @ih left (number + 1) (Nat.le_of_succ_le_succ hj)
    rw [hrun]
    exact ⟨hending, htime, hworld⟩

theorem Recovers.retry {strategy : LoadStrategy}
    (hr : h.Recovers path strategy.policy.pause tag last after j (t + strategy.policy.first) w)
    (hj : j < strategy.policy.attempts) :
    let run := Retry.run strategy .never (fun _ => h.loadArchive path) none t w
    run.Yields tag last after ∧ run.journal.naming = [] := by
  intro run
  have hnaming : run.journal.naming = [] :=
    (Follows.retry strategy).naming_eq_nil fun xs hxs => hxs.not_isNaming
  have hrun : run = _ := Retry.run_never strategy (fun _ => h.loadArchive path) t w
  refine ⟨?_, hnaming⟩
  rw [hrun]
  exact hr.attempts (Nat.le_sub_one_of_lt hj)

end Recovers

end Host

/-! ### Runs that are alike -/

/-- The runs end in the same way and ask the same about images. -/
structure Alike (run : Run σ ε α) (run' : Run τ ε α) : Prop where
  ending : run.ending = run'.ending
  naming : run.journal.naming = run'.journal.naming

theorem Journal.naming_append (i j : Journal) : naming (i ++ j) = naming i ++ naming j := by
  simp [naming]

namespace Alike
variable {x : Work σ ε α} {x' : Work τ ε α} {f : α → Work σ ε β} {f' : α → Work τ ε β}
variable {t t' : Time} {w : σ} {w' : τ}

theorem bind (hx : Alike (x none t w) (x' none t' w'))
    (hf : ∀ a, (x none t w).ending = .value a → (x' none t' w').ending = .value a →
      Alike (f a none (x none t w).time (x none t w).world) (f' a none (x' none t' w').time (x' none t' w').world)) :
    Alike ((x >>= f) none t w) ((x' >>= f') none t' w') := by
  obtain ⟨hending, hnaming⟩ := hx
  cases he : (x none t w).ending with
  | value a =>
    have he' := hending.symm.trans he
    obtain ⟨hending', hnaming'⟩ := hf a he he'
    rw [Work.bind_value he, Work.bind_value he']
    refine ⟨hending', ?_⟩
    rw [Journal.naming_append, Journal.naming_append, hnaming, hnaming']
  | failure e =>
    rw [Work.bind_failure he, Work.bind_failure (hending ▸ he)]
    exact ⟨rfl, hnaming⟩
  | unfinished =>
    rw [Work.bind_unfinished he, Work.bind_unfinished (hending ▸ he)]
    exact ⟨rfl, hnaming⟩

theorem bind_yields {a : α} {last last' : Time} {after : σ} {after' : τ} (hx : (x none t w).Yields a last after)
    (hx' : (x' none t' w').Yields a last' after')
    (hnaming : (x none t w).journal.naming = (x' none t' w').journal.naming)
    (hf : Alike (f a none last after) (f' a none last' after')) :
    Alike ((x >>= f) none t w) ((x' >>= f') none t' w') := by
  refine bind ⟨hx.ending.trans hx'.ending.symm, hnaming⟩ fun b hb _ => ?_
  obtain rfl : a = b := Ending.value.inj (hx.ending.symm.trans hb)
  rw [hx.time, hx.world, hx'.time, hx'.world]
  exact hf

/-- The time may differ, and what is made of it. -/
theorem time_bind {f : Time → Work σ ε β} {f' : Time → Work τ ε β} (hf : Alike (f t none t w) (f' t' none t' w')) :
    Alike ((Work.time >>= f) none t w) ((Work.time >>= f') none t' w') := hf

/-- So may what is reported. -/
theorem report_bind {r r' : Report} {f : Unit → Work σ ε β} {f' : Unit → Work τ ε β}
    (hf : Alike (f () none t w) (f' () none t' w')) :
    Alike ((Work.report r >>= f) none t w) ((Work.report r' >>= f') none t' w') :=
  ⟨hf.ending, hf.naming⟩

theorem onFailure {g : ε → Option Event} (hg : ∀ e ev, g e = some ev → ev.call? = none)
    (hx : Alike (x none t w) (x' none t' w')) : Alike (x.onFailure g none t w) (x'.onFailure g none t' w') := by
  refine ⟨?_, ?_⟩
  · rw [Work.onFailure_run, Work.onFailure_run]
    exact hx.ending
  · rw [Journal.naming, Journal.naming, Work.calls_onFailure hg, Work.calls_onFailure hg]
    exact hx.naming

theorem request (c : Call) {service : Service σ (Except ε α)} {service' : Service τ (Except ε α)}
    (hanswer : (service t w).outcome.map (·.2) = (service' t' w').outcome.map (·.2)) :
    Alike (Work.request c service none t w) (Work.request c service' none t' w') := by
  refine ⟨?_, ?_⟩
  · rw [Work.request_ending, Work.request_ending, Reply.answer?_none, Reply.answer?_none]
    exact congrArg Ending.of? hanswer
  · rw [Journal.naming, Journal.naming, Work.request_calls, Work.request_calls]
    rfl

theorem guard (hx : Alike (x none t w) (x' none t' w')) :
    Alike (Work.guard .never x none t w) (Work.guard .never x' none t' w') := by
  rw [Work.guard_never, Work.guard_never]
  exact ⟨congrArg Ending.caught hx.ending, hx.naming⟩

end Alike

/-! ### Builds that are alike -/

namespace Host
variable {h : Host σ} {h' : Host τ} {plan tag : String} {t t' : Time} {w : σ} {w' : τ}

theorem built_of_value {target : Target} {g : BuildError → Option Event} {path : Path}
    (hpath : ((h.build .never target).onFailure g none t w).ending = .value path) :
    ∃ ms, (h.tool.build target .never t w).outcome = some (ms, .ok path) ∧
      ((h.build .never target).onFailure g none t w).Yields path (t + ms) (h.tool.build target .never t w).world := by
  rw [Work.onFailure_run] at hpath ⊢
  have hanswer := Ending.of?_eq_value.1 (Work.request_ending.symm.trans hpath)
  rw [Reply.answer?_none] at hanswer
  obtain ⟨⟨ms, a⟩, houtcome, rfl⟩ := Option.map_eq_some_iff.1 hanswer
  have hrun : h.build .never target none t w = _ := Work.request_answered houtcome (Reply.misses_none ..)
  exact ⟨ms, houtcome, hpath, congrArg Run.time hrun, congrArg Run.world hrun⟩

theorem found_of_value {image : ImageId} (himage : (h.resolveImage .never tag none t w).ending = .value image) :
    ∃ ms, (h.runtime.imageId tag t w).outcome = some (ms, .ok (some image)) ∧
      (h.resolveImage .never tag none t w).Yields image (t + ms) (h.runtime.imageId tag t w).world := by
  cases ho : (h.runtime.imageId tag t w).outcome with
  | none =>
    have hrun : (Work.guard .never (h.imageId tag) none t w).ending = .unfinished := by
      rw [Work.guard_never, imageId, Work.request_silent ho]
      rfl
    rw [resolveImage, Work.bind_unfinished hrun] at himage
    cases himage
  | some o =>
    obtain ⟨ms, a⟩ := o
    have hrun : Work.guard .never (h.imageId tag) none t w = ⟨.value a, t + ms, (h.runtime.imageId tag t w).world,
        Work.opening (.imageId tag) t (h.runtime.imageId tag t w)⟩ := by
      rw [Work.guard_never, imageId, Work.request_answered ho (Reply.misses_none ..)]
      cases a <;> rfl
    rw [resolveImage, Work.bind_value (congrArg Run.ending hrun), hrun] at himage ⊢
    rcases a with e | _ | found
    · cases himage
    · cases himage
    · obtain rfl : found = image := Ending.value.inj himage
      exact ⟨ms, rfl, rfl, rfl, rfl⟩

theorem Agrees.alike (ha : h.Agrees h' plan tag t w t' w') :
    Alike ((h.resolveImage .never tag >>= fun image => do
        Work.tell .info "got docker image id" [("image_id", image.text)]
        Work.tell .info "tagging image" [("image_id", image.text), ("tag", planTag plan image)]
        h.applyTag .never image (planTag plan image)) none t w)
      ((h'.resolveImage .never tag >>= fun image => do
        Work.tell .info "got docker image id" [("image_id", image.text)]
        Work.tell .info "tagging image" [("image_id", image.text), ("tag", planTag plan image)]
        h'.applyTag .never image (planTag plan image)) none t' w') := by
  have hresolve : Alike (h.resolveImage .never tag none t w) (h'.resolveImage .never tag none t' w') := by
    refine (Alike.request _ ha.image).guard.bind fun a _ _ => ?_
    rcases a with e | _ | image <;> exact ⟨rfl, rfl⟩
  refine hresolve.bind fun image himage himage' => .report_bind (.report_bind ?_)
  obtain ⟨ms, hfound, hyields⟩ := found_of_value himage
  obtain ⟨ms', hfound', hyields'⟩ := found_of_value himage'
  rw [hyields.time, hyields.world, hyields'.time, hyields'.world]
  refine (Alike.request _ (ha.tagged ms ms' image hfound hfound')).guard.bind fun a _ _ => ?_
  cases a <;> exact ⟨rfl, rfl⟩

end Host

namespace Builder

/-- A build on the second host goes on as one on the first host does after `j` loads. The tools give the same answer;
where that is a path, `j` loads on the first host fail and the next one gives a tag, which the first load on the second
host gives too; and then the two answer alike. -/
structure Resumes (h : Host σ) (h' : Host τ) (strategy : LoadStrategy) (hostArch : String) (r : Request) (j : Nat)
    (t : Time) (w : σ) (t' : Time) (w' : τ) : Prop where
  tool : ∀ target, r.HasTarget hostArch target →
    (h.tool.build target .never t w).outcome.map (·.2) = (h'.tool.build target .never t' w').outcome.map (·.2)
  loads : ∀ target path ms ms', r.HasTarget hostArch target →
    (h.tool.build target .never t w).outcome = some (ms, .ok path) →
    (h'.tool.build target .never t' w').outcome = some (ms', .ok path) →
    ∃ tag last after last' after',
      h.Recovers path strategy.policy.pause tag last after j (t + ms + strategy.policy.first)
        (h.tool.build target .never t w).world ∧
      h'.Recovers path strategy.policy.pause tag last' after' 0 (t' + ms' + strategy.policy.first)
        (h'.tool.build target .never t' w').world ∧
      h.Agrees h' r.plan tag last after last' after'

section Resumes
variable {h : Host σ} {h' : Host τ} {strategy : LoadStrategy} {hostArch : String} {r : Request} {j : Nat}
variable {t t' : Time} {w : σ} {w' : τ}

theorem run_alike (hr : Resumes h h' strategy hostArch r j t w t' w') (hj : j < strategy.policy.attempts) :
    Alike (run ⟨h, strategy, hostArch⟩ .never r none t w) (run ⟨h', strategy, hostArch⟩ .never r none t' w') := by
  have hsame : target ⟨h', strategy, hostArch⟩ r = target ⟨h, strategy, hostArch⟩ r := rfl
  unfold Builder.run
  rw [hsame]
  cases htarget : target ⟨h, strategy, hostArch⟩ r with
  | error e => exact ⟨rfl, rfl⟩
  | ok target =>
    have hhas : r.HasTarget hostArch target := hasTarget_of_target htarget
    refine Alike.bind ⟨rfl, rfl⟩ fun a ha _ => ?_
    obtain rfl : target = a := Ending.value.inj ha
    refine .time_bind (Alike.bind ⟨rfl, rfl⟩ fun _ _ _ => .report_bind ?_)
    have hbuild : Alike ((h.build .never target).onFailure toolReport none t w)
        ((h'.build .never target).onFailure toolReport none t' w') :=
      (Alike.request _ (hr.tool target hhas)).onFailure fun e ev hev => by
        cases e with
        | toolFailed status stderr => obtain rfl := Option.some.inj hev; rfl
        | _ => cases hev
    refine Alike.bind hbuild fun path hpath hpath' => .report_bind ?_
    obtain ⟨ms, hbuilt, hyields⟩ := Host.built_of_value hpath
    obtain ⟨ms', hbuilt', hyields'⟩ := Host.built_of_value hpath'
    rw [hyields.time, hyields.world, hyields'.time, hyields'.world]
    obtain ⟨tag, last, after, last', after', hlate, hearly, hagrees⟩ := hr.loads target path ms ms' hhas hbuilt hbuilt'
    -- the loads end with the same tag, and what follows is told neither how many there were nor how late it is
    obtain ⟨hloaded, hnaming⟩ := hlate.retry hj
    obtain ⟨hloaded', hnaming'⟩ := hearly.retry strategy.attempts_pos
    exact .bind_yields hloaded hloaded' (hnaming.trans hnaming'.symm) (.time_bind (.report_bind hagrees.alike))

end Resumes

end Builder

/-! ### A store with a script -/

theorem loadResult_loadedLine : loadResult (.ok (.ofBytes Host.loadedLine)) = some (.ok "a:b") := by
  have hlines : (Stream.ofBytes Host.loadedLine).lines = [Host.loadedLine] := by decide +kernel
  have hend : (Stream.ofBytes Host.loadedLine).ending = .complete 0 := rfl
  simp [loadResult, Stream.outcome?, Stream.last?, hlines, hend, Except.bind, Host.failure?_loadedLine,
    Host.output_loadedLine, Host.defaultTag_loaded]

namespace Rehearsal

theorem Part.lift_now {σ τ α : Type} {p : Part σ τ} {service : Service τ α} {t : Time} {w : σ} {v : τ} {a : α}
    (h : service t (p.get w) = .now v a) : p.lift service t w = .now (p.set v w) a := by
  simp only [lift, h]
  rfl

theorem Store.load_of_readable {archive : Archive} {t : Time} {s : Store} (h : archive.failure = none) :
    load archive t s = .now { s with
      loadCalls := s.loadCalls + 1, loadedSizes := s.loadedSizes ++ [archive.bytes.length],
      loads := s.loads.tail } (LoadCue.answer s.loads.head?) := by
  simp only [load, h]

theorem Tool.respond_of_succeed {path : Path} {target : Target} {t : Time} {tool : Tool}
    (h : tool.manner = .succeed path) :
    respond target .never t tool = .now { tool with targets := tool.targets ++ [target] } (.ok path) := by
  obtain ⟨manner, targets⟩ := tool
  obtain rfl : manner = .succeed path := h
  rfl

/-- Whether tags can be set is known of a store beforehand. -/
theorem Store.tag_outcome (image : ImageId) (name : String) (t : Time) (s : Store) :
    (tag image name t s).outcome = some (0, s.tagFailure.elim (.ok ()) fun text => .error (.unavailable text)) := by
  unfold tag
  cases s.tagFailure <;> rfl

namespace Stage
variable {s s' : Stage} {path : Path} {tag : String} {j : Nat}

/-- The file can be opened at any time, and read to its end. -/
def Readable (s : Stage) (path : Path) : Prop :=
  ∀ t, ∃ archive, openFile path t s = .ok archive ∧ archive.failure = none

/-- The images of the two stores and what becomes of tags are the same. -/
structure SameImages (s s' : Stage) : Prop where
  images : s.store.images = s'.store.images
  tagFailure : s.store.tagFailure = s'.store.tagFailure

theorem SameImages.agrees (h : SameImages s s') (plan tag : String) (t t' : Time) :
    (host .standIn .store).Agrees (host .standIn .store) plan tag t s t' s' where
  image := by
    change some (Except.ok (s.store.images.reverse.lookup tag)) = some (.ok (s'.store.images.reverse.lookup tag))
    rw [h.images]
  tagged ms ms' image _ _ := by
    change (Store.tag image (plan ++ ":" ++ image.text) (t + ms) _).outcome.map (·.2) =
      (Store.tag image (plan ++ ":" ++ image.text) (t' + ms') _).outcome.map (·.2)
    rw [Store.tag_outcome, Store.tag_outcome]
    exact congrArg (fun failure : Option String => some (failure.elim (Except.ok ()) fun text =>
      Except.error (RuntimeError.unavailable text))) h.tagFailure

/-- A load of a readable file takes the next cue, and leaves all that is about images. -/
theorem loads_cue (hread : s.Readable path) (t : Time) {result : Except LoadError String}
    (hresult : loadResult (LoadCue.answer s.store.loads.head?) = some result) :
    (host .standIn .store).Loads path t s result ∧
      ∃ v, ((host .standIn .store).loadArchive path none t s).world = { s with store := v } ∧
        v.loads = s.store.loads.tail ∧ SameImages s { s with store := v } := by
  obtain ⟨archive, hopen, hreadable⟩ := hread t
  have hload : (host .standIn .store).runtime.load archive t s = .now { s with store := _ } _ :=
    Part.lift_now (Store.load_of_readable hreadable)
  have hanswer := congrArg Reply.outcome hload
  obtain ⟨-, hworld⟩ := Host.loadArchive_of_answer (h := host .standIn .store) hopen hanswer hresult
  exact ⟨⟨archive, 0, _, hopen, hanswer, hresult⟩, _, hworld.trans (congrArg Reply.world hload), rfl, rfl, rfl⟩

theorem recovers (hread : s.Readable path)
    (hfails : ∀ i < j, ∃ e, loadResult (LoadCue.answer s.store.loads[i]?) = some (.error e))
    (hload : loadResult (LoadCue.answer s.store.loads[j]?) = some (.ok tag)) (pause : Nat) (t : Time) :
    ∃ last after, (host .standIn .store).Recovers path pause tag last after j t s ∧ SameImages s after := by
  -- on the failures: the script after the first of them has one less
  induction j generalizing s t with
  | zero =>
    rw [← List.head?_eq_getElem?] at hload
    obtain ⟨hloads, v, hworld, -, himages⟩ := loads_cue hread t hload
    exact ⟨_, _, .loaded hloads rfl hworld, himages⟩
  | succ j ih =>
    obtain ⟨e, he⟩ := hfails 0 (Nat.succ_pos j)
    rw [← List.head?_eq_getElem?] at he
    obtain ⟨hloads, v, hworld, htail, himages⟩ := loads_cue hread t he
    have hrest (i : Nat) : v.loads[i]? = s.store.loads[i + 1]? := by rw [htail, List.getElem?_tail]
    obtain ⟨last, after, hrecovers, hafter⟩ := @ih { s with store := v } hread
      (fun i hi => by rw [hrest]; exact hfails (i + 1) (Nat.succ_lt_succ hi)) (by rw [hrest]; exact hload)
      (((host .standIn .store).loadArchive path none t s).time + pause)
    refine ⟨last, after, .failed hloads ?_, himages.images.trans hafter.images,
      himages.tagFailure.trans hafter.tagFailure⟩
    rw [hworld]
    exact hrecovers

/-- A build on a stage whose store fails `j` times goes on as one on the stage whose script is without the failures. -/
theorem resumes {strategy : LoadStrategy} {hostArch : String} {r : Request} (htool : s.tool.manner = .succeed path)
    (hread : s.Readable path) (hfails : ∀ i < j, ∃ e, loadResult (LoadCue.answer s.store.loads[i]?) = some (.error e))
    (hload : loadResult (LoadCue.answer s.store.loads[j]?) = some (.ok tag)) (t t' : Time) :
    Builder.Resumes (host .standIn .store) (host .standIn .store) strategy hostArch r j t s t'
      { s with store := { s.store with loads := s.store.loads.drop j } } := by
  have hbuild (target : Target) (t : Time) (v : Stage) (hv : v.tool.manner = .succeed path) :
      (host .standIn .store).tool.build target .never t v =
        .now { v with tool := { v.tool with targets := v.tool.targets ++ [target] } } (.ok path) :=
    Part.lift_now (Tool.respond_of_succeed hv)
  have hlate (target : Target) := hbuild target t s htool
  have hearly (target : Target) := hbuild target t' { s with store := { s.store with loads := s.store.loads.drop j } } htool
  refine ⟨fun target _ => by rw [hlate, hearly]; rfl, fun target path' ms ms' _ hbuilt hbuilt' => ?_⟩
  rw [hlate] at hbuilt ⊢
  rw [hearly] at hbuilt' ⊢
  cases hbuilt
  cases hbuilt'
  have hzero : (s.store.loads.drop j)[0]? = s.store.loads[j]? := by rw [List.getElem?_drop, Nat.add_zero]
  obtain ⟨last, after, hrecovers, himages⟩ := @recovers
    { s with tool := { s.tool with targets := s.tool.targets ++ [target] } } path tag j hread hfails hload
    strategy.policy.pause (t + 0 + strategy.policy.first)
  obtain ⟨last', after', hrecovers', himages'⟩ := @recovers
    { s with
      tool := { s.tool with targets := s.tool.targets ++ [target] }
      store := { s.store with loads := s.store.loads.drop j } } path tag 0 hread nofun (by rw [← hload, ← hzero])
    strategy.policy.pause (t' + 0 + strategy.policy.first)
  have hsame : SameImages after after' := ⟨himages.images.symm.trans himages'.images,
    himages.tagFailure.symm.trans himages'.tagFailure⟩
  exact ⟨tag, last, after, last', after', hrecovers, hrecovers', hsame.agrees ..⟩

/-- Two loads fail in different ways, and the third gives the tag. -/
def troubled : Stage where
  files := { disk := ⟨[], [(⟨false, [[97]]⟩, .file [1, 2, 3])]⟩ }
  tool := { manner := .succeed ⟨[97]⟩ }
  store := {
    loads := [.fail "busy", .respond "", .respond "Loaded image: a:b"]
    images := [("a:b", ⟨"sha256:1"⟩)] }

theorem troubled_readable : troubled.Readable ⟨[97]⟩ := fun t => by
  have hdisk : troubled.files.diskAt t = troubled.files.disk := by simp [Files.diskAt, troubled]
  refine ⟨⟨[1, 2, 3], none⟩, ?_, rfl⟩
  rw [openFile, hdisk]
  rfl

theorem troubled_fails : ∀ i < 2, ∃ e, loadResult (LoadCue.answer troubled.store.loads[i]?) = some (.error e) := by
  intro i hi
  obtain rfl | rfl : i = 0 ∨ i = 1 := by omega
  · exact ⟨.ingestion (.unavailable "busy"), rfl⟩
  · exact ⟨.unrecognised "", by cbv⟩

end Stage

end Rehearsal

namespace Builder

theorem build_alike {h : Host σ} {h' : Host τ} {strategy : LoadStrategy} {hostArch : String} {r : Request} {j : Nat}
    {t t' : Time} {w : σ} {w' : τ} (hr : Resumes h h' strategy hostArch r j t w t' w')
    (hj : j < strategy.policy.attempts) :
    Alike (build ⟨h, strategy, hostArch⟩ .never r none t w) (build ⟨h', strategy, hostArch⟩ .never r none t' w') :=
  (run_alike hr hj).onFailure fun e ev hev => by
    obtain rfl := Option.some.inj hev
    rfl

/-- **A retried build is like one that succeeds at once, and a larger number of attempts does no harm.** If `j` loads
fail, in any way, and the next one, which is still allowed, gives a tag, then the build has the result, the questions
about images and the tags of the build on the host whose first load gives this tag and whose answers about images are
the same; so it is with any script of loads and what is left of it without the failures. A build that gets to ask for
its image is the same if more attempts are allowed; one whose attempts have all failed makes the same calls then, and
perhaps more. -/
theorem build_retried :
    (∀ (h : Host σ) (h' : Host τ) (strategy : LoadStrategy) (hostArch : String) (r : Request) (j : Nat)
      (t : Time) (w : σ) (t' : Time) (w' : τ),
      Resumes h h' strategy hostArch r j t w t' w' → j < strategy.policy.attempts →
      let late := build ⟨h, strategy, hostArch⟩ .never r none t w
      let early := build ⟨h', strategy, hostArch⟩ .never r none t' w'
      late.ending = early.ending ∧ late.journal.naming = early.journal.naming) ∧
    (∀ (s : Rehearsal.Stage) (path : Path) (tag : String) (strategy : LoadStrategy) (hostArch : String) (r : Request)
      (j : Nat) (t t' : Time), s.tool.manner = .succeed path → s.Readable path →
      (∀ i < j, ∃ e, loadResult (Rehearsal.LoadCue.answer s.store.loads[i]?) = some (.error e)) →
      loadResult (Rehearsal.LoadCue.answer s.store.loads[j]?) = some (.ok tag) → j < strategy.policy.attempts →
      let b : Builder Rehearsal.Stage := ⟨Rehearsal.Stage.host .standIn .store, strategy, hostArch⟩
      let late := b.build .never r none t s
      let early := b.build .never r none t' { s with store := { s.store with loads := s.store.loads.drop j } }
      late.ending = early.ending ∧ late.journal.naming = early.journal.naming) ∧
    (∀ (b : Builder σ) (n m d : Nat) (r : Request) (t : Time) (w : σ), n ≤ m →
      let few := { b with strategy := .retry n d }.build .never r none t w
      let many := { b with strategy := .retry m d }.build .never r none t w
      ((∃ tag, .imageId tag ∈ few.journal.naming) → SameButLimit few many) ∧
        ((∃ k e, few.ending = .failure (.loadExhausted k e)) → few.journal.calls <+: many.journal.calls)) := by
  refine ⟨fun h h' strategy hostArch r j t w t' w' hr hj => ?_,
    fun s path tag strategy hostArch r j t t' htool hread hfails hload hj => ?_, fun b n m d r t w hnm => ?_⟩
  · obtain ⟨hending, hnaming⟩ := build_alike hr hj
    exact ⟨hending, hnaming⟩
  · obtain ⟨hending, hnaming⟩ := build_alike (Rehearsal.Stage.resumes htool hread hfails hload t t') hj
    exact ⟨hending, hnaming⟩
  · intro few many
    rcases build_outlasts b r hnm d t w with hsame | ⟨hexhausted, hnone, hcalls⟩
    · have hcalls : few.journal.calls <+: many.journal.calls := by rw [hsame.calls]
      exact ⟨fun _ => hsame, fun _ => hcalls⟩
    · refine ⟨fun ⟨tag, htag⟩ => ?_, fun _ => hcalls⟩
      rw [hnone] at htag
      cases htag

theorem troubled_retried :
    let b : Builder Rehearsal.Stage := ⟨Rehearsal.Stage.host .standIn .store, .retry 3 5, "x86_64"⟩
    let quiet : Rehearsal.Stage := { Rehearsal.Stage.troubled with
      store := { Rehearsal.Stage.troubled.store with loads := [.respond "Loaded image: a:b"] } }
    let late := b.build .never readyRequest none 0 Rehearsal.Stage.troubled
    let early := b.build .never readyRequest none 0 quiet
    let few := { ready with strategy := .retry 1 5 }.build .never readyRequest none 0 ()
    let many := { ready with strategy := .retry 3 5 }.build .never readyRequest none 0 ()
    (late.ending = early.ending ∧ late.journal.naming = early.journal.naming ∧
      early.journal.naming = [.imageId "a:b", .tag ⟨"sha256:1"⟩ "plan:sha256:1"]) ∧
    .imageId "a:b" ∈ few.journal.naming ∧ SameButLimit few many := by
  intro b quiet late early few many
  obtain ⟨-, hretried, hbudget⟩ := @build_retried Unit Unit
  obtain ⟨hending, hnaming⟩ := hretried Rehearsal.Stage.troubled ⟨[97]⟩ "a:b" (.retry 3 5) "x86_64" readyRequest 2 0 0
    rfl Rehearsal.Stage.troubled_readable Rehearsal.Stage.troubled_fails loadResult_loadedLine (by decide)
  have hasked : early.journal.naming = [.imageId "a:b", .tag ⟨"sha256:1"⟩ "plan:sha256:1"] := by decide +kernel
  have htag : .imageId "a:b" ∈ few.journal.naming := by decide +kernel
  obtain ⟨hsame, -⟩ := hbudget ready 1 3 5 readyRequest 0 () (by decide)
  exact ⟨⟨hending, hnaming, hasked⟩, htag, hsame ⟨_, htag⟩⟩

end Builder

end FlakeImage
