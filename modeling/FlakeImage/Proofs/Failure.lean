import FlakeImage.Proofs.Recovery

/-!
# How a build fails

`Course.failure_cases` lists what a course can fail with: the failure of the tool, an image that could not be
tagged, or a failure of the builder's own. The tagging of an image is the last call of a course, right after the
question that found the image. So a build tells of an image in its failure exactly if this image was found and
left untagged (`build_partialImage`): a caller that is told of an image may use it, and one that is not told of
any loses none.
-/

namespace FlakeImage

variable {σ ε α : Type}

/-- A failure that is neither the tool's nor the tagging's. -/
def BuildError.isPlain : BuildError → Bool
  | .otherBuilder _ | .unsupportedArchitecture _ | .loadExhausted .. | .unknownTag _ | .runtime _
  | .cancelled => true
  | _ => false

theorem BuildError.partialImage?_of_isPlain {e : BuildError} (h : e.isPlain = true) : e.partialImage? = none := by
  cases e with
  | tagFailed => cases h
  | _ => rfl

section Course
variable {b : Builder σ} {r : Request} {xs : List Exchange} {e : Ending BuildError ImageId} {err : BuildError}
variable {path : Path} {left number : Nat} {plan tag name : String} {image : ImageId}

/-! ### The parts of a course -/

theorem Attempts.build_not_mem {e : Ending BuildError String} {target : Target}
    {a : Option (Except BuildError Path)} (h : Attempts path left number xs e) : .build target a ∉ xs :=
  fun hmem => nomatch h.isLoading _ hmem

theorem Naming.isNaming_of_mem (h : Naming plan tag xs e) : ∀ x ∈ xs, x.isNaming = true := by
  cases h with
  | found ht => cases ht <;> simp [Exchange.isNaming]
  | _ => simp [Exchange.isNaming]

/-- What is asked about images in a course is asked in its last part, once the archive has been loaded. -/
theorem Course.exists_naming (h : Course b r xs e) {x : Exchange} (hx : x ∈ xs) (hn : x.isNaming = true) :
    ∃ ys zs tag, xs = ys ++ zs ∧ x ∈ zs ∧ Naming r.plan tag zs e := by
  have hattempts {path : Path} {left number : Nat} {ys : List Exchange} {e : Ending BuildError String}
      (hys : Attempts path left number ys e) : x ∉ ys := fun hmem => by
    rw [hys.not_isNaming x hmem] at hn
    cases hn
  have hbuild {target : Target} {a : Option (Except BuildError Path)} : x ≠ .build target a := by
    rintro rfl
    cases hn
  cases h with
  | otherBuilder h => cases hx
  | unresolved hc h => cases hx
  | cancelled h => cases hx
  | building h => exact absurd (List.mem_singleton.1 hx) hbuild
  | unbuilt h e => exact absurd (List.mem_singleton.1 hx) hbuild
  | loading h hys => exact absurd ((List.mem_cons.1 hx).resolve_left hbuild) (hattempts hys)
  | unloaded h hys => exact absurd ((List.mem_cons.1 hx).resolve_left hbuild) (hattempts hys)
  | @loaded target h path ys zs tag e hys hzs =>
    have hx := List.mem_append.1 ((List.mem_cons.1 hx).resolve_left hbuild)
    exact ⟨.build target (some (.ok path)) :: ys, zs, tag, rfl, hx.resolve_left (hattempts hys), hzs⟩

/-! ### The tagging of an image -/

theorem Naming.eq_of_tag_mem {a : Option (Except RuntimeError Unit)} (h : Naming plan tag xs e)
    (hmem : .tag image name a ∈ xs) :
    name = plan ++ ":" ++ image.text ∧ xs = [.imageId tag (some (.ok (some image))), .tag image name a] := by
  cases h with
  | waiting hs => cases hmem
  | stopped hs => cases List.mem_singleton.1 hmem
  | failed e => cases List.mem_singleton.1 hmem
  | unknown => cases List.mem_singleton.1 hmem
  | found ht =>
    have hmem := (List.mem_cons.1 hmem).resolve_left nofun
    cases ht with
    | waiting hs => cases hmem
    | stopped hs => cases List.mem_singleton.1 hmem; exact ⟨rfl, rfl⟩
    | failed source => cases List.mem_singleton.1 hmem; exact ⟨rfl, rfl⟩
    | tagged => cases List.mem_singleton.1 hmem; exact ⟨rfl, rfl⟩

/-- A course ends with the tagging of an image, if there is one, right after the question that found it. -/
theorem Course.suffix_of_tag_mem {a : Option (Except RuntimeError Unit)} (h : Course b r xs e)
    (hmem : .tag image name a ∈ xs) :
    name = r.plan ++ ":" ++ image.text ∧
      ∃ reference, [.imageId reference (some (.ok (some image))), .tag image name a] <:+ xs := by
  obtain ⟨ys, zs, tag, rfl, hmem, hzs⟩ := h.exists_naming hmem rfl
  obtain ⟨hname, rfl⟩ := hzs.eq_of_tag_mem hmem
  exact ⟨hname, tag, ys, rfl⟩

theorem Course.found_of_tag_mem {a : Option (Except RuntimeError Unit)} (h : Course b r xs e)
    (hmem : .tag image name a ∈ xs) : ∃ reference, .imageId reference (some (.ok (some image))) ∈ xs := by
  obtain ⟨-, reference, hsuffix⟩ := h.suffix_of_tag_mem hmem
  exact ⟨reference, hsuffix.subset (List.mem_cons_self ..)⟩

theorem Course.failure_of_untagged {source : RuntimeError} (h : Course b r xs e)
    (hmem : .tag image name (some (.error source)) ∈ xs) : e = .failure (.tagFailed image name source) := by
  obtain ⟨ys, zs, tag, rfl, hmem, hzs⟩ := h.exists_naming hmem rfl
  obtain ⟨rfl, rfl⟩ := hzs.eq_of_tag_mem hmem
  cases hzs with
  | found ht => cases ht; rfl

/-! ### Failures -/

theorem Stopped.isPlain (h : Stopped (.failure err : Ending BuildError α)) : err.isPlain = true := by
  cases h
  rfl

theorem Attempts.isPlain (h : Attempts path left number xs (.failure err)) : err.isPlain = true := by
  generalize hending : (.failure err : Ending BuildError String) = ending at h
  induction h with
  | waiting hs => exact Stopped.isPlain (hending ▸ hs)
  | stopped hx hs => exact Stopped.isPlain (hending ▸ hs)
  | loaded hx => cases hending
  | exhausted hx => cases hending; rfl
  | again hx hy ih => exact ih hending

theorem Naming.failure_cases (h : Naming plan tag xs (.failure err)) :
    err.isPlain = true ∨ ∃ image source, err = .tagFailed image (plan ++ ":" ++ image.text) source ∧
      .tag image (plan ++ ":" ++ image.text) (some (.error source)) ∈ xs := by
  cases h with
  | waiting hs => exact .inl hs.isPlain
  | stopped hs => exact .inl hs.isPlain
  | failed source => exact .inl rfl
  | unknown => exact .inl rfl
  | @found image ys e ht =>
    cases ht with
    | waiting hs => exact .inl hs.isPlain
    | stopped hs => exact .inl hs.isPlain
    | failed source => exact .inr ⟨image, source, rfl, by simp⟩

theorem Course.failure_cases (h : Course b r xs (.failure err)) :
    err.isPlain = true ∨ (∃ target, .build target (some (.error err)) ∈ xs) ∨
      ∃ image source, err = .tagFailed image (r.plan ++ ":" ++ image.text) source ∧
        .tag image (r.plan ++ ":" ++ image.text) (some (.error source)) ∈ xs := by
  cases h with
  | otherBuilder h => exact .inl rfl
  | unresolved hc h =>
    rw [resolveSystem_eq_error (ImageConfig.resolve_eq_error_iff.1 h)]
    exact .inl rfl
  | cancelled h => exact .inl rfl
  | unbuilt h e => exact .inr (.inl ⟨_, List.mem_singleton_self _⟩)
  | unloaded h hx => exact .inl hx.isPlain
  | loaded h hx hy =>
    obtain hplain | ⟨image, source, rfl, hmem⟩ := hy.failure_cases
    · exact .inl hplain
    · exact .inr (.inr ⟨image, source, rfl, by simp [hmem]⟩)

/-- The tool is asked first, and for the target of the request. -/
theorem Course.of_build_mem {target : Target} {a : Option (Except BuildError Path)} (h : Course b r xs e)
    (hmem : .build target a ∈ xs) : r.HasTarget b.hostArch target ∧ ∃ ys, xs = .build target a :: ys := by
  have hfirst {x : Exchange} {ys : List Exchange} (hmem : .build target a ∈ x :: ys) (hys : .build target a ∉ ys) :
      .build target a = x := (List.mem_cons.1 hmem).resolve_right hys
  cases h with
  | otherBuilder h => cases hmem
  | unresolved hc h => cases hmem
  | cancelled h => cases hmem
  | building h => cases List.mem_singleton.1 hmem; exact ⟨h, [], rfl⟩
  | unbuilt h e => cases List.mem_singleton.1 hmem; exact ⟨h, [], rfl⟩
  | loading h hx => cases hfirst hmem hx.build_not_mem; exact ⟨h, _, rfl⟩
  | unloaded h hx => cases hfirst hmem hx.build_not_mem; exact ⟨h, _, rfl⟩
  | @loaded _ h _ ys zs _ _ hx hy =>
    have hrest : .build target a ∉ ys ++ zs := by
      intro hmem
      have hnaming := hy.isNaming_of_mem _ ((List.mem_append.1 hmem).resolve_left hx.build_not_mem)
      cases hnaming
    cases hfirst hmem hrest
    exact ⟨h, _, rfl⟩

/-- The failure of the tool is that of the build. -/
theorem Course.failure_of_unbuilt {target : Target} (h : Course b r xs e)
    (hmem : .build target (some (.error err)) ∈ xs) : e = .failure err := by
  obtain ⟨-, ys, rfl⟩ := h.of_build_mem hmem
  cases h with
  | unbuilt => rfl

end Course

/-- The tool does not fail as if an image could not be tagged. -/
def BuildTool.TagsNothing (tool : BuildTool σ) : Prop :=
  ∀ target cancel t w ms image tag source,
    (tool.build target cancel t w).outcome ≠ some (ms, .error (.tagFailed image tag source))

theorem BuildTool.TagsNothing.partialImage?_of_mem {h : Host σ} (htool : h.tool.TagsNothing) {cancel : Cancel}
    {d : Deadline} {w : σ} {cs : List (Time × Call)} {target : Target} {err : BuildError}
    (hmem : .build target (some (.error err)) ∈ (h.exchanges cancel d w cs).1) : err.partialImage? = none := by
  obtain ⟨t, v, -, -, -, -, hx⟩ := Host.exists_asked_of_mem hmem
  have hanswer : some (.error err) = (h.tool.build target cancel t v).answer? d t := (Exchange.build.inj hx).2
  obtain ⟨ms, houtcome, -⟩ := Reply.answer?_eq_some_iff.1 hanswer.symm
  cases err with
  | tagFailed image tag source => exact absurd houtcome (htool target cancel t v ms image tag source)
  | _ => rfl

namespace Builder

theorem isPlain_of_target {b : Builder σ} {r : Request} {e : BuildError} (h : b.target r = .error e) :
    e.isPlain = true := by
  obtain hplain | ⟨target, hmem⟩ | ⟨image, source, -, hmem⟩ := (course_of_target h).failure_cases
  · exact hplain
  · cases hmem
  · cases hmem

theorem untagged_of_partialImage? {b : Builder σ} (htool : b.host.tool.TagsNothing) {cancel : Cancel} {r : Request}
    {d : Deadline} {t : Time} {w : σ} {e : BuildError} {image : ImageId}
    (he : (b.build cancel r d t w).ending = .failure e) (himage : e.partialImage? = some image) :
    ∃ source, .tag image (r.plan ++ ":" ++ image.text) (some (.error source)) ∈
      (b.host.exchanges cancel d w (b.build cancel r d t w).journal.calls).1 := by
  have hcourse := (build_follows b cancel r d t w).course
  rw [he] at hcourse
  obtain hplain | ⟨target, hmem⟩ | ⟨image', source, rfl, hmem⟩ := hcourse.failure_cases
  · rw [BuildError.partialImage?_of_isPlain hplain] at himage
    cases himage
  · rw [htool.partialImage?_of_mem hmem] at himage
    cases himage
  · cases himage
    exact ⟨source, hmem⟩

/-- **An image is told of exactly if it could not be tagged.** Unless the tool itself fails as if a tag could not
be set, a build fails with an image if and only if the runtime has found this image and the tagging of it has
failed. The failure then holds the tag of the plan and what the runtime has said, and nothing is asked of the
runtime after the tagging. No failure before an image has been found holds one. -/
theorem build_partialImage (b : Builder σ) (htool : b.host.tool.TagsNothing) (cancel : Cancel) (r : Request)
    (d : Deadline) (t : Time) (w : σ) :
    let run := b.build cancel r d t w
    let xs := (b.host.exchanges cancel d w run.journal.calls).1
    (∀ image, (∃ e, run.ending = .failure e ∧ e.partialImage? = some image) ↔
      ∃ reference name source, .imageId reference (some (.ok (some image))) ∈ xs ∧
        .tag image name (some (.error source)) ∈ xs) ∧
    (∀ image name source, .tag image name (some (.error source)) ∈ xs →
      name = r.plan ++ ":" ++ image.text ∧ run.ending = .failure (.tagFailed image name source) ∧
      ∃ reference, [.imageId reference (some (.ok (some image))), .tag image name (some (.error source))] <:+ xs) ∧
    ((∀ reference image, .imageId reference (some (.ok (some image))) ∉ xs) →
      ∀ e, run.ending = .failure e → e.partialImage? = none) := by
  intro run xs
  have hcourse := (build_follows b cancel r d t w).course
  change Course b r xs run.ending at hcourse
  refine ⟨fun image => ⟨?_, ?_⟩, ?_, ?_⟩
  · rintro ⟨e, he, himage⟩
    obtain ⟨source, hmem⟩ := untagged_of_partialImage? htool he himage
    obtain ⟨reference, hfound⟩ := hcourse.found_of_tag_mem hmem
    exact ⟨reference, _, source, hfound, hmem⟩
  · rintro ⟨reference, name, source, -, hmem⟩
    exact ⟨_, hcourse.failure_of_untagged hmem, rfl⟩
  · intro image name source hmem
    obtain ⟨hname, hsuffix⟩ := hcourse.suffix_of_tag_mem hmem
    exact ⟨hname, hcourse.failure_of_untagged hmem, hsuffix⟩
  · intro hnone e he
    by_contra hsome
    obtain ⟨image, himage⟩ := Option.ne_none_iff_exists'.1 hsome
    obtain ⟨source, hmem⟩ := untagged_of_partialImage? htool he himage
    obtain ⟨reference, hfound⟩ := hcourse.found_of_tag_mem hmem
    exact hnone reference image hfound

/-- The image is loaded and found, but no tag can be set. -/
def readOnly : Builder Unit :=
  { ready with host := { ready.host with
      runtime := { ready.host.runtime with tag := fun _ _ _ w => .now w (.error (.unavailable "read-only")) } } }

theorem readOnly_partialImage :
    let run := readOnly.build .never readyRequest none 0 ()
    let xs := (readOnly.host.exchanges .never none () run.journal.calls).1
    readOnly.host.tool.TagsNothing ∧
      run.ending = .failure (.tagFailed ⟨"sha256:1"⟩ "plan:sha256:1" (.unavailable "read-only")) ∧
      ∃ reference, [.imageId reference (some (.ok (some ⟨"sha256:1"⟩))),
        .tag ⟨"sha256:1"⟩ "plan:sha256:1" (some (.error (.unavailable "read-only")))] <:+ xs := by
  intro run xs
  have htool : readOnly.host.tool.TagsNothing := nofun
  have hfailed : run.ending.failure? =
      some (.tagFailed ⟨"sha256:1"⟩ "plan:sha256:1" (.unavailable "read-only")) := by decide +kernel
  have hending := Ending.failure?_eq_some.1 hfailed
  obtain ⟨himage, htold, -⟩ := build_partialImage readOnly htool .never readyRequest none 0 ()
  obtain ⟨reference, name, source, -, hmem⟩ := (himage ⟨"sha256:1"⟩).1 ⟨_, hending, rfl⟩
  obtain ⟨-, hending', hlast⟩ := htold _ _ _ hmem
  cases hending.symm.trans hending'
  exact ⟨htool, hending, hlast⟩

end Builder

end FlakeImage
