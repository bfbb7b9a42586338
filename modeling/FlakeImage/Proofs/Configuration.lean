import FlakeImage.Proofs.Truncation
import FlakeImage.Proofs.Course
import FlakeImage.Proofs.Frame

/-!
# For whom a configuration is

`ImageConfig.Describes` says which configuration the members of an object describe, and decoding finds exactly this
one (`decode_object_eq_ok_iff`). The member `builder` tells for whom it is, but only as a text: an object in which
it is another text is for another builder, with all its members as they are, while one in which it is no text at
all is read as if it had none (`build_described_iff`).
-/

namespace FlakeImage

open Json

/-- What the value of a flag says, which may be missing. -/
inductive FlagOf : Option Value → Bool → Prop
  | missing : FlagOf none false
  | flag (b : Bool) : FlagOf (some (.bool b)) b

/-- What the value of a text says, which may be missing or null. -/
inductive TextOf : Option Value → Option String → Prop
  | missing : TextOf none none
  | null : TextOf (some .null) none
  | text (s : String) : TextOf (some (.string s)) (some s)

namespace ImageConfig
variable {members : Members} {name : String} {c : ImageConfig}

/-- The members describe the configuration; there may be others, of any shape. -/
structure Describes (members : Members) (c : ImageConfig) : Prop where
  enabled : FlagOf (Members.get? members "enabled") c.enabled
  name : TextOf (Members.get? members "name") c.name
  system : TextOf (Members.get? members "system") c.system

/-- What is decoded from a part that may be missing. -/
def optional {α : Type} (d : Decoder α) : Option Value → Except String (Option α)
  | none => .ok none
  | some v => (d v).map some

theorem optional_bool_iff {o : Option Value} {b : Bool} :
    (∃ a, optional Decoder.bool o = .ok a ∧ a.getD false = b) ↔ FlagOf o b := by
  cases o with
  | none =>
    constructor
    · rintro ⟨a, ha, rfl⟩
      obtain rfl := Except.ok.inj ha
      exact .missing
    · rintro ⟨⟩
      exact ⟨none, rfl, rfl⟩
  | some v =>
    constructor
    · rintro ⟨a, ha, rfl⟩
      cases v with
      | bool b => obtain rfl := Except.ok.inj ha; exact .flag b
      | _ => cases ha
    · rintro (_ | b)
      exact ⟨some b, rfl, rfl⟩

theorem optional_text_iff {o : Option Value} {s : Option String} :
    (∃ a, optional Decoder.text? o = .ok a ∧ a.getD none = s) ↔ TextOf o s := by
  cases o with
  | none =>
    constructor
    · rintro ⟨a, ha, rfl⟩
      obtain rfl := Except.ok.inj ha
      exact .missing
    · rintro ⟨⟩
      exact ⟨none, rfl, rfl⟩
  | some v =>
    constructor
    · rintro ⟨a, ha, rfl⟩
      cases v with
      | null => obtain rfl := Except.ok.inj ha; exact .null
      | string s => obtain rfl := Except.ok.inj ha; exact .text s
      | _ => cases ha
    · rintro (_ | _ | s)
      · exact ⟨some none, rfl, rfl⟩
      · exact ⟨some (some s), rfl, rfl⟩

/-- The three parts of a configuration, decoded one after the other, with what is checked at the end. -/
theorem parts_eq_ok_iff {enabled name system : Option Value} {x : Except String Unit} :
    (do
      let e ← optional Decoder.bool enabled
      let n ← optional Decoder.text? name
      let s ← optional Decoder.text? system
      let _ ← x
      .ok (ofFields e n s)) = .ok c ↔
      FlagOf enabled c.enabled ∧ TextOf name c.name ∧ TextOf system c.system ∧ x = .ok () := by
  simp only [bind_eq_ok_iff]
  constructor
  · rintro ⟨e, he, n, hn, s, hs, u, hcheck, h⟩
    obtain rfl := Except.ok.inj h
    exact ⟨optional_bool_iff.1 ⟨e, he, rfl⟩, optional_text_iff.1 ⟨n, hn, rfl⟩, optional_text_iff.1 ⟨s, hs, rfl⟩,
      hcheck⟩
  · rintro ⟨he, hn, hs, hcheck⟩
    obtain ⟨e, he, hce⟩ := optional_bool_iff.2 he
    obtain ⟨n, hn, hcn⟩ := optional_text_iff.2 hn
    obtain ⟨s, hs, hcs⟩ := optional_text_iff.2 hs
    refine ⟨e, he, n, hn, s, hs, (), hcheck, ?_⟩
    rw [ofFields, hce, hcn, hcs]

/-- **An object is decoded as what it describes.** -/
theorem decode_object_eq_ok_iff : decode (.object members) = .ok c ↔ Describes members c := by
  refine (parts_eq_ok_iff (x := .ok ())).trans ?_
  constructor
  · rintro ⟨he, hn, hs, -⟩
    exact ⟨he, hn, hs⟩
  · rintro ⟨he, hn, hs⟩
    exact ⟨he, hn, hs, rfl⟩

end ImageConfig

namespace BuildConfig
variable {v : Value}

theorem ofValue_of_text {builder : String} (h : v.get? "builder" = some (.string builder))
    (hother : builder ≠ builderId) : ofValue v = .ok (.other builder v) := by
  simp [ofValue, h, Value.text?, hother]

theorem ofValue_of_no_text (h : ∀ builder, v.get? "builder" ≠ some (.string builder)) :
    ofValue v = (lift (ImageConfig.decode v)).map .image := by
  have hnone : (v.get? "builder").bind Value.text? = none := by
    cases hget : v.get? "builder" with
    | none => rfl
    | some b =>
      cases b with
      | string s => exact absurd hget (h s)
      | _ => rfl
  rw [ofValue, hnone]

theorem map_lift_eq_ok_iff {x : Except String ImageConfig} {config : BuildConfig} :
    (lift x).map .image = .ok config ↔ ∃ c, x = .ok c ∧ config = .image c := by
  cases x with
  | error e => simp [lift, Except.map]
  | ok c => simp [lift, Except.map, eq_comm]

/-- An object that names its builder, but not this one, is for another builder or what it describes. -/
theorem ofValue_object_eq_ok_iff {members : Members} {addressee : Value} {config : BuildConfig}
    (hname : Members.get? members "builder" = some addressee) (hother : addressee ≠ .string builderId) :
    ofValue (.object members) = .ok config ↔
      (∃ name, addressee = .string name ∧ config = .other name (.object members)) ∨
        (∀ name, addressee ≠ .string name) ∧ ∃ c, ImageConfig.Describes members c ∧ config = .image c := by
  have hget : (Value.object members).get? "builder" = some addressee := hname
  by_cases htext : ∃ name, addressee = .string name
  · obtain ⟨name, rfl⟩ := htext
    rw [ofValue_of_text hget fun h => hother (h ▸ rfl)]
    constructor
    · intro h
      exact .inl ⟨name, rfl, (Except.ok.inj h).symm⟩
    · rintro (⟨name', hname', rfl⟩ | ⟨hno, -⟩)
      · obtain rfl := Value.string.inj hname'
        rfl
      · exact absurd rfl (hno name)
  · have hno : ∀ name, addressee ≠ .string name := fun name h => htext ⟨name, h⟩
    rw [ofValue_of_no_text fun name h => hno name (Option.some.inj (hget.symm.trans h)), map_lift_eq_ok_iff]
    simp only [ImageConfig.decode_object_eq_ok_iff]
    constructor
    · intro h
      exact .inr ⟨hno, h⟩
    · rintro (h | ⟨-, h⟩)
      · obtain ⟨name, hname', -⟩ := h
        exact absurd hname' (hno name)
      · exact h

end BuildConfig

namespace Builder
variable {σ : Type} {b : Builder σ} {r : Request} {cancel : Cancel} {d : Deadline} {t : Time} {w : σ}

theorem calls_build_eq_run : (b.build cancel r d t w).journal.calls = (b.run cancel r d t w).journal.calls := by
  rw [Builder.build]
  exact Work.calls_onFailure fun e ev hev => by obtain rfl := Option.some.inj hev; rfl

/-- A build that knows that it is cancelled calls nothing. -/
theorem calls_of_noticed (hn : cancel.noticed t = true) : (b.build cancel r d t w).journal.calls = [] := by
  have hcheck : (Work.check cancel : Work σ BuildError Unit) d t w = ⟨.failure .cancelled, t, w, []⟩ := by
    simp [Work.check, hn]
  rw [calls_build_eq_run]
  unfold Builder.run
  cases b.target r with
  | error e => rfl
  | ok target =>
    change ((Work.check cancel >>= fun _ => _) d t w).journal.calls = []
    rw [Work.bind_failure (congrArg Run.ending hcheck), hcheck]
    rfl

/-- Any other one begins with the tool if it has a target. -/
theorem calls_of_target {target : Target} (h : b.target r = .ok target) (hn : cancel.noticed t = false) :
    [(t, Call.build target)] <+: (b.build cancel r d t w).journal.calls := by
  have hcheck : (Work.check cancel : Work σ BuildError Unit) d t w = ⟨.value (), t, w, []⟩ := by
    simp [Work.check, hn]
  have htool : ((b.host.build cancel target).onFailure toolReport d t w).journal.calls =
      [(t, .build target)] := by
    rw [Work.calls_onFailure, Host.build, Work.request_calls]
    intro e ev hev
    cases e with
    | toolFailed status stderr => obtain rfl := Option.some.inj hev; rfl
    | _ => cases hev
  rw [calls_build_eq_run]
  unfold Builder.run
  rw [h]
  change [_] <+: ((Work.check cancel >>= fun _ => _) d t w).journal.calls
  rw [Work.bind_value (congrArg Run.ending hcheck), hcheck, ← htool]
  exact (Work.journal_prefix_bind _ _).filterMap _

/-- The tool is called exactly if there is a target and the build goes on to it. -/
theorem exists_build_mem_calls :
    (∃ s target, (s, Call.build target) ∈ (b.build cancel r d t w).journal.calls) ↔
      cancel.noticed t = false ∧ ∃ target, b.target r = .ok target := by
  constructor
  · rintro ⟨s, target, hmem⟩
    cases hn : cancel.noticed t with
    | true => rw [calls_of_noticed hn] at hmem; cases hmem
    | false =>
      cases htarget : b.target r with
      | error e => rw [build_of_target_error htarget] at hmem; cases hmem
      | ok target => exact ⟨rfl, target, rfl⟩
  · rintro ⟨hn, target, htarget⟩
    exact ⟨t, target, (calls_of_target htarget hn).subset List.mem_cons_self⟩

theorem target_of_image {plan : String} {source : Path} {c : ImageConfig} :
    (∃ target, b.target ⟨plan, source, .image c⟩ = .ok target) ↔ ∃ rc, c.resolve plan b.hostArch = .ok rc := by
  simp only [Builder.target]
  cases c.resolve plan b.hostArch with
  | error e => simp [Except.map]
  | ok rc => simp [Except.map]

/-- **Which configurations for others are built.** Let an object name its builder, but not this one. If it does so
by a text, it is decoded as a configuration for that builder, with all its members as they are; a build of it fails
and calls nothing. But what is no text does not count as a name: then the object is decoded as a configuration for
this builder if it describes one, and a build of it calls the tool unless it is cancelled or there is no system. -/
theorem build_described_iff {members : Members} {addressee : Value}
    (hname : Members.get? members "builder" = some addressee) (hother : addressee ≠ .string builderId)
    (b : Builder σ) (cancel : Cancel) (plan : String) (source : Path) (d : Deadline) (t : Time) (w : σ) :
    (∀ name, addressee = .string name →
      BuildConfig.ofValue (.object members) = .ok (.other name (.object members)) ∧
        (b.build cancel ⟨plan, source, .other name (.object members)⟩ d t w).ending =
          .failure (.otherBuilder name) ∧
        (b.build cancel ⟨plan, source, .other name (.object members)⟩ d t w).journal.calls = []) ∧
    (∀ c, BuildConfig.ofValue (.object members) = .ok (.image c) ↔
      (∀ name, addressee ≠ .string name) ∧ ImageConfig.Describes members c) ∧
    ((∃ config, BuildConfig.ofValue (.object members) = .ok config ∧
        ∃ s target, (s, Call.build target) ∈ (b.build cancel ⟨plan, source, config⟩ d t w).journal.calls) ↔
      (∀ name, addressee ≠ .string name) ∧ cancel.noticed t = false ∧
        ∃ c rc, ImageConfig.Describes members c ∧ c.resolve plan b.hostArch = .ok rc) := by
  have hvalue (config : BuildConfig) := @BuildConfig.ofValue_object_eq_ok_iff _ _ config hname hother
  have hrefused (name : String) := build_of_target_error (b := b) (e := .otherBuilder name)
    (r := ⟨plan, source, .other name (.object members)⟩) rfl cancel d t w
  refine ⟨fun name ha => ⟨(hvalue _).2 (.inl ⟨name, ha, rfl⟩), ?_, ?_⟩, fun c => ?_, ?_⟩
  · rw [hrefused]
  · rw [hrefused]; rfl
  · rw [hvalue]
    constructor
    · rintro (⟨name, -, h⟩ | ⟨hno, c', hc', h⟩)
      · cases h
      · obtain rfl := BuildConfig.image.inj h
        exact ⟨hno, hc'⟩
    · rintro ⟨hno, hc⟩
      exact .inr ⟨hno, c, hc, rfl⟩
  · constructor
    · rintro ⟨config, hconfig, hcalled⟩
      rcases (hvalue _).1 hconfig with ⟨name, -, rfl⟩ | ⟨hno, c, hc, rfl⟩
      · rw [hrefused] at hcalled
        obtain ⟨s, target, hmem⟩ := hcalled
        cases hmem
      · obtain ⟨hn, htarget⟩ := exists_build_mem_calls.1 hcalled
        obtain ⟨rc, hrc⟩ := target_of_image.1 htarget
        exact ⟨hno, hn, c, rc, hc, hrc⟩
    · rintro ⟨hno, hn, c, rc, hc, hrc⟩
      exact ⟨.image c, (hvalue _).2 (.inr ⟨hno, c, hc, rfl⟩),
        exists_build_mem_calls.2 ⟨hn, target_of_image.2 ⟨rc, hrc⟩⟩⟩

/-- The builder is a number. -/
def numbered : Members := [("builder", .ofNat 5)]

theorem numbered_reaches_tool :
    ∃ config, BuildConfig.ofValue (.object numbered) = .ok config ∧
      ∃ s target, (s, Call.build target) ∈
        (stuck.build .never ⟨"plan", ⟨[]⟩, config⟩ none 0 stuckTool).journal.calls := by
  have hname : Members.get? numbered "builder" = some (.ofNat 5) := rfl
  have hother : Value.ofNat 5 ≠ .string builderId := nofun
  have hdescribed : ImageConfig.Describes numbered {} := ⟨.missing, .missing, .missing⟩
  obtain ⟨-, -, hcalled⟩ := build_described_iff hname hother stuck .never "plan" ⟨[]⟩ none 0 stuckTool
  exact hcalled.2 ⟨nofun, rfl, {}, ⟨"plan-image", "x86_64-linux"⟩, hdescribed, rfl⟩

/-- That it is for another builder is missed. -/
theorem numbered_builder_is_missed :
    BuildConfig.ofValue (.object numbered) = .ok (.image {}) ∧
      (stuck.build .never ⟨"plan", ⟨[]⟩, .image {}⟩ none 0 stuckTool).journal.calls.head? =
        some (0, .build ⟨⟨[]⟩, "x86_64-linux", "plan-image"⟩) :=
  ⟨rfl, rfl⟩

end Builder

end FlakeImage
