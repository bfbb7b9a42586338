import FlakeImage.Proofs.Configuration
import FlakeImage.Proofs.ExitCode
import FlakeImage.Proofs.Utf8

/-!
# From the configuration to the target

The configuration of a build comes in three layers: the file, the flags, and what is built in. `Flagged` says what the
flags make of the configuration in the file, and `Settled` what is built where a name or a system is left open. A file
is taken by the program exactly if a caller of the builder could use it, and what is then built is settled by the three
layers together (`loadConfig_layers`).
-/

namespace FlakeImage

variable {σ : Type}

/-! ### What is left open -/

/-- Not set, or set to nothing. -/
def Unset (o : Option String) : Prop := o = none ∨ o = some ""

/-- What is set, or else what is usual. -/
inductive Settled (o : Option String) (usual : String → Prop) : String → Prop
  | given {s : String} (h : o = some s) (hne : s ≠ "") : Settled o usual s
  | usual {s : String} (h : Unset o) (hs : usual s) : Settled o usual s

theorem nonempty?_eq_some_iff {o : Option String} {s : String} : nonempty? o = some s ↔ o = some s ∧ s ≠ "" := by
  unfold nonempty?
  rw [Option.filter_eq_some_iff]
  simp

theorem nonempty?_eq_none_iff {o : Option String} : nonempty? o = none ↔ Unset o := by
  unfold nonempty? Unset
  cases o with
  | none => simp
  | some s => simp [Option.filter_eq_none_iff]

theorem settled_iff {o : Option String} {usual : String → Prop} {s : String} :
    Settled o usual s ↔ nonempty? o = some s ∨ nonempty? o = none ∧ usual s := by
  rw [nonempty?_eq_some_iff, nonempty?_eq_none_iff]
  constructor
  · rintro (⟨h, hne⟩ | ⟨h, hs⟩)
    · exact .inl ⟨h, hne⟩
    · exact .inr ⟨h, hs⟩
  · rintro (⟨h, hne⟩ | ⟨h, hs⟩)
    · exact .given h hne
    · exact .usual h hs

theorem lookup_systemTable {hostArch s : String} :
    systemTable.lookup hostArch = some s ↔ (hostArch, s) ∈ systemTable := by
  unfold systemTable
  by_cases harm : hostArch = "aarch64"
  · simp [harm, eq_comm]
  · have harm' : (hostArch == "aarch64") = false := beq_eq_false_iff_ne.2 harm
    by_cases hx86 : hostArch = "x86_64"
    · simp [hx86, List.lookup_cons, eq_comm]
    · have hx86' : (hostArch == "x86_64") = false := beq_eq_false_iff_ne.2 hx86
      simp [List.lookup_cons, harm, hx86, harm', hx86']

theorem resolveSystem_eq_ok_iff {asked : Option String} {hostArch s : String} :
    resolveSystem asked hostArch = .ok s ↔ Settled asked (fun s => (hostArch, s) ∈ systemTable) s := by
  rw [settled_iff, ← lookup_systemTable]
  unfold resolveSystem
  cases nonempty? asked with
  | some system => simp
  | none =>
    cases systemTable.lookup hostArch with
    | some system => simp
    | none => simp

namespace ImageConfig
variable {c c' : ImageConfig} {plan hostArch : String}

theorem resolve_eq_ok_iff {rc : ResolvedConfig} :
    c.resolve plan hostArch = .ok rc ↔
      Settled c.name (fun s => s = defaultImageName plan) rc.name ∧
        Settled c.system (fun s => (hostArch, s) ∈ systemTable) rc.system := by
  rw [← resolveSystem_eq_ok_iff, settled_iff]
  unfold resolve
  obtain ⟨name, system⟩ := rc
  cases resolveSystem c.system hostArch with
  | error e => simp
  | ok s =>
    cases nonempty? c.name with
    | none => simp [eq_comm]
    | some n => simp

/-- The configurations ask for the same. Whether they are enabled does not count. -/
structure AsksFor (c c' : ImageConfig) : Prop where
  name : c.name = c'.name ∨ Unset c.name ∧ Unset c'.name
  system : c.system = c'.system ∨ Unset c.system ∧ Unset c'.system

theorem nonempty?_congr {o o' : Option String} (h : o = o' ∨ Unset o ∧ Unset o') : nonempty? o = nonempty? o' := by
  rcases h with rfl | ⟨ho, ho'⟩
  · rfl
  · rw [nonempty?_eq_none_iff.2 ho, nonempty?_eq_none_iff.2 ho']

theorem AsksFor.resolve_eq (h : AsksFor c c') : c.resolve plan hostArch = c'.resolve plan hostArch := by
  have hsystem : resolveSystem c.system hostArch = resolveSystem c'.system hostArch := by
    unfold resolveSystem
    rw [nonempty?_congr h.system]
  unfold resolve
  rw [hsystem, nonempty?_congr h.name]

/-- The configuration with what flags say. -/
def flagged (c : ImageConfig) (name system : Option String) : ImageConfig :=
  { c with name := name.or c.name, system := system.or c.system }

theorem AsksFor.flagged (h : AsksFor c c') (name system : Option String) :
    AsksFor (c.flagged name system) (c'.flagged name system) := by
  constructor
  · cases name with
    | none => exact h.name
    | some s => exact .inl rfl
  · cases system with
    | none => exact h.system
    | some s => exact .inl rfl

end ImageConfig

/-! ### The target that is built -/

namespace Builder
variable {b : Builder σ} {r : Request} {cancel : Cancel} {d : Deadline} {t : Time} {w : σ} {target : Target}

theorem hasTarget_of_mem_calls {s : Time} (h : (s, Call.build target) ∈ (b.build cancel r d t w).journal.calls) :
    r.HasTarget b.hostArch target := by
  have hcourse := (build_follows b cancel r d t w).course
  have hcall : Call.build target ∈
      (b.host.exchanges cancel d w (b.build cancel r d t w).journal.calls).1.map Exchange.call := by
    rw [Host.map_call_exchanges]
    exact List.mem_map_of_mem h
  obtain ⟨x, hx, hcall⟩ := List.mem_map.1 hcall
  cases x with
  | build target' a =>
    obtain rfl := Call.build.inj hcall
    exact (hcourse.of_build_mem hx).1
  | _ => cases hcall

/-- A build calls the tool for its target and for no other. -/
theorem build_mem_calls_iff :
    (∃ s, (s, Call.build target) ∈ (b.build cancel r d t w).journal.calls) ↔
      cancel.noticed t = false ∧ r.HasTarget b.hostArch target := by
  constructor
  · rintro ⟨s, hmem⟩
    exact ⟨(exists_build_mem_calls.1 ⟨s, target, hmem⟩).1, hasTarget_of_mem_calls hmem⟩
  · rintro ⟨hn, htarget⟩
    exact ⟨t, (calls_of_target (target_of_hasTarget htarget) hn).subset List.mem_cons_self⟩

variable {plan : String} {source : Path} {c c' : ImageConfig}

theorem hasTarget_image_iff : (Request.mk plan source (.image c)).HasTarget b.hostArch target ↔
    target.source = source ∧ Settled c.name (fun s => s = defaultImageName plan) target.name ∧
      Settled c.system (fun s => (b.hostArch, s) ∈ systemTable) target.system := by
  constructor
  · rintro ⟨c', rc, hc, hrc, rfl⟩
    obtain rfl := BuildConfig.image.inj hc
    exact ⟨rfl, ImageConfig.resolve_eq_ok_iff.1 hrc⟩
  · rintro ⟨rfl, hsettled⟩
    exact ⟨c, ⟨target.name, target.system⟩, rfl, ImageConfig.resolve_eq_ok_iff.2 hsettled, rfl⟩

theorem target_eq_error_of_unsettled (h : ∀ s, ¬ Settled c.system (fun s => (b.hostArch, s) ∈ systemTable) s) :
    b.target ⟨plan, source, .image c⟩ = .error (.unsupportedArchitecture b.hostArch) := by
  have hsystem : resolveSystem c.system b.hostArch = .error (.unsupportedArchitecture b.hostArch) := by
    cases hs : resolveSystem c.system b.hostArch with
    | ok s => exact absurd (resolveSystem_eq_ok_iff.1 hs) (h s)
    | error e => rw [resolveSystem_eq_error hs]
  exact congrArg (Except.map _) (ImageConfig.resolve_eq_error_iff.2 hsystem)

/-- A build depends on the configuration only through what it asks for. -/
theorem build_congr (h : ImageConfig.AsksFor c c') :
    b.build cancel ⟨plan, source, .image c⟩ = b.build cancel ⟨plan, source, .image c'⟩ := by
  have htarget : b.target ⟨plan, source, .image c⟩ = b.target ⟨plan, source, .image c'⟩ := by
    simp only [Builder.target, h.resolve_eq]
  unfold Builder.build Builder.run
  rw [htarget]

end Builder

namespace CommandLine
variable {read : FileReader} {path : Path} {name system : Option String} {before config : BuildConfig}

/-- What flags make of a configuration. One for this builder has to be enabled, and one for another stays as it is. -/
inductive Flagged (name system : Option String) : BuildConfig → BuildConfig → Prop
  | image {c : ImageConfig} (h : c.enabled = true) : Flagged name system (.image c) (.image (c.flagged name system))
  | other {builder : String} {settings : Json.Value} :
    Flagged name system (.other builder settings) (.other builder settings)

theorem overridden_eq_ok_iff : overridden name system before = .ok config ↔ Flagged name system before config := by
  constructor
  · intro h
    cases before with
    | image c =>
      cases henabled : c.enabled with
      | false => simp [overridden, henabled] at h
      | true =>
        simp only [overridden, henabled, if_true, Except.ok.injEq] at h
        obtain rfl := h
        rw [← henabled]
        exact .image henabled
    | other builder settings =>
      obtain rfl := Except.ok.inj h
      exact .other
  · rintro (henabled | _)
    · simp [overridden, henabled, ImageConfig.flagged]
    · rfl

theorem loadConfig_eq_ok_iff : loadConfig read (some path) name system = .ok config ↔
    ∃ before, BuildConfig.ofFile (read path) = .ok before ∧ Flagged name system before config := by
  have hload : loadConfig read (some path) name system = .ok config ↔
      ∃ before, fileConfig read path = .ok before ∧ overridden name system before = .ok config := by
    dsimp only [loadConfig]
    cases fileConfig read path with
    | error e => simp
    | ok before => simp
  simp only [hload, fileConfig_eq_ok_iff, overridden_eq_ok_iff]

/-- **What is built from a file with flags.** The program takes a file with flags exactly if it describes a
configuration to a caller of the builder, for another builder or an enabled one; only the latter is changed by the
flags. From a configuration the tool is asked for one target, with the name and the system that are set and not
empty, or else with the name of the plan and the system of the processor. If there is no system the build fails and
calls nothing. It makes no difference whether a name or a system is missing or empty, before the flags or after
them, or whether a configuration is enabled once it is loaded. -/
theorem loadConfig_layers (read : FileReader) (path : Path) (name system : Option String) (b : Builder σ)
    (cancel : Cancel) (plan : String) (source : Path) (d : Deadline) (t : Time) (w : σ) :
    (∀ config, loadConfig read (some path) name system = .ok config ↔
      ∃ before, BuildConfig.ofFile (read path) = .ok before ∧ Flagged name system before config) ∧
    (∀ c target,
      (∃ s, (s, Call.build target) ∈ (b.build cancel ⟨plan, source, .image c⟩ d t w).journal.calls) ↔
        cancel.noticed t = false ∧ target.source = source ∧
          Settled c.name (fun s => s = plan ++ "-image") target.name ∧
          Settled c.system (fun s => (b.hostArch, s) ∈ systemTable) target.system) ∧
    (∀ c, (∀ s, ¬ Settled c.system (fun s => (b.hostArch, s) ∈ systemTable) s) →
      let run := b.build cancel ⟨plan, source, .image c⟩ d t w
      run.ending = .failure (.unsupportedArchitecture b.hostArch) ∧ run.journal.calls = []) ∧
    ∀ c c', ImageConfig.AsksFor c c' →
      b.build cancel ⟨plan, source, .image c⟩ = b.build cancel ⟨plan, source, .image c'⟩ ∧
        b.build cancel ⟨plan, source, .image (c.flagged name system)⟩ =
          b.build cancel ⟨plan, source, .image (c'.flagged name system)⟩ := by
  refine ⟨fun config => loadConfig_eq_ok_iff, fun c target => ?_, fun c hnone => ?_, fun c c' h => ?_⟩
  · rw [Builder.build_mem_calls_iff, Builder.hasTarget_image_iff]
    rfl
  · have htarget : b.target ⟨plan, source, .image c⟩ = .error (.unsupportedArchitecture b.hostArch) :=
      Builder.target_eq_error_of_unsettled hnone
    rw [Builder.build_of_target_error htarget]
    exact ⟨rfl, rfl⟩
  · exact ⟨Builder.build_congr h, Builder.build_congr (h.flagged name system)⟩

/-- A file with an empty system. -/
def emptySystem : String := "\x7b\"enabled\":true,\"system\":\"\"\x7d"

/-- A tool on a processor that is not in the table. -/
def exotic : Builder Rehearsal.Tool := { Builder.stuck with hostArch := "s390x" }

theorem emptySystem_exotic :
    let read : FileReader := fun _ => .ok (Utf8.encode emptySystem)
    let request (c : ImageConfig) : Request := ⟨"plan", ⟨[]⟩, .image c⟩
    loadConfig read (some ⟨[]⟩) (some "n") none = .ok (.image ⟨true, some "n", some ""⟩) ∧
      (exotic.build .never (request ⟨true, some "n", some ""⟩) none 0 Builder.stuckTool).ending =
        .failure (.unsupportedArchitecture "s390x") ∧
      exotic.build .never (request ⟨true, some "n", some ""⟩) = exotic.build .never (request ⟨false, some "n", none⟩) := by
  intro read request
  have hread : Json.Tree.readStrict (Utf8.Piece.ofText emptySystem.toList) =
      .ok (.object [(some "enabled", .bool true), (some "system", .string (some ""))]) := by cbv
  have hsorted : Json.Members.ofList [("enabled", .bool true), ("system", .string "")] =
      [("enabled", .bool true), ("system", .string "")] := by
    have hlt : ¬ "system" < "enabled" := by decide +kernel
    simp [Json.Members.ofList, Json.Members.insert, hlt]
  have hparse : BuildConfig.parse (Utf8.encode emptySystem) =
      .ok (.object [("enabled", .bool true), ("system", .string "")]) := by
    simp [BuildConfig.parse, Json.Value.ofBytes, Json.Value.read, Utf8.pieces_encode, hread, bind, Except.bind,
      Json.Tree.value?, Json.Tree.members?, hsorted]
  have hfile : BuildConfig.ofFile (read ⟨[]⟩) = .ok (.image ⟨true, none, some ""⟩) := by
    simp only [BuildConfig.ofFile, read, hparse]
    refine BuildConfig.ofValue_of_no_text fun builder hbuilder => ?_
    cases hbuilder
  obtain ⟨hload, -, hnone, hsame⟩ :=
    loadConfig_layers read ⟨[]⟩ (some "n") none exotic .never "plan" ⟨[]⟩ none 0 Builder.stuckTool
  have hunset : Unset (some "") ∧ Unset none := ⟨.inr rfl, .inl rfl⟩
  refine ⟨(hload _).2 ⟨_, hfile, .image rfl⟩, (hnone _ fun s hs => ?_).1, ?_⟩
  · cases hs with
    | given h hne => exact hne (Option.some.inj h).symm
    | usual h hs => simp [exotic, systemTable] at hs
  · exact (hsame ⟨true, some "n", some ""⟩ ⟨false, some "n", none⟩ ⟨.inl rfl, .inr hunset⟩).1

end CommandLine

end FlakeImage
