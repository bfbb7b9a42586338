import FlakeImage.Proofs.Completion
import FlakeImage.Rehearsal.Stage

/-!
# What the stand-ins record

The tool and the store of a rehearsal keep their records over any number of builds. A `Ledger` says what the records
are after some calls, given those before; ledgers of calls one after the other are put together (`Ledger.append`), be
it in one build or over several. What the calls of a build are in turn follows from its course, once it is known to
come to an end. So the records tell of the builds (`Stage.season_records`).
-/

namespace FlakeImage

/-! ### What is recorded of a call -/

namespace Exchange

/-- The target that is built. -/
def target? : Exchange → Option Target
  | .build target _ => some target
  | _ => none

/-- The archive that has been opened. -/
def opened? : Exchange → Option Archive
  | .openArchive _ (some (.ok archive)) => some archive
  | _ => none

/-- The archive that is given to the runtime. -/
def loaded? : Exchange → Option Archive
  | .load archive _ => some archive
  | _ => none

/-- The archive that is read to its end, and the answer. -/
def reading? : Exchange → Option (Archive × Except RuntimeError Stream)
  | .load archive a => if archive.failure = none then a.map (archive, ·) else none
  | _ => none

/-- The tag that a load gives. -/
def loadedTag? : Exchange → Option String
  | .load _ (some (.ok s)) => s.outcome?.bind Except.toOption
  | _ => none

/-- The reference that is asked for. -/
def query? : Exchange → Option String
  | .imageId reference _ => some reference
  | _ => none

/-- The tag that is set. -/
def tagged? : Exchange → Option (ImageId × String)
  | .tag image name (some (.ok _)) => some (image, name)
  | _ => none

end Exchange

/-! ### The calls of a build that comes to an end -/

section Course
variable {σ : Type} {b : Builder σ} {r : Request} {xs : List Exchange} {path : Path} {left number : Nat}
variable {plan tag : String} {image : ImageId}

/-- Loading an archive builds no target, asks for no image and sets no tag. -/
theorem Attempts.records_eq_nil {e : Ending BuildError String} (h : Attempts path left number xs e) :
    xs.filterMap Exchange.target? = [] ∧ xs.filterMap Exchange.query? = [] ∧ xs.filterMap Exchange.tagged? = [] := by
  have hnone (x : Exchange) (hx : x ∈ xs) : x.target? = none ∧ x.query? = none ∧ x.tagged? = none := by
    have hloading := h.isLoading x hx
    cases x with
    | attempt => exact ⟨rfl, rfl, rfl⟩
    | openArchive => exact ⟨rfl, rfl, rfl⟩
    | load => exact ⟨rfl, rfl, rfl⟩
    | _ => cases hloading
  simp only [List.filterMap_eq_nil_iff]
  exact ⟨fun x hx => (hnone x hx).1, fun x hx => (hnone x hx).2.1, fun x hx => (hnone x hx).2.2⟩

theorem Attempt.loaded_eq_opened {o : Option (Except LoadError String)} (h : Attempt path number xs o) :
    xs.filterMap Exchange.loaded? = xs.filterMap Exchange.opened? := by
  cases h <;> rfl

theorem Attempts.loaded_eq_opened {e : Ending BuildError String} (h : Attempts path left number xs e) :
    xs.filterMap Exchange.loaded? = xs.filterMap Exchange.opened? := by
  induction h with
  | waiting hs => rfl
  | stopped hx hs => exact hx.loaded_eq_opened
  | loaded hx => exact hx.loaded_eq_opened
  | exhausted hx => exact hx.loaded_eq_opened
  | again hx hy ih => rw [List.filterMap_append, List.filterMap_append, hx.loaded_eq_opened, ih]

theorem Attempt.findSome?_loadedTag? {a : Except LoadError String} (h : Attempt path number xs (some a)) :
    xs.findSome? Exchange.loadedTag? = a.toOption := by
  generalize ho : some a = o at h
  cases h with
  | opening => cases ho
  | unreadable e => cases ho; rfl
  | loading archive => cases ho
  | refused archive e => cases ho; rfl
  | reading archive s => cases ho
  | read archive s =>
    simp only [List.findSome?_cons, Exchange.loadedTag?, ← ho, Option.bind_some, List.findSome?_nil]
    cases a <;> rfl

/-- Of attempts that come to an end the last one gives the tag, if there is one. -/
theorem Attempts.findSome?_loadedTag? {e : Ending BuildError String} (h : Attempts path left number xs e)
    (hdone : ¬Stopped e) : xs.findSome? Exchange.loadedTag? = e.value? := by
  induction h with
  | waiting hs => exact absurd hs hdone
  | stopped hx hs => exact absurd hs hdone
  | loaded hx => exact hx.findSome?_loadedTag?
  | exhausted hx => exact hx.findSome?_loadedTag?
  | again hx hy ih => rw [List.findSome?_append, hx.findSome?_loadedTag?, ih hdone]; rfl

theorem Naming.query_eq {e : Ending BuildError ImageId} (h : Naming plan tag xs e) (hdone : ¬Stopped e) :
    xs.filterMap Exchange.query? = [tag] := by
  cases h with
  | waiting hs => exact absurd hs hdone
  | stopped hs => exact absurd hs hdone
  | failed e => rfl
  | unknown => rfl
  | found ht => cases ht <;> rfl

theorem Naming.tagged_eq {e : Ending BuildError ImageId} (h : Naming plan tag xs e) :
    xs.filterMap Exchange.tagged? = (e.value?.map fun image => (image, plan ++ ":" ++ image.text)).toList := by
  have hstopped {e : Ending BuildError ImageId} (hs : Stopped e) : e.value? = none := by cases hs <;> rfl
  cases h with
  | waiting hs => rw [hstopped hs]; rfl
  | stopped hs => rw [hstopped hs]; rfl
  | failed e => rfl
  | unknown => rfl
  | found ht =>
    cases ht with
    | waiting hs => rw [hstopped hs]; rfl
    | stopped hs => rw [hstopped hs]; rfl
    | failed e => rfl
    | tagged => rfl

/-- Naming an image builds no target and loads no archive. -/
theorem Naming.records_eq_nil {e : Ending BuildError ImageId} (h : Naming plan tag xs e) :
    xs.filterMap Exchange.target? = [] ∧ xs.filterMap Exchange.opened? = [] ∧
      xs.filterMap Exchange.loaded? = [] := by
  cases h with
  | found ht => cases ht <;> exact ⟨rfl, rfl, rfl⟩
  | _ => exact ⟨rfl, rfl, rfl⟩

variable {e : Ending BuildError ImageId}

/-- The tool is called exactly if there is a target. -/
theorem Course.targets_eq (h : Course b r xs e) (hdone : ¬Stopped e) :
    xs.filterMap Exchange.target? = (b.target r).toOption.toList := by
  cases h with
  | otherBuilder h => rw [Builder.target, h]; rfl
  | unresolved hc h => simp [Builder.target, hc, h, Except.map, Except.toOption]
  | cancelled h => exact absurd .cancelled hdone
  | building h => exact absurd .dropped hdone
  | unbuilt h e => rw [Builder.target_of_hasTarget h]; rfl
  | loading h hx => exact absurd .dropped hdone
  | unloaded h hx =>
    rw [Builder.target_of_hasTarget h, List.filterMap_cons, hx.records_eq_nil.1]
    rfl
  | loaded h hx hy =>
    rw [Builder.target_of_hasTarget h, List.filterMap_cons, List.filterMap_append, hx.records_eq_nil.1,
      hy.records_eq_nil.1]
    rfl

/-- The image is asked for exactly if a load has given a tag, and by this tag. -/
theorem Course.queries_eq (h : Course b r xs e) (hdone : ¬Stopped e) :
    xs.filterMap Exchange.query? = (xs.findSome? Exchange.loadedTag?).toList := by
  cases h with
  | otherBuilder h => rfl
  | unresolved hc h => rfl
  | cancelled h => rfl
  | building h => rfl
  | unbuilt h e => rfl
  | loading h hx => exact absurd .dropped hdone
  | unloaded h hx =>
    rw [List.filterMap_cons, hx.records_eq_nil.2.1, List.findSome?_cons,
      hx.findSome?_loadedTag? fun hs => hdone hs.of_failure]
    rfl
  | loaded h hx hy =>
    rw [List.filterMap_cons, List.filterMap_append, hx.records_eq_nil.2.1, hy.query_eq hdone,
      List.findSome?_cons, List.findSome?_append, hx.findSome?_loadedTag? nofun]
    rfl

/-- The image that a build gives is tagged, and no other one. -/
theorem Course.tagged_eq (h : Course b r xs e) :
    xs.filterMap Exchange.tagged? = (e.value?.map fun image => (image, r.plan ++ ":" ++ image.text)).toList := by
  cases h with
  | loading h hx => exact hx.records_eq_nil.2.2
  | unloaded h hx => exact hx.records_eq_nil.2.2
  | loaded h hx hy =>
    rw [List.filterMap_cons, List.filterMap_append, hx.records_eq_nil.2.2, hy.tagged_eq]
    rfl
  | _ => rfl

theorem Course.loaded_eq_opened (h : Course b r xs e) :
    xs.filterMap Exchange.loaded? = xs.filterMap Exchange.opened? := by
  cases h with
  | loading h hx => exact hx.loaded_eq_opened
  | unloaded h hx => exact hx.loaded_eq_opened
  | loaded h hx hy =>
    simp only [List.filterMap_cons, List.filterMap_append, Exchange.loaded?, Exchange.opened?]
    rw [hx.loaded_eq_opened, hy.records_eq_nil.2.1, hy.records_eq_nil.2.2]
  | _ => rfl

/-- What is loaded has just been opened. -/
theorem Attempt.opened_before {o : Option (Except LoadError String)} {archive : Archive}
    {a : Option (Except RuntimeError Stream)} {i : Nat} (h : Attempt path number xs o)
    (hi : xs[i]? = some (.load archive a)) :
    ∃ k, i = k + 1 ∧ xs[k]? = some (.openArchive path (some (.ok archive))) := by
  cases h <;> rcases i with _ | _ | _ | i <;> cases hi <;> exact ⟨1, rfl, rfl⟩

theorem Attempts.opened_before {e : Ending BuildError String} {archive : Archive}
    {a : Option (Except RuntimeError Stream)} {i : Nat} (h : Attempts path left number xs e)
    (hi : xs[i]? = some (.load archive a)) :
    ∃ k, i = k + 1 ∧ xs[k]? = some (.openArchive path (some (.ok archive))) := by
  induction h generalizing i with
  | waiting hs => cases hi
  | stopped hx hs => exact hx.opened_before hi
  | loaded hx => exact hx.opened_before hi
  | exhausted hx => exact hx.opened_before hi
  | @again left number xs ys _ _ hx hy ih =>
    -- the first call of an attempt is no load, so that what is opened for one is opened in the same attempt
    by_cases hlt : i < xs.length
    · rw [List.getElem?_append_left hlt] at hi
      obtain ⟨k, rfl, hk⟩ := hx.opened_before hi
      exact ⟨k, rfl, by rw [List.getElem?_append_left (Nat.lt_of_succ_lt hlt), hk]⟩
    · have hle := Nat.not_lt.1 hlt
      rw [List.getElem?_append_right hle] at hi
      obtain ⟨k, hsub, hk⟩ := ih hi
      refine ⟨xs.length + k, by omega, ?_⟩
      rw [List.getElem?_append_right (Nat.le_add_right ..), Nat.add_sub_cancel_left, hk]

/-- What is loaded is what has just been opened at the path that the tool has given. -/
theorem Course.opened_before {archive : Archive} {a : Option (Except RuntimeError Stream)} {i : Nat}
    (h : Course b r xs e) (hi : xs[i]? = some (.load archive a)) :
    ∃ k path target, i = k + 1 ∧ xs[k]? = some (.openArchive path (some (.ok archive))) ∧
      xs[0]? = some (.build target (some (.ok path))) := by
  have hrest {target : Target} {path : Path} {ys : List Exchange} (zs : List Exchange) {left number : Nat}
      {e' : Ending BuildError String} (hys : Attempts path left number ys e') (hzs : .load archive a ∉ zs)
      (hi : (Exchange.build target (some (.ok path)) :: (ys ++ zs))[i]? = some (.load archive a)) :
      ∃ k path' target', i = k + 1 ∧
        (Exchange.build target (some (.ok path)) :: (ys ++ zs))[k]? = some (.openArchive path' (some (.ok archive))) ∧
        (Exchange.build target (some (.ok path)) :: (ys ++ zs))[0]? = some (.build target' (some (.ok path'))) := by
    cases i with
    | zero => cases hi
    | succ i =>
      rw [List.getElem?_cons_succ] at hi
      have hlt : i < ys.length := by
        by_contra hge
        rw [List.getElem?_append_right (Nat.not_lt.1 hge)] at hi
        exact hzs (List.mem_of_getElem? hi)
      rw [List.getElem?_append_left hlt] at hi
      obtain ⟨k, rfl, hk⟩ := hys.opened_before hi
      refine ⟨k + 1, path, target, rfl, ?_, rfl⟩
      rw [List.getElem?_cons_succ, List.getElem?_append_left (Nat.lt_of_succ_lt hlt), hk]
  cases h with
  | otherBuilder h => cases hi
  | unresolved hc h => cases hi
  | cancelled h => cases hi
  | building h => cases i <;> cases hi
  | unbuilt h e => cases i <;> cases hi
  | @loading _ _ _ ys hx =>
    rw [← List.append_nil ys] at hi ⊢
    exact hrest [] hx List.not_mem_nil hi
  | @unloaded _ _ _ ys _ hx =>
    rw [← List.append_nil ys] at hi ⊢
    exact hrest [] hx List.not_mem_nil hi
  | loaded h hx hy => exact hrest _ hx (fun hmem => List.countP_eq_zero.1 hy.countP_load _ hmem rfl) hi

end Course

/-- A call that is cancelled has been made all the same. -/
theorem Reply.racing_world {σ ε α : Type} (stopped : ε) (cancel : Cancel) (now : Time) (r : Reply σ (Except ε α)) :
    (r.racing stopped cancel now).world = r.world := by
  unfold racing
  split
  · rfl
  · split
    · rfl
    · rfl
    · split <;> rfl

namespace Rehearsal

/-! ### The records of the stand-ins -/

/-- What the stand-ins record of calls, and what they answer to loads. -/
structure Ledger (s : Stage) (xs : List Exchange) (after : Stage) : Prop where
  targets : after.tool.targets = s.tool.targets ++ xs.filterMap Exchange.target?
  /-- The archives that are read to their ends take one cue after the other. -/
  answers : ∀ (k : Nat) archive a, (xs.filterMap Exchange.reading?)[k]? = some (archive, a) →
    a = LoadCue.answer s.store.loads[k]?
  loads : after.store.loads = s.store.loads.drop (xs.filterMap Exchange.reading?).length
  loadedSizes : after.store.loadedSizes =
    s.store.loadedSizes ++ (xs.filterMap Exchange.reading?).map (·.1.bytes.length)
  loadCalls : after.store.loadCalls = s.store.loadCalls + (xs.filterMap Exchange.loaded?).length
  idQueries : after.store.idQueries = s.store.idQueries ++ xs.filterMap Exchange.query?
  tags : after.store.tags = s.store.tags ++ xs.filterMap Exchange.tagged?

theorem Tool.respond_world (target : Target) (cancel : Cancel) (t : Time) (tool : Tool) :
    (Tool.respond target cancel t tool).world =
      { manner := Tool.after tool.manner, targets := tool.targets ++ [target] } := by
  unfold Tool.respond
  dsimp only
  split
  · exact Reply.racing_world ..
  · rfl

namespace Store
variable {archive : Archive} {image : ImageId} {name : String} {t : Time} {s : Store}

theorem load_of_unreadable {e : SystemError} (h : archive.failure = some e) :
    load archive t s = .now { s with loadCalls := s.loadCalls + 1 } (.error (.system e)) := by
  simp only [load, h]

theorem tag_of_failure {text : String} (h : s.tagFailure = some text) :
    tag image name t s = .now s (.error (.unavailable text)) := by
  simp only [tag, h]

theorem tag_of_none (h : s.tagFailure = none) :
    tag image name t s = .now { s with tags := s.tags ++ [(image, name)] } (.ok ()) := by
  simp only [tag, h]

end Store

namespace Stage
variable {s : Stage} {t : Time} {v : Store}

theorem exchange_load {archive : Archive} {a : Except RuntimeError Stream}
    (h : Store.load archive t s.store = .now v a) :
    (host .standIn .store).exchange .never none t s (.load archive) =
      (.load archive (some a), { s with store := v }) := by
  have hreply : (host .standIn .store).runtime.load archive t s = .now { s with store := v } a := Part.lift_now h
  simp only [Host.exchange, hreply]
  rfl

theorem exchange_tag {image : ImageId} {name : String} {a : Except RuntimeError Unit}
    (h : Store.tag image name t s.store = .now v a) :
    (host .standIn .store).exchange .never none t s (.tag image name) =
      (.tag image name (some a), { s with store := v }) := by
  have hreply : (host .standIn .store).runtime.tag image name t s = .now { s with store := v } a := Part.lift_now h
  simp only [Host.exchange, hreply]
  rfl

end Stage

namespace Ledger
variable {s v w : Stage} {xs ys : List Exchange}

theorem of_files (htool : v.tool = s.tool) (hstore : v.store = s.store) : Ledger s [] v where
  targets := by simp [htool]
  answers := by simp
  loads := by simp [hstore]
  loadedSizes := by simp [hstore]
  loadCalls := by simp [hstore]
  idQueries := by simp [hstore]
  tags := by simp [hstore]

theorem append (hx : Ledger s xs v) (hy : Ledger v ys w) : Ledger s (xs ++ ys) w where
  targets := by rw [hy.targets, hx.targets, List.filterMap_append, List.append_assoc]
  answers := by
    intro k archive a hk
    rw [List.filterMap_append] at hk
    -- The first calls have taken as many cues as they have read archives; a later reading counts from there.
    by_cases hlt : k < (xs.filterMap Exchange.reading?).length
    · rw [List.getElem?_append_left hlt] at hk
      exact hx.answers k archive a hk
    · rw [List.getElem?_append_right (Nat.not_lt.1 hlt)] at hk
      rw [hy.answers _ archive a hk, hx.loads, List.getElem?_drop, Nat.add_sub_cancel' (Nat.not_lt.1 hlt)]
  loads := by rw [hy.loads, hx.loads, List.drop_drop, List.filterMap_append, List.length_append]
  loadedSizes := by
    rw [hy.loadedSizes, hx.loadedSizes, List.filterMap_append, List.map_append, List.append_assoc]
  loadCalls := by rw [hy.loadCalls, hx.loadCalls, List.filterMap_append, List.length_append, Nat.add_assoc]
  idQueries := by rw [hy.idQueries, hx.idQueries, List.filterMap_append, List.append_assoc]
  tags := by rw [hy.tags, hx.tags, List.filterMap_append, List.append_assoc]

theorem of_single {x : Exchange} (htargets : v.tool.targets = s.tool.targets ++ x.target?.toList)
    (hanswer : ∀ archive a, x.reading? = some (archive, a) → a = LoadCue.answer s.store.loads.head?)
    (hloads : v.store.loads = s.store.loads.drop x.reading?.toList.length)
    (hsizes : v.store.loadedSizes = s.store.loadedSizes ++ x.reading?.toList.map (·.1.bytes.length))
    (hcalls : v.store.loadCalls = s.store.loadCalls + x.loaded?.toList.length)
    (hqueries : v.store.idQueries = s.store.idQueries ++ x.query?.toList)
    (htags : v.store.tags = s.store.tags ++ x.tagged?.toList) : Ledger s [x] v := by
  have hsingle {γ : Type} (f : Exchange → Option γ) : [x].filterMap f = (f x).toList := by
    cases h : f x <;> simp [h]
  refine ⟨?_, ?_, ?_, ?_, ?_, ?_, ?_⟩ <;> simp only [hsingle]
  · exact htargets
  · intro k archive a hk
    cases hx : x.reading? with
    | none => simp [hx] at hk
    | some pair =>
      rw [hx] at hk
      obtain ⟨rfl, hpair⟩ : k = 0 ∧ pair = (archive, a) := by
        simpa [List.getElem?_singleton] using hk
      rw [hanswer archive a (hx.trans (congrArg some hpair)), List.head?_eq_getElem?]
  · exact hloads
  · exact hsizes
  · exact hcalls
  · exact hqueries
  · exact htags

/-- The records of a call that the runtime has no part in, or refuses. -/
theorem of_unstored {x : Exchange} (hloaded : x.loaded? = none) (hquery : x.query? = none) (htagged : x.tagged? = none)
    (hstore : v.store = s.store) (htargets : v.tool.targets = s.tool.targets ++ x.target?.toList) : Ledger s [x] v := by
  have hreading : x.reading? = none := by
    cases x with
    | load archive a => cases hloaded
    | _ => rfl
  refine of_single htargets ?_ ?_ ?_ ?_ ?_ ?_ <;> simp [hreading, hloaded, hquery, htagged, hstore]

/-- One call is recorded as it is answered. -/
theorem exchange (t : Time) (s : Stage) (c : Call) :
    let x := (Stage.host .standIn .store).exchange .never none t s c
    Ledger s [x.1] x.2 := by
  cases c with
  | build target => exact of_unstored rfl rfl rfl rfl (congrArg Tool.targets (Tool.respond_world target .never t s.tool))
  | attempt number => exact of_unstored rfl rfl rfl rfl (List.append_nil _).symm
  | openArchive path => exact of_unstored rfl rfl rfl rfl (List.append_nil _).symm
  | load archive =>
    cases hf : archive.failure with
    | some e =>
      rw [Stage.exchange_load (Store.load_of_unreadable hf)]
      refine of_single ?_ ?_ ?_ ?_ ?_ ?_ ?_ <;>
        simp [Exchange.target?, Exchange.reading?, Exchange.loaded?, Exchange.query?, Exchange.tagged?, hf]
    | none =>
      rw [Stage.exchange_load (Store.load_of_readable hf)]
      refine of_single ?_ ?_ ?_ ?_ ?_ ?_ ?_ <;>
        simp [Exchange.target?, Exchange.reading?, Exchange.loaded?, Exchange.query?, Exchange.tagged?, hf]
  | imageId reference =>
    refine of_single ?_ nofun rfl ?_ rfl rfl ?_ <;> exact (List.append_nil _).symm
  | tag image name =>
    cases hf : s.store.tagFailure with
    | some text =>
      rw [Stage.exchange_tag (Store.tag_of_failure hf)]
      exact of_unstored rfl rfl rfl rfl (List.append_nil _).symm
    | none =>
      rw [Stage.exchange_tag (Store.tag_of_none hf)]
      refine of_single ?_ nofun rfl ?_ rfl ?_ rfl <;> exact (List.append_nil _).symm

theorem exchanges (s : Stage) (cs : List (Time × Call)) :
    let x := (Stage.host .standIn .store).exchanges .never none s cs
    Ledger s x.1 x.2 := by
  induction cs generalizing s with
  | nil => exact of_files rfl rfl
  | cons c rest ih => exact (exchange c.1 s c.2).append (ih _)

end Ledger

/-! ### Builds on a stage -/

/-- The tool answers every build in the same way. -/
def Manner.isFixed : Manner → Bool
  | .succeed _ | .fail _ => true
  | .hang | .scripted _ => false

/-- The stage while a build is carried out: its tool answers, and no file is changed but as laid down. -/
structure Stage.Ready (files : Files) (s : Stage) : Prop where
  manner : s.tool.manner.isFixed = true
  files : s.files = files

theorem outcome?_ofBytes_isSome (bytes : Bytes) : (Stream.ofBytes bytes).outcome?.isSome = true := by
  unfold Stream.outcome? Stream.last?
  split <;> simp_all [Stream.ofBytes]

theorem loadResult_answer_isSome (cue : Option LoadCue) : (loadResult (LoadCue.answer cue)).isSome = true := by
  rcases cue with _ | text | text
  · exact outcome?_ofBytes_isSome []
  · exact outcome?_ofBytes_isSome (Utf8.encode text)
  · rfl

theorem Tool.respond_of_isFixed {target : Target} {cancel : Cancel} {t : Time} {tool : Tool}
    (h : tool.manner.isFixed = true) :
    ∃ a, a ≠ .error .cancelled ∧
      Tool.respond target cancel t tool = .now { tool with targets := tool.targets ++ [target] } a := by
  obtain ⟨manner, targets⟩ := tool
  cases manner with
  | succeed path => exact ⟨.ok path, nofun, rfl⟩
  | fail stderr => exact ⟨.error (.toolFailed (ExitStatus.code 1).text stderr), nofun, rfl⟩
  | hang => cases h
  | scripted cues => cases h

namespace Store

theorem load_now (archive : Archive) (t : Time) (s : Store) :
    ∃ v a, load archive t s = .now v a ∧ (loadResult a).isSome = true := by
  cases hf : archive.failure with
  | some e => exact ⟨_, _, load_of_unreadable hf, rfl⟩
  | none => exact ⟨_, _, load_of_readable hf, loadResult_answer_isSome _⟩

theorem tag_now (image : ImageId) (name : String) (t : Time) (s : Store) :
    ∃ v a, tag image name t s = .now v a ∧ True := by
  cases hf : s.tagFailure with
  | some text => exact ⟨_, _, tag_of_failure hf, trivial⟩
  | none => exact ⟨_, _, tag_of_none hf, trivial⟩

end Store

namespace Stage

theorem responds_store {α : Type} {good : α → Prop} {service : Service Store α}
    (h : ∀ t v, ∃ v' a, service t v = .now v' a ∧ good a) (files : Files) :
    Responds (Ready files) good (Part.lift ⟨Stage.store, fun v s => { s with store := v }⟩ service) := by
  intro t s hs
  obtain ⟨v, a, hnow, ha⟩ := h t s.store
  rw [Part.lift_now hnow]
  exact ⟨⟨hs.manner, hs.files⟩, 0, a, rfl, ha⟩

theorem host_responsive (files : Files) : (host .standIn .store).Responsive (Ready files) where
  build target t s hs := by
    obtain ⟨a, ha, hrespond⟩ := @Tool.respond_of_isFixed target .never t s.tool hs.manner
    have hreply : (host .standIn .store).tool.build target .never t s = .now { s with tool := _ } a :=
      Part.lift_now hrespond
    rw [hreply]
    exact ⟨⟨hs.manner, hs.files⟩, 0, a, rfl, ha⟩
  load archive := responds_store (Store.load_now archive) files
  imageId reference := responds_store (fun _ _ => ⟨_, _, rfl, trivial⟩) files
  tag image name := responds_store (Store.tag_now image name) files

end Stage

/-- A build to be carried out, and the files while it is. -/
structure Commission where
  request : Request
  strategy : LoadStrategy
  hostArch : String
  files : Files

/-- The builder of a commission, on a stage with the stand-ins. -/
def Commission.builder (c : Commission) : Builder Stage := ⟨Stage.host .standIn .store, c.strategy, c.hostArch⟩

/-- A build that has been carried out: the times of its calls, the calls with their answers, and its ending. -/
structure Performance where
  commission : Commission
  times : List Time
  calls : List Exchange
  ending : Ending BuildError ImageId

/-- What is known of a build that has been carried out: its calls are its course, it has not been stopped, what is
opened is the file that is at the path then, and what is loaded is what has just been opened, from its beginning on, at
the path that the tool has given. -/
structure Performance.Complete (p : Performance) : Prop where
  course : Course p.commission.builder p.commission.request p.calls p.ending
  done : ¬Stopped p.ending
  opened : ∀ t path a, (t, .openArchive path a) ∈ p.times.zip p.calls →
    a = some ((p.commission.files.diskAt t).openArchive path)
  loaded : ∀ (i : Nat) archive a, p.calls[i]? = some (.load archive a) →
    ∃ k t path target, i = k + 1 ∧ (p.times.zip p.calls)[k]? = some (t, .openArchive path (some (.ok archive))) ∧
      (p.commission.files.diskAt t).openArchive path = .ok archive ∧
      p.calls[0]? = some (.build target (some (.ok path)))

namespace Stage

def prepared (s : Stage) (c : Commission) : Stage := { s with files := c.files }

/-- One build is carried out. -/
def performance (s : Stage) (c : Commission) : Performance × Stage :=
  let run := c.builder.build .never c.request none 0 (s.prepared c)
  (⟨c, run.journal.calls.map (·.1), (c.builder.host.exchanges .never none (s.prepared c) run.journal.calls).1,
    run.ending⟩, run.world)

/-- Builds are carried out one after the other, with the same tool and the same store. -/
def season (s : Stage) : List Commission → List Performance × Stage
  | [] => ([], s)
  | c :: cs =>
    let x := s.performance c
    let rest := season x.2 cs
    (x.1 :: rest.1, rest.2)

variable {s : Stage}

theorem performance_ledger (s : Stage) (c : Commission) :
    Ledger s (s.performance c).1.calls (s.performance c).2 := by
  have hworld := (Builder.build_follows c.builder .never c.request none 0 (s.prepared c)).world
  have hfiles : Ledger s [] (s.prepared c) := .of_files rfl rfl
  change Ledger s _ (c.builder.build .never c.request none 0 (s.prepared c)).world
  rw [hworld]
  exact hfiles.append (Ledger.exchanges (s.prepared c) _)

theorem performance_complete (c : Commission) (hs : s.tool.manner.isFixed = true) :
    (s.performance c).1.Complete ∧ (s.performance c).2.tool.manner.isFixed = true := by
  have hready : Ready c.files (s.prepared c) := ⟨hs, rfl⟩
  have hcourse := (Builder.build_follows c.builder .never c.request none 0 (s.prepared c)).course
  obtain ⟨hworld, hdone⟩ :=
    Builder.build_completes (b := c.builder) (host_responsive c.files) c.request 0 (s.prepared c) hready
  have hopened (t : Time) (v : Stage) (call : Call) (hv : Ready c.files v) : ∀ path a,
      ((host .standIn .store).exchange .never none t v call).1 = .openArchive path a →
        a = some ((c.files.diskAt t).openArchive path) := by
    intro path a hx
    cases call with
    | openArchive path' =>
      obtain ⟨rfl, rfl⟩ := Exchange.openArchive.inj hx
      rw [← hv.files]
      exact Reply.answer?_none ..
    | _ => cases hx
  have hfiles := (host_responsive c.files).forall_exchanges
    (P := fun t x => ∀ path a, x = .openArchive path a → a = some ((c.files.diskAt t).openArchive path))
    hopened hready (c.builder.build .never c.request none 0 (s.prepared c)).journal.calls
  refine ⟨⟨hcourse, hdone, fun t path a hmem => hfiles _ hmem path a rfl, fun i archive a hi => ?_⟩, hworld.manner⟩
  obtain ⟨k, path, target, rfl, hk, hbuild⟩ := hcourse.opened_before hi
  obtain ⟨t, ht⟩ := Host.exists_time hk
  have hfile := Option.some.inj (hfiles _ (List.mem_of_getElem? ht) path _ rfl)
  exact ⟨k, t, path, target, rfl, ht, hfile.symm, hbuild⟩

theorem season_ledger (s : Stage) (cs : List Commission) :
    Ledger s ((s.season cs).1.flatMap (·.calls)) (s.season cs).2 := by
  induction cs generalizing s with
  | nil => exact .of_files rfl rfl
  | cons c cs ih => exact (s.performance_ledger c).append (ih _)

theorem season_complete (cs : List Commission) (hs : s.tool.manner.isFixed = true) :
    (s.season cs).1.map (·.commission) = cs ∧ ∀ p ∈ (s.season cs).1, p.Complete := by
  induction cs generalizing s with
  | nil => exact ⟨rfl, fun p hp => nomatch hp⟩
  | cons c cs ih =>
    obtain ⟨hcomplete, hfixed⟩ := performance_complete c hs
    obtain ⟨hcommissions, hrest⟩ := ih hfixed
    exact ⟨congrArg (c :: ·) hcommissions, List.forall_mem_cons.2 ⟨hcomplete, hrest⟩⟩

theorem filterMap_calls {γ : Type} {ps : List Performance} {f : Exchange → Option γ} {g : Performance → Option γ}
    (h : ∀ p ∈ ps, p.calls.filterMap f = (g p).toList) :
    (ps.flatMap (·.calls)).filterMap f = ps.filterMap g := by
  induction ps with
  | nil => rfl
  | cons p ps ih =>
    obtain ⟨hp, hps⟩ := List.forall_mem_cons.1 h
    rw [List.flatMap_cons, List.filterMap_append, hp, ih hps]
    cases hg : g p <;> simp [hg]

theorem loaded_eq_opened {ps : List Performance} (h : ∀ p ∈ ps, p.Complete) :
    (ps.flatMap (·.calls)).filterMap Exchange.loaded? = (ps.flatMap (·.calls)).filterMap Exchange.opened? := by
  induction ps with
  | nil => rfl
  | cons p ps ih =>
    obtain ⟨hp, hps⟩ := List.forall_mem_cons.1 h
    rw [List.flatMap_cons, List.filterMap_append, List.filterMap_append, hp.course.loaded_eq_opened, ih hps]

/-- **What the records say of any number of builds**, carried out one after the other with a tool that gives a path or
fails, each with the files that there are then. The archives that are read to their ends take one cue of the script
after the other, and get empty responses when there is none left; an archive that cannot be read takes none, and what
cannot be opened is not loaded at all. The sizes recorded are those of the archives read, each of which is the file as
it is opened for that attempt. A target is recorded for each build that has one, the tag loaded for each build whose
load has succeeded, and the image with the tag of the plan for each build with a result. -/
theorem season_records (s : Stage) (cs : List Commission) (hs : s.tool.manner.isFixed = true) :
    let ps := (s.season cs).1
    let after := (s.season cs).2
    let calls := ps.flatMap (·.calls)
    let read := calls.filterMap Exchange.reading?
    (ps.map (·.commission) = cs ∧ ∀ p ∈ ps, p.Complete) ∧
    ((∀ (k : Nat) archive a, read[k]? = some (archive, a) → a = LoadCue.answer s.store.loads[k]?) ∧
      after.store.loads = s.store.loads.drop read.length ∧
      after.store.loadedSizes = s.store.loadedSizes ++ read.map (·.1.bytes.length)) ∧
    (calls.filterMap Exchange.loaded? = calls.filterMap Exchange.opened? ∧
      after.store.loadCalls = s.store.loadCalls + (calls.filterMap Exchange.opened?).length) ∧
    after.tool.targets = s.tool.targets ++
      ps.filterMap (fun p => (p.commission.builder.target p.commission.request).toOption) ∧
    after.store.idQueries = s.store.idQueries ++ ps.filterMap (fun p => p.calls.findSome? Exchange.loadedTag?) ∧
    after.store.tags = s.store.tags ++
      ps.filterMap (fun p => p.ending.value?.map fun image =>
        (image, p.commission.request.plan ++ ":" ++ image.text)) := by
  intro ps after calls read
  have hledger : Ledger s calls after := season_ledger s cs
  obtain ⟨hcommissions, hcomplete⟩ := season_complete cs hs
  have hopened : calls.filterMap Exchange.loaded? = calls.filterMap Exchange.opened? := loaded_eq_opened hcomplete
  refine ⟨⟨hcommissions, hcomplete⟩, ⟨hledger.answers, hledger.loads, hledger.loadedSizes⟩, ⟨hopened, ?_⟩, ?_, ?_, ?_⟩
  · rw [hledger.loadCalls, hopened]
  · rw [hledger.targets, filterMap_calls fun p hp => (hcomplete p hp).course.targets_eq (hcomplete p hp).done]
  · rw [hledger.idQueries, filterMap_calls fun p hp => (hcomplete p hp).course.queries_eq (hcomplete p hp).done]
  · rw [hledger.tags, filterMap_calls fun p hp => (hcomplete p hp).course.tagged_eq]

/-- Two builds: the first one loads its archive with the second attempt, the second one finds the script used up. -/
def busyStart : Stage where
  files := { disk := ⟨[], []⟩ }
  tool := { manner := .succeed ⟨[97]⟩ }
  store := { loads := [.fail "busy", .respond "Loaded image: a:b"], images := [("a:b", ⟨"sha256:1"⟩)] }

def twoBuilds : List Commission :=
  let files : Files := { disk := ⟨[], [(⟨false, [[97]]⟩, .file [1, 2, 3])]⟩ }
  let strategy : LoadStrategy := .retry 2 0
  [⟨⟨"x", ⟨[]⟩, .image {}⟩, strategy, "x86_64", files⟩, ⟨⟨"y", ⟨[]⟩, .image {}⟩, strategy, "x86_64", files⟩]

theorem twoBuilds_records :
    busyStart.tool.manner.isFixed = true ∧
      (busyStart.season twoBuilds).2.store.tags = [(⟨"sha256:1"⟩, "x:sha256:1")] := by
  have hfixed : busyStart.tool.manner.isFixed = true := rfl
  obtain ⟨-, -, -, -, -, htags⟩ := season_records busyStart twoBuilds hfixed
  refine ⟨hfixed, htags.trans ?_⟩
  decide +kernel

end Stage

end Rehearsal

end FlakeImage
