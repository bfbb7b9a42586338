import FlakeImage.Build.Builder
import FlakeImage.Proofs.Response

/-!
# What is asked and what is answered

A journal holds the calls of a run, but not what the world answered. `Host.exchanges` asks the world again,
with the calls that the run has made and when it made them. `Follows` says of a run that the world it leaves
is the one after these exchanges, and that the exchanges and the ending of the run go together. There is one
rule for each way in which work is put together.
-/

namespace FlakeImage

/-- A call and its answer; there is none if the caller stopped waiting before. -/
inductive Exchange
  | build (target : Target) (answer : Option (Except BuildError Path))
  | attempt (number : Nat)
  | openArchive (path : Path) (answer : Option (Except SystemError Archive))
  | load (archive : Archive) (answer : Option (Except RuntimeError Stream))
  | imageId (reference : String) (answer : Option (Except RuntimeError (Option ImageId)))
  | tag (image : ImageId) (tag : String) (answer : Option (Except RuntimeError Unit))

def Exchange.call : Exchange → Call
  | .build target _ => .build target
  | .attempt number => .attempt number
  | .openArchive path _ => .openArchive path
  | .load archive _ => .load archive
  | .imageId reference _ => .imageId reference
  | .tag image name _ => .tag image name

namespace Host
variable {σ : Type}

/-- What the world answers to a call, and the world after it. All calls but those of the tool are dropped at a
cancellation; the tool itself is told of it. -/
def exchange (h : Host σ) (cancel : Cancel) (d : Deadline) (t : Time) (w : σ) : Call → Exchange × σ
  | .build target =>
    let reply := h.tool.build target cancel t w
    (.build target (reply.answer? d t), reply.world)
  | .attempt number => (.attempt number, w)
  | .openArchive path =>
    let reply := { Reply.now w (h.openFile path t w) with isAwaited := true }
    (.openArchive path (reply.answer? (cancel.deadline.earlier d) t), reply.world)
  | .load archive =>
    let reply := h.runtime.load archive t w
    (.load archive (reply.answer? (cancel.deadline.earlier d) t), reply.world)
  | .imageId reference =>
    let reply := h.runtime.imageId reference t w
    (.imageId reference (reply.answer? (cancel.deadline.earlier d) t), reply.world)
  | .tag image tag =>
    let reply := h.runtime.tag image tag t w
    (.tag image tag (reply.answer? (cancel.deadline.earlier d) t), reply.world)

/-- What the world answers to calls made one after the other, and the world after them. -/
def exchanges (h : Host σ) (cancel : Cancel) (d : Deadline) (w : σ) : List (Time × Call) → List Exchange × σ
  | [] => ([], w)
  | (t, c) :: rest =>
    let x := h.exchange cancel d t w c
    let xs := h.exchanges cancel d x.2 rest
    (x.1 :: xs.1, xs.2)

theorem map_call_exchanges (h : Host σ) (cancel : Cancel) (d : Deadline) (w : σ) (cs : List (Time × Call)) :
    (h.exchanges cancel d w cs).1.map Exchange.call = cs.map (·.2) := by
  induction cs generalizing w with
  | nil => rfl
  | cons c rest ih =>
    obtain ⟨t, c⟩ := c
    have hcall : (h.exchange cancel d t w c).1.call = c := by cases c <;> rfl
    simp only [exchanges, List.map_cons, ih, hcall]

/-- Every exchange has its time. -/
theorem exists_time {h : Host σ} {cancel : Cancel} {d : Deadline} {w : σ} {cs : List (Time × Call)} {k : Nat}
    {x : Exchange} (hx : (h.exchanges cancel d w cs).1[k]? = some x) :
    ∃ t, ((cs.map (·.1)).zip (h.exchanges cancel d w cs).1)[k]? = some (t, x) := by
  have hlength : (h.exchanges cancel d w cs).1.length = (cs.map (·.1)).length := by
    have hmap := congrArg List.length (h.map_call_exchanges cancel d w cs)
    simpa using hmap
  have hlt : k < (cs.map (·.1)).length := hlength ▸ (List.getElem?_eq_some_iff.1 hx).1
  exact ⟨_, List.getElem?_zip_eq_some.2 ⟨List.getElem?_eq_getElem hlt, hx⟩⟩

theorem exchanges_append (h : Host σ) (cancel : Cancel) (d : Deadline) (w : σ)
    (cs more : List (Time × Call)) :
    h.exchanges cancel d w (cs ++ more) =
      ((h.exchanges cancel d w cs).1 ++ (h.exchanges cancel d (h.exchanges cancel d w cs).2 more).1,
        (h.exchanges cancel d (h.exchanges cancel d w cs).2 more).2) := by
  induction cs generalizing w with
  | nil => rfl
  | cons c rest ih => simp only [List.cons_append, exchanges, ih]

/-- Of the calls `cs`, that of `x` is made at `t`, in the world `v` that the calls before it have left; it gets the
answer of `x`. -/
def Asked (h : Host σ) (cancel : Cancel) (d : Deadline) (w : σ) (cs : List (Time × Call)) (x : Exchange) (t : Time)
    (v : σ) : Prop :=
  ∃ before after, cs = before ++ (t, x.call) :: after ∧ v = (h.exchanges cancel d w before).2 ∧
    x = (h.exchange cancel d t v x.call).1

theorem exists_asked_of_mem {h : Host σ} {cancel : Cancel} {d : Deadline} {w : σ} {cs : List (Time × Call)}
    {x : Exchange} (hx : x ∈ (h.exchanges cancel d w cs).1) : ∃ t v, h.Asked cancel d w cs x t v := by
  induction cs generalizing w with
  | nil => cases hx
  | cons c rest ih =>
    obtain ⟨t, c⟩ := c
    simp only [exchanges, List.mem_cons] at hx
    rcases hx with rfl | hx
    · have hcall : (h.exchange cancel d t w c).1.call = c := by cases c <;> rfl
      exact ⟨t, w, [], rest, by rw [hcall]; rfl, rfl, by rw [hcall]⟩
    · obtain ⟨t', v, before, after, rfl, rfl, hasked⟩ := ih hx
      exact ⟨t', _, (t, c) :: before, after, rfl, rfl, hasked⟩

end Host

/-- The world after a run is the one after its calls; `P` holds of the calls with their answers and of the
ending. -/
structure Follows {σ ε α : Type} (h : Host σ) (cancel : Cancel) (d : Deadline) (w : σ)
    (P : List Exchange → Ending ε α → Prop) (run : Run σ ε α) : Prop where
  world : run.world = (h.exchanges cancel d w run.journal.calls).2
  course : P (h.exchanges cancel d w run.journal.calls).1 run.ending

namespace Follows
variable {σ ε ε' α β : Type} {h : Host σ} {cancel : Cancel} {d d' : Deadline} {t : Time} {w : σ}
variable {P : List Exchange → Ending ε α → Prop} {Q : List Exchange → Ending ε β → Prop}

theorem mono {P' : List Exchange → Ending ε α → Prop} {run : Run σ ε α} (hx : Follows h cancel d w P run)
    (hP : ∀ xs e, P xs e → P' xs e) : Follows h cancel d w P' run :=
  ⟨hx.world, hP _ _ hx.course⟩

theorem quiet {run : Run σ ε α} (hw : run.world = w) (hc : run.journal.calls = []) (hP : P [] run.ending) :
    Follows h cancel d w P run := by
  refine ⟨?_, ?_⟩ <;> rw [hc]
  · exact hw
  · exact hP

theorem bind {x : Work σ ε α} {f : α → Work σ ε β} (hx : Follows h cancel d w P (x d' t w))
    (hvalue : ∀ xs a, P xs (.value a) →
      ∀ t w, Follows h cancel d w (fun ys e => Q (xs ++ ys) e) (f a d' t w))
    (hfailure : ∀ xs e, P xs (.failure e) → Q xs (.failure e))
    (hunfinished : ∀ xs, P xs .unfinished → Q xs .unfinished) :
    Follows h cancel d w Q ((x >>= f) d' t w) := by
  obtain ⟨hworld, hcourse⟩ := hx
  cases he : (x d' t w).ending with
  | value a =>
    rw [he] at hcourse
    have hf := hvalue _ a hcourse (x d' t w).time (x d' t w).world
    rw [Work.bind_value he]
    refine ⟨?_, ?_⟩ <;> simp only [Journal.calls_append, Host.exchanges_append]
    · rw [← hworld]; exact hf.world
    · rw [← hworld]; exact hf.course
  | failure e =>
    rw [Work.bind_failure he]
    exact ⟨hworld, hfailure _ e (he ▸ hcourse)⟩
  | unfinished =>
    rw [Work.bind_unfinished he]
    exact ⟨hworld, hunfinished _ (he ▸ hcourse)⟩

theorem happen_bind {e : Event} {f : Unit → Work σ ε α} (he : e.call? = none)
    (hf : Follows h cancel d w P (f () d' t w)) :
    Follows h cancel d w P ((Work.happen e >>= f) d' t w) := by
  have hcalls : Journal.calls (⟨t, e⟩ :: (f () d' t w).journal) = (f () d' t w).journal.calls := by
    simp [Journal.calls, he]
  rw [Work.happen_bind]
  exact ⟨hcalls ▸ hf.world, hcalls ▸ hf.course⟩

theorem time_bind {f : Time → Work σ ε α} (hf : Follows h cancel d w P (f t d' t w)) :
    Follows h cancel d w P ((Work.time >>= f) d' t w) := hf

theorem attempt_bind {number : Nat} {f : Unit → Work σ ε α}
    (hf : Follows h cancel d w (fun xs e => P (.attempt number :: xs) e) (f () d' t w)) :
    Follows h cancel d w P ((Work.happen (.call (.attempt number)) >>= f) d' t w) := by
  rw [Work.happen_bind]
  exact ⟨hf.world, hf.course⟩

/-- Work that is not begun once it is known to be cancelled. -/
theorem check_bind {f : Unit → Work σ BuildError α} {P : List Exchange → Ending BuildError α → Prop}
    (hstop : P [] (.failure .cancelled))
    (hf : cancel.noticed t = false → Follows h cancel d w P (f () d' t w)) :
    Follows h cancel d w P ((Work.check cancel >>= f) d' t w) := by
  cases hn : cancel.noticed t with
  | true =>
    rw [Work.bind_failure (e := .cancelled) (by simp [Work.check, hn])]
    exact quiet (by simp [Work.check, hn]) (by simp [Work.check, hn]) hstop
  | false =>
    rw [Work.bind_value (a := ()) (by simp [Work.check, hn])]
    simpa [Work.check, hn] using hf hn

/-- A call, and the answer with which it ends. -/
theorem request {c : Call} {service : Service σ (Except ε α)} {mk : Option (Except ε α) → Exchange}
    (hx : ∀ t w, h.exchange cancel d t w c = (mk ((service t w).answer? d' t), (service t w).world)) :
    Follows h cancel d w (fun xs e => ∃ a, xs = [mk a] ∧ e = .of? a) (Work.request c service d' t w) := by
  have hcalls : (Work.request c service d' t w).journal.calls = [(t, c)] := Work.request_calls
  refine ⟨?_, ?_⟩ <;> rw [hcalls] <;> simp only [Host.exchanges, hx]
  · exact Work.request_world
  · exact ⟨_, rfl, Work.request_ending⟩

theorem mapError {g : ε → ε'} {x : Work σ ε α} (hx : Follows h cancel d w P (x d' t w)) :
    Follows h cancel d w (fun xs e => ∃ e', P xs e' ∧ e = e'.mapError g) (x.mapError g d' t w) := by
  rw [Work.mapError_run]
  exact ⟨hx.world, _, hx.course, rfl⟩

theorem guard {x : Work σ ε α} {R : List Exchange → Ending BuildError (Except ε α) → Prop}
    (hx : Follows h cancel d w P (x (cancel.deadline.earlier d) t w))
    (hnoticed : cancel.noticed t = true → R [] (.failure .cancelled))
    (hvalue : ∀ xs a, P xs (.value a) → R xs (.value (.ok a)))
    (hfailure : ∀ xs e, P xs (.failure e) → R xs (.value (.error e)))
    (hstop : ∀ xs, P xs .unfinished → R xs .unfinished ∧ R xs (.failure .cancelled)) :
    Follows h cancel d w R (Work.guard cancel x d t w) := by
  obtain ⟨hworld, hcourse⟩ := hx
  cases hn : cancel.noticed t with
  | true => rw [Work.guard_noticed hn]; exact quiet rfl rfl (hnoticed hn)
  | false =>
    rcases hr : x (cancel.deadline.earlier d) t w with ⟨a | e | _, t', v, j⟩ <;> rw [hr] at hworld hcourse
    · rw [Work.guard_done hn hr nofun]; exact ⟨hworld, hvalue _ a hcourse⟩
    · rw [Work.guard_done hn hr nofun]; exact ⟨hworld, hfailure _ e hcourse⟩
    · obtain ⟨hunfinished, hcancelled⟩ := hstop _ hcourse
      by_cases hc : ∀ c, cancel.deadline = some c → d.passed c = true
      · rw [Work.guard_dropped hn hr hc]; exact ⟨hworld, hunfinished⟩
      · obtain ⟨c, hc⟩ := Classical.not_forall.1 hc
        obtain ⟨hc, hp⟩ := Classical.not_imp.1 hc
        rw [Work.guard_cancelled hn hr hc (Bool.eq_false_iff.2 hp)]
        exact ⟨hworld, hcancelled⟩

/-- The event at the end of work that fails is no call. -/
theorem onFailure {x : Work σ ε α} {f : ε → Option Event} (hf : ∀ e ev, f e = some ev → ev.call? = none)
    (hx : Follows h cancel d w P (x d' t w)) : Follows h cancel d w P (x.onFailure f d' t w) := by
  have hcalls : (x.onFailure f d' t w).journal.calls = (x d' t w).journal.calls := Work.calls_onFailure hf
  refine ⟨?_, ?_⟩ <;> rw [hcalls, Work.onFailure_run]
  · exact hx.world
  · exact hx.course

end Follows

end FlakeImage
