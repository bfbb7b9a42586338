import Mathlib
import FlakeImage.Timeline.Work

/-!
# Runs of composed work

How the run of `x >>= f` is made of the runs of `x` and of `f a` (`bind_value`, `bind_failure`,
`bind_unfinished`), and what the views of a journal make of appended journals. Work is a lawful monad.
-/

namespace FlakeImage

namespace Journal

@[simp] theorem calls_nil : calls [] = [] := rfl

@[simp] theorem calls_append (i j : Journal) : calls (i ++ j) = calls i ++ calls j :=
  List.filterMap_append ..

@[simp] theorem transcript_nil : transcript [] = [] := rfl

@[simp] theorem transcript_append (i j : Journal) : transcript (i ++ j) = transcript i ++ transcript j :=
  List.filterMap_append ..

@[simp] theorem calls_notes (t : Time) (notes : List Note) :
    calls (notes.map fun n => ⟨t, .note n⟩) = [] := by
  simp [calls, Event.call?]

@[simp] theorem transcript_notes (t : Time) (notes : List Note) :
    transcript (notes.map fun n => ⟨t, .note n⟩) = [] := by
  simp [transcript, Event.report?]

@[simp] theorem calls_cons_call (t : Time) (c : Call) (j : Journal) :
    calls (⟨t, .call c⟩ :: j) = (t, c) :: calls j := rfl

@[simp] theorem calls_cons_report (t : Time) (r : Report) (j : Journal) :
    calls (⟨t, .report r⟩ :: j) = calls j := rfl

@[simp] theorem transcript_cons_call (t : Time) (c : Call) (j : Journal) :
    transcript (⟨t, .call c⟩ :: j) = transcript j := rfl

@[simp] theorem transcript_cons_report (t : Time) (r : Report) (j : Journal) :
    transcript (⟨t, .report r⟩ :: j) = r :: transcript j := rfl

theorem time_of_mem_calls {j : Journal} {call : Time × Call} (h : call ∈ calls j) :
    ∃ x ∈ j, x.time = call.1 := by
  obtain ⟨x, hx, hcall⟩ := List.mem_filterMap.1 h
  obtain ⟨c, -, rfl⟩ := Option.map_eq_some_iff.1 hcall
  exact ⟨x, hx, rfl⟩

end Journal

namespace Transcript

@[simp] theorem lines_append (s t : Transcript) : lines (s ++ t) = lines s ++ lines t :=
  List.filterMap_append ..

@[simp] theorem output_append (s t : Transcript) : output (s ++ t) = output s ++ output t :=
  List.filterMap_append ..

end Transcript

namespace Ending
variable {ε α : Type}

/-- The ending with a result or a failure; without one the work is not finished. -/
def of? : Option (Except ε α) → Ending ε α
  | some (.ok a) => .value a
  | some (.error e) => .failure e
  | none => .unfinished

section Of
variable {o : Option (Except ε α)}

theorem of?_eq_value {a : α} : of? o = .value a ↔ o = some (.ok a) := by
  rcases o with _ | ⟨e | b⟩ <;> simp [of?]

theorem of?_eq_failure {e : ε} : of? o = .failure e ↔ o = some (.error e) := by
  rcases o with _ | ⟨e' | b⟩ <;> simp [of?]

theorem of?_eq_unfinished : of? o = .unfinished ↔ o = none := by
  rcases o with _ | ⟨e | b⟩ <;> simp [of?]

end Of

/-- The ending with its failure seen through `f`. -/
def mapError {ε' : Type} (f : ε → ε') : Ending ε α → Ending ε' α
  | .value a => .value a
  | .failure e => .failure (f e)
  | .unfinished => .unfinished

/-- The result, if there is one. -/
def value? : Ending ε α → Option α
  | .value a => some a
  | _ => none

theorem value?_eq_some {a : α} {ending : Ending ε α} : ending.value? = some a ↔ ending = .value a := by
  cases ending <;> simp [value?]

/-- The failure, if there is one. -/
def failure? : Ending ε α → Option ε
  | .failure e => some e
  | _ => none

theorem failure?_eq_some {e : ε} {ending : Ending ε α} : ending.failure? = some e ↔ ending = .failure e := by
  cases ending <;> simp [failure?]

/-- The ending with its failure as a result. -/
def caught {ε' : Type} : Ending ε α → Ending ε' (Except ε α)
  | .value a => .value (.ok a)
  | .failure e => .value (.error e)
  | .unfinished => .unfinished

end Ending

namespace Deadline

@[simp] theorem passed_none (t : Time) : passed none t = false := rfl

@[simp] theorem passed_some (c t : Time) : passed (some c) t = decide (c ≤ t) := rfl

end Deadline

namespace Reply
variable {σ α : Type}

/-- What a call made at `now` answers before the deadline. -/
def answer? (r : Reply σ α) (deadline : Deadline) (now : Time) : Option α :=
  match r.outcome with
  | none => none
  | some (ms, a) => if r.misses deadline now ms then none else some a

theorem answer?_eq_some_iff {r : Reply σ α} {deadline : Deadline} {now : Time} {a : α} :
    r.answer? deadline now = some a ↔ ∃ ms, r.outcome = some (ms, a) ∧ r.misses deadline now ms = false := by
  unfold answer?
  rcases r.outcome with _ | ⟨ms, b⟩
  · simp
  · cases hd : r.misses deadline now ms <;> simp [hd]

theorem answer?_map {β : Type} (f : α → β) (r : Reply σ α) (deadline : Deadline) (now : Time) :
    (r.map f).answer? deadline now = (r.answer? deadline now).map f := by
  have hmisses (ms : Nat) : (r.map f).misses deadline now ms = r.misses deadline now ms := rfl
  simp only [answer?, hmisses]
  rcases ho : r.outcome with _ | ⟨ms, a⟩
  · simp [map, ho]
  · cases hd : r.misses deadline now ms <;> simp [map, ho, hd]

theorem misses_none (r : Reply σ α) (now : Time) (ms : Nat) : r.misses none now ms = false := by
  simp [misses]

theorem answer?_none (r : Reply σ α) (now : Time) : r.answer? none now = r.outcome.map (·.2) := by
  rcases h : r.outcome with _ | ⟨ms, a⟩ <;> simp [answer?, h, misses_none]

theorem le_of_misses {r : Reply σ α} {T now : Time} {ms : Nat} (h : r.misses (some T) now ms = true) :
    T ≤ now + ms :=
  of_decide_eq_true (Bool.and_eq_true_iff.1 h).2

theorem lt_of_not_misses {r : Reply σ α} {T now : Time} {ms : Nat} (hnow : now < T)
    (h : r.misses (some T) now ms = false) : now + ms < T := by
  rcases Bool.and_eq_false_iff.1 h with hms | hT
  · obtain ⟨-, hms⟩ := Bool.or_eq_false_iff.1 hms
    obtain rfl : ms = 0 := Nat.eq_zero_of_not_pos (of_decide_eq_false hms)
    exact hnow
  · exact Nat.lt_of_not_le (of_decide_eq_false hT)

end Reply

namespace Work
variable {σ ε ε' α β γ : Type} {x : Work σ ε α} {f : α → Work σ ε β}
variable {d : Deadline} {now : Time} {w : σ}

theorem bind_eq : x >>= f = Work.bind x f := rfl

theorem bind_value {a : α} (h : (x d now w).ending = .value a) :
    (x >>= f) d now w =
      ⟨(f a d (x d now w).time (x d now w).world).ending, (f a d (x d now w).time (x d now w).world).time,
        (f a d (x d now w).time (x d now w).world).world,
        (x d now w).journal ++ (f a d (x d now w).time (x d now w).world).journal⟩ := by
  simp only [bind_eq, Work.bind, h]

theorem bind_failure {e : ε} (h : (x d now w).ending = .failure e) :
    (x >>= f) d now w = ⟨.failure e, (x d now w).time, (x d now w).world, (x d now w).journal⟩ := by
  simp only [bind_eq, Work.bind, h]

theorem bind_unfinished (h : (x d now w).ending = .unfinished) :
    (x >>= f) d now w = ⟨.unfinished, (x d now w).time, (x d now w).world, (x d now w).journal⟩ := by
  simp only [bind_eq, Work.bind, h]

/-- What has happened before more work stays so. -/
theorem journal_prefix_bind (x : Work σ ε α) (f : α → Work σ ε β) :
    (x d now w).journal <+: ((x >>= f) d now w).journal := by
  cases h : (x d now w).ending with
  | value a => rw [bind_value h]; exact List.prefix_append ..
  | failure e => rw [bind_failure h]
  | unfinished => rw [bind_unfinished h]

theorem happen_bind (e : Event) (f : Unit → Work σ ε β) :
    (happen e >>= f) d now w = { f () d now w with journal := ⟨now, e⟩ :: (f () d now w).journal } := rfl

section Request
variable {c : Call} {service : Service σ (Except ε α)}

/-- The journal of a call that begins: the call and what it notes down. -/
def opening (c : Call) (now : Time) (r : Reply σ (Except ε α)) : Journal :=
  ⟨now, .call c⟩ :: r.notes.map (⟨now, .note ·⟩)

@[simp] theorem calls_opening (c : Call) (r : Reply σ (Except ε α)) :
    (opening c now r).calls = [(now, c)] := by
  simp [opening]

@[simp] theorem transcript_opening (c : Call) (r : Reply σ (Except ε α)) :
    (opening c now r).transcript = [] := by
  simp [opening]

theorem time_of_mem_opening {r : Reply σ (Except ε α)} {x : Entry} (h : x ∈ opening c now r) :
    x.time = now := by
  simp only [opening, List.mem_cons, List.mem_map] at h
  rcases h with rfl | ⟨n, -, rfl⟩ <;> rfl

theorem request_silent (h : (service now w).outcome = none) :
    request c service d now w = dropped d now (service now w).world (opening c now (service now w)) := by
  simp only [request, h]
  rfl

theorem request_missed {ms : Nat} {a : Except ε α} (h : (service now w).outcome = some (ms, a))
    (hm : (service now w).misses d now ms = true) :
    request c service d now w = dropped d now (service now w).world (opening c now (service now w)) := by
  simp only [request, h, hm, if_true]
  rfl

theorem request_answered {ms : Nat} {a : Except ε α} (h : (service now w).outcome = some (ms, a))
    (hm : (service now w).misses d now ms = false) :
    request c service d now w =
      ⟨.of? (some a), now + ms, (service now w).world, opening c now (service now w)⟩ := by
  simp only [request, h, hm]
  cases a <;> rfl

/-- A call is answered in time or dropped. -/
theorem request_cases (c : Call) (service : Service σ (Except ε α)) (d : Deadline) (now : Time) (w : σ) :
    (∃ ms a, (service now w).outcome = some (ms, a) ∧ (service now w).misses d now ms = false ∧
      request c service d now w =
        ⟨.of? (some a), now + ms, (service now w).world, opening c now (service now w)⟩) ∨
    ((service now w).answer? d now = none ∧
      request c service d now w = dropped d now (service now w).world (opening c now (service now w))) := by
  cases ho : (service now w).outcome with
  | none => exact .inr ⟨by simp [Reply.answer?, ho], request_silent ho⟩
  | some o =>
    obtain ⟨ms, a⟩ := o
    cases hm : (service now w).misses d now ms with
    | true => exact .inr ⟨by simp [Reply.answer?, ho, hm], request_missed ho hm⟩
    | false => exact .inl ⟨ms, a, rfl, hm, request_answered ho hm⟩

theorem request_world : (request c service d now w).world = (service now w).world := by
  rcases request_cases c service d now w with ⟨ms, a, -, -, h⟩ | ⟨-, h⟩
  · rw [h]
  · rw [h]; rfl

theorem request_journal : (request c service d now w).journal = opening c now (service now w) := by
  rcases request_cases c service d now w with ⟨ms, a, -, -, h⟩ | ⟨-, h⟩
  · rw [h]
  · rw [h]; rfl

theorem request_calls : (request c service d now w).journal.calls = [(now, c)] := by
  rw [request_journal, calls_opening]

theorem request_ending : (request c service d now w).ending = .of? ((service now w).answer? d now) := by
  rcases request_cases c service d now w with ⟨ms, a, ho, hm, h⟩ | ⟨ha, h⟩ <;> rw [h]
  · simp [Reply.answer?, ho, hm]
  · rw [ha]; rfl

end Request

section MapError
variable (g : ε → ε')

theorem mapError_run : (x.mapError g) d now w =
    ⟨(x d now w).ending.mapError g, (x d now w).time, (x d now w).world, (x d now w).journal⟩ := by
  unfold mapError
  cases h : (x d now w).ending <;> simp [h, Ending.mapError]

end MapError

section Guard
variable {cancel : Cancel} {e : Ending ε α} {t : Time} {v : σ} {j : Journal}

theorem guard_noticed (h : cancel.noticed now = true) :
    guard cancel x d now w = ⟨.failure .cancelled, now, w, []⟩ := by
  simp only [guard, h, if_true]

/-- Work that comes to an end is not disturbed. -/
theorem guard_done (hn : cancel.noticed now = false) (h : x (cancel.deadline.earlier d) now w = ⟨e, t, v, j⟩)
    (he : e ≠ .unfinished) : guard cancel x d now w = ⟨e.caught, t, v, j⟩ := by
  cases e with
  | unfinished => exact absurd rfl he
  | _ => simp only [guard, hn, h, Bool.false_eq_true, if_false, Ending.caught]

/-- Work that is dropped because of something else than a cancellation stays so. -/
theorem guard_dropped (hn : cancel.noticed now = false)
    (h : x (cancel.deadline.earlier d) now w = ⟨.unfinished, t, v, j⟩)
    (hc : ∀ c, cancel.deadline = some c → d.passed c = true) :
    guard cancel x d now w = ⟨.unfinished, t, v, j⟩ := by
  cases hd : cancel.deadline with
  | none => rw [hd] at h; simp only [guard, hn, hd, h, Bool.false_eq_true, if_false]
  | some c => rw [hd] at h; simp only [guard, hn, hd, h, hc c hd, Bool.false_eq_true, if_false, if_true]

theorem guard_never : guard .never x none now w =
    ⟨(x none now w).ending.caught, (x none now w).time, (x none now w).world, (x none now w).journal⟩ := by
  rcases h : x none now w with ⟨_ | _ | _, t, v, j⟩
  · exact guard_done rfl h nofun
  · exact guard_done rfl h nofun
  · exact guard_dropped rfl h nofun

theorem guard_cancelled {c : Time} (hn : cancel.noticed now = false)
    (h : x (cancel.deadline.earlier d) now w = ⟨.unfinished, t, v, j⟩) (hc : cancel.deadline = some c)
    (hp : d.passed c = false) : guard cancel x d now w = ⟨.failure .cancelled, c, v, j⟩ := by
  rw [hc] at h
  simp only [guard, hn, hc, h, hp, Bool.false_eq_true, if_false]

end Guard

theorem onFailure_run {g : ε → Option Event} : x.onFailure g d now w =
    ⟨(x d now w).ending, (x d now w).time, (x d now w).world,
      (x d now w).journal ++ ((x d now w).ending.failure?.bind g).toList.map (⟨(x d now w).time, ·⟩)⟩ := by
  rcases hr : x d now w with ⟨e, t, v, j⟩
  cases e <;> simp [onFailure, hr, Ending.failure?]

theorem calls_onFailure {g : ε → Option Event} (hg : ∀ e ev, g e = some ev → ev.call? = none) :
    (x.onFailure g d now w).journal.calls = (x d now w).journal.calls := by
  have hnone : Journal.calls
      (((x d now w).ending.failure?.bind g).toList.map (⟨(x d now w).time, ·⟩)) = [] := by
    cases hev : (x d now w).ending.failure?.bind g with
    | none => rfl
    | some ev =>
      obtain ⟨e, -, he⟩ := Option.bind_eq_some_iff.1 hev
      simp [Journal.calls, hg e ev he]
  rw [onFailure_run, Journal.calls_append, hnone, List.append_nil]

instance : LawfulMonad (Work σ ε) := by
  refine LawfulMonad.mk' _ (fun x => ?_) (fun a f => rfl) (fun x f g => ?_)
  · funext d now w
    change Work.bind x (fun a => Work.pure a) d now w = x d now w
    rcases h : x d now w with ⟨_ | _ | _, t, v, j⟩ <;> simp [Work.bind, h, Work.pure]
  · funext d now w
    change Work.bind (Work.bind x f) g d now w = Work.bind x (fun a => Work.bind (f a) g) d now w
    rcases h : x d now w with ⟨a | e | _, t, v, j⟩
    · rcases h' : f a d t v with ⟨_ | _ | _, t', v', j'⟩ <;> simp [Work.bind, h, h']
    · simp [Work.bind, h]
    · simp [Work.bind, h]

end Work

end FlakeImage
