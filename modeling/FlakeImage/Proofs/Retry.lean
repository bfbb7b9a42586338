import FlakeImage.Load.Retry
import FlakeImage.Proofs.Work

/-!
# The course of repeated attempts

A strategy comes to a `Policy`: so many attempts, a pause before the first and one between two. A `Try` is a call of
the attempt function; the next one is made after the pause, in the world that this one leaves. Attempts that are not
cancelled are these tries, one after the other (`attempts_after`), up to the first that succeeds or to the last that is
allowed. So their numbers, times and lines can be told from what each of them gives and how long it takes
(`run_policy`).
-/

namespace FlakeImage

variable {σ ε α : Type}

/-- The run, with more before it. -/
def Run.behind (r : Run σ ε α) (j : Journal) : Run σ ε α := { r with journal := j ++ r.journal }

theorem Run.behind_behind (r : Run σ ε α) (i j : Journal) : (r.behind j).behind i = r.behind (i ++ j) := by
  simp [behind]

/-! ### Policies -/

/-- How many attempts are allowed, and the pauses before the first one and between two. -/
structure Policy where
  attempts : Nat
  first : Nat
  pause : Nat

/-- There is always one attempt. The only attempt after a pause has no other one to pause for. -/
def LoadStrategy.policy : LoadStrategy → Policy
  | .retry n d => ⟨max 1 n, 0, d⟩
  | .preDelay d => ⟨1, d, d⟩

/-- The line about an attempt that has failed and that another one follows. -/
def Policy.warning (p : Policy) (number : Nat) (e : LoadError) : Progress :=
  ⟨.warn, "image archive load failed, retrying",
    [("attempt", toString number), ("max_attempts", toString p.attempts), ("delay_ms", toString p.pause),
      ("error", e.message)]⟩

namespace LoadStrategy

theorem maxAttempts_eq (s : LoadStrategy) : s.maxAttempts = s.policy.attempts := by
  cases s with
  | retry n d => exact Nat.max_comm n 1
  | preDelay d => rfl

theorem delay_eq (s : LoadStrategy) : s.delay = s.policy.pause := by
  cases s <;> rfl

theorem attempts_pos (s : LoadStrategy) : 1 ≤ s.policy.attempts := s.maxAttempts_eq ▸ s.maxAttempts_pos

end LoadStrategy

namespace Retry

theorem retrying_eq (s : LoadStrategy) (number : Nat) (e : LoadError) :
    retrying s number e = s.policy.warning number e := by
  rw [retrying, s.maxAttempts_eq, s.delay_eq, Policy.warning]

/-- A call of the attempt function: its number, its time, and the world in which it is made. -/
structure Try (σ : Type) where
  number : Nat
  start : Time
  world : σ

namespace Try
variable (strategy : LoadStrategy) (attempt : Nat → Work σ LoadError α)

def run (x : Try σ) : Run σ LoadError α := attempt x.number none x.start x.world

def first (t : Time) (w : σ) : Try σ := ⟨1, t + strategy.policy.first, w⟩

/-- The call after a failure and a pause. -/
def next (x : Try σ) : Try σ := ⟨x.number + 1, (x.run attempt).time + strategy.policy.pause, (x.run attempt).world⟩

/-- The call after `i` failures. -/
def after (x : Try σ) (i : Nat) : Try σ := (next strategy attempt)^[i] x

/-- What happens in a call: it is made, and all that the attempt does. -/
def events (x : Try σ) : Journal := ⟨x.start, .call (.attempt x.number)⟩ :: (x.run attempt).journal

/-- What happens in a call that is followed by another one: its failure is told of. -/
def failed (x : Try σ) : Journal :=
  x.events attempt ++ (x.run attempt).ending.failure?.toList.map fun e =>
    ⟨(x.run attempt).time, .report (.progress (strategy.policy.warning x.number e))⟩

/-- The attempts from the call on, after which `left` more are allowed. -/
def attempts (left : Nat) (x : Try σ) : Run σ BuildError α :=
  attemptsFrom strategy .never attempt left x.number none x.start x.world

variable {strategy attempt} {x : Try σ} {i : Nat}

theorem after_succ : x.after strategy attempt (i + 1) = (x.after strategy attempt i).next strategy attempt :=
  Function.iterate_succ_apply' ..

end Try

/-! ### One attempt -/

theorem sleep_never (ms : Nat) (t : Time) (w : σ) :
    Work.sleep .never ms none t w = ⟨.value (), t + ms, w, []⟩ := by
  have hwait : (Work.wait ms : Work σ BuildError Unit) none t w = ⟨.value (), t + ms, w, []⟩ := by
    simp [Work.wait]
  have hguard : Work.guard .never (Work.wait ms : Work σ BuildError Unit) none t w =
      ⟨.value (.ok ()), t + ms, w, []⟩ := by
    rw [Work.guard_never, hwait]
    rfl
  unfold Work.sleep
  rw [Work.bind_value (congrArg Run.ending hguard), hguard]
  rfl

/-- The line about a success after failures. -/
def success (number : Nat) (t : Time) : Journal :=
  if 1 < number then [⟨t, .report (.progress ⟨.info, "image archive loaded", [("attempt", toString number)]⟩)⟩]
  else []

section Once
variable {attempt : Nat → Work σ LoadError α} {otherwise : LoadError → Work σ BuildError α} {x : Try σ}

theorem once_eq : once .never attempt x.number otherwise none x.start x.world =
    ((Work.guard .never (attempt x.number) >>= fun
      | .ok a => do
        if 1 < x.number then Work.report (.progress (loaded x.number))
        pure a
      | .error e => otherwise e) none x.start x.world).behind [⟨x.start, .call (.attempt x.number)⟩] := rfl

theorem once_of_value {a : α} (h : (x.run attempt).ending = .value a) :
    once .never attempt x.number otherwise none x.start x.world =
      ⟨.value a, (x.run attempt).time, (x.run attempt).world,
        x.events attempt ++ success x.number (x.run attempt).time⟩ := by
  have hguard : (Work.guard .never (attempt x.number) none x.start x.world).ending = .value (.ok a) := by
    rw [Work.guard_never]
    exact congrArg Ending.caught h
  rw [once_eq, Work.bind_value hguard, Work.guard_never]
  dsimp only [success]
  split <;> rfl

theorem once_of_failure {e : LoadError} (h : (x.run attempt).ending = .failure e) :
    once .never attempt x.number otherwise none x.start x.world =
      (otherwise e none (x.run attempt).time (x.run attempt).world).behind (x.events attempt) := by
  have hguard : (Work.guard .never (attempt x.number) none x.start x.world).ending = .value (.error e) := by
    rw [Work.guard_never]
    exact congrArg Ending.caught h
  rw [once_eq, Work.bind_value hguard, Work.guard_never]
  rfl

end Once

/-! ### One attempt after the other -/

section Attempts
variable {strategy : LoadStrategy} {attempt : Nat → Work σ LoadError α} {x : Try σ} {left k : Nat}

/-- A failure is told of, and after a pause the next call is made. -/
theorem attempts_of_failure {e : LoadError} (h : (x.run attempt).ending = .failure e) :
    x.attempts strategy attempt (left + 1) =
      ((x.next strategy attempt).attempts strategy attempt left).behind (x.failed strategy attempt) := by
  have hpause := sleep_never strategy.delay (x.run attempt).time (x.run attempt).world
  refine (once_of_failure h).trans ?_
  rw [Work.report, Work.happen_bind, Work.bind_value (congrArg Run.ending hpause), hpause]
  simp [Run.behind, Try.failed, h, Ending.failure?, Try.next, Try.attempts, retrying_eq, strategy.delay_eq]

theorem attempts_after (hk : k ≤ left)
    (hfail : ∀ i < k, ∃ e, ((x.after strategy attempt i).run attempt).ending = .failure e) :
    x.attempts strategy attempt left =
      ((x.after strategy attempt k).attempts strategy attempt (left - k)).behind
        ((List.range k).flatMap fun i => (x.after strategy attempt i).failed strategy attempt) := by
  -- on the failures: the attempts go on with the call after them
  induction k with
  | zero => rfl
  | succ k ih =>
    obtain ⟨e, he⟩ := hfail k (Nat.lt_succ_self k)
    have hleft : left - k = left - (k + 1) + 1 := by omega
    rw [ih (Nat.le_of_succ_le hk) fun i hi => hfail i (Nat.lt_succ_of_lt hi), hleft, attempts_of_failure he,
      Run.behind_behind, Try.after_succ, List.range_succ, List.flatMap_append, List.flatMap_singleton]

/-- The first success ends the attempts. -/
theorem attempts_of_success {a : α} (hk : k ≤ left)
    (hfail : ∀ i < k, ∃ e, ((x.after strategy attempt i).run attempt).ending = .failure e)
    (hlast : ((x.after strategy attempt k).run attempt).ending = .value a) :
    let y := x.after strategy attempt k
    x.attempts strategy attempt left =
      ⟨.value a, (y.run attempt).time, (y.run attempt).world,
        ((List.range k).flatMap fun i => (x.after strategy attempt i).failed strategy attempt) ++
          (y.events attempt ++ success y.number (y.run attempt).time)⟩ := by
  intro y
  have honce : y.attempts strategy attempt (left - k) =
      ⟨.value a, (y.run attempt).time, (y.run attempt).world,
        y.events attempt ++ success y.number (y.run attempt).time⟩ := by
    unfold Try.attempts
    cases left - k with
    | zero => exact once_of_value hlast
    | succ n => exact once_of_value hlast
  rw [attempts_after hk hfail, honce]
  rfl

/-- So does the failure of the last that is allowed. -/
theorem attempts_of_failures {e : LoadError}
    (hfail : ∀ i < left, ∃ e, ((x.after strategy attempt i).run attempt).ending = .failure e)
    (hlast : ((x.after strategy attempt left).run attempt).ending = .failure e) :
    let y := x.after strategy attempt left
    x.attempts strategy attempt left =
      ⟨.failure (.loadExhausted y.number e), (y.run attempt).time, (y.run attempt).world,
        ((List.range left).flatMap fun i => (x.after strategy attempt i).failed strategy attempt) ++
          y.events attempt⟩ := by
  intro y
  have honce : y.attempts strategy attempt 0 =
      ⟨.failure (.loadExhausted y.number e), (y.run attempt).time, (y.run attempt).world, y.events attempt⟩ := by
    refine (once_of_failure hlast).trans ?_
    simp [Run.behind, Work.fail, y]
  rw [attempts_after (Nat.le_refl _) hfail, Nat.sub_self, honce]
  rfl

/-- A load begins with its first attempt, perhaps after a pause. -/
theorem run_never (strategy : LoadStrategy) (attempt : Nat → Work σ LoadError α) (t : Time) (w : σ) :
    run strategy .never attempt none t w =
      (Try.first strategy t w).attempts strategy attempt (strategy.policy.attempts - 1) := by
  unfold run Try.attempts Try.first
  rw [strategy.maxAttempts_eq]
  cases strategy with
  | retry n d => rfl
  | preDelay d =>
    have hpause := sleep_never d t w
    refine (Work.bind_value (congrArg Run.ending hpause)).trans ?_
    rw [hpause]
    rfl

end Attempts

/-! ### Numbers, times, results and lines -/

/-- What the calls of an attempt function give, by their numbers: call `i` is made in `world i` and leaves
`world (i + 1)`, has the result after so many milliseconds, and does what `own i` tells. -/
structure Calls (σ α : Type) where
  result : Nat → Except LoadError α
  lasts : Nat → Nat
  world : Nat → σ
  own : Nat → Journal

namespace Calls
variable (c : Calls σ α) (strategy : LoadStrategy) (attempt : Nat → Work σ LoadError α) (t : Time)

/-- The time of a call: after the first pause, the calls before it and the pauses after those. -/
def start (i : Nat) : Time :=
  t + strategy.policy.first + ∑ j ∈ Finset.Ico 1 i, (c.lasts j + strategy.policy.pause)

def Gives (i : Nat) : Prop :=
  attempt i none (c.start strategy t i) (c.world i) =
    ⟨.of? (some (c.result i)), c.start strategy t i + c.lasts i, c.world (i + 1), c.own i⟩

def FailBefore (i : Nat) : Prop := ∀ j, 1 ≤ j → j < i → ∃ e, c.result j = .error e

def events (i : Nat) : Journal := ⟨c.start strategy t i, .call (.attempt i)⟩ :: c.own i

def warning (i : Nat) : Journal :=
  match c.result i with
  | .ok _ => []
  | .error e => [⟨c.start strategy t i + c.lasts i, .report (.progress (strategy.policy.warning i e))⟩]

/-- The calls from the first on, each with the warning after it. -/
def failures (n : Nat) : Journal :=
  (List.range' 1 n).flatMap fun i => c.events strategy t i ++ c.warning strategy t i

variable {c strategy attempt t} {i n : Nat}

theorem start_succ (hi : 1 ≤ i) :
    c.start strategy t (i + 1) = c.start strategy t i + c.lasts i + strategy.policy.pause := by
  unfold start
  rw [Finset.sum_Ico_succ_top hi]
  simp only [Nat.add_assoc]

theorem after_eq (hcalls : ∀ i, 1 ≤ i → i ≤ n → c.Gives strategy attempt t i) (hi : i ≤ n) :
    (Try.first strategy t (c.world 1)).after strategy attempt i =
      ⟨i + 1, c.start strategy t (i + 1), c.world (i + 1)⟩ := by
  -- each call leaves the time and the world of the next one
  induction i with
  | zero => simp [Try.after, Try.first, start]
  | succ i ih =>
    have hcall : attempt (i + 1) none _ _ = _ := hcalls (i + 1) (Nat.le_add_left 1 i) hi
    rw [Try.after_succ, ih (Nat.le_of_succ_le hi), Try.next, Try.run, hcall, start_succ (Nat.le_add_left 1 i)]

theorem run_after (hcalls : ∀ i, 1 ≤ i → i ≤ n → c.Gives strategy attempt t i) (hi : i < n) :
    ((Try.first strategy t (c.world 1)).after strategy attempt i).run attempt =
      ⟨.of? (some (c.result (i + 1))), c.start strategy t (i + 1) + c.lasts (i + 1), c.world (i + 2),
        c.own (i + 1)⟩ := by
  rw [after_eq hcalls (Nat.le_of_lt hi)]
  exact hcalls (i + 1) (Nat.le_add_left 1 i) hi

theorem events_after (hcalls : ∀ i, 1 ≤ i → i ≤ n → c.Gives strategy attempt t i) (hi : i < n) :
    ((Try.first strategy t (c.world 1)).after strategy attempt i).events attempt =
      c.events strategy t (i + 1) := by
  rw [Try.events, run_after hcalls hi, after_eq hcalls (Nat.le_of_lt hi), events]

theorem failed_after (hcalls : ∀ i, 1 ≤ i → i ≤ n → c.Gives strategy attempt t i) (hi : i < n) :
    ((Try.first strategy t (c.world 1)).after strategy attempt i).failed strategy attempt =
      c.events strategy t (i + 1) ++ c.warning strategy t (i + 1) := by
  rw [Try.failed, events_after hcalls hi, run_after hcalls hi, after_eq hcalls (Nat.le_of_lt hi), warning]
  cases c.result (i + 1) <;> rfl

theorem flatMap_failed (hcalls : ∀ i, 1 ≤ i → i ≤ n → c.Gives strategy attempt t i) {m : Nat} (hm : m ≤ n) :
    ((List.range m).flatMap fun i =>
      ((Try.first strategy t (c.world 1)).after strategy attempt i).failed strategy attempt) =
      c.failures strategy t m := by
  unfold failures
  rw [List.range'_eq_map_range, List.flatMap_map]
  refine List.flatMap_congr fun i hi => ?_
  rw [failed_after hcalls (Nat.lt_of_lt_of_le (List.mem_range.1 hi) hm), Nat.add_comm 1 i]

/-- There is a last call: the first that succeeds, or the last that is allowed. -/
theorem exists_last (c : Calls σ α) (hn : 1 ≤ n) :
    ∃ k, 1 ≤ k ∧ k ≤ n ∧ c.FailBefore k ∧ ((∃ a, c.result k = .ok a) ∨ k = n) := by
  classical
  have hlast : ∃ k, 1 ≤ k ∧ ((∃ a, c.result k = .ok a) ∨ k = n) := ⟨n, hn, .inr rfl⟩
  obtain ⟨hpos, hk⟩ := Nat.find_spec hlast
  refine ⟨Nat.find hlast, hpos, Nat.find_min' hlast ⟨hn, .inr rfl⟩, fun j hj hlt => ?_, hk⟩
  cases hres : c.result j with
  | error e => exact ⟨e, rfl⟩
  | ok a => exact absurd ⟨hj, .inl ⟨a, hres⟩⟩ (Nat.find_min hlast hlt)

end Calls

/-- **The retry policy.** Calls of the attempt function are made with the numbers from 1 on until one succeeds
or there are no more, each a pause after the end of the one before it. A success is the result, and is told of
if it is not the first call; each failure before the last call is told of. If the last call that is allowed
fails too its failure ends the load, at once. The numbers stay within 32 bits if the strategy does. -/
theorem run_policy (strategy : LoadStrategy) (attempt : Nat → Work σ LoadError α) (t : Time) (c : Calls σ α)
    (hcalls : ∀ i, 1 ≤ i → i ≤ strategy.policy.attempts → c.FailBefore i → c.Gives strategy attempt t i) :
    let run := Retry.run strategy .never attempt none t (c.world 1)
    ∃ k, 1 ≤ k ∧ k ≤ strategy.policy.attempts ∧ c.FailBefore k ∧
      run.time = c.start strategy t k + c.lasts k ∧ run.world = c.world (k + 1) ∧
      (match c.result k with
        | .ok a => run.ending = .value a ∧
          run.journal = c.failures strategy t (k - 1) ++ c.events strategy t k ++
            (if 1 < k then [⟨run.time, .report (.progress
              ⟨.info, "image archive loaded", [("attempt", toString k)]⟩)⟩] else [])
        | .error e => k = strategy.policy.attempts ∧ run.ending = .failure (.loadExhausted k e) ∧
          run.journal = c.failures strategy t (k - 1) ++ c.events strategy t k) ∧
      ((∀ n d, strategy = .retry n d → n < 2 ^ 32) → k < 2 ^ 32) := by
  intro run
  obtain ⟨k, hpos, hk, hbefore, hlast⟩ := c.exists_last strategy.attempts_pos
  -- only calls up to the last are made, and only of these is anything known
  have hgives : ∀ i, 1 ≤ i → i ≤ k → c.Gives strategy attempt t i := fun i hi hik =>
    hcalls i hi (hik.trans hk) fun j hj hji => hbefore j hj (hji.trans_le hik)
  obtain ⟨m, rfl⟩ := Nat.exists_eq_add_of_le' hpos
  have hfail : ∀ i < m, ∃ e, (((Try.first strategy t (c.world 1)).after strategy attempt i).run attempt).ending =
      .failure e := fun i hi => by
    obtain ⟨e, he⟩ := hbefore (i + 1) (Nat.le_add_left 1 i) (Nat.succ_lt_succ hi)
    exact ⟨e, by rw [Calls.run_after hgives (Nat.lt_succ_of_lt hi), he]; rfl⟩
  have hm := Calls.run_after hgives (Nat.lt_succ_self m)
  have hsmall : (∀ n d, strategy = .retry n d → n < 2 ^ 32) → m + 1 < 2 ^ 32 := by
    intro hfits
    refine hk.trans_lt ?_
    cases strategy with
    | retry n d => exact Nat.max_lt.2 ⟨by decide, hfits n d rfl⟩
    | preDelay d => exact (by decide : 1 < 2 ^ 32)
  have hrun : run = _ := run_never strategy attempt t (c.world 1)
  refine ⟨m + 1, hpos, hk, hbefore, ?_⟩
  cases hres : c.result (m + 1) with
  | ok a =>
    rw [hres] at hm
    have hrun := hrun.trans (attempts_of_success (Nat.le_sub_one_of_lt hk) hfail (congrArg Run.ending hm))
    rw [Calls.flatMap_failed hgives (Nat.le_succ m), Calls.events_after hgives (Nat.lt_succ_self m), hm,
      Calls.after_eq hgives (Nat.le_succ m)] at hrun
    rw [hrun]
    exact ⟨rfl, rfl, ⟨rfl, (List.append_assoc ..).symm⟩, hsmall⟩
  | error e =>
    rw [hres] at hm
    have hlast : m + 1 = strategy.policy.attempts := hlast.resolve_left fun ⟨a, ha⟩ => by rw [hres] at ha; cases ha
    obtain rfl : m = strategy.policy.attempts - 1 := Nat.eq_sub_of_add_eq hlast
    have hrun := hrun.trans (attempts_of_failures hfail (congrArg Run.ending hm))
    rw [Calls.flatMap_failed hgives (Nat.le_succ _), Calls.events_after hgives (Nat.lt_succ_self _), hm,
      Calls.after_eq hgives (Nat.le_succ _)] at hrun
    rw [hrun]
    exact ⟨rfl, rfl, ⟨hlast, rfl, rfl⟩, hsmall⟩

/-- The first two calls fail after four milliseconds; each later one takes a single millisecond and succeeds. -/
def thirdTry (number : Nat) : Work Nat LoadError Nat := fun _ t w =>
  if number < 3 then ⟨.failure (.rejected "busy"), t + 4, w + 1, []⟩ else ⟨.value number, t + 1, w + 1, []⟩

def thirdTryCalls : Calls Nat Nat where
  result i := if i < 3 then .error (.rejected "busy") else .ok i
  lasts i := if i < 3 then 4 else 1
  world i := i - 1
  own _ := []

theorem thirdTryCalls_gives {strategy : LoadStrategy} {t : Time} {i : Nat} (hi : 1 ≤ i) :
    thirdTryCalls.Gives strategy thirdTry t i := by
  obtain ⟨n, rfl⟩ := Nat.exists_eq_add_of_le' hi
  unfold Calls.Gives thirdTry
  by_cases h : n + 1 < 3 <;> simp only [thirdTryCalls, h, if_true, if_false, Nat.add_sub_cancel] <;> rfl

/-- The third attempt succeeds if there is one; with two attempts, or with one after a pause, the load fails. -/
theorem run_thirdTry :
    let four := Retry.run (.retry 4 5) .never thirdTry none 0 0
    let two := Retry.run (.retry 2 5) .never thirdTry none 0 0
    let delayed := Retry.run (.preDelay 7) .never thirdTry none 0 0
    (four.ending = .value 3 ∧ four.time = 19 ∧
      four.journal.calls = [(0, .attempt 1), (9, .attempt 2), (18, .attempt 3)] ∧
      four.journal.transcript.lines.getLast? = some ⟨.info, "image archive loaded", [("attempt", "3")]⟩) ∧
    (two.ending = .failure (.loadExhausted 2 (.rejected "busy")) ∧ two.time = 13 ∧
      two.journal.calls = [(0, .attempt 1), (9, .attempt 2)] ∧
      two.journal.transcript.lines = [⟨.warn, "image archive load failed, retrying",
        [("attempt", "1"), ("max_attempts", "2"), ("delay_ms", "5"),
          ("error", "docker image load rejected: busy")]⟩]) ∧
    delayed.ending = .failure (.loadExhausted 1 (.rejected "busy")) ∧ delayed.time = 11 ∧
      delayed.journal.calls = [(7, .attempt 1)] ∧ delayed.journal.transcript.lines = [] := by
  have hgives (strategy : LoadStrategy) (i : Nat) (hi : 1 ≤ i) : thirdTryCalls.Gives strategy thirdTry 0 i :=
    thirdTryCalls_gives hi
  refine ⟨?_, ?_, ?_⟩
  · obtain ⟨k, hpos, hk, hbefore, htime, -, hlast, -⟩ :=
      run_policy (.retry 4 5) thirdTry 0 thirdTryCalls fun i hi _ _ => hgives _ i hi
    have hk : k ≤ 4 := hk
    -- the first two calls fail, and more are allowed; the third succeeds
    obtain rfl | rfl | rfl | rfl : k = 1 ∨ k = 2 ∨ k = 3 ∨ k = 4 := by omega
    · cases hlast.1
    · cases hlast.1
    · exact ⟨hlast.1, htime, congrArg Journal.calls hlast.2,
        congrArg (fun j : Journal => j.transcript.lines.getLast?) hlast.2⟩
    · obtain ⟨e, he⟩ := hbefore 3 (by decide) (by decide)
      cases he
  · obtain ⟨k, hpos, hk, -, htime, -, hlast, -⟩ :=
      run_policy (.retry 2 5) thirdTry 0 thirdTryCalls fun i hi _ _ => hgives _ i hi
    have hk : k ≤ 2 := hk
    obtain rfl | rfl : k = 1 ∨ k = 2 := by omega
    · cases hlast.1
    · exact ⟨hlast.2.1, htime, congrArg Journal.calls hlast.2.2,
        congrArg (fun j : Journal => j.transcript.lines) hlast.2.2⟩
  · obtain ⟨k, hpos, hk, -, htime, -, hlast, -⟩ :=
      run_policy (.preDelay 7) thirdTry 0 thirdTryCalls fun i hi _ _ => hgives _ i hi
    obtain rfl : k = 1 := Nat.le_antisymm hk hpos
    exact ⟨hlast.2.1, htime, congrArg Journal.calls hlast.2.2,
      congrArg (fun j : Journal => j.transcript.lines) hlast.2.2⟩

end Retry

end FlakeImage
