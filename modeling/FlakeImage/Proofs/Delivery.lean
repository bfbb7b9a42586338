import FlakeImage.Proofs.Attempt

/-!
# Delivery of a response

A response comes in chunks of any size and with any pauses, and a chunk may end anywhere: in a character,
before a line feed, in an escape. `Redelivers` says of two streams that they deliver the same bytes and end
alike. An attempt that gets the one relays and comes to the same as an attempt that gets the other
(`loadArchive_redelivered`), for both are read by their lines, and of a stream that breaks the line begun last
is no line (`linesOf_append_begun`).
-/

namespace FlakeImage

open Response

/-- Streams end in the same way, perhaps after another pause. -/
inductive StreamEnd.Alike : StreamEnd → StreamEnd → Prop
  | complete (after after' : Nat) : Alike (.complete after) (.complete after')
  | broken (after after' : Nat) (source : SystemError) : Alike (.broken after source) (.broken after' source)
  | stalled : Alike .stalled .stalled

namespace Stream
variable {s s' : Stream}

/-- The same bytes, perhaps cut into other chunks, and the same end. -/
structure Redelivers (s s' : Stream) : Prop where
  bytes : s'.bytes = s.bytes
  ending : StreamEnd.Alike s.ending s'.ending

theorem Redelivers.lines (h : s.Redelivers s') : s'.lines = s.lines := by
  have hcomplete : s'.isComplete = s.isComplete := by
    have hend := h.ending
    unfold isComplete
    generalize s.ending = e at hend ⊢
    generalize s'.ending = e' at hend ⊢
    cases hend <;> rfl
  rw [Stream.lines, Stream.lines, h.bytes, hcomplete]

theorem Redelivers.outcome? (h : s.Redelivers s') : s'.outcome? = s.outcome? := by
  have hend := h.ending
  rw [Stream.outcome?, Stream.outcome?, last?, last?, h.lines]
  generalize s.ending = e at hend ⊢
  generalize s'.ending = e' at hend ⊢
  cases hend <;> cases failure? s.lines <;> rfl

end Stream

/-- What follows the last line feed is no line of a body that goes on. -/
theorem Response.linesOf_append_begun {begun : Bytes} (h : lineFeed ∉ begun) (body : Bytes) :
    linesOf false (body ++ begun) = linesOf false body := by
  rw [linesOf_eq_cut, linesOf_eq_cut, cut_append, cut_of_not_mem h]
  simp

namespace Host

/-- An attempt that is not dropped is the reading of its response. -/
theorem loadArchive_undropped {σ : Type} {h : Host σ} {path : Path} {t : Time} {w : σ} {archive : Archive}
    {ms : Nat} {s : Stream} (hopen : h.openFile path t w = .ok archive)
    (hload : (h.runtime.load archive t w).outcome = some (ms, .ok s)) :
    (h.loadArchive path none t w).ending = .of? s.outcome? ∧
      (h.loadArchive path none t w).journal.transcript = (output s.lines).map .output := by
  rcases loadArchive_of_taken (d := none) hopen hload with ⟨-, hd⟩ | hr
  · exact absurd rfl hd
  · exact hr

/-- **The delivery of a response does not matter.** Two attempts that get the same response, however it is cut
and whenever its parts come, relay the same lines and end alike. Of a response that breaks, a line begun and
not ended is not relayed. -/
theorem loadArchive_redelivered {σ σ' : Type} (h : Host σ) (h' : Host σ') (path path' : Path) (t t' : Time)
    (w : σ) (w' : σ') {archive archive' : Archive} {ms ms' : Nat} {s s' : Stream}
    (hopen : h.openFile path t w = .ok archive)
    (hload : (h.runtime.load archive t w).outcome = some (ms, .ok s))
    (hopen' : h'.openFile path' t' w' = .ok archive')
    (hload' : (h'.runtime.load archive' t' w').outcome = some (ms', .ok s'))
    (hs : s.Redelivers s') :
    let run := h.loadArchive path none t w
    let run' := h'.loadArchive path' none t' w'
    run'.journal.transcript = run.journal.transcript ∧ run'.ending = run.ending ∧
      ∀ body begun after source, s.ending = .broken after source → s.bytes = body ++ begun →
        lineFeed ∉ begun → run.journal.transcript = (output (linesOf false body)).map .output := by
  intro run run'
  obtain ⟨he, ht⟩ := loadArchive_undropped hopen hload
  obtain ⟨he', ht'⟩ := loadArchive_undropped hopen' hload'
  refine ⟨?_, ?_, fun body begun after source hend hbytes hbegun => ?_⟩
  · rw [ht', ht, hs.lines]
  · rw [he', he, hs.outcome?]
  · have hlines : s.lines = linesOf false body := by
      rw [Stream.lines, hbytes, Stream.isComplete, hend]
      exact linesOf_append_begun hbegun body
    rw [ht, hlines]

/-- A message and plain lines with characters of two bytes; the response breaks in a line. -/
def brokenBody : Bytes := Utf8.encode "\x7b\"stream\":\"caf\\u00e9\\n\"\x7d\r\ncafé\r\nLoaded image: a:b"

/-- All of it at once. -/
def brokenAtOnce : Stream := ⟨[⟨0, brokenBody⟩], .broken 0 (.code 104)⟩

/-- Byte after byte. -/
def brokenBytewise : Stream := ⟨brokenBody.map fun b => ⟨1, [b]⟩, .broken 7 (.code 104)⟩

theorem loadArchive_brokenBytewise :
    let run := (answering brokenBytewise).loadArchive ⟨[]⟩ none 5 ()
    run.journal.transcript = [.output "café", .output "café"] ∧
      run.ending = ((answering brokenAtOnce).loadArchive ⟨[]⟩ none 0 ()).ending := by
  have hs : brokenAtOnce.Redelivers brokenBytewise := ⟨by decide +kernel, .broken ..⟩
  obtain ⟨ht, he, hbegun⟩ := loadArchive_redelivered (answering brokenAtOnce) (answering brokenBytewise)
    ⟨[]⟩ ⟨[]⟩ 0 5 () () rfl rfl rfl rfl hs
  have hout : output (linesOf false (Utf8.encode "\x7b\"stream\":\"caf\\u00e9\\n\"\x7d\r\ncafé\r\n")) =
      ["café", "café"] := by decide +kernel
  refine ⟨ht.trans ?_, he⟩
  rw [hbegun (Utf8.encode "\x7b\"stream\":\"caf\\u00e9\\n\"\x7d\r\ncafé\r\n") (Utf8.encode "Loaded image: a:b")
    0 (.code 104) rfl (by decide +kernel) (by decide +kernel), hout]
  rfl

end Host

end FlakeImage
