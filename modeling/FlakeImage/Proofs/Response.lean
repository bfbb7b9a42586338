import FlakeImage.Build.Host
import FlakeImage.Proofs.Pieces
import FlakeImage.Proofs.Work

/-!
# What a load response comes to

The reader of a response works on chunks and carries a line from one to the next. Here a response is read
at a glance: `Stream.lines` splits the whole body, `texts` and `failure?` cut its lines where reading
ends, `output` is what is relayed and `Stream.outcome?` how the attempt ends. `relay_relays` ties the two
together for every division into chunks and every deadline: `Relays` says that a run of the reader is
this reading, unless it is dropped.
-/

namespace FlakeImage

namespace Stream

/-- The bytes of a stream, however they are delivered. -/
def bytes (s : Stream) : Bytes := s.chunks.flatMap (·.bytes)

/-- The stream comes to its end. -/
def isComplete (s : Stream) : Bool :=
  match s.ending with
  | .complete _ => true
  | _ => false

end Stream

namespace Response

/-! ### Lines -/

/-- A line without one carriage return at its end. -/
def dropReturn (line : Bytes) : Bytes :=
  if line.getLast? = some carriageReturn then line.dropLast else line

/-- The lines of a body: what stands before each line feed, less a carriage return. Of a complete body what
follows the last line feed is a line as well, if there is anything. -/
def linesOf (complete : Bool) (body : Bytes) : List Bytes :=
  let pieces := body.splitOn lineFeed
  pieces.dropLast.map dropReturn ++ if complete then pieces.getLast?.toList.filter (!·.isEmpty) else []

theorem finish_eq (line : Bytes) : finish line = dropReturn line.reverse := by
  cases line with
  | nil => rfl
  | cons b r =>
    simp only [finish, dropReturn, List.reverse_cons, List.getLast?_concat, List.dropLast_concat,
      Option.some.injEq]
    split <;> simp

/-- `cut` splits at line feeds, the line begun being in front of the first piece. -/
theorem cut_eq (line b : Bytes) :
    cut line b = ((b.splitOnPPrepend (· == lineFeed) line).dropLast.map dropReturn,
      ((b.splitOnPPrepend (· == lineFeed) line).getLast?.getD []).reverse) := by
  induction b generalizing line with
  | nil => simp [cut]
  | cons c r ih =>
    by_cases hc : c = lineFeed
    · have hne := List.splitOnP_ne_nil (· == lineFeed) r
      rw [List.splitOnPPrepend_cons_pos (by simp [hc]), List.dropLast_cons_of_ne_nil hne,
        List.getLast?_cons, Option.getD_some, cut, if_pos hc, ih, List.splitOnPPrepend_nil_right,
        finish_eq]
      simp [List.getLast?_eq_some_getLast hne]
    · rw [List.splitOnPPrepend_cons_neg (by simp [hc]), cut, if_neg hc, ih]

theorem cut_append (line a b : Bytes) :
    cut line (a ++ b) = ((cut line a).1 ++ (cut (cut line a).2 b).1, (cut (cut line a).2 b).2) := by
  induction a generalizing line with
  | nil => simp [cut]
  | cons c r ih =>
    by_cases hc : c = lineFeed
    · simp [cut, hc, ih]
    · simp [cut, hc, ih]

theorem cut_of_not_mem {b : Bytes} (h : lineFeed ∉ b) (line : Bytes) :
    cut line b = ([], b.reverse ++ line) := by
  induction b generalizing line with
  | nil => rfl
  | cons c r ih =>
    obtain ⟨hc, hr⟩ := not_or.1 (mt List.mem_cons.2 h)
    rw [cut, if_neg (Ne.symm hc), ih hr]
    simp

/-- The lines of a whole body as the reader gets them. -/
theorem linesOf_eq_cut (complete : Bool) (body : Bytes) :
    linesOf complete body = (cut [] body).1 ++
      if complete then (if (cut [] body).2.isEmpty then [] else [(cut [] body).2.reverse]) else [] := by
  rw [cut_eq, List.splitOnPPrepend_nil_right, linesOf, List.splitOn_eq_splitOnP]
  have hne := List.splitOnP_ne_nil (· == lineFeed) body
  rw [List.getLast?_eq_some_getLast hne]
  cases complete with
  | false => rfl
  | true => cases h : (body.splitOnP (· == lineFeed)).getLast hne <;> simp

/-! ### What the lines say -/

/-- What a line says, or why reading ends at it: it is no text, or reports an error. -/
def content (line : Bytes) : Except LoadError String :=
  match Utf8.text line with
  | .error flaw => .error (.response (.text flaw.message))
  | .ok line =>
    match Frame.ofLine line with
    | .error message => .error (.rejected message)
    | .text text => .ok text

/-- What the lines say before the first at which reading ends. -/
def texts (lines : List Bytes) : List String :=
  ((lines.map content).takeWhile Except.isOk).filterMap Except.toOption

/-- Why reading ends at the first line at which it does. -/
def failure? (lines : List Bytes) : Option LoadError :=
  (lines.map content).findSome? fun
    | .error e => some e
    | .ok _ => none

/-- The message of a rejection is relayed too. -/
def rejection? : Option LoadError → Option String
  | some (.rejected message) => some message
  | _ => none

/-- All that is relayed of some lines. -/
def output (lines : List Bytes) : List String :=
  (texts lines).flatMap relayed ++ (rejection? (failure? lines)).toList

section Reading
variable {line : Bytes} {lines more : List Bytes}

@[simp] theorem texts_nil : texts [] = [] := rfl

@[simp] theorem failure?_nil : failure? [] = none := rfl

@[simp] theorem output_nil : output [] = [] := rfl

theorem failure?_cons_error {e : LoadError} (h : content line = .error e) :
    failure? (line :: lines) = some e := by
  simp [failure?, h]

theorem failure?_cons_ok {s : String} (h : content line = .ok s) :
    failure? (line :: lines) = failure? lines := by
  simp [failure?, h]

theorem texts_cons_error {e : LoadError} (h : content line = .error e) : texts (line :: lines) = [] := by
  simp [texts, h, Except.isOk, Except.toBool]

theorem texts_cons_ok {s : String} (h : content line = .ok s) :
    texts (line :: lines) = s :: texts lines := by
  simp [texts, h, List.takeWhile_cons, Except.isOk, Except.toBool, Except.toOption]

theorem output_cons_error {e : LoadError} (h : content line = .error e) :
    output (line :: lines) = (rejection? (some e)).toList := by
  simp [output, failure?_cons_error h, texts_cons_error h]

theorem output_cons_ok {s : String} (h : content line = .ok s) :
    output (line :: lines) = relayed s ++ output lines := by
  simp [output, failure?_cons_ok h, texts_cons_ok h]

theorem failure?_append : failure? (lines ++ more) = (failure? lines).or (failure? more) := by
  simp [failure?, List.findSome?_append]

/-- A line is no text exactly if it has a broken run. -/
theorem content_eq_response_iff : (∃ source, content line = .error (.response source)) ↔
    ∃ s run rest, line = Utf8.encode s ++ (run ++ rest) ∧ Utf8.Breaks rest run := by
  constructor
  · rintro ⟨source, h⟩
    obtain ⟨s, rfl⟩ | hbroken := Utf8.exists_encode line
    · rw [content, Utf8.text_encode] at h
      dsimp only at h
      split at h <;> cases h
    · exact hbroken
  · rintro ⟨s, run, rest, rfl, hrun⟩
    exact ⟨_, by rw [content, Utf8.text_of_broken s hrun]⟩

/-- A line that is text ends the reading exactly if it reports an error. -/
theorem content_isOk_iff {text : String} (h : Utf8.text line = .ok text) :
    (∃ s, content line = .ok s) ↔ ¬∃ message, Frame.ofLine text = .error message := by
  simp only [content, h]
  cases Frame.ofLine text with
  | text s => exact iff_of_true ⟨s, rfl⟩ (by rintro ⟨_, ⟨⟩⟩)
  | error m => exact iff_of_false (by rintro ⟨_, ⟨⟩⟩) (not_not_intro ⟨m, rfl⟩)

/-- Where reading ends at a line of a body, it ends in any body with that line. -/
theorem failure?_isSome (hmem : line ∈ lines) {e : LoadError}
    (h : content line = .error e) : ∃ e, failure? lines = some e := by
  rw [← Option.isSome_iff_exists, failure?, List.findSome?_isSome_iff]
  exact ⟨_, List.mem_map_of_mem hmem, by rw [h]; rfl⟩

/-- Once reading has ended nothing more is relayed. -/
theorem output_append_of_failure {e : LoadError} (h : failure? lines = some e) :
    output (lines ++ more) = output lines := by
  induction lines with
  | nil => simp at h
  | cons l r ih =>
    cases hl : content l with
    | error e' => simp [output_cons_error hl]
    | ok s => rw [failure?_cons_ok hl] at h; simp [output_cons_ok hl, ih h]

theorem output_append_of_none (h : failure? lines = none) :
    output (lines ++ more) = output lines ++ output more := by
  induction lines with
  | nil => simp
  | cons l r ih =>
    cases hl : content l with
    | error e' => simp [failure?_cons_error hl] at h
    | ok s => rw [failure?_cons_ok hl] at h; simp [output_cons_ok hl, ih h]

/-- The reader of one line by what the line says. -/
theorem readLine_eq (last : String) (line : Bytes) :
    readLine last line =
      match content line with
      | .error e => ((rejection? (some e)).toList, .error e)
      | .ok s => (relayed s, .ok ((relayed s).getLast?.getD last)) := by
  unfold readLine content
  cases Utf8.text line with
  | error flaw => rfl
  | ok s => cases h : Frame.ofLine s <;> simp [h, rejection?]

end Reading

end Response

namespace Stream

/-- The lines of a response. -/
def lines (s : Stream) : List Bytes := Response.linesOf s.isComplete s.bytes

/-- The last line relayed of a response, or why it is not read to its end: for what the first line says at
which reading ends, or else because it breaks. Of a stream that stalls neither may come. -/
def last? (s : Stream) : Option (Except LoadError String) :=
  match Response.failure? s.lines, s.ending with
  | some e, _ => some (.error e)
  | none, .complete _ => some (.ok ((Response.output s.lines).getLast?.getD ""))
  | none, .broken _ source => some (.error (.response source))
  | none, .stalled => none

/-- How an attempt ends that gets this response. -/
def outcome? (s : Stream) : Option (Except LoadError String) := s.last?.map (·.bind defaultTag)

/-- A tag comes from the last line relayed. -/
theorem outcome?_eq_ok {s : Stream} {tag : String} (h : s.outcome? = some (.ok tag)) :
    ∃ line, (Response.output s.lines).getLast? = some line ∧ defaultTag line = .ok tag := by
  unfold outcome? last? at h
  split at h
  · simp [Except.bind] at h
  · cases hl : (Response.output s.lines).getLast? with
    | some line => exact ⟨line, rfl, by simpa [hl, Except.bind] using h⟩
    | none => simp [hl, Except.bind, defaultTag, tagIn?, loadedImage, afterStart?] at h
  · simp [Except.bind] at h
  · simp at h

end Stream

namespace Response

/-! ### The reader -/

section Reader
variable {σ α β : Type} {d : Deadline} {t : Time} {w : σ} {out more : List String}

/-- A run in the world `w` that relays `out` and comes to `ending`, unless it is dropped before at the
deadline. It makes no calls. -/
structure Relays (d : Deadline) (w : σ) (out : List String) (ending : Ending LoadError α)
    (run : Run σ LoadError α) : Prop where
  world : run.world = w
  calls : run.journal.calls = []
  done : (run.ending = .unfinished ∧ d ≠ none) ∨
    (run.ending = ending ∧ run.journal.transcript = out.map .output)

namespace Relays
variable {x : Work σ LoadError α} {f : α → Work σ LoadError β}

theorem bind {a : α} {ending : Ending LoadError β} (hx : Relays d w out (.value a) (x d t w))
    (hf : ∀ t, Relays d w more ending (f a d t w)) :
    Relays d w (out ++ more) ending ((x >>= f) d t w) := by
  rcases hx.done with ⟨h, hd⟩ | ⟨h, ht⟩
  · rw [Work.bind_unfinished h]
    exact ⟨hx.world, hx.calls, .inl ⟨rfl, hd⟩⟩
  · rw [Work.bind_value h, hx.world]
    have hf := hf (x d t w).time
    refine ⟨hf.world, by simp [hx.calls, hf.calls], ?_⟩
    rcases hf.done with ⟨h', hd⟩ | ⟨h', ht'⟩
    · exact .inl ⟨h', hd⟩
    · exact .inr ⟨h', by simp [ht, ht']⟩

theorem bind_failure {e : LoadError} (hx : Relays d w out (.failure e) (x d t w)) :
    Relays d w out (.failure e) ((x >>= f) d t w) := by
  rcases hx.done with ⟨h, hd⟩ | ⟨h, ht⟩
  · rw [Work.bind_unfinished h]
    exact ⟨hx.world, hx.calls, .inl ⟨rfl, hd⟩⟩
  · rw [Work.bind_failure h]
    exact ⟨hx.world, hx.calls, .inr ⟨rfl, ht⟩⟩

theorem bind_unfinished (hx : Relays d w out .unfinished (x d t w)) :
    Relays d w out .unfinished ((x >>= f) d t w) := by
  have h : (x d t w).ending = .unfinished := by
    rcases hx.done with ⟨h, -⟩ | ⟨h, -⟩ <;> exact h
  rw [Work.bind_unfinished h]
  exact ⟨hx.world, hx.calls, hx.done.imp (⟨rfl, ·.2⟩) (⟨rfl, ·.2⟩)⟩

/-- What relays nothing by itself leaves the rest to what follows. -/
theorem bind_quiet {a : α} {ending : Ending LoadError β} (hx : Relays d w [] (.value a) (x d t w))
    (hf : ∀ t, Relays d w more ending (f a d t w)) : Relays d w more ending ((x >>= f) d t w) :=
  hx.bind hf

theorem pure (a : α) : Relays d w [] (.value a) ((Pure.pure a : Work σ LoadError α) d t w) :=
  ⟨rfl, rfl, .inr ⟨rfl, rfl⟩⟩

theorem fail (e : LoadError) : Relays d w [] (.failure e) ((Work.fail e : Work σ LoadError α) d t w) :=
  ⟨rfl, rfl, .inr ⟨rfl, rfl⟩⟩

theorem ofExcept (a : Except LoadError α) :
    Relays d w [] (.of? (some a)) ((Work.ofExcept a : Work σ LoadError α) d t w) := by
  cases a with
  | ok a => exact .pure a
  | error e => exact .fail e

theorem stall : Relays d w [] .unfinished ((Work.stall : Work σ LoadError α) d t w) :=
  ⟨rfl, rfl, .inr ⟨rfl, rfl⟩⟩

theorem wait (ms : Nat) : Relays d w [] (.value ()) ((Work.wait ms : Work σ LoadError Unit) d t w) := by
  unfold Work.wait
  split
  case isTrue h => exact ⟨rfl, rfl, .inl ⟨rfl, by rintro rfl; simp [Deadline.passed] at h⟩⟩
  case isFalse => exact ⟨rfl, rfl, .inr ⟨rfl, rfl⟩⟩

end Relays

theorem relayAll_relays (ls : List String) :
    Relays d w ls (.value ()) ((relayAll ls : Work σ LoadError Unit) d t w) := by
  induction ls with
  | nil => exact .pure ()
  | cons l r ih =>
    obtain ⟨hw, hc, hd⟩ := ih
    refine ⟨hw, hc, ?_⟩
    rcases hd with ⟨h, hd⟩ | ⟨h, ht⟩
    · exact .inl ⟨h, hd⟩
    · exact .inr ⟨h, congrArg (Report.output l :: ·) ht⟩

/-- How reading some lines ends: with the last line relayed, `last` if there is none. -/
def linesEnding (last : String) (ls : List Bytes) : Ending LoadError String :=
  match failure? ls with
  | some e => .failure e
  | none => .value ((output ls).getLast?.getD last)

theorem linesEnding_cons_ok {line : Bytes} {s : String} (last : String) (ls : List Bytes)
    (h : content line = .ok s) :
    linesEnding last (line :: ls) = linesEnding ((relayed s).getLast?.getD last) ls := by
  simp only [linesEnding, failure?_cons_ok h, output_cons_ok h, List.getLast?_append]
  cases failure? ls with
  | some e => rfl
  | none => cases (output ls).getLast? <;> rfl

theorem relayLines_relays (last : String) (ls : List Bytes) :
    Relays d w (output ls) (linesEnding last ls) ((relayLines last ls : Work σ LoadError String) d t w) := by
  induction ls generalizing last t with
  | nil => exact .pure last
  | cons l r ih =>
    rw [relayLines, readLine_eq]
    cases hl : content l with
    | error e =>
      rw [output_cons_error hl, linesEnding, failure?_cons_error hl, ← List.append_nil (Option.toList _)]
      exact (relayAll_relays _).bind fun t => (Relays.fail e).bind_failure
    | ok s =>
      rw [output_cons_ok hl, linesEnding_cons_ok last r hl]
      exact (relayAll_relays _).bind fun t => ih _

/-- Lines that come one after the other are read as one body. -/
theorem linesEnding_append (last : String) (ls more : List Bytes) (h : failure? ls = none) :
    linesEnding last (ls ++ more) = linesEnding ((output ls).getLast?.getD last) more := by
  simp only [linesEnding, failure?_append, h, Option.none_or, output_append_of_none h,
    List.getLast?_append]
  cases failure? more with
  | some e => rfl
  | none => cases (output more).getLast? <;> rfl

/-- How reading chunks ends: also with the line begun at their end. -/
def chunksEnding (line : Bytes) (last : String) (body : Bytes) : Ending LoadError (Bytes × String) :=
  match failure? (cut line body).1 with
  | some e => .failure e
  | none => .value ((cut line body).2, (output (cut line body).1).getLast?.getD last)

theorem chunksEnding_append_of_failure {e : LoadError} {line a : Bytes} (last : String) (b : Bytes)
    (h : failure? (cut line a).1 = some e) : chunksEnding line last (a ++ b) = .failure e := by
  simp only [chunksEnding, cut_append, failure?_append, h, Option.some_or]

theorem chunksEnding_append_of_none {line a : Bytes} (last : String) (b : Bytes)
    (h : failure? (cut line a).1 = none) :
    chunksEnding line last (a ++ b) =
      chunksEnding (cut line a).2 ((output (cut line a).1).getLast?.getD last) b := by
  simp only [chunksEnding, cut_append, failure?_append, h, Option.none_or, output_append_of_none h,
    List.getLast?_append]
  cases failure? (cut (cut line a).2 b).1 with
  | some e => rfl
  | none => cases (output (cut (cut line a).2 b).1).getLast? <;> rfl

/-- The reader of chunks reads the lines of all of them, wherever one ends and the next begins. -/
theorem relayChunks_relays (line : Bytes) (last : String) (cs : List Chunk) :
    Relays d w (output (cut line (cs.flatMap (·.bytes))).1) (chunksEnding line last (cs.flatMap (·.bytes)))
      ((relayChunks line last cs : Work σ LoadError (Bytes × String)) d t w) := by
  induction cs generalizing line last t with
  | nil => exact .pure (line, last)
  | cons c r ih =>
    rw [relayChunks, List.flatMap_cons]
    refine (Relays.wait c.after).bind_quiet fun t => ?_
    have hlines := relayLines_relays (d := d) (t := t) (w := w) last (cut line c.bytes).1
    rw [cut_append]
    cases hf : failure? (cut line c.bytes).1 with
    | some e =>
      rw [linesEnding, hf] at hlines
      rw [chunksEnding_append_of_failure last _ hf, output_append_of_failure hf]
      exact hlines.bind_failure
    | none =>
      rw [linesEnding, hf] at hlines
      rw [chunksEnding_append_of_none last _ hf, output_append_of_none hf]
      exact hlines.bind fun t => ih _ _

/-- The reader relays what the lines of a response say up to the first at which reading ends, and gives the
last line relayed. -/
theorem relay_relays (s : Stream) :
    Relays d w (output s.lines) (.of? s.last?) ((relay s : Work σ LoadError String) d t w) := by
  have hchunks := relayChunks_relays (d := d) (t := t) (w := w) [] "" s.chunks
  change Relays d w (output (cut [] s.bytes).1) (chunksEnding [] "" s.bytes) _ at hchunks
  rw [relay, Stream.last?, Stream.lines, linesOf_eq_cut]
  cases hf : failure? (cut [] s.bytes).1 with
  | some e =>
    rw [chunksEnding, hf] at hchunks
    rw [output_append_of_failure hf, failure?_append, hf, Option.some_or]
    exact hchunks.bind_failure
  | none =>
    rw [chunksEnding, hf] at hchunks
    rw [output_append_of_none hf, failure?_append, hf, Option.none_or]
    refine hchunks.bind fun t => ?_
    cases hs : s.ending with
    | complete after =>
      simp only [Stream.isComplete, hs, if_true]
      refine (Relays.wait after).bind_quiet fun t => ?_
      -- what is begun at the end is one more line
      generalize (if (cut [] s.bytes).2.isEmpty then [] else [(cut [] s.bytes).2.reverse]) = rest
      have hrest := relayLines_relays (d := d) (t := t) (w := w)
        ((output (cut [] s.bytes).1).getLast?.getD "") rest
      rw [← linesEnding_append "" _ _ hf, linesEnding, failure?_append, hf, Option.none_or,
        output_append_of_none hf] at hrest
      cases hr : failure? rest with
      | some e => rw [hr] at hrest; exact hrest
      | none => rw [hr] at hrest; exact hrest
    | broken after source =>
      simp only [Stream.isComplete, hs]
      exact (Relays.wait after).bind_quiet fun t => .fail _
    | stalled =>
      simp only [Stream.isComplete, hs]
      exact .stall

/-- **A response is read as a whole**, and the last line relayed tells the tag. -/
theorem relay_outcome (s : Stream) :
    Relays d w (output s.lines) (.of? s.outcome?)
      ((relay s >>= fun last => Work.ofExcept (defaultTag last) : Work σ LoadError String) d t w) := by
  have h := relay_relays (d := d) (t := t) (w := w) s
  unfold Stream.outcome?
  rcases hl : s.last? with _ | ⟨e | last⟩ <;> rw [hl] at h
  · exact h.bind_unfinished
  · exact h.bind_failure
  · rw [← List.append_nil (output _)]
    exact h.bind fun t => .ofExcept (defaultTag last)

end Reader

end Response

end FlakeImage
