import FlakeImage.Proofs.Frame
import FlakeImage.Proofs.Response

/-!
# One attempt to load an archive

An attempt whose archive is opened and taken by the runtime is the reading of the response
(`loadArchive_of_taken`). So what it relays and how it ends is a function of the response's lines and of
how the response ends: the first line that is no text or reports an error decides, else a break of the
response, else the last line relayed. An error in an object that is no message is not seen, and the load can
be taken for a success.
-/

namespace FlakeImage

open Json Response

namespace Host
variable {σ : Type} {h : Host σ} {path : Path} {d : Deadline} {t : Time} {w : σ}
variable {archive : Archive} {ms : Nat} {s : Stream}

theorem openArchive_of_ok (hopen : h.openFile path t w = .ok archive) :
    ((h.openArchive path d t w).ending = .unfinished ∧ d ≠ none) ∨
      h.openArchive path d t w = ⟨.value archive, t, w, [⟨t, .call (.openArchive path)⟩]⟩ := by
  unfold openArchive
  rcases Work.request_cases (.openArchive path) _ d t w with ⟨ms, a, ho, -, hr⟩ | ⟨ha, hr⟩
  · refine .inr (hr.trans ?_)
    obtain ⟨rfl, rfl⟩ : 0 = ms ∧ h.openFile path t w = a := by simpa [Reply.now] using ho
    simp [Ending.of?, hopen, Reply.now, Work.opening]
  · refine .inl ⟨by rw [hr]; rfl, ?_⟩
    rintro rfl
    simp [Reply.answer?, Reply.now, Reply.misses_none] at ha

/-- An archive that the runtime takes is answered by a response, unless the deadline comes first. -/
theorem load_of_ok (hload : (h.runtime.load archive t w).outcome = some (ms, .ok s)) :
    ((h.load archive d t w).ending = .unfinished ∧ d ≠ none) ∨
      h.load archive d t w = ⟨.value s, t + ms, (h.runtime.load archive t w).world,
        Work.opening (.load archive) t (h.runtime.load archive t w)⟩ := by
  unfold load
  rcases Work.request_cases (.load archive) (h.runtime.load archive) d t w with ⟨ms', a, ho, -, hr⟩ | ⟨ha, hr⟩
  · obtain ⟨rfl, rfl⟩ : ms = ms' ∧ .ok s = a := by simpa [hload] using ho
    exact .inr hr
  · refine .inl ⟨by rw [hr]; rfl, ?_⟩
    rintro rfl
    simp [Reply.answer?, hload, Reply.misses_none] at ha

/-- After the archive has been taken an attempt is the reading of the response. -/
theorem loadArchive_of_taken (hopen : h.openFile path t w = .ok archive)
    (hload : (h.runtime.load archive t w).outcome = some (ms, .ok s)) :
    ((h.loadArchive path d t w).ending = .unfinished ∧ d ≠ none) ∨
      ((h.loadArchive path d t w).ending = .of? s.outcome? ∧
        (h.loadArchive path d t w).journal.transcript = (output s.lines).map .output) := by
  unfold loadArchive
  rcases openArchive_of_ok (d := d) hopen with ⟨ho, hd⟩ | ho
  · refine .inl ⟨?_, hd⟩
    rw [Work.bind_unfinished (by rw [Work.mapError_run, ho]; rfl)]
  rcases load_of_ok (d := d) hload with ⟨hl, hd⟩ | hl
  · refine .inl ⟨?_, hd⟩
    rw [Work.bind_value (a := archive) (by rw [Work.mapError_run, ho]; rfl), Work.bind_unfinished]
    all_goals rw [Work.mapError_run, Work.mapError_run, ho, hl]; rfl
  have hr := relay_outcome (d := d) (t := t + ms) (w := (h.runtime.load archive t w).world) s
  rw [Work.bind_value (a := archive) (by rw [Work.mapError_run, ho]; rfl),
    Work.bind_value (a := s) (by rw [Work.mapError_run, Work.mapError_run, ho, hl]; rfl)]
  simp only [Work.mapError_run, ho, hl]
  rcases hr.done with hr | ⟨he, ht⟩
  · exact .inl hr
  · exact .inr ⟨he, by simp [ht]⟩

/-- **The first failure wins, otherwise the last line that is not blank.** An attempt whose archive was
opened and taken, and that is not dropped, relays the lines that are not blank of every text before the
first line at which reading ends, and the message if that line is a rejection. It fails as that line says;
without one it fails if the response breaks, and else ends as the last line relayed says. -/
theorem loadArchive_reads_response (h : Host σ) (path : Path) (d : Deadline) (t : Time) (w : σ)
    {archive : Archive} {ms : Nat} {s : Stream} (hopen : h.openFile path t w = .ok archive)
    (hload : (h.runtime.load archive t w).outcome = some (ms, .ok s)) (hend : s.ending ≠ .stalled)
    (hdone : d = none ∨ (h.loadArchive path d t w).ending ≠ .unfinished) :
    let run := h.loadArchive path d t w
    run.journal.transcript = (output s.lines).map .output ∧
      run.ending = (match failure? s.lines, s.ending with
        | some e, _ => .failure e
        | none, .broken _ source => .failure (.response source)
        | none, _ => .of? (some (defaultTag ((output s.lines).getLast?.getD "")))) ∧
      ∀ tag, run.ending = .value tag →
        ∃ line, (output s.lines).getLast? = some line ∧ defaultTag line = .ok tag := by
  have hrun : (h.loadArchive path d t w).ending = .of? s.outcome? ∧
      (h.loadArchive path d t w).journal.transcript = (output s.lines).map .output := by
    rcases loadArchive_of_taken (d := d) hopen hload with ⟨hu, hd⟩ | hr
    · rcases hdone with rfl | hdone
      · exact absurd rfl hd
      · exact absurd hu hdone
    · exact hr
  obtain ⟨hending, htranscript⟩ := hrun
  refine ⟨htranscript, hending.trans ?_, fun tag htag => ?_⟩
  · unfold Stream.outcome? Stream.last?
    cases failure? s.lines with
    | some e => rfl
    | none =>
      cases he : s.ending with
      | complete after => simp only [Option.map_some, Except.bind]
      | broken after source => simp only [Option.map_some, Except.bind, Ending.of?]
      | stalled => exact absurd he hend
  · exact s.outcome?_eq_ok (Ending.of?_eq_value.1 (hending.symm.trans htag))

/-- A world in which every load is answered by the same response. -/
def answering (s : Stream) : Host Unit where
  tool := ⟨fun _ _ _ w => .now w (.error .noOutput)⟩
  runtime := ⟨fun _ _ w => .now w (.ok s), fun _ _ w => .now w (.ok none), fun _ _ _ w => .now w (.ok ())⟩
  openFile _ _ _ := .ok { bytes := [] }

theorem defaultTag_loaded : defaultTag "Loaded image: a:b" = .ok "a:b" := by cbv

/-- Plain lines and a message with two more, cut inside the message; the last line is blank. -/
def mixedResponse : Stream where
  chunks := [⟨3, Utf8.encode "Loading\r\n\x7b\"stream\":\"a\\n \\r\\nLoaded"⟩,
    ⟨0, Utf8.encode " image: a:b\\n\"\x7d\n \r"⟩]

/-- The second line breaks off in a character. -/
def brokenResponse : Stream where
  chunks := [⟨0, Utf8.encode "Loading\n" ++ [0xF0, 0x9F]⟩, ⟨0, 0x98 :: Utf8.encode "\nLoaded image: a:b\n"⟩]

theorem loadArchive_reads_mixedResponse :
    let run := (answering mixedResponse).loadArchive ⟨[]⟩ none 0 ()
    let run' := (answering brokenResponse).loadArchive ⟨[]⟩ none 0 ()
    (run.journal.transcript = [.output "Loading", .output "a", .output "Loaded image: a:b"] ∧
      run.ending = .value "a:b") ∧
    run'.journal.transcript = [.output "Loading"] ∧
      run'.ending = .failure (.response (.text "incomplete utf-8 byte sequence from index 0")) := by
  have hout : output mixedResponse.lines = ["Loading", "a", "Loaded image: a:b"] := by decide +kernel
  have hnone : failure? mixedResponse.lines = none := by decide +kernel
  obtain ⟨ht, he, -⟩ := loadArchive_reads_response (answering mixedResponse) ⟨[]⟩ none 0 () rfl rfl
    (by decide) (.inl rfl)
  rw [hout] at ht he
  rw [hnone] at he
  have hout' : output brokenResponse.lines = ["Loading"] := by decide +kernel
  have hflaw : failure? brokenResponse.lines =
      some (.response (.text "incomplete utf-8 byte sequence from index 0")) := by decide +kernel
  obtain ⟨ht', he', -⟩ := loadArchive_reads_response (answering brokenResponse) ⟨[]⟩ none 0 () rfl rfl
    (by decide) (.inl rfl)
  rw [hout'] at ht' he'
  rw [hflaw] at he'
  exact ⟨⟨ht, he.trans (congrArg (fun r => Ending.of? (some r)) defaultTag_loaded)⟩, ht', he'⟩

/-! ### Errors that messages report -/

/-- The line with which the runtime ends a response. -/
def loadedLine : Bytes := Utf8.encode "Loaded image: a:b"

theorem failure?_loadedLine : failure? [loadedLine] = none := by decide +kernel

theorem output_loadedLine : output [loadedLine] = ["Loaded image: a:b"] := by decide +kernel

/-- A response of one line and the line that names a tag. -/
def taggedAfter (line : Bytes) : Stream := .ofBytes (line ++ (carriageReturn :: lineFeed :: loadedLine))

theorem taggedAfter_lines {line : Bytes} (h : lineFeed ∉ line) :
    (taggedAfter line).lines = [line, loadedLine] := by
  have hcut : cut [] loadedLine = ([], loadedLine.reverse) := by decide +kernel
  have hbytes : (taggedAfter line).bytes = line ++ (carriageReturn :: lineFeed :: loadedLine) := by
    simp [taggedAfter, Stream.ofBytes, Stream.bytes]
  have hne : (loadedLine.reverse.isEmpty) = false := by decide +kernel
  rw [Stream.lines, linesOf_eq_cut, hbytes, cut_append, cut_of_not_mem h]
  simp [cut, finish, hcut, carriageReturn, lineFeed, taggedAfter, Stream.isComplete, Stream.ofBytes, hne]

/-- A line that is read as text hides nothing of what comes after it. -/
theorem loadArchive_taggedAfter {line : Bytes} {s : String} (hfeed : lineFeed ∉ line)
    (h : content line = .ok s) :
    ((answering (taggedAfter line)).loadArchive ⟨[]⟩ none 0 ()).ending = .value "a:b" := by
  have hlast : (taggedAfter line).last? = some (.ok "Loaded image: a:b") := by
    have hend : (taggedAfter line).ending = .complete 0 := rfl
    simp only [Stream.last?, taggedAfter_lines hfeed, failure?_cons_ok h, failure?_loadedLine,
      output_cons_ok h, output_loadedLine, hend,
      List.getLast?_append, List.getLast?_singleton, Option.some_or, Option.getD_some]
  have houtcome : (taggedAfter line).outcome? = some (.ok "a:b") := by
    simp only [Stream.outcome?, hlast, Option.map_some, Except.bind, defaultTag_loaded]
  rcases loadArchive_of_taken (h := answering (taggedAfter line)) (d := none) (t := 0) (w := ())
    rfl rfl with ⟨-, hd⟩ | ⟨he, -⟩
  · exact absurd rfl hd
  · rw [he, houtcome]; rfl

/-- **When an error that a message reports is sure to fail the attempt.** No response with the line, a JSON
object, in it is taken for a success exactly if the object is a message that tells the text of an error. -/
theorem error_line_never_succeeds_iff {line : Bytes} {text : String} {members : EngineMessage.TreeMembers}
    (hfeed : lineFeed ∉ line) (htext : Utf8.text line = .ok text)
    (hobject : Tree.readLoose (Utf8.Piece.ofText text.toList) = .ok (.object members)) :
    (∀ {σ : Type} (h : Host σ) (path : Path) (d : Deadline) (t : Time) (w : σ) (archive : Archive) (ms : Nat)
        (s : Stream), h.openFile path t w = .ok archive →
        (h.runtime.load archive t w).outcome = some (ms, .ok s) → line ∈ s.lines →
        ∀ tag, (h.loadArchive path d t w).ending ≠ .value tag) ↔
      EngineMessage.Typed members ∧ EngineMessage.Tells members := by
  rw [← Frame.isError_iff hobject]
  constructor
  · intro hnever
    refine Classical.byContradiction fun herror => ?_
    obtain ⟨s, hs⟩ := (content_isOk_iff htext).2 herror
    have hline : line ∈ (taggedAfter line).lines := by rw [taggedAfter_lines hfeed]; exact List.mem_cons_self
    exact hnever (answering (taggedAfter line)) ⟨[]⟩ none 0 () _ 0 _ rfl rfl hline "a:b"
      (loadArchive_taggedAfter hfeed hs)
  · rintro ⟨message, herror⟩ σ h path d t w archive ms s hopen hload hline tag htag
    have hcontent : content line = .error (.rejected message) := by simp only [content, htext, herror]
    obtain ⟨e, he⟩ := failure?_isSome hline hcontent
    rcases loadArchive_of_taken (d := d) hopen hload with ⟨hu, -⟩ | ⟨hr, -⟩
    · rw [hu] at htag; cases htag
    · rw [htag, Stream.outcome?, Stream.last?, he] at hr
      simp [Except.bind, Ending.of?] at hr

/-- The text of an error, and a number where a message has a text. -/
def untypedMessage : String := "\x7b\"error\":\"no space left on device\",\"status\":5\x7d"

/-- The error that it reports is not seen. -/
theorem untypedMessage_is_missed :
    ∃ members, Tree.readLoose (Utf8.Piece.ofText untypedMessage.toList) = .ok (.object members) ∧
      EngineMessage.Reports members ∧
      Utf8.encode untypedMessage ∈ (taggedAfter (Utf8.encode untypedMessage)).lines ∧
      ((answering (taggedAfter (Utf8.encode untypedMessage))).loadArchive ⟨[]⟩ none 0 ()).ending =
        .value "a:b" := by
  have hfeed : lineFeed ∉ Utf8.encode untypedMessage := by decide +kernel
  have hread : Tree.readLoose (Utf8.Piece.ofText untypedMessage.toList) =
      .ok (.object [(some "error", .string (some "no space left on device")),
        (some "status", .number (some (.integer 5)))]) := by cbv
  have hcontent : content (Utf8.encode untypedMessage) = .ok untypedMessage := by cbv
  have hreports : EngineMessage.Reports [(some "error", Tree.string (some "no space left on device")),
      (some "status", .number (some (.integer 5)))] := ⟨_, List.mem_cons_self, .inl rfl, by simp⟩
  refine ⟨_, hread, hreports, ?_, loadArchive_taggedAfter hfeed hcontent⟩
  rw [taggedAfter_lines hfeed]
  exact List.mem_cons_self

/-- A message that tells the text of an error. -/
def errorMessage : String := "\x7b\"errorDetail\":\x7b\"message\":\"no space left on device\"\x7d\x7d"

theorem errorMessage_never_succeeds :
    lineFeed ∉ Utf8.encode errorMessage ∧ Utf8.text (Utf8.encode errorMessage) = .ok errorMessage ∧
      Tree.readLoose (Utf8.Piece.ofText errorMessage.toList) = .ok (.object
        [(some "errorDetail", .object [(some "message", .string (some "no space left on device"))])]) ∧
      ((answering (taggedAfter (Utf8.encode errorMessage))).loadArchive ⟨[]⟩ none 0 ()).ending ≠
        .value "a:b" := by
  have hfeed : lineFeed ∉ Utf8.encode errorMessage := by decide +kernel
  have htext : Utf8.text (Utf8.encode errorMessage) = .ok errorMessage := by cbv
  have hread : Tree.readLoose (Utf8.Piece.ofText errorMessage.toList) = .ok (.object
      [(some "errorDetail", .object [(some "message", .string (some "no space left on device"))])]) := by cbv
  have hline : Utf8.encode errorMessage ∈ (taggedAfter (Utf8.encode errorMessage)).lines := by
    rw [taggedAfter_lines hfeed]
    exact List.mem_cons_self
  refine ⟨hfeed, htext, hread, ?_⟩
  exact (error_line_never_succeeds_iff hfeed htext hread).2
    ⟨EngineMessage.ofMembers?_isSome.1 rfl, .inr ⟨_, List.mem_cons_self, .object List.mem_cons_self⟩⟩
    (answering (taggedAfter (Utf8.encode errorMessage))) ⟨[]⟩ none 0 () _ 0 _ rfl rfl hline "a:b"

end Host

end FlakeImage
