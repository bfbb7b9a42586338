import FlakeImage.Proofs.Channels
import FlakeImage.Proofs.Pieces
import FlakeImage.Proofs.Trimming

/-!
# The archive that an output names

The build tool prints where the archive is, on a line that may end in several ways. `NamesArchive` says which path an
output names: the bytes before the line endings at its end, with a replacement character for each broken run of them.
The path is read off the text that is shown for the whole output, and it is the same one (`outputPath_ended`): a broken
run before a line ending is shown as it would be without it.
-/

namespace FlakeImage

open Response (lineFeed carriageReturn)

variable {σ : Type}

/-- The byte ends a line. -/
def EndsLine (b : UInt8) : Prop := b = carriageReturn ∨ b = lineFeed

instance : DecidablePred EndsLine := fun b => inferInstanceAs (Decidable (b = carriageReturn ∨ b = lineFeed))

/-- The output names this archive. -/
def NamesArchive (stdout : Bytes) (path : Path) : Prop :=
  ∃ named ending pieces, stdout = named ++ ending ∧ named ≠ [] ∧ (∀ b ∈ ending, EndsLine b) ∧
    (∀ b, named.getLast? = some b → ¬ EndsLine b) ∧ Utf8.Cut named pieces ∧
    path = .ofString (String.ofList (pieces.map Utf8.Piece.shown))

/-! ### Endings of lines -/

section Ended
variable {stdout named ending : Bytes} {path : Path}

theorem EndsLine.small {b : UInt8} (h : EndsLine b) : b.toNat < 0x80 := by
  rcases h with rfl | rfl <;> decide

theorem EndsLine.isLineEnd {b : UInt8} (h : EndsLine b) : Text.isLineEnd (Char.ofNat b.toNat) = true := by
  rcases h with rfl | rfl <;> rfl

theorem exists_ended (stdout : Bytes) : ∃ named ending, stdout = named ++ ending ∧ (∀ b ∈ ending, EndsLine b) ∧
    (∀ b, named.getLast? = some b → ¬ EndsLine b) ∧ stdout.rdropWhile (EndsLine ·) = named := by
  let p (b : UInt8) : Bool := decide (EndsLine b)
  refine ⟨stdout.rdropWhile p, stdout.rtakeWhile p, List.rdropWhile_append_rtakeWhile.symm,
    fun b hb => of_decide_eq_true (List.mem_rtakeWhile_imp hb : p b = true), fun b hb => ?_, rfl⟩
  have hne : stdout.rdropWhile p ≠ [] := List.ne_nil_of_mem (List.mem_of_getLast? hb)
  have hlast : ¬ p ((stdout.rdropWhile p).getLast hne) = true := List.rdropWhile_last_not p stdout hne
  rw [List.getLast?_eq_some_getLast hne] at hb
  obtain rfl := Option.some.inj hb
  exact fun h => hlast (decide_eq_true h)

/-- A text is shown with the ending of a line last only if its bytes have one last. -/
theorem isLineEnd_of_shown (hnamed : ∀ b, named.getLast? = some b → ¬ EndsLine b) {c : Char}
    (hc : (Utf8.shown named).getLast? = some c) : Text.isLineEnd c = false := by
  rw [Text.isLineEnd_eq_false_iff]
  constructor
  · rintro rfl
    exact hnamed _ (Utf8.getLast?_of_shown hc (by decide)) (.inl rfl)
  · rintro rfl
    exact hnamed _ (Utf8.getLast?_of_shown hc (by decide)) (.inr rfl)

/-- Line endings can be taken off before the bytes are read or afterwards. -/
theorem chomp_shown (hending : ∀ b ∈ ending, EndsLine b) (hnamed : ∀ b, named.getLast? = some b → ¬ EndsLine b) :
    Text.chomp (Utf8.shown (named ++ ending)) = Utf8.shown named := by
  refine Text.chomp_eq_iff.2 ⟨_, Utf8.shown_append_of_small fun b hb => (hending b hb).small, fun c hc => ?_,
    fun c hc => isLineEnd_of_shown hnamed hc⟩
  obtain ⟨b, hb, rfl⟩ := List.mem_map.1 hc
  exact (hending b hb).isLineEnd

theorem outputPath_ended (hending : ∀ b ∈ ending, EndsLine b)
    (hnamed : ∀ b, named.getLast? = some b → ¬ EndsLine b) :
    outputPath (named ++ ending) = if named = [] then .error .noOutput else .ok (.ofString (Utf8.lossy named)) := by
  rw [outputPath, chomp_shown hending hnamed]
  simp only [List.isEmpty_iff, Utf8.shown_eq_nil_iff]
  rfl

end Ended

/-! ### Paths -/

theorem outputPath_eq_error_iff {stdout : Bytes} : outputPath stdout = .error .noOutput ↔ ∀ b ∈ stdout, EndsLine b := by
  obtain ⟨named, ending, rfl, hending, hnamed, -⟩ := exists_ended stdout
  rw [outputPath_ended hending hnamed]
  constructor
  · intro h
    split_ifs at h with hempty
    rw [hempty]
    exact hending
  · intro h
    cases hlast : named.getLast? with
    | none => exact if_pos (List.getLast?_eq_none_iff.1 hlast)
    | some b => exact absurd (h b (List.mem_append_left _ (List.mem_of_getLast? hlast))) (hnamed b hlast)

theorem outputPath_eq_ok_iff {stdout : Bytes} {path : Path} :
    outputPath stdout = .ok path ↔ NamesArchive stdout path := by
  constructor
  · obtain ⟨named, ending, rfl, hending, hnamed, -⟩ := exists_ended stdout
    rw [outputPath_ended hending hnamed]
    intro h
    split_ifs at h with hempty
    exact ⟨named, ending, Utf8.pieces named, rfl, hempty, hending, hnamed, Utf8.pieces_eq_iff.1 rfl,
      (Except.ok.inj h).symm⟩
  · rintro ⟨named, ending, pieces, rfl, hne, hending, hnamed, hcut, rfl⟩
    rw [outputPath_ended hending hnamed, if_neg hne, ← Utf8.pieces_eq_iff.2 hcut]
    rfl

theorem outputPath_append_ending {ending : Bytes} (hending : ∀ b ∈ ending, EndsLine b) (stdout : Bytes) :
    outputPath (stdout ++ ending) = outputPath stdout := by
  obtain ⟨named, ending', rfl, hending', hnamed, -⟩ := exists_ended stdout
  rw [List.append_assoc, outputPath_ended (List.forall_mem_append.2 ⟨hending', hending⟩) hnamed,
    outputPath_ended hending' hnamed]

section Encode
variable {s : List Char}

theorem not_endsLine_of_encode (hs : ∀ c, s.getLast? = some c → Text.isLineEnd c = false) (b : UInt8)
    (hb : (Utf8.encode (String.ofList s)).getLast? = some b) : ¬ EndsLine b := by
  rintro (rfl | rfl)
  · have hlast : s.getLast? = some '\r' := (Utf8.getLast?_encode_iff (by decide)).1 hb
    exact absurd (hs _ hlast) (by decide)
  · have hlast : s.getLast? = some '\n' := (Utf8.getLast?_encode_iff (by decide)).1 hb
    exact absurd (hs _ hlast) (by decide)

theorem outputPath_encode {ending : Bytes} (hne : s ≠ []) (hs : ∀ c, s.getLast? = some c → Text.isLineEnd c = false)
    (hending : ∀ b ∈ ending, EndsLine b) :
    outputPath (Utf8.encode (String.ofList s) ++ ending) = .ok (.ofString (String.ofList s)) := by
  rw [outputPath_ended hending (not_endsLine_of_encode hs), if_neg, Utf8.lossy, Utf8.shown_encode, String.toList_ofList]
  rwa [Utf8.encode_eq_nil_iff, String.toList_ofList]

end Encode

/-- A path that an output names has a name on one line. -/
theorem NamesArchive.unended {stdout : Bytes} {path : Path} (h : NamesArchive stdout path) :
    path.bytes ≠ [] ∧ ∀ b, path.bytes.getLast? = some b → ¬ EndsLine b := by
  obtain ⟨named, ending, pieces, rfl, hne, hending, hnamed, hcut, rfl⟩ := h
  obtain rfl := Utf8.pieces_eq_iff.2 hcut
  refine ⟨fun hempty => ?_, not_endsLine_of_encode fun c => isLineEnd_of_shown hnamed⟩
  rw [Path.ofString, Utf8.encode_eq_nil_iff, String.toList_ofList] at hempty
  exact hne (Utf8.shown_eq_nil_iff.1 hempty)

/-! ### The tool -/

/-- An answer comes before the cancellation, or it is not the one that has been raced for. -/
theorem Reply.answer?_racing_eq_ok_iff {ε α : Type} {stopped : ε} {cancel : Cancel} {d : Deadline} {t : Time}
    {r : Reply σ (Except ε α)} {a : α} : (r.racing stopped cancel t).answer? d t = some (.ok a) ↔
      cancel.noticed t = false ∧ r.answer? (cancel.deadline.earlier d) t = some (.ok a) := by
  constructor
  · intro h
    obtain ⟨ms, ho, hmisses⟩ := answer?_eq_some_iff.1 h
    cases hn : cancel.noticed t with
    | true => simp [racing, hn] at ho
    | false =>
      refine ⟨rfl, ?_⟩
      cases hcancel : cancel.deadline with
      | none =>
        have hracing : r.racing stopped cancel t = r := by simp [racing, hn, hcancel]
        rw [hracing] at h
        exact h
      | some c =>
        cases hr : r.outcome with
        | none => simp [racing, hn, hcancel, hr] at ho
        | some x =>
          cases hmissed : r.misses (some c) t x.1 with
          | true => simp [racing, hn, hcancel, hr, hmissed] at ho
          | false =>
            have hracing : r.racing stopped cancel t = r := by simp [racing, hn, hcancel, hr, hmissed]
            rw [hracing] at ho hmisses
            obtain rfl := Option.some.inj (hr.symm.trans ho)
            refine answer?_eq_some_iff.2 ⟨ms, ho, ?_⟩
            rw [misses_earlier, hmissed, hmisses]
            rfl
  · rintro ⟨hn, h⟩
    exact answer?_racing hn h

namespace Nix

theorem result_eq_ok_iff {c : Completion} {path : Path} :
    result c = .ok path ↔ ∃ f, c.ended = .ok f ∧ f.status.isSuccess = true ∧ NamesArchive f.stdout path := by
  cases hended : c.ended with
  | error e => simp [result, hended]
  | ok f => cases hf : f.status.isSuccess <;> simp [result, hended, hf, outputPath_eq_ok_iff]

theorem tool_answer?_eq_ok_iff {p : Programs σ} {program : String} {target : Target} {cancel : Cancel} {d : Deadline}
    {t : Time} {v : σ} {path : Path} :
    ((tool p program).build target cancel t v).answer? d t = some (.ok path) ↔ cancel.noticed t = false ∧
      ∃ f fed, p.Completes (launch program target) (cancel.deadline.earlier d) t v ⟨.ok f, fed⟩ ∧
        f.status.isSuccess = true ∧ NamesArchive f.stdout path := by
  cases hstart : p.start (launch program target) t v with
  | error e => simp [tool, hstart, Reply.answer?, Reply.misses, Programs.Completes]
  | ok reply =>
    simp only [tool, hstart]
    refine Reply.answer?_racing_eq_ok_iff.trans (and_congr_right fun _ => ?_)
    have hmap := Reply.answer?_map result reply (cancel.deadline.earlier d) t
    constructor
    · intro h
      obtain ⟨c, hanswer, hc⟩ := Option.map_eq_some_iff.1 (hmap.symm.trans h)
      obtain ⟨f, hended, hf⟩ := result_eq_ok_iff.1 hc
      obtain ⟨ended, fed⟩ := c
      obtain rfl : ended = .ok f := hended
      exact ⟨f, fed, ⟨reply, hstart, hanswer⟩, hf⟩
    · rintro ⟨f, fed, ⟨reply', hstart', hanswer⟩, hf⟩
      obtain rfl := Except.ok.inj (hstart.symm.trans hstart')
      refine hmap.trans ?_
      rw [hanswer, Option.map_some, result_eq_ok_iff.2 ⟨f, rfl, hf⟩]

/-- **The archive that an output names.** An output names no archive exactly if it has nothing but line endings; any
other names one, and the tool gives it exactly if the program has ended with success before the build is cancelled.
The path is what is shown of the bytes before the line endings at the end. These can be taken off before the bytes are
read or afterwards, whatever is broken before them. So a text that does not end with the ending of a line is the path
that it names with any line endings after it; more of them never change a path; and no path is empty or ends with the
ending of a line. -/
theorem output_names_archive (p : Programs σ) (program : String) :
    (∀ stdout, outputPath stdout = .error .noOutput ↔ ∀ b ∈ stdout, EndsLine b) ∧
    (∀ stdout path, outputPath stdout = .ok path ↔ NamesArchive stdout path) ∧
    (∀ target cancel d t v path, ((tool p program).build target cancel t v).answer? d t = some (.ok path) ↔
      cancel.noticed t = false ∧
        ∃ f fed, p.Completes (launch program target) (cancel.deadline.earlier d) t v ⟨.ok f, fed⟩ ∧
          f.status.isSuccess = true ∧ NamesArchive f.stdout path) ∧
    (∀ stdout, let named := stdout.rdropWhile (EndsLine ·)
      Text.chomp (Utf8.shown stdout) = Utf8.shown named ∧
        (named ≠ [] → outputPath stdout = .ok (.ofString (Utf8.lossy named)))) ∧
    (∀ (text : String) ending, text ≠ "" → (∀ c, text.toList.getLast? = some c → c ≠ '\r' ∧ c ≠ '\n') →
      (∀ b ∈ ending, EndsLine b) → outputPath (Utf8.encode text ++ ending) = .ok ⟨Utf8.encode text⟩) ∧
    (∀ stdout ending, (∀ b ∈ ending, EndsLine b) → outputPath (stdout ++ ending) = outputPath stdout) ∧
    ∀ stdout path, outputPath stdout = .ok path →
      path.bytes ≠ [] ∧ ∀ b, path.bytes.getLast? = some b → ¬ EndsLine b := by
  refine ⟨fun stdout => outputPath_eq_error_iff, fun stdout path => outputPath_eq_ok_iff,
    fun target cancel d t v path => tool_answer?_eq_ok_iff, fun stdout => ?_, fun text ending hne hlast hending => ?_,
    fun stdout ending hending => outputPath_append_ending hending stdout,
    fun stdout path h => (outputPath_eq_ok_iff.1 h).unended⟩
  · obtain ⟨named, ending, rfl, hending, hnamed, hdrop⟩ := exists_ended stdout
    rw [hdrop]
    exact ⟨chomp_shown hending hnamed, fun hne => (outputPath_ended hending hnamed).trans (if_neg hne)⟩
  · have htext : text.toList ≠ [] := fun h => hne (String.toList_eq_nil_iff.1 h)
    have hpath := outputPath_encode htext (fun c hc => Text.isLineEnd_eq_false_iff.2 (hlast c hc)) hending
    rwa [String.ofList_toList] at hpath

/-- A character broken off before the ending of the line. -/
def brokenOutput : Bytes := [0x2F, 0xF0, 0x9F, 0x98, 0x0D, 0x0A]

/-- Programs that succeed at once and print such a path. -/
def brokenPrograms : Programs Unit where
  start _ _ w := .ok (.now w ⟨.ok ⟨.code 0, brokenOutput, []⟩, .ok ()⟩)

theorem broken_names_archive :
    ((tool brokenPrograms "nix").build ⟨.ofString "/src", "x86_64-linux", "a"⟩ .never 0 ()).answer? none 0 =
      some (.ok (.ofString "/\uFFFD")) ∧
    outputPath (brokenOutput ++ [0x0A]) = outputPath brokenOutput ∧
    outputPath [0x0D, 0x0A] = .error .noOutput ∧
    outputPath (Utf8.encode "/é" ++ [0x0A, 0x0D]) = .ok ⟨Utf8.encode "/é"⟩ := by
  obtain ⟨hempty, -, htool, -, htext, happend, -⟩ := output_names_archive brokenPrograms "nix"
  have hcut : Utf8.Cut [0x2F, 0xF0, 0x9F, 0x98] [.char '/', .broken [0xF0, 0x9F, 0x98]] :=
    Utf8.pieces_eq_iff.1 (by decide +kernel)
  have hreturn : EndsLine 0x0D := .inl rfl
  have hfeed : EndsLine 0x0A := .inr rfl
  have hnames : NamesArchive brokenOutput (.ofString "/\uFFFD") :=
    ⟨_, [0x0D, 0x0A], _, rfl, by simp, by simp [hreturn, hfeed], by simp [EndsLine, carriageReturn, lineFeed], hcut, rfl⟩
  exact ⟨(htool ..).2 ⟨rfl, _, _, ⟨_, rfl, rfl⟩, rfl, hnames⟩, happend _ _ (by simp [hfeed]),
    (hempty _).2 (by simp [hreturn, hfeed]), htext "/é" _ (by decide) (by simp) (by simp [hreturn, hfeed])⟩

end Nix

end FlakeImage
