import FlakeImage.Proofs.ExitCode
import FlakeImage.Proofs.Messages
import FlakeImage.Proofs.Recovery
import FlakeImage.Proofs.Trimming
import FlakeImage.Proofs.Utf8

/-!
# The line that names an image

A lookup that succeeds names an image by the first line of its output that is not white space only, without the white
space around it (`NamesImage`), or it names none if there is no such line. All that follows of an image that is
looked up and tagged comes from one law: of two outputs with a line feed between them, the first one counts if it
names an image, and the second one otherwise (`firstId_append_lineFeed`).
-/

namespace FlakeImage

open Response (lineFeed carriageReturn)

variable {σ : Type}

namespace Text
variable {s line core after : List Char}

/-- The core of a line stands between white space, and neither begins nor ends with it. -/
def HasCore (line core : List Char) : Prop :=
  ∃ before after, line = before ++ (core ++ after) ∧ isBlankText before = true ∧ isBlankText after = true ∧
    (∀ c, core.head? = some c → isBlank c = false) ∧ ∀ c, core.getLast? = some c → isBlank c = false

theorem trim_eq_iff : trim line = core ↔ HasCore line core := by
  constructor
  · rintro rfl
    obtain ⟨before, after, hline, hbefore, hafter⟩ := exists_surrounded line
    exact ⟨before, after, hline, hbefore, hafter, fun _ => visible_of_trim_head, fun _ => visible_of_trim_last⟩
  · rintro ⟨before, after, rfl, hbefore, hafter, hhead, hlast⟩
    exact trim_surrounded hbefore hafter hhead hlast

theorem trim_withoutReturn (s : List Char) : trim (withoutReturn s) = trim s := by
  rcases withoutReturn_cases s with ⟨-, hs⟩ | hs
  · rw [hs]
  · have hreturn : trim (withoutReturn s ++ ['\r']) = trim (withoutReturn s) := trim_append_blank (by decide) _
    rw [← hs] at hreturn
    exact hreturn.symm

/-! ### The first line that is not blank -/

/-- What trimming leaves of the first line that is not blank. -/
def firstCore (lines : List (List Char)) : Option (List Char) := (lines.map trim).find? fun l => !l.isEmpty

theorem firstCore_append (ls ls' : List (List Char)) :
    firstCore (ls ++ ls') = (firstCore ls).or (firstCore ls') := by
  rw [firstCore, List.map_append, List.find?_append]
  rfl

theorem firstCore_cons (l : List Char) (ls : List (List Char)) :
    firstCore (l :: ls) = (firstCore [l]).or (firstCore ls) := firstCore_append [l] ls

theorem firstCore_eq_none_iff {ls : List (List Char)} : firstCore ls = none ↔ ∀ l ∈ ls, isBlankText l = true := by
  simp [firstCore, trim_eq_nil_iff]

theorem firstCore_eq_some_iff {ls : List (List Char)} : firstCore ls = some core ↔
    ∃ before line after, ls = before ++ line :: after ∧ (∀ l ∈ before, isBlankText l = true) ∧
      isBlankText line = false ∧ HasCore line core := by
  have hempty {l : List Char} : (trim l).isEmpty = isBlankText l := by
    rw [Bool.eq_iff_iff, List.isEmpty_iff, trim_eq_nil_iff]
  rw [firstCore, List.find?_eq_some_iff_append]
  constructor
  · rintro ⟨hcore, as, bs, hls, has⟩
    obtain ⟨before, rest, rfl, rfl, hrest⟩ := List.map_eq_append_iff.1 hls
    obtain ⟨line, after, rfl, rfl, rfl⟩ := List.map_eq_cons_iff.1 hrest
    refine ⟨before, line, after, rfl, fun l hl => ?_, ?_, trim_eq_iff.1 rfl⟩
    · simpa [hempty] using has _ (List.mem_map_of_mem hl)
    · simpa [hempty] using hcore
  · rintro ⟨before, line, after, rfl, hbefore, hline, hcore⟩
    obtain rfl := trim_eq_iff.2 hcore
    refine ⟨by simp [hempty, hline], before.map trim, after.map trim, by simp, fun s hs => ?_⟩
    obtain ⟨l, hl, rfl⟩ := List.mem_map.1 hs
    simpa [hempty] using hbefore l hl

/-- A text has the same first line whether its lines end with line feeds alone or also with a carriage return, and
whether its last line is empty or not there. -/
theorem firstCore_lines (s : List Char) : firstCore (lines s) = firstCore (s.splitOn '\n') := by
  suffices hfrom : ∀ line, firstCore (linesFrom line s) = firstCore (s.splitOnPPrepend (· == '\n') line) from
    (hfrom []).trans (by rw [List.splitOnPPrepend_nil_right]; rfl)
  intro line
  fun_induction linesFrom line s with
  | case1 line hempty =>
    obtain rfl := List.isEmpty_iff.1 hempty
    rfl
  | case2 line hempty => rfl
  | case3 line s ih =>
    have hline : firstCore [(dropCarriageReturn line).reverse] = firstCore [line.reverse] := by
      have htrim := trim_withoutReturn line.reverse
      rw [withoutReturn, List.reverse_reverse] at htrim
      simp only [firstCore, List.map_singleton, htrim]
    rw [List.splitOnPPrepend_cons_pos rfl, firstCore_cons, hline, ih, List.splitOnPPrepend_nil_right, ← firstCore_cons]
  | case4 line c s hc ih => rw [ih, List.splitOnPPrepend_cons_neg (by simpa using hc)]

theorem firstCore_splitOn_return (s : List Char) :
    firstCore ((s ++ ['\r']).splitOn '\n') = firstCore (s.splitOn '\n') := by
  suffices hfrom : ∀ line, firstCore ((s ++ ['\r']).splitOnPPrepend (· == '\n') line) =
      firstCore (s.splitOnPPrepend (· == '\n') line) by
    simpa only [List.splitOnPPrepend_nil_right, ← List.splitOn_eq_splitOnP] using hfrom []
  intro line
  induction s generalizing line with
  | nil =>
    have htrim : trim (line.reverse ++ ['\r']) = trim line.reverse := trim_append_blank (by decide) _
    simp [List.splitOnPPrepend_cons_neg, firstCore, htrim]
  | cons c s ih =>
    rw [List.cons_append, List.splitOnPPrepend_cons_eq_if, List.splitOnPPrepend_cons_eq_if]
    split
    · rw [firstCore_cons, firstCore_cons _ (List.splitOnP _ _), ← List.splitOnPPrepend_nil_right, ih,
        List.splitOnPPrepend_nil_right]
    · exact ih _

end Text

namespace Docker

/-- The image is named by the first line of the output that is not white space only. -/
def NamesImage (stdout : Bytes) (image : ImageId) : Prop :=
  ∃ before line after, (Utf8.shown stdout).splitOn '\n' = before ++ line :: after ∧
    (∀ l ∈ before, Text.isBlankText l = true) ∧ Text.isBlankText line = false ∧ Text.HasCore line image.text.toList

theorem firstId_eq (stdout : Bytes) :
    firstId stdout = (Text.firstCore ((Utf8.shown stdout).splitOn '\n')).map fun l => ⟨String.ofList l⟩ :=
  congrArg (Option.map _) (Text.firstCore_lines (Utf8.shown stdout))

theorem firstId_eq_none_iff {stdout : Bytes} :
    firstId stdout = none ↔ ∀ l ∈ (Utf8.shown stdout).splitOn '\n', Text.isBlankText l = true := by
  rw [firstId_eq, Option.map_eq_none_iff, Text.firstCore_eq_none_iff]

theorem firstId_eq_some_iff {stdout : Bytes} {image : ImageId} :
    firstId stdout = some image ↔ NamesImage stdout image := by
  rw [firstId_eq, NamesImage, ← Text.firstCore_eq_some_iff, Option.map_eq_some_iff]
  constructor
  · rintro ⟨core, hcore, rfl⟩
    rwa [String.toList_ofList]
  · intro h
    exact ⟨_, h, by rw [String.ofList_toList]⟩

/-! ### Outputs put together -/

theorem firstId_append_lineFeed (stdout rest : Bytes) :
    firstId (stdout ++ lineFeed :: rest) = (firstId stdout).or (firstId rest) := by
  have hshown : Utf8.shown (stdout ++ lineFeed :: rest) = Utf8.shown stdout ++ '\n' :: Utf8.shown rest :=
    Utf8.shown_append_small (by decide) stdout rest
  rw [firstId_eq, firstId_eq, firstId_eq, hshown, List.splitOn_append_cons_self, Text.firstCore_append, Option.map_or]

theorem firstId_append_returns (stdout : Bytes) (n : Nat) :
    firstId (stdout ++ List.replicate n carriageReturn) = firstId stdout := by
  induction n with
  | zero => rw [List.replicate_zero, List.append_nil]
  | succ n ih =>
    have hshown (x : Bytes) : Utf8.shown (x ++ [carriageReturn]) = Utf8.shown x ++ ['\r'] :=
      Utf8.shown_append_small (by decide) x []
    rw [List.replicate_succ', ← List.append_assoc, firstId_eq, hshown, Text.firstCore_splitOn_return, ← firstId_eq, ih]

end Docker

/-! ### Lookups -/

/-- The image has a name on one line, with no white space at its ends. -/
structure ImageId.IsClean (image : ImageId) : Prop where
  not_empty : image.text ≠ ""
  one_line : '\n' ∉ image.text.toList
  head : ∀ c, image.text.toList.head? = some c → Text.isBlank c = false
  last : ∀ c, image.text.toList.getLast? = some c → Text.isBlank c = false

namespace Docker

theorem isClean_of_firstId {stdout : Bytes} {image : ImageId} (h : firstId stdout = some image) : image.IsClean := by
  obtain ⟨core, hfound, rfl⟩ := Option.map_eq_some_iff.1 h
  obtain ⟨line, hline, rfl⟩ := List.mem_map.1 (List.mem_of_find?_eq_some hfound)
  obtain ⟨before, after, hsplit, -, -, hhead, hlast⟩ := Text.trim_eq_iff.1 (rfl : Text.trim line = _)
  have hvisible := List.find?_some hfound
  have htext : (String.ofList (Text.trim line)).toList = Text.trim line := String.toList_ofList
  refine ⟨fun hempty => ?_, fun hmem => ?_, fun c hc => hhead c (htext ▸ hc), fun c hc => hlast c (htext ▸ hc)⟩
  · have hnil : Text.trim line = [] :=
      htext.symm.trans ((congrArg String.toList hempty).trans String.toList_empty)
    rw [hnil] at hvisible
    cases hvisible
  · have hfeed : '\n' ∈ line := by
      rw [hsplit]
      exact List.mem_append_right _ (List.mem_append_left _ (htext ▸ hmem))
    exact Text.lineFeed_not_mem_of_mem_lines hline hfeed

/-- **An image is named by the first line that is not blank.** A lookup finds what the output of its program names, if
this ends in time and with success. With the output split at its line feeds, there is no image exactly if all lines
are blank; otherwise it is the one that the first other line names, without the white space around it. So whatever a
build is to tag has a name on one line, with no white space at its ends. The image is the same whatever blank lines
stand before this line, whatever carriage returns at its end, and whatever comes after it. -/
theorem lookup_first_line (p : Programs σ) (program : String) :
    (∀ reference deadline t v found,
      ((runtime p program).imageId reference t v).answer? deadline t = some (.ok found) ↔
        ∃ f, p.Ends { program, arguments := lookupArguments reference } deadline t v (.ok f) ∧
          f.status.isSuccess = true ∧ firstId f.stdout = found) ∧
    (∀ stdout, firstId stdout = none ↔ ∀ l ∈ (Utf8.shown stdout).splitOn '\n', Text.isBlankText l = true) ∧
    (∀ stdout image, firstId stdout = some image ↔ NamesImage stdout image) ∧
    (∀ (b : Builder σ) (cancel : Cancel) (r : Request) (d : Deadline) (t : Time) (w : σ),
      b.host.runtime = runtime p program → ∀ image name a,
        .tag image name a ∈ (b.host.exchanges cancel d w (b.build cancel r d t w).journal.calls).1 →
          image.IsClean) ∧
    (∀ blank stdout, (∀ l ∈ (Utf8.shown blank).splitOn '\n', Text.isBlankText l = true) →
      firstId (blank ++ lineFeed :: stdout) = firstId stdout) ∧
    (∀ stdout n rest, firstId (stdout ++ List.replicate n carriageReturn) = firstId stdout ∧
      firstId (stdout ++ List.replicate n carriageReturn ++ lineFeed :: rest) = firstId (stdout ++ lineFeed :: rest)) ∧
    ∀ stdout image rest, firstId stdout = some image → firstId (stdout ++ lineFeed :: rest) = some image := by
  refine ⟨fun reference deadline t v found => query_answer?_eq_ok_iff, fun stdout => firstId_eq_none_iff,
    fun stdout image => firstId_eq_some_iff, fun b cancel r d t w hruntime image name a hmem => ?_,
    fun blank stdout hblank => ?_, fun stdout n rest => ⟨firstId_append_returns stdout n, ?_⟩,
    fun stdout image rest himage => ?_⟩
  · obtain ⟨reference, hfound⟩ := (Builder.build_follows b cancel r d t w).course.found_of_tag_mem hmem
    obtain ⟨t', v, -, hanswer⟩ := (answers_exchanges hruntime ..).found reference _ hfound
    obtain ⟨f, -, -, hid⟩ := (hanswer image).1 rfl
    exact isClean_of_firstId hid
  · rw [firstId_append_lineFeed, firstId_eq_none_iff.2 hblank, Option.none_or]
  · rw [firstId_append_lineFeed, firstId_append_returns, firstId_append_lineFeed]
  · rw [firstId_append_lineFeed, himage, Option.some_or]

def paddedId : Bytes := "\r\n\t \n  sha256:1 \r\r\nsha256:2\n".toUTF8.toList

/-- Programs that succeed at once; the lookup writes blank lines, an id in white space and another id. -/
def paddedPrograms : Programs Unit where
  start launch _ w :=
    let stdout := match launch.arguments with
      | "load" :: _ => Host.loadedLine
      | "images" :: _ => paddedId
      | _ => []
    .ok (.now w ⟨.ok ⟨.code 0, stdout, []⟩, .ok ()⟩)

def padded : Builder Unit := { Builder.ready with host.runtime := runtime paddedPrograms "docker" }

theorem padded_lookup :
    let calls := (padded.build .never Builder.readyRequest none 0 ()).journal.calls
    let xs := (padded.host.exchanges .never none () calls).1
    NamesImage paddedId ⟨"sha256:1"⟩ ∧
    ((runtime paddedPrograms "docker").imageId "a:b" 0 ()).answer? none 0 = some (.ok (some ⟨"sha256:1"⟩)) ∧
    ∃ image name a, .tag image name a ∈ xs ∧ image = ⟨"sha256:1"⟩ ∧ image.IsClean := by
  obtain ⟨hanswer, -, hnames, hclean, -⟩ := lookup_first_line paddedPrograms "docker"
  have hid : firstId paddedId = some ⟨"sha256:1"⟩ := by decide +kernel
  have hends : paddedPrograms.Ends { program := "docker", arguments := lookupArguments "a:b" } none 0 ()
      (.ok ⟨.code 0, paddedId, []⟩) :=
    .ended (c := ⟨.ok ⟨.code 0, paddedId, []⟩, .ok ()⟩) rfl rfl rfl
  have htool : padded.host.tool.TagsNothing := nofun
  have himage : CommandLine.Session.image? (padded.build .never Builder.readyRequest none 0 ()).ending =
      some ⟨"sha256:1"⟩ := by
    decide +kernel
  obtain ⟨name, a, htag⟩ := (CommandLine.Session.image?_build_eq_some_iff htool).1 himage
  exact ⟨(hnames ..).1 hid, (hanswer ..).2 ⟨_, hends, rfl, hid⟩, _, name, _, htag, rfl,
    hclean padded .never Builder.readyRequest none 0 () rfl _ _ _ htag⟩

end Docker

end FlakeImage
