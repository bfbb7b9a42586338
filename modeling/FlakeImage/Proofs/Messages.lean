import FlakeImage.Proofs.Delivery
import FlakeImage.Proofs.Grammar
import FlakeImage.Proofs.Utf8

/-!
# Two forms of one response

The command line of the runtime answers a load with plain lines, its engine with messages that hold such lines.
`HoldsLines` says of a message that its text is made of some lines. A response of plain lines and one of messages
that hold the same lines, however they are divided among the messages and written in them, are relayed alike and
come to the same (`loadArchive_messages`): a plain line loses its carriage return where the body is cut, a line
of a message where its text is.
-/

namespace FlakeImage

open Json

namespace Text
variable {s : List Char}

/-- A line without one carriage return at its end. -/
def withoutReturn (s : List Char) : List Char := (dropCarriageReturn s.reverse).reverse

theorem withoutReturn_concat (s : List Char) : withoutReturn (s ++ ['\r']) = s := by
  simp [withoutReturn, dropCarriageReturn]

theorem withoutReturn_of_ne (h : s.getLast? ≠ some '\r') : withoutReturn s = s := by
  rw [withoutReturn, dropCarriageReturn, List.reverse_reverse]
  intro r hr
  rw [← List.head?_reverse, hr] at h
  exact h rfl

/-- A line is the same without its carriage return, or it ends with one. -/
theorem withoutReturn_cases (s : List Char) :
    (s.getLast? ≠ some '\r' ∧ withoutReturn s = s) ∨ s = withoutReturn s ++ ['\r'] := by
  by_cases h : s.getLast? = some '\r'
  · obtain ⟨init, rfl⟩ := List.getLast?_eq_some_iff.1 h
    exact .inr (by rw [withoutReturn_concat])
  · exact .inl ⟨h, withoutReturn_of_ne h⟩

theorem mem_of_mem_withoutReturn {c : Char} (h : c ∈ withoutReturn s) : c ∈ s := by
  rcases withoutReturn_cases s with ⟨-, hs⟩ | hs
  · rwa [hs] at h
  · rw [hs]
    exact List.mem_append_left _ h

/-! ### The lines of a text -/

theorem linesFrom_of_not_mem (h : '\n' ∉ s) (line : List Char) :
    linesFrom line s = if (s.reverse ++ line).isEmpty then [] else [(s.reverse ++ line).reverse] := by
  induction s generalizing line with
  | nil => rfl
  | cons c s ih =>
    have hc : c ≠ '\n' := fun hc => h (hc ▸ List.mem_cons_self)
    rw [linesFrom, ih fun hs => h (List.mem_cons_of_mem c hs)]
    · simp
    · exact hc

theorem linesFrom_append_lineFeed (h : '\n' ∉ s) (line r : List Char) :
    linesFrom line (s ++ '\n' :: r) = (dropCarriageReturn (s.reverse ++ line)).reverse :: linesFrom [] r := by
  induction s generalizing line with
  | nil => rfl
  | cons c s ih =>
    have hc : c ≠ '\n' := fun hc => h (hc ▸ List.mem_cons_self)
    rw [List.cons_append, linesFrom, ih fun hs => h (List.mem_cons_of_mem c hs)]
    · simp
    · exact hc

/-- No line of a text has a line feed in it. -/
theorem lineFeed_not_mem_of_mem_lines {l : List Char} (h : l ∈ lines s) : '\n' ∉ l := by
  suffices hfrom : ∀ line, '\n' ∉ line → l ∈ linesFrom line s → '\n' ∉ l from hfrom [] List.not_mem_nil h
  clear h
  intro line hline hl
  fun_induction linesFrom line s with
  | case1 line hempty => cases hl
  | case2 line hempty =>
    obtain rfl := List.mem_singleton.1 hl
    rwa [List.mem_reverse]
  | case3 line s ih =>
    rcases List.mem_cons.1 hl with rfl | hl
    · have hkept : '\n' ∉ withoutReturn line.reverse := fun hmem =>
        hline (List.mem_reverse.1 (mem_of_mem_withoutReturn hmem))
      rwa [withoutReturn, List.reverse_reverse] at hkept
    · exact ih List.not_mem_nil hl
  | case4 line c s hc ih => exact ih (List.not_mem_cons_of_ne_of_not_mem (Ne.symm hc) hline) hl

/-- The text in which each of some lines ends with a line feed. -/
def ofLines (ls : List (List Char)) : List Char := ls.flatMap (· ++ ['\n'])

theorem lines_ofLines {ls : List (List Char)} (h : ∀ l ∈ ls, '\n' ∉ l) :
    lines (ofLines ls) = ls.map withoutReturn := by
  induction ls with
  | nil => rfl
  | cons l ls ih =>
    obtain ⟨hl, hls⟩ := List.forall_mem_cons.1 h
    have hrest : linesFrom [] (ofLines ls) = ls.map withoutReturn := ih hls
    rw [lines, ofLines, List.flatMap_cons, List.append_assoc, List.singleton_append,
      linesFrom_append_lineFeed hl, List.append_nil, List.map_cons]
    exact congrArg _ hrest

end Text

namespace Response

/-! ### Bodies of lines -/

/-- A body in which each of some texts is a line. -/
def bodyOf (texts : List String) : Bytes := texts.flatMap fun s => Utf8.encode s ++ [lineFeed]

/-- A line as it is read of a body. -/
def stripped (s : String) : String := String.ofList (Text.withoutReturn s.toList)

theorem dropReturn_encode (s : String) : dropReturn (Utf8.encode s) = Utf8.encode (stripped s) := by
  have hlast : (Utf8.encode s).getLast? = some carriageReturn ↔ s.toList.getLast? = some '\r' := by
    have h := Utf8.getLast?_encode_iff (s := s.toList) (x := '\r') (by decide)
    rwa [String.ofList_toList] at h
  rw [dropReturn, stripped]
  rcases Text.withoutReturn_cases s.toList with ⟨hne, hs⟩ | hs
  · rw [if_neg (mt hlast.1 hne), hs, String.ofList_toList]
  · have hend : s.toList.getLast? = some '\r' := by rw [hs, List.getLast?_concat]
    have hbytes : Utf8.encode s =
        Utf8.encode (String.ofList (Text.withoutReturn s.toList)) ++ [carriageReturn] := by
      rw [Utf8.encode, Utf8.encode, String.toList_ofList]
      conv => lhs; rw [hs, List.flatMap_append]
      rfl
    rw [if_pos (hlast.2 hend), hbytes, List.dropLast_concat]

theorem cut_encode_lineFeed {s : String} (h : '\n' ∉ s.toList) (b : Bytes) :
    cut [] (Utf8.encode s ++ lineFeed :: b) = (Utf8.encode (stripped s) :: (cut [] b).1, (cut [] b).2) := by
  have hfeed : lineFeed ∉ Utf8.encode s := mt (Utf8.mem_encode_iff (x := '\n') (by decide)).1 h
  rw [cut_append, cut_of_not_mem hfeed, List.append_nil, cut, if_pos rfl, finish_eq, List.reverse_reverse,
    dropReturn_encode]
  rfl

theorem linesOf_bodyOf (complete : Bool) {texts : List String} (h : ∀ s ∈ texts, '\n' ∉ s.toList) :
    linesOf complete (bodyOf texts) = texts.map fun s => Utf8.encode (stripped s) := by
  have hcut : cut [] (bodyOf texts) = (texts.map fun s => Utf8.encode (stripped s), []) := by
    induction texts with
    | nil => rfl
    | cons s texts ih =>
      obtain ⟨hs, htexts⟩ := List.forall_mem_cons.1 h
      have hrest := ih htexts
      rw [bodyOf, List.flatMap_cons, List.append_assoc, List.singleton_append, cut_encode_lineFeed hs]
      unfold bodyOf at hrest
      rw [hrest, List.map_cons]
  rw [linesOf_eq_cut, hcut]
  cases complete <;> simp

/-- Lines that all are texts are relayed one after the other. -/
theorem output_of_texts {ls : List Bytes} {texts : List String}
    (h : List.Forall₂ (fun l s => content l = .ok s) ls texts) :
    failure? ls = none ∧ output ls = texts.flatMap relayed := by
  induction h with
  | nil => exact ⟨rfl, rfl⟩
  | cons hl _ ih => exact ⟨(failure?_cons_ok hl).trans ih.1, by rw [output_cons_ok hl, ih.2, List.flatMap_cons]⟩

/-! ### Plain lines -/

/-- The line is not blank. -/
def isShown (s : String) : Bool := !Text.isBlankText s.toList

theorem relayed_line {s : String} (h : '\n' ∉ s.toList) : relayed s = [s].filter isShown := by
  rw [relayed, Text.lines, Text.linesFrom_of_not_mem h, List.append_nil, List.reverse_reverse]
  cases hs : s.toList with
  | nil => simp [isShown, Text.isBlankText, hs]
  | cons c r =>
    have hofList : String.ofList (c :: r) = s := by rw [← hs, String.ofList_toList]
    by_cases hblank : Text.isBlankText (c :: r) <;> simp [isShown, hs, hblank, hofList]

/-- White space in front of a line hides what it looks like no more than a carriage return at its end. -/
theorem looksLikeMessage_stripped {s : String} (h : looksLikeMessage s = false) :
    looksLikeMessage (stripped s) = false := by
  rw [looksLikeMessage, stripped, String.toList_ofList]
  rcases Text.withoutReturn_cases s.toList with ⟨-, hs⟩ | hs
  · rw [hs]; exact h
  · rw [looksLikeMessage, hs, Text.trimStart, List.dropWhile_append] at h
    rw [Text.trimStart]
    generalize (Text.withoutReturn s.toList).dropWhile Text.isBlank = r at h ⊢
    cases r with
    | nil => rfl
    | cons c r => exact h

theorem content_plain {s : String} (h : looksLikeMessage s = false) : content (Utf8.encode s) = .ok s := by
  simp [content, Utf8.text_encode, Frame.ofLine, h]

/-- Plain lines are relayed but for those that are blank. -/
theorem output_plain {texts : List String}
    (h : ∀ s ∈ texts, '\n' ∉ s.toList ∧ looksLikeMessage s = false) :
    failure? (texts.map fun s => Utf8.encode (stripped s)) = none ∧
      output (texts.map fun s => Utf8.encode (stripped s)) = (texts.map stripped).filter isShown := by
  have hcontent : List.Forall₂ (fun l s => content l = .ok s) (texts.map fun s => Utf8.encode (stripped s))
      (texts.map stripped) := by
    rw [List.forall₂_map_left_iff, List.forall₂_map_right_iff, List.forall₂_same]
    exact fun s hs => content_plain (looksLikeMessage_stripped (h s hs).2)
  obtain ⟨hnone, hout⟩ := output_of_texts hcontent
  refine ⟨hnone, hout.trans ?_⟩
  clear hcontent hnone hout
  induction texts with
  | nil => rfl
  | cons s texts ih =>
    obtain ⟨hs, htexts⟩ := List.forall_mem_cons.1 h
    have hfeed : '\n' ∉ (stripped s).toList := by
      rw [stripped, String.toList_ofList]
      exact fun hmem => hs.1 (Text.mem_of_mem_withoutReturn hmem)
    rw [List.map_cons, List.flatMap_cons, relayed_line hfeed, ih htexts, List.filter_cons, List.filter_cons]
    cases isShown (stripped s) <;> rfl

/-! ### Messages -/

/-- A message whose text is some lines. -/
def HoldsLines (texts : List String) (message : String) : Prop :=
  ∃ name ∈ ["stream", "status"],
    WritesText name.toList (Text.ofLines (texts.map String.toList)) message.toList

theorem HoldsLines.single_line {texts : List String} {message : String} (h : HoldsLines texts message) :
    '\n' ∉ message.toList ∧ stripped message = message := by
  obtain ⟨name, hname, h⟩ := h
  have hfeed : '\n' ∉ name.toList := by
    fin_cases hname <;> decide
  exact ⟨h.lineFeed_not_mem hfeed,
    by rw [stripped, Text.withoutReturn_of_ne h.getLast?_ne, String.ofList_toList]⟩

theorem content_message {texts : List String} {message : String} (h : HoldsLines texts message) :
    content (Utf8.encode message) = .ok (String.ofList (Text.ofLines (texts.map String.toList))) := by
  obtain ⟨name, hname, h⟩ := h
  have hself : Denotes name.toList name.toList := by
    fin_cases hname <;> exact .self (by simp)
  have hread := readLoose_object hself h
  rw [String.ofList_toList] at hread
  simp only [content, Utf8.text_encode, Frame.ofLine, looksLikeMessage_of_object hread, if_true,
    EngineMessage.ofLine?, hread]
  fin_cases hname <;> rfl

theorem relayed_ofLines {texts : List String} (h : ∀ s ∈ texts, '\n' ∉ s.toList) :
    relayed (String.ofList (Text.ofLines (texts.map String.toList))) = (texts.map stripped).filter isShown := by
  have hlines : ∀ l ∈ texts.map String.toList, '\n' ∉ l := List.forall_mem_map.2 h
  rw [relayed, String.toList_ofList, Text.lines_ofLines hlines]
  simp only [List.map_map, List.filter_map, Function.comp_def, isShown, stripped, String.toList_ofList]
  rfl

theorem lineFeed_not_mem_messages {groups : List (List String)} {messages : List String}
    (h : List.Forall₂ HoldsLines groups messages) : ∀ m ∈ messages, '\n' ∉ m.toList := by
  induction h with
  | nil => nofun
  | cons hm _ ih => exact List.forall_mem_cons.2 ⟨hm.single_line.1, ih⟩

/-- Messages relay the lines that they hold but for those that are blank. -/
theorem output_messages {groups : List (List String)} {messages : List String}
    (hmessages : List.Forall₂ HoldsLines groups messages) (h : ∀ s ∈ groups.flatten, '\n' ∉ s.toList) :
    failure? (messages.map fun m => Utf8.encode (stripped m)) = none ∧
      output (messages.map fun m => Utf8.encode (stripped m)) =
        (groups.flatten.map stripped).filter isShown := by
  induction hmessages with
  | nil => exact ⟨rfl, rfl⟩
  | @cons group message groups messages hm _ ih =>
    rw [List.flatten_cons, List.forall_mem_append] at h
    obtain ⟨hnone, hout⟩ := ih h.2
    have hcontent := content_message hm
    rw [List.map_cons, hm.single_line.2]
    refine ⟨(failure?_cons_ok hcontent).trans hnone, ?_⟩
    rw [output_cons_ok hcontent, relayed_ofLines h.1, hout, List.flatten_cons, List.map_append,
      List.filter_append]

end Response

namespace Host

open Response

/-- **A response of messages is as good as one of plain lines.** Two attempts, of which one gets some lines as they
are and the other one messages that hold the same lines, relay the same lines, those that are not blank, and end
alike. -/
theorem loadArchive_messages {σ σ' : Type} (h : Host σ) (h' : Host σ') (path path' : Path) (t t' : Time)
    (w : σ) (w' : σ') {archive archive' : Archive} {ms ms' after after' : Nat} {s s' : Stream}
    {groups : List (List String)} {messages : List String}
    (hopen : h.openFile path t w = .ok archive)
    (hload : (h.runtime.load archive t w).outcome = some (ms, .ok s))
    (hopen' : h'.openFile path' t' w' = .ok archive')
    (hload' : (h'.runtime.load archive' t' w').outcome = some (ms', .ok s'))
    (hplain : ∀ l ∈ groups.flatten, '\n' ∉ l.toList ∧ (Text.trimStart l.toList).head? ≠ some '\x7b')
    (hmessages : List.Forall₂ HoldsLines groups messages)
    (hs : s.bytes = bodyOf groups.flatten) (hend : s.ending = .complete after)
    (hs' : s'.bytes = bodyOf messages) (hend' : s'.ending = .complete after') :
    let run := h.loadArchive path none t w
    let run' := h'.loadArchive path' none t' w'
    run.journal.transcript = ((groups.flatten.map stripped).filter isShown).map .output ∧
      run'.journal.transcript = run.journal.transcript ∧ run'.ending = run.ending := by
  intro run run'
  have hfeed : ∀ l ∈ groups.flatten, '\n' ∉ l.toList := fun l hl => (hplain l hl).1
  have hlooks : ∀ l ∈ groups.flatten, '\n' ∉ l.toList ∧ looksLikeMessage l = false := fun l hl =>
    ⟨(hplain l hl).1, beq_eq_false_iff_ne.2 (hplain l hl).2⟩
  have hlines : s.lines = groups.flatten.map fun l => Utf8.encode (stripped l) := by
    rw [Stream.lines, hs, linesOf_bodyOf _ hfeed]
  have hlines' : s'.lines = messages.map fun m => Utf8.encode (stripped m) := by
    rw [Stream.lines, hs', linesOf_bodyOf _ (lineFeed_not_mem_messages hmessages)]
  obtain ⟨hnone, hout⟩ := output_plain hlooks
  obtain ⟨hnone', hout'⟩ := output_messages hmessages hfeed
  have houtcome : s'.outcome? = s.outcome? := by
    rw [Stream.outcome?, Stream.outcome?, Stream.last?, Stream.last?, hlines, hlines', hnone, hnone', hout,
      hout', hend, hend']
  obtain ⟨he, ht⟩ := loadArchive_undropped hopen hload
  obtain ⟨he', ht'⟩ := loadArchive_undropped hopen' hload'
  refine ⟨?_, ?_, ?_⟩
  · rw [ht, hlines, hout]
  · rw [ht', ht, hlines, hlines', hout, hout']
  · rw [he', he, houtcome]

/-- A character beyond four digits with a carriage return, a line that is blank, and the line with a tag. The
second message holds nothing. -/
def escapedGroups : List (List String) := [["😀\r", " "], [], ["Loaded image: a:b"]]

def escapedMessages : List String :=
  ["\x7b\"status\": \"\\uD83d\\ude00\\r\\n \\n\"\x7d", "\x7b\"stream\":\"\"\x7d",
    " \x7b\"stream\":\"Loaded image\\u003a a:b\\n\" \x7d\t"]

theorem escapedMessages_hold : List.Forall₂ HoldsLines escapedGroups escapedMessages := by
  have hfeed : Denotes ['\\', 'n'] ['\n'] := .short (by decide) .nil
  have hhigh : FourDigits ['D', '8', '3', 'd'] 0xD83D :=
    .mk (k := 13) (l := 8) (m := 3) (n := 13) ⟨by decide, .inr rfl⟩ ⟨by decide, .inl rfl⟩ ⟨by decide, .inl rfl⟩
      ⟨by decide, .inl rfl⟩
  have hlow : FourDigits ['d', 'e', '0', '0'] 0xDE00 :=
    .mk (k := 13) (l := 14) (m := 0) (n := 0) ⟨by decide, .inl rfl⟩ ⟨by decide, .inl rfl⟩ ⟨by decide, .inl rfl⟩
      ⟨by decide, .inl rfl⟩
  have hhighNumber : 0xD83D = 0xD800 + ('😀'.toNat - 0x10000) / 0x400 := by decide +kernel
  have hlowNumber : 0xDE00 = 0xDC00 + ('😀'.toNat - 0x10000) % 0x400 := by decide +kernel
  have hcolon : FourDigits ['0', '0', '3', 'a'] ':'.toNat :=
    .mk (k := 0) (l := 0) (m := 3) (n := 10) ⟨by decide, .inl rfl⟩ ⟨by decide, .inl rfl⟩ ⟨by decide, .inl rfl⟩
      ⟨by decide, .inl rfl⟩
  have hrest : Denotes ['\\', 'r', '\\', 'n', ' ', '\\', 'n'] ['\r', '\n', ' ', '\n'] :=
    .short (by decide) (.short (by decide) (.plain (by decide) (by decide) (by decide) hfeed))
  have hpair : Denotes ('\\' :: 'u' :: (['D', '8', '3', 'd'] ++ '\\' :: 'u' :: (['d', 'e', '0', '0'] ++
      ['\\', 'r', '\\', 'n', ' ', '\\', 'n']))) ['😀', '\r', '\n', ' ', '\n'] :=
    .pair (by decide) (hhighNumber ▸ hhigh) (hlowNumber ▸ hlow) hrest
  have htag : Denotes "Loaded image\\u003a a:b\\n".toList "Loaded image: a:b\n".toList :=
    .append (p := "Loaded image".toList) (by simp) (.unit hcolon (.append (p := " a:b".toList) (by simp) hfeed))
  have hnone : IsGap [] := nofun
  have hspace : IsGap [' '] := by simp [IsGap]
  have htab : IsGap ['\t'] := by simp [IsGap]
  refine .cons ?_ (.cons ?_ (.cons ?_ .nil))
  · exact ⟨"status", by simp, .mk hnone hnone hnone hspace hnone hnone hpair⟩
  · exact ⟨"stream", by simp, .mk hnone hnone hnone hnone hnone hnone .nil⟩
  · exact ⟨"stream", by simp, .mk hspace hnone hnone hnone hspace htab htag⟩

theorem loadArchive_escapedMessages :
    let plain : Stream := .ofBytes (bodyOf escapedGroups.flatten)
    let messages : Stream := .ofBytes (bodyOf escapedMessages)
    let run := (answering messages).loadArchive ⟨[]⟩ none 0 ()
    run.journal.transcript = [.output "😀", .output "Loaded image: a:b"] ∧
      run.ending = ((answering plain).loadArchive ⟨[]⟩ none 0 ()).ending := by
  intro plain messages run
  have hplain : ∀ l ∈ escapedGroups.flatten,
      '\n' ∉ l.toList ∧ (Text.trimStart l.toList).head? ≠ some '\x7b' := by decide +kernel
  have hshown : (escapedGroups.flatten.map stripped).filter isShown = ["😀", "Loaded image: a:b"] := by
    decide +kernel
  obtain ⟨ht, ht', he⟩ := loadArchive_messages (answering plain) (answering messages) ⟨[]⟩ ⟨[]⟩ 0 0 () ()
    rfl rfl rfl rfl hplain escapedMessages_hold (by simp [plain, Stream.ofBytes, Stream.bytes]) rfl
    (by simp [messages, Stream.ofBytes, Stream.bytes]) rfl
  refine ⟨ht'.trans (ht.trans ?_), he⟩
  rw [hshown]
  rfl

end Host

end FlakeImage
