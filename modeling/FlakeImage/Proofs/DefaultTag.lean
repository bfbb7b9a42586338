import FlakeImage.Proofs.Failure
import FlakeImage.Proofs.Messages
import FlakeImage.Proofs.Recovery
import FlakeImage.Proofs.Trimming

/-!
# Lines that name a tag

`NamesTag` says which lines name a tag, and which tag that is: what stands between the words about a loaded image and
the endings of the line. The reader of tags accepts these lines and no others (`defaultTag_eq_ok_iff`). In a build it
is given a line that has been relayed, which is one line of a text; so what a build asks the runtime for is visible
and stands on one line (`asked_tags_named`).
-/

namespace FlakeImage

variable {σ : Type}

/-- The line is the words about a loaded image, the tag and endings of lines. The tag is not blank and does not end
with the ending of a line. -/
def NamesTag (line tag : String) : Prop :=
  ∃ ending : String, line = "Loaded image: " ++ tag ++ ending ∧ (∀ c ∈ ending.toList, c = '\r' ∨ c = '\n') ∧
    (∀ c, tag.toList.getLast? = some c → c ≠ '\r' ∧ c ≠ '\n') ∧ ∃ c ∈ tag.toList, Text.isBlank c = false

/-! ### The reader of tags -/

theorem afterStart?_eq_some_iff {start s rest : List Char} : afterStart? start s = some rest ↔ s = start ++ rest := by
  fun_induction afterStart? start s with
  | case1 s => simp
  | case2 start c s ih => simp [ih]
  | case3 c start d s hne => simp [Ne.symm hne]
  | case4 c start => simp

namespace Text
variable {s : List Char}

theorem isBlankText_eq_false_iff : isBlankText s = false ↔ ∃ c ∈ s, isBlank c = false := by
  simp [isBlankText]

end Text

theorem tagIn?_eq_some_iff {line tag : List Char} : tagIn? line = some tag ↔
    ∃ ending, line = loadedImage.toList ++ (tag ++ ending) ∧ (∀ c ∈ ending, Text.isLineEnd c = true) ∧
      (∀ c, tag.getLast? = some c → Text.isLineEnd c = false) ∧ Text.isBlankText tag = false := by
  simp only [tagIn?, Option.filter_eq_some_iff, Option.map_eq_some_iff, afterStart?_eq_some_iff, Text.chomp_eq_iff,
    Bool.not_eq_true']
  constructor
  · rintro ⟨⟨rest, rfl, ending, rfl, hending, hlast⟩, hvisible⟩
    exact ⟨ending, rfl, hending, hlast, hvisible⟩
  · rintro ⟨ending, rfl, hending, hlast, hvisible⟩
    exact ⟨⟨_, rfl, ending, rfl, hending, hlast⟩, hvisible⟩

theorem defaultTag_eq_ok_iff {line tag : String} : defaultTag line = .ok tag ↔ NamesTag line tag := by
  have hread : defaultTag line = .ok tag ↔ tagIn? line.toList = some tag.toList := by
    unfold defaultTag
    cases htag : tagIn? line.toList with
    | none => simp
    | some found => simp [← String.toList_inj]
  simp only [hread, tagIn?_eq_some_iff, NamesTag, Text.isLineEnd_iff, Text.isLineEnd_eq_false_iff,
    Text.isBlankText_eq_false_iff]
  constructor
  · rintro ⟨ending, hline, hending⟩
    have hstring : line = loadedImage ++ tag ++ String.ofList ending := by
      rw [← String.toList_inj, hline, String.toList_append, String.toList_append, String.toList_ofList (l := ending),
        List.append_assoc]
    exact ⟨String.ofList ending, hstring, by rwa [String.toList_ofList]⟩
  · rintro ⟨ending, hline, hending⟩
    have hstring : line = loadedImage ++ tag ++ ending := hline
    refine ⟨ending.toList, ?_, hending⟩
    rw [hstring, String.toList_append, String.toList_append, List.append_assoc]

theorem defaultTag_of_nameless {line : String} (h : ∀ tag, ¬ NamesTag line tag) :
    defaultTag line = .error (.unrecognised line) := by
  cases htag : defaultTag line with
  | ok tag => exact absurd (defaultTag_eq_ok_iff.1 htag) (h tag)
  | error e =>
    unfold defaultTag at htag
    split at htag
    · cases htag
    · rw [← htag]

/-! ### The tags of a build -/

/-- A tag comes from a line that has been relayed of a text. -/
theorem Stream.exists_line_of_outcome? {s : Stream} {tag : String} (h : s.outcome? = some (.ok tag)) :
    ∃ line, '\n' ∉ line.toList ∧ NamesTag line tag := by
  have hnone : Response.failure? s.lines = none := by
    cases hf : Response.failure? s.lines with
    | none => rfl
    | some e => simp [Stream.outcome?, Stream.last?, hf, Except.bind] at h
  obtain ⟨line, hlast, htag⟩ := Stream.outcome?_eq_ok h
  refine ⟨line, ?_, defaultTag_eq_ok_iff.1 htag⟩
  have hmem := List.mem_of_getLast? hlast
  rw [Response.output, hnone] at hmem
  obtain ⟨text, -, hline⟩ := List.mem_flatMap.1 (by simpa [Response.rejection?] using hmem)
  obtain ⟨l, hl, rfl⟩ := List.mem_map.1 hline
  rw [String.toList_ofList]
  exact Text.lineFeed_not_mem_of_mem_lines (List.mem_filter.1 hl).1

section Course
variable {b : Builder σ} {r : Request} {xs : List Exchange} {path : Path} {left number : Nat} {tag : String}

theorem Attempt.exists_outcome? {o : Option (Except LoadError String)} (h : Attempt path number xs o)
    (ho : o = some (.ok tag)) : ∃ s : Stream, s.outcome? = some (.ok tag) := by
  cases h with
  | read archive s => exact ⟨s, ho⟩
  | unreadable e => cases ho
  | refused archive e => cases ho
  | opening => cases ho
  | loading archive => cases ho
  | reading archive s => cases ho

theorem Attempts.exists_outcome? {e : Ending BuildError String} (h : Attempts path left number xs e)
    (he : e = .value tag) : ∃ s : Stream, s.outcome? = some (.ok tag) := by
  -- on the attempts: the last of them has succeeded
  induction h with
  | waiting hs => subst he; cases hs
  | stopped hx hs => subst he; cases hs
  | loaded hx => exact hx.exists_outcome? (by rw [Ending.value.inj he])
  | exhausted hx => cases he
  | again hx hy ih => exact ih he

/-- What a build asks the runtime for is the tag of a response. -/
theorem Course.exists_outcome? {e : Ending BuildError ImageId} {reference : String}
    {a : Option (Except RuntimeError (Option ImageId))} (h : Course b r xs e) (hmem : .imageId reference a ∈ xs) :
    ∃ s : Stream, s.outcome? = some (.ok reference) := by
  have hattempts {path : Path} {left number : Nat} {ys : List Exchange} {e : Ending BuildError String}
      (hys : Attempts path left number ys e) : .imageId reference a ∉ ys := fun hmem =>
    nomatch hys.not_isNaming _ hmem
  cases h with
  | otherBuilder h => cases hmem
  | unresolved hc h => cases hmem
  | cancelled h => cases hmem
  | building h => cases List.mem_singleton.1 hmem
  | unbuilt h e => cases List.mem_singleton.1 hmem
  | loading h hx => exact absurd ((List.mem_cons.1 hmem).resolve_left nofun) (hattempts hx)
  | unloaded h hx => exact absurd ((List.mem_cons.1 hmem).resolve_left nofun) (hattempts hx)
  | @loaded _ h _ ys zs tag _ hx hy =>
    obtain ⟨s, hs⟩ := hx.exists_outcome? rfl
    have hmem := (List.mem_append.1 ((List.mem_cons.1 hmem).resolve_left nofun)).resolve_left (hattempts hx)
    have hreference : reference = tag := by
      cases hy with
      | waiting hs => cases hmem
      | stopped hs => cases List.mem_singleton.1 hmem; rfl
      | failed e => cases List.mem_singleton.1 hmem; rfl
      | unknown => cases List.mem_singleton.1 hmem; rfl
      | found ht =>
        rcases List.mem_cons.1 hmem with hmem | hmem
        · cases hmem; rfl
        · cases ht <;> cases hmem <;> contradiction
    exact ⟨s, hreference ▸ hs⟩

end Course

namespace Builder

/-- **The lines that name a tag, and what a build asks for.** A tag is read of a line exactly if the line is the words
about a loaded image, this tag, which is visible and does not end with the ending of a line, and then endings of lines
only. Of any other line it is said that it is not recognised, and the line is shown as it is. So what a build asks the
runtime for, however the world answers, is a tag that is not blank and has no line feed in it. -/
theorem asked_tags_named (b : Builder σ) (cancel : Cancel) (r : Request) (d : Deadline) (t : Time) (w : σ) :
    (∀ line tag, defaultTag line = .ok tag ↔ NamesTag line tag) ∧
    (∀ line, (∀ tag, ¬ NamesTag line tag) → defaultTag line = .error (.unrecognised line)) ∧
    ∀ time reference, (time, .imageId reference) ∈ (b.build cancel r d t w).journal.calls →
      (∃ line, '\n' ∉ line.toList ∧ NamesTag line reference) ∧
        (∃ c ∈ reference.toList, Text.isBlank c = false) ∧ '\n' ∉ reference.toList := by
  refine ⟨fun _ _ => defaultTag_eq_ok_iff, fun _ => defaultTag_of_nameless, fun time reference hcall => ?_⟩
  have hcourse := (build_follows b cancel r d t w).course
  have hasked : .imageId reference ∈
      (b.host.exchanges cancel d w (b.build cancel r d t w).journal.calls).1.map Exchange.call := by
    rw [Host.map_call_exchanges]
    exact List.mem_map_of_mem hcall
  obtain ⟨x, hx, hxcall⟩ := List.mem_map.1 hasked
  obtain ⟨a, rfl⟩ : ∃ a, x = .imageId reference a := by
    cases x <;> cases hxcall
    exact ⟨_, rfl⟩
  obtain ⟨s, hs⟩ := hcourse.exists_outcome? hx
  obtain ⟨line, hfeed, hnames⟩ := s.exists_line_of_outcome? hs
  obtain ⟨ending, hline, -, -, hvisible⟩ := id hnames
  refine ⟨⟨line, hfeed, hnames⟩, hvisible, fun hmem => hfeed ?_⟩
  rw [hline, String.toList_append, String.toList_append]
  exact List.mem_append_left _ (List.mem_append_right _ hmem)

/-- The spaces of a tag are its own, the endings of the line are not; what is said of an identifier names no tag. -/
theorem ready_asks_tag :
    defaultTag "Loaded image:  a b \r\n\r" = .ok " a b " ∧
    defaultTag "Loaded image ID: a" = .error (.unrecognised "Loaded image ID: a") ∧
    (0, .imageId "a:b") ∈ (ready.build .never readyRequest none 0 ()).journal.calls ∧ '\n' ∉ "a:b".toList := by
  obtain ⟨hread, hnameless, hasked⟩ := asked_tags_named ready .never readyRequest none 0 ()
  have hcall : (0, .imageId "a:b") ∈ (ready.build .never readyRequest none 0 ()).journal.calls := by decide +kernel
  refine ⟨(hread _ _).2 ⟨"\r\n\r", rfl, ?_⟩, hnameless _ ?_, hcall, (hasked _ _ hcall).2.2⟩
  · simp [Text.isBlank]
  · rintro tag ⟨ending, hline, -⟩
    have hline := congrArg String.toList hline
    simp [String.toList_append] at hline

end Builder

end FlakeImage
