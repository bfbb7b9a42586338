import FlakeImage.Proofs.Grammar

/-!
# What a line says

`Holds` says which message the members of an object are: each member that a message knows is absent or given once,
as null or as a text, in any order and among any others. A line that writes such an object, in any of its spellings,
says what the message says, an error before any text; any other line is plain text (`Frame.ofLine_written`). There
is such a line for every message (`exists_line`).
-/

namespace FlakeImage

open Json

namespace EngineMessage

variable {members : TreeMembers} {name : String} {t : Tree} {o : Option String}

/-- The name is given once, with this value. -/
def Once (members : TreeMembers) (name : String) (t : Tree) : Prop :=
  ∃ before after, members = before ++ (some name, t) :: after ∧ ∀ m ∈ before ++ after, m.1 ≠ some name

/-- What a member says that is absent, or given once with a value that says it. -/
inductive Says (p : Tree → Option String → Prop) (members : TreeMembers) (name : String) : Option String → Prop
  | absent (h : ∀ m ∈ members, m.1 ≠ some name) : Says p members name none
  | given {t : Tree} {o : Option String} (h : Once members name t) (ht : p t o) : Says p members name o

/-- Null, or a text. -/
inductive TextIs : Tree → Option String → Prop
  | null : TextIs .null none
  | text (s : String) : TextIs (.string (some s)) (some s)

/-- Details of an error: null, an array of the message alone, or an object with the message. -/
inductive DetailIs : Tree → Option String → Prop
  | null : DetailIs .null none
  | array {t : Tree} {o : Option String} (h : TextIs t o) : DetailIs (.array [t]) o
  | object {members : TreeMembers} {o : Option String} (named : ∀ m ∈ members, m.1 ≠ none)
    (message : Says TextIs members "message" o) : DetailIs (.object members) o

/-- The members are this message. There may be others of any shape, with other names. -/
structure Holds (members : TreeMembers) (m : EngineMessage) : Prop where
  named : ∀ x ∈ members, x.1 ≠ none
  stream : Says TextIs members "stream" m.stream
  status : Says TextIs members "status" m.status
  error : Says TextIs members "error" m.error
  detail : Says DetailIs members "errorDetail" m.detail

theorem once_iff_filter : Once members name t ↔ members.filter (·.1 == some name) = [(some name, t)] := by
  rw [List.filter_eq_cons_iff]
  constructor
  · rintro ⟨before, after, rfl, hother⟩
    obtain ⟨hbefore, hafter⟩ := List.forall_mem_append.1 hother
    refine ⟨before, after, rfl, ?_, by simp, ?_⟩
    · intro m hm
      simpa using hbefore m hm
    · rw [List.filter_eq_nil_iff]
      intro m hm
      simpa using hafter m hm
  · rintro ⟨before, after, rfl, hbefore, -, hafter⟩
    rw [List.filter_eq_nil_iff] at hafter
    refine ⟨before, after, rfl, List.forall_mem_append.2 ⟨?_, ?_⟩⟩
    · intro m hm
      simpa using hbefore m hm
    · intro m hm
      simpa using hafter m hm

theorem absent_iff_filter : (∀ m ∈ members, m.1 ≠ some name) ↔ members.filter (·.1 == some name) = [] := by
  simp [List.filter_eq_nil_iff]

/-- A member is read as what it says. -/
theorem member?_eq_some_iff {p : Tree → Option (Option String)} {q : Tree → Option String → Prop}
    (hp : ∀ t o, p t = some o ↔ q t o) : member? p members name = some o ↔ Says q members name o := by
  constructor
  · intro h
    rcases member?_cases h with ⟨hnone, rfl⟩ | ⟨m, hone, hm⟩
    · exact .absent (absent_iff_filter.2 hnone)
    · have hname : m.1 = some name := by
        have hmem : m ∈ members.filter (·.1 == some name) := by simp [hone]
        exact beq_iff_eq.1 (List.mem_filter.1 hmem).2
      refine .given (once_iff_filter.2 ?_) ((hp m.2 o).1 hm)
      rw [hone, ← hname]
  · intro h
    unfold member? only?
    cases h with
    | absent h => rw [absent_iff_filter.1 h]; rfl
    | given h ht => rw [once_iff_filter.1 h]; exact (hp _ _).2 ht

theorem text?_eq_some_iff (t : Tree) (o : Option String) : text? t = some o ↔ TextIs t o := by
  constructor
  · intro h
    unfold text? at h
    split at h
    · obtain rfl := Option.some.inj h; exact .null
    · obtain rfl := Option.some.inj h; exact .text _
    · cases h
  · rintro (_ | s) <;> rfl

theorem detail?_eq_some_iff (t : Tree) (o : Option String) : detail? t = some o ↔ DetailIs t o := by
  constructor
  · intro h
    unfold detail? at h
    split at h
    · obtain rfl := Option.some.inj h; exact .null
    · split at h
      · next hnamed =>
        rw [textMember?_eq, member?_eq_some_iff text?_eq_some_iff] at h
        exact .object (named_iff.1 hnamed) h
      · cases h
    · exact .array ((text?_eq_some_iff _ _).1 h)
    · cases h
  · rintro (_ | h | ⟨hnamed, h⟩)
    · rfl
    · exact (text?_eq_some_iff _ _).2 h
    · rw [detail?, if_pos (named_iff.2 hnamed), textMember?_eq, member?_eq_some_iff text?_eq_some_iff]
      exact h

/-- **Members are read as the message that they are.** -/
theorem ofMembers?_eq_some_iff {m : EngineMessage} : ofMembers? members = some m ↔ Holds members m := by
  rw [ofMembers?_eq_some, named_iff]
  simp only [member?_eq_some_iff text?_eq_some_iff, member?_eq_some_iff detail?_eq_some_iff]
  constructor
  · rintro ⟨hnamed, hstream, hstatus, herror, hdetail⟩
    exact ⟨hnamed, hstream, hstatus, herror, hdetail⟩
  · rintro ⟨hnamed, hstream, hstatus, herror, hdetail⟩
    exact ⟨hnamed, hstream, hstatus, herror, hdetail⟩

/-- A line is read as the message that it writes. -/
theorem ofLine?_eq_some_iff {line : String} {m : EngineMessage} :
    ofLine? line = some m ↔ ∃ members, Writes (.element (.object members)) line.toList ∧ Holds members m := by
  constructor
  · intro h
    unfold ofLine? at h
    split at h
    · next members hread => exact ⟨members, readLoose_eq_ok_iff.1 hread, ofMembers?_eq_some_iff.1 h⟩
    · cases h
  · rintro ⟨members, hwrites, hholds⟩
    rw [ofLine?, readLoose_eq_ok_iff.2 hwrites]
    exact ofMembers?_eq_some_iff.2 hholds

theorem ofLine?_eq_none_iff {line : String} :
    ofLine? line = none ↔ ∀ members m, Writes (.element (.object members)) line.toList → ¬ Holds members m := by
  rw [Option.eq_none_iff_forall_ne_some]
  constructor
  · intro h members m hwrites hholds
    exact h m (ofLine?_eq_some_iff.2 ⟨members, hwrites, hholds⟩)
  · intro h m hm
    obtain ⟨members, hwrites, hholds⟩ := ofLine?_eq_some_iff.1 hm
    exact h members m hwrites hholds

theorem Holds.typed {m : EngineMessage} (h : Holds members m) : Typed members :=
  ofMembers?_isSome.1 (Option.isSome_of_eq_some (ofMembers?_eq_some_iff.2 h))

/-! ### Every message can be written -/

/-- A text or null, as a tree. -/
def textTree : Option String → Tree
  | none => .null
  | some s => .string (some s)

theorem textTree_is (o : Option String) : TextIs (textTree o) o := by
  cases o with
  | none => exact .null
  | some s => exact .text s

theorem exists_writes_textTree (o : Option String) : ∃ w, Writes (.value (textTree o)) w := by
  cases o with
  | none => exact ⟨_, .null⟩
  | some s =>
    obtain ⟨w, hw⟩ := exists_denotes s.toList
    have hliteral := Literal.text hw
    rw [String.ofList_toList] at hliteral
    exact ⟨_, .string hliteral⟩

theorem exists_writes_member (name : String) {w : List Char} (h : Writes (.value t) w) :
    ∃ v, Writes (.member (some name, t)) v := by
  obtain ⟨n, hn⟩ := exists_denotes name.toList
  have hliteral := Literal.text hn
  rw [String.ofList_toList] at hliteral
  have hblank : Blank [] := nofun
  exact ⟨_, .member hblank hliteral hblank (.element hblank h hblank)⟩

/-- Whatever its texts are, a message can be written as a line. -/
theorem exists_line (m : EngineMessage) :
    ∃ line members, Writes (.element (.object members)) (String.toList line) ∧ Holds members m := by
  obtain ⟨_, hstream⟩ := exists_writes_textTree m.stream
  obtain ⟨_, hstatus⟩ := exists_writes_textTree m.status
  obtain ⟨_, herror⟩ := exists_writes_textTree m.error
  obtain ⟨_, hdetail⟩ := exists_writes_textTree m.detail
  have hblank : Blank [] := nofun
  have hlist : Writes (.value (.array [textTree m.detail])) _ := .array (.lastElement (.element hblank hdetail hblank))
  obtain ⟨_, hstream⟩ := exists_writes_member "stream" hstream
  obtain ⟨_, hstatus⟩ := exists_writes_member "status" hstatus
  obtain ⟨_, herror⟩ := exists_writes_member "error" herror
  obtain ⟨_, hdetail⟩ := exists_writes_member "errorDetail" hlist
  have hobject := Writes.object (.nextMember hstream (.nextMember hstatus (.nextMember herror (.lastMember hdetail))))
  have hline := Writes.element hblank hobject hblank
  refine ⟨_, _, (congrArg (Writes _) String.toList_ofList).mpr hline, by simp, ?_, ?_, ?_, ?_⟩
  · exact .given ⟨[], _, rfl, by simp⟩ (textTree_is m.stream)
  · exact .given ⟨[_], _, rfl, by simp⟩ (textTree_is m.status)
  · exact .given ⟨[_, _], _, rfl, by simp⟩ (textTree_is m.error)
  · exact .given ⟨[_, _, _], _, rfl, by simp⟩ (.array (textTree_is m.detail))

end EngineMessage

namespace Frame
variable {line : String}

/-- A message says what it says. -/
theorem ofLine_message {members : EngineMessage.TreeMembers} {m : EngineMessage}
    (hwrites : Writes (.element (.object members)) line.toList) (hholds : EngineMessage.Holds members m) :
    ofLine line = m.frame := by
  have hread := EngineMessage.ofLine?_eq_some_iff.2 ⟨members, hwrites, hholds⟩
  rw [ofLine, looksLikeMessage_of_object (readLoose_eq_ok_iff.2 hwrites), if_pos rfl, hread]

/-- What is no message is plain text. -/
theorem ofLine_plain
    (hno : ∀ members m, Writes (.element (.object members)) line.toList → ¬ EngineMessage.Holds members m) :
    ofLine line = .text line := by
  unfold ofLine
  split
  · rw [EngineMessage.ofLine?_eq_none_iff.2 hno]
  · rfl

/-- **What a line says.** A line that writes the members of a message, however they are ordered and spelt and
whatever is among them, is read as its error if it has one, else as the message of the error's details, else as its
stream text, its status text or nothing, in this order. Any other line is plain text as a whole: one that does not
begin with a brace, one that is no JSON, and an object in which a name of a message is given twice or with a value of
another type. -/
theorem ofLine_written (line : String) :
    (∀ members m, Writes (.element (.object members)) line.toList → EngineMessage.Holds members m →
      (∀ e, m.error = some e → ofLine line = .error e) ∧
      (m.error = none → ∀ d, m.detail = some d → ofLine line = .error d) ∧
      (m.error = none → m.detail = none →
        (∀ s, m.stream = some s → ofLine line = .text s) ∧
        (m.stream = none → ∀ s, m.status = some s → ofLine line = .text s) ∧
        (m.stream = none → m.status = none → ofLine line = .text ""))) ∧
    ((∀ members m, Writes (.element (.object members)) line.toList → ¬ EngineMessage.Holds members m) →
      ofLine line = .text line) ∧
    ((Text.trimStart line.toList).head? ≠ some '\x7b' → ofLine line = .text line) ∧
    ((∀ t, ¬ Writes (.element t) line.toList) → ofLine line = .text line) ∧
    (∀ members, Writes (.element (.object members)) line.toList → ¬ EngineMessage.Typed members →
      ofLine line = .text line) := by
  refine ⟨fun members m hwrites hholds => ?_, ofLine_plain, fun hbrace => ?_, fun hno => ?_,
    fun members hwrites hno => ?_⟩
  · rw [ofLine_message hwrites hholds, EngineMessage.frame]
    refine ⟨fun e he => ?_, fun he d hd => ?_, fun he hd => ⟨fun s hs => ?_, fun hs s hst => ?_, fun hs hst => ?_⟩⟩
    · simp [he]
    · simp [he, hd]
    · simp [he, hd, hs]
    · simp [he, hd, hs, hst]
    · simp [he, hd, hs, hst]
  · have hlooks : looksLikeMessage line = false := by simpa [looksLikeMessage] using hbrace
    simp [ofLine, hlooks]
  · exact ofLine_plain fun members m hwrites _ => hno _ hwrites
  · refine ofLine_plain fun members' m hwrites' hholds => hno ?_
    obtain rfl := Tree.object.inj (hwrites.tree_unique hwrites')
    exact hholds.typed

/-- A message with other members, an escaped pair and half of another one. -/
def mixedMessage : String :=
  "\t\x7b\"id\":[12,\"\\ud83d\"],\"errorDetail\":\x7b\"code\":\x7b\x7d,\"message\":\"d\\uD83D\\uDE00\"\x7d,\"stream\" : \"x\",\"error\":null\x7d "

/-- Its members. -/
def mixedMembers : EngineMessage.TreeMembers :=
  [(some "id", .array [.number (some (.integer 12)), .string none]),
    (some "errorDetail", .object [(some "code", .object []), (some "message", .string (some "d😀"))]),
    (some "stream", .string (some "x")), (some "error", .null)]

/-- The stream text is given twice. -/
def repeatedMessage : String := "\x7b\"stream\":\"a\",\"stream\":\"b\"\x7d"

theorem mixedMessage_written :
    ofLine mixedMessage = .error "d😀" ∧ ofLine repeatedMessage = .text repeatedMessage := by
  have hread : Tree.readLoose (Utf8.Piece.ofText mixedMessage.toList) = .ok (.object mixedMembers) := by cbv
  have hdetail : EngineMessage.DetailIs
      (.object [(some "code", .object []), (some "message", .string (some "d😀"))]) (some "d😀") :=
    .object (by simp) (.given ⟨[(some "code", .object [])], [], rfl, by simp⟩ (.text "d😀"))
  have hholds : EngineMessage.Holds mixedMembers { stream := some "x", detail := some "d😀" } := by
    refine ⟨by simp [mixedMembers], ?_, .absent (by simp [mixedMembers]), ?_, ?_⟩
    · exact .given ⟨mixedMembers.take 2, mixedMembers.drop 3, rfl, by simp [mixedMembers]⟩ (.text "x")
    · exact .given ⟨mixedMembers.take 3, [], rfl, by simp [mixedMembers]⟩ .null
    · exact .given ⟨mixedMembers.take 1, mixedMembers.drop 2, rfl, by simp [mixedMembers]⟩ hdetail
  have hrepeated : Tree.readLoose (Utf8.Piece.ofText repeatedMessage.toList) =
      .ok (.object [(some "stream", .string (some "a")), (some "stream", .string (some "b"))]) := by cbv
  have huntyped : ¬ EngineMessage.Typed
      [(some "stream", .string (some "a")), (some "stream", .string (some "b"))] := fun h =>
    absurd (h.once "stream" (by decide)) (by decide)
  obtain ⟨hmessage, -⟩ := ofLine_written mixedMessage
  obtain ⟨-, hinner, -⟩ := hmessage mixedMembers _ (readLoose_eq_ok_iff.1 hread) hholds
  obtain ⟨-, -, -, -, hplain⟩ := ofLine_written repeatedMessage
  exact ⟨hinner rfl _ rfl, hplain _ (readLoose_eq_ok_iff.1 hrepeated) huntyped⟩

end Frame

end FlakeImage
