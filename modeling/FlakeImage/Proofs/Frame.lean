import Mathlib
import FlakeImage.Load.Frame

/-!
# Which messages report an error

The container engine writes a message as a JSON object. `Typed` says of an object's members what makes it a
message, `Tells` that one of them holds the text of an error. A line that is an object is taken as an
error exactly if it is both (`isError_iff`): a member of another type or a name given twice, even one that has
nothing to do with the error, makes the line plain text, and an error without a text is none.
-/

namespace FlakeImage

open Json

namespace EngineMessage

/-! ### Members -/

/-- Nothing, or a text. -/
inductive TextOrNull : Tree → Prop
  | null : TextOrNull .null
  | text (s : String) : TextOrNull (.string (some s))

/-- The details of an error: nothing, an array with the message alone, or an object in which the message is
given at most once. -/
inductive DetailOrNull : Tree → Prop
  | null : DetailOrNull .null
  | array {t : Tree} (h : TextOrNull t) : DetailOrNull (.array [t])
  | object {members : TreeMembers} (named : ∀ m ∈ members, m.1 ≠ none)
      (once : members.countP (·.1 == some "message") ≤ 1)
      (text : ∀ t, (some "message", t) ∈ members → TextOrNull t) : DetailOrNull (.object members)

/-- The names that a message knows. -/
def textNames : List String := ["stream", "status", "error"]

/-- The members make a message: all names denote something, and what the message knows is there at most once
and of its type. -/
structure Typed (members : TreeMembers) : Prop where
  named : ∀ m ∈ members, m.1 ≠ none
  once : ∀ name ∈ textNames, members.countP (·.1 == some name) ≤ 1
  detailOnce : members.countP (·.1 == some "errorDetail") ≤ 1
  text : ∀ name ∈ textNames, ∀ t, (some name, t) ∈ members → TextOrNull t
  detail : ∀ t, (some "errorDetail", t) ∈ members → DetailOrNull t

/-- The details hold a message. -/
inductive DetailTells : Tree → Prop
  | array (s : String) : DetailTells (.array [.string (some s)])
  | object {members : TreeMembers} {s : String} (h : (some "message", .string (some s)) ∈ members) :
    DetailTells (.object members)

/-- A member holds the text of an error. -/
def Tells (members : TreeMembers) : Prop :=
  (∃ s, (some "error", .string (some s)) ∈ members) ∨
    ∃ t, (some "errorDetail", t) ∈ members ∧ DetailTells t

/-- A member says that there is an error, whatever it is. -/
def Reports (members : TreeMembers) : Prop :=
  ∃ m ∈ members, (m.1 = some "error" ∨ m.1 = some "errorDetail") ∧ m.2 ≠ .null

/-- A member that is read by `p`; it may be missing. -/
def member? (p : Tree → Option (Option String)) (members : TreeMembers) (name : String) :
    Option (Option String) :=
  (only? members name).bind fun
    | none => some none
    | some t => p t

theorem textMember?_eq (members : TreeMembers) (name : String) :
    textMember? members name = member? text? members name := by
  unfold textMember? member?
  congr 1

theorem detailMember?_eq (members : TreeMembers) :
    detailMember? members = member? detail? members "errorDetail" := by
  unfold detailMember? member?
  congr 1

section Member
variable {p : Tree → Option (Option String)} {members : TreeMembers} {name : String}

/-- A member that can be read is there once, or not at all. -/
theorem member?_cases {o : Option String} (h : member? p members name = some o) :
    (members.filter (·.1 == some name) = [] ∧ o = none) ∨
      ∃ m, members.filter (·.1 == some name) = [m] ∧ p m.2 = some o := by
  unfold member? only? at h
  split at h
  case h_1 hf => exact .inl ⟨hf, by simpa using h.symm⟩
  case h_2 m hf => exact .inr ⟨m, hf, by simpa using h⟩
  case h_3 => simp at h

theorem mem_filter_name {t : Tree} :
    (some name, t) ∈ members ↔ (some name, t) ∈ members.filter (·.1 == some name) := by
  simp [List.mem_filter]

theorem mem_of_filter_eq {m : Option String × Tree} (hf : members.filter (·.1 == some name) = [m]) :
    (some name, m.2) ∈ members := by
  have hm : m ∈ members.filter (·.1 == some name) := by simp [hf]
  obtain ⟨hmem, hname⟩ := List.mem_filter.1 hm
  rwa [← beq_iff_eq.1 hname]

theorem member?_isSome :
    (member? p members name).isSome ↔
      members.countP (·.1 == some name) ≤ 1 ∧ ∀ t, (some name, t) ∈ members → (p t).isSome := by
  rw [List.countP_eq_length_filter]
  constructor
  · intro h
    obtain ⟨o, ho⟩ := Option.isSome_iff_exists.1 h
    rcases member?_cases ho with ⟨hf, -⟩ | ⟨m, hf, hm⟩
    · refine ⟨by simp [hf], fun t ht => ?_⟩
      rw [mem_filter_name, hf] at ht
      exact absurd ht List.not_mem_nil
    · refine ⟨by simp [hf], fun t ht => ?_⟩
      rw [mem_filter_name, hf, List.mem_singleton] at ht
      rw [← ht] at hm
      simp [hm]
  · rintro ⟨hlen, hp⟩
    unfold member? only?
    split
    case h_1 => rfl
    case h_2 m hf => exact hp m.2 (mem_of_filter_eq hf)
    case h_3 h1 h2 =>
      match hf : members.filter (·.1 == some name) with
      | [] => exact absurd hf h1
      | [m] => exact absurd hf (h2 m)
      | _ :: _ :: _ => rw [hf] at hlen; simp at hlen

theorem member?_eq_text {o : Option String} (h : member? p members name = some o) :
    o.isSome ↔ ∃ t s, (some name, t) ∈ members ∧ p t = some (some s) := by
  rcases member?_cases h with ⟨hf, rfl⟩ | ⟨m, hf, hm⟩
  · simp only [mem_filter_name, hf, List.not_mem_nil, false_and, exists_false, Option.isSome_none]
    decide
  · rw [Option.isSome_iff_exists]
    constructor
    · rintro ⟨s, rfl⟩
      exact ⟨m.2, s, mem_of_filter_eq hf, hm⟩
    · rintro ⟨t, s, ht, hs⟩
      rw [mem_filter_name, hf, List.mem_singleton] at ht
      rw [← ht, hs] at hm
      exact ⟨s, (Option.some.inj hm).symm⟩

end Member

/-! ### Texts and details -/

theorem text?_isSome {t : Tree} : (text? t).isSome ↔ TextOrNull t := by
  constructor
  · intro h
    unfold text? at h
    split at h
    · exact .null
    · exact .text _
    · cases h
  · rintro (_ | s) <;> rfl

theorem text?_eq_some {t : Tree} {s : String} : text? t = some (some s) ↔ t = .string (some s) := by
  constructor
  · intro h
    unfold text? at h
    split at h
    · cases h
    · obtain rfl := Option.some.inj (Option.some.inj h); rfl
    · cases h
  · rintro rfl; rfl

theorem named_iff {members : TreeMembers} : named members = true ↔ ∀ m ∈ members, m.1 ≠ none := by
  simp [named, List.all_eq_true, Option.isSome_iff_ne_none]

theorem detail?_isSome {t : Tree} : (detail? t).isSome ↔ DetailOrNull t := by
  constructor
  · intro h
    unfold detail? at h
    split at h
    · exact .null
    · split at h
      case isTrue hn =>
        rw [textMember?_eq, member?_isSome] at h
        exact .object (named_iff.1 hn) h.1 fun t ht => text?_isSome.1 (h.2 t ht)
      case isFalse => cases h
    · exact .array (text?_isSome.1 h)
    · cases h
  · rintro (_ | h | ⟨hn, ho, ht⟩)
    · rfl
    · exact text?_isSome.2 h
    · simp only [detail?, if_pos (named_iff.2 hn), textMember?_eq]
      exact member?_isSome.2 ⟨ho, fun t h => text?_isSome.2 (ht t h)⟩

theorem detail?_eq_some {t : Tree} (ht : DetailOrNull t) :
    (∃ s, detail? t = some (some s)) ↔ DetailTells t := by
  rcases ht with _ | h | ⟨hn, ho, ht⟩
  · constructor
    · rintro ⟨s, hs⟩; cases hs
    · rintro ⟨⟩
  · constructor
    · rintro ⟨s, hs⟩
      obtain rfl := text?_eq_some.1 hs
      exact .array s
    · rintro ⟨s⟩
      exact ⟨s, rfl⟩
  · rename_i members
    have hd : detail? (.object members) = member? text? members "message" := by
      simp only [detail?, if_pos (named_iff.2 hn), textMember?_eq]
    obtain ⟨o, hm⟩ := Option.isSome_iff_exists.1
      (member?_isSome.2 ⟨ho, fun t h => text?_isSome.2 (ht t h)⟩ : (member? text? members "message").isSome)
    have htext := member?_eq_text hm
    rw [hd, hm]
    constructor
    · rintro ⟨s, hs⟩
      obtain ⟨t, s, hmem, hs⟩ := htext.1 (by rw [Option.some.inj hs]; rfl)
      rw [text?_eq_some.1 hs] at hmem
      exact .object hmem
    · rintro (_ | h)
      obtain ⟨s, rfl⟩ := Option.isSome_iff_exists.1 (htext.2 ⟨_, _, h, rfl⟩)
      exact ⟨s, rfl⟩

/-! ### Messages -/

theorem ofMembers?_eq_some {members : TreeMembers} {m : EngineMessage} :
    ofMembers? members = some m ↔ named members = true ∧ member? text? members "stream" = some m.stream ∧
      member? text? members "status" = some m.status ∧ member? text? members "error" = some m.error ∧
      member? detail? members "errorDetail" = some m.detail := by
  simp only [ofMembers?, textMember?_eq, detailMember?_eq, Option.bind_eq_bind, guard,
    Option.bind_eq_some_iff]
  constructor
  · rintro ⟨u, hn, stream, hs, status, hst, error, he, detail, hd, h⟩
    obtain rfl := Option.some.inj h
    refine ⟨?_, hs, hst, he, hd⟩
    cases hnamed : named members with
    | true => rfl
    | false => rw [hnamed] at hn; cases hn
  · rintro ⟨hn, hs, hst, he, hd⟩
    exact ⟨(), by rw [if_pos hn]; rfl, _, hs, _, hst, _, he, _, hd, rfl⟩

theorem ofMembers?_isSome {members : TreeMembers} : (ofMembers? members).isSome ↔ Typed members := by
  rw [Option.isSome_iff_exists]
  constructor
  · rintro ⟨m, hm⟩
    obtain ⟨hn, hs, hst, he, hd⟩ := ofMembers?_eq_some.1 hm
    have hs := member?_isSome.1 (Option.isSome_of_eq_some hs)
    have hst := member?_isSome.1 (Option.isSome_of_eq_some hst)
    have he := member?_isSome.1 (Option.isSome_of_eq_some he)
    have hd := member?_isSome.1 (Option.isSome_of_eq_some hd)
    refine ⟨named_iff.1 hn, ?_, hd.1, ?_, fun t h => detail?_isSome.1 (hd.2 t h)⟩
    · simpa [textNames] using ⟨hs.1, hst.1, he.1⟩
    · simp only [textNames, List.mem_cons, List.not_mem_nil, or_false]
      rintro name (rfl | rfl | rfl) t ht
      · exact text?_isSome.1 (hs.2 t ht)
      · exact text?_isSome.1 (hst.2 t ht)
      · exact text?_isSome.1 (he.2 t ht)
  · intro h
    have htext : ∀ name ∈ textNames, ∃ o, member? text? members name = some o := fun name hname =>
      Option.isSome_iff_exists.1
        (member?_isSome.2 ⟨h.once name hname, fun t ht => text?_isSome.2 (h.text name hname t ht)⟩)
    obtain ⟨stream, hs⟩ := htext "stream" (by simp [textNames])
    obtain ⟨status, hst⟩ := htext "status" (by simp [textNames])
    obtain ⟨error, he⟩ := htext "error" (by simp [textNames])
    obtain ⟨detail, hd⟩ := Option.isSome_iff_exists.1
      (member?_isSome.2 ⟨h.detailOnce, fun t ht => detail?_isSome.2 (h.detail t ht)⟩)
    exact ⟨⟨stream, status, error, detail⟩, ofMembers?_eq_some.2 ⟨named_iff.2 h.named, hs, hst, he, hd⟩⟩

/-- A message is an error if a member tells so. -/
theorem isSome_error_or_detail {members : TreeMembers} {m : EngineMessage}
    (hm : ofMembers? members = some m) :
    (m.error.or m.detail).isSome ↔ Tells members := by
  obtain ⟨-, -, -, he, hd⟩ := ofMembers?_eq_some.1 hm
  have htyped := ofMembers?_isSome.1 (Option.isSome_of_eq_some hm)
  have herror : m.error.isSome ↔ ∃ s, (some "error", .string (some s)) ∈ members := by
    rw [member?_eq_text he]
    constructor
    · rintro ⟨t, s, ht, hs⟩
      exact ⟨s, text?_eq_some.1 hs ▸ ht⟩
    · rintro ⟨s, hs⟩
      exact ⟨_, s, hs, rfl⟩
  have hdetail : m.detail.isSome ↔ ∃ t, (some "errorDetail", t) ∈ members ∧ DetailTells t := by
    rw [member?_eq_text hd]
    constructor
    · rintro ⟨t, s, ht, hs⟩
      exact ⟨t, ht, (detail?_eq_some (htyped.detail t ht)).1 ⟨s, hs⟩⟩
    · rintro ⟨t, ht, htells⟩
      obtain ⟨s, hs⟩ := (detail?_eq_some (htyped.detail t ht)).2 htells
      exact ⟨t, s, ht, hs⟩
  rw [Option.isSome_or, Bool.or_eq_true, herror, hdetail, Tells]

end EngineMessage

/-! ### Lines that are objects -/

theorem map_eq_ok {ε α β : Type} {f : α → β} {x : Except ε α} {b : β} (h : x.map f = .ok b) :
    ∃ a, x = .ok a ∧ f a = b := by
  cases x with
  | error e => cases h
  | ok a => exact ⟨a, rfl, Except.ok.inj h⟩

theorem bind_eq_ok {ε α β : Type} {x : Except ε α} {f : α → Except ε β} {b : β} (h : x.bind f = .ok b) :
    ∃ a, x = .ok a ∧ f a = .ok b := by
  cases x with
  | error e => cases h
  | ok a => exact ⟨a, rfl, h⟩

theorem bind_eq_ok_iff {ε α β : Type} {x : Except ε α} {f : α → Except ε β} {b : β} :
    (x >>= f) = .ok b ↔ ∃ a, x = .ok a ∧ f a = .ok b := by
  constructor
  · exact bind_eq_ok
  · rintro ⟨a, rfl, h⟩
    exact h

theorem numberTree_ne_object {strict negative : Bool} {s rest : Input}
    {members : List (Option String × Tree)} :
    numberTree strict negative s ≠ .ok ⟨.object members, rest⟩ := by
  intro h
  unfold numberTree at h
  cases hn : numberText negative s with
  | error e => rw [hn] at h; cases h
  | ok r =>
    rw [hn] at h
    simp only [bind, Except.bind] at h
    split at h <;> cases h

/-- An object begins with a brace. -/
theorem valueWith_object {strict : Bool} {room : Nat} {inner : Option ItemReader} {s rest : Input}
    {members : List (Option String × Tree)}
    (h : valueWith strict room inner s = .ok ⟨.object members, rest⟩) :
    (skipSpace s).head? = some (.char '\x7b') := by
  unfold valueWith at h
  split at h
  case h_8 heq => rw [heq]; rfl
  case h_1 | h_10 => cases h
  case h_2 | h_3 | h_4 | h_5 =>
    obtain ⟨_, -, h⟩ := map_eq_ok h
    cases h
  case h_6 => exact absurd h numberTree_ne_object
  case h_7 =>
    split at h
    · cases h
    · obtain ⟨_, -, h⟩ := map_eq_ok h
      cases h
  case h_9 =>
    split at h
    · exact absurd h numberTree_ne_object
    · cases h

theorem skipSpace_ofText (l : List Char) :
    skipSpace (Utf8.Piece.ofText l) = Utf8.Piece.ofText (l.dropWhile isSpace) := by
  induction l with
  | nil => rfl
  | cons c r ih =>
    simp only [Utf8.Piece.ofText, List.map_cons, skipSpace, List.dropWhile_cons] at ih ⊢
    split
    · exact ih
    · rfl

theorem isBlank_of_isSpace {c : Char} (h : isSpace c = true) : Text.isBlank c = true := by
  simp only [isSpace, Bool.or_eq_true, beq_iff_eq] at h
  rcases h with ((rfl | rfl) | rfl) | rfl <;> decide

theorem trimStart_of_brace {l r : List Char} (h : l.dropWhile isSpace = '\x7b' :: r) :
    Text.trimStart l = '\x7b' :: r := by
  induction l with
  | nil => cases h
  | cons c l ih =>
    rw [List.dropWhile_cons] at h
    rw [Text.trimStart, List.dropWhile_cons]
    split at h
    case isTrue hc => rw [if_pos (isBlank_of_isSpace hc)]; exact ih h
    case isFalse =>
      obtain ⟨rfl, rfl⟩ := List.cons.inj h
      rfl

theorem looksLikeMessage_of_object {line : String} {members : EngineMessage.TreeMembers}
    (h : Tree.readLoose (Utf8.Piece.ofText line.toList) = .ok (.object members)) :
    looksLikeMessage line = true := by
  have hv : ∃ rest inner, valueWith false ((Utf8.Piece.ofText line.toList).length + 1) inner
      (Utf8.Piece.ofText line.toList) = .ok ⟨.object members, rest⟩ := by
    unfold Tree.readLoose wholeText at h
    generalize (Utf8.Piece.ofText line.toList).length + 1 = room at h ⊢
    cases hr : valueWithin false room (Utf8.Piece.ofText line.toList).length
      (Utf8.Piece.ofText line.toList) with
    | error e => rw [hr] at h; cases h
    | ok r =>
      rw [hr] at h
      simp only [bind, Except.bind] at h
      split at h
      case isTrue =>
        obtain ⟨value, rest⟩ := r
        obtain rfl := Except.ok.inj h
        cases hd : (Utf8.Piece.ofText line.toList).length <;> rw [hd] at hr <;> exact ⟨rest, _, hr⟩
      case isFalse => cases h
  obtain ⟨rest, inner, hv⟩ := hv
  have hs := valueWith_object hv
  rw [skipSpace_ofText] at hs
  match hd : line.toList.dropWhile isSpace with
  | [] => rw [hd] at hs; cases hs
  | c :: r =>
    rw [hd] at hs
    obtain rfl : c = '\x7b' := Utf8.Piece.char.inj (Option.some.inj hs)
    rw [looksLikeMessage, trimStart_of_brace hd]
    rfl

/-- **A line that is an object reports an error** exactly if it is a message and a member tells so. -/
theorem Frame.isError_iff {line : String} {members : EngineMessage.TreeMembers}
    (h : Tree.readLoose (Utf8.Piece.ofText line.toList) = .ok (.object members)) :
    (∃ message, Frame.ofLine line = .error message) ↔
      EngineMessage.Typed members ∧ EngineMessage.Tells members := by
  simp only [Frame.ofLine, looksLikeMessage_of_object h, if_true, EngineMessage.ofLine?, h]
  cases hm : EngineMessage.ofMembers? members with
  | none =>
    refine iff_of_false (by rintro ⟨_, ⟨⟩⟩) fun ⟨ht, _⟩ => ?_
    have := EngineMessage.ofMembers?_isSome.2 ht
    rw [hm] at this
    cases this
  | some m =>
    have htyped := EngineMessage.ofMembers?_isSome.1 (Option.isSome_of_eq_some hm)
    rw [and_iff_right htyped, ← EngineMessage.isSome_error_or_detail hm]
    simp only [EngineMessage.frame]
    cases m.error.or m.detail with
    | none => simp
    | some e => simp

end FlakeImage
