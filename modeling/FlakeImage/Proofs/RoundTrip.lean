import FlakeImage.Proofs.Configuration
import FlakeImage.Proofs.Encoding
import FlakeImage.Proofs.StrictReading

/-!
# Configurations that are written and read again

`ImageConfig.Form` says in which ways a configuration may be written: as an object or as an array, with parts left
out where they have their defaults, and an object with other members besides. Each of them is decoded as the
configuration it is a form of, and conversely a value is decoded only as what its parts say
(`BuildConfig.ofValue_forms`). The same holds of the texts of such a value, as long as they are not nested too deep;
what an unknown member holds counts for that too (`nestedFile_refused`).
-/

namespace FlakeImage

open Json

theorem FlagOf.eq_of_some {o : Option Value} {p : Value} {b : Bool} (h : FlagOf o b) (ho : o = some p) :
    p = .bool b := by
  subst ho
  cases h
  rfl

theorem TextOf.eq_of_some {o : Option Value} {p : Value} {s : Option String} (h : TextOf o s) (ho : o = some p) :
    p = .ofText? s := by
  subst ho
  cases h <;> rfl

namespace ImageConfig
variable {c : ImageConfig} {v : Value} {l : List (String × Value)}

/-! ### The parts of a configuration -/

/-- A part of a configuration in a value: a member of an object by its name, an item of an array by its place. -/
def part? (v : Value) (name : String) (place : Nat) : Option Value :=
  match v with
  | .object members => Members.get? members name
  | .array items => items[place]?
  | _ => none

/-- An object, or an array without further items. -/
inductive IsRecord : Value → Prop
  | object (members : Members) : IsRecord (.object members)
  | array {items : List Value} (h : items.length ≤ 3) : IsRecord (.array items)

/-- The value has the configuration for its parts. -/
structure Says (v : Value) (c : ImageConfig) : Prop where
  shape : IsRecord v
  enabled : FlagOf (part? v "enabled" 0) c.enabled
  name : TextOf (part? v "name" 1) c.name
  system : TextOf (part? v "system" 2) c.system

theorem decode_array_eq_ok_iff {items : List Value} : decode (.array items) = .ok c ↔ Says (.array items) c := by
  have hparts : decode (.array items) = .ok c ↔ _ := parts_eq_ok_iff
  rw [hparts, Decoder.atMost_eq_ok_iff]
  constructor
  · rintro ⟨he, hn, hs, hlength⟩
    exact ⟨.array hlength, he, hn, hs⟩
  · rintro ⟨⟨⟩, he, hn, hs⟩
    next hlength => exact ⟨he, hn, hs, hlength⟩

/-- **A value is decoded as what its parts say.** -/
theorem decode_eq_ok_iff : decode v = .ok c ↔ Says v c := by
  cases v with
  | object members =>
    rw [decode_object_eq_ok_iff]
    constructor
    · rintro ⟨he, hn, hs⟩
      exact ⟨.object members, he, hn, hs⟩
    · rintro ⟨-, he, hn, hs⟩
      exact ⟨he, hn, hs⟩
  | array items => exact decode_array_eq_ok_iff
  | _ =>
    constructor
    · nofun
    · rintro ⟨⟨⟩, -⟩

/-- A part of another type than the configuration has. -/
inductive IllTyped (v : Value) : Prop
  | enabled {p : Value} (h : part? v "enabled" 0 = some p) (hp : ∀ b, p ≠ .bool b)
  | name {p : Value} (h : part? v "name" 1 = some p) (hp : ∀ s, p ≠ .ofText? s)
  | system {p : Value} (h : part? v "system" 2 = some p) (hp : ∀ s, p ≠ .ofText? s)

theorem Says.not_illTyped (h : Says v c) : ¬ IllTyped v := by
  obtain ⟨-, henabled, hname, hsystem⟩ := h
  rintro (⟨hget, hp⟩ | ⟨hget, hp⟩ | ⟨hget, hp⟩)
  · exact hp _ (henabled.eq_of_some hget)
  · exact hp _ (hname.eq_of_some hget)
  · exact hp _ (hsystem.eq_of_some hget)

/-! ### How a configuration is written -/

/-- The parts of a configuration in an array. -/
def items (c : ImageConfig) : List Value := [.bool c.enabled, .ofText? c.name, .ofText? c.system]

/-- What a configuration is written as. Where a part has its default, it may be left out of an object, and of an array
if no other part follows. An object may have any other members, but it is for this builder if it is for any. -/
inductive Form (c : ImageConfig) : Value → Prop
  | object {l : List (String × Value)} (hnames : (l.map Prod.fst).Nodup)
      (hmembers : ∀ m ∈ c.members, m ∈ l ∨ m ∈ members {} ∧ m.1 ∉ l.map Prod.fst)
      (hbuilder : ∀ b, ("builder", b) ∈ l → b = .string builderId) : Form c (.ofMembers l)
  | array {written dropped : List Value} (hitems : c.items = written ++ dropped) (hdropped : dropped <:+ items {}) :
    Form c (.array written)

theorem form_encode (c : ImageConfig) : Form c c.encode := by
  refine .object (by simp [members]) (fun m hm => .inl hm) fun b hb => ?_
  simp [members] at hb

/-- A part is written, or left out with its default. -/
def Kept (o : Option Value) (v default : Value) : Prop := o = some v ∨ o = none ∧ v = default

theorem Kept.flagOf {o : Option Value} {b : Bool} (h : Kept o (.bool b) (.bool false)) : FlagOf o b := by
  rcases h with rfl | ⟨rfl, hb⟩
  · exact .flag b
  · obtain rfl := Value.bool.inj hb
    exact .missing

theorem Kept.textOf {o : Option Value} {s : Option String} (h : Kept o (.ofText? s) .null) : TextOf o s := by
  cases s with
  | none =>
    rcases h with rfl | ⟨rfl, -⟩
    · exact .null
    · exact .missing
  | some s =>
    rcases h with rfl | ⟨-, hs⟩
    · exact .text s
    · cases hs

theorem kept_member {name : String} {default : Value} (hnames : (l.map Prod.fst).Nodup)
    (h : (name, v) ∈ l ∨ (name, v) ∈ members {} ∧ name ∉ l.map Prod.fst)
    (hdefault : ∀ v, (name, v) ∈ members {} → v = default) : Kept (Members.get? (Members.ofList l) name) v default := by
  rcases h with h | ⟨h, hno⟩
  · exact .inl (Members.get?_ofList_of_mem hnames h)
  · exact .inr ⟨Members.get?_ofList_of_not_mem hno, hdefault v h⟩

theorem kept_item {written dropped : List Value} (hitems : c.items = written ++ dropped)
    (hdropped : dropped <:+ items {}) {i : Nat} {default : Value} (hv : c.items[i]? = some v)
    (hdefault : (items {})[i]? = some default) : Kept written[i]? v default := by
  obtain ⟨before, hbefore⟩ := hdropped
  have hlength : before.length = written.length := by
    have hc : written.length + dropped.length = 3 := by rw [← List.length_append, ← hitems]; rfl
    have hd : before.length + dropped.length = 3 := by rw [← List.length_append, hbefore]; rfl
    omega
  rw [hitems] at hv
  rw [← hbefore] at hdefault
  by_cases hi : i < written.length
  · rw [List.getElem?_append_left hi] at hv
    exact .inl hv
  · have hi : written.length ≤ i := Nat.le_of_not_lt hi
    -- What is dropped of the configuration stands at the same places as in the default.
    rw [List.getElem?_append_right hi] at hv
    rw [List.getElem?_append_right (hlength ▸ hi), hlength, hv] at hdefault
    exact .inr ⟨List.getElem?_eq_none hi, Option.some.inj hdefault⟩

theorem Form.says (h : Form c v) : Says v c := by
  cases h with
  | @object l hnames hmembers hbuilder =>
    have hkept {name : String} {v default : Value} (hmem : (name, v) ∈ c.members)
        (hdefault : ∀ v, (name, v) ∈ members {} → v = default) :=
      kept_member hnames (hmembers (name, v) hmem) hdefault
    refine ⟨.object _, Kept.flagOf (hkept ?_ ?_), Kept.textOf (hkept ?_ ?_), Kept.textOf (hkept ?_ ?_)⟩
    all_goals simp [members, Value.ofText?]
  | @array written dropped hitems hdropped =>
    have hlength : written.length ≤ 3 := by
      have hc : written.length + dropped.length = 3 := by rw [← List.length_append, ← hitems]; rfl
      omega
    exact ⟨.array hlength, (kept_item hitems hdropped rfl rfl).flagOf, (kept_item hitems hdropped rfl rfl).textOf,
      (kept_item hitems hdropped rfl rfl).textOf⟩

theorem Form.builder (h : Form c v) {b : String} (hb : v.get? "builder" = some (.string b)) : b = builderId := by
  cases h with
  | @object l hnames hmembers hbuilder =>
    change Members.get? (Members.ofList l) "builder" = some (.string b) at hb
    by_cases hmem : "builder" ∈ l.map Prod.fst
    · obtain ⟨⟨name, w⟩, hw, rfl⟩ := List.mem_map.1 hmem
      obtain rfl := hbuilder w hw
      rw [Members.get?_ofList_of_mem hnames hw] at hb
      exact (Value.string.inj (Option.some.inj hb)).symm
    · rw [Members.get?_ofList_of_not_mem hmem] at hb
      cases hb
  | array => cases hb

end ImageConfig

namespace BuildConfig
variable {c : ImageConfig} {v : Value}

/-- What is for no other builder is decoded as a configuration for this one. -/
theorem ofValue_eq_decode (h : ∀ b, v.get? "builder" = some (.string b) → b = builderId) :
    ofValue v = (lift (ImageConfig.decode v)).map .image := by
  by_cases hown : v.get? "builder" = some (.string builderId)
  · simp [ofValue, hown, Value.text?]
  · refine ofValue_of_no_text fun b hb => hown ?_
    rw [hb, h b hb]

theorem ofValue_eq_image_iff : ofValue v = .ok (.image c) ↔
    (∀ b, v.get? "builder" = some (.string b) → b = builderId) ∧ ImageConfig.Says v c := by
  constructor
  · intro h
    have hown (b : String) (hb : v.get? "builder" = some (.string b)) : b = builderId := by
      by_contra hother
      rw [ofValue_of_text hb hother] at h
      cases h
    rw [ofValue_eq_decode hown] at h
    obtain ⟨c', hc', hsame⟩ := map_lift_eq_ok_iff.1 h
    obtain rfl := BuildConfig.image.inj hsame
    exact ⟨hown, ImageConfig.decode_eq_ok_iff.1 hc'⟩
  · rintro ⟨hown, h⟩
    rw [ofValue_eq_decode hown, ImageConfig.decode_eq_ok_iff.2 h]
    rfl

theorem ofValue_of_form (h : ImageConfig.Form c v) : ofValue v = .ok (.image c) :=
  ofValue_eq_image_iff.2 ⟨fun _ hb => h.builder hb, h.says⟩

theorem ofValue_of_illTyped (hown : ∀ b, v.get? "builder" = some (.string b) → b = builderId)
    (h : ImageConfig.IllTyped v) : ∃ text, ofValue v = .error (.json (.mismatch text)) := by
  rw [ofValue_eq_decode hown]
  cases hdecode : ImageConfig.decode v with
  | ok c => exact absurd h (ImageConfig.decode_eq_ok_iff.1 hdecode).not_illTyped
  | error text => exact ⟨text, rfl⟩

section Text
variable {s : String} {t : Tree}

theorem ofFile_of_writes (hwrites : Writes (.element t) s.toList) (hv : t.value? = some v) (hdepth : t.depth ≤ maxDepth) :
    ofFile (.ok (Utf8.encode s)) = ofValue v := by
  simp only [ofFile, parse, ofBytes_encode_eq_ok_iff.2 ⟨t, hwrites, hdepth, hv⟩]

theorem ofFile_of_deep (hwrites : Writes (.element t) s.toList) (hdepth : maxDepth < t.depth) :
    ofFile (.ok (Utf8.encode s)) = .error (.json .malformed) := by
  simp only [ofFile, parse, hwrites.ofBytes_eq_malformed hdepth, jsonError]

end Text

/-- **A configuration is read as it is written.** It is decoded from its value and from every form of it, and from
every text of such a value in which arrays and objects are nested at most `maxDepth` deep; any other text of it is
malformed. Conversely a value is decoded only as a configuration that has exactly the parts that the value has, and
if a part has another type and the value is for no other builder, this is an error in the data. -/
theorem ofValue_forms :
    (∀ c : ImageConfig, ofValue c.encode = .ok (.image c)) ∧
    (∀ (c : ImageConfig) (v : Value), c.Form v → ofValue v = .ok (.image c) ∧
      ∀ (s : String) (t : Tree), Writes (.element t) s.toList → t.value? = some v →
        (t.depth ≤ maxDepth → ofFile (.ok (Utf8.encode s)) = .ok (.image c)) ∧
        (maxDepth < t.depth → ofFile (.ok (Utf8.encode s)) = .error (.json .malformed))) ∧
    (∀ (v : Value) (c : ImageConfig), ofValue v = .ok (.image c) →
      (∀ p, ImageConfig.part? v "enabled" 0 = some p → p = .bool c.enabled) ∧
      (∀ p, ImageConfig.part? v "name" 1 = some p → p = .ofText? c.name) ∧
      ∀ p, ImageConfig.part? v "system" 2 = some p → p = .ofText? c.system) ∧
    ∀ v : Value, (∀ b, v.get? "builder" = some (.string b) → b = builderId) → ImageConfig.IllTyped v →
      ∃ text, ofValue v = .error (.json (.mismatch text)) := by
  refine ⟨fun c => ofValue_of_form c.form_encode, fun c v h => ⟨ofValue_of_form h, fun s t hwrites hv => ⟨?_, ?_⟩⟩,
    fun v c h => ?_, fun v hown h => ofValue_of_illTyped hown h⟩
  · intro hdepth
    rw [ofFile_of_writes hwrites hv hdepth, ofValue_of_form h]
  · exact ofFile_of_deep hwrites
  · obtain ⟨-, -, henabled, hname, hsystem⟩ := ofValue_eq_image_iff.1 h
    exact ⟨fun p => henabled.eq_of_some, fun p => hname.eq_of_some, fun p => hsystem.eq_of_some⟩

/-- The system is dropped. -/
def shortFile : String := "[true, \"a\"]"

theorem shortFile_read :
    ofFile (.ok (Utf8.encode shortFile)) = .ok (.image ⟨true, some "a", none⟩) ∧
      ∃ text, ofValue (.array [.string "yes"]) = .error (.json (.mismatch text)) := by
  have hwrites : Writes (.element (.array [.bool true, .string (some "a")])) shortFile.toList :=
    readLoose_eq_ok_iff.1 (by cbv)
  have hdropped : [Value.null] <:+ ImageConfig.items {} := ⟨[.bool false, .null], rfl⟩
  have hform : ImageConfig.Form ⟨true, some "a", none⟩ (.array [.bool true, .string "a"]) := .array rfl hdropped
  obtain ⟨-, hforms, -, hillTyped⟩ := ofValue_forms
  obtain ⟨-, htext⟩ := hforms _ _ hform
  refine ⟨(htext shortFile _ hwrites rfl).1 (by decide), hillTyped _ (fun b hb => ?_) (.enabled rfl fun b hb => ?_)⟩
  · cases hb
  · cases hb

/-! ### A member that is nested too deep -/

/-- An array in so many others. -/
def nest : Nat → Value
  | 0 => .array []
  | n + 1 => .array [nest n]

/-- The shape of its text. -/
def nestTree : Nat → Tree
  | 0 => .array []
  | n + 1 => .array [nestTree n]

/-- Its text. -/
def nestText : Nat → List Char
  | 0 => ['[', ']']
  | n + 1 => '[' :: (nestText n ++ [']'])

theorem depth_nestTree (n : Nat) : (nestTree n).depth = n + 1 := by
  induction n with
  | zero => rfl
  | succ n ih => simp [nestTree, Tree.depth, Tree.depths, ih]

theorem value?_nestTree (n : Nat) : (nestTree n).value? = some (nest n) := by
  induction n with
  | zero => rfl
  | succ n ih => simp [nestTree, nest, Tree.value?, Tree.values?, ih]

theorem writes_nestText (n : Nat) : Writes (.value (nestTree n)) (nestText n) := by
  induction n with
  | zero => exact .noItems Blank.nil
  | succ n ih =>
    have helement := Writes.element Blank.nil ih Blank.nil
    rw [List.nil_append, List.append_nil] at helement
    exact .array (.lastElement helement)

/-- An unknown member in the middle of which there are `n` arrays around another one. -/
def nestedFile (n : Nat) : List Char := '\x7b' :: '"' :: 'x' :: '"' :: ':' :: (nestText n ++ ['\x7d'])

theorem writes_nestedFile (n : Nat) :
    Writes (.element (.object [(some "x", nestTree n)])) (nestedFile n) := by
  have hname : Literal ['x'] (some "x") := .text (.plain (by decide) (by decide) (by decide) .nil)
  have helement := Writes.element Blank.nil (writes_nestText n) Blank.nil
  have hmember := Writes.member Blank.nil hname Blank.nil helement
  have hfile := Writes.element Blank.nil (.object (.lastMember hmember)) Blank.nil
  simpa [nestedFile] using hfile

/-- An object with such a member is a form of the default, but a text of it is malformed. -/
theorem nestedFile_refused :
    let v : Value := .ofMembers [("x", nest 126)]
    let t : Tree := .object [(some "x", nestTree 126)]
    ImageConfig.Form {} v ∧ Writes (.element t) (String.ofList (nestedFile 126)).toList ∧ t.value? = some v ∧
      ofValue v = .ok (.image {}) ∧
      ofFile (.ok (Utf8.encode (String.ofList (nestedFile 126)))) = .error (.json .malformed) := by
  intro v t
  have hform : ImageConfig.Form {} v := by
    refine .object (by simp) (fun m hm => .inr ⟨hm, ?_⟩) fun b hb => ?_
    · rw [ImageConfig.members] at hm
      fin_cases hm <;> simp
    · simp at hb
  have hwrites : Writes (.element t) (String.ofList (nestedFile 126)).toList := by
    rw [String.toList_ofList]
    exact writes_nestedFile 126
  have hvalue : t.value? = some v := by
    simp [t, v, Tree.value?, Tree.members?, value?_nestTree, Value.ofMembers]
  have hdepth : maxDepth < t.depth := by
    simp [t, Tree.depth, Tree.memberDepths, depth_nestTree, maxDepth]
  exact ⟨hform, hwrites, hvalue, ofValue_of_form hform, ofFile_of_deep hwrites hdepth⟩

end BuildConfig

end FlakeImage
