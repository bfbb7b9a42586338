import FlakeImage.Config.Settings
import FlakeImage.Proofs.Frame

/-!
# What settings are written as

`LoadStrategy.Form` and `Settings.Form` say which values a strategy and settings may be written as: an object with
their members among any others, or an array of their parts. These are exactly the values that are decoded, each as
what it is a form of (`Settings.decode_forms`); what the program itself writes is one of them.
-/

namespace FlakeImage

open Json

/-! ### Members -/

namespace Json.Members
variable {name n : String} {v w : Value} {members : Members} {l : List (String × Value)}

theorem get?_insert_self : get? (insert name v members) name = some v := by
  induction members with
  | nil => simp [insert, get?]
  | cons m r ih =>
    obtain ⟨n, w⟩ := m
    unfold insert
    split
    · simp [get?]
    · split
      · simp [get?]
      · next hne =>
        have hbeq : (name == n) = false := beq_eq_false_iff_ne.2 hne
        simpa [get?, List.lookup_cons, hbeq] using ih

theorem get?_insert_of_ne (hne : n ≠ name) : get? (insert name v members) n = get? members n := by
  have hbeq : (n == name) = false := beq_eq_false_iff_ne.2 hne
  induction members with
  | nil => simp [insert, get?, List.lookup_cons, hbeq]
  | cons m r ih =>
    obtain ⟨n', w⟩ := m
    unfold insert
    split
    · simp [get?, List.lookup_cons, hbeq]
    · split
      · next heq => simp [get?, List.lookup_cons, hbeq, ← heq]
      · have ih : (insert name v r).lookup n = r.lookup n := ih
        simp [get?, List.lookup_cons, ih]

theorem ofList_concat (m : String × Value) : ofList (l ++ [m]) = insert m.1 m.2 (ofList l) := by
  simp [ofList]

theorem get?_ofList_of_not_mem (h : name ∉ l.map Prod.fst) : get? (ofList l) name = none := by
  induction l using List.reverseRecOn with
  | nil => rfl
  | append_singleton l m ih =>
    simp only [List.map_append, List.mem_append, not_or, List.map_cons, List.map_nil, List.mem_singleton] at h
    rw [ofList_concat, get?_insert_of_ne h.2, ih h.1]

/-- An object with each name once has the members that it is made of. -/
theorem get?_ofList_of_mem (hl : (l.map Prod.fst).Nodup) (h : (name, v) ∈ l) : get? (ofList l) name = some v := by
  induction l using List.reverseRecOn with
  | nil => cases h
  | append_singleton l m ih =>
    rw [List.map_append, List.nodup_append] at hl
    obtain ⟨hl, -, hdisjoint⟩ := hl
    rw [ofList_concat]
    rcases List.mem_append.1 h with hmem | hmem
    · have hne : name ≠ m.1 := hdisjoint name (List.mem_map_of_mem hmem) m.1 (by simp)
      rw [get?_insert_of_ne hne, ih hl hmem]
    · obtain rfl := List.mem_singleton.1 hmem
      exact get?_insert_self

end Json.Members

/-! ### Parts of a record -/

namespace Json.Decoder
variable {α : Type} {d : Decoder α} {a : α} {members : Members} {name expected : String} {v : Value}
variable {items : List Value} {i max n : Nat}

theorem natural_eq_ok_iff : natural max name v = .ok n ↔ v = .ofNat n ∧ n ≤ max := by
  constructor
  · intro h
    unfold natural at h
    split at h
    · next i =>
      split at h
      · next hi =>
        obtain rfl := Except.ok.inj h
        have hcast : (i.toNat : Int) = i := Int.toNat_of_nonneg hi.1
        exact ⟨by rw [Value.ofNat, hcast], by omega⟩
      · cases h
    · cases h
  · rintro ⟨rfl, hn⟩
    simp [natural, Value.ofNat, hn]

theorem text_eq_ok_iff {s : String} : text v = .ok s ↔ v = .string s := by
  unfold text textAs
  cases v <;> simp

/-- A field that has to be there is found as what its member says. -/
theorem required_field_eq_ok_iff :
    (∃ o, field? members name d = .ok o ∧ required name o = .ok a) ↔
      ∃ v, Members.get? members name = some v ∧ d v = .ok a := by
  unfold field?
  cases Members.get? members name with
  | none => simp [required]
  | some v =>
    dsimp only
    cases hv : d v <;> simp [Except.map, required, hv]

theorem item_eq_ok_iff : item items i expected d = .ok a ↔ ∃ v, items[i]? = some v ∧ d v = .ok a := by
  unfold item
  cases items[i]? <;> simp

theorem atMost_eq_ok_iff {u : Unit} : atMost items n = .ok u ↔ items.length ≤ n := by
  unfold atMost
  split <;> simp [*]

end Json.Decoder

/-! ### Strategies -/

namespace LoadStrategy

/-- The members of a strategy as it is written. -/
def members : LoadStrategy → List (String × Value)
  | .retry attempts delay =>
    [("strategy", .string "retry"), ("attempts", .ofNat attempts), ("delay_ms", .ofNat delay)]
  | .preDelay delay => [("strategy", .string "pre_delay"), ("delay_ms", .ofNat delay)]

variable {s : LoadStrategy} {members : Members} {rest : List Value} {v : Value} {kind : Kind} {n : Nat}

/-- The attempts are a number of 32 bits and the delay is one of 64. -/
def Fits : LoadStrategy → Prop
  | .retry attempts delay => attempts < 2 ^ 32 ∧ delay < 2 ^ 64
  | .preDelay delay => delay < 2 ^ 64

/-- The members describe the strategy; there may be others, of any shape. -/
inductive Describes (members : Members) : LoadStrategy → Prop
  | retry {attempts delay : Nat} (hname : Members.get? members "strategy" = some (.string "retry"))
      (hattempts : Members.get? members "attempts" = some (.ofNat attempts)) (hattemptsFit : attempts < 2 ^ 32)
      (hdelay : Members.get? members "delay_ms" = some (.ofNat delay)) (hdelayFits : delay < 2 ^ 64) :
    Describes members (.retry attempts delay)
  | preDelay {delay : Nat} (hname : Members.get? members "strategy" = some (.string "pre_delay"))
      (hdelay : Members.get? members "delay_ms" = some (.ofNat delay)) (hdelayFits : delay < 2 ^ 64) :
    Describes members (.preDelay delay)

/-- The parts of a strategy in an array. -/
def items : LoadStrategy → List Value
  | .retry attempts delay => [.string "retry", .ofNat attempts, .ofNat delay]
  | .preDelay delay => [.string "pre_delay", .ofNat delay]

/-- What a strategy is written as. -/
inductive Form (s : LoadStrategy) : Value → Prop
  | object {members : Members} (h : Describes members s) : Form s (.object members)
  | array (h : s.Fits) : Form s (.array s.items)

theorem number32_eq_ok_iff : number32 v = .ok n ↔ v = .ofNat n ∧ n < 2 ^ 32 := by
  have hmax : Number.max32 + 1 = 2 ^ 32 := rfl
  rw [number32, Decoder.natural_eq_ok_iff, ← hmax, Nat.lt_succ_iff]

theorem number64_eq_ok_iff : number64 v = .ok n ↔ v = .ofNat n ∧ n < 2 ^ 64 := by
  have hmax : Number.max64 + 1 = 2 ^ 64 := rfl
  rw [number64, Decoder.natural_eq_ok_iff, ← hmax, Nat.lt_succ_iff]

theorem exactly_eq_ok_iff {u : Unit} : exactly rest n = .ok u ↔ rest.length ≤ n := by
  unfold exactly
  split <;> simp [*]

/-- The name of a strategy. -/
def Kind.name : Kind → String
  | .retry => "retry"
  | .preDelay => "pre_delay"

theorem Kind.decode_eq_ok_iff : Kind.decode v = .ok kind ↔ v = .string kind.name := by
  constructor
  · intro h
    unfold Kind.decode at h
    split at h
    · next name =>
      split at h
      · next hname => cases h; rw [hname]; rfl
      · split at h
        · next hname => cases h; rw [hname]; rfl
        · cases h
    · cases h
  · rintro rfl
    cases kind <;> rfl

theorem required_number_eq_ok_iff {d : Decoder Nat} {name : String} {max : Nat}
    (hd : ∀ v n, d v = .ok n ↔ v = .ofNat n ∧ n < max) :
    (∃ o, Decoder.field? members name d = .ok o ∧ Decoder.required name o = .ok n) ↔
      Members.get? members name = some (.ofNat n) ∧ n < max := by
  rw [Decoder.required_field_eq_ok_iff]
  constructor
  · rintro ⟨v, hv, hn⟩
    obtain ⟨rfl, hfits⟩ := (hd v n).1 hn
    exact ⟨hv, hfits⟩
  · rintro ⟨hv, hfits⟩
    exact ⟨_, hv, (hd _ n).2 ⟨rfl, hfits⟩⟩

theorem decodeMembers_retry_eq_ok_iff : decodeMembers members .retry = .ok s ↔
    ∃ attempts delay, (Members.get? members "attempts" = some (.ofNat attempts) ∧ attempts < 2 ^ 32) ∧
      (Members.get? members "delay_ms" = some (.ofNat delay) ∧ delay < 2 ^ 64) ∧ s = .retry attempts delay := by
  simp only [decodeMembers, bind_eq_ok_iff]
  constructor
  · rintro ⟨oa, hoa, od, hod, attempts, ha, delay, hd, h⟩
    have hattempts := (required_number_eq_ok_iff fun _ _ => number32_eq_ok_iff).1 ⟨oa, hoa, ha⟩
    have hdelay := (required_number_eq_ok_iff fun _ _ => number64_eq_ok_iff).1 ⟨od, hod, hd⟩
    exact ⟨attempts, delay, hattempts, hdelay, (Except.ok.inj h).symm⟩
  · rintro ⟨attempts, delay, hattempts, hdelay, rfl⟩
    obtain ⟨oa, hoa, ha⟩ := (required_number_eq_ok_iff fun _ _ => number32_eq_ok_iff).2 hattempts
    obtain ⟨od, hod, hd⟩ := (required_number_eq_ok_iff fun _ _ => number64_eq_ok_iff).2 hdelay
    exact ⟨oa, hoa, od, hod, attempts, ha, delay, hd, rfl⟩

theorem decodeMembers_preDelay_eq_ok_iff : decodeMembers members .preDelay = .ok s ↔
    ∃ delay, (Members.get? members "delay_ms" = some (.ofNat delay) ∧ delay < 2 ^ 64) ∧ s = .preDelay delay := by
  simp only [decodeMembers, bind_eq_ok_iff]
  constructor
  · rintro ⟨o, ho, delay, hd, h⟩
    have hdelay := (required_number_eq_ok_iff fun _ _ => number64_eq_ok_iff).1 ⟨o, ho, hd⟩
    exact ⟨delay, hdelay, (Except.ok.inj h).symm⟩
  · rintro ⟨delay, hdelay, rfl⟩
    obtain ⟨o, ho, hd⟩ := (required_number_eq_ok_iff fun _ _ => number64_eq_ok_iff).2 hdelay
    exact ⟨o, ho, delay, hd, rfl⟩

theorem decode_object_eq_ok_iff : decode (.object members) = .ok s ↔ Describes members s := by
  rw [decode]
  constructor
  · intro h
    split at h
    · cases h
    · next name hname =>
      obtain ⟨kind, hkind, h⟩ := bind_eq_ok_iff.1 h
      obtain rfl := Kind.decode_eq_ok_iff.1 hkind
      cases kind with
      | retry =>
        obtain ⟨attempts, delay, ⟨hattempts, hafits⟩, ⟨hdelay, hdfits⟩, rfl⟩ := decodeMembers_retry_eq_ok_iff.1 h
        exact .retry hname hattempts hafits hdelay hdfits
      | preDelay =>
        obtain ⟨delay, ⟨hdelay, hfits⟩, rfl⟩ := decodeMembers_preDelay_eq_ok_iff.1 h
        exact .preDelay hname hdelay hfits
  · rintro (⟨hname, hattempts, hafits, hdelay, hdfits⟩ | ⟨hname, hdelay, hfits⟩)
    · rw [hname]
      exact decodeMembers_retry_eq_ok_iff.2 ⟨_, _, ⟨hattempts, hafits⟩, ⟨hdelay, hdfits⟩, rfl⟩
    · rw [hname]
      exact decodeMembers_preDelay_eq_ok_iff.2 ⟨_, ⟨hdelay, hfits⟩, rfl⟩

theorem decodeItems_eq_ok_iff : decodeItems rest kind = .ok s ↔ s.Fits ∧ .string kind.name :: rest = s.items := by
  cases kind with
  | retry =>
    simp only [decodeItems, bind_eq_ok_iff, Decoder.item_eq_ok_iff, exactly_eq_ok_iff, number32_eq_ok_iff,
      number64_eq_ok_iff]
    constructor
    · rintro ⟨attempts, ⟨v, hv, rfl, hafits⟩, delay, ⟨v', hv', rfl, hdfits⟩, u, hlength, h⟩
      obtain rfl := Except.ok.inj h
      refine ⟨⟨hafits, hdfits⟩, ?_⟩
      match rest, hlength with
      | [x, y], _ =>
        obtain rfl := Option.some.inj hv
        obtain rfl := Option.some.inj hv'
        rfl
    · rintro ⟨hfits, hitems⟩
      cases s with
      | retry attempts delay =>
        obtain rfl := (List.cons.inj hitems).2
        exact ⟨attempts, ⟨_, rfl, rfl, hfits.1⟩, delay, ⟨_, rfl, rfl, hfits.2⟩, (), Nat.le_refl 2, rfl⟩
      | preDelay delay => exact absurd (Value.string.inj (List.cons.inj hitems).1) (by decide)
  | preDelay =>
    simp only [decodeItems, bind_eq_ok_iff, Decoder.item_eq_ok_iff, exactly_eq_ok_iff, number64_eq_ok_iff]
    constructor
    · rintro ⟨delay, ⟨v, hv, rfl, hfits⟩, u, hlength, h⟩
      obtain rfl := Except.ok.inj h
      refine ⟨hfits, ?_⟩
      match rest, hlength with
      | [x], _ =>
        obtain rfl := Option.some.inj hv
        rfl
    · rintro ⟨hfits, hitems⟩
      cases s with
      | retry attempts delay => exact absurd (Value.string.inj (List.cons.inj hitems).1) (by decide)
      | preDelay delay =>
        obtain rfl := (List.cons.inj hitems).2
        exact ⟨delay, ⟨_, rfl, rfl, hfits⟩, (), Nat.le_refl 1, rfl⟩

theorem exists_kind (s : LoadStrategy) : ∃ (kind : Kind) (rest : List Value), s.items = .string kind.name :: rest := by
  cases s with
  | retry attempts delay => exact ⟨.retry, _, rfl⟩
  | preDelay delay => exact ⟨.preDelay, _, rfl⟩

/-- A strategy is decoded from its forms, and from nothing else. -/
theorem decode_eq_ok_iff : decode v = .ok s ↔ s.Form v := by
  constructor
  · intro h
    match v, h with
    | .object members, h => exact .object (decode_object_eq_ok_iff.1 h)
    | .array (name :: rest), h =>
      rw [decode] at h
      obtain ⟨kind, hkind, hrest⟩ := bind_eq_ok_iff.1 h
      obtain rfl := Kind.decode_eq_ok_iff.1 hkind
      obtain ⟨hfits, hitems⟩ := decodeItems_eq_ok_iff.1 hrest
      rw [hitems]
      exact .array hfits
  · rintro (h | h)
    · exact decode_object_eq_ok_iff.2 h
    · obtain ⟨kind, rest, hitems⟩ := exists_kind s
      rw [hitems]
      exact bind_eq_ok_iff.2 ⟨kind, Kind.decode_eq_ok_iff.2 rfl, decodeItems_eq_ok_iff.2 ⟨h, hitems.symm⟩⟩

theorem Fits.form_encode (h : s.Fits) : s.Form s.encode := by
  have hnames : (s.members.map Prod.fst).Nodup := by cases s <;> simp [members]
  have hget {m : String × Value} (hm : m ∈ s.members) : Members.get? (Members.ofList s.members) m.1 = some m.2 :=
    Members.get?_ofList_of_mem hnames hm
  cases s with
  | retry attempts delay =>
    have hattempts : ("attempts", Value.ofNat attempts) ∈ (retry attempts delay).members := by simp [members]
    have hdelay : ("delay_ms", Value.ofNat delay) ∈ (retry attempts delay).members := by simp [members]
    exact .object (.retry (hget List.mem_cons_self) (hget hattempts) h.1 (hget hdelay) h.2)
  | preDelay delay =>
    have hdelay : ("delay_ms", Value.ofNat delay) ∈ (preDelay delay).members := by simp [members]
    exact .object (.preDelay (hget List.mem_cons_self) (hget hdelay) h)

end LoadStrategy

/-! ### Settings -/

namespace Settings
variable {b : Settings} {members : Members} {v : Value}

/-- The members describe the settings; there may be others, of any shape. -/
structure Describes (members : Members) (b : Settings) : Prop where
  nixProgram : Members.get? members "nix_program" = some (.string b.nixProgram)
  dockerProgram : Members.get? members "docker_program" = some (.string b.dockerProgram)
  load : ∃ v, Members.get? members "load" = some v ∧ b.load.Form v

/-- What settings are written as, with the strategy in either of its forms. -/
inductive Form (b : Settings) : Value → Prop
  | object {members : Members} (h : Describes members b) : Form b (.object members)
  | array {v : Value} (h : b.load.Form v) : Form b (.array [.string b.nixProgram, .string b.dockerProgram, v])

/-- The members of settings, with the strategy as it is written. -/
def membersWith (b : Settings) (load : Value) : List (String × Value) :=
  [("nix_program", .string b.nixProgram), ("docker_program", .string b.dockerProgram), ("load", load)]

theorem describes_of_load (h : b.load.Form v) : Describes (Members.ofList (b.membersWith v)) b := by
  have hget (x : String × Value) (hx : x ∈ b.membersWith v) :
      Members.get? (Members.ofList (b.membersWith v)) x.1 = some x.2 :=
    Members.get?_ofList_of_mem (by simp [membersWith]) hx
  exact ⟨hget ("nix_program", _) (by simp [membersWith]), hget ("docker_program", _) (by simp [membersWith]),
    v, hget ("load", v) (by simp [membersWith]), h⟩

theorem required_text_eq_ok_iff {name s : String} :
    (∃ o, Decoder.field? members name Decoder.text = .ok o ∧ Decoder.required name o = .ok s) ↔
      Members.get? members name = some (.string s) := by
  simp [Decoder.required_field_eq_ok_iff, Decoder.text_eq_ok_iff]

theorem required_load_eq_ok_iff {s : LoadStrategy} :
    (∃ o, Decoder.field? members "load" LoadStrategy.decode = .ok o ∧ Decoder.required "load" o = .ok s) ↔
      ∃ v, Members.get? members "load" = some v ∧ s.Form v := by
  simp only [Decoder.required_field_eq_ok_iff, LoadStrategy.decode_eq_ok_iff]

theorem decode_object_eq_ok_iff : decode (.object members) = .ok b ↔ Describes members b := by
  rw [decode]
  simp only [bind_eq_ok_iff]
  constructor
  · rintro ⟨od, hod, ol, hol, on, hon, nix, hn, docker, hd, load, hl, h⟩
    obtain rfl := Except.ok.inj h
    exact ⟨required_text_eq_ok_iff.1 ⟨on, hon, hn⟩, required_text_eq_ok_iff.1 ⟨od, hod, hd⟩,
      required_load_eq_ok_iff.1 ⟨ol, hol, hl⟩⟩
  · rintro ⟨hnix, hdocker, hload⟩
    obtain ⟨on, hon, hn⟩ := required_text_eq_ok_iff.2 hnix
    obtain ⟨od, hod, hd⟩ := required_text_eq_ok_iff.2 hdocker
    obtain ⟨ol, hol, hl⟩ := required_load_eq_ok_iff.2 hload
    exact ⟨od, hod, ol, hol, on, hon, _, hn, _, hd, _, hl, rfl⟩

theorem decode_array_eq_ok_iff {items : List Value} : decode (.array items) = .ok b ↔
    ∃ v, items = [.string b.nixProgram, .string b.dockerProgram, v] ∧ b.load.Form v := by
  rw [decode]
  simp only [bind_eq_ok_iff, Decoder.item_eq_ok_iff, Decoder.atMost_eq_ok_iff, Decoder.text_eq_ok_iff,
    LoadStrategy.decode_eq_ok_iff]
  constructor
  · rintro ⟨nix, ⟨_, hnix, rfl⟩, docker, ⟨_, hdocker, rfl⟩, load, ⟨v, hv, hload⟩, u, hlength, h⟩
    obtain rfl := Except.ok.inj h
    match items, hlength with
    | [x, y, z], _ =>
      obtain rfl := Option.some.inj hnix
      obtain rfl := Option.some.inj hdocker
      obtain rfl := Option.some.inj hv
      exact ⟨_, rfl, hload⟩
  · rintro ⟨v, rfl, hload⟩
    exact ⟨_, ⟨_, rfl, rfl⟩, _, ⟨_, rfl, rfl⟩, _, ⟨v, rfl, hload⟩, (), Nat.le_refl 3, rfl⟩

/-- Settings are decoded from their forms, and from nothing else. -/
theorem decode_eq_ok_iff : decode v = .ok b ↔ b.Form v := by
  constructor
  · intro h
    match v, h with
    | .object members, h => exact .object (decode_object_eq_ok_iff.1 h)
    | .array items, h =>
      obtain ⟨v, rfl, hload⟩ := decode_array_eq_ok_iff.1 h
      exact .array hload
  · rintro (h | h)
    · exact decode_object_eq_ok_iff.2 h
    · exact decode_array_eq_ok_iff.2 ⟨_, rfl, h⟩

/-- **What is decoded is what was written.** A strategy whose numbers fit is decoded from the value that the program
writes for it and from its array; so are settings, with the strategy in them written either way. An object is
decoded as a strategy exactly if it names one and has its numbers as whole numbers that fit, whatever other members
it has, and a strategy and settings are decoded from their forms alone: the numbers are those that are written. -/
theorem decode_forms :
    (∀ s : LoadStrategy, s.Fits →
      LoadStrategy.decode s.encode = .ok s ∧ LoadStrategy.decode (.array s.items) = .ok s) ∧
    (∀ b : Settings, b.load.Fits →
      decode b.encode = .ok b ∧ ∀ v, v = b.load.encode ∨ v = .array b.load.items →
        decode (.ofMembers [("nix_program", .string b.nixProgram), ("docker_program", .string b.dockerProgram),
          ("load", v)]) = .ok b ∧
        decode (.array [.string b.nixProgram, .string b.dockerProgram, v]) = .ok b) ∧
    (∀ members s, LoadStrategy.decode (.object members) = .ok s ↔ LoadStrategy.Describes members s) ∧
    (∀ v s, LoadStrategy.decode v = .ok s ↔ s.Form v) ∧
    ∀ v b, decode v = .ok b ↔ b.Form v := by
  refine ⟨fun s hs => ⟨?_, ?_⟩, fun b hb => ?_, fun members s => LoadStrategy.decode_object_eq_ok_iff,
    fun v s => LoadStrategy.decode_eq_ok_iff, fun v b => decode_eq_ok_iff⟩
  · exact LoadStrategy.decode_eq_ok_iff.2 hs.form_encode
  · exact LoadStrategy.decode_eq_ok_iff.2 (.array hs)
  · have hwritten {v : Value} (hv : b.load.Form v) : decode (.ofMembers (b.membersWith v)) = .ok b :=
      decode_object_eq_ok_iff.2 (describes_of_load hv)
    refine ⟨hwritten hb.form_encode, fun v hv => ?_⟩
    have hload : b.load.Form v := by
      rcases hv with rfl | rfl
      · exact hb.form_encode
      · exact .array hb
    exact ⟨hwritten hload, decode_array_eq_ok_iff.2 ⟨v, rfl, hload⟩⟩

/-- Settings with the greatest numbers. -/
def greatest : Settings := { load := .retry (2 ^ 32 - 1) (2 ^ 64 - 1) }

theorem greatest_decoded :
    greatest.load.Fits ∧ decode greatest.encode = .ok greatest ∧
      decode (.array [.string "nix", .string "docker", .array greatest.load.items]) = .ok greatest := by
  have hfits : greatest.load.Fits := ⟨by decide, by decide⟩
  obtain ⟨-, hsettings, -⟩ := decode_forms
  obtain ⟨hencoded, hmixed⟩ := hsettings greatest hfits
  exact ⟨hfits, hencoded, (hmixed _ (.inr rfl)).2⟩

end Settings

end FlakeImage
