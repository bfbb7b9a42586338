import FlakeImage.CommandLine.Configuration
import FlakeImage.Proofs.Numeral
import FlakeImage.Proofs.Trimming

/-!
# Where the load strategy comes from

`Settings.Numeral` is the grammar of numbers in variables, and a variable `Holds` a number of this form that is in
range. `Settings.Chosen` says which strategy the variables and the flags choose: a flag takes precedence over a
variable, a variable over what is built in, and a pause before a single attempt over attempts with pauses between
them. The settings have the strategy that is chosen, and a warning for each variable that should be a number and is
none, as far as it is looked at (`Settings.load_chosen`).
-/

namespace FlakeImage

namespace Number

open Json (Digits NumberText digit?_digitChar digitChar_of_digit?)

/-! ### Digits -/

theorem digitsFrom?_written {ds : List Nat} {w : List Char} (h : Digits ds w) (n : Nat) :
    digitsFrom? n w = some (ds.foldl (fun n d => 10 * n + d) n) := by
  induction h generalizing n with
  | nil => rfl
  | cons hd _ ih =>
    rw [digitsFrom?, digit?_digitChar hd]
    exact ih _

theorem exists_digits {w : List Char} {n m : Nat} (h : digitsFrom? n w = some m) : ∃ ds, Digits ds w := by
  induction w generalizing n with
  | nil => exact ⟨[], .nil⟩
  | cons c w ih =>
    obtain ⟨d, hd, hrest⟩ := Option.bind_eq_some_iff.1 h
    obtain ⟨hlt, rfl⟩ := digitChar_of_digit? hd
    obtain ⟨ds, hds⟩ := ih hrest
    exact ⟨d :: ds, .cons hlt hds⟩

/-- Digits are read as the number that they write. -/
theorem digits?_eq_some_iff {w : List Char} {n : Nat} :
    digits? w = some n ↔ ∃ ds, Digits ds w ∧ ds ≠ [] ∧ NumberText.ofDigits ds = n := by
  cases w with
  | nil =>
    constructor
    · intro h
      cases h
    · rintro ⟨ds, ⟨⟩, hne, -⟩
      exact absurd rfl hne
  | cons c w =>
    change digitsFrom? 0 (c :: w) = some n ↔ _
    constructor
    · intro h
      obtain ⟨ds, hds⟩ := exists_digits h
      refine ⟨ds, hds, ?_, ?_⟩
      · rintro rfl
        cases hds
      · rw [digitsFrom?_written hds] at h
        exact Option.some.inj h
    · rintro ⟨ds, hds, -, rfl⟩
      exact digitsFrom?_written hds 0

theorem natural?_eq_some_iff {max : Nat} {s : List Char} {n : Nat} :
    natural? max s = some n ↔
      ∃ sign w, s = sign ++ w ∧ (sign = [] ∨ sign = ['+']) ∧ digits? w = some n ∧ n ≤ max := by
  have hfilter (w : List Char) : (digits? w).filter (· ≤ max) = some n ↔ digits? w = some n ∧ n ≤ max := by
    rw [Option.filter_eq_some_iff, decide_eq_true_eq]
  unfold natural?
  split
  · next s =>
    rw [hfilter]
    constructor
    · intro h
      exact ⟨['+'], s, rfl, .inr rfl, h⟩
    · rintro ⟨sign, w, hs, rfl | rfl, h⟩
      · -- A plus sign is no digit.
        obtain rfl : '+' :: s = w := hs
        have hnone : digits? ('+' :: s) = none := rfl
        rw [hnone] at h
        cases h.1
      · obtain rfl := (List.cons.inj hs).2
        exact h
  · next hplus =>
    rw [hfilter]
    constructor
    · intro h
      exact ⟨[], s, rfl, .inl rfl, h⟩
    · rintro ⟨sign, w, rfl, rfl | rfl, h⟩
      · exact h
      · exact absurd rfl (hplus w)

end Number

open CommandLine (Overrides)

namespace Settings

/-! ### What a variable holds -/

/-- A text that writes a number: digits, perhaps after a plus sign, with white space around them. -/
inductive Numeral : List Char → Nat → Prop
  | mk {before sign w after : List Char} {ds : List Nat} (hbefore : Text.isBlankText before = true)
    (hsign : sign = [] ∨ sign = ['+']) (hne : ds ≠ []) (hw : Json.Digits ds w)
    (hafter : Text.isBlankText after = true) :
    Numeral (before ++ (sign ++ w ++ after)) (Json.NumberText.ofDigits ds)

/-- The variable is set to a number of at most `max`. -/
def Holds (vars : Variables) (name : String) (max n : Nat) : Prop :=
  ∃ raw, vars name = some raw ∧ Numeral raw.toList n ∧ n ≤ max

theorem isBlank_digitChar {d : Nat} (hd : d < 10) : Text.isBlank (Nat.digitChar d) = false := by
  interval_cases d <;> rfl

theorem digits_visible {ds : List Nat} {w : List Char} (h : Json.Digits ds w) :
    ∀ c ∈ w, Text.isBlank c = false := by
  induction h with
  | nil => nofun
  | cons hd _ ih => exact List.forall_mem_cons.2 ⟨isBlank_digitChar hd, ih⟩

/-- **Which texts are numbers.** -/
theorem number?_eq_some_iff {max : Nat} {raw : String} {n : Nat} :
    number? max raw = some n ↔ Numeral raw.toList n ∧ n ≤ max := by
  rw [number?, Number.natural?_eq_some_iff]
  constructor
  · rintro ⟨sign, w, htrim, hsign, hdigits, hmax⟩
    obtain ⟨ds, hw, hne, rfl⟩ := Number.digits?_eq_some_iff.1 hdigits
    obtain ⟨before, after, hraw, hbefore, hafter⟩ := Text.exists_surrounded raw.toList
    rw [htrim] at hraw
    rw [hraw]
    exact ⟨.mk hbefore hsign hne hw hafter, hmax⟩
  · rintro ⟨hnumeral, hmax⟩
    generalize raw.toList = text at hnumeral
    obtain @⟨before, sign, w, after, ds, hbefore, hsign, hne, hw, hafter⟩ := hnumeral
    have hvisible : ∀ c ∈ sign ++ w, Text.isBlank c = false := by
      refine List.forall_mem_append.2 ⟨?_, digits_visible hw⟩
      rcases hsign with rfl | rfl
      · nofun
      · exact List.forall_mem_singleton.2 rfl
    refine ⟨sign, w, ?_, hsign, Number.digits?_eq_some_iff.2 ⟨ds, hw, hne, rfl⟩, hmax⟩
    exact Text.trim_surrounded hbefore hafter (fun c hc => hvisible c (List.mem_of_head? hc))
      fun c hc => hvisible c (List.mem_of_getLast? hc)

example : number? 7 "\u00a0+007\n" = some 7 ∧ number? 7 "8" = none ∧ number? 7 "-0" = none := by decide

theorem Holds.unique {vars : Variables} {name : String} {max m n : Nat} (hm : Holds vars name max m)
    (hn : Holds vars name max n) : m = n := by
  obtain ⟨raw, hraw, hm⟩ := hm
  obtain ⟨raw', hraw', hn⟩ := hn
  obtain rfl := Option.some.inj (hraw.symm.trans hraw')
  have hsome := (number?_eq_some_iff.2 hm).symm.trans (number?_eq_some_iff.2 hn)
  exact Option.some.inj hsome

/-- What a variable gives that should be a number, with the warnings about it. -/
inductive Gives (vars : Variables) (name : String) (max : Nat) : Option Nat → List String → Prop
  | unset (h : vars name = none) : Gives vars name max none []
  | number {n : Nat} (h : Holds vars name max n) : Gives vars name max (some n) []
  | ignored {raw : String} (h : vars name = some raw) (hno : ∀ n, ¬ Holds vars name max n) :
    Gives vars name max none [ignored name raw]

section Variable
variable {vars : Variables} {name : String} {max n : Nat} {o : Option Nat} {ws ws' : List String}

theorem gives_readNumber (vars : Variables) (name : String) (max : Nat) :
    Gives vars name max (readNumber vars name max).1 (readNumber vars name max).2 := by
  unfold readNumber
  cases hraw : vars name with
  | none => exact .unset hraw
  | some raw =>
    dsimp only
    cases hn : number? max raw with
    | some n => exact .number ⟨raw, hraw, number?_eq_some_iff.1 hn⟩
    | none =>
      refine .ignored hraw ?_
      rintro n ⟨raw', hraw', hnumber⟩
      obtain rfl := Option.some.inj (hraw.symm.trans hraw')
      rw [number?_eq_some_iff.2 hnumber] at hn
      cases hn

theorem Gives.holds (h : Gives vars name max (some n) ws) : Holds vars name max n := by
  cases h with
  | number h => exact h

theorem Gives.not_holds (h : Gives vars name max none ws) : ∀ n, ¬ Holds vars name max n := by
  cases h with
  | unset hraw =>
    rintro n ⟨raw, hraw', -⟩
    rw [hraw] at hraw'
    cases hraw'
  | ignored _ hno => exact hno

theorem Gives.unique {o' : Option Nat} (h : Gives vars name max o ws) (h' : Gives vars name max o' ws') :
    o = o' ∧ ws = ws' := by
  cases h with
  | number h =>
    cases h' with
    | number h' => exact ⟨congrArg some (h.unique h'), rfl⟩
    | unset hraw => exact absurd h ((Gives.unset hraw).not_holds _)
    | ignored _ hno => exact absurd h (hno _)
  | unset hraw =>
    cases h' with
    | number h' => exact absurd h' ((Gives.unset hraw).not_holds _)
    | unset => exact ⟨rfl, rfl⟩
    | ignored hraw' _ => exact absurd (hraw.symm.trans hraw') nofun
  | ignored hraw hno =>
    cases h' with
    | number h' => exact absurd h' (hno _)
    | unset hraw' => exact absurd (hraw.symm.trans hraw') nofun
    | ignored hraw' _ =>
      obtain rfl := Option.some.inj (hraw.symm.trans hraw')
      exact ⟨rfl, rfl⟩

end Variable

/-! ### The strategy that is chosen -/

/-- The variable for a pause before a single attempt. -/
def preDelayName : String := "NIX_IMAGE_PRE_DELAY_MS"

/-- The variable for the number of attempts. -/
def attemptsName : String := "NIX_IMAGE_LOAD_ATTEMPTS"

/-- The variable for the pause between attempts. -/
def delayName : String := "NIX_IMAGE_LOAD_DELAY_MS"

/-- A variable sets a pause before a single attempt. -/
def PreDelays (vars : Variables) (delay : Nat) : Prop := Holds vars preDelayName Number.max64 delay

/-- One of the two numbers of a strategy with several attempts. A flag for it takes precedence; the variable for it
counts unless another variable sets a pause before a single attempt. -/
inductive Part (vars : Variables) (flag : Option Nat) (name : String) (max usual : Nat) : Nat → Prop
  | flag {n : Nat} (h : flag = some n) : Part vars flag name max usual n
  | held {n : Nat} (hflag : flag = none) (hpre : ∀ delay, ¬ PreDelays vars delay) (h : Holds vars name max n) :
    Part vars flag name max usual n
  | usual (hflag : flag = none) (h : (∃ delay, PreDelays vars delay) ∨ ∀ n, ¬ Holds vars name max n) :
    Part vars flag name max usual usual

/-- The strategy that the variables and the flags choose. -/
inductive Chosen (vars : Variables) (flags : Overrides) : LoadStrategy → Prop
  | preDelayFlag {delay : Nat} (h : flags.preDelay = some delay) : Chosen vars flags (.preDelay delay)
  | preDelay {delay : Nat} (hflag : flags.preDelay = none) (hattempts : flags.attempts = none)
    (hdelay : flags.retryDelay = none) (h : PreDelays vars delay) : Chosen vars flags (.preDelay delay)
  | retry {attempts delay : Nat} (hflag : flags.preDelay = none)
    (h : flags.attempts ≠ none ∨ flags.retryDelay ≠ none ∨ ∀ delay, ¬ PreDelays vars delay)
    (hattempts : Part vars flags.attempts attemptsName Number.max32 LoadStrategy.defaultAttempts attempts)
    (hdelay : Part vars flags.retryDelay delayName Number.max64 LoadStrategy.defaultDelay delay) :
    Chosen vars flags (.retry attempts delay)

/-- The warnings. Where a variable sets a pause before a single attempt the other two are not looked at. -/
inductive Warns (vars : Variables) : List String → Prop
  | preDelay {delay : Nat} (h : PreDelays vars delay) : Warns vars []
  | retry {attempts delay : Option Nat} {ws ws' ws'' : List String}
    (hpre : Gives vars preDelayName Number.max64 none ws)
    (hattempts : Gives vars attemptsName Number.max32 attempts ws')
    (hdelay : Gives vars delayName Number.max64 delay ws'') : Warns vars (ws ++ ws' ++ ws'')

section Choice
variable {vars : Variables} {flags : Overrides} {flag : Option Nat} {name : String} {max usual delay m n : Nat}

theorem readNumber_of_holds (h : Holds vars name max n) : readNumber vars name max = (some n, []) := by
  obtain ⟨hsome, hws⟩ := (gives_readNumber vars name max).unique (.number h)
  exact Prod.ext hsome hws

theorem readNumber_of_not_holds (hno : ∀ n, ¬ Holds vars name max n) : (readNumber vars name max).1 = none := by
  have hgives := gives_readNumber vars name max
  cases hn : (readNumber vars name max).1 with
  | none => rfl
  | some n =>
    rw [hn] at hgives
    exact absurd hgives.holds (hno n)

theorem Part.unique (hm : Part vars flag name max usual m) (hn : Part vars flag name max usual n) : m = n := by
  cases hm with
  | flag hm =>
    cases hn with
    | flag hn => exact Option.some.inj (hm.symm.trans hn)
    | held hflag | usual hflag => exact absurd (hm.symm.trans hflag) nofun
  | held hflag hpre hm =>
    cases hn with
    | flag hn => exact absurd (hflag.symm.trans hn) nofun
    | held _ _ hn => exact hm.unique hn
    | usual _ h =>
      rcases h with ⟨delay, h⟩ | hno
      · exact absurd h (hpre delay)
      · exact absurd hm (hno m)
  | usual hflag h =>
    cases hn with
    | flag hn => exact absurd (hflag.symm.trans hn) nofun
    | held _ hpre hn =>
      rcases h with ⟨delay, h⟩ | hno
      · exact absurd h (hpre delay)
      · exact absurd hn (hno n)
    | usual => rfl

/-- No two strategies are chosen. -/
theorem Chosen.unique {load load' : LoadStrategy} (h : Chosen vars flags load) (h' : Chosen vars flags load') :
    load = load' := by
  cases h with
  | preDelayFlag h =>
    cases h' with
    | preDelayFlag h' => exact congrArg _ (Option.some.inj (h.symm.trans h'))
    | preDelay hflag | retry hflag => exact absurd (h.symm.trans hflag) nofun
  | preDelay hflag hattempts hdelay h =>
    cases h' with
    | preDelayFlag h' => exact absurd (hflag.symm.trans h') nofun
    | preDelay _ _ _ h' => exact congrArg _ (h.unique h')
    | retry _ h' =>
      rcases h' with h' | h' | h'
      · exact absurd hattempts h'
      · exact absurd hdelay h'
      · exact absurd h (h' _)
  | retry hflag h hattempts hdelay =>
    cases h' with
    | preDelayFlag h' => exact absurd (hflag.symm.trans h') nofun
    | preDelay _ hattempts' hdelay' h' =>
      rcases h with h | h | h
      · exact absurd hattempts' h
      · exact absurd hdelay' h
      · exact absurd h' (h _)
    | retry _ _ hattempts' hdelay' => rw [hattempts.unique hattempts', hdelay.unique hdelay']

theorem readStrategy_of_preDelays (h : PreDelays vars delay) : readStrategy vars = (.preDelay delay, []) := by
  have hread : readNumber vars "NIX_IMAGE_PRE_DELAY_MS" Number.max64 = (some delay, []) := readNumber_of_holds h
  rw [readStrategy, hread]

theorem readStrategy_of_not_preDelays (hno : ∀ delay, ¬ PreDelays vars delay) :
    readStrategy vars =
      (.retry ((readNumber vars attemptsName Number.max32).1.getD LoadStrategy.defaultAttempts)
          ((readNumber vars delayName Number.max64).1.getD LoadStrategy.defaultDelay),
        (readNumber vars preDelayName Number.max64).2 ++ (readNumber vars attemptsName Number.max32).2 ++
          (readNumber vars delayName Number.max64).2) := by
  have hnone := readNumber_of_not_holds hno
  unfold preDelayName at hnone ⊢
  unfold readStrategy
  generalize readNumber vars "NIX_IMAGE_PRE_DELAY_MS" Number.max64 = pre at hnone ⊢
  obtain ⟨o, ws⟩ := pre
  obtain rfl : o = none := hnone
  rfl

theorem part_of_preDelays (h : PreDelays vars delay) (flag : Option Nat) (name : String) (max usual : Nat) :
    Part vars flag name max usual (flag.getD usual) := by
  cases flag with
  | some n => exact .flag rfl
  | none => exact .usual rfl (.inl ⟨delay, h⟩)

theorem part_of_not_preDelays (hno : ∀ delay, ¬ PreDelays vars delay) (flag : Option Nat) (name : String)
    (max usual : Nat) :
    Part vars flag name max usual (flag.getD ((readNumber vars name max).1.getD usual)) := by
  have hgives := gives_readNumber vars name max
  cases flag with
  | some n => exact .flag rfl
  | none =>
    cases hn : (readNumber vars name max).1 with
    | some n =>
      rw [hn] at hgives
      exact .held rfl hno hgives.holds
    | none =>
      rw [hn] at hgives
      exact .usual rfl (.inr hgives.not_holds)

/-- A strategy is chosen. -/
theorem chosen_apply (vars : Variables) (flags : Overrides) :
    Chosen vars flags (flags.apply (readStrategy vars).1) := by
  obtain ⟨attempts, retryDelay, preDelay⟩ := flags
  cases preDelay with
  | some delay => exact .preDelayFlag rfl
  | none =>
    by_cases hpre : ∃ delay, PreDelays vars delay
    · obtain ⟨delay, hpre⟩ := hpre
      rw [readStrategy_of_preDelays hpre]
      have hattempts := part_of_preDelays hpre attempts attemptsName Number.max32 LoadStrategy.defaultAttempts
      have hdelay := part_of_preDelays hpre retryDelay delayName Number.max64 LoadStrategy.defaultDelay
      cases attempts with
      | some n => exact .retry rfl (.inl nofun) hattempts hdelay
      | none =>
        cases retryDelay with
        | some n => exact .retry rfl (.inr (.inl nofun)) hattempts hdelay
        | none => exact .preDelay rfl rfl rfl hpre
    · have hno : ∀ delay, ¬ PreDelays vars delay := fun delay h => hpre ⟨delay, h⟩
      rw [readStrategy_of_not_preDelays hno]
      have hattempts := part_of_not_preDelays hno attempts attemptsName Number.max32 LoadStrategy.defaultAttempts
      have hdelay := part_of_not_preDelays hno retryDelay delayName Number.max64 LoadStrategy.defaultDelay
      have hretry : Chosen vars ⟨attempts, retryDelay, none⟩ _ := .retry rfl (.inr (.inr hno)) hattempts hdelay
      -- Without flags both numbers are those of the variables.
      cases attempts with
      | some n => exact hretry
      | none =>
        cases retryDelay with
        | some n => exact hretry
        | none => exact hretry

theorem warns_readStrategy (vars : Variables) : Warns vars (readStrategy vars).2 := by
  by_cases hpre : ∃ delay, PreDelays vars delay
  · obtain ⟨delay, hpre⟩ := hpre
    rw [readStrategy_of_preDelays hpre]
    exact .preDelay hpre
  · have hno : ∀ delay, ¬ PreDelays vars delay := fun delay h => hpre ⟨delay, h⟩
    have hgives := gives_readNumber vars preDelayName Number.max64
    rw [readNumber_of_not_holds hno] at hgives
    rw [readStrategy_of_not_preDelays hno]
    exact .retry hgives (gives_readNumber ..) (gives_readNumber ..)

theorem Warns.unique {ws ws' : List String} (h : Warns vars ws) (h' : Warns vars ws') : ws = ws' := by
  cases h with
  | preDelay h =>
    cases h' with
    | preDelay => rfl
    | retry hpre => exact absurd h (hpre.not_holds _)
  | retry hpre hattempts hdelay =>
    cases h' with
    | preDelay h' => exact absurd h' (hpre.not_holds _)
    | retry hpre' hattempts' hdelay' =>
      rw [(hpre.unique hpre').2, (hattempts.unique hattempts').2, (hdelay.unique hdelay').2]

end Choice

/-- **Where the settings come from.** The load strategy is the one that the variables and the flags choose, and there
is exactly one. The programs are those of their variables, whatever the flags, or else those built in. There are
warnings about the variables that are set to what is no number, in this order: the pause before a single attempt, the
number of attempts, the pause between attempts. -/
theorem load_chosen (vars : Variables) (flags : Overrides) :
    let read := ofVariables vars
    let s := flags.settings read.1
    (∀ load, s.load = load ↔ Chosen vars flags load) ∧
    (∀ program, s.nixProgram = program ↔ vars "NIX_IMAGE_NIX_BIN" = some program ∨
      vars "NIX_IMAGE_NIX_BIN" = none ∧ program = "nix") ∧
    (∀ program, s.dockerProgram = program ↔ vars "NIX_IMAGE_DOCKER_BIN" = some program ∨
      vars "NIX_IMAGE_DOCKER_BIN" = none ∧ program = "docker") ∧
    ∀ ws, read.2 = ws ↔ Warns vars ws := by
  intro read s
  have hprogram (o : Option String) (usual program : String) :
      o.getD usual = program ↔ o = some program ∨ o = none ∧ program = usual := by
    cases o with
    | none => simp [eq_comm]
    | some p => simp
  refine ⟨fun load => ?_, fun program => hprogram .., fun program => hprogram .., fun ws => ?_⟩
  · have hchosen : Chosen vars flags s.load := chosen_apply vars flags
    constructor
    · rintro rfl
      exact hchosen
    · intro h
      exact hchosen.unique h
  · have hwarns : Warns vars read.2 := warns_readStrategy vars
    constructor
    · rintro rfl
      exact hwarns
    · intro h
      exact hwarns.unique h

end Settings

end FlakeImage
