import FlakeImage.Proofs.DefaultTag
import FlakeImage.Proofs.Precedence

/-!
# Quoted text is read back

A report shows a text in quotes. What stands between them is `Enclosed`: it has no control character in it, and each
quote in it is escaped. `unquote?` reads a quoted text up to its closing quote and no further, and it reads the text that
has been quoted (`unquote?_quoted`), a case for each of the forms in `Escapes`. So the text that a report shows can be
taken from it without loss (`Shows`), whatever else stands around it (`reports_read_back`).
-/

namespace FlakeImage

namespace Text

/-! ### What stands between quotes -/

/-- A character of the category Cc. -/
def IsControl (c : Char) : Prop := c.toNat < 0x20 ∨ 0x7F ≤ c.toNat ∧ c.toNat ≤ 0x9F

instance (c : Char) : Decidable (IsControl c) :=
  inferInstanceAs (Decidable (c.toNat < 0x20 ∨ 0x7F ≤ c.toNat ∧ c.toNat ≤ 0x9F))

/-- How many backslashes stand at the end. -/
def backslashes (s : List Char) : Nat := (s.rtakeWhile (· == '\\')).length

/-- The text may stand between two quotes: it has no control character, each quote in it follows an odd number of
backslashes, and the closing quote will not. -/
structure Enclosed (body : List Char) : Prop where
  visible : ∀ c ∈ body, ¬ IsControl c
  escaped : ∀ before after, body = before ++ '"' :: after → Odd (backslashes before)
  closed : Even (backslashes body)

/-! ### The reader of quoted text -/

/-- What a reader of quoted text is in the middle of: nothing, an escape, or an escape by number. -/
inductive Reading
  | plain
  | escape
  | numbered
  | number (n : Nat)

/-- The character of an escape with one letter. -/
def named? : Char → Option Char
  | '"' => some '"'
  | '\\' => some '\\'
  | 'n' => some '\n'
  | 'r' => some '\r'
  | 't' => some '\t'
  | '0' => some '\x00'
  | _ => none

/-- A text with one more character in front, and what follows it. -/
def prepend (c : Char) : Option (List Char × List Char) → Option (List Char × List Char) :=
  Option.map fun x => (c :: x.1, x.2)

/-- The text up to the closing quote, and what follows it. -/
def unquoteFrom : Reading → List Char → Option (List Char × List Char)
  | _, [] => none
  | .plain, '"' :: r => some ([], r)
  | .plain, '\\' :: r => unquoteFrom .escape r
  | .plain, c :: r => prepend c (unquoteFrom .plain r)
  | .escape, 'u' :: r => unquoteFrom .numbered r
  | .escape, e :: r => (named? e).bind fun c => prepend c (unquoteFrom .plain r)
  | .numbered, '\x7b' :: r => unquoteFrom (.number 0) r
  | .numbered, _ :: _ => none
  | .number n, '\x7d' :: r => prepend (Char.ofNat n) (unquoteFrom .plain r)
  | .number n, c :: r => (Json.hexDigit? c).bind fun d => unquoteFrom (.number (16 * n + d)) r

theorem unquoteFrom_plain {c : Char} (hquote : c ≠ '"') (hescape : c ≠ '\\') (r : List Char) :
    unquoteFrom .plain (c :: r) = prepend c (unquoteFrom .plain r) := by
  rw [unquoteFrom] <;> assumption

theorem unquoteFrom_escape {e : Char} (hu : e ≠ 'u') (r : List Char) :
    unquoteFrom .escape (e :: r) = (named? e).bind fun c => prepend c (unquoteFrom .plain r) := by
  rw [unquoteFrom]
  exact hu

theorem unquoteFrom_number {c : Char} (hbrace : c ≠ '\x7d') (n : Nat) (r : List Char) :
    unquoteFrom (.number n) (c :: r) = (Json.hexDigit? c).bind fun d => unquoteFrom (.number (16 * n + d)) r := by
  rw [unquoteFrom]
  exact hbrace

/-- The text that is quoted in front, and what follows it. -/
def unquote? : List Char → Option (List Char × List Char)
  | '"' :: r => unquoteFrom .plain r
  | _ => none

/-! ### Digits -/

theorem hexDigit?_hexDigit {n : Nat} (h : n < 16) : Json.hexDigit? (hexDigit n) = some n := by
  interval_cases n <;> rfl

theorem hexDigit_mem {n : Nat} (h : n < 16) : hexDigit n ∈ "0123456789abcdef".toList := by
  interval_cases n <;> decide

theorem mem_hex {n : Nat} {c : Char} (h : c ∈ hex n) : c ∈ "0123456789abcdef".toList := by
  fun_induction hex n with
  | case1 n hn =>
    rw [List.mem_singleton.1 h]
    exact hexDigit_mem hn
  | case2 n hn ih =>
    rcases List.mem_append.1 h with h | h
    · exact ih h
    · rw [List.mem_singleton.1 h]
      exact hexDigit_mem (Nat.mod_lt _ (by decide))

theorem unquoteFrom_hexDigit {k : Nat} (h : k < 16) (n : Nat) (r : List Char) :
    unquoteFrom (.number n) (hexDigit k :: r) = unquoteFrom (.number (16 * n + k)) r := by
  have hbrace : hexDigit k ≠ '\x7d' := by
    interval_cases k <;> decide
  rw [unquoteFrom_number hbrace, hexDigit?_hexDigit h]
  rfl

/-- A number is read back digit by digit, the last one at the end. -/
theorem unquoteFrom_hex (n : Nat) (r : List Char) :
    unquoteFrom (.number 0) (hex n ++ r) = unquoteFrom (.number n) r := by
  fun_induction hex n generalizing r with
  | case1 n hn =>
    rw [List.singleton_append, unquoteFrom_hexDigit hn, Nat.mul_zero, Nat.zero_add]
  | case2 n hn ih =>
    rw [List.append_assoc, ih, List.singleton_append, unquoteFrom_hexDigit (Nat.mod_lt _ (by decide)),
      Nat.div_add_mod]

/-! ### Escapes -/

/-- The forms in which a character stands in quotes. -/
inductive Escapes (c : Char) : List Char → Prop
  | named {e : Char} (h : named? e = some c) : Escapes c ['\\', e]
  | numbered : Escapes c ('\\' :: 'u' :: '\x7b' :: (hex c.toNat ++ ['\x7d']))
  | plain (hquote : c ≠ '"') (hescape : c ≠ '\\') (hcontrol : ¬ IsControl c) : Escapes c [c]

theorem IsControl.isHidden {c : Char} (h : IsControl c) : isHidden c = true := by
  have hfirst : (0x0, 0x1F) ∈ hiddenRanges := .head _
  have hsecond : (0x7F, 0xA0) ∈ hiddenRanges := .tail _ (.head _)
  rcases h with h | ⟨h₁, h₂⟩
  · exact Ranges.holds_of_mem hfirst (Nat.zero_le _) (Nat.le_of_lt_succ h)
  · exact Ranges.holds_of_mem hsecond h₁ (h₂.trans (by decide))

theorem escapes_escape (c : Char) : Escapes c (escape c) := by
  unfold escape
  split_ifs with h1 h2 h3 h4 h5 h6 h7
  · subst h1
    exact .named rfl
  · subst h2
    exact .named rfl
  · subst h3
    exact .named rfl
  · subst h4
    exact .named rfl
  · subst h5
    exact .named rfl
  · subst h6
    exact .named rfl
  · exact .numbered
  · refine .plain h1 h2 fun hcontrol => h7 ?_
    rw [hcontrol.isHidden, Bool.or_true]

section Escapes
variable {c e : Char} {w : List Char}

theorem not_isControl_of_named? (h : named? e = some c) : ¬ IsControl e := by
  unfold named? at h
  split at h <;> first | decide | cases h

theorem Escapes.unquoteFrom_eq (h : Escapes c w) (r : List Char) :
    unquoteFrom .plain (w ++ r) = prepend c (unquoteFrom .plain r) := by
  cases h with
  | @named e h =>
    have hu : e ≠ 'u' := by
      rintro rfl
      cases h
    change unquoteFrom .escape (e :: r) = _
    rw [unquoteFrom_escape hu, h]
    rfl
  | numbered =>
    change unquoteFrom (.number 0) (hex c.toNat ++ ['\x7d'] ++ r) = _
    rw [List.append_assoc, unquoteFrom_hex]
    change prepend (Char.ofNat c.toNat) _ = _
    rw [Char.ofNat_toNat]
    rfl
  | plain hquote hescape => exact unquoteFrom_plain hquote hescape r

end Escapes

/-- The text that has been quoted is read back, up to its closing quote. -/
theorem unquote?_quoted (s rest : List Char) : unquote? (quoted s ++ rest) = some (s, rest) := by
  change unquoteFrom .plain (s.flatMap escape ++ ['"'] ++ rest) = some (s, rest)
  induction s with
  | nil => rfl
  | cons c s ih =>
    rw [List.flatMap_cons, List.append_assoc, List.append_assoc, (escapes_escape c).unquoteFrom_eq,
      ← List.append_assoc, ih]
    rfl

/-! ### Escaped texts in quotes -/

section Backslashes
variable {u v : List Char} {c : Char}

theorem backslashes_concat_self (u : List Char) : backslashes (u ++ ['\\']) = backslashes u + 1 := by
  rw [backslashes, List.rtakeWhile_concat_pos _ _ _ rfl, List.length_append]
  rfl

theorem backslashes_concat_of_ne (u : List Char) (h : c ≠ '\\') : backslashes (u ++ [c]) = 0 := by
  rw [backslashes, List.rtakeWhile_concat_neg _ _ _ (by simpa using h)]
  rfl

/-- Backslashes in pairs escape nothing of what follows. -/
theorem odd_backslashes_append (h : Even (backslashes u)) : Odd (backslashes (u ++ v)) ↔ Odd (backslashes v) := by
  -- from the end, as far as there are backslashes
  induction v using List.reverseRecOn with
  | nil =>
    rw [List.append_nil]
    exact iff_of_false (Nat.not_odd_iff_even.2 h) (by decide)
  | append_singleton v c ih =>
    rw [← List.append_assoc]
    by_cases hc : c = '\\'
    · rw [hc, backslashes_concat_self, backslashes_concat_self, Nat.odd_add_one, Nat.odd_add_one, ih]
    · rw [backslashes_concat_of_ne _ hc, backslashes_concat_of_ne _ hc]

end Backslashes

section Enclosed
variable {u v : List Char} {c : Char} {w : List Char}

theorem Enclosed.nil : Enclosed [] where
  visible _ hc := nomatch hc
  escaped before after h := by simp at h
  closed := by decide

theorem Enclosed.append (hu : Enclosed u) (hv : Enclosed v) : Enclosed (u ++ v) where
  visible c hc := (List.mem_append.1 hc).elim (hu.visible c) (hv.visible c)
  escaped before after h := by
    rcases List.append_eq_append_iff.1 h with ⟨before', rfl, hquote⟩ | ⟨after', hquote, hrest⟩
    · exact (odd_backslashes_append hu.closed).2 (hv.escaped _ _ hquote)
    · cases after' with
      | nil =>
        -- the quote is the first character of the second text
        obtain rfl : u = before := by rw [hquote, List.append_nil]
        have hodd := hv.escaped [] after hrest.symm
        exact absurd hodd (by decide)
      | cons c after' =>
        obtain rfl := (List.cons.inj hrest).1
        exact hu.escaped _ _ hquote
  closed := by
    rw [← Nat.not_odd_iff_even, odd_backslashes_append hu.closed, Nat.not_odd_iff_even]
    exact hv.closed

theorem enclosed_of_no_quote (hvisible : ∀ c ∈ w, ¬ IsControl c ∧ c ≠ '"') (hclosed : Even (backslashes w)) :
    Enclosed w where
  visible c hc := (hvisible c hc).1
  escaped before after h := by
    have hquote : '"' ∈ w := by simp [h]
    exact absurd rfl (hvisible _ hquote).2
  closed := hclosed

theorem Escapes.enclosed (h : Escapes c w) : Enclosed w := by
  cases h with
  | @named e h =>
    constructor
    · intro d hd
      rcases List.mem_cons.1 hd with rfl | hd
      · decide
      · rw [List.mem_singleton.1 hd]
        exact not_isControl_of_named? h
    · intro before after hbefore
      -- the quote is the second character
      rcases before with _ | ⟨b, _ | ⟨b', before⟩⟩
      · cases hbefore
      · cases hbefore
        decide
      · simp at hbefore
    · by_cases he : e = '\\'
      · subst he
        decide
      · exact ⟨0, backslashes_concat_of_ne ['\\'] he⟩
  | numbered =>
    have hall : ∀ c ∈ "0123456789abcdef".toList, ¬ IsControl c ∧ c ≠ '"' := by simp [IsControl]
    refine enclosed_of_no_quote ?_ ?_
    · intro d hd
      simp only [List.mem_cons, List.mem_append, List.not_mem_nil, or_false] at hd
      rcases hd with rfl | rfl | rfl | hd | rfl
      · decide
      · decide
      · decide
      · exact hall d (mem_hex hd)
      · decide
    · have hlast := backslashes_concat_of_ne ('\\' :: 'u' :: '\x7b' :: hex c.toNat) (c := '\x7d') (by decide)
      exact ⟨0, hlast⟩
  | plain hquote hescape hcontrol =>
    refine enclosed_of_no_quote ?_ ⟨0, backslashes_concat_of_ne [] hescape⟩
    intro d hd
    rw [List.mem_singleton.1 hd]
    exact ⟨hcontrol, hquote⟩

theorem enclosed_escape (s : List Char) : Enclosed (s.flatMap escape) := by
  induction s with
  | nil => exact .nil
  | cons c s ih =>
    rw [List.flatMap_cons]
    exact (escapes_escape c).enclosed.append ih

end Enclosed

/-! ### Texts that a message shows -/

/-- The message is one text, then a text in quotes, then another text. What is between the quotes may stand there, and
the reader of quoted text gets `s` of it. -/
def Shows (message before after s : String) : Prop :=
  ∃ body, message.toList = before.toList ++ '"' :: (body ++ '"' :: after.toList) ∧ Enclosed body ∧
    unquote? ('"' :: (body ++ '"' :: after.toList)) = some (s.toList, after.toList)

section Shows
variable {message before after after' s s' : String}

theorem shows_quote (before after s : String) : Shows (before ++ quote s ++ after) before after s := by
  have hquoted : quoted s.toList ++ after.toList = '"' :: (s.toList.flatMap escape ++ '"' :: after.toList) := by
    simp [quoted]
  refine ⟨s.toList.flatMap escape, ?_, enclosed_escape _, ?_⟩
  · rw [String.toList_append, String.toList_append, quote, String.toList_ofList, List.append_assoc, hquoted]
  · rw [← hquoted, unquote?_quoted]

/-- A message shows one text only after the text in front, and what follows it is settled too. -/
theorem Shows.unique (h : Shows message before after s) (h' : Shows message before after' s') :
    s = s' ∧ after = after' := by
  obtain ⟨body, hmessage, -, hread⟩ := h
  obtain ⟨body', hmessage', -, hread'⟩ := h'
  rw [List.append_cancel_left (hmessage.symm.trans hmessage'), hread'] at hread
  obtain ⟨hs, hafter⟩ := Prod.ext_iff.1 (Option.some.inj hread)
  exact ⟨(String.toList_inj.1 hs).symm, (String.toList_inj.1 hafter).symm⟩

theorem quote_injective : Function.Injective quote := fun s s' h => by
  have hshows := shows_quote "" "" s
  rw [h] at hshows
  exact (hshows.unique (shows_quote "" "" s')).1

end Shows

/-- A text is split in one way only at the first `c`. -/
theorem split_unique {c : Char} {u u' v v' : List Char} (hu : c ∉ u) (hu' : c ∉ u') (h : u ++ c :: v = u' ++ c :: v') :
    u = u' ∧ v = v' := by
  rcases List.append_eq_append_iff.1 h with ⟨w, rfl, hw⟩ | ⟨w, rfl, hw⟩
  · cases w with
    | nil => exact ⟨(List.append_nil u).symm, (List.cons.inj hw).2⟩
    | cons d w =>
      obtain rfl := (List.cons.inj hw).1
      simp at hu'
  · cases w with
    | nil => exact ⟨List.append_nil u', (List.cons.inj hw).2.symm⟩
    | cons d w =>
      obtain rfl := (List.cons.inj hw).1
      simp at hu

end Text

/-! ### The messages -/

theorem LoadError.shows_unrecognised (line : String) :
    Text.Shows (LoadError.unrecognised line).message "unrecognised docker image load response: " "" line := by
  have hshows := Text.shows_quote "unrecognised docker image load response: " "" line
  rwa [String.append_empty] at hshows

theorem LoadError.message_unrecognised_injective : Function.Injective fun line => (unrecognised line).message :=
  fun line line' h => by
    have hshows := shows_unrecognised line
    dsimp only at h
    rw [h] at hshows
    exact (hshows.unique (shows_unrecognised line')).1

namespace Settings
variable {vars : Variables} {name name' raw raw' w : String} {max : Nat} {o : Option Nat} {ws : List String}

theorem shows_ignored (name raw : String) :
    Text.Shows (ignored name raw) ("Ignoring " ++ name ++ "=") ": not a valid number" raw :=
  Text.shows_quote ..

/-- The name of a variable has no equals sign, so a warning names one variable only. -/
theorem ignored_inj (hname : '=' ∉ name.toList) (hname' : '=' ∉ name'.toList)
    (h : ignored name raw = ignored name' raw') : name = name' ∧ raw = raw' := by
  have hsign : "=".toList = ['='] := rfl
  have hlist := congrArg String.toList h
  simp only [ignored, String.toList_append, List.append_assoc, hsign, List.singleton_append] at hlist
  obtain ⟨hnames, hrest⟩ := Text.split_unique hname hname' (List.append_cancel_left hlist)
  exact ⟨String.toList_inj.1 hnames, Text.quote_injective (String.toList_inj.1 (List.append_cancel_right hrest))⟩

theorem Gives.mem (h : Gives vars name max o ws) (hw : w ∈ ws) :
    ∃ raw, vars name = some raw ∧ w = Settings.ignored name raw := by
  cases h with
  | unset => cases hw
  | number => cases hw
  | ignored hraw => exact ⟨_, hraw, List.mem_singleton.1 hw⟩

theorem Warns.mem (h : Warns vars ws) (hw : w ∈ ws) :
    ∃ name raw, name ∈ [preDelayName, attemptsName, delayName] ∧ vars name = some raw ∧ w = ignored name raw := by
  cases h with
  | preDelay => cases hw
  | retry hpre hattempts hdelay =>
    simp only [List.mem_append] at hw
    rcases hw with (hw | hw) | hw
    · obtain ⟨raw, hraw⟩ := hpre.mem hw
      exact ⟨preDelayName, raw, by simp, hraw⟩
    · obtain ⟨raw, hraw⟩ := hattempts.mem hw
      exact ⟨attemptsName, raw, by simp, hraw⟩
    · obtain ⟨raw, hraw⟩ := hdelay.mem hw
      exact ⟨delayName, raw, by simp, hraw⟩

end Settings

/-- **What is shown in quotes is shown without loss.** A response that is not recognised, and the value of a variable
that is passed over, stand in the report between two quotes. Between these there is no control character and no quote
that is not escaped, and the reader of quoted text gets back what was there. The responses for which no tag is found and
the warnings about variables are all of these forms. So a report shows one text only, two texts are never quoted alike,
and a warning is about one variable and one value, as names of variables have no equals sign. -/
theorem reports_read_back :
    (∀ line, Text.Shows (LoadError.unrecognised line).message "unrecognised docker image load response: " "" line) ∧
    (∀ line e, defaultTag line = .error e → e = .unrecognised line) ∧
    (∀ name raw, Text.Shows (Settings.ignored name raw) ("Ignoring " ++ name ++ "=") ": not a valid number" raw) ∧
    (∀ vars, ∀ w ∈ (Settings.ofVariables vars).2, ∃ name raw,
      name ∈ [Settings.preDelayName, Settings.attemptsName, Settings.delayName] ∧ vars name = some raw ∧
        w = Settings.ignored name raw) ∧
    (∀ message before after after' s s', Text.Shows message before after s → Text.Shows message before after' s' →
      s = s' ∧ after = after') ∧
    Function.Injective Text.quote ∧
    (Function.Injective fun line => (LoadError.unrecognised line).message) ∧
    ∀ name name' raw raw', '=' ∉ name.toList → '=' ∉ name'.toList →
      Settings.ignored name raw = Settings.ignored name' raw' → name = name' ∧ raw = raw' := by
  refine ⟨LoadError.shows_unrecognised, fun line e h => ?_, Settings.shows_ignored, fun vars w hw => ?_,
    fun _ _ _ _ _ _ h h' => h.unique h', Text.quote_injective, LoadError.message_unrecognised_injective,
    fun _ _ _ _ => Settings.ignored_inj⟩
  · have hno : ∀ tag, ¬ NamesTag line tag := fun tag hnames => by
      rw [defaultTag_eq_ok_iff.2 hnames] at h
      cases h
    rw [defaultTag_of_nameless hno] at h
    exact (Except.error.inj h).symm
  · exact (Settings.warns_readStrategy vars).mem hw

/-- A joiner is shown as the escape that a response could have had itself, whose backslash is then shown as two. -/
theorem joiner_read_back :
    (∃ e, defaultTag "\u200d" = .error e ∧
      e.message = "unrecognised docker image load response: " ++ "\"\\u\x7b200d\x7d\"" ∧
      e.message ≠ (LoadError.unrecognised "\\u\x7b200d\x7d").message) ∧
    (∀ w ∈ (Settings.ofVariables fun name => if name = Settings.delayName then some "1\"\n" else none).2,
      w = "Ignoring NIX_IMAGE_LOAD_DELAY_MS=\"1\\\"\\n\": not a valid number") ∧
    (∀ s, Text.Shows "a \"b\\\\\" c" "a " " c" s → s = "b\\") ∧
    Settings.ignored Settings.delayName "" ≠ Settings.ignored Settings.attemptsName "" := by
  obtain ⟨-, -, -, hwarnings, hunique, -, hinjective, hignored⟩ := reports_read_back
  have hquote : Text.quote "\u200d" = "\"\\u\x7b200d\x7d\"" := by decide +kernel
  have hjoiner : (LoadError.unrecognised "\u200d").message =
      "unrecognised docker image load response: " ++ "\"\\u\x7b200d\x7d\"" := by
    rw [← hquote]
    rfl
  refine ⟨⟨.unrecognised "\u200d", rfl, hjoiner, fun h => ?_⟩, fun w hw => ?_, fun s hs => ?_, fun h => ?_⟩
  · exact absurd (hinjective h) (by decide +kernel)
  · obtain ⟨name, raw, -, hraw, rfl⟩ := hwarnings _ w hw
    split_ifs at hraw with hname
    rw [hname, ← Option.some.inj hraw]
    decide +kernel
  · have hmessage : "a " ++ Text.quote "b\\" ++ " c" = "a \"b\\\\\" c" := by decide +kernel
    exact (hunique _ _ _ _ _ _ hs (hmessage ▸ Text.shows_quote "a " " c" "b\\")).1
  · have hnames := hignored _ _ _ _ (by decide +kernel) (by decide +kernel) h
    exact absurd hnames.1 (by decide +kernel)

end FlakeImage
