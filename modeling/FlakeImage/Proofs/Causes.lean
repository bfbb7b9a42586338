import FlakeImage.Proofs.Lines

/-!
# The causes of an error

An error may hold the error that it comes from, which may be of another type and hold an error itself. No text hides
what is held below: it ends with the text of each error held, and with what a program has written about its failure
(`failure_names_causes`). So it is enough to show one text, as a build does in its last line.

An error of the system, or one about JSON text, can pass on an error from elsewhere. It then has the text of that
error and the source of that error, which is no error of a build; whether its text tells of that source is for the one
who made it (`passedOn_hides_cause`).
-/

namespace FlakeImage

variable {σ : Type}

/-- The text ends with another one, as it is. -/
def EndsWith (s tail : String) : Prop := ∃ before, s = before ++ tail

namespace EndsWith
variable {s t u : String}

theorem refl (s : String) : EndsWith s s := ⟨"", String.empty_append.symm⟩

theorem trans (hst : EndsWith s t) (htu : EndsWith t u) : EndsWith s u := by
  obtain ⟨before, rfl⟩ := hst
  obtain ⟨before', rfl⟩ := htu
  exact ⟨before ++ before', String.append_assoc.symm⟩

theorem getLast?_toList (h : EndsWith s t) (ht : t.toList ≠ []) : s.toList.getLast? = t.toList.getLast? := by
  obtain ⟨before, rfl⟩ := h
  rw [String.toList_append, List.getLast?_append_of_ne_nil _ ht]

end EndsWith

/-- An error of any of the types of errors, or one from elsewhere, by its text and those of its causes. -/
inductive AnyError
  | build (e : BuildError)
  | load (e : LoadError)
  | runtime (e : RuntimeError)
  | system (e : SystemError)
  | json (e : JsonError)
  | foreign (text : String) (causes : List String)

namespace AnyError

/-- The text of an error. -/
def message : AnyError → String
  | .build e => e.message
  | .load e => e.message
  | .runtime e => e.message
  | .system e => e.message
  | .json e => e.message
  | .foreign text _ => text

/-- The texts of the causes, given those of an error about JSON text: the one who reads the text may pass on why it
could not be had. -/
def causes (json : JsonError → List String) : AnyError → List String
  | .build (.json e) => e.message :: json e
  | .build e => e.causes
  | .load e => e.causes
  | .runtime e => e.causes
  | .system e => e.causes
  | .json e => json e
  | .foreign _ causes => causes

/-- What a program has written about its failure, if the error is about that. -/
def stderr? : AnyError → Option String
  | .build (.toolFailed _ stderr) => some stderr
  | .runtime (.command _ _ stderr) => some stderr
  | _ => none

/-- The first error comes from the second one, and holds it. -/
inductive Holds : AnyError → AnyError → Prop
  | toolSpawn (program : String) (e : SystemError) : Holds (.build (.toolSpawn program e)) (.system e)
  | loadExhausted (attempts : Nat) (e : LoadError) : Holds (.build (.loadExhausted attempts e)) (.load e)
  | tagFailed (image : ImageId) (tag : String) (e : RuntimeError) :
    Holds (.build (.tagFailed image tag e)) (.runtime e)
  | buildRuntime (e : RuntimeError) : Holds (.build (.runtime e)) (.runtime e)
  | buildSystem (e : SystemError) : Holds (.build (.system e)) (.system e)
  | buildJson (e : JsonError) : Holds (.build (.json e)) (.json e)
  | unreadable (path : Path) (e : SystemError) : Holds (.load (.unreadable path e)) (.system e)
  | ingestion (e : RuntimeError) : Holds (.load (.ingestion e)) (.runtime e)
  | response (e : SystemError) : Holds (.load (.response e)) (.system e)
  | spawn (program : String) (e : SystemError) : Holds (.runtime (.spawn program e)) (.system e)
  | runtimeSystem (e : SystemError) : Holds (.runtime (.system e)) (.system e)

/-- The first error tells of the second one as its source: it holds it, or it is one that may come from elsewhere. An
error that passes on another one does not hold that, but has its source. -/
inductive Source (json : JsonError → List String) : AnyError → AnyError → Prop
  | held {f g : AnyError} (h : f.Holds g) : Source json f g
  | passedOn (text cause : String) (causes : List String) :
    Source json (.system (.text text (cause :: causes))) (.foreign cause causes)
  | json {e : JsonError} {cause : String} {causes : List String} (h : json e = cause :: causes) :
    Source json (.json e) (.foreign cause causes)
  | foreign (text cause : String) (causes : List String) :
    Source json (.foreign text (cause :: causes)) (.foreign cause causes)

/-- The errors from one on, each followed by what it leads to in one step, to one that leads nowhere. -/
inductive Chain (r : AnyError → AnyError → Prop) : AnyError → List AnyError → Prop
  | root {f : AnyError} (h : ∀ g, ¬ r f g) : Chain r f [f]
  | next {f g : AnyError} {gs : List AnyError} (h : r f g) (hg : Chain r g gs) : Chain r f (f :: gs)

/-- Errors from elsewhere with these texts, each the source of the one before it. -/
def foreigns : List String → List AnyError
  | [] => []
  | cause :: causes => .foreign cause causes :: foreigns causes

/-- What an error comes from: the errors held, one in the other, down to the last one, and then those from elsewhere
that are the causes of the last one. -/
structure Lineage (json : JsonError → List String) (f : AnyError) (held : List AnyError) (last : AnyError) :
    Prop where
  chain : Chain Holds f held
  last_eq : held.getLast? = some last
  mem_held : ∀ g, g ∈ held ↔ Relation.ReflTransGen Holds f g
  /-- The text of an error ends with that of each error below it. -/
  endsWith : held.Pairwise fun f g => EndsWith f.message g.message
  /-- What a program has written about its failure ends the text of the error about it, and all those above. -/
  stderr : ∀ g ∈ held, ∀ stderr, g.stderr? = some stderr → EndsWith g.message stderr ∧ EndsWith f.message stderr
  sources : ∀ fs, Chain (Source json) f fs ↔ fs = held ++ foreigns (last.causes json)
  mem_sources : ∀ g, g ∈ held ++ foreigns (last.causes json) ↔ Relation.ReflTransGen (Source json) f g
  texts : (held ++ foreigns (last.causes json)).map message = f.message :: f.causes json
  /-- The texts of all errors end like this if the one passed on tells of its causes. -/
  endsWith_all : (last.message :: last.causes json).Pairwise EndsWith →
    (held ++ foreigns (last.causes json)).Pairwise fun f g => EndsWith f.message g.message

variable {json : JsonError → List String} {f g g' : AnyError} {fs gs : List AnyError}

/-! ### What one error holds -/

theorem Holds.unique : Relator.RightUnique Holds := by
  intro f g g' h h'
  cases h <;> cases h' <;> rfl

theorem Holds.endsWith (h : f.Holds g) : EndsWith f.message g.message := by
  cases h <;> exact ⟨_, rfl⟩

theorem Holds.causes_eq (h : f.Holds g) : f.causes json = g.message :: g.causes json := by
  cases h <;> rfl

theorem Source.causes_eq (h : Source json f g) : f.causes json = g.message :: g.causes json := by
  cases h with
  | held hholds => exact hholds.causes_eq
  | passedOn => rfl
  | json hjson => exact hjson
  | foreign => rfl

theorem Source.unique : Relator.RightUnique (Source json) := by
  rintro f g g' (hholds | _ | hjson | _) hsource
  · cases hsource with
    | held hholds' => exact Holds.unique hholds hholds'
    | passedOn | json | foreign => cases hholds
  · cases hsource with
    | held hholds => cases hholds
    | passedOn => rfl
  · cases hsource with
    | held hholds => cases hholds
    | json hjson' =>
      obtain ⟨rfl, rfl⟩ := List.cons.inj (hjson.symm.trans hjson')
      rfl
  · cases hsource with
    | held hholds => cases hholds
    | foreign => rfl

theorem not_source_of_causes (h : f.causes json = []) (g : AnyError) : ¬ Source json f g :=
  fun hsource => List.cons_ne_nil _ _ (hsource.causes_eq.symm.trans h)

/-- The causes of an error that holds none are from elsewhere. -/
theorem source_of_causes (hroot : ∀ g, ¬ f.Holds g) {cause : String} {causes : List String}
    (h : f.causes json = cause :: causes) : Source json f (.foreign cause causes) := by
  cases f with
  | build e =>
    cases e with
    | toolSpawn program e => exact absurd (.toolSpawn program e) (hroot _)
    | loadExhausted attempts e => exact absurd (.loadExhausted attempts e) (hroot _)
    | tagFailed image tag e => exact absurd (.tagFailed image tag e) (hroot _)
    | runtime e => exact absurd (.buildRuntime e) (hroot _)
    | system e => exact absurd (.buildSystem e) (hroot _)
    | json e => exact absurd (.buildJson e) (hroot _)
    | _ => cases h
  | load e =>
    cases e with
    | unreadable path e => exact absurd (.unreadable path e) (hroot _)
    | ingestion e => exact absurd (.ingestion e) (hroot _)
    | response e => exact absurd (.response e) (hroot _)
    | _ => cases h
  | runtime e =>
    cases e with
    | spawn program e => exact absurd (.spawn program e) (hroot _)
    | system e => exact absurd (.runtimeSystem e) (hroot _)
    | _ => cases h
  | system e =>
    cases e with
    | code n => cases h
    | text text causes => cases h; exact .passedOn ..
  | json e => exact .json h
  | foreign text causes => cases h; exact .foreign ..

/-- Where errors about JSON text pass nothing on, the causes are those of the error of the build. -/
theorem causes_build (h : ∀ j, json j = []) (e : BuildError) : (build e).causes json = e.causes := by
  cases e with
  | json e => exact congrArg (List.cons e.message) (h e)
  | _ => rfl

theorem endsWith_stderr {stderr : String} (h : f.stderr? = some stderr) : EndsWith f.message stderr := by
  unfold stderr? at h
  split at h <;> cases h
  · exact ⟨_, rfl⟩
  · exact ⟨_, rfl⟩

/-! ### Chains -/

/-- An error of a build may hold any other, one of a load those of the runtime and the system, one of the runtime those
of the system, and these hold none. -/
def rank : AnyError → Nat
  | .build _ => 3
  | .load _ => 2
  | .runtime _ => 1
  | .system _ | .json _ | .foreign .. => 0

theorem Holds.rank_lt (h : f.Holds g) : g.rank < f.rank := by
  cases h <;> simp [rank]

theorem exists_chain (f : AnyError) : ∃ fs, Chain Holds f fs := by
  by_cases hroot : ∀ g, ¬ f.Holds g
  · exact ⟨_, .root hroot⟩
  · obtain ⟨g, hg⟩ := not_forall_not.1 hroot
    have hrank := hg.rank_lt
    obtain ⟨gs, hgs⟩ := exists_chain g
    exact ⟨_, .next hg hgs⟩
termination_by f.rank

/-- An error ends with all that it leads to. -/
theorem endsWith_of_leads (h : Relation.ReflTransGen Holds f g) : EndsWith f.message g.message := by
  induction h with
  | refl => exact .refl _
  | tail _ hholds ih => exact ih.trans hholds.endsWith

theorem map_message_foreigns (texts : List String) : (foreigns texts).map message = texts := by
  induction texts with
  | nil => rfl
  | cons text causes ih => rw [foreigns, List.map_cons, ih]; rfl

namespace Chain

theorem unique {r : AnyError → AnyError → Prop} (hr : Relator.RightUnique r) (h : Chain r f fs) (h' : Chain r f gs) :
    fs = gs := by
  induction h generalizing gs with
  | root hroot =>
    cases h' with
    | root => rfl
    | next hstep => exact absurd hstep (hroot _)
  | next hstep _ ih =>
    cases h' with
    | root hroot => exact absurd hstep (hroot _)
    | next hstep' hg' =>
      obtain rfl := hr hstep hstep'
      rw [ih hg']

theorem mem_iff {r : AnyError → AnyError → Prop} (hr : Relator.RightUnique r) (h : Chain r f fs) :
    g ∈ fs ↔ Relation.ReflTransGen r f g := by
  induction h with
  | root hroot =>
    rw [List.mem_singleton]
    constructor
    · rintro rfl
      exact .refl
    · intro hg
      rcases hg.cases_head with rfl | ⟨g', hstep, -⟩
      · rfl
      · exact absurd hstep (hroot _)
  | next hstep _ ih =>
    rw [List.mem_cons, ih]
    constructor
    · rintro (rfl | hg)
      · exact .refl
      · exact hg.head hstep
    · intro hg
      rcases hg.cases_head with rfl | ⟨g', hstep', hg'⟩
      · exact .inl rfl
      · exact .inr (hr hstep hstep' ▸ hg')

theorem exists_root {r : AnyError → AnyError → Prop} (h : Chain r f fs) :
    ∃ root, fs.getLast? = some root ∧ ∀ g, ¬ r root g := by
  induction h with
  | root hroot => exact ⟨_, rfl, hroot⟩
  | next hstep hg ih =>
    obtain ⟨root, hlast, hroot⟩ := ih
    exact ⟨root, by rw [List.getLast?_cons, hlast, Option.getD_some], hroot⟩

theorem map_message (h : Chain (Source json) f fs) : fs.map message = f.message :: f.causes json := by
  induction h with
  | @root f hroot =>
    cases hcauses : f.causes json with
    | nil => rfl
    | cons cause causes => exact absurd (source_of_causes (fun g hholds => hroot g (.held hholds)) hcauses) (hroot _)
  | next hsource _ ih => rw [List.map_cons, ih, hsource.causes_eq]

theorem pairwise (h : Chain Holds f fs) : fs.Pairwise fun f g => EndsWith f.message g.message := by
  induction h with
  | root hroot => exact List.pairwise_singleton ..
  | next hholds hg ih =>
    refine List.pairwise_cons.2 ⟨fun g' hmem => ?_, ih⟩
    exact endsWith_of_leads (((hg.mem_iff Holds.unique).1 hmem).head hholds)

theorem foreign (text : String) (causes : List String) :
    Chain (Source json) (.foreign text causes) (.foreign text causes :: foreigns causes) := by
  induction causes generalizing text with
  | nil => exact .root (not_source_of_causes rfl)
  | cons cause causes ih => exact .next (.foreign text cause causes) (ih cause)

/-- Where no error is held any more, those from elsewhere go on. -/
theorem sources (h : Chain Holds f fs) {last : AnyError} (hlast : fs.getLast? = some last) :
    Chain (Source json) f (fs ++ foreigns (last.causes json)) := by
  induction h with
  | @root f hroot =>
    obtain rfl : f = last := Option.some.inj hlast
    cases hcauses : f.causes json with
    | nil => exact .root (not_source_of_causes hcauses)
    | cons cause causes => exact .next (source_of_causes hroot hcauses) (foreign cause causes)
  | next hholds hg ih =>
    obtain ⟨root, hroot, -⟩ := hg.exists_root
    rw [List.getLast?_cons, hroot, Option.getD_some] at hlast
    exact .next (.held hholds) (ih (hroot.trans hlast))

end Chain

theorem exists_lineage (json : JsonError → List String) (f : AnyError) : ∃ held last, Lineage json f held last := by
  obtain ⟨held, hheld⟩ := exists_chain f
  obtain ⟨last, hlast, -⟩ := hheld.exists_root
  have hmem (g : AnyError) : g ∈ held ↔ Relation.ReflTransGen Holds f g := hheld.mem_iff Holds.unique
  have hsources : Chain (Source json) f (held ++ foreigns (last.causes json)) := hheld.sources hlast
  refine ⟨held, last, ?_⟩
  constructor
  case chain => exact hheld
  case last_eq => exact hlast
  case mem_held => exact hmem
  case endsWith => exact hheld.pairwise
  case stderr =>
    intro g hg stderr hstderr
    have hends := endsWith_stderr hstderr
    exact ⟨hends, (endsWith_of_leads ((hmem g).1 hg)).trans hends⟩
  case sources =>
    intro fs
    constructor
    · exact fun h => h.unique Source.unique hsources
    · rintro rfl
      exact hsources
  case mem_sources => exact fun g => hsources.mem_iff Source.unique
  case texts => exact hsources.map_message
  case endsWith_all =>
    intro htexts
    obtain ⟨hends, hbelow⟩ := List.pairwise_cons.1 htexts
    rw [← map_message_foreigns (last.causes json), List.pairwise_map] at hbelow
    refine List.pairwise_append.2 ⟨hheld.pairwise, hbelow, fun g hg g' hg' => ?_⟩
    have hlast' : EndsWith g.message last.message := by
      obtain ⟨above, rfl⟩ := List.getLast?_eq_some_iff.1 hlast
      obtain hg | hg := List.mem_append.1 hg
      · exact (List.pairwise_append.1 hheld.pairwise).2.2 g hg last (List.mem_singleton_self last)
      · obtain rfl := List.mem_singleton.1 hg
        exact .refl _
    have hcause : g'.message ∈ last.causes json :=
      map_message_foreigns (last.causes json) ▸ List.mem_map_of_mem hg'
    exact hlast'.trans (hends _ hcause)

end AnyError

namespace Builder

/-- The last line about a build that fails has the text of the error. -/
theorem exists_last_line {b : Builder σ} {cancel : Cancel} {r : Request} {d : Deadline} {t : Time} {w : σ}
    {e : BuildError} (h : (b.build cancel r d t w).ending = .failure e) :
    ∃ line, (b.build cancel r d t w).journal.transcript.lines.getLast? = some line ∧
      line.field? "error" = some e.message := by
  obtain ⟨-, s, told, -, hlines⟩ := build_tells b r cancel d t w
  refine ⟨⟨.error, "docker:nix build failed", [("plan", r.plan), ("error", e.message)]⟩, ?_, rfl⟩
  rw [hlines, h, closing, ← List.append_assoc, List.getLast?_concat]

/-- **No cause that an error holds is lost in its text.** The errors that one of a build holds, one in the other, end
each with the text of all below; and an error about a program that has failed ends with what the program has written,
as does the error of the build. The sources of the error are these, in this order, and then the causes of an error that
the last one passes on, and no others. So the last line about a build that fails ends, in its field for the error, with
the text of the last error held, and with that of any source that this text ends with. -/
theorem failure_names_causes (json : JsonError → List String) (e : BuildError) :
    ∃ held last, AnyError.Lineage json (.build e) held last ∧
      ((∀ j, json j = []) → (AnyError.build e).causes json = e.causes) ∧
      ∀ (b : Builder σ) (cancel : Cancel) (r : Request) (d : Deadline) (t : Time) (w : σ),
        (b.build cancel r d t w).ending = .failure e →
          ∃ line text, (b.build cancel r d t w).journal.transcript.lines.getLast? = some line ∧
            line.field? "error" = some text ∧ EndsWith text last.message ∧
            ∀ root, Relation.ReflTransGen (AnyError.Source json) (.build e) root →
              EndsWith last.message root.message → EndsWith text root.message := by
  obtain ⟨held, last, hlineage⟩ := AnyError.exists_lineage json (.build e)
  refine ⟨held, last, hlineage, fun h => AnyError.causes_build h e, fun b cancel r d t w hfailure => ?_⟩
  obtain ⟨line, hline, hfield⟩ := exists_last_line hfailure
  have hlast : EndsWith e.message last.message :=
    AnyError.endsWith_of_leads ((hlineage.mem_held last).1 (List.mem_of_getLast? hlineage.last_eq))
  exact ⟨line, _, hline, hfield, hlast, fun root _ hroot => hlast.trans hroot⟩

/-- The only attempt to load an archive has failed, with two lines. -/
def crowded : BuildError :=
  .loadExhausted 1 (.ingestion (.command "docker load" "exit status: 1" "no space\nleft\n"))

/-- The archive is on a disk that has failed, and the system passes on what the disk says. -/
def overheated : BuildError :=
  .loadExhausted 2 (.unreadable (Path.ofString "a.tar") (.text "disk on fire: sensor 3" ["sensor 3"]))

theorem crowded_names_causes :
    (∃ load runtime, AnyError.Chain AnyError.Holds (.build crowded) [.build crowded, load, runtime] ∧
      [crowded.message, load.message, runtime.message] = crowded.message :: crowded.causes ∧
      EndsWith crowded.message "no space\nleft\n") ∧
    ∃ load system, AnyError.Chain (AnyError.Source fun _ => []) (.build overheated)
        [.build overheated, load, system, .foreign "sensor 3" []] ∧
      EndsWith overheated.message "sensor 3" := by
  constructor
  · have hchain : AnyError.Chain AnyError.Holds (.build crowded) [.build crowded, _, _] :=
      .next (.loadExhausted ..) (.next (.ingestion _) (.root nofun))
    obtain ⟨held, last, hlineage, -⟩ := @failure_names_causes Unit (fun _ => []) crowded
    obtain rfl := hlineage.chain.unique AnyError.Holds.unique hchain
    obtain rfl := Option.some.inj hlineage.last_eq
    have hruntime := hlineage.stderr _ (List.mem_of_getLast? hlineage.last_eq) _ rfl
    exact ⟨_, _, hchain, hlineage.texts, hruntime.2⟩
  · have hchain : AnyError.Chain AnyError.Holds (.build overheated) [.build overheated, _, _] :=
      .next (.loadExhausted ..) (.next (.unreadable ..) (.root nofun))
    obtain ⟨held, last, hlineage, -⟩ := @failure_names_causes Unit (fun _ => []) overheated
    obtain rfl := hlineage.chain.unique AnyError.Holds.unique hchain
    obtain rfl := Option.some.inj hlineage.last_eq
    have htold : EndsWith "disk on fire: sensor 3" "sensor 3" := ⟨"disk on fire: ", by decide +kernel⟩
    have hends := hlineage.endsWith_all (List.pairwise_pair.2 htold)
    exact ⟨_, _, (hlineage.sources _).2 rfl, (List.pairwise_cons.1 hends).1 _ (.tail _ (.tail _ (.head _)))⟩

/-- An error of the system passes on one from elsewhere, which does not tell where it comes from. -/
def passedOn : BuildError := .system (.text "disk on fire" ["sensor 3"])

/-- An error that is passed on is no source, for its own source stands in its place; and it need not tell of that in
its text. -/
theorem passedOn_hides_cause :
    (∃ es, AnyError.Chain (AnyError.Source fun _ => []) (.build passedOn) es ∧
      es.getLast? = some (.foreign "sensor 3" []) ∧ ¬ EndsWith passedOn.message "sensor 3" ∧
      ¬ es.IsChain (fun f g => EndsWith f.message g.message) ∧ .foreign "disk on fire" ["sensor 3"] ∉ es) ∧
    ∃ es, AnyError.Chain (AnyError.Source fun _ => []) (.build (.system (.text "disk on fire"))) es ∧
      .foreign "disk on fire" [] ∉ es := by
  have hhidden {s : String} (hs : s.toList.getLast? = some 'e') : ¬ EndsWith s "sensor 3" := fun h => by
    have hlast := h.getLast?_toList (by decide +kernel)
    rw [hs] at hlast
    exact absurd hlast (by decide +kernel)
  refine ⟨⟨_, .next (.held (.buildSystem _)) (.next (.passedOn ..) (.root ?_)), rfl, ?_, fun h => ?_, ?_⟩,
    _, .next (.held (.buildSystem _)) (.root ?_), ?_⟩
  · exact AnyError.not_source_of_causes rfl
  · exact hhidden (by decide +kernel)
  · exact hhidden (s := "disk on fire") (by decide +kernel) h.tail.rel
  · simp
  · exact AnyError.not_source_of_causes rfl
  · simp

end Builder

end FlakeImage
