import Mathlib.Data.List.Nodup
import Mathlib.Data.List.TakeWhile
import Pacts.Command.Invocation
import Pacts.Proofs.Results

/-!
# Command lines for commands

A flag can be written in several ways and the flags can stand in any order, so many command lines
ask for the same thing.  One way to write a flag always works: its name behind two dashes and its
value behind `=` in the same argument.  Whatever the value is, empty, full of signs or another
flag, it cannot be mistaken there.

So nothing that a command can be asked for is out of reach: `Given.read_written` reads any values
of flags back, and `Invocation.ofArguments_arguments_or` says that every combination of flags of the
command `broker` has a command line.  The one exception is a settings file without a path, and that
it is one takes a look at every command line there is: `Given.read_preserves` carries what a single
flag keeps to through all of them.
-/

set_option autoImplicit false

namespace Pacts.Command

/-! ## Flags as arguments -/

namespace Flag

/-- A flag and its value in one argument. -/
def written (f : Flag) (value : String) : String :=
  if f.hasValue then f.spelling ++ "=" ++ value else f.spelling

/-- The values with which a flag may stand on one command line. -/
structure Takes (f : Flag) (values : List String) : Prop where
  /-- Help and the version are asked for instead of a command. -/
  asking : f.kind = .help ∨ f.kind = .version → values = []
  once : f.kind ≠ .list → values.length ≤ 1
  /-- A flag without values is there with the empty one. -/
  bare : f.hasValue = false → ∀ value ∈ values, value = ""
  path : f.kind = .path → "" ∉ values

/-- Flags that can be told apart by their names. -/
structure Distinct (flags : List Flag) : Prop where
  nodup : (flags.map Flag.name).Nodup
  /-- A name is not empty, and it ends where an argument with a value goes on. -/
  plain : ∀ f ∈ flags, f.name ≠ "" ∧ '=' ∉ f.name.toList

variable {flags : List Flag} {f : Flag}

theorem find?_name (h : Distinct flags) (hf : f ∈ flags) :
    flags.find? (·.name == f.name) = some f := by
  obtain ⟨nodup, -⟩ := h
  induction flags with
  | nil => cases hf
  | cons g flags ih =>
    obtain ⟨hg, nodup⟩ := List.nodup_cons.1 nodup
    rcases List.mem_cons.1 hf with rfl | hf
    · simp
    · have hne : g.name ≠ f.name := fun he => hg (he ▸ List.mem_map_of_mem hf)
      rw [List.find?_cons_of_neg (by simpa using hne)]
      exact ih hf nodup

end Flag

namespace Given

variable {flags : List Flag} {places : List String} {g : Given} {f : Flag}

theorem formOf_written (h : f.name ≠ "" ∧ '=' ∉ f.name.toList) (value : String) :
    formOf (f.written value) = .long f.name (if f.hasValue then some value else none) := by
  obtain ⟨hne, hplain⟩ := h
  have hnil : f.name.toList ≠ [] := fun he => hne (String.toList_inj.1 he)
  have hname : ∀ c ∈ f.name.toList, decide (c ≠ '=') = true := fun c hc =>
    decide_eq_true fun he => hplain (he ▸ hc)
  rcases Bool.eq_false_or_eq_true f.hasValue with hv | hv
  · have hlist : (f.written value).toList =
        '-' :: '-' :: (f.name.toList ++ '=' :: value.toList) := by
      simp [Flag.written, hv, Flag.spelling]
    have htake : (f.name.toList ++ '=' :: value.toList).takeWhile (fun c => decide (c ≠ '=')) =
        f.name.toList := by
      rw [List.takeWhile_append_of_pos hname]
      simp
    have hdrop : (f.name.toList ++ '=' :: value.toList).dropWhile (fun c => decide (c ≠ '=')) =
        '=' :: value.toList := by
      rw [List.dropWhile_append_of_pos hname]
      simp
    simp only [formOf, hlist, htake, hdrop, String.ofList_toList, hv, if_true]
    rw [if_neg (by simp)]
  · have hlist : (f.written value).toList = '-' :: '-' :: f.name.toList := by
      simp [Flag.written, hv, Flag.spelling]
    have htake : f.name.toList.takeWhile (fun c => decide (c ≠ '=')) = f.name.toList :=
      List.takeWhile_eq_self_iff.2 hname
    have hdrop : f.name.toList.dropWhile (fun c => decide (c ≠ '=')) = [] :=
      List.dropWhile_eq_nil_iff.2 hname
    simp only [formOf, hlist, htake, hdrop, String.ofList_toList, hv]
    rw [if_neg (by simpa using hnil)]
    rfl

/-! ## Reading what was written -/

/-- What was read, with the values of a flag behind it. -/
def adding (g : Given) (f : Flag) (values : List String) : Given :=
  { g with flags := g.flags ++ values.map (f.name, ·) }

theorem addFlag_of_list (hk : f.kind = .list) (value : String) :
    g.addFlag f value = .ok (g.adding f [value]) := by
  simp only [addFlag, hk]
  rfl

theorem addFlag_of_new (hk : f.kind ≠ .help ∧ f.kind ≠ .version) {value : String}
    (hnew : g.has f.name = false) (hpath : f.kind = .path → value ≠ "") :
    g.addFlag f value = .ok (g.adding f [value]) := by
  obtain ⟨hhelp, hversion⟩ := hk
  rw [addFlag]
  split
  · contradiction
  · contradiction
  · rfl
  · rw [hnew, if_neg Bool.false_ne_true, if_neg fun h => hpath h.1 h.2]
    rfl

@[simp]
theorem adding_nil (g : Given) (f : Flag) : g.adding f [] = g := by
  simp [adding]

theorem adding_cons (g : Given) (f : Flag) (value : String) (values : List String) :
    g.adding f (value :: values) = (g.adding f [value]).adding f values := by
  simp [adding]

theorem read_of_long {argument name : String} {value : Option String}
    (h : formOf argument = .long name value) (arguments : List String) :
    g.read flags places none (argument :: arguments) =
      g.readLong flags name value >>= fun (g, pending) =>
        g.read flags places pending arguments := by
  rw [read.eq_def]
  simp only [h]

/-- One argument is read. -/
theorem read_written_cons (h : Flag.Distinct flags) (hf : f ∈ flags) {value : String}
    (hbare : f.hasValue = false → value = "") {g' : Given} (hadd : g.addFlag f value = .ok g')
    (arguments : List String) :
    g.read flags places none (f.written value :: arguments) =
      g'.read flags places none arguments := by
  have hlong : g.readLong flags f.name (if f.hasValue then some value else none) =
      .ok (g', none) := by
    rw [readLong, Flag.find?_name h hf]
    cases hv : f.hasValue with
    | true =>
      simp only [hv, if_true, hadd]
      rfl
    | false =>
      rw [hbare hv] at hadd
      simp only [hv, hadd]
      rfl
  rw [read_of_long (formOf_written (h.plain f hf) value), hlong]
  rfl

/-- The arguments of one flag are read. -/
theorem read_written_append (h : Flag.Distinct flags) (hf : f ∈ flags)
    (hnew : g.has f.name = false) {values : List String} (hvalues : f.Takes values)
    (arguments : List String) :
    g.read flags places none (values.map f.written ++ arguments) =
      (g.adding f values).read flags places none arguments := by
  by_cases hlist : f.kind = .list
  · have hbare : ∀ value, f.hasValue = false → value = "" := by
      intro value hv
      simp [Flag.hasValue, hlist] at hv
    clear hnew hvalues
    induction values generalizing g with
    | nil => simp
    | cons value values ih =>
      rw [adding_cons, ← ih, List.map_cons, List.cons_append]
      exact read_written_cons h hf (hbare value) (addFlag_of_list hlist value) _
  · cases values with
    | nil => simp
    | cons value values =>
      have honce := hvalues.once hlist
      obtain rfl : values = [] := by
        rw [List.length_cons] at honce
        exact List.length_eq_zero_iff.1 (by omega)
      have hk : f.kind ≠ .help ∧ f.kind ≠ .version := by
        constructor
        · intro hk
          cases hvalues.asking (.inl hk)
        · intro hk
          cases hvalues.asking (.inr hk)
      have hpath : f.kind = .path → value ≠ "" := fun hk he =>
        hvalues.path hk (he ▸ List.mem_cons_self)
      exact read_written_cons h hf (fun hv => hvalues.bare hv value List.mem_cons_self)
        (addFlag_of_new hk hnew hpath) arguments

/-! ## All flags of a command -/

/-- The flags with their values, one flag behind the other. -/
def listed (flags : List Flag) (values : String → List String) : List (String × String) :=
  flags.flatMap fun f => (values f.name).map (f.name, ·)

/-- The arguments for flags with their values. -/
def written (flags : List Flag) (values : String → List String) : List String :=
  flags.flatMap fun f => (values f.name).map f.written

variable {values : String → List String}

/-- A part of the flags is read. -/
theorem read_written_part (h : Flag.Distinct flags) (part : List Flag) (hpart : part ⊆ flags)
    (nodup : (part.map Flag.name).Nodup) (hvalues : ∀ f ∈ part, f.Takes (values f.name))
    (hnew : ∀ f ∈ part, g.has f.name = false) :
    g.read flags places none (written part values) =
      .ok { g with flags := g.flags ++ listed part values } := by
  induction part generalizing g with
  | nil => simp [written, listed, read]
  | cons f part ih =>
    obtain ⟨hf, hpart⟩ := List.cons_subset.1 hpart
    obtain ⟨hfirst, nodup⟩ := List.nodup_cons.1 nodup
    obtain ⟨hvalue, hvalues⟩ := List.forall_mem_cons.1 hvalues
    obtain ⟨hnew, hrest⟩ := List.forall_mem_cons.1 hnew
    have hafter : ∀ f' ∈ part, (g.adding f (values f.name)).has f'.name = false := by
      intro f' hf'
      have hne : f.name ≠ f'.name := fun he => hfirst (he ▸ List.mem_map_of_mem hf')
      have hbefore := hrest f' hf'
      simp only [has, adding, List.any_append, List.any_map, Bool.or_eq_false_iff] at hbefore ⊢
      refine ⟨hbefore, ?_⟩
      simp [Function.comp_def, hne]
    rw [written, List.flatMap_cons, read_written_append h hf hnew hvalue]
    refine (ih hpart nodup hvalues hafter).trans ?_
    simp [adding, listed]

/-- **Whatever values flags have, there is a command line that says so.** -/
theorem read_written (h : Flag.Distinct flags) (hvalues : ∀ f ∈ flags, f.Takes (values f.name)) :
    nothing.read flags places none (written flags values) = .ok ⟨listed flags values, []⟩ :=
  read_written_part h flags (List.Subset.refl flags) h.nodup hvalues fun _ _ => rfl

theorem texts_listed_cons (f : Flag) (flags : List Flag) (others : List String) (name : String) :
    texts ⟨listed (f :: flags) values, others⟩ name =
      (if f.name = name then values name else []) ++ texts ⟨listed flags values, others⟩ name := by
  rw [texts, listed, List.flatMap_cons, List.filter_append, List.map_append]
  congr 1
  by_cases h : f.name = name
  · subst h
    simp [List.filter_map, Function.comp_def]
  · simp [List.filter_map, Function.comp_def, h]

theorem texts_listed_of_not_mem {name : String} (h : name ∉ flags.map Flag.name)
    (others : List String) : texts ⟨listed flags values, others⟩ name = [] := by
  induction flags with
  | nil => rfl
  | cons f flags ih =>
    rw [List.map_cons, List.mem_cons, not_or] at h
    rw [texts_listed_cons, if_neg (Ne.symm h.1), ih h.2]
    rfl

/-- The values of a flag are found again. -/
theorem texts_listed (nodup : (flags.map Flag.name).Nodup) {name : String}
    (hname : name ∈ flags.map Flag.name) (others : List String) :
    texts ⟨listed flags values, others⟩ name = values name := by
  induction flags with
  | nil => cases hname
  | cons f flags ih =>
    obtain ⟨hf, nodup⟩ := List.nodup_cons.1 nodup
    rw [texts_listed_cons]
    rcases List.mem_cons.1 hname with rfl | hname
    · rw [if_pos rfl, texts_listed_of_not_mem hf, List.append_nil]
    · have hne : f.name ≠ name := fun he => hf (he ▸ hname)
      rw [if_neg hne, ih nodup hname, List.nil_append]

/-- A flag is there when it has values. -/
theorem has_eq (g : Given) (name : String) : g.has name = !(g.texts name).isEmpty := by
  rw [has, texts, Bool.eq_iff_iff]
  simp

/-! ## What every command line keeps to -/

section Runs

variable {P : Given → Prop}
  (hflag : ∀ {g g' : Given} {f : Flag} {value : String}, P g → f ∈ flags →
    g.addFlag f value = .ok g' → P g')
  (hother : ∀ {g g' : Given} {argument : String}, P g →
    g.addOther places argument = .ok g' → P g')

include hflag

theorem readLong_preserves {name : String} {value : Option String} {g' : Given}
    {pending : Option Flag} (hg : P g)
    (h : g.readLong flags name value = .ok (g', pending)) :
    P g' ∧ ∀ f, pending = some f → f ∈ flags := by
  rw [readLong] at h
  split at h
  · cases h
  · rename_i f hf
    have hmem : f ∈ flags := List.mem_of_find?_eq_some hf
    split at h
    · obtain ⟨g'', hadd, he⟩ := bind_eq_ok_iff.1 h
      cases he
      exact ⟨hflag hg hmem hadd, fun _ h => (by cases h)⟩
    · cases h
      exact ⟨hg, fun _ h => (by cases h; exact hmem)⟩
    · cases h
    · obtain ⟨g'', hadd, he⟩ := bind_eq_ok_iff.1 h
      cases he
      exact ⟨hflag hg hmem hadd, fun _ h => (by cases h)⟩

theorem readLetters_preserves {letters : List Char} {g' : Given} {pending : Option Flag} (hg : P g)
    (h : g.readLetters flags letters = .ok (g', pending)) :
    P g' ∧ ∀ f, pending = some f → f ∈ flags := by
  induction letters generalizing g with
  | nil =>
    cases h
    exact ⟨hg, fun _ h => (by cases h)⟩
  | cons c letters ih =>
    rw [readLetters] at h
    split at h
    · cases h
    · rename_i f hf
      have hmem : f ∈ flags := List.mem_of_find?_eq_some hf
      split at h
      · split at h
        · cases h
          exact ⟨hg, fun _ h => (by cases h; exact hmem)⟩
        · obtain ⟨g'', hadd, he⟩ := bind_eq_ok_iff.1 h
          cases he
          exact ⟨hflag hg hmem hadd, fun _ h => (by cases h)⟩
        · obtain ⟨g'', hadd, he⟩ := bind_eq_ok_iff.1 h
          cases he
          exact ⟨hflag hg hmem hadd, fun _ h => (by cases h)⟩
      · obtain ⟨g'', hadd, he⟩ := bind_eq_ok_iff.1 h
        exact ih (hflag hg hmem hadd) he

include hother

omit hflag in
theorem foldlM_addOther_preserves {arguments : List String} {g' : Given} (hg : P g)
    (h : arguments.foldlM (addOther places) g = .ok g') : P g' := by
  induction arguments generalizing g with
  | nil =>
    cases h
    exact hg
  | cons argument arguments ih =>
    rw [List.foldlM_cons] at h
    obtain ⟨g'', hadd, he⟩ := bind_eq_ok_iff.1 h
    exact ih (hother hg hadd) he

/-- What every flag and every other argument keeps is kept by a whole command line. -/
theorem read_preserves {arguments : List String} {pending : Option Flag} {g' : Given} (hg : P g)
    (hpending : ∀ f, pending = some f → f ∈ flags)
    (h : g.read flags places pending arguments = .ok g') : P g' := by
  induction arguments generalizing g pending with
  | nil =>
    cases pending with
    | none =>
      cases h
      exact hg
    | some f => cases h
  | cons argument arguments ih =>
    rw [read.eq_def] at h
    simp only at h
    split at h
    · rename_i f _
      obtain ⟨g'', hadd, he⟩ := bind_eq_ok_iff.1 h
      exact ih (hflag hg (hpending f rfl) hadd) (fun _ h => (by cases h)) he
    · cases h
    · exact foldlM_addOther_preserves hother hg h
    · obtain ⟨⟨g'', pending'⟩, hlong, he⟩ := bind_eq_ok_iff.1 h
      obtain ⟨hg'', hpending'⟩ := readLong_preserves hflag hg hlong
      exact ih hg'' hpending' he
    · obtain ⟨⟨g'', pending'⟩, hletters, he⟩ := bind_eq_ok_iff.1 h
      obtain ⟨hg'', hpending'⟩ := readLetters_preserves hflag hg hletters
      exact ih hg'' hpending' he
    · obtain ⟨g'', hadd, he⟩ := bind_eq_ok_iff.1 h
      exact ih (hother hg hadd) (fun _ h => (by cases h)) he

end Runs

theorem flags_of_addFlag {value : String} {g' : Given} (h : g.addFlag f value = .ok g') :
    g'.flags = g.flags ++ [(f.name, value)] ∧ (f.kind = .path → value ≠ "") := by
  rw [addFlag] at h
  split at h
  · cases h
  · cases h
  · rename_i hk
    cases h
    exact ⟨rfl, fun hp => (by rw [hk] at hp; cases hp)⟩
  · split at h
    · cases h
    · split at h
      · cases h
      · rename_i hempty
        cases h
        exact ⟨rfl, fun hk hv => hempty ⟨hk, hv⟩⟩

theorem flags_of_addOther {argument : String} {g' : Given}
    (h : g.addOther places argument = .ok g') : g'.flags = g.flags := by
  rw [addOther] at h
  split at h
  · cases h
  · split at h
    · cases h
    · cases h
      rfl

/-- No path on a command line is empty. -/
theorem path_ne_empty (h : Flag.Distinct flags) (hf : f ∈ flags) (hk : f.kind = .path)
    {arguments : List String} (hread : nothing.read flags places none arguments = .ok g) :
    (f.name, "") ∉ g.flags := by
  refine read_preserves (P := fun g => (f.name, "") ∉ g.flags) ?_ ?_ List.not_mem_nil
    (fun _ h => (by cases h)) hread
  · intro g g' f' value hg hf' hadd hmem
    obtain ⟨hflags, hpath⟩ := flags_of_addFlag hadd
    rw [hflags, List.mem_append, List.mem_singleton] at hmem
    rcases hmem with hmem | he
    · exact hg hmem
    · obtain ⟨hname, rfl⟩ := Prod.mk.inj he
      have hfind := Flag.find?_name h hf'
      rw [← hname, Flag.find?_name h hf, Option.some_inj] at hfind
      exact hpath (hfind ▸ hk) rfl
  · intro g g' argument hg hadd
    rwa [flags_of_addOther hadd]

end Given

/-! ## The command for a broker -/

namespace BrokerCommand

variable (c : BrokerCommand)

/-- The value of a flag without values. -/
def switchValues (given : Bool) : List String := if given then [""] else []

/-- The values of the flags by their names. -/
def values (c : BrokerCommand) : String → List String
  | "provider" => [c.provider]
  | "config" => c.config.toList
  | "host" => c.host.toList
  | "port" => c.port.toList
  | "scheme" => c.scheme.toList
  | "tag" => c.tags
  | "consumer" => c.consumers
  | "auth-scheme" => c.authScheme.toList
  | "username" => c.username.toList
  | "password" => c.password.toList
  | "token" => c.token.toList
  | "allow-empty" => switchValues c.allowEmpty
  | "json" => switchValues c.json
  | _ => []

/-- The arguments that ask for the command. -/
def arguments (c : BrokerCommand) : List String := "broker" :: Given.written brokerFlags c.values

theorem distinct_brokerFlags : Flag.Distinct brokerFlags where
  nodup := by decide
  plain := by decide

theorem takes_of_text {f : Flag} (hk : f.kind = .text) (value : Option String) :
    f.Takes value.toList where
  asking h := by simp [hk] at h
  once _ := by cases value <;> simp
  bare h := by simp [Flag.hasValue, hk] at h
  path h := by simp [hk] at h

theorem takes_of_path {f : Flag} (hk : f.kind = .path) {value : Option String}
    (h : value ≠ some "") : f.Takes value.toList where
  asking h := by simp [hk] at h
  once _ := by cases value <;> simp
  bare h := by simp [Flag.hasValue, hk] at h
  path _ := by simpa using h

theorem takes_of_list {f : Flag} (hk : f.kind = .list) (values : List String) :
    f.Takes values where
  asking h := by simp [hk] at h
  once h := absurd hk h
  bare h := by simp [Flag.hasValue, hk] at h
  path h := by simp [hk] at h

theorem takes_switchValues {f : Flag} (hk : f.kind = .switch) (given : Bool) :
    f.Takes (switchValues given) where
  asking h := by simp [hk] at h
  once _ := by cases given <;> simp [switchValues]
  bare _ := by cases given <;> simp [switchValues]
  path h := by simp [hk] at h

theorem takes_nil (f : Flag) : f.Takes [] :=
  ⟨fun _ => rfl, fun _ => Nat.zero_le 1, fun _ _ h => (by cases h), fun _ h => (by cases h)⟩

theorem takes_values (h : c.config ≠ some "") : ∀ f ∈ brokerFlags, f.Takes (c.values f.name) := by
  simp only [brokerFlags, List.forall_mem_cons]
  exact ⟨takes_of_text rfl (some c.provider), takes_of_path rfl h, takes_of_text rfl c.host,
    takes_of_text rfl c.port, takes_of_text rfl c.scheme, takes_of_list rfl c.tags,
    takes_of_list rfl c.consumers, takes_of_text rfl c.authScheme, takes_of_text rfl c.username,
    takes_of_text rfl c.password, takes_of_text rfl c.token, takes_switchValues rfl c.allowEmpty,
    takes_switchValues rfl c.json, takes_nil verboseFlag, takes_nil helpFlag,
    fun _ h => (by cases h)⟩

theorem ofGiven_listed : ofGiven ⟨Given.listed brokerFlags c.values, []⟩ = .ok c := by
  have htexts : ∀ name ∈ brokerFlags.map Flag.name,
      Given.texts ⟨Given.listed brokerFlags c.values, []⟩ name = c.values name := fun name hname =>
    Given.texts_listed distinct_brokerFlags.nodup hname []
  have htext : ∀ name ∈ brokerFlags.map Flag.name,
      Given.text? ⟨Given.listed brokerFlags c.values, []⟩ name = (c.values name).head? :=
    fun name hname => congrArg List.head? (htexts name hname)
  have hhas : ∀ name ∈ brokerFlags.map Flag.name,
      Given.has ⟨Given.listed brokerFlags c.values, []⟩ name = !(c.values name).isEmpty := by
    intro name hname
    rw [Given.has_eq, htexts name hname]
  rw [ofGiven, htext "provider" (by decide), htext "config" (by decide), htext "host" (by decide),
    htext "port" (by decide), htext "scheme" (by decide), htext "auth-scheme" (by decide),
    htext "username" (by decide), htext "password" (by decide), htext "token" (by decide),
    htexts "tag" (by decide), htexts "consumer" (by decide), hhas "allow-empty" (by decide),
    hhas "json" (by decide)]
  have hswitch : ∀ given, (!(switchValues given).isEmpty) = given := by decide
  simp only [values, List.head?_cons, Option.head?_toList, hswitch]

end BrokerCommand

/-! ## Command lines -/

namespace Invocation

theorem ofArguments_arguments (c : BrokerCommand) (h : c.config ≠ some "") :
    ofArguments c.arguments = .ok (.broker c) := by
  have hread : Given.nothing.read brokerFlags [] none (Given.written brokerFlags c.values) =
      .ok ⟨Given.listed brokerFlags c.values, []⟩ :=
    Given.read_written BrokerCommand.distinct_brokerFlags (c.takes_values h)
  have hname : Given.readName commonFlags .nothing c.arguments =
      .ok ("broker", Given.written brokerFlags c.values) := rfl
  rw [ofArguments, hname]
  simp only [ofName, if_true, hread, c.ofGiven_listed]
  rfl

theorem read_of_ofArguments {arguments : List String} {c : BrokerCommand}
    (h : ofArguments arguments = .ok (.broker c)) :
    ∃ rest g, Given.nothing.read brokerFlags [] none rest = .ok g ∧
      BrokerCommand.ofGiven g = .ok c := by
  have hstop : ∀ name stop, ofStop name stop ≠ .ok (.broker c) := by
    intro name stop he
    cases stop <;> cases he
  rw [ofArguments] at h
  split at h
  · exact absurd h (hstop _ _)
  · rename_i name rest _
    rw [ofName.eq_def] at h
    split at h
    · split at h
      · exact absurd h (hstop _ _)
      · rename_i g hread
        obtain ⟨c', hc, he⟩ := map_eq_ok_iff.1 h
        cases he
        exact ⟨rest, g, hread, hc⟩
    · split at h
      · split at h
        · exact absurd h (hstop _ _)
        · obtain ⟨c', -, he⟩ := map_eq_ok_iff.1 h
          cases he
      · -- the command that explains the others
        repeat' split at h
        all_goals cases h

/-- No command line asks for a settings file without a path. -/
theorem config_ne_empty {arguments : List String} {c : BrokerCommand}
    (h : ofArguments arguments = .ok (.broker c)) : c.config ≠ some "" := by
  intro hempty
  obtain ⟨rest, g, hread, hc⟩ := read_of_ofArguments h
  have hnot : ("config", "") ∉ g.flags :=
    Given.path_ne_empty (f := ⟨"config", some 'c', .path, "Loader config file (YAML)"⟩)
      BrokerCommand.distinct_brokerFlags (by decide) rfl hread
  have hconfig : g.text? "config" = some "" := by
    rw [← hempty]
    rw [BrokerCommand.ofGiven] at hc
    split at hc
    · cases hc
    · cases hc
      rfl
  obtain ⟨e, he, hsnd⟩ := List.mem_map.1 (List.mem_of_head? hconfig)
  obtain ⟨hmem, hfst⟩ := List.mem_filter.1 he
  obtain ⟨name, value⟩ := e
  obtain rfl : name = "config" := by simpa using hfst
  obtain rfl : value = "" := hsnd
  exact hnot hmem

/-- **Every combination of flags of the command `broker` has a command line**, unless the path of the
settings file is empty, which no command line can ask for. -/
theorem ofArguments_arguments_or (c : BrokerCommand) :
    ofArguments c.arguments = .ok (.broker c) ∨
      c.config = some "" ∧ ∀ arguments, ofArguments arguments ≠ .ok (.broker c) := by
  by_cases h : c.config = some ""
  · exact .inr ⟨h, fun _ harguments => config_ne_empty harguments h⟩
  · exact .inl (ofArguments_arguments c h)

end Invocation

end Pacts.Command
