import Pacts.Command.Run
import Pacts.Proofs.Command.Report
import Pacts.Proofs.Load.Requests

/-!
# How a command line comes out

Whatever the arguments, the files, the variables and the answers of a broker are, a command line
writes a report only if it exits with 0, and then the report is that of the load it made.

The command `broker` looks at the pacts twice: a pass may already fail for want of consumers, and
in the end there may be no pacts although no pass failed, because the tags stand for nothing or the
settings rule every consumer out.  Both go by the same flag, so the command succeeds exactly when
the load does and there are pacts or need not be any (`BrokerCommand.exit_eq_zero_iff`).

`outcome_of_arguments` is the theorem about whole command lines.
-/

set_option autoImplicit false

namespace Pacts.Command

/-! ## What is written when something goes wrong -/

/-- Nothing is written to the standard output unless all went well. -/
def Outcome.Quiet (o : Outcome) : Prop := o.exit ≠ 0 → o.output = ""

theorem Outcome.quiet_success (output : String) : (success output).Quiet := fun h => absurd rfl h

theorem Outcome.quiet_failure (f : Failure) : (failure f).Quiet := fun _ => rfl

theorem Outcome.quiet_misuse (m : Misuse) : (misuse m).Quiet := fun _ => rfl

/-! ## The command for a broker -/

namespace BrokerCommand

variable (c : BrokerCommand) (s : BrokerSettings) (named : Lookup)

/-- How the command comes out by the result of its load. -/
def verdict : Except LoadError (List Pact) → Outcome
  | .error e => .failure (.ofLoad ("failed to load pacts for provider '" ++ c.provider ++ "'") e)
  | .ok pacts =>
    if pacts = [] ∧ s.failIfNone then
      .failure ⟨"no pacts found for provider '" ++ c.provider ++ "' in " ++ s.description named ++
        " (pass --allow-empty to accept)", []⟩
    else .success (Report.text ⟨s.description named, pacts⟩ c.json)

/-- All that the command does is to make its load. -/
theorem outcome_eq :
    c.outcome s named = ((BrokerLoader.ofSettings s).load named c.provider >>= fun loaded =>
      .done (c.verdict s named loaded.2)) := by
  rw [outcome, BrokerLoader.load, Session.bind_assoc_eq, Session.bind_assoc_eq]
  congr 1
  funext progress
  simp only [Session.pure_eq, Session.bind_done]
  cases progress.result with
  | error e => rfl
  | ok pacts =>
    change (if pacts = [] ∧ s.failIfNone = true then _ else _) = Session.done (ite _ _ _)
    split <;> rfl

/-- The outcome of a run is the verdict on the load of that run. -/
theorem run_outcome {σ : Type} (answer : σ → Request → Reply × σ) (state : σ) :
    ((c.outcome s named).run answer state).1 =
      c.verdict s named
        (((BrokerLoader.ofSettings s).load named c.provider).run answer state).1.2 := by
  rw [outcome_eq, Session.run_bind]
  rfl

theorem exit_verdict_eq_zero_iff (result : Except LoadError (List Pact)) :
    (c.verdict s named result).exit = 0 ↔
      ∃ pacts, result = .ok pacts ∧ (pacts ≠ [] ∨ s.failIfNone = false) := by
  cases result with
  | error e => simp [verdict, Outcome.failure]
  | ok pacts =>
    rw [verdict]
    split
    · rename_i h
      simp [Outcome.failure, h]
    · rename_i h
      have : pacts ≠ [] ∨ s.failIfNone = false := by
        rcases Classical.em (pacts = []) with rfl | hne
        · exact .inr (by simpa using h)
        · exact .inl hne
      simpa [Outcome.success] using this

theorem quiet_verdict (result : Except LoadError (List Pact)) :
    (c.verdict s named result).Quiet := by
  cases result with
  | error e => exact Outcome.quiet_failure _
  | ok pacts =>
    rw [verdict]
    split
    · exact Outcome.quiet_failure _
    · exact Outcome.quiet_success _

/-- A command that succeeds reports the pacts of its load. -/
theorem output_verdict {pacts : List Pact} (h : (c.verdict s named (.ok pacts)).exit = 0) :
    (c.verdict s named (.ok pacts)).output = Report.text ⟨s.description named, pacts⟩ c.json := by
  rw [verdict] at h ⊢
  split at h
  · simp [Outcome.failure] at h
  · rename_i hne
    rw [if_neg hne]
    rfl

variable (env : Environment) (files : Files) {σ : Type} (answer : σ → Request → Reply × σ)
  (state : σ)

/-- Whether there have to be pacts: the settings ask for it and no flag takes that back. -/
def WantsPacts : Prop := s.failIfNone = true ∧ c.allowEmpty = false

/-- The lookup that is used with settings. -/
def lookup : Lookup := Lookup.namedOrVariables env files (c.settings s).lookup

/-- The load of the command brings pacts: its settings can be read, and a broker loader that has
these settings with the flags on top returns the pacts. -/
structure Brings (pacts : List Pact) : Prop where
  start : c.start files = .ok s
  result : (((BrokerLoader.ofSettings (c.settings s)).load (c.lookup s env files) c.provider).run
    answer state).1.2 = .ok pacts

variable {c s env files answer state}

/-- A command whose settings can be read comes out by the verdict on its load. -/
theorem run_ofInvocation (h : c.start files = .ok s) :
    ((Plan.ofInvocation env files (.broker c)).session.run answer state).1 =
      c.verdict (c.settings s) (c.lookup s env files)
        (((BrokerLoader.ofSettings (c.settings s)).load (c.lookup s env files) c.provider).run
          answer state).1.2 := by
  simp only [Plan.ofInvocation, h]
  exact run_outcome c _ _ answer state

/-- **The command `broker` succeeds** exactly when its load brings pacts and there are some or need
not be any. -/
theorem exit_eq_zero_iff :
    ((Plan.ofInvocation env files (.broker c)).session.run answer state).1.exit = 0 ↔
      ∃ s pacts, c.Brings s env files answer state pacts ∧ (pacts ≠ [] ∨ ¬c.WantsPacts s) := by
  have hwants : ∀ s, (c.settings s).failIfNone = false ↔ ¬c.WantsPacts s := by
    intro s
    simp only [settings, WantsPacts]
    cases s.failIfNone <;> cases c.allowEmpty <;> simp
  cases hs : c.start files with
  | error f =>
    have hfailure : ((Plan.ofInvocation env files (.broker c)).session.run answer state).1 =
        .failure f := by
      simp only [Plan.ofInvocation, hs]
      rfl
    rw [hfailure]
    refine iff_of_false (by simp [Outcome.failure]) ?_
    rintro ⟨s, pacts, hb, -⟩
    exact absurd (hs.symm.trans hb.start) (by simp)
  | ok s =>
    rw [run_ofInvocation hs, exit_verdict_eq_zero_iff]
    constructor
    · rintro ⟨pacts, hr, h⟩
      exact ⟨s, pacts, ⟨hs, hr⟩, h.imp_right (hwants s).1⟩
    · rintro ⟨s', pacts, hb, h⟩
      obtain rfl : s = s' := Except.ok.inj (hs.symm.trans hb.start)
      exact ⟨pacts, hb.result, h.imp_right (hwants s).2⟩

/-- Where pacts are wanted, a command whose tags stand for nothing fails, although its load makes no
request and returns without a failure. -/
theorem exit_ne_zero_of_passTags_eq_nil (hs : c.start files = .ok s) (hw : c.WantsPacts s)
    (ht : (c.settings s).passTags (c.lookup s env files) = []) :
    ((Plan.ofInvocation env files (.broker c)).session.run answer state).1.exit ≠ 0 := by
  have hload : (((BrokerLoader.ofSettings (c.settings s)).load (c.lookup s env files)
      c.provider).run answer state).1.2 = .ok [] := by
    have hcollect : (c.settings s).collect (c.lookup s env files) c.provider = .done .start := by
      rw [BrokerSettings.collect, ht]
      rfl
    have hlookup : (BrokerLoader.ofSettings (c.settings s)).lookup (c.lookup s env files) =
        c.lookup s env files := rfl
    have hsettings : (BrokerLoader.ofSettings (c.settings s)).settings = c.settings s := rfl
    rw [BrokerLoader.load, hlookup, hsettings, hcollect]
    rfl
  rw [Ne, exit_eq_zero_iff]
  rintro ⟨s', pacts, hb, hne⟩
  obtain rfl : s = s' := Except.ok.inj (hs.symm.trans hb.start)
  obtain rfl : [] = pacts := Except.ok.inj (hload.symm.trans hb.result)
  exact hne.elim (fun h => h rfl) fun h => h hw

/-- A successful command writes the report of the pacts of its load. -/
theorem output_of_exit_eq_zero
    (h : ((Plan.ofInvocation env files (.broker c)).session.run answer state).1.exit = 0)
    {pacts : List Pact} (hb : c.Brings s env files answer state pacts) :
    ((Plan.ofInvocation env files (.broker c)).session.run answer state).1.output =
      Report.text ⟨(c.settings s).description (c.lookup s env files), pacts⟩ c.json := by
  rw [run_ofInvocation hb.start, hb.result] at h ⊢
  exact output_verdict c _ _ h

end BrokerCommand

/-! ## The command for a directory -/

namespace FolderCommand

variable (c : FolderCommand) (files : Files)

/-- How the command comes out by the result of its load. -/
def verdict : Except LoadError (List Pact) → Outcome
  | .error e => .failure (.ofLoad ("failed to load pacts from " ++ c.dir) e)
  | .ok pacts =>
    .success (Report.text ⟨(FolderLoader.ofDirectory c.dir).description, pacts⟩ c.json)

/-- The outcome is the verdict on the load. -/
theorem outcome_eq :
    c.outcome files = c.verdict ((FolderLoader.ofDirectory c.dir).load files c.provider).2 := by
  have hdir : ((FolderLoader.ofDirectory c.dir).load files c.provider).1.dir = c.dir :=
    FolderLoader.dir_load _ _ _
  have hdescription : ((FolderLoader.ofDirectory c.dir).load files c.provider).1.description =
      (FolderLoader.ofDirectory c.dir).description := by
    rw [FolderLoader.description, hdir, FolderLoader.description, FolderLoader.ofDirectory]
  simp only [outcome, hdescription]
  cases ((FolderLoader.ofDirectory c.dir).load files c.provider).2 <;> rfl

/-- **The command `folder` succeeds** exactly when its load does. -/
theorem exit_eq_zero_iff :
    (c.outcome files).exit = 0 ↔
      ∃ pacts, ((FolderLoader.ofDirectory c.dir).load files c.provider).2 = .ok pacts := by
  rw [outcome_eq]
  cases ((FolderLoader.ofDirectory c.dir).load files c.provider).2 with
  | error e => simp [verdict, Outcome.failure]
  | ok pacts => simp [verdict, Outcome.success]

theorem quiet_outcome : (c.outcome files).Quiet := by
  rw [outcome_eq]
  cases ((FolderLoader.ofDirectory c.dir).load files c.provider).2 with
  | error e => exact Outcome.quiet_failure _
  | ok pacts => exact Outcome.quiet_success _

theorem output_of_load {pacts : List Pact}
    (h : ((FolderLoader.ofDirectory c.dir).load files c.provider).2 = .ok pacts) :
    (c.outcome files).output =
      Report.text ⟨(FolderLoader.ofDirectory c.dir).description, pacts⟩ c.json := by
  rw [outcome_eq, h]
  rfl

end FolderCommand

/-! ## Command lines -/

/-- Whatever is asked for, nothing is written unless all went well. -/
theorem quiet_ofInvocation {σ : Type} (env : Environment) (files : Files) (invocation : Invocation)
    (answer : σ → Request → Reply × σ) (state : σ) :
    ((Plan.ofInvocation env files invocation).session.run answer state).1.Quiet := by
  cases invocation with
  | help name => exact Outcome.quiet_success _
  | version => exact Outcome.quiet_success _
  | folder c => exact c.quiet_outcome files
  | broker c =>
    cases h : c.start files with
    | error f =>
      simp only [Plan.ofInvocation, h]
      exact Outcome.quiet_failure f
    | ok s =>
      rw [BrokerCommand.run_ofInvocation h]
      exact c.quiet_verdict _ _ _

/-- **How a command line comes out**, whatever its arguments, the variables and the files are and
whatever a broker answers.

Unless the exit status is 0, nothing is written to the standard output.

The command `broker` exits with 0 exactly when its settings can be read, its load returns pacts, and
there are some or need not be any.  So if they are wanted, an exit with 0 reports at least one,
whatever tags, consumers and listings had to do with it.  The command `folder` exits with 0 exactly
when its load returns pacts.

On an exit with 0 the output is the report of the pacts of the load, with the loader's description
of where they come from. -/
theorem outcome_of_arguments {σ : Type} (env : Environment) (files : Files)
    (arguments : List String) (answer : σ → Request → Reply × σ) (state : σ) :
    let outcome := ((Plan.ofArguments env files arguments).session.run answer state).1
    (outcome.exit ≠ 0 → outcome.output = "") ∧
    (∀ c, Invocation.ofArguments arguments = .ok (.broker c) →
      (outcome.exit = 0 ↔
        ∃ s pacts, c.Brings s env files answer state pacts ∧ (pacts ≠ [] ∨ ¬c.WantsPacts s)) ∧
      ∀ s pacts, c.Brings s env files answer state pacts → outcome.exit = 0 →
        (c.WantsPacts s → pacts ≠ []) ∧
        Report.WrittenTo
          ⟨(BrokerLoader.ofSettings (c.settings s)).description (c.lookup s env files), pacts⟩
          c.json outcome.output) ∧
    ∀ c, Invocation.ofArguments arguments = .ok (.folder c) →
      (outcome.exit = 0 ↔
        ∃ pacts, ((FolderLoader.ofDirectory c.dir).load files c.provider).2 = .ok pacts) ∧
      ∀ pacts, ((FolderLoader.ofDirectory c.dir).load files c.provider).2 = .ok pacts →
        Report.WrittenTo ⟨(FolderLoader.ofDirectory c.dir).description, pacts⟩ c.json
          outcome.output := by
  intro outcome
  have run_of_ok : ∀ {invocation}, Invocation.ofArguments arguments = .ok invocation →
      outcome = ((Plan.ofInvocation env files invocation).session.run answer state).1 := by
    intro invocation h
    simp only [outcome, Plan.ofArguments, h]
  refine ⟨?_, fun c hc => ?_, fun c hc => ?_⟩
  · cases h : Invocation.ofArguments arguments with
    | error m =>
      simp only [outcome, Plan.ofArguments, h]
      exact Outcome.quiet_misuse m
    | ok invocation =>
      rw [run_of_ok h]
      exact quiet_ofInvocation env files invocation answer state
  · have hexit : outcome.exit = 0 ↔ _ := run_of_ok hc ▸ BrokerCommand.exit_eq_zero_iff
    refine ⟨hexit, fun s pacts hb h => ⟨fun hwants => ?_, ?_⟩⟩
    · obtain ⟨s', pacts', hb', hne⟩ := hexit.1 h
      obtain rfl : s = s' := Except.ok.inj (hb.start.symm.trans hb'.start)
      obtain rfl : pacts = pacts' := Except.ok.inj (hb.result.symm.trans hb'.result)
      exact hne.resolve_right (not_not_intro hwants)
    · rw [run_of_ok hc] at h ⊢
      rw [BrokerCommand.output_of_exit_eq_zero h hb]
      exact Report.writtenTo_text _ _
  · have hrun : outcome = c.outcome files := run_of_ok hc
    rw [hrun]
    refine ⟨c.exit_eq_zero_iff files, fun pacts h => ?_⟩
    rw [c.output_of_load files h]
    exact Report.writtenTo_text _ _

/-! ## A sample -/

namespace Sample

/-- A command line that asks for the pacts of a consumer. -/
def arguments (consumer : String) : List String :=
  ["broker", "--provider", "store", "--host", "broker", "--tag", "v1", "--consumer", consumer,
    "--json"]

/-- What the command line asks for. -/
def command (consumer : String) : BrokerCommand :=
  { provider := "store", config := none, host := some "broker", port := none, scheme := none
    tags := ["v1"], consumers := [consumer], authScheme := none, username := none
    password := none, token := none, allowEmpty := false, json := true }

/-- How the command line comes out when the sample broker answers. -/
def outcome (consumer : String) : Outcome :=
  ((Plan.ofArguments ⟨[]⟩ .bare (arguments consumer)).session.run
    (Session.steady Pacts.Sample.broker) ()).1

/-- Lets the outcome of a run of the sample be known by its name: to compare the two by computing
them takes too long. -/
theorem outcome_eq (consumer : String) :
    ((Plan.ofArguments ⟨[]⟩ .bare (arguments consumer)).session.run
      (Session.steady Pacts.Sample.broker) ()).1 = outcome consumer := by
  rw [outcome]

/-- The load of the command line, when the sample broker answers. -/
def loaded (consumer : String) : Except LoadError (List Pact) :=
  (((BrokerLoader.ofSettings ((command consumer).settings .default)).load
    ((command consumer).lookup .default ⟨[]⟩ .bare) (command consumer).provider).run
      (Session.steady Pacts.Sample.broker) ()).1.2

theorem brings_of_toOption {consumer : String} {pacts : List Pact}
    (h : (loaded consumer).toOption = some pacts) :
    (command consumer).Brings .default ⟨[]⟩ .bare (Session.steady Pacts.Sample.broker) ()
      pacts := by
  have hok : loaded consumer = .ok pacts := by
    cases hl : loaded consumer with
    | error e => simp [hl, Except.toOption] at h
    | ok pacts' => simpa [hl, Except.toOption] using h
  exact ⟨rfl, hok⟩

/-- The pact of the consumer `web` as the sample broker gives it out. -/
def pact : Pact := ⟨"web", "store", [], [], .null, "http://broker/web.json"⟩

theorem brings_web : (command "web").Brings .default ⟨[]⟩ .bare
    (Session.steady Pacts.Sample.broker) () [pact] := brings_of_toOption (by decide +kernel)

theorem brings_nobody : (command "nobody").Brings .default ⟨[]⟩ .bare
    (Session.steady Pacts.Sample.broker) () [] := brings_of_toOption (by decide +kernel)

end Sample

/-- A consumer that is listed is reported; where all consumers are ruled out, the load succeeds
without any pacts and the command does not. -/
theorem outcome_of_arguments_sample :
    Json.read .whole (Sample.outcome "web").output =
      .ok (.obj
        [("pacts", .arr [.obj [("consumer", .str "web"), ("interactions", .num (.integer 0)),
          ("provider", .str "store"), ("source", .str "http://broker/web.json"),
          ("spec_version", .null)]]),
        ("source", .str "Pact Broker(http://broker)")]) ∧
    (Sample.command "nobody").Brings .default ⟨[]⟩ .bare (Session.steady Pacts.Sample.broker) ()
      [] ∧
    (Sample.outcome "nobody").exit ≠ 0 ∧ (Sample.outcome "nobody").output = "" := by
  have hcommand : ∀ consumer ∈ ["web", "nobody"],
      Invocation.ofArguments (Sample.arguments consumer) =
        .ok (.broker (Sample.command consumer)) := by
    decide +kernel
  obtain ⟨-, hlisted, -⟩ := outcome_of_arguments ⟨[]⟩ .bare (Sample.arguments "web")
    (Session.steady Pacts.Sample.broker) ()
  obtain ⟨hquiet, hruledOut, -⟩ := outcome_of_arguments ⟨[]⟩ .bare (Sample.arguments "nobody")
    (Session.steady Pacts.Sample.broker) ()
  simp only [Sample.outcome_eq] at hlisted hquiet hruledOut
  obtain ⟨hzero, hreport⟩ := hlisted _ (hcommand "web" (by simp))
  have hexit : (Sample.outcome "nobody").exit ≠ 0 := fun h =>
    ((hruledOut _ (hcommand "nobody" (by simp))).2 _ _ Sample.brings_nobody h).1 ⟨rfl, rfl⟩ rfl
  refine ⟨?_, Sample.brings_nobody, hexit, hquiet hexit⟩
  have hsuccess : (Sample.outcome "web").exit = 0 :=
    hzero.2 ⟨_, _, Sample.brings_web, .inl (by simp)⟩
  have hwritten := (hreport _ _ Sample.brings_web hsuccess).2
  have hcounts : ∀ p ∈ [Sample.pact], p.interactionCount < 2 ^ 64 := by decide +kernel
  have hread := hwritten.read rfl hcounts
  rw [hread]
  refine congrArg Except.ok ?_
  decide +kernel

end Pacts.Command
