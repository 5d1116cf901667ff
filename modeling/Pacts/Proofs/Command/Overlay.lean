import Pacts.Command.Run
import Pacts.Files.Tree
import Pacts.Proofs.Command.Arguments

/-!
# What flags make of settings

The command `broker` starts from the settings in a file, or from the defaults, and puts its flags on
top.  `BrokerCommand.Overlays` says field by field what comes of that, without saying how: it leaves
nothing open, so there is only one outcome (`Overlays.unique`), and it looks at a setting only where
no flag was given, so what came of the flags once comes of them again (`Overlays.again`).

The credentials are where something could get lost.  They may be missing from the settings, and
without flags they have to stay missing, but a single flag brings them about, and then the three
others have to be taken from the settings one by one.

`BrokerCommand.build_overlays` is the result.  It is about what the program does with a command line
and not only about the overlay: the settings that are built are those the load is made with.
-/

set_option autoImplicit false

namespace Pacts.Command

/-! ## Single settings -/

section Single

variable {α : Type} {flag : Option α} {a b b' : α} {flags as bs bs' : List String}

/-- The setting `b` is the value of a flag if the flag is given, and the setting `a` otherwise. -/
structure Supersedes (flag : Option α) (a b : α) : Prop where
  given : ∀ value, flag = some value → b = value
  kept : flag = none → b = a

/-- The list `bs` is that of the flags if there are any, and the list `as` otherwise. -/
structure Replaces (flags as bs : List String) : Prop where
  given : flags ≠ [] → bs = flags
  kept : flags = [] → bs = as

theorem supersedes_iff : Supersedes flag a b ↔ b = flag.getD a := by
  cases flag with
  | none =>
    constructor
    · intro h
      exact h.kept rfl
    · intro h
      exact ⟨fun _ he => (by cases he), fun _ => h⟩
  | some value =>
    constructor
    · intro h
      exact h.given value rfl
    · intro h
      exact ⟨fun _ he => (Option.some.inj he) ▸ h, fun he => (by cases he)⟩

theorem replaces_iff : Replaces flags as bs ↔ bs = BrokerCommand.orElse flags as := by
  rw [BrokerCommand.orElse]
  by_cases hf : flags = []
  · rw [if_pos hf]
    exact ⟨fun h => h.kept hf, fun h => ⟨fun hne => absurd hf hne, fun _ => h⟩⟩
  · rw [if_neg hf]
    exact ⟨fun h => h.given hf, fun h => ⟨fun _ => h, fun he => absurd he hf⟩⟩

theorem Supersedes.unique (h : Supersedes flag a b) (h' : Supersedes flag a b') : b = b' :=
  (supersedes_iff.1 h).trans (supersedes_iff.1 h').symm

theorem Replaces.unique (h : Replaces flags as bs) (h' : Replaces flags as bs') : bs = bs' :=
  (replaces_iff.1 h).trans (replaces_iff.1 h').symm

/-- A flag has its say only once. -/
theorem Supersedes.again (h : Supersedes flag a b) : Supersedes flag b b :=
  ⟨h.given, fun _ => rfl⟩

theorem Replaces.again (h : Replaces flags as bs) : Replaces flags bs bs :=
  ⟨h.given, fun _ => rfl⟩

end Single

namespace BrokerCommand

variable {c : BrokerCommand} {files : Files} {s t t' : BrokerSettings}

/-! ## Credentials -/

/-- A flag of the credentials is given. -/
def GivesCredentials (c : BrokerCommand) : Prop :=
  c.authScheme ≠ none ∨ c.username ≠ none ∨ c.password ≠ none ∨ c.token ≠ none

/-- The credentials `a` are those of the settings with the flags on top; where neither says
anything, they are empty. -/
structure OverlaysCredentials (c : BrokerCommand) (settings : Option CredentialSettings)
    (a : CredentialSettings) : Prop where
  scheme : Supersedes (c.authScheme.map some) (settings.bind (·.scheme)) a.scheme
  username : Supersedes c.username ((settings.map (·.username)).getD "") a.username
  password : Supersedes c.password ((settings.map (·.password)).getD "") a.password
  token : Supersedes c.token ((settings.map (·.token)).getD "") a.token

namespace OverlaysCredentials

variable {settings : Option CredentialSettings} {a a' : CredentialSettings}

theorem unique (h : c.OverlaysCredentials settings a) (h' : c.OverlaysCredentials settings a') :
    a = a' := by
  obtain ⟨scheme, username, password, token⟩ := a
  obtain ⟨scheme', username', password', token'⟩ := a'
  obtain rfl : scheme = scheme' := h.scheme.unique h'.scheme
  obtain rfl : username = username' := h.username.unique h'.username
  obtain rfl : password = password' := h.password.unique h'.password
  obtain rfl : token = token' := h.token.unique h'.token
  rfl

theorem again (h : c.OverlaysCredentials settings a) : c.OverlaysCredentials (some a) a :=
  ⟨h.scheme.again, h.username.again, h.password.again, h.token.again⟩

end OverlaysCredentials

theorem setsCredentials_iff : c.setsCredentials = true ↔ c.GivesCredentials := by
  simp only [setsCredentials, GivesCredentials, Bool.or_eq_true, Option.isSome_iff_ne_none,
    or_assoc]

theorem overlaysCredentials_credentials (h : c.GivesCredentials)
    (settings : Option CredentialSettings) :
    ∃ a, c.credentials settings = some a ∧ c.OverlaysCredentials settings a := by
  refine ⟨_, if_pos (setsCredentials_iff.2 h), ?_⟩
  constructor
  · rw [supersedes_iff]
    cases settings <;> cases c.authScheme <;> rfl
  · rw [supersedes_iff]
    cases settings <;> rfl
  · rw [supersedes_iff]
    cases settings <;> rfl
  · rw [supersedes_iff]
    cases settings <;> rfl

/-! ## All settings -/

/-- The settings `t` are the settings `s` with the flags of the command on top. -/
structure Overlays (c : BrokerCommand) (s t : BrokerSettings) : Prop where
  host : Supersedes c.host s.host t.host
  port : Supersedes c.port s.port t.port
  scheme : Supersedes c.scheme s.scheme t.scheme
  tags : Replaces c.tags s.tags t.tags
  consumers : Replaces c.consumers s.consumers t.consumers
  allowEmpty : c.allowEmpty = true → t.failIfNone = false
  failIfNone : c.allowEmpty = false → t.failIfNone = s.failIfNone
  lookup : t.lookup = s.lookup
  timeout : t.timeout = s.timeout
  untouched : ¬c.GivesCredentials → t.credentials = s.credentials
  credentials : c.GivesCredentials →
    ∃ a, t.credentials = some a ∧ c.OverlaysCredentials s.credentials a

namespace Overlays

theorem credentials_unique (h : c.Overlays s t) (h' : c.Overlays s t') :
    t.credentials = t'.credentials := by
  by_cases hg : c.GivesCredentials
  · obtain ⟨a, ha, hover⟩ := h.credentials hg
    obtain ⟨a', ha', hover'⟩ := h'.credentials hg
    rw [ha, ha', hover.unique hover']
  · rw [h.untouched hg, h'.untouched hg]

theorem failIfNone_unique (h : c.Overlays s t) (h' : c.Overlays s t') :
    t.failIfNone = t'.failIfNone := by
  cases ha : c.allowEmpty with
  | true => rw [h.allowEmpty ha, h'.allowEmpty ha]
  | false => rw [h.failIfNone ha, h'.failIfNone ha]

/-- No setting is left open. -/
theorem unique (h : c.Overlays s t) (h' : c.Overlays s t') : t = t' := by
  have hhost : t.host = t'.host := h.host.unique h'.host
  have hport : t.port = t'.port := h.port.unique h'.port
  have hscheme : t.scheme = t'.scheme := h.scheme.unique h'.scheme
  have htags : t.tags = t'.tags := h.tags.unique h'.tags
  have hconsumers : t.consumers = t'.consumers := h.consumers.unique h'.consumers
  have hfail := h.failIfNone_unique h'
  have hlookup : t.lookup = t'.lookup := h.lookup.trans h'.lookup.symm
  have htimeout : t.timeout = t'.timeout := h.timeout.trans h'.timeout.symm
  have hcredentials := h.credentials_unique h'
  cases t
  cases t'
  simp_all only

/-- What came of the flags once comes of them again. -/
theorem again (h : c.Overlays s t) : c.Overlays t t where
  host := h.host.again
  port := h.port.again
  scheme := h.scheme.again
  tags := h.tags.again
  consumers := h.consumers.again
  allowEmpty := h.allowEmpty
  failIfNone _ := rfl
  lookup := rfl
  timeout := rfl
  untouched _ := rfl
  credentials hg := by
    obtain ⟨a, ha, hover⟩ := h.credentials hg
    exact ⟨a, ha, ha ▸ hover.again⟩

end Overlays

theorem overlays_settings (c : BrokerCommand) (s : BrokerSettings) :
    c.Overlays s (c.settings s) where
  host := supersedes_iff.2 rfl
  port := supersedes_iff.2 rfl
  scheme := supersedes_iff.2 rfl
  tags := replaces_iff.2 rfl
  consumers := replaces_iff.2 rfl
  allowEmpty h := by simp [settings, h]
  failIfNone h := by simp [settings, h]
  lookup := rfl
  timeout := rfl
  untouched h := if_neg (mt setsCredentials_iff.1 h)
  credentials h := overlaysCredentials_credentials h s.credentials

/-- **The settings of a command are those that its flags make of what it starts from.** -/
theorem overlays_iff : c.Overlays s t ↔ t = c.settings s := by
  constructor
  · intro h
    exact h.unique (overlays_settings c s)
  · rintro rfl
    exact overlays_settings c s

theorem settings_settings (c : BrokerCommand) (s : BrokerSettings) :
    c.settings (c.settings s) = c.settings s :=
  (overlays_iff.1 (overlays_settings c s).again).symm

/-! ## Building settings -/

/-- The settings that the command starts from: those in its settings file, or else the defaults. -/
inductive StartsFrom (c : BrokerCommand) (files : Files) : BrokerSettings → Prop
  | file {path : String} {s : BrokerSettings} (hc : c.config = some path)
      (h : BrokerSettings.ofFile files path = .ok s) : StartsFrom c files s
  | defaults (hc : c.config = none) : StartsFrom c files .default

theorem StartsFrom.start_eq (h : c.StartsFrom files s) : c.start files = .ok s := by
  cases h with
  | file hc h => simp only [start, hc, h]
  | defaults hc => simp only [start, hc]

/-- The settings of the command, or what is wrong with its settings file. -/
def build (c : BrokerCommand) (files : Files) : Except Failure BrokerSettings :=
  (c.start files).map c.settings

theorem build_of_startsFrom (h : c.StartsFrom files s) : c.build files = .ok (c.settings s) := by
  rw [build, h.start_eq]
  rfl

/-- What the program does for the command goes by the settings that are built. -/
theorem ofInvocation_of_build {env : Environment} (h : c.build files = .ok t) :
    Plan.ofInvocation env files (.broker c) =
      ⟨t.timeout, c.outcome t (Lookup.namedOrVariables env files t.lookup)⟩ := by
  obtain ⟨s, hs, rfl⟩ := map_eq_ok_iff.1 h
  simp only [Plan.ofInvocation, hs]

/-- **What flags make of settings**, for every settings file that can be read and every combination
of flags.

The command has settings, and they are what `Overlays` says: a flag takes the place of the setting
it is about, the tags and the consumers as a whole; settings without flags stay as they are, and so
do the credentials unless one of their flags is given.  There is only one such outcome.

A combination of flags can be written as a command line, which is read as this combination again,
unless the path of the settings file is empty: that cannot be asked for at all.  Whatever command
line asks for the combination, the program loads pacts with the settings that were built.

With the same flags the settings that came out come out again, also when they are read from a file
that holds them. -/
theorem build_overlays (c : BrokerCommand) (files : Files) (s : BrokerSettings)
    (h : c.StartsFrom files s) :
    ∃ t, c.build files = .ok t ∧ c.Overlays s t ∧ (∀ t', c.Overlays s t' → t' = t) ∧
      (Invocation.ofArguments c.arguments = .ok (.broker c) ∨
        c.config = some "" ∧ ∀ arguments, Invocation.ofArguments arguments ≠ .ok (.broker c)) ∧
      (∀ env arguments, Invocation.ofArguments arguments = .ok (.broker c) →
        Plan.ofArguments env files arguments =
          ⟨t.timeout, c.outcome t (Lookup.namedOrVariables env files t.lookup)⟩) ∧
      c.settings t = t ∧
      ∀ files' path, BrokerSettings.ofFile files' path = .ok t →
        { c with config := some path }.build files' = .ok t := by
  have hbuild := build_of_startsFrom h
  have hover := overlays_settings c s
  have hagain := settings_settings c s
  refine ⟨c.settings s, hbuild, hover, fun t' h' => h'.unique hover,
    Invocation.ofArguments_arguments_or c, fun env arguments harguments => ?_, hagain,
    fun files' path hfile => ?_⟩
  · rw [Plan.ofArguments, harguments]
    exact ofInvocation_of_build hbuild
  · -- the path of the settings file is no flag that settings are about
    have hstart : StartsFrom { c with config := some path } files' (c.settings s) :=
      .file rfl hfile
    rw [build_of_startsFrom hstart]
    exact congrArg Except.ok hagain

/-! ## A sample -/

namespace Sample

/-- The text of a settings file that sets a host, a tag and a user. -/
def settingsText : String := "host: broker\ntags: [main]\nauthentication:\n  username: alice\n"

/-- A disk with the settings file. -/
def settingsDisk : Files :=
  (Files.Tree.empty.withFile "pacts.yaml" settingsText.toUTF8).files

/-- The settings in the file. -/
def inFile : BrokerSettings :=
  { BrokerSettings.default with
    host := "broker", tags := ["main"], credentials := some ⟨none, "alice", "", ""⟩ }

/-- A command with a port and a token. -/
def tokenCommand : BrokerCommand :=
  { provider := "store", config := some "pacts.yaml", host := none, port := some "8080"
    scheme := none, tags := [], consumers := [], authScheme := none, username := none
    password := none, token := some "t0k", allowEmpty := true, json := false }

theorem startsFrom_inFile : tokenCommand.StartsFrom settingsDisk inFile := by
  have hread : (BrokerSettings.ofFile settingsDisk "pacts.yaml").toOption = some inFile := by
    decide +kernel
  refine .file rfl ?_
  cases h : BrokerSettings.ofFile settingsDisk "pacts.yaml" with
  | error e => simp [h, Except.toOption] at hread
  | ok s => simpa [h, Except.toOption] using hread

end Sample

/-- The user in the file stays where a token is given, and so do the host and the tags. -/
theorem build_overlays_of_token :
    Sample.tokenCommand.StartsFrom Sample.settingsDisk Sample.inFile ∧
      Sample.tokenCommand.build Sample.settingsDisk = .ok
        { BrokerSettings.default with
          host := "broker", port := "8080", tags := ["main"], failIfNone := false
          credentials := some ⟨none, "alice", "", "t0k"⟩ } ∧
      Invocation.ofArguments ["broker", "--provider=store", "--config=pacts.yaml", "--port=8080",
        "--token=t0k", "--allow-empty"] = .ok (.broker Sample.tokenCommand) := by
  obtain ⟨t, hbuild, hover, -, hline, -⟩ :=
    build_overlays Sample.tokenCommand Sample.settingsDisk Sample.inFile Sample.startsFrom_inFile
  refine ⟨Sample.startsFrom_inFile, ?_, ?_⟩
  · rw [hbuild, overlays_iff.1 hover]
    refine congrArg Except.ok ?_
    decide
  · rcases hline with hline | ⟨hempty, -⟩
    · exact hline
    · revert hempty
      decide

end BrokerCommand

end Pacts.Command
