import TestScribe.Proofs.CommandLine.Arguments
import TestScribe.Proofs.CommandLine.Generating
import TestScribe.Proofs.Session.Keyless
/-!
Heuristic cases without a configuration.  With settings that hold no usable credential, or with
none at all, no provider is asked and the settings play no part; a run that is asked for
heuristic cases only makes all settings such settings, wherever they come from.
-/

namespace TestScribe

namespace Session

theorem isKeyless_withoutKey (settings : Except Failure Settings) :
    IsKeyless (settings.map Settings.withoutKey) := by
  cases settings with
  | error failure => rintro usable ⟨⟩
  | ok settings =>
      rintro usable ⟨⟩
      rfl

end Session

structure Configuration where
  environment : Environment
  /-- The text of the config file, if there is one. -/
  file : Option String

def Configuration.settings (configuration : Configuration) : Except Failure Settings :=
  configuration.environment.settings <|
    match configuration.file with
    | none => .empty
    | some text => .ofText text

/-- The settings that a run uses, without a credential if no provider is to be asked. -/
def Configuration.settingsFor (configuration : Configuration) (isHeuristicOnly : Bool) :
    Except Failure Settings :=
  if isHeuristicOnly then configuration.settings.map Settings.withoutKey
  else configuration.settings

theorem isKeyless_of_heuristicOnly {isHeuristicOnly : Bool} (honly : isHeuristicOnly = true)
    (configuration : Configuration) :
    Session.IsKeyless (configuration.settingsFor isHeuristicOnly) := by
  rw [Configuration.settingsFor, if_pos honly]
  exact Session.isKeyless_withoutKey configuration.settings

def Machine.configured {m : Type → Type} [Monad m] (machine : Machine m)
    (configuration : Configuration) : Machine m :=
  { machine with
    environment := pure configuration.environment
    configText := pure configuration.file }

namespace CommandLine

section Actions

variable {m : Type → Type} [Monad m] [LawfulMonad m] (machine : Machine m)

theorem settingsFor_configured (configuration : Configuration) (isHeuristicOnly : Bool) :
    settingsFor (machine.configured configuration) isHeuristicOnly =
      pure (configuration.settingsFor isHeuristicOnly) := by
  simp only [settingsFor, Machine.settings, Machine.defaults, Machine.configured, pure_bind,
    Configuration.settingsFor, Configuration.settings]
  cases configuration.file <;> simp only [pure_bind]

/-- The settings play no part if they hold no usable credential. -/
theorem prepare_of_keyless {settings others : Except Failure Settings}
    (hkey : Session.IsKeyless settings) (hothers : Session.IsKeyless others)
    (answer answer' : Answering) (generation : Generation) :
    prepare machine (pure settings) answer generation =
      prepare machine (pure others) answer' generation := by
  simp only [prepare, pure_bind, Session.generate_of_keyless hkey hothers _ answer answer']

/-- A configuration matters only for the settings that it gives. -/
theorem generate_configured (configuration : Configuration) (answer : Answering)
    (generation : Generation) :
    generate (machine.configured configuration) answer generation =
      prepare machine (pure (configuration.settingsFor generation.isHeuristicOnly)) answer
        generation >>= finish machine generation.out := by
  rw [generate_eq, settingsFor_configured]
  rfl

end Actions

section Memory

variable (surroundings : Surroundings) (tree : FileTree)

/-- What a run of the arguments gives on a tree with a configuration. -/
def runConfigured (configuration : Configuration) (answer : Answering)
    (arguments : List String) : Outcome × FileTree :=
  tree.run (run ((Machine.inMemory surroundings).configured configuration) answer arguments)

def configurationIn : Configuration :=
  ⟨surroundings.environment, tree.read? (surroundings.configHome.join Machine.configFile)⟩

/-- The settings of a machine in memory are those of the configuration that is found. -/
theorem run_settings :
    (tree.run (Machine.inMemory surroundings).settings).1 =
      (configurationIn surroundings tree).settings := by
  have hread : tree.run (Machine.inMemory surroundings).configText =
      ((configurationIn surroundings tree).file, tree) := rfl
  rw [Machine.settings, Machine.defaults, Observes.run_bind fun _ => rfl, FileTree.run_bind,
    FileTree.run_bind, hread, Configuration.settings]
  cases (configurationIn surroundings tree).file <;> rfl

theorem run_settingsFor (isHeuristicOnly : Bool) :
    (tree.run (settingsFor (.inMemory surroundings) isHeuristicOnly)).1 =
      (configurationIn surroundings tree).settingsFor isHeuristicOnly := by
  rw [settingsFor, (Machine.observes_settings surroundings).run_bind, run_settings]
  rfl

/-- The settings are looked up on the tree as it is. -/
theorem run_prepare {settings : StateM FileTree (Except Failure Settings)}
    (hsettings : Observes settings) (answer : Answering) (generation : Generation) :
    tree.run (prepare (.inMemory surroundings) settings answer generation) =
      tree.run (prepare (.inMemory surroundings) (pure (tree.run settings).1) answer
        generation) := by
  rw [prepare, prepare, (observes_readSource surroundings _).run_bind,
    (observes_readSource surroundings _).run_bind]
  split
  · rfl
  · rw [(observes_frameworkFor surroundings generation).run_bind,
      (observes_frameworkFor surroundings generation).run_bind, hsettings.run_bind, pure_bind]

/-- A machine in memory is one with the configuration that is found. -/
theorem run_found {arguments : List String} {generation : Generation}
    (hgenerate : Command.ofArguments arguments = .ok (.generate generation)) (answer : Answering) :
    tree.run (run (.inMemory surroundings) answer arguments) =
      runConfigured surroundings tree (configurationIn surroundings tree) answer arguments := by
  have hobserves := observes_settingsFor surroundings generation.isHeuristicOnly
  rw [runConfigured, run_eq _ _ hgenerate, run_eq _ _ hgenerate, runCommand, runCommand,
    generate_configured, generate_eq, FileTree.run_bind, FileTree.run_bind,
    run_prepare surroundings tree hobserves, run_settingsFor]

/-- A delivery sends nothing further. -/
theorem run_deliver_sent (out : Option Path) (product : Product) (sent : List Request) :
    (tree.run (deliver (.inMemory surroundings) out product sent)).1.sent = sent := by
  cases out with
  | none => rfl
  | some out =>
      rw [deliver, FileTree.run_bind, FileTree.run_bind, FileTree.run_pure]
      dsimp only
      split <;> rfl

theorem run_finish_sent (out : Option Path) (made : Traced (Except Failure Product)) :
    (tree.run (finish (.inMemory surroundings) out (.ofMade made))).1.sent = made.sent := by
  rw [Prepared.ofMade]
  split
  · rfl
  · exact run_deliver_sent surroundings tree out _ made.sent

section Generation

variable {surroundings tree} {configuration : Configuration} {arguments : List String}
  {generation : Generation}

theorem runConfigured_eq (hgenerate : Command.ofArguments arguments = .ok (.generate generation))
    (answer : Answering) :
    runConfigured surroundings tree configuration answer arguments =
      tree.run (prepare (.inMemory surroundings)
        (pure (configuration.settingsFor generation.isHeuristicOnly)) answer generation >>=
          finish (.inMemory surroundings) generation.out) := by
  rw [runConfigured, run_eq _ _ hgenerate, runCommand, generate_configured]

/-- Without a usable credential nothing is sent. -/
theorem runConfigured_sent
    (hgenerate : Command.ofArguments arguments = .ok (.generate generation))
    (hkey : Session.IsKeyless (configuration.settingsFor generation.isHeuristicOnly))
    (answer : Answering) :
    (runConfigured surroundings tree configuration answer arguments).1.sent = [] := by
  rw [runConfigured_eq hgenerate,
    (observes_prepare surroundings (observes_pure _) answer generation).run_bind, prepare,
    (observes_readSource surroundings _).run_bind]
  split
  · rfl
  · rw [(observes_frameworkFor surroundings generation).run_bind, pure_bind, FileTree.run_pure,
      run_finish_sent, Session.generate_sent_keyless hkey]

end Generation

/-- What holds of runs that are asked for heuristic cases only, and of the same runs without
being asked for them. -/
structure HeuristicOnlyContract : Prop where
  /-- The arguments may ask for it before everything else that they ask for. -/
  asked : ∀ arguments generation,
    Command.ofArguments ("generate" :: arguments) = .ok (.generate generation) →
      generation.isHeuristicOnly = false →
        Command.ofArguments ("generate" :: "--heuristic-only" :: arguments) =
          .ok (.generate { generation with isHeuristicOnly := true })
  /-- The configuration of a machine in memory is its environment and the file that it finds. -/
  found : ∀ arguments generation answer,
    Command.ofArguments arguments = .ok (.generate generation) →
      tree.run (run (.inMemory surroundings) answer arguments) =
        runConfigured surroundings tree (configurationIn surroundings tree) answer arguments
  /-- Whatever is configured, and whatever a provider would answer, the runs end in the same way
  and leave the same tree. -/
  independent : ∀ arguments generation,
    Command.ofArguments arguments = .ok (.generate generation) →
      generation.isHeuristicOnly = true →
        ∀ configuration other answer answer',
          runConfigured surroundings tree configuration answer arguments =
            runConfigured surroundings tree other answer' arguments
  /-- No provider is asked. -/
  silent : ∀ arguments generation,
    Command.ofArguments arguments = .ok (.generate generation) →
      generation.isHeuristicOnly = true →
        ∀ configuration answer,
          (runConfigured surroundings tree configuration answer arguments).1.sent = []
  /-- Arguments that ask for the same otherwise give the same, if no credential is configured. -/
  keyless : ∀ arguments others generation,
    Command.ofArguments arguments = .ok (.generate generation) →
      generation.isHeuristicOnly = true →
        Command.ofArguments others =
          .ok (.generate { generation with isHeuristicOnly := false }) →
            ∀ configuration, Session.IsKeyless configuration.settings →
              ∀ other answer answer',
                runConfigured surroundings tree configuration answer others =
                  runConfigured surroundings tree other answer' arguments

/-- Runs that are asked for heuristic cases only do not depend on the configuration. -/
theorem heuristicOnly_contract : HeuristicOnlyContract surroundings tree where
  asked _ _ hbare hfree := ofArguments_heuristicOnly hbare hfree
  found _ _ answer hgenerate := run_found surroundings tree hgenerate answer
  independent := by
    intro arguments generation hgenerate honly configuration other answer answer'
    rw [runConfigured_eq hgenerate, runConfigured_eq hgenerate,
      prepare_of_keyless _ (isKeyless_of_heuristicOnly honly configuration)
        (isKeyless_of_heuristicOnly honly other) answer answer' generation]
  silent := by
    intro arguments generation hgenerate honly configuration answer
    exact runConfigured_sent hgenerate (isKeyless_of_heuristicOnly honly configuration) answer
  keyless := by
    intro arguments others generation hgenerate honly hothers configuration hkey other answer
      answer'
    have hsame := prepare_of_keyless (.inMemory surroundings) hkey
      (isKeyless_of_heuristicOnly honly other) answer answer' generation
    rw [runConfigured_eq hothers, runConfigured_eq hgenerate, ← hsame]
    rfl

end Memory

end CommandLine

end TestScribe
