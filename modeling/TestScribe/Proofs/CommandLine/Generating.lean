import TestScribe.CommandLine.Run
import TestScribe.Proofs.Machine.Observing
/-!
Generating in two parts.  First everything is looked up and the product is made, which
changes nothing on the machine; then the product is delivered.
-/

namespace TestScribe.CommandLine

/-- What a generation comes to before it is delivered: a product with the requests that were
sent for it, or the way in which the run ends. -/
abbrev Prepared := Except Outcome (Product × List Request)

def Prepared.ofMade (made : Traced (Except Failure Product)) : Prepared :=
  match made.result with
  | .error failure => .error (.failure failure made.sent)
  | .ok product => .ok (product, made.sent)

section Parts

variable {m : Type → Type} [Monad m]

/-- Everything up to the delivery, with the settings that an action gives. -/
def prepare (machine : Machine m) (settings : m (Except Failure Settings)) (answer : Answering)
    (generation : Generation) : m Prepared := do
  match ← readSource machine generation.source with
  | none => pure (.error (.unusableFile generation.source.title []))
  | some code =>
      let framework ← frameworkFor machine generation
      let settings ← settings
      pure (.ofMade (Session.generate ⟨code, framework, generation.selection⟩ settings answer))

def finish (machine : Machine m) (out : Option Path) : Prepared → m Outcome
  | .error outcome => pure outcome
  | .ok (product, sent) => deliver machine out product sent

/-- Generating is preparing and then finishing. -/
theorem generate_eq [LawfulMonad m] (machine : Machine m) (answer : Answering)
    (generation : Generation) :
    generate machine answer generation =
      prepare machine (settingsFor machine generation.isHeuristicOnly) answer generation >>=
        finish machine generation.out := by
  rw [generate, prepare, bind_assoc]
  refine bind_congr fun code => ?_
  cases code with
  | none => rw [pure_bind, finish]
  | some code =>
      dsimp only
      rw [bind_assoc]
      refine bind_congr fun framework => ?_
      rw [bind_assoc]
      refine bind_congr fun settings => ?_
      rw [pure_bind, Prepared.ofMade]
      cases (Session.generate ⟨code, framework, generation.selection⟩ settings answer).result with
      | error failure => rfl
      | ok product => rfl

theorem run_eq {command : Command} {arguments : List String} (machine : Machine m)
    (answer : Answering) (harguments : Command.ofArguments arguments = .ok command) :
    run machine answer arguments = runCommand machine answer command := by
  rw [run, harguments]

end Parts

section Memory

variable (surroundings : Surroundings)

theorem observes_readSource (source : Source) :
    Observes (readSource (.inMemory surroundings) source) := by
  cases source with
  | standardInput => exact fun _ => rfl
  | file path => exact fun _ => rfl

theorem observes_searchStart (source : Source) :
    Observes (searchStart (.inMemory surroundings) source) := by
  cases source with
  | standardInput => exact fun _ => rfl
  | file path =>
      rw [searchStart]
      split
      · exact fun _ => rfl
      · split
        · exact fun _ => rfl
        · exact observes_pure _

theorem observes_frameworkFor (generation : Generation) :
    Observes (frameworkFor (.inMemory surroundings) generation) := by
  rw [frameworkFor]
  split
  · exact observes_pure _
  · exact (observes_searchStart surroundings _).bind fun start =>
      Machine.observes_detectFramework surroundings start

theorem observes_settingsFor (isHeuristicOnly : Bool) :
    Observes (settingsFor (.inMemory surroundings) isHeuristicOnly) :=
  (Machine.observes_settings surroundings).bind fun _ => observes_pure _

/-- Nothing on the machine changes before the delivery. -/
theorem observes_prepare {settings : StateM FileTree (Except Failure Settings)}
    (hsettings : Observes settings) (answer : Answering) (generation : Generation) :
    Observes (prepare (.inMemory surroundings) settings answer generation) := by
  refine (observes_readSource surroundings _).bind fun code => ?_
  cases code with
  | none => exact observes_pure _
  | some code =>
      exact (observes_frameworkFor surroundings generation).bind fun framework =>
        hsettings.bind fun settings => observes_pure _

/-- What a generation comes to on a tree before it is delivered. -/
def preparedIn (surroundings : Surroundings) (tree : FileTree) (answer : Answering)
    (generation : Generation) : Prepared :=
  (tree.run (prepare (.inMemory surroundings)
    (settingsFor (.inMemory surroundings) generation.isHeuristicOnly) answer generation)).1

/-- The delivery finds the tree as it was before. -/
theorem run_generate (tree : FileTree) (answer : Answering) (generation : Generation) :
    tree.run (generate (.inMemory surroundings) answer generation) =
      tree.run (finish (.inMemory surroundings) generation.out
        (preparedIn surroundings tree answer generation)) := by
  rw [generate_eq, (observes_prepare surroundings
    (observes_settingsFor surroundings _) answer generation).run_bind, preparedIn]

end Memory

end TestScribe.CommandLine
