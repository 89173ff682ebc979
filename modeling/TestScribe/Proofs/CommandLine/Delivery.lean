import TestScribe.Proofs.CommandLine.Arguments
import TestScribe.Proofs.CommandLine.Generating
import TestScribe.Proofs.Machine.Destination
import TestScribe.Proofs.Session.Keyless
/-!
Tests that go to a file.  The file holds what would be printed, and it is the only one that
changes; a run that fails changes none.
-/

namespace TestScribe.CommandLine

section Preparing

variable {surroundings : Surroundings} {tree : FileTree} {answer : Answering}
  {generation : Generation}

/-- What is prepared is made of the source text, if there is one. -/
theorem preparedIn_cases (surroundings : Surroundings) (tree : FileTree) (answer : Answering)
    (generation : Generation) :
    ((tree.run (readSource (.inMemory surroundings) generation.source)).1 = none ∧
        preparedIn surroundings tree answer generation =
          .error (.unusableFile generation.source.title [])) ∨
      ∃ code framework settings,
        (tree.run (readSource (.inMemory surroundings) generation.source)).1 = some code ∧
        preparedIn surroundings tree answer generation =
          .ofMade (Session.generate ⟨code, framework, generation.selection⟩ settings answer) := by
  have hsettings := observes_settingsFor surroundings generation.isHeuristicOnly
  rw [preparedIn, prepare, (observes_readSource surroundings _).run_bind]
  cases (tree.run (readSource (.inMemory surroundings) generation.source)).1 with
  | none => exact .inl ⟨rfl, rfl⟩
  | some code =>
      rw [(observes_frameworkFor surroundings generation).run_bind, hsettings.run_bind]
      exact .inr ⟨code, _, _, rfl, rfl⟩

/-- Nothing that is prepared ends a run well without a product. -/
theorem exit_of_preparedIn_error {outcome : Outcome}
    (herror : preparedIn surroundings tree answer generation = .error outcome) :
    outcome.exit = 1 := by
  rcases preparedIn_cases surroundings tree answer generation with
    ⟨-, hnone⟩ | ⟨code, framework, settings, -, hmade⟩
  · rw [hnone] at herror
    cases herror
    rfl
  · rw [hmade, Prepared.ofMade] at herror
    split at herror
    · cases herror
      rfl
    · cases herror

/-- A product is the test file of the function that is selected. -/
theorem product_of_preparedIn_ok {product : Product} {sent : List Request}
    (hok : preparedIn surroundings tree answer generation = .ok (product, sent)) :
    ∃ code framework,
      (tree.run (readSource (.inMemory surroundings) generation.source)).1 = some code ∧
      Session.select (extract code) (Session.effectiveSelection generation.selection) =
        .ok product.function ∧
      product.test = TestFile.assemble framework product.function product.cases := by
  rcases preparedIn_cases surroundings tree answer generation with
    ⟨-, hnone⟩ | ⟨code, framework, settings, hcode, hmade⟩
  · rw [hnone] at hok
    cases hok
  · rw [hmade, Prepared.ofMade] at hok
    split at hok
    · cases hok
    · next found hfound =>
      cases hok
      refine ⟨code, framework, hcode, ?_⟩
      cases hselect : Session.select (extract code)
          (Session.effectiveSelection generation.selection) with
      | error failure =>
          have hfailed := @Session.generate_of_select_error
            ⟨code, framework, generation.selection⟩ settings answer failure hselect
          rw [hfailed] at hfound
          cases hfound
      | ok function =>
          obtain ⟨made, hresult, rfl, -, htest⟩ := @Session.generate_of_select_ok
            ⟨code, framework, generation.selection⟩ function hselect settings answer
          rw [hresult] at hfound
          cases hfound
          exact ⟨rfl, htest⟩

end Preparing

section Observing

variable (surroundings : Surroundings) (answer : Answering)

theorem observes_list (source : Source) : Observes (list (.inMemory surroundings) source) := by
  refine (observes_readSource surroundings source).bind fun code => ?_
  cases code with
  | none => exact observes_pure _
  | some code =>
      dsimp only
      split <;> exact observes_pure _

theorem observes_handle : Observes (handle (.inMemory surroundings) answer) := by
  refine (observes_readSource surroundings .standardInput).bind fun text => ?_
  cases text with
  | none => exact observes_pure _
  | some text =>
      exact (Machine.observes_settings surroundings).bind fun settings => observes_pure _

theorem observes_providers : Observes (providers (.inMemory surroundings)) :=
  (Machine.observes_settings surroundings).bind fun _ =>
    Observes.bind (fun _ => rfl) fun _ => observes_pure _

/-- Only the generating command changes anything on the machine. -/
theorem observes_run {arguments : List String}
    (hother : ∀ generation, Command.ofArguments arguments ≠ .ok (.generate generation)) :
    Observes (run (.inMemory surroundings) answer arguments) := by
  rw [run]
  split
  · next command hcommand =>
    cases command with
    | generate generation => exact absurd hcommand (hother generation)
    | list source => exact observes_list surroundings source
    | handle => exact observes_handle surroundings answer
    | providers => exact observes_providers surroundings
  · exact observes_pure _
  · exact observes_pure _
  · exact observes_pure _

end Observing

section Delivering

variable (surroundings : Surroundings) (tree : FileTree)

/-- Without a file the test is printed. -/
theorem run_printing (answer : Answering) (generation : Generation) {product : Product}
    {sent : List Request}
    (hok : preparedIn surroundings tree answer generation = .ok (product, sent)) :
    tree.run (generate (.inMemory surroundings) answer { generation with out := none }) =
      (.success (product.test ++ "\n") "" sent, tree) := by
  have hsame : preparedIn surroundings tree answer { generation with out := none } =
      .ok (product, sent) := hok
  rw [run_generate, hsame]
  rfl

/-- With a file the test is written to where it is wanted. -/
theorem run_deliver {out : Path} {product : Product} {isWritten : Bool} {after : FileTree}
    (hwrite : tree.run ((Machine.inMemory surroundings).writeTestFile
      (Machine.destination tree out product.function.name) product.test) = (isWritten, after))
    (sent : List Request) :
    tree.run (deliver (.inMemory surroundings) (some out) product sent) =
      (if isWritten then .success "" ("wrote " ++
          (Machine.destination tree out product.function.name).text ++ "\n") sent
        else .unusableFile (Machine.destination tree out product.function.name).text sent,
        after) := by
  have hpath : tree.run ((Machine.inMemory surroundings).testFilePath out product.function.name) =
      (Machine.destination tree out product.function.name, tree) := rfl
  rw [deliver, FileTree.run_bind, hpath, FileTree.run_bind, hwrite, FileTree.run_pure]

/-- The ways in which generating ends on a tree. -/
inductive Ends (answer : Answering) (generation : Generation) : Outcome → FileTree → Prop where
  /-- There is no product. -/
  | failed {outcome : Outcome}
      (hprepared : preparedIn surroundings tree answer generation = .error outcome) :
      Ends answer generation outcome tree
  /-- The test is printed. -/
  | printed {product : Product} {sent : List Request}
      (hprepared : preparedIn surroundings tree answer generation = .ok (product, sent))
      (hout : generation.out = none) :
      Ends answer generation (.success (product.test ++ "\n") "" sent) tree
  /-- The test is written to its file. -/
  | written {product : Product} {sent : List Request} {out : Path} {after : FileTree}
      (hprepared : preparedIn surroundings tree answer generation = .ok (product, sent))
      (hout : generation.out = some out)
      (hwrite : tree.run ((Machine.inMemory surroundings).writeTestFile
        (Machine.destination tree out product.function.name) product.test) = (true, after)) :
      Ends answer generation (.success "" ("wrote " ++
        (Machine.destination tree out product.function.name).text ++ "\n") sent) after
  /-- The test cannot be written. -/
  | unwritten {product : Product} {sent : List Request} {out : Path} {after : FileTree}
      (hprepared : preparedIn surroundings tree answer generation = .ok (product, sent))
      (hout : generation.out = some out)
      (hwrite : tree.run ((Machine.inMemory surroundings).writeTestFile
        (Machine.destination tree out product.function.name) product.test) = (false, after)) :
      Ends answer generation
        (.unusableFile (Machine.destination tree out product.function.name).text sent) after

theorem ends_generate (answer : Answering) (generation : Generation) :
    Ends surroundings tree answer generation
      (tree.run (generate (.inMemory surroundings) answer generation)).1
      (tree.run (generate (.inMemory surroundings) answer generation)).2 := by
  rw [run_generate]
  cases hprepared : preparedIn surroundings tree answer generation with
  | error outcome => exact .failed hprepared
  | ok made =>
      obtain ⟨product, sent⟩ := made
      rw [finish]
      cases hout : generation.out with
      | none => exact .printed hprepared hout
      | some out =>
          rcases hwrite : tree.run ((Machine.inMemory surroundings).writeTestFile
            (Machine.destination tree out product.function.name) product.test) with
            ⟨isWritten, after⟩
          rw [run_deliver surroundings tree hwrite]
          cases isWritten with
          | true => exact .written hprepared hout hwrite
          | false => exact .unwritten hprepared hout hwrite

section Ends

variable {surroundings tree} {answer : Answering} {generation : Generation} {outcome : Outcome}
  {after : FileTree}

/-- A run that ends badly leaves all files as they are. -/
theorem Ends.file_iff (hends : Ends surroundings tree answer generation outcome after)
    (hexit : outcome.exit ≠ 0) (place : Place) (text : String) :
    after.entry? place = some (.file text) ↔ tree.entry? place = some (.file text) := by
  cases hends with
  | failed => rfl
  | printed => rfl
  | written => exact absurd rfl hexit
  | unwritten hprepared hout hwrite =>
      exact (Machine.grown_writeTestFile hwrite).file_iff place text

/-- A run that ends well delivers what would be printed. -/
theorem Ends.delivered (hends : Ends surroundings tree answer generation outcome after)
    {out : Path} (hout : generation.out = some out) (hexit : outcome.exit = 0) :
    ∃ code function text place,
      (tree.run (readSource (.inMemory surroundings) generation.source)).1 = some code ∧
      Session.select (extract code) (Session.effectiveSelection generation.selection) =
        .ok function ∧
      tree.run (generate (.inMemory surroundings) answer { generation with out := none }) =
        (.success text "" outcome.sent, tree) ∧
      Machine.Delivered tree out function.name text place after := by
  cases hends with
  | failed hprepared =>
      rw [exit_of_preparedIn_error hprepared] at hexit
      cases hexit
  | printed hprepared hnone =>
      rw [hnone] at hout
      cases hout
  | unwritten => cases hexit
  | @written product sent _ _ hprepared hsome hwrite =>
      obtain rfl := Option.some.inj (hsome.symm.trans hout)
      obtain ⟨code, framework, hcode, hselect, htest⟩ := product_of_preparedIn_ok hprepared
      have hname := isWord_of_mem_extract (Session.mem_of_select hselect)
      obtain ⟨hpath, place, hfollow, hwritten⟩ := Machine.written_writeTestFile hwrite
      rw [htest, Machine.fileText_assemble, ← htest] at hwritten
      exact ⟨code, product.function, product.test ++ "\n", place, hcode, hselect,
        run_printing surroundings tree answer generation hprepared,
        Machine.delivered_of_written hname hpath hfollow hwritten⟩

end Ends

/-- What holds of runs with a file for the test. -/
structure DeliveryContract (answer : Answering) : Prop where
  /-- The arguments may name the file before everything else that they ask for. -/
  asked : ∀ arguments generation out, out ≠ "" →
    Command.ofArguments ("generate" :: arguments) = .ok (.generate generation) →
      generation.out = none →
        Command.ofArguments ("generate" :: ("--out=" ++ out) :: arguments) =
          .ok (.generate { generation with out := some (Path.ofText out) })
  /-- A run that ends well delivers what it would print without a file, and nothing else. -/
  written : ∀ arguments generation out outcome after,
    Command.ofArguments arguments = .ok (.generate generation) → generation.out = some out →
      tree.run (run (.inMemory surroundings) answer arguments) = (outcome, after) →
        outcome.exit = 0 → ∃ code function text place,
          (tree.run (readSource (.inMemory surroundings) generation.source)).1 = some code ∧
          Session.select (extract code) (Session.effectiveSelection generation.selection) =
            .ok function ∧
          tree.run (generate (.inMemory surroundings) answer { generation with out := none }) =
            (.success text "" outcome.sent, tree) ∧
          Machine.Delivered tree out function.name text place after
  /-- A run that ends badly leaves all files as they are. -/
  failed : ∀ arguments outcome after,
    tree.run (run (.inMemory surroundings) answer arguments) = (outcome, after) →
      outcome.exit ≠ 0 → ∀ place text,
        after.entry? place = some (.file text) ↔ tree.entry? place = some (.file text)

/-- Tests go to the file that is asked for, as they would be printed. -/
theorem delivery_contract (answer : Answering) :
    DeliveryContract surroundings tree answer where
  asked _ _ _ hout hbare hfree := ofArguments_out hout hbare hfree
  written := by
    intro arguments generation out outcome after hgenerate hout hrun hexit
    have hends := ends_generate surroundings tree answer generation
    rw [run_eq _ _ hgenerate, runCommand] at hrun
    rw [hrun] at hends
    exact hends.delivered hout hexit
  failed := by
    intro arguments outcome after hrun hexit
    by_cases hgenerate : ∃ generation, Command.ofArguments arguments = .ok (.generate generation)
    · obtain ⟨generation, hgenerate⟩ := hgenerate
      have hends := ends_generate surroundings tree answer generation
      rw [run_eq _ _ hgenerate, runCommand] at hrun
      rw [hrun] at hends
      exact hends.file_iff hexit
    · have hsame := observes_run surroundings answer (not_exists.mp hgenerate) tree
      rw [hrun] at hsame
      obtain rfl : after = tree := hsame
      exact fun _ _ => Iff.rfl

end Delivering

section Passing

def passingSurroundings : Surroundings := ⟨[], "function f(a) \x7b\x7d", ⟨true, ["home"]⟩⟩

def passingTree : FileTree := .empty ["work"]

/-- A path that passes a directory and steps back from it. -/
def passingPath : Path := ⟨false, ["new", "..", "x.js"]⟩

/-- The tree with the directory that the path passes, and a text in the file. -/
def passedTree (text : String) : FileTree :=
  ⟨["work"], [(["x.js", "work"], .file text), (["new", "work"], .directory),
    (["work"], .directory)]⟩

theorem ofArguments_passing :
    Command.ofArguments ["generate", "-", "--out", "new/../x.js"] =
      .ok (.generate ⟨.standardInput, none, none, some passingPath, false⟩) := by
  rfl

theorem destination_passing (name : String) :
    Machine.destination passingTree passingPath name = passingPath := by
  rfl

theorem run_writeTestFile_passing (text : String) :
    passingTree.run ((Machine.inMemory passingSurroundings).writeTestFile passingPath text) =
      (true, passedTree (Machine.fileText text)) := by
  rfl

theorem prepared_passing (answer : Answering) : ∃ product sent,
    preparedIn passingSurroundings passingTree answer
      ⟨.standardInput, none, none, some passingPath, false⟩ = .ok (product, sent) := by
  have hextract : extract passingSurroundings.input =
      [⟨"f", ["a"], false, "function f(a) \x7b\x7d"⟩] := by decide
  have hselect := congrArg (Session.select · none) hextract
  rcases preparedIn_cases passingSurroundings passingTree answer
    ⟨.standardInput, none, none, some passingPath, false⟩ with
    ⟨hread, -⟩ | ⟨code, framework, settings, hread, hmade⟩
  · cases hread
  · cases hread
    obtain ⟨product, hproduct, -⟩ := @Session.generate_of_select_ok
      ⟨passingSurroundings.input, framework, none⟩ _ hselect settings answer
    rw [hmade, Prepared.ofMade, hproduct]
    exact ⟨product, _, rfl⟩

/-- A directory that is only passed is made as well, and does not lie above the file. -/
theorem run_passing : ∃ outcome after,
    passingTree.run (run (.inMemory passingSurroundings) Session.unreachable
      ["generate", "-", "--out", "new/../x.js"]) = (outcome, after) ∧ outcome.exit = 0 ∧
    ¬ ∃ place, ∀ other, other ≠ place → after.entry? other = passingTree.entry? other ∨
      passingTree.entry? other = none ∧ after.entry? other = some .directory ∧
        other <:+ place := by
  obtain ⟨product, sent, hprepared⟩ := prepared_passing Session.unreachable
  have hwrite : passingTree.run ((Machine.inMemory passingSurroundings).writeTestFile
      (Machine.destination passingTree passingPath product.function.name) product.test) =
        (true, passedTree (Machine.fileText product.test)) := by
    rw [destination_passing, run_writeTestFile_passing]
  rw [run_eq _ _ ofArguments_passing, runCommand, run_generate, hprepared, finish,
    run_deliver passingSurroundings passingTree hwrite]
  refine ⟨_, _, rfl, rfl, ?_⟩
  rintro ⟨place, hothers⟩
  have hplace : ["x.js", "work"] = place := by
    by_contra hne
    rcases hothers _ hne with hsame | ⟨-, hdirectory, -⟩
    · cases hsame
    · cases hdirectory
  subst hplace
  rcases hothers ["new", "work"] (by decide) with hsame | ⟨-, -, habove⟩
  · cases hsame
  · exact absurd habove (by decide)

end Passing

end TestScribe.CommandLine
