import TestScribe.CommandLine.Command
import TestScribe.Proofs.Text.Characters
/-!
What arguments ask for.  Arguments are read one after another; a long switch takes the rest
of its argument behind the equals sign as its value, whatever that is.
-/

namespace TestScribe.CommandLine

/-- Everything behind the first equals sign is the value. -/
theorem Argument.ofText_long {text : String} {name value : List Char} (hne : name ≠ [])
    (hname : '=' ∉ name) (htext : text.toList = '-' :: '-' :: (name ++ '=' :: value)) :
    Argument.ofText text = .long name (some value) := by
  have hspan : (name ++ '=' :: value).span (· ≠ '=') = (name, '=' :: value) := by
    have hkeep : ∀ c ∈ name, decide (c ≠ '=') = true := by
      intro c hc
      rw [decide_eq_true_eq]
      rintro rfl
      exact hname hc
    exact Text.span_append_of_head hkeep (by simp)
  cases name with
  | nil => exact absurd rfl hne
  | cons first name =>
      rw [List.cons_append] at htext hspan
      rw [ofText, htext]
      simp only [hspan]

theorem exists_of_bind_ok {Error First Second : Type} {first : Except Error First}
    {next : First → Except Error Second} {result : Second}
    (hbind : first >>= next = .ok result) :
    ∃ value, first = .ok value ∧ next value = .ok result := by
  cases first with
  | error error => cases hbind
  | ok value => exact ⟨value, rfl, hbind⟩

section Reading

variable {allowed : List Switch} {limit : Nat} {given next : Given} {text : String}
  {rest : List String}

theorem readArguments_word (htext : Argument.ofText text = .word text)
    (hadd : given.addWord limit text = .ok next) :
    readArguments allowed limit given none (text :: rest) =
      readArguments allowed limit next none rest := by
  simp only [readArguments, htext, hadd]
  rfl

theorem readArguments_value {switch : Switch} (htext : Argument.ofText text = .word text)
    (hadd : given.addSwitch switch text = .ok next) :
    readArguments allowed limit given (some switch) (text :: rest) =
      readArguments allowed limit next none rest := by
  simp only [readArguments, htext, hadd]
  rfl

theorem readArguments_long {name : List Char} {value : Option (List Char)}
    {wanting : Option Switch} (htext : Argument.ofText text = .long name value)
    (hread : readLong allowed given name value = .ok (next, wanting)) :
    readArguments allowed limit given none (text :: rest) =
      readArguments allowed limit next wanting rest := by
  simp only [readArguments, htext, hread]
  rfl

end Reading

/-- The generating command reads all arguments behind its name. -/
theorem ofArguments_generate (arguments : List String) :
    Command.ofArguments ("generate" :: arguments) =
      readArguments Switch.generating 1 .nothing none arguments >>= fun given =>
        pure (.generate (Command.generationOf given)) := by
  have hleading : readLeading .nothing ("generate" :: arguments) =
      .ok (.nothing, "generate", arguments) := by
    have hname : Argument.ofText "generate" = .word "generate" := by decide
    rw [readLeading, hname]
  rw [Command.ofArguments, hleading]
  rfl

section Selecting

variable (framework : Framework) (selection : String)

/-- What is given with a framework, a selection and a dash. -/
def givenSelection : Given :=
  ⟨[(.framework, framework.name), (.function, selection)], ["-"]⟩

theorem readArguments_function :
    readArguments Switch.generating 1 ⟨[(.framework, framework.name)], ["-"]⟩ none
      ["--function=" ++ selection] = .ok (givenSelection framework selection) := by
  have htext : ("--function=" ++ selection).toList =
      '-' :: '-' :: ("function".toList ++ '=' :: selection.toList) := by
    rw [String.toList_append]
    rfl
  have hform := Argument.ofText_long (by decide) (by decide) htext
  have hread : readLong Switch.generating ⟨[(.framework, framework.name)], ["-"]⟩
      "function".toList (some selection.toList) =
        .ok (givenSelection framework selection, none) := by
    have hfind : Switch.generating.find? (fun switch =>
        switch.longName.toList = "function".toList) = some .function := by decide
    simp only [readLong, hfind, Switch.takesValue, Option.getD_some, String.ofList_toList]
    rfl
  rw [readArguments_long hform hread]
  rfl

/-- The framework is named by its name, and the selection may be any text. -/
theorem ofArguments_selection :
    Command.ofArguments
        ["generate", "-", "--framework", framework.name, "--function=" ++ selection] =
      .ok (.generate ⟨.standardInput, some framework, some selection, none, false⟩) := by
  have hdash : Given.addWord .nothing 1 "-" = .ok ⟨[], ["-"]⟩ := by decide
  have hwanting : readLong Switch.generating ⟨[], ["-"]⟩ "framework".toList none =
      .ok (⟨[], ["-"]⟩, some .framework) := by decide
  have hname : Argument.ofText framework.name = .word framework.name := by
    cases framework <;> decide
  have hadd : Given.addSwitch ⟨[], ["-"]⟩ .framework framework.name =
      .ok ⟨[(.framework, framework.name)], ["-"]⟩ := by
    cases framework <;> decide +kernel
  have hread : readArguments Switch.generating 1 .nothing none
      ["-", "--framework", framework.name, "--function=" ++ selection] =
        .ok (givenSelection framework selection) := by
    rw [readArguments_word (by decide) hdash, readArguments_long (by decide) hwanting,
      readArguments_value hname hadd, readArguments_function]
  have hparse : (Framework.parse framework.name).toOption = some framework := by
    cases framework <;> decide +kernel
  rw [ofArguments_generate, hread]
  show Except.ok (Command.generate ⟨_, (Framework.parse framework.name).toOption, _, _, _⟩) = _
  rw [hparse]
  rfl

end Selecting

section Before

def Given.behind (given : Given) (switch : Switch) (value : String) : Given :=
  { given with switches := (switch, value) :: given.switches }

variable {given next : Given} {allowed : List Switch} {limit : Nat} {first : Switch}
  {held : String}

theorem Given.lookup_behind {switch : Switch} (hother : switch ≠ first) :
    (given.behind first held).switches.lookup switch = given.switches.lookup switch := by
  rw [behind, List.lookup_cons, beq_eq_false_iff_ne.mpr hother]

theorem Given.addSwitch_behind {switch : Switch} {value : String}
    (hadd : given.addSwitch switch value = .ok next) (hfree : next.has first = false) :
    given.has first = false ∧
      (given.behind first held).addSwitch switch value = .ok (next.behind first held) := by
  unfold Given.addSwitch at hadd ⊢
  split at hadd
  · cases hadd
  · cases hadd
  · split at hadd
    · cases hadd
    · next hunset =>
      obtain rfl := Except.ok.inj hadd
      have hother : switch ≠ first := by
        rintro rfl
        simp [Given.has, List.lookup_append] at hfree
      rw [Given.lookup_behind hother, if_neg hunset]
      refine ⟨?_, rfl⟩
      simp only [Given.has, List.lookup_append, Option.isSome_or, Bool.or_eq_false_iff] at hfree
      exact hfree.1

theorem Given.addWord_behind {word : String} (hadd : given.addWord limit word = .ok next) :
    next.switches = given.switches ∧
      (given.behind first held).addWord limit word = .ok (next.behind first held) := by
  unfold Given.addWord at hadd ⊢
  split at hadd
  · cases hadd
  · next hroom =>
    obtain rfl := Except.ok.inj hadd
    exact ⟨rfl, if_neg hroom⟩

theorem addWords_behind {words : List String}
    (hadd : words.foldlM (fun given word => given.addWord limit word) given = .ok next) :
    next.switches = given.switches ∧
      words.foldlM (fun given word => given.addWord limit word) (given.behind first held) =
        .ok (next.behind first held) := by
  induction words generalizing given with
  | nil =>
      cases hadd
      exact ⟨rfl, rfl⟩
  | cons word words ih =>
      rw [List.foldlM_cons] at hadd ⊢
      obtain ⟨middle, hword, hwords⟩ := exists_of_bind_ok hadd
      obtain ⟨hswitches, hmiddle⟩ := Given.addWord_behind hword
      obtain ⟨hrest, hbehind⟩ := ih hwords
      rw [hmiddle]
      exact ⟨hrest.trans hswitches, hbehind⟩

/-- Reading goes on behind the switch as it does without it, unless it comes to that switch. -/
def GoesOn (first : Switch) (held : String)
    (read : Given → Except Stop (Given × Option Switch)) : Prop :=
  ∀ given next wanting, read given = .ok (next, wanting) → next.has first = false →
    given.has first = false ∧ read (given.behind first held) = .ok (next.behind first held, wanting)

theorem goesOn_wanting (wanting : Option Switch) :
    GoesOn first held fun given => .ok (given, wanting) := by
  rintro given _ _ ⟨⟩ hfree
  exact ⟨hfree, rfl⟩

theorem goesOn_error (stop : Stop) : GoesOn first held fun _ => .error stop := by
  rintro given next wanting ⟨⟩

theorem GoesOn.addSwitch {read : Given → Except Stop (Given × Option Switch)}
    (hread : GoesOn first held read) (switch : Switch) (value : String) :
    GoesOn first held fun given => given.addSwitch switch value >>= read := by
  intro given next wanting hnext hfree
  obtain ⟨middle, hadd, hrest⟩ := exists_of_bind_ok hnext
  obtain ⟨hmiddle, hbehind⟩ := hread middle next wanting hrest hfree
  obtain ⟨hgiven, hadded⟩ := Given.addSwitch_behind hadd hmiddle
  refine ⟨hgiven, ?_⟩
  dsimp only
  rw [hadded]
  exact hbehind

theorem goesOn_readLong (name : List Char) (value : Option (List Char)) :
    GoesOn first held fun given => readLong allowed given name value := by
  unfold readLong
  split
  · exact goesOn_error _
  · split
    · exact goesOn_wanting _
    · exact goesOn_error _
    · exact (goesOn_wanting none).addSwitch _ _

theorem goesOn_readLetters (letters : List Char) :
    GoesOn first held fun given => readLetters allowed given letters := by
  induction letters with
  | nil => exact goesOn_wanting none
  | cons c rest ih =>
      unfold readLetters
      split
      · exact goesOn_error _
      · split
        · split
          · exact goesOn_wanting _
          · exact (goesOn_wanting none).addSwitch _ _
          · exact (goesOn_wanting none).addSwitch _ _
        · exact ih.addSwitch _ _

theorem readArguments_behind {arguments : List String} {wanting : Option Switch}
    (hread : readArguments allowed limit given wanting arguments = .ok next)
    (hfree : next.has first = false) :
    given.has first = false ∧
      readArguments allowed limit (given.behind first held) wanting arguments =
        .ok (next.behind first held) := by
  induction arguments generalizing given wanting with
  | nil =>
      unfold readArguments at hread ⊢
      split at hread
      · cases hread
      · next hdone =>
        cases hread
        exact ⟨hfree, if_neg hdone⟩
  | cons text rest ih =>
      unfold readArguments at hread ⊢
      split at hread
      · obtain ⟨middle, hadd, hrest⟩ := exists_of_bind_ok hread
        obtain ⟨hmiddle, hbehind⟩ := ih hrest
        obtain ⟨hgiven, hadded⟩ := Given.addSwitch_behind hadd hmiddle
        exact ⟨hgiven, by rw [hadded]; exact hbehind⟩
      · cases hread
      · obtain ⟨middle, hadd, hrest⟩ := exists_of_bind_ok hread
        obtain ⟨hmiddle, hbehind⟩ := ih hrest
        obtain ⟨hswitches, hadded⟩ := Given.addWord_behind hadd
        rw [Given.has, hswitches] at hmiddle
        exact ⟨hmiddle, by rw [hadded]; exact hbehind⟩
      · obtain ⟨hswitches, hadded⟩ := addWords_behind hread
        rw [Given.has, hswitches] at hfree
        exact ⟨hfree, hadded⟩
      · obtain ⟨⟨middle, wanted⟩, hlong, hrest⟩ := exists_of_bind_ok hread
        obtain ⟨hmiddle, hbehind⟩ := ih hrest
        obtain ⟨hgiven, hadded⟩ := goesOn_readLong _ _ _ _ _ hlong hmiddle
        exact ⟨hgiven, by dsimp only at hadded ⊢; rw [hadded]; exact hbehind⟩
      · obtain ⟨⟨middle, wanted⟩, hletters, hrest⟩ := exists_of_bind_ok hread
        obtain ⟨hmiddle, hbehind⟩ := ih hrest
        obtain ⟨hgiven, hadded⟩ := goesOn_readLetters _ _ _ _ hletters hmiddle
        exact ⟨hgiven, by dsimp only at hadded ⊢; rw [hadded]; exact hbehind⟩

/-- A long switch may be put before all other arguments, unless they have it too. -/
theorem ofArguments_long {text : String} {name : List Char} {value : Option (List Char)}
    {arguments : List String} (htext : Argument.ofText text = .long name value)
    (hlong : readLong Switch.generating .nothing name value =
      .ok (Given.nothing.behind first held, none))
    (hread : readArguments Switch.generating 1 .nothing none arguments = .ok given)
    (hfree : given.has first = false) :
    Command.ofArguments ("generate" :: text :: arguments) =
      .ok (.generate (Command.generationOf (given.behind first held))) := by
  rw [ofArguments_generate, readArguments_long htext hlong, (readArguments_behind hread hfree).2]
  rfl

section Added

variable {arguments : List String} {generation : Generation}

/-- Behind the switch for heuristic cases the arguments ask for what they ask for without it, but
with heuristic cases only. -/
theorem ofArguments_heuristicOnly
    (hbare : Command.ofArguments ("generate" :: arguments) = .ok (.generate generation))
    (hfree : generation.isHeuristicOnly = false) :
    Command.ofArguments ("generate" :: "--heuristic-only" :: arguments) =
      .ok (.generate { generation with isHeuristicOnly := true }) := by
  rw [ofArguments_generate] at hbare
  obtain ⟨given, hread, hgiven⟩ := exists_of_bind_ok hbare
  cases hgiven
  have hlong : readLong Switch.generating .nothing "heuristic-only".toList none =
      .ok (Given.nothing.behind .heuristicOnly "", none) := by decide
  exact ofArguments_long (by decide) hlong hread hfree

/-- Behind the switch for a file the arguments ask for what they ask for without it, but with the
test going to that file. -/
theorem ofArguments_out {out : String} (hout : out ≠ "")
    (hbare : Command.ofArguments ("generate" :: arguments) = .ok (.generate generation))
    (hfree : generation.out = none) :
    Command.ofArguments ("generate" :: ("--out=" ++ out) :: arguments) =
      .ok (.generate { generation with out := some (Path.ofText out) }) := by
  rw [ofArguments_generate] at hbare
  obtain ⟨given, hread, hgiven⟩ := exists_of_bind_ok hbare
  cases hgiven
  have htext : ("--out=" ++ out).toList = '-' :: '-' :: ("out".toList ++ '=' :: out.toList) := by
    rw [String.toList_append]
    rfl
  have hform := Argument.ofText_long (by decide) (by decide) htext
  have hlong : readLong Switch.generating .nothing "out".toList (some out.toList) =
      .ok (Given.nothing.behind .out out, none) := by
    have hfind : Switch.generating.find? (fun switch =>
        switch.longName.toList = "out".toList) = some .out := by decide
    have hadd : Given.nothing.addSwitch .out out = .ok (Given.nothing.behind .out out) := by
      simp [Given.addSwitch, Given.nothing, Given.behind, Switch.accepts, hout]
    simp only [readLong, hfind, Switch.takesValue, Option.getD_some, String.ofList_toList, hadd]
    rfl
  have hunset : given.has .out = false := by
    rw [Given.has, Option.map_eq_none_iff.mp hfree, Option.isSome_none]
  exact ofArguments_long hform hlong hread hunset

end Added

end Before

end TestScribe.CommandLine
