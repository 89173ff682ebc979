import TestScribe.Proofs.TestFile.Statements
/-!
The layout of the test files of heuristic cases: closed scripts with one group named after
the function, and in the group one block for every case, in order.
-/

namespace TestScribe

namespace TestFile

open Script

/-- The calls of blocks: their titles at their own depth, and below only the functions that
are called in blocks. -/
structure Titled (function : FunctionInfo) (descriptions : List String) (depth : Nat)
    (calls : List Call) : Prop where
  titles : titlesAt depth "it" calls = descriptions.map some
  others : ∀ call ∈ calls, (call.depth = depth ∧ call.callee = "it".toList) ∨
    (depth < call.depth ∧ call.callee ∈ callees function)

theorem Titled.nil (function : FunctionInfo) (depth : Nat) : Titled function [] depth [] :=
  ⟨rfl, by simp⟩

theorem Titled.append {function : FunctionInfo} {first second : List String} {depth : Nat}
    {calls more : List Call} (hcalls : Titled function first depth calls)
    (hmore : Titled function second depth more) :
    Titled function (first ++ second) depth (calls ++ more) where
  titles := by rw [titlesAt_append, hcalls.titles, hmore.titles, List.map_append]
  others call hcall := (List.mem_append.mp hcall).elim (hcalls.others call) (hmore.others call)

/-- A block has its own title and whatever its statements call. -/
theorem titled_block (function : FunctionInfo) (description : String) {depth : Nat}
    {inner : List Call} (hinner : Within (callees function) (depth + 2) inner) :
    Titled function [description] depth
      (⟨depth, "it".toList, pieces description⟩ :: inner) where
  titles := by
    have hrest : titlesAt depth "it" inner = [] :=
      titlesAt_eq_nil fun call hcall => .inl (by have := (hinner call hcall).1; omega)
    have htitle : titlesAt depth "it" [⟨depth, "it".toList, pieces description⟩] =
        [some description] := by
      simp [titlesAt, titles, Call.title?, pieces, text?_plain]
    rw [← List.singleton_append, titlesAt_append, htitle, hrest]
    rfl
  others call hcall := by
    rcases List.mem_cons.mp hcall with rfl | hlater
    · exact .inl ⟨rfl, rfl⟩
    · exact .inr ⟨by have := (hinner call hlater).1; omega, (hinner call hlater).2⟩

section Blocks

variable {function : FunctionInfo}

theorem isFlat_title (description : String) (isAsync : Bool) :
    ∃ more, IsFlat (literal description ++ ", " ++ if isAsync then "async " else "").toList
      (.literal (pieces description) :: more) := by
  have hcomma : Scans ", ".toList [.mark ','] := fun _ => rfl
  have hasync : Scans "async ".toList [.word "async".toList] := fun _ => rfl
  have htitle := (scans_literal description).append hcomma
  cases isAsync with
  | false => exact ⟨[.mark ','], by simpa using htitle.upTo, by simp [Token.isFlat]⟩
  | true =>
      exact ⟨[.mark ',', .word "async".toList], by simpa using (htitle.append hasync).upTo,
        by simp [Token.isFlat]⟩

/-- The block of a heuristic case is a closed part with the title of the case. -/
theorem closed_block (framework : Framework) (hname : Source.IsWord function.name.toList)
    {case : TestCase} (hcase : Heuristic.isDrafted case = true) :
    Closed (Titled function [case.description]) (block framework function case).toList := by
  obtain ⟨more, hhead⟩ := isFlat_title case.description (isAsyncBlock function case)
  have hword : isWordText "it".toList = true := by decide
  have hbreak : Closed.Silent "\n".toList := Closed.silent_space fun _ => rfl
  have hindent : Closed.Silent "  ".toList := Closed.silent_space fun _ => rfl
  have hend : Closed.Silent ";".toList := Closed.silent_end fun _ => rfl
  have hbody := (((closed_statements framework hname hcase).silent_append hbreak).append_silent
    hindent).braced
  have hblock := (hbody.callback hword hhead).imp fun depth calls hcalls =>
    show Titled function [case.description] depth calls by
      obtain ⟨inner, rfl, hinner⟩ := hcalls
      exact titled_block function case.description hinner
  have hclosed := (hblock.append_silent hend).silent_append hindent
  simpa [block] using hclosed

/-- The blocks of heuristic cases have the titles of the cases, in order. -/
theorem closed_blocks (framework : Framework) (hname : Source.IsWord function.name.toList)
    {cases : List TestCase} (hcases : ∀ case ∈ cases, Heuristic.isDrafted case = true) :
    Closed (Titled function (cases.map (·.description)))
      ("\n\n".intercalate (cases.map (block framework function))).toList := by
  have hbreak : Closed.Silent "\n\n".toList := Closed.silent_space fun _ => rfl
  induction cases with
  | nil => exact ⟨[], fun _ => rfl, fun _ _ => ⟨[], rfl, Titled.nil function _⟩⟩
  | cons case cases ih =>
      have hfirst := closed_block framework hname (hcases case List.mem_cons_self)
      have hmore := ih fun x hx => hcases x (List.mem_cons_of_mem case hx)
      cases cases with
      | nil => simpa using hfirst
      | cons next cases =>
          have hclosed := (hfirst.append (hmore.silent_append hbreak)).imp
            fun depth calls hcalls =>
              show Titled function (case.description :: (next :: cases).map (·.description))
                  depth calls by
                obtain ⟨first, second, rfl, htitled, hothers⟩ := hcalls
                exact htitled.append hothers
          simpa using hclosed

end Blocks

/-- The calls of a test file.  Groups stand outside any bracket and blocks inside the two
brackets of their group; a function called `describe` or `it` is called by its own name in
the blocks, further inside. -/
structure Outlined (name : String) (descriptions : List String) (calls : List Call) :
    Prop where
  group : titlesAt 0 "describe" calls = [some name]
  blocks : titlesAt 2 "it" calls = descriptions.map some
  onlyGroup : name ≠ "describe" → titles "describe" calls = [some name]
  onlyBlocks : name ≠ "it" → titles "it" calls = descriptions.map some

/-- The calls before the group. -/
def Requires (depth : Nat) (calls : List Call) : Prop :=
  ∀ call ∈ calls, call.depth = depth ∧ call.callee = "require".toList

theorem closed_preamble (framework : Framework) :
    Closed Requires (framework.preamble ++ "\n\n").toList := by
  cases framework with
  | jest => exact ⟨[], fun _ => rfl, fun _ _ => ⟨[], rfl, by simp [Requires]⟩⟩
  | mocha =>
      exact ⟨[.word "const".toList, .opening '{', .word "expect".toList, .closing '}', .mark '=',
        .word "require".toList, .opening '(', .literal (pieces "chai"), .closing ')', .mark ';'],
        fun _ => rfl, fun due latest =>
          ⟨[⟨due.length, "require".toList, pieces "chai"⟩], rfl, by simp [Requires]⟩⟩
  | vitest =>
      exact ⟨[.word "import".toList, .opening '{', .word "describe".toList, .mark ',',
        .word "it".toList, .mark ',', .word "expect".toList, .closing '}',
        .word "from".toList, .literal (pieces "vitest"), .mark ';'],
        fun _ => rfl, fun due latest => ⟨[], rfl, by simp [Requires]⟩⟩

theorem callee_ne {function : FunctionInfo} {callee : String} (hname : function.name ≠ callee)
    (hcallee : callee.toList ∉ assertionWords) {call : Call}
    (hcall : call.callee ∈ callees function) : call.callee ≠ callee.toList := by
  rintro hsame
  rw [hsame] at hcall
  rcases List.mem_cons.mp hcall with hown | hassertion
  · exact hname (String.toList_injective hown).symm
  · exact hcallee hassertion

def groupCall (function : FunctionInfo) : Call :=
  ⟨0, "describe".toList, pieces function.name⟩

section File

variable {function : FunctionInfo} {descriptions : List String} {before inner : List Call}

theorem titlesAt_group (hbefore : Requires 0 before)
    (hinner : Titled function descriptions 2 inner) :
    titlesAt 0 "describe" (before ++ groupCall function :: inner) = [some function.name] := by
  have hfirst : titlesAt 0 "describe" before = [] :=
    titlesAt_eq_nil fun call hcall => .inr (by rw [(hbefore call hcall).2]; decide)
  have hlast : titlesAt 0 "describe" inner = [] := by
    refine titlesAt_eq_nil fun call hcall => .inl ?_
    rcases hinner.others call hcall with hblock | hdeeper
    · omega
    · omega
  have hown : titlesAt 0 "describe" [groupCall function] = [some function.name] := by
    simp [titlesAt, titles, groupCall, Call.title?, pieces, text?_plain]
  rw [titlesAt_append, hfirst, ← List.singleton_append, titlesAt_append, hown, hlast]
  rfl

theorem titlesAt_blocks (hbefore : Requires 0 before)
    (hinner : Titled function descriptions 2 inner) :
    titlesAt 2 "it" (before ++ groupCall function :: inner) = descriptions.map some := by
  have hfirst : titlesAt 2 "it" before = [] :=
    titlesAt_eq_nil fun call hcall => .inl (by rw [(hbefore call hcall).1]; decide)
  have hown : titlesAt 2 "it" [groupCall function] = [] := rfl
  rw [titlesAt_append, hfirst, ← List.singleton_append, titlesAt_append, hown, hinner.titles]
  rfl

/-- A function other than the tested one and those of the framework is called at its place
only. -/
theorem depth_of_callee {callee : String} {depth : Nat} (hbefore : Requires 0 before)
    (hinner : Titled function descriptions 2 inner) (hname : function.name ≠ callee)
    (hother : callee.toList ∉ "require".toList :: assertionWords)
    (hgroup : callee = "describe" → depth = 0) (hblock : callee = "it" → depth = 2) :
    ∀ call ∈ before ++ groupCall function :: inner,
      call.callee = callee.toList → call.depth = depth := by
  intro call hcall hcallee
  rcases List.mem_append.mp hcall with hfirst | hlater
  · rw [(hbefore call hfirst).2] at hcallee
    exact absurd (hcallee ▸ List.mem_cons_self) hother
  · rcases List.mem_cons.mp hlater with rfl | hlast
    · exact (hgroup (String.toList_injective hcallee).symm).symm
    · rcases hinner.others call hlast with hown | hdeeper
      · rw [hown.2] at hcallee
        exact hown.1.trans (hblock (String.toList_injective hcallee).symm).symm
      · have hassertion : callee.toList ∉ assertionWords := fun hmem =>
          hother (List.mem_cons_of_mem _ hmem)
        exact absurd hcallee (callee_ne hname hassertion hdeeper.2)

/-- The calls of a file are outlined if those of its blocks are titled. -/
theorem outlined (hbefore : Requires 0 before) (hinner : Titled function descriptions 2 inner) :
    Outlined function.name descriptions (before ++ groupCall function :: inner) := by
  have hgroup := titlesAt_group hbefore hinner
  have hblocks := titlesAt_blocks hbefore hinner
  refine ⟨hgroup, hblocks, ?_, ?_⟩
  · intro hname
    rw [titles_eq_titlesAt, hgroup]
    exact depth_of_callee hbefore hinner hname (by decide) (fun _ => rfl) (by decide)
  · intro hname
    rw [titles_eq_titlesAt, hblocks]
    exact depth_of_callee hbefore hinner hname (by decide) (by decide) (fun _ => rfl)

end File

/-- The test file of heuristic cases is a closed script, outlined by the function and the
descriptions of the cases. -/
theorem assemble_outlined (framework : Framework) {function : FunctionInfo}
    (hname : Source.IsWord function.name.toList) {cases : List TestCase}
    (hcases : ∀ case ∈ cases, Heuristic.isDrafted case = true) :
    ∃ tokens calls, scan (assemble framework function cases).toList = some tokens ∧
      outline? tokens = some calls ∧
      Outlined function.name (cases.map (·.description)) calls := by
  have hword : isWordText "describe".toList = true := by decide
  have hcomma : Scans ", ".toList [.mark ','] := fun _ => rfl
  have hhead : IsFlat ((literal function.name).toList ++ ", ".toList)
      [.literal (pieces function.name), .mark ','] :=
    ⟨((scans_literal function.name).append hcomma).upTo, by simp [Token.isFlat]⟩
  have hbreak : Closed.Silent "\n".toList := Closed.silent_space fun _ => rfl
  have hend : Closed.Silent ";".toList := Closed.silent_end fun _ => rfl
  have hbody := (((closed_blocks framework hname hcases).silent_append hbreak).append_silent
    hbreak).braced
  have hclosed := (closed_preamble framework).append
    ((hbody.callback hword hhead).append_silent hend)
  obtain ⟨tokens, calls, hscan, hcalls, before, second, rfl, hbefore, inner, rfl, hinner⟩ :=
    hclosed.outline?_eq
  exact ⟨tokens, _, by simpa [assemble] using hscan, hcalls, outlined hbefore hinner⟩

end TestFile

end TestScribe
