import TestScribe.Proofs.Script.Scan
/-!
The outline of a script: whether its brackets are closed in the order in which they are
opened, and which functions are called by name with a string literal as the first argument.
-/

namespace TestScribe.Script

/-- A call with a literal as its first argument, inside `depth` open brackets. -/
structure Call where
  depth : Nat
  callee : List Char
  pieces : List Piece
  deriving DecidableEq, Repr

/-- The text of the literal that a call passes, if it stands for one. -/
def Call.title? (call : Call) : Option String := Piece.text? call.pieces

/-- What the last tokens begin: nothing of interest, a call after its callee, or a call
after its opening parenthesis. -/
inductive Phase where
  | idle
  | named (callee : List Char)
  | called (callee : List Char)
  deriving DecidableEq, Repr

/-- The closing brackets that are due, the next first; and the calls so far, the latest
first. -/
structure Outline where
  due : List Char
  phase : Phase
  latest : List Call
  deriving DecidableEq, Repr

def closerOf (c : Char) : Char :=
  match c with
  | '(' => ')'
  | '[' => ']'
  | _ => '}'

namespace Outline

/-- The phase after an opening bracket. -/
def phaseAfter (phase : Phase) (c : Char) : Phase :=
  match phase with
  | .named callee => if c == '(' then .called callee else .idle
  | _ => .idle

def recorded (outline : Outline) (pieces : List Piece) : List Call :=
  match outline.phase with
  | .called callee => ⟨outline.due.length - 1, callee, pieces⟩ :: outline.latest
  | _ => outline.latest

/-- One token.  A closing bracket has to be the one that is due. -/
def step (outline : Outline) (token : Token) : Option Outline :=
  match token with
  | .word letters => some { outline with phase := .named letters }
  | .literal pieces => some ⟨outline.due, .idle, outline.recorded pieces⟩
  | .mark _ => some { outline with phase := .idle }
  | .opening c =>
      some ⟨closerOf c :: outline.due, phaseAfter outline.phase c, outline.latest⟩
  | .closing c =>
      match outline.due with
      | [] => none
      | next :: due => if c == next then some ⟨due, .idle, outline.latest⟩ else none

def run : List Token → Outline → Option Outline
  | [], outline => some outline
  | token :: rest, outline => (outline.step token).bind (run rest)

theorem run_append (first second : List Token) (outline : Outline) :
    run (first ++ second) outline = (run first outline).bind (run second) := by
  induction first generalizing outline with
  | nil => rfl
  | cons token first ih =>
      rw [List.cons_append, run, run, Option.bind_assoc]
      exact congrArg _ (funext ih)

end Outline

/-- The calls of a script in order, if its brackets match and all of them are closed. -/
def outline? (tokens : List Token) : Option (List Call) :=
  (Outline.run tokens ⟨[], .idle, []⟩).bind fun outline =>
    if outline.due.isEmpty then some outline.latest.reverse else none

/-- The literals passed to a function, wherever it is called. -/
def titles (callee : String) (calls : List Call) : List (Option String) :=
  (calls.filter fun call => call.callee == callee.toList).map Call.title?

/-- The literals passed to a function where it is called inside `depth` open brackets. -/
def titlesAt (depth : Nat) (callee : String) (calls : List Call) : List (Option String) :=
  titles callee (calls.filter (·.depth == depth))

section Titles

variable {callee : String} {depth : Nat} {calls : List Call}

@[simp]
theorem titles_append (first second : List Call) :
    titles callee (first ++ second) = titles callee first ++ titles callee second := by
  simp [titles]

@[simp]
theorem titlesAt_append (first second : List Call) :
    titlesAt depth callee (first ++ second) =
      titlesAt depth callee first ++ titlesAt depth callee second := by
  simp [titlesAt]

theorem titlesAt_eq_nil
    (hcalls : ∀ call ∈ calls, call.depth ≠ depth ∨ call.callee ≠ callee.toList) :
    titlesAt depth callee calls = [] := by
  simp only [titlesAt, titles, List.filter_filter, List.map_eq_nil_iff, List.filter_eq_nil_iff,
    Bool.and_eq_true, beq_iff_eq, not_and]
  intro call hcall hcallee hdepth
  exact (hcalls call hcall).elim (fun h => h hdepth) (fun h => h hcallee)

/-- A function that is called at one depth only is passed all its literals there. -/
theorem titles_eq_titlesAt
    (hcalls : ∀ call ∈ calls, call.callee = callee.toList → call.depth = depth) :
    titles callee calls = titlesAt depth callee calls := by
  rw [titlesAt, titles, titles, List.filter_filter]
  congr 1
  refine List.filter_congr fun call hcall => ?_
  by_cases hcallee : call.callee = callee.toList
  · simp [hcallee, hcalls call hcall hcallee]
  · simp [hcallee]

end Titles

/-- The tokens are a part of a script with matching brackets that begins and ends outside the
head of any call; inside `depth` open brackets it makes calls as `made depth` says. -/
def Encloses (made : Nat → List Call → Prop) (tokens : List Token) : Prop :=
  ∀ due latest, ∃ calls,
    Outline.run tokens ⟨due, .idle, latest⟩ = some ⟨due, .idle, calls.reverse ++ latest⟩ ∧
      made due.length calls

def Token.isFlat (token : Token) : Bool :=
  match token with
  | .opening _ | .closing _ => false
  | _ => true

/-- The call that a literal right after the opening parenthesis makes. -/
def headCall (depth : Nat) (callee : List Char) (tokens : List Token) : List Call :=
  match tokens with
  | .literal pieces :: _ => [⟨depth, callee, pieces⟩]
  | _ => []

section Flat

variable {tokens : List Token}

/-- Without brackets nothing is called. -/
theorem Outline.run_flat (hflat : ∀ token ∈ tokens, token.isFlat = true) (due : List Char)
    {phase : Phase} (hphase : ∀ callee, phase ≠ .called callee) (latest : List Call) :
    ∃ last, Outline.run tokens ⟨due, phase, latest⟩ = some ⟨due, last, latest⟩ := by
  induction tokens generalizing phase with
  | nil => exact ⟨phase, rfl⟩
  | cons token tokens ih =>
      have hmore : ∀ token ∈ tokens, token.isFlat = true := fun x hx =>
        hflat x (List.mem_cons_of_mem token hx)
      cases token with
      | word letters => exact ih hmore (by simp)
      | mark c => exact ih hmore (by simp)
      | literal pieces =>
          have hrecorded : Outline.recorded ⟨due, phase, latest⟩ pieces = latest := by
            cases phase with
            | called callee => exact absurd rfl (hphase callee)
            | _ => rfl
          obtain ⟨last, hlast⟩ := ih hmore (by simp : ∀ callee, Phase.idle ≠ .called callee)
          refine ⟨last, ?_⟩
          rw [Outline.run, Outline.step, hrecorded]
          exact hlast
      | opening c => exact absurd (hflat _ List.mem_cons_self) (by simp [Token.isFlat])
      | closing c => exact absurd (hflat _ List.mem_cons_self) (by simp [Token.isFlat])

/-- Right after the opening parenthesis of a call only a literal at the head is passed. -/
theorem Outline.run_arguments (hflat : ∀ token ∈ tokens, token.isFlat = true)
    (due : List Char) (callee : List Char) (latest : List Call) :
    ∃ last, Outline.run tokens ⟨')' :: due, .called callee, latest⟩ =
      some ⟨')' :: due, last, headCall due.length callee tokens ++ latest⟩ := by
  cases tokens with
  | nil => exact ⟨.called callee, rfl⟩
  | cons token tokens =>
      have hmore : ∀ token ∈ tokens, token.isFlat = true := fun x hx =>
        hflat x (List.mem_cons_of_mem token hx)
      cases token with
      | word letters => exact Outline.run_flat hmore _ (by simp) latest
      | mark c => exact Outline.run_flat hmore _ (by simp) latest
      | literal pieces =>
          exact Outline.run_flat hmore _ (by simp)
            (⟨due.length, callee, pieces⟩ :: latest)
      | opening c => exact absurd (hflat _ List.mem_cons_self) (by simp [Token.isFlat])
      | closing c => exact absurd (hflat _ List.mem_cons_self) (by simp [Token.isFlat])

end Flat

/-- The tokens of a call with arguments that are no calls. -/
def callTokens (callee : List Char) (arguments : List Token) : List Token :=
  .word callee :: .opening '(' :: (arguments ++ [.closing ')'])

/-- The tokens of a call whose last argument is a function without parameters. -/
def callbackTokens (callee : List Char) (head body : List Token) : List Token :=
  .word callee :: .opening '(' :: (head ++ .opening '(' :: .closing ')' :: .mark '=' ::
    .mark '>' :: (body ++ [.closing ')']))

namespace Encloses

variable {made : Nat → List Call → Prop} {tokens : List Token}

theorem imp {wider : Nat → List Call → Prop} (htokens : Encloses made tokens)
    (hwider : ∀ depth calls, made depth calls → wider depth calls) :
    Encloses wider tokens := by
  intro due latest
  obtain ⟨calls, hcalls, hmade⟩ := htokens due latest
  exact ⟨calls, hcalls, hwider _ _ hmade⟩

theorem append {next : Nat → List Call → Prop} {further : List Token}
    (htokens : Encloses made tokens) (hfurther : Encloses next further) :
    Encloses (fun depth calls => ∃ first second, calls = first ++ second ∧
      made depth first ∧ next depth second) (tokens ++ further) := by
  intro due latest
  obtain ⟨first, hfirst, hmade⟩ := htokens due latest
  obtain ⟨second, hsecond, hnext⟩ := hfurther due (first.reverse ++ latest)
  refine ⟨first ++ second, ?_, first, second, rfl, hmade, hnext⟩
  rw [Outline.run_append, hfirst, Option.bind_some, hsecond, List.reverse_append,
    List.append_assoc]

/-- A word before a part that begins with a word changes nothing. -/
theorem after_word {letters : List Char} (htokens : Encloses made (.word letters :: tokens))
    (before : List Char) : Encloses made (.word before :: .word letters :: tokens) :=
  htokens

theorem braced (htokens : Encloses made tokens) :
    Encloses (fun depth => made (depth + 1)) (.opening '{' :: (tokens ++ [.closing '}'])) := by
  intro due latest
  obtain ⟨calls, hcalls, hmade⟩ := htokens ('}' :: due) latest
  refine ⟨calls, ?_, hmade⟩
  show Outline.run (tokens ++ [.closing '}']) ⟨'}' :: due, .idle, latest⟩ = _
  rw [Outline.run_append, hcalls]
  rfl

theorem callback {head : List Token} (hhead : ∀ token ∈ head, token.isFlat = true)
    (htokens : Encloses made tokens) (callee : List Char) :
    Encloses (fun depth calls => ∃ inner, calls = headCall depth callee head ++ inner ∧
      made (depth + 1) inner) (callbackTokens callee head tokens) := by
  intro due latest
  obtain ⟨last, hlast⟩ := Outline.run_arguments hhead due callee latest
  obtain ⟨calls, hcalls, hmade⟩ :=
    htokens (')' :: due) (headCall due.length callee head ++ latest)
  refine ⟨headCall due.length callee head ++ calls, ?_, calls, rfl, hmade⟩
  show Outline.run (head ++ _) ⟨')' :: due, .called callee, latest⟩ = _
  rw [Outline.run_append, hlast, Option.bind_some]
  show Outline.run (tokens ++ [.closing ')']) ⟨')' :: due, .idle, _⟩ = _
  rw [Outline.run_append, hcalls]
  have hreverse : (headCall due.length callee head ++ calls).reverse =
      calls.reverse ++ headCall due.length callee head := by
    rw [List.reverse_append]
    congr 1
    unfold headCall
    split <;> rfl
  rw [hreverse, List.append_assoc]
  rfl

/-- A part from the beginning to the end is a script with its calls. -/
theorem outline?_eq (htokens : Encloses made tokens) :
    ∃ calls, outline? tokens = some calls ∧ made 0 calls := by
  obtain ⟨calls, hcalls, hmade⟩ := htokens [] []
  refine ⟨calls, ?_, hmade⟩
  rw [outline?, hcalls]
  simp

end Encloses

theorem encloses_call {arguments : List Token}
    (hflat : ∀ token ∈ arguments, token.isFlat = true) (callee : List Char) :
    Encloses (fun depth calls => calls = headCall depth callee arguments)
      (callTokens callee arguments) := by
  intro due latest
  obtain ⟨last, hlast⟩ := Outline.run_arguments hflat due callee latest
  refine ⟨headCall due.length callee arguments, ?_, rfl⟩
  show Outline.run (arguments ++ _) ⟨')' :: due, .called callee, latest⟩ = _
  rw [Outline.run_append, hlast, Option.bind_some]
  unfold headCall
  split <;> rfl

end TestScribe.Script
