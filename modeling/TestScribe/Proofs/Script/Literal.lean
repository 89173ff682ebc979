import TestScribe.Proofs.Script.Scan
/-!
Reading one string literal off the beginning of a text: its value, and what stands behind its
closing quote.  The scanner goes through the literal, and the first return to code is its end.
-/

namespace TestScribe.Script

namespace Scanner

/-- The pieces of the literal that has just been closed. -/
def closed? (scanner : Scanner) : Option (List Piece) :=
  match scanner.mode, scanner.latest with
  | .code, .literal pieces :: _ => some pieces
  | _, _ => none

/-- Reads on in a literal up to its closing quote: its pieces, and what stands behind. -/
def untilClosed? : Scanner → List Char → Option (List Piece × List Char)
  | _, [] => none
  | scanner, c :: rest =>
      (scanner.step c).bind fun next =>
        match next.closed? with
        | some pieces => some (pieces, rest)
        | none => untilClosed? next rest

theorem length_latest_enter (latest : List Token) (c : Char) :
    latest.length ≤ (enter latest c).latest.length := by
  unfold enter
  split_ifs <;> simp

theorem stepText_cases {held : List Token} {quote c : Char} {pieces : List Piece} {next : Scanner}
    (hnext : stepText held quote pieces c = some next) :
    (∃ more inside, next = ⟨held, .literal quote more inside⟩) ∨
      next = ⟨.literal pieces.reverse :: held, .code⟩ := by
  unfold stepText at hnext
  split_ifs at hnext
  · exact .inr (Option.some.inj hnext).symm
  · exact .inl ⟨_, _, (Option.some.inj hnext).symm⟩
  · exact .inl ⟨_, _, (Option.some.inj hnext).symm⟩

/-- A character of a literal either leaves it open or closes it. -/
theorem stepLiteral_cases {held : List Token} {quote c : Char} {pieces : List Piece}
    {inside : Inside} {next : Scanner}
    (hnext : stepLiteral held quote pieces inside c = some next) :
    (∃ more inside, next = ⟨held, .literal quote more inside⟩) ∨
      ∃ closed, next = ⟨.literal closed :: held, .code⟩ := by
  have hgoOn : ∀ found : Option (List Piece × Inside),
      found.map (fun next => Scanner.mk held (.literal quote next.1 next.2)) = some next →
        ∃ more inside, next = ⟨held, .literal quote more inside⟩ := by
    intro found hfound
    obtain ⟨⟨more, inside⟩, -, rfl⟩ := Option.map_eq_some_iff.mp hfound
    exact ⟨more, inside, rfl⟩
  cases inside with
  | text => exact (stepText_cases hnext).imp_right fun hclosed => ⟨_, hclosed⟩
  | escape => exact .inl (hgoOn _ hnext)
  | zero =>
      simp only [stepLiteral] at hnext
      split at hnext
      · cases hnext
      · exact (stepText_cases hnext).imp_right fun hclosed => ⟨_, hclosed⟩
  | unit left value =>
      obtain ⟨digit, -, rfl⟩ := Option.map_eq_some_iff.mp hnext
      cases left with
      | zero => exact .inl ⟨_, _, rfl⟩
      | succ left => exact .inl ⟨_, _, rfl⟩
  | unicode =>
      simp only [stepLiteral] at hnext
      split at hnext
      · exact .inl ⟨_, _, (Option.some.inj hnext).symm⟩
      · obtain ⟨digit, -, rfl⟩ := Option.map_eq_some_iff.mp hnext
        exact .inl ⟨_, _, rfl⟩
  | brace => exact .inl (hgoOn _ hnext)
  | braced value =>
      simp only [stepLiteral] at hnext
      split at hnext
      · exact .inl ⟨_, _, (Option.some.inj hnext).symm⟩
      · exact .inl (hgoOn _ hnext)

/-- Tokens that have been read stay. -/
theorem length_latest_step {scanner next : Scanner} {c : Char} (hnext : scanner.step c = some next) :
    scanner.latest.length ≤ next.latest.length := by
  obtain ⟨latest, mode⟩ := scanner
  cases mode with
  | code =>
      obtain rfl := Option.some.inj hnext
      exact length_latest_enter latest c
  | word letters =>
      simp only [step] at hnext
      split at hnext
      · obtain rfl := Option.some.inj hnext
        exact le_rfl
      · obtain rfl := Option.some.inj hnext
        exact (Nat.le_succ _).trans (length_latest_enter (.word letters.reverse :: latest) c)
  | slash =>
      simp only [step] at hnext
      split at hnext
      · obtain rfl := Option.some.inj hnext
        exact le_rfl
      · obtain rfl := Option.some.inj hnext
        exact (Nat.le_succ _).trans (length_latest_enter (.mark '/' :: latest) c)
  | comment =>
      obtain rfl := Option.some.inj hnext
      exact le_rfl
  | literal quote pieces inside =>
      rcases stepLiteral_cases hnext with ⟨more, further, rfl⟩ | ⟨closed, rfl⟩
      · exact le_rfl
      · exact Nat.le_succ _

theorem length_latest_run {text : List Char} {scanner next : Scanner}
    (hnext : run text scanner = some next) : scanner.latest.length ≤ next.latest.length := by
  induction text generalizing scanner with
  | nil =>
      obtain rfl := Option.some.inj hnext
      exact le_rfl
  | cons c text ih =>
      obtain ⟨middle, hmiddle, hrest⟩ := Option.bind_eq_some_iff.mp hnext
      exact (length_latest_step hmiddle).trans (ih hrest)

/-- A stretch that ends in the literal it began in has not closed it on the way, since the
literal would be one more token. -/
theorem untilClosed?_append {text : List Char} {held : List Token} {quote : Char}
    {pieces more : List Piece} {inside further : Inside} (rest : List Char)
    (hrun : run text ⟨held, .literal quote pieces inside⟩ =
      some ⟨held, .literal quote more further⟩) :
    untilClosed? ⟨held, .literal quote pieces inside⟩ (text ++ rest) =
      untilClosed? ⟨held, .literal quote more further⟩ rest := by
  induction text generalizing pieces inside with
  | nil =>
      cases hrun
      rfl
  | cons c text ih =>
      obtain ⟨next, hnext, htext⟩ := Option.bind_eq_some_iff.mp hrun
      rw [List.cons_append, untilClosed?, hnext, Option.bind_some]
      rcases stepLiteral_cases hnext with ⟨latest, place, rfl⟩ | ⟨closed, rfl⟩
      · exact ih htext
      · exact absurd (length_latest_run htext) (Nat.not_succ_le_self held.length)

end Scanner

/-- The value of the literal in single quotes that a text begins with, and what stands behind
its closing quote. -/
def singleQuoted? : List Char → Option (String × List Char)
  | '\'' :: text =>
      (Scanner.untilClosed? ⟨[], .literal '\'' [] .text⟩ text).bind fun (pieces, rest) =>
        (Piece.text? pieces).map (·, rest)
  | _ => none

/-- A literal is read up to the quote behind a stretch that spells it, whatever follows. -/
theorem Spells.singleQuoted?_eq {text : List Char} {pieces : List Piece} {value : String}
    (htext : Spells '\'' text pieces) (hvalue : Piece.text? pieces = some value)
    (rest : List Char) : singleQuoted? ('\'' :: (text ++ '\'' :: rest)) = some (value, rest) := by
  have hclose : Scanner.untilClosed? ⟨[], .literal '\'' pieces.reverse .text⟩ ('\'' :: rest) =
      some (pieces, rest) := by
    simp [Scanner.untilClosed?, Scanner.step, Scanner.stepLiteral, Scanner.stepText,
      Scanner.closed?]
  have hrun := htext [] []
  rw [List.append_nil] at hrun
  rw [singleQuoted?, Scanner.untilClosed?_append _ hrun, hclose, Option.bind_some]
  simp only [hvalue, Option.map_some]

example : singleQuoted? "'it\\'s\\x21' + rest".toList = some ("it's!", " + rest".toList) := by decide

end TestScribe.Script
