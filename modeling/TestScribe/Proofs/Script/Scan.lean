import TestScribe.Json.Meaning
import TestScribe.Proofs.Text.Characters
import TestScribe.Source.Form
import TestScribe.Text.Octets
/-!
The tokens of a script, by the lexical rules of ES2019 for words, string literals in single
and double quotes, brackets and comments that end with their line.  Literals have to stand on
one line: a raw line feed or carriage return in a literal is refused, after a backslash too.
The scanner is a state machine over characters, so that a text is scanned part by part.
-/

namespace TestScribe.Script

/-- A token of a script.  Blanks and comments are none. -/
inductive Token where
  | word (letters : List Char)
  | literal (pieces : List Piece)
  | opening (c : Char)
  | closing (c : Char)
  | mark (c : Char)
  deriving DecidableEq, Repr

inductive Inside where
  | text
  /-- After a backslash. -/
  | escape
  /-- After the escape of the character zero, which no digit may follow. -/
  | zero
  /-- Before `left + 1` more digits of a code unit. -/
  | unit (left value : Nat)
  /-- After the mark of a code unit with four digits or in braces. -/
  | unicode
  /-- After the opening brace of a code. -/
  | brace
  /-- After digits of a code in braces. -/
  | braced (value : Nat)
  deriving DecidableEq, Repr

/-- What the scanner is in the middle of; what it has read of it stands latest first. -/
inductive Mode where
  | code
  | word (latest : List Char)
  | slash
  | comment
  | literal (quote : Char) (latest : List Piece) (inside : Inside)
  deriving DecidableEq, Repr

/-- The state of the scanner: the tokens so far, the latest first, and its mode. -/
structure Scanner where
  latest : List Token
  mode : Mode
  deriving DecidableEq, Repr

def isWordChar (c : Char) : Bool :=
  Source.isNameChar c || (128 ≤ c.toNat && !Text.isBlank c)

/-- A word, which may be a number. -/
def isWordText (text : List Char) : Bool := !text.isEmpty && text.all isWordChar

def isLineEnd (c : Char) : Bool :=
  c == '\n' || c == '\r' || c == '\u2028' || c == '\u2029'

def singleEscape? (c : Char) : Option Char :=
  match c with
  | '\'' => some '\''
  | '"' => some '"'
  | '\\' => some '\\'
  | 'b' => some '\x08'
  | 'f' => some '\x0c'
  | 'n' => some '\n'
  | 'r' => some '\r'
  | 't' => some '\t'
  | 'v' => some '\x0b'
  | _ => none

/-- The piece of a code in braces, which may be half a pair. -/
def pieceOfCode (code : Nat) : Piece :=
  if Piece.isHigh code || Piece.isLow code then .unit code else .plain (Char.ofNat code)

namespace Scanner

/-- Begins with a character outside any token. -/
def enter (latest : List Token) (c : Char) : Scanner :=
  if isWordChar c then ⟨latest, .word [c]⟩
  else if c == '\'' || c == '"' then ⟨latest, .literal c [] .text⟩
  else if c == '/' then ⟨latest, .slash⟩
  else if c == '(' || c == '[' || c == '{' then ⟨.opening c :: latest, .code⟩
  else if c == ')' || c == ']' || c == '}' then ⟨.closing c :: latest, .code⟩
  else if Text.isBlank c then ⟨latest, .code⟩
  else ⟨.mark c :: latest, .code⟩

/-- A character of a literal outside its escapes. -/
def stepText (latest : List Token) (quote : Char) (pieces : List Piece) (c : Char) :
    Option Scanner :=
  if c == quote then some ⟨.literal pieces.reverse :: latest, .code⟩
  else if c == '\\' then some ⟨latest, .literal quote pieces .escape⟩
  else if c == '\n' || c == '\r' then none
  else some ⟨latest, .literal quote (.plain c :: pieces) .text⟩

def stepEscape (c : Char) (pieces : List Piece) : Option (List Piece × Inside) :=
  match singleEscape? c with
  | some meant => some (.plain meant :: pieces, .text)
  | none =>
      if c == '0' then some (pieces, .zero)
      else if c.isDigit then none
      else if c == 'x' then some (pieces, .unit 1 0)
      else if c == 'u' then some (pieces, .unicode)
      else if c == '\n' || c == '\r' then none
      else if isLineEnd c then some (pieces, .text)
      else some (.plain c :: pieces, .text)

/-- A digit of a code in braces; codes end at `10FFFF`. -/
def stepCode (value : Nat) (c : Char) (pieces : List Piece) : Option (List Piece × Inside) :=
  (Text.hexValue? c).bind fun digit =>
    if value * 16 + digit ≤ 0x10FFFF then some (pieces, .braced (value * 16 + digit)) else none

def stepLiteral (latest : List Token) (quote : Char) (pieces : List Piece) (inside : Inside)
    (c : Char) : Option Scanner :=
  let goOn := fun (next : List Piece × Inside) =>
    Scanner.mk latest (.literal quote next.1 next.2)
  match inside with
  | .text => stepText latest quote pieces c
  | .escape => (stepEscape c pieces).map goOn
  | .zero => if c.isDigit then none else stepText latest quote (.unit 0 :: pieces) c
  | .unit left value =>
      (Text.hexValue? c).map fun digit =>
        match left with
        | 0 => goOn (.unit (value * 16 + digit) :: pieces, .text)
        | left + 1 => goOn (pieces, .unit left (value * 16 + digit))
  | .unicode =>
      if c == '{' then some (goOn (pieces, .brace))
      else (Text.hexValue? c).map fun digit => goOn (pieces, .unit 2 digit)
  | .brace => (stepCode 0 c pieces).map goOn
  | .braced value =>
      if c == '}' then some (goOn (pieceOfCode value :: pieces, .text))
      else (stepCode value c pieces).map goOn

def step (scanner : Scanner) (c : Char) : Option Scanner :=
  match scanner.mode with
  | .code => some (enter scanner.latest c)
  | .word latest =>
      if isWordChar c then some ⟨scanner.latest, .word (c :: latest)⟩
      else some (enter (.word latest.reverse :: scanner.latest) c)
  | .slash =>
      if c == '/' then some ⟨scanner.latest, .comment⟩
      else some (enter (.mark '/' :: scanner.latest) c)
  | .comment => some ⟨scanner.latest, if isLineEnd c then .code else .comment⟩
  | .literal quote pieces inside => stepLiteral scanner.latest quote pieces inside c

def run : List Char → Scanner → Option Scanner
  | [], scanner => some scanner
  | c :: rest, scanner => (scanner.step c).bind (run rest)

/-- The tokens at the end of a text; it must not end inside a literal or a comment. -/
def finish (scanner : Scanner) : Option (List Token) :=
  match scanner.mode with
  | .code => some scanner.latest.reverse
  | .word latest => some (.word latest.reverse :: scanner.latest).reverse
  | .slash => some (.mark '/' :: scanner.latest).reverse
  | .comment | .literal _ _ _ => none

end Scanner

/-- The tokens of a text that is closed: outside any literal and comment at its end. -/
def scan (text : List Char) : Option (List Token) :=
  (Scanner.run text ⟨[], .code⟩).bind Scanner.finish

example : scan "it('a\\x41\\u\x7b1F600\x7d\\0');//)\n".toList =
    some [.word "it".toList, .opening '(', .literal [.plain 'a', .unit 0x41,
      .plain (Char.ofNat 0x1F600), .unit 0], .closing ')', .mark ';'] := by decide

namespace Scanner

theorem run_append (first second : List Char) (scanner : Scanner) :
    run (first ++ second) scanner = (run first scanner).bind (run second) := by
  induction first generalizing scanner with
  | nil => rfl
  | cons c first ih =>
      rw [List.cons_append, run, run, Option.bind_assoc]
      exact congrArg _ (funext ih)

end Scanner

/-- The text is scanned from one place outside any token to another, with the tokens. -/
def Scans (text : List Char) (tokens : List Token) : Prop :=
  ∀ held, Scanner.run text ⟨held, .code⟩ = some ⟨tokens.reverse ++ held, .code⟩

/-- The text has the tokens where a character follows that goes on with no word. -/
def ScansUpTo (text : List Char) (tokens : List Token) : Prop :=
  ∀ held c rest, isWordChar c = false →
    Scanner.run (text ++ c :: rest) ⟨held, .code⟩ =
      Scanner.run (c :: rest) ⟨tokens.reverse ++ held, .code⟩

section Parts

variable {text more : List Char} {tokens further : List Token}

theorem Scans.append (htext : Scans text tokens) (hmore : Scans more further) :
    Scans (text ++ more) (tokens ++ further) := by
  intro held
  rw [Scanner.run_append, htext, Option.bind_some, hmore, List.reverse_append,
    List.append_assoc]

theorem Scans.upTo (htext : Scans text tokens) : ScansUpTo text tokens := by
  intro held c rest _
  rw [Scanner.run_append, htext, Option.bind_some]

/-- A text that goes on with no word closes the text before it. -/
theorem ScansUpTo.append {c : Char} (htext : ScansUpTo text tokens)
    (hmore : Scans (c :: more) further) (hc : isWordChar c = false) :
    Scans (text ++ c :: more) (tokens ++ further) := by
  intro held
  rw [htext held c more hc, hmore, List.reverse_append, List.append_assoc]

theorem ScansUpTo.append_upTo {c : Char} (htext : ScansUpTo text tokens)
    (hmore : ScansUpTo (c :: more) further) (hc : isWordChar c = false) :
    ScansUpTo (text ++ c :: more) (tokens ++ further) := by
  intro held x rest hx
  rw [List.append_assoc, List.cons_append, htext held c (more ++ x :: rest) hc,
    ← List.cons_append, hmore _ x rest hx, List.reverse_append, List.append_assoc]

theorem Scans.append_upTo (htext : Scans text tokens) (hmore : ScansUpTo more further) :
    ScansUpTo (text ++ more) (tokens ++ further) := by
  intro held c rest hc
  rw [List.append_assoc, Scanner.run_append, htext, Option.bind_some, hmore _ c rest hc,
    List.reverse_append, List.append_assoc]

/-- A text of tokens is closed at its end. -/
theorem Scans.scan_eq (htext : Scans text tokens) : scan text = some tokens := by
  rw [scan, htext]
  simp [Scanner.finish]

end Parts

theorem run_word {letters : List Char} (hletters : ∀ c ∈ letters, isWordChar c = true)
    (held : List Token) (latest rest : List Char) :
    Scanner.run (letters ++ rest) ⟨held, .word latest⟩ =
      Scanner.run rest ⟨held, .word (letters.reverse ++ latest)⟩ := by
  induction letters generalizing latest with
  | nil => rfl
  | cons c letters ih =>
      have hc : isWordChar c = true := hletters c List.mem_cons_self
      have hmore : ∀ c ∈ letters, isWordChar c = true := fun x hx =>
        hletters x (List.mem_cons_of_mem c hx)
      rw [List.cons_append, Scanner.run, Scanner.step]
      simp only [hc, ↓reduceIte, Option.bind_some]
      rw [ih hmore, List.reverse_cons, List.append_assoc]
      rfl

/-- A word goes on up to a character of another kind. -/
theorem scansUpTo_word {letters : List Char} (hletters : isWordText letters = true) :
    ScansUpTo letters [.word letters] := by
  intro held x rest hx
  cases letters with
  | nil => cases hletters
  | cons c letters =>
      have hall : ∀ y ∈ c :: letters, isWordChar y = true := by
        simpa [isWordText] using hletters
      have hc : isWordChar c = true := hall c List.mem_cons_self
      have hmore : ∀ y ∈ letters, isWordChar y = true := fun y hy =>
        hall y (List.mem_cons_of_mem c hy)
      have hfirst : Scanner.step ⟨held, .code⟩ c = some ⟨held, .word [c]⟩ := by
        simp [Scanner.step, Scanner.enter, hc]
      have hlast : Scanner.step ⟨held, .word (letters.reverse ++ [c])⟩ x =
          Scanner.step ⟨.word (c :: letters) :: held, .code⟩ x := by
        simp [Scanner.step, hx]
      rw [List.cons_append, Scanner.run, hfirst, Option.bind_some, run_word hmore,
        Scanner.run, hlast]
      rfl

/-- Inside a literal a stretch of text spells pieces, whatever the literal is. -/
def Spells (quote : Char) (text : List Char) (pieces : List Piece) : Prop :=
  ∀ held latest, Scanner.run text ⟨held, .literal quote latest .text⟩ =
    some ⟨held, .literal quote (pieces.reverse ++ latest) .text⟩

theorem Spells.append {quote : Char} {text more : List Char} {pieces further : List Piece}
    (htext : Spells quote text pieces) (hmore : Spells quote more further) :
    Spells quote (text ++ more) (pieces ++ further) := by
  intro held latest
  rw [Scanner.run_append, htext, Option.bind_some, hmore, List.reverse_append,
    List.append_assoc]

/-- A stretch that spells pieces is a literal between its quotes. -/
theorem Spells.scans {quote : Char} {text : List Char} {pieces : List Piece}
    (htext : Spells quote text pieces) (hquote : quote = '\'' ∨ quote = '"') :
    Scans (quote :: (text ++ [quote])) [.literal pieces] := by
  intro held
  have hopen : Scanner.step ⟨held, .code⟩ quote = some ⟨held, .literal quote [] .text⟩ := by
    rcases hquote with rfl | rfl <;> rfl
  have hclose : Scanner.step ⟨held, .literal quote pieces.reverse .text⟩ quote =
      some ⟨.literal pieces :: held, .code⟩ := by
    simp [Scanner.step, Scanner.stepLiteral, Scanner.stepText]
  rw [Scanner.run, hopen, Option.bind_some, Scanner.run_append, htext, Option.bind_some,
    List.append_nil, Scanner.run, hclose]
  rfl

/-- A character that stands in a literal without escape. -/
def isPlainIn (quote c : Char) : Bool :=
  c != quote && c != '\\' && c != '\n' && c != '\r'

/-- A character that needs no escape spells itself. -/
theorem spells_plain {quote c : Char} (hc : isPlainIn quote c = true) :
    Spells quote [c] [.plain c] := by
  intro held latest
  simp only [isPlainIn, Bool.and_eq_true, bne_iff_ne, ne_eq] at hc
  simp [Scanner.run, Scanner.step, Scanner.stepLiteral, Scanner.stepText, hc]

/-- What is spelled character by character is spelled as a whole. -/
theorem spells_flatMap {quote : Char} {spelling : Char → List Char} {text : List Char}
    (hspelling : ∀ c ∈ text, Spells quote (spelling c) [.plain c]) :
    Spells quote (text.flatMap spelling) (text.map .plain) := by
  induction text with
  | nil => exact fun held latest => rfl
  | cons c text ih =>
      rw [List.flatMap_cons, List.map_cons]
      exact (hspelling c List.mem_cons_self).append
        (ih fun x hx => hspelling x (List.mem_cons_of_mem c hx))

/-- Plain characters stand for the text that they are. -/
theorem text?_plain (text : String) : Piece.text? (text.toList.map .plain) = some text := by
  have hchars : ∀ letters : List Char, Piece.chars? (letters.map .plain) = some letters := by
    intro letters
    induction letters with
    | nil => rfl
    | cons c letters ih => simp [Piece.chars?, ih]
  rw [Piece.text?, hchars, Option.map_some, String.ofList_toList]

end TestScribe.Script
