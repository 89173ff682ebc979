import Mathlib.Data.List.Infix
import TestScribe.Proofs.Text.Characters
import TestScribe.Source.Extract
/-!
Line functions: the ways to write a function that begins on a line of its own, as a
grammar with parts.  A program is a sequence of them, each on a new line.
-/

namespace TestScribe

/-- What is told of a function before its text is looked at. -/
structure Signature where
  name : String
  parameters : List String
  isAsync : Bool
  deriving DecidableEq, Repr

def FunctionInfo.signature (function : FunctionInfo) : Signature :=
  ⟨function.name, function.parameters, function.isAsync⟩

namespace Source

/-- Words that are no name of a line function. -/
def reservedWords : List (List Char) :=
  ["function", "const", "let", "var", "async", "export", "default"].map String.toList

/-- Words that introduce a function; free text does not hold them. -/
def openingWords : List (List Char) :=
  ["function", "const", "let", "var"].map String.toList

/-- A name: it begins with a name start, goes on with name characters, and is not
reserved. -/
structure IsName (name : List Char) : Prop where
  start : ∃ c rest, name = c :: rest ∧ isNameStart c = true
  chars : ∀ c ∈ name, isNameChar c = true
  free : name ∉ reservedWords

instance : DecidablePred IsName := fun name =>
  decidable_of_iff ((∃ c ∈ name.head?, isNameStart c = true) ∧
    (∀ c ∈ name, isNameChar c = true) ∧ name ∉ reservedWords)
    ⟨fun ⟨⟨c, hc, hstart⟩, hchars, hfree⟩ =>
      ⟨⟨c, name.tail, (List.cons_head?_tail hc).symm, hstart⟩, hchars, hfree⟩,
    fun ⟨⟨c, rest, hname, hstart⟩, hchars, hfree⟩ => ⟨⟨c, by simp [hname], hstart⟩, hchars, hfree⟩⟩

/-- Free text, which holds no opening word. -/
def IsFree (text : List Char) : Prop := ∀ word ∈ openingWords, ¬ word <:+: text

instance : DecidablePred IsFree := fun text =>
  inferInstanceAs (Decidable (∀ word ∈ openingWords, ¬ word <:+: text))

/-- A parameter list: free text up to the closing parenthesis. -/
structure IsList (list : List Char) : Prop where
  free : IsFree list
  isOpen : ')' ∉ list

instance : DecidablePred IsList := fun list =>
  decidable_of_iff (IsFree list ∧ ')' ∉ list)
    ⟨fun ⟨hfree, hopen⟩ => ⟨hfree, hopen⟩, fun hlist => ⟨hlist.free, hlist.isOpen⟩⟩

inductive Exported where
  | no
  | plain
  | default
  deriving DecidableEq, Repr

def Exported.text : Exported → List Char
  | no => []
  | plain => "export ".toList
  | default => "export default ".toList

/-- The words of an export that may be the default. -/
def exportText (isExported : Bool) : List Char :=
  if isExported then "export ".toList else []

def asyncText (isAsync : Bool) : List Char := if isAsync then "async ".toList else []

def functionText (isGenerator : Bool) : List Char :=
  "function".toList ++ (if isGenerator then ['*'] else []) ++ [' ']

/-- `export default async function* name(list) {body}` -/
structure Declaration where
  exported : Exported
  isAsync : Bool
  isGenerator : Bool
  /-- Empty if there is none. -/
  name : List Char
  list : List Char
  body : List Char
  deriving DecidableEq, Repr

namespace Declaration

def opening (function : Declaration) : List Char :=
  function.exported.text ++ asyncText function.isAsync ++ functionText function.isGenerator

def head (function : Declaration) : List Char :=
  function.opening ++ function.name ++ '(' :: function.list ++ ") \x7b".toList

def text (function : Declaration) : List Char := function.head ++ function.body ++ ['}']

/-- Only a default export may do without a name. -/
structure WellFormed (function : Declaration) : Prop where
  name : IsName function.name ∨ function.name = [] ∧ function.exported = .default
  list : IsList function.list
  body : IsFree function.body

instance : DecidablePred WellFormed := fun function =>
  decidable_of_iff ((IsName function.name ∨ function.name = [] ∧ function.exported = .default) ∧
    IsList function.list ∧ IsFree function.body)
    ⟨fun ⟨hname, hlist, hbody⟩ => ⟨hname, hlist, hbody⟩,
      fun hfunction => ⟨hfunction.name, hfunction.list, hfunction.body⟩⟩

def signature (function : Declaration) : Signature where
  name :=
    if function.name.isEmpty then anonymousName else String.ofList function.name
  parameters := parseParameters (String.ofList function.list)
  isAsync := function.isAsync

end Declaration

inductive Keyword where
  | constant
  | lexical
  | hoisted
  deriving DecidableEq, Repr

def Keyword.text : Keyword → List Char
  | constant => "const".toList
  | lexical => "let".toList
  | hoisted => "var".toList

inductive Form where
  /-- `(list) => {` -/
  | arrow (list : List Char)
  /-- `parameter => {` -/
  | short (parameter : List Char)
  /-- `function* (list) {` -/
  | expression (isGenerator : Bool) (list : List Char)
  deriving DecidableEq, Repr

namespace Form

def text : Form → List Char
  | arrow list => '(' :: list ++ ") =>".toList
  | short parameter => parameter ++ " =>".toList
  | expression isGenerator list => functionText isGenerator ++ '(' :: list ++ [')']

/-- The parameters of a form are free text and its single parameter is a name. -/
def WellFormed : Form → Prop
  | arrow list | expression _ list => IsList list
  | short parameter => IsName parameter

instance : DecidablePred WellFormed
  | arrow _ | expression _ _ => inferInstanceAs (Decidable (IsList _))
  | short _ => inferInstanceAs (Decidable (IsName _))

/-- What stands for the parameters of a form. -/
def parameterText : Form → List Char
  | arrow list | expression _ list => list
  | short parameter => parameter

/-- The single parameter of a form begins with the letters of `async` and a dollar sign. -/
def HidesAsync : Form → Prop
  | arrow _ | expression _ _ => False
  | short parameter => "async$".toList <+: parameter

instance : DecidablePred HidesAsync
  | arrow _ | expression _ _ => inferInstanceAs (Decidable False)
  | short _ => inferInstanceAs (Decidable (_ <+: _))

def parameters : Form → List String
  | arrow list | expression _ list => parseParameters (String.ofList list)
  | short parameter => [String.ofList parameter]

end Form

/-- `export const name = async form {body}` -/
structure Binding where
  isExported : Bool
  keyword : Keyword
  name : List Char
  isAsync : Bool
  form : Form
  body : List Char
  deriving DecidableEq, Repr

namespace Binding

def opening (function : Binding) : List Char :=
  exportText function.isExported ++ function.keyword.text ++ ' ' :: function.name ++ [' ']

def head (function : Binding) : List Char :=
  function.opening ++ "= ".toList ++ asyncText function.isAsync ++ function.form.text

def text (function : Binding) : List Char :=
  function.head ++ " \x7b".toList ++ function.body ++ ['}']

structure WellFormed (function : Binding) : Prop where
  name : IsName function.name
  form : function.form.WellFormed
  body : IsFree function.body

instance : DecidablePred WellFormed := fun function =>
  decidable_of_iff
    (IsName function.name ∧ function.form.WellFormed ∧ IsFree function.body)
    ⟨fun ⟨hname, hform, hbody⟩ => ⟨hname, hform, hbody⟩,
      fun hfunction => ⟨hfunction.name, hfunction.form, hfunction.body⟩⟩

def signature (function : Binding) : Signature where
  name := String.ofList function.name
  parameters := function.form.parameters
  isAsync := function.isAsync

/-- The single parameter looks like the word `async`, which itself is missing. -/
def HidesAsync (function : Binding) : Prop :=
  function.isAsync = false ∧ function.form.HidesAsync

instance : DecidablePred HidesAsync := fun _ => inferInstanceAs (Decidable (_ ∧ _))

/-- What is found of a binding: a parameter that hides the word `async` loses it. -/
def foundSignature (function : Binding) : Signature :=
  if function.HidesAsync then
    ⟨String.ofList function.name, [String.ofList (function.form.parameterText.drop 5)], true⟩
  else function.signature

end Binding

/-- A function that begins on a line of its own. -/
inductive LineFunction where
  | declared (function : Declaration)
  | bound (function : Binding)
  deriving DecidableEq, Repr

namespace LineFunction

def text : LineFunction → List Char
  | declared function => function.text
  | bound function => function.text

def WellFormed : LineFunction → Prop
  | declared function => function.WellFormed
  | bound function => function.WellFormed

instance : DecidablePred WellFormed
  | declared function => inferInstanceAs (Decidable function.WellFormed)
  | bound function => inferInstanceAs (Decidable function.WellFormed)

def signature : LineFunction → Signature
  | declared function => function.signature
  | bound function => function.signature

/-- What is found of a line function. -/
def foundSignature : LineFunction → Signature
  | declared function => function.signature
  | bound function => function.foundSignature

/-- A binding whose single parameter looks like the word `async`. -/
def HidesAsync : LineFunction → Prop
  | declared _ => False
  | bound function => function.HidesAsync

def isDeclared : LineFunction → Bool
  | declared _ => true
  | bound _ => false

end LineFunction

/-- The text of a program: its functions, each on a new line. -/
def program (functions : List LineFunction) : List Char :=
  Text.joinLines (functions.map LineFunction.text)

/-- The functions of a program in the order in which they are listed: declarations
before bindings. -/
def listed (functions : List LineFunction) : List LineFunction :=
  functions.filter (·.isDeclared) ++ functions.filter (!·.isDeclared)

end Source

end TestScribe
