import TestScribe.Source.FunctionInfo
import TestScribe.Pattern.Basic
/-!
The forms that introduce a function, as patterns: declarations with the keyword
`function`, bindings of a function to a name, and the places where a name is
declared.
-/

namespace TestScribe.Source

/-- The parts of a form that are kept. -/
inductive Part where
  | exportDefault
  | async
  | name
  | parameters
  deriving DecidableEq, Repr

open Pattern

def isNameChar (c : Char) : Bool := c.isAlphanum || c == '_' || c == '$'

def isNameStart (c : Char) : Bool := c.isAlpha || c == '_' || c == '$'

def word (text : String) : Pattern Part := literal text.toList

def char (c : Char) : Pattern Part := one (· == c)

def generatorMark : Pattern Part := optional (sequence [char '*', blanks])

/-- A parameter list in parentheses; it ends at the first closing one. -/
def parameterList : Pattern Part :=
  sequence [char '(', labelled .parameters (all (· != ')')), char ')']

/-- `export default async function* name(parameters): result {`, where all words but
`function` may be missing. -/
def declaration : Pattern Part :=
  sequence [
    optional (sequence [wordEdge, word "export", gap,
      optional (labelled .exportDefault (sequence [word "default", gap]))]),
    optional (sequence [wordEdge, labelled .async (word "async"), gap]),
    wordEdge, word "function", wordEdge, blanks, generatorMark,
    labelled .name (all isNameChar), blanks, parameterList, blanks,
    optional (sequence [char ':', all fun c => c != '{' && c != ';']),
    char '{']

/-- `(parameters): result =>` -/
def arrowWithList : Pattern Part :=
  sequence [parameterList, blanks,
    optional (sequence [char ':',
      oneOrMore fun c => c != '=' && c != ';' && c != '{' && c != '}']),
    word "=>"]

/-- `parameter =>` -/
def arrowWithName : Pattern Part :=
  sequence [labelled .parameters (sequence [one isNameStart, all isNameChar]),
    blanks, word "=>"]

/-- `function* name(parameters)` -/
def functionExpression : Pattern Part :=
  sequence [word "function", wordEdge, blanks, generatorMark, all isNameChar, blanks,
    parameterList]

/-- `export const name: type = async` before an arrow or a function expression, where
`let` and `var` serve as well and `export`, the type and `async` may be missing. -/
def binding : Pattern Part :=
  sequence [
    optional (sequence [wordEdge, word "export", gap]),
    wordEdge, choice (word "var") [word "const", word "let"], gap,
    labelled .name (oneOrMore isNameChar), blanks,
    optional (sequence [char ':', oneOrMore fun c => c != '=' && c != ';']),
    char '=', blanks,
    optional (sequence [labelled .async (word "async"), wordEdge, blanks]),
    choice functionExpression [arrowWithList, arrowWithName]]

/-- `export default async function`, the place of a function without a name. -/
def defaultExportSite : Pattern Part :=
  sequence [wordEdge, word "export", gap, word "default", gap,
    optional (sequence [word "async", gap]), word "function", wordEdge]

/-- The name after blanks, not continued by a name character.  The name itself may begin
with blanks. -/
def nameSite (name : List Char) : Pattern Part :=
  sequence [many Text.isBlank, literal name, orElse (one (!isNameChar ·)) textEnd]

/-- The name after the keyword `function` or its generator mark. -/
def functionSite (name : List Char) : Pattern Part :=
  sequence [wordEdge, word "function",
    orElse (sequence [blanks, char '*', nameSite name]) (nameSite name)]

/-- The name where something is assigned to it, perhaps after an annotation: not the
tail of a longer name or of a member path, and neither a comparison nor an arrow. -/
def assignmentSite (name : List Char) : Pattern Part :=
  sequence [orElse textStart (one fun c => !(isNameChar c || c == '.')), literal name,
    blanks, optional (sequence [char ':', all (· != '=')]), char '=',
    orElse (one fun c => c != '=' && c != '>') textEnd]

/-- A place where a line declares `name`. -/
def declarationSite (name : List Char) : Pattern Part :=
  if name = anonymousName.toList then defaultExportSite
  else orElse (functionSite name) (assignmentSite name)

end TestScribe.Source
