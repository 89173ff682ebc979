import TestScribe.Framework
import TestScribe.Source.FunctionInfo
import TestScribe.TestCase.Basic
/-!
Test files.  A file has one group named after the function and in it one block for
every case, in order.  Titles stand in single quotes and are escaped.
-/

namespace TestScribe.TestFile

/-- One character inside a single-quoted literal. -/
def escapeChar (c : Char) : List Char :=
  match c with
  | '\\' => ['\\', '\\']
  | '\'' => ['\\', '\'']
  | '\n' => ['\\', 'n']
  | '\r' => ['\\', 'r']
  | c => [c]

/-- A text as it stands inside a single-quoted literal. -/
def escape (text : String) : String :=
  String.ofList (text.toList.flatMap escapeChar)

def literal (text : String) : String := "'" ++ escape text ++ "'"

def call (function : FunctionInfo) (case : TestCase) : String :=
  function.name ++ "(" ++ ", ".intercalate case.args ++ ")"

def statements (framework : Framework) (function : FunctionInfo) (case : TestCase) :
    String :=
  match case.setup with
  | some setup =>
      "    " ++ setup ++ call function case ++ ")" ++
        framework.throwCloser case.expected ++ ";\n"
  | none =>
      "    const result = " ++ (if function.isAsync then "await " else "") ++
        call function case ++ ";\n    " ++
        framework.assertEqual "result" case.expected ++ ";\n"

/-- Only a comparison of an awaited result is asynchronous. -/
def isAsyncBlock (function : FunctionInfo) (case : TestCase) : Bool :=
  function.isAsync && !case.isThrow

def block (framework : Framework) (function : FunctionInfo) (case : TestCase) : String :=
  "  it(" ++ literal case.description ++ ", " ++
    (if isAsyncBlock function case then "async " else "") ++ "() => \x7b\n" ++
    statements framework function case ++ "  \x7d);"

def assemble (framework : Framework) (function : FunctionInfo) (cases : List TestCase) :
    String :=
  framework.preamble ++ "\n\ndescribe(" ++ literal function.name ++ ", () => \x7b\n" ++
    "\n\n".intercalate (cases.map (block framework function)) ++ "\n\x7d);"

end TestScribe.TestFile
