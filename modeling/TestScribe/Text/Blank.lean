/-!
Blank characters and trimming.  A character is blank when it has the
White_Space property; trimming removes blanks from the ends of a text and
nothing else.
-/

namespace TestScribe.Text

/-- The characters with the White_Space property. -/
def isBlank (c : Char) : Bool :=
  let code := c.toNat
  (9 ≤ code && code ≤ 13) || code == 0x20 || code == 0x85 || code == 0xA0 ||
    code == 0x1680 || (0x2000 ≤ code && code ≤ 0x200A) || code == 0x2028 ||
    code == 0x2029 || code == 0x202F || code == 0x205F || code == 0x3000

/-- Drops the longest tail of characters that satisfy `drop`. -/
def dropTail (drop : Char → Bool) : List Char → List Char
  | [] => []
  | c :: rest =>
      match dropTail drop rest with
      | [] => if drop c then [] else [c]
      | kept => c :: kept

def trimStart (text : List Char) : List Char := text.dropWhile isBlank

def trimEnd (text : List Char) : List Char := dropTail isBlank text

def trim (text : List Char) : List Char := trimEnd (trimStart text)

end TestScribe.Text

def String.trimBlanks (text : String) : String :=
  String.ofList (TestScribe.Text.trim text.toList)

def String.allBlank (text : String) : Bool :=
  text.toList.all TestScribe.Text.isBlank
