import TestScribe.Framework
/-!
The switches of the command line, and reading them.  A switch has a long name, most have
a letter, and some take a value.  What comes first decides: a call for help or a fault
ends the reading.
-/

namespace TestScribe.CommandLine

inductive Switch where
  | help
  | version
  | verbose
  | quiet
  | framework
  | function
  | out
  | heuristicOnly
  deriving DecidableEq, Repr

/-- Why a command line asks for no command. -/
inductive Stop where
  | help
  | version
  /-- It is not one that this program understands. -/
  | misuse
  deriving DecidableEq, Repr

namespace Switch

/-- The name after two dashes. -/
def longName : Switch → String
  | help => "help"
  | version => "version"
  | verbose => "verbose"
  | quiet => "quiet"
  | framework => "framework"
  | function => "function"
  | out => "out"
  | heuristicOnly => "heuristic-only"

/-- The letter after one dash. -/
def letter? : Switch → Option Char
  | help => some 'h'
  | version => some 'V'
  | verbose => some 'v'
  | quiet => some 'q'
  | framework => some 'f'
  | function => some 'F'
  | out => some 'o'
  | heuristicOnly => none

def takesValue : Switch → Bool
  | framework | function | out => true
  | _ => false

def accepts (switch : Switch) (value : String) : Bool :=
  match switch with
  | framework => (Framework.parse value).toOption.isSome
  | out => !value.isEmpty
  | _ => true

/-- The switches before the name of the command. -/
def leading : List Switch := [help, version, verbose, quiet]

/-- The switches of every command. -/
def common : List Switch := [help, verbose, quiet]

/-- The switches of the command that generates tests. -/
def generating : List Switch := common ++ [framework, function, out, heuristicOnly]

end Switch

/-- What has been read of the arguments: switches with their values, and words. -/
structure Given where
  switches : List (Switch × String)
  words : List String
  deriving DecidableEq, Repr

namespace Given

def nothing : Given := ⟨[], []⟩

/-- Adds a switch; each may be given once. -/
def addSwitch (given : Given) (switch : Switch) (value : String) : Except Stop Given :=
  match switch with
  | .help => .error .help
  | .version => .error .version
  | _ =>
      if (given.switches.lookup switch).isSome || !switch.accepts value then .error .misuse
      else .ok { given with switches := given.switches ++ [(switch, value)] }

/-- Adds a word, of which there may be `limit`. -/
def addWord (given : Given) (limit : Nat) (word : String) : Except Stop Given :=
  if word.isEmpty || limit ≤ given.words.length then .error .misuse
  else .ok { given with words := given.words ++ [word] }

def has (given : Given) (switch : Switch) : Bool := (given.switches.lookup switch).isSome

end Given

inductive Argument where
  /-- Two dashes: words only after it. -/
  | separator
  | long (name : List Char) (value : Option (List Char))
  | letters (letters : List Char)
  | word (text : String)
  deriving DecidableEq, Repr

/-- The form of an argument.  A dash alone is a word. -/
def Argument.ofText (text : String) : Argument :=
  match text.toList with
  | ['-', '-'] => .separator
  | '-' :: '-' :: rest =>
      match rest.span (· ≠ '=') with
      | (name, []) => .long name none
      | (name, _ :: value) => .long name (some value)
  | '-' :: c :: rest => .letters (c :: rest)
  | _ => .word text

/-- Reads a switch by its long name; a switch that still wants its value is returned. -/
def readLong (allowed : List Switch) (given : Given) (name : List Char)
    (value : Option (List Char)) : Except Stop (Given × Option Switch) :=
  match allowed.find? fun switch => switch.longName.toList = name with
  | none => .error .misuse
  | some switch =>
      match switch.takesValue, value with
      | true, none => .ok (given, some switch)
      | false, some _ => .error .misuse
      | _, value => do
          let given ← given.addSwitch switch (String.ofList (value.getD []))
          return (given, none)

/-- Reads letters up to one that takes a value; what follows it is the value, without an
equals sign at its beginning. -/
def readLetters (allowed : List Switch) (given : Given) :
    List Char → Except Stop (Given × Option Switch)
  | [] => .ok (given, none)
  | c :: rest =>
      match allowed.find? fun switch => switch.letter? = some c with
      | none => .error .misuse
      | some switch =>
          if switch.takesValue then
            match rest with
            | [] => .ok (given, some switch)
            | '=' :: value => do
                let given ← given.addSwitch switch (String.ofList value)
                return (given, none)
            | value => do
                let given ← given.addSwitch switch (String.ofList value)
                return (given, none)
          else do
            let given ← given.addSwitch switch ""
            readLetters allowed given rest

/-- Reads the arguments of a command with at most `limit` words.  A switch that wants
its value takes the next argument, which has to be a word. -/
def readArguments (allowed : List Switch) (limit : Nat) (given : Given)
    (wanting : Option Switch) : List String → Except Stop Given
  | [] => if wanting.isSome then .error .misuse else .ok given
  | text :: rest =>
      match Argument.ofText text, wanting with
      | .word text, some switch => do
          let given ← given.addSwitch switch text
          readArguments allowed limit given none rest
      | _, some _ => .error .misuse
      | .word text, none => do
          let given ← given.addWord limit text
          readArguments allowed limit given none rest
      | .separator, none => rest.foldlM (fun given word => given.addWord limit word) given
      | .long name value, none => do
          let (given, wanting) ← readLong allowed given name value
          readArguments allowed limit given wanting rest
      | .letters letters, none => do
          let (given, wanting) ← readLetters allowed given letters
          readArguments allowed limit given wanting rest

/-- Reads the switches before the first word, and returns that word with the arguments
after it. -/
def readLeading (given : Given) : List String → Except Stop (Given × String × List String)
  | [] => .error .misuse
  | text :: rest =>
      match Argument.ofText text with
      | .word text => .ok (given, text, rest)
      | .separator => .error .misuse
      | .long name value => do
          let (given, _) ← readLong Switch.leading given name value
          readLeading given rest
      | .letters letters => do
          let (given, _) ← readLetters Switch.leading given letters
          readLeading given rest

end TestScribe.CommandLine
