import TestScribe.Url.Form
import TestScribe.Url.Host
/-!
Addresses.  An address is taken apart at fixed marks: the fragment after the first
`#`, the query after the first `?` before it, the authority after two slashes, and
the path, whose dot segments are resolved.
-/

namespace TestScribe

/-- The user name and password before a host, encoded. -/
structure UserInfo where
  name : List Char
  password : List Char
  deriving DecidableEq, Repr

/-- Where an address leads: user, host and port. -/
structure Authority where
  user : UserInfo
  host : Option Host
  port : Option Nat
  deriving DecidableEq, Repr

/-- The path of an address: a text without structure, or segments. -/
inductive UrlPath where
  | opaqueText (text : List Char)
  | segments (list : List (List Char))
  deriving DecidableEq, Repr

structure Url where
  scheme : List Char
  authority : Option Authority
  path : UrlPath
  query : Option (List Char)
  fragment : Option (List Char)
  deriving DecidableEq, Repr

namespace Url

/-! Writing -/

/-- The text of user and password, with the sign that parts them from the host. -/
def printUser (user : UserInfo) : List Char :=
  let password := if user.password.isEmpty then [] else ':' :: user.password
  if user.name.isEmpty && user.password.isEmpty then []
  else user.name ++ password ++ ['@']

def printAuthority (authority : Authority) : List Char :=
  let host :=
    match authority.host with
    | none => []
    | some host => host.print
  let port :=
    match authority.port with
    | none => []
    | some port => ':' :: Nat.toDigits 10 port
  '/' :: '/' :: printUser authority.user ++ host ++ port

def printPath : UrlPath → List Char
  | .opaqueText text => text
  | .segments list => list.flatMap fun segment => '/' :: segment

/-- The text of the part that a mark begins, if there is one. -/
def printPart (mark : Char) : Option (List Char) → List Char
  | none => []
  | some text => mark :: text

/-- A path that begins with two slashes would read as an authority; where there is
none, `/.` keeps them apart. -/
def printBody (url : Url) : List Char :=
  match url.authority, url.path with
  | some authority, path => printAuthority authority ++ printPath path
  | none, .segments ([] :: second :: more) =>
      ['/', '.'] ++ printPath (.segments ([] :: second :: more))
  | none, path => printPath path

def print (url : Url) : List Char :=
  url.scheme ++ ':' :: printBody url ++ printPart '?' url.query ++
    printPart '#' url.fragment

def text (url : Url) : String := String.ofList url.print

/-- The address with one more pair in its query. -/
def withPair (url : Url) (name value : String) : Url :=
  { url with query := some (Form.append url.query name.toList value.toList) }

/-! Reading -/

/-- Schemes with hosts by rule and a known port. -/
def defaultPort? (scheme : List Char) : Option Nat :=
  [("http", 80), ("https", 443), ("ws", 80), ("wss", 443), ("ftp", 21)].lookup
    (String.ofList scheme)

def isWeb (scheme : List Char) : Bool := (defaultPort? scheme).isSome

def isFile (scheme : List Char) : Bool := scheme = "file".toList

/-- The text without controls and spaces at its ends. -/
def trim (text : List Char) : List Char :=
  let isOuter (c : Char) := c.toNat ≤ 32
  ((text.dropWhile isOuter).reverse.dropWhile isOuter).reverse

/-- Tabs and line breaks, which an address is read without. -/
def isBreak (c : Char) : Bool := c == '\t' || c == '\n' || c == '\r'

/-- The text without tabs and line breaks. -/
def withoutBreaks (text : List Char) : List Char := text.filter (!isBreak ·)

/-- The text before the first `mark`, and the text after it if there is one. -/
def cut (mark : Char) (text : List Char) : List Char × Option (List Char) :=
  match text.dropWhile (· != mark) with
  | [] => (text, none)
  | _ :: after => (text.takeWhile (· != mark), some after)

/-- The scheme in lower case, and the text after its colon. -/
def scheme? (text : List Char) : Option (List Char × List Char) :=
  let isSchemeChar (c : Char) := c.isAlphanum || c == '+' || c == '-' || c == '.'
  let (before, after?) := cut ':' text
  let scheme := withoutBreaks before
  match after? with
  | some after =>
      if scheme.head?.any Char.isAlpha && scheme.all isSchemeChar then
        some (scheme.map Char.toLower, after)
      else none
  | none => none

/-- A character between segments; in web and file addresses the backslash is one. -/
def isSlash (isSpecial : Bool) (c : Char) : Bool := c == '/' || (isSpecial && c == '\\')

/-- User and host of an authority: the last `@` parts them. -/
def splitUser (authority : List Char) : Option (List Char) × List Char :=
  let host := (authority.reverse.takeWhile (· != '@')).reverse
  if host.length = authority.length then (none, authority)
  else (some (authority.take (authority.length - host.length - 1)), host)

def parseUser (text : List Char) : UserInfo :=
  let (name, password) := cut ':' text
  ⟨Percent.encode Percent.inUserInfo name,
    Percent.encode Percent.inUserInfo (password.getD [])⟩

/-- Host and port of an authority: the first colon outside brackets parts them. -/
def splitPort (inBrackets : Bool) : List Char → List Char × Option (List Char)
  | [] => ([], none)
  | c :: rest =>
      if c == ':' && !inBrackets then ([], some rest)
      else
        let inner := if c == '[' then true else if c == ']' then false else inBrackets
        let (host, port) := splitPort inner rest
        (c :: host, port)

/-- A port, digits up to 65535 or nothing, and what a backslash after it begins; the
scheme's own port is left out. -/
def parsePort (scheme : List Char) (text : List Char) :
    Except UrlFault (Option Nat × List Char) :=
  let (digits, rest) := text.span Char.isDigit
  let port := digits.foldl (fun value c => value * 10 + (c.toNat - '0'.toNat)) 0
  if 65535 < port || !rest.head?.all (· == '\\') then .error .invalidPort
  else if digits.isEmpty || defaultPort? scheme = some port then .ok (none, rest)
  else .ok (some port, rest)

/-- The host of an authority, by the kind of address; only addresses that are not web
addresses can do without. -/
def parseHost (scheme : List Char) (text : List Char) (hasPort : Bool) :
    Except UrlFault (Option Host) :=
  if text.isEmpty then
    if isWeb scheme || hasPort then .error .emptyHost else .ok none
  else if isWeb scheme then (Host.parse text).map some
  else (Host.parseOpaque text).map some

/-- An authority and what follows its port; `isLast` tells that nothing follows the
text. -/
def parseAuthority (scheme : List Char) (text : List Char) (isLast : Bool) :
    Except UrlFault (Authority × List Char) := do
  let (userText, rest) := splitUser text
  if userText = some [] && rest.isEmpty && !isLast then throw .emptyHost
  let user := parseUser (userText.getD [])
  let (hostText, portText) := splitPort false rest
  let host ← parseHost scheme hostText portText.isSome
  let (port, after) ←
    match portText with
    | none => pure (none, [])
    | some portText => parsePort scheme portText
  if host.isNone && !(printUser user).isEmpty then throw .emptyHost
  return (⟨user, host, port⟩, after)

/-- A segment that names the same place, its point perhaps encoded. -/
def isSingleDot (segment : List Char) : Bool :=
  [".", "%2e"].contains (String.ofList (segment.map Char.toLower))

/-- A segment that names the place above. -/
def isDoubleDot (segment : List Char) : Bool :=
  ["..", "%2e.", ".%2e", "%2e%2e"].contains (String.ofList (segment.map Char.toLower))

def isDrive (segment : List Char) : Bool :=
  match segment with
  | [letter, mark] => letter.isAlpha && (mark == ':' || mark == '|')
  | _ => false

/-- A segment that nothing climbs above: a drive, perhaps with a backslash behind it. -/
def isFixed (segment : List Char) : Bool :=
  isDrive (segment.take 2) && (segment.drop 2).head?.all (· == '\\')

/-- The drive at the beginning of a segment that a break parts from the rest, and the
rest. -/
def brokenDrive? (segment : List Char) : Option (List Char × List Char) :=
  match segment.dropWhile isBreak with
  | letter :: more =>
      match more.dropWhile isBreak with
      | ':' :: next :: more =>
          let rest := withoutBreaks more
          if letter.isAlpha && isBreak next && !rest.isEmpty then some ([letter, ':'], rest)
          else none
      | _ => none
  | [] => none

/-- The segments above the last one; those that are fixed stay. -/
def shorten (segments : List (List Char)) : List (List Char) :=
  if segments.getLast?.any isFixed then segments else segments.dropLast

/-- A path that is being read: its segments so far, and whether it begins with the drive
of a file. -/
structure Walk where
  segments : List (List Char)
  hasDrive : Bool
  deriving DecidableEq, Repr

/-- Reads a segment, which may hold breaks; `isLast` tells that no slash follows it.  A
dot segment at the end leaves an empty one.  The first segment of a file may be a drive,
which is written with a colon. -/
def Walk.step (isFile isLast : Bool) (walk : Walk) (written : List Char) : Walk :=
  let segment := withoutBreaks written
  let atStart := isFile && walk.segments.isEmpty
  let ended (segments : List (List Char)) := if isLast then segments ++ [[]] else segments
  match if atStart then brokenDrive? written else none with
  | some (drive, rest) =>
      { walk with segments := [drive, Percent.encode Percent.inPath rest] }
  | none =>
      if isDoubleDot segment then
        { walk with segments := ended (shorten walk.segments) }
      else if isSingleDot segment then { walk with segments := ended walk.segments }
      else if atStart && isDrive segment then ⟨[segment.take 1 ++ [':']], true⟩
      else
        { walk with segments := walk.segments ++ [Percent.encode Percent.inPath segment] }

def Walk.run (isFile : Bool) (walk : Walk) : List (List Char) → Walk
  | [] => walk
  | segment :: more => (walk.step isFile more.isEmpty segment).run isFile more

def splitSlashes (isSpecial : Bool) (text : List Char) : List (List Char) :=
  text.splitOnP (isSlash isSpecial)

/-- The path text after its first slash, where breaks may stand before the slash. -/
def afterSlash? (isSpecial : Bool) (text : List Char) : Option (List Char) :=
  match text.dropWhile isBreak with
  | c :: rest => if isSlash isSpecial c then some rest else none
  | [] => none

def walkPath (scheme : List Char) (text : List Char) : Walk :=
  Walk.run (isFile scheme) ⟨[], false⟩ (splitSlashes (isWeb scheme || isFile scheme) text)

/-- The segments of a path text; a slash before the first one may be missing. -/
def parsePath (scheme : List Char) (text : List Char) : List (List Char) :=
  (walkPath scheme ((afterSlash? (isWeb scheme || isFile scheme) text).getD text)).segments

def parseAfterSlashes (scheme : List Char) (isLast : Bool) (text : List Char) :
    Except UrlFault (Option Authority × UrlPath) := do
  let isSpecial := isWeb scheme
  let authorityText := text.takeWhile (!isSlash isSpecial ·)
  let pathText := text.dropWhile (!isSlash isSpecial ·)
  let (authority, after) ←
    parseAuthority scheme authorityText (isLast && pathText.isEmpty)
  let pathText := after ++ pathText
  if pathText.isEmpty && !isSpecial then return (some authority, .segments [])
  return (some authority, .segments (parsePath scheme pathText))

/-- Without the empty segments at the beginning of a path, except for one at its end. -/
def dropEmpty : List (List Char) → List (List Char)
  | [] :: second :: more => dropEmpty (second :: more)
  | segments => segments

/-- The authority of a file on this machine. -/
def noHost : Authority := ⟨⟨[], []⟩, none, none⟩

/-- The host of a file address; this machine's own name is none. -/
def parseFileHost (text : List Char) : Except UrlFault (Option Host) := do
  if text.isEmpty then return none
  let host ← Host.parse text
  return if host = .domain "localhost".toList then none else some host

/-- Authority and path of a file address: a host only after two slashes and where no
drive stands.  Where there is no host, the slash after it is part of the path. -/
def parseFile (text : List Char) : Except UrlFault (Option Authority × UrlPath) := do
  let scheme := "file".toList
  let afterTwo? := (afterSlash? true text).bind (afterSlash? true)
  let (host, walk) ←
    match afterTwo? with
    | none => pure (none, walkPath scheme ((afterSlash? true text).getD text))
    | some rest => do
        let hostText := withoutBreaks (rest.takeWhile (!isSlash true ·))
        let pathText := rest.dropWhile (!isSlash true ·)
        if isDrive hostText then pure (none, walkPath scheme rest)
        else
          match ← parseFileHost hostText with
          | none => pure (none, walkPath scheme pathText)
          | some host =>
              let walk := walkPath scheme ((afterSlash? true pathText).getD pathText)
              pure (if walk.hasDrive then none else some host, walk)
  return (some { noHost with host }, .segments (dropEmpty walk.segments))

/-- Authority and path of an address; `isLast` tells that neither query nor fragment
follows. -/
def parseBody (scheme : List Char) (isLast : Bool) (text : List Char) :
    Except UrlFault (Option Authority × UrlPath) :=
  if isFile scheme then parseFile text
  else if isWeb scheme then
    parseAfterSlashes scheme isLast ((withoutBreaks text).dropWhile (isSlash true))
  else
    let text := withoutBreaks text
    match text with
    | '/' :: '/' :: rest => parseAfterSlashes scheme isLast rest
    | '/' :: _ => .ok (none, .segments (parsePath scheme text))
    | _ => .ok (none, .opaqueText (Percent.encode Percent.isControl text))

def parse (text : String) : Except UrlFault Url := do
  let (text, fragment) := cut '#' (trim text.toList)
  let (text, query) := cut '?' text
  match scheme? text with
  | none => throw .relative
  | some (scheme, text) => do
      let isLast := fragment.isNone && query.isNone
      let (authority, path) ← parseBody scheme isLast text
      let querySet :=
        if isWeb scheme || isFile scheme then Percent.inWebQuery else Percent.inQuery
      return {
        scheme, authority, path
        query := query.map (Percent.encode querySet ∘ withoutBreaks)
        fragment := fragment.map (Percent.encode Percent.inFragment ∘ withoutBreaks) }

end Url

end TestScribe
