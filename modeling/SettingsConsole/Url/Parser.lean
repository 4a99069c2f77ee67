import SettingsConsole.Url.Basic
import SettingsConsole.Url.Host

/-!
# Reading addresses

Control characters and spaces around an address are dropped, tabs and line breaks anywhere. After
the scheme of a web server any number of slashes and backslashes may stand, backslashes count as
slashes, segments of dots are resolved in the path, and characters that an address may not hold are
percent-encoded. Of an address with another scheme only the scheme is kept, if its authority is
well-formed.
-/

namespace SettingsConsole.Url

open Text

/-- What a text with a scheme is the address of. -/
inductive Address where
  /-- A web server. -/
  | web (u : Url)
  /-- Something else. -/
  | other (scheme : String)
  deriving Repr

/-- Whether a control character or a character outside ASCII has to be escaped. -/
def isControl (c : Char) : Bool := c.toNat < 32 || 126 < c.toNat

/-- The characters that a fragment may not hold. -/
def escapedInFragment (c : Char) : Bool := isControl c || " \"<>\x60".toList.contains c

/-- The characters that a query may not hold. -/
def escapedInQuery (c : Char) : Bool := isControl c || " \"#<>'".toList.contains c

/-- The characters that a path may not hold. -/
def escapedInPath (c : Char) : Bool := escapedInFragment c || "#?\x7b\x7d".toList.contains c

/-- The characters that a user name or a password may not hold. -/
def escapedInUserinfo (c : Char) : Bool := escapedInPath c || "/:;=@[\\]^|".toList.contains c

/-- The characters that count: nothing at the ends that is a control character or a space, and no
tab or line break. -/
def significant (cs : List Char) : List Char :=
  let blank (c : Char) : Bool := c.toNat ≤ 32
  let cs := ((cs.dropWhile blank).reverse.dropWhile blank).reverse
  cs.filter fun c => c != '\t' && c != '\n' && c != '\r'

/-- Whether a character may stand in a scheme after the first letter. -/
def isSchemeChar (c : Char) : Bool :=
  isAsciiLetter c || isAsciiDigit c || c == '+' || c == '-' || c == '.'

/-- Split the scheme off, in lower case. -/
def scheme? (cs : List Char) : Option (String × List Char) :=
  match cs with
  | c :: _ =>
    if isAsciiLetter c then
      match cs.dropWhile isSchemeChar with
      | ':' :: rest => some (String.ofList ((cs.takeWhile isSchemeChar).map asciiLowerChar), rest)
      | _ => none
    else none
  | [] => none

/-- Whether a character ends the authority. A backslash does in known schemes. -/
def endsAuthority (known : Bool) (c : Char) : Bool :=
  c == '/' || c == '?' || c == '#' || (known && c == '\\')

/-- Cut a list at the last occurrence of a character. -/
def cutLast? (sep : Char) (cs : List Char) : Option (List Char × List Char) :=
  (cutChars sep cs.reverse).map fun (r, l) => (l.reverse, r.reverse)

/-- User name and password with their sign. An empty password is left out with its colon. -/
def userinfoText (cs : List Char) : String :=
  let (name, password) := (cutChars ':' cs).getD (cs, [])
  let name := Percent.escape escapedInUserinfo name
  let password := Percent.escape escapedInUserinfo password
  if name.isEmpty ∧ password.isEmpty then ""
  else String.ofList (name ++ (if password.isEmpty then [] else ':' :: password) ++ ['@'])

/-- Cut the host off an authority: it ends at the first colon outside brackets. -/
def cutHost : Bool → List Char → List Char × Option (List Char)
  | _, [] => ([], none)
  | bracketed, c :: cs =>
    if c = ':' ∧ !bracketed then ([], some cs)
    else
      let inside := if c = '[' then true else if c = ']' then false else bracketed
      let (h, rest) := cutHost inside cs
      (c :: h, rest)

/-- Read a port; nothing at all is no port. -/
def portNumber (cs : List Char) : Except Fault (Option Nat) :=
  if cs.isEmpty then .ok none
  else
    match (if cs.all isAsciiDigit then numeral? 10 cs else none) with
    | some n => if n ≤ 65535 then .ok (some n) else .error .invalidPort
    | none => .error .invalidPort

/-- The parts of an authority: user name and password, the host, and what follows its colon. -/
structure Authority where
  userinfo : String
  host : List Char
  port : Option (List Char)

/-- Take an authority apart. `atEnd` is set if nothing follows it; a sign without a user name and
without anything after it is allowed only there. -/
def authority (cs : List Char) (atEnd : Bool) : Except Fault Authority :=
  match cutLast? '@' cs with
  | none =>
    let (h, p) := cutHost false cs
    .ok ⟨"", h, p⟩
  | some (user, rest) =>
    if user.isEmpty ∧ rest.isEmpty ∧ !atEnd then .error .emptyHost
    else
      let (h, p) := cutHost false rest
      .ok ⟨userinfoText user, h, p⟩

/-- Whether a segment stands for the directory itself. -/
def isSingleDot (seg : List Char) : Bool :=
  seg = ['.'] || seg.map asciiLowerChar = ['%', '2', 'e']

/-- Whether a segment stands for the directory above. -/
def isDoubleDot (seg : List Char) : Bool :=
  let s := seg.map asciiLowerChar
  s = ['.', '.'] || s = ['.', '%', '2', 'e'] || s = ['%', '2', 'e', '.'] ||
    s = ['%', '2', 'e', '%', '2', 'e']

/-- Whether a segment names a drive, which no double dot removes. -/
def isDrive : List Char → Bool
  | [c, d] => isAsciiLetter c && (d == ':' || d == '|')
  | _ => false

/-- Drop the last segment, which stands first here, unless it names a drive. -/
def dropSegment : List (List Char) → List (List Char)
  | [] => []
  | seg :: rest => if isDrive seg then seg :: rest else rest

/-- Resolve the segments of dots; `done` holds the segments before, last one first. Dots at the end
leave an empty segment. -/
def resolve (done : List (List Char)) : List (List Char) → List (List Char)
  | [] => done.reverse
  | seg :: rest =>
    let ending (done : List (List Char)) := if rest.isEmpty then [] :: done else done
    if isDoubleDot seg then resolve (ending (dropSegment done)) rest
    else if isSingleDot seg then resolve (ending done) rest
    else resolve (seg :: done) rest

/-- The path of a web address. -/
def webPath (cs : List Char) : String :=
  let cs := cs.map fun c => if c = '\\' then '/' else c
  let cs :=
    match cs with
    | '/' :: rest => rest
    | _ => cs
  let segs := (splitChars '/' cs).map (Percent.escape escapedInPath)
  String.ofList ('/' :: ['/'].intercalate (resolve [] segs))

/-- Read what follows the slashes of a web address. -/
def web (scheme : Scheme) (cs : List Char) : Except Fault Url := do
  let ends := endsAuthority true
  let rest := cs.dropWhile fun c => !ends c
  let a ← authority (cs.takeWhile fun c => !ends c) rest.isEmpty
  if a.host.isEmpty then throw .emptyHost
  let h ← normalHost a.host
  let p ← portNumber (a.port.getD [])
  let (rest, fragment) :=
    match cutChars '#' rest with
    | some (l, r) => (l, some (String.ofList (Percent.escape escapedInFragment r)))
    | none => (rest, none)
  let (path, query) :=
    match cutChars '?' rest with
    | some (l, r) => (l, some (String.ofList (Percent.escape escapedInQuery r)))
    | none => (rest, none)
  let port := if p = some scheme.port then none else p
  pure ⟨scheme, a.userinfo, h, port, webPath path, query, fragment⟩

/-- Check the authority of an address with an unknown scheme. -/
def checkForeign (cs : List Char) : Except Fault Unit := do
  let ends := endsAuthority false
  let rest := cs.dropWhile fun c => !ends c
  let a ← authority (cs.takeWhile fun c => !ends c) rest.isEmpty
  checkForeignHost a.host
  if a.host.isEmpty ∧ a.port.isSome then throw .emptyHost
  let _ ← portNumber ((a.port.getD []).takeWhile (· != '\\'))
  if a.host.isEmpty ∧ a.userinfo ≠ "" then throw .emptyHost

/-- Check the host of a file address, which may be empty or name a drive. -/
def checkFile (cs : List Char) : Except Fault Unit := do
  let cs := cs.map fun c => if c = '\\' then '/' else c
  match cs with
  | '/' :: '/' :: rest =>
    let h := rest.takeWhile fun c => !endsAuthority true c
    if h.isEmpty ∨ isDrive h then pure ()
    else
      let _ ← normalHost h
  | _ => pure ()

/-- Read an address. -/
def parse (s : String) : Except Fault Address :=
  match scheme? (significant s.toList) with
  | none => .error .relative
  | some (name, rest) =>
    let body := rest.dropWhile fun c => c == '/' || c == '\\'
    match name with
    | "http" => (web .http body).map .web
    | "https" => (web .https body).map .web
    | "ftp" | "ws" | "wss" => (web .http body).map fun _ => .other name
    | "file" => (checkFile rest).map fun _ => .other name
    | _ =>
      match rest with
      | '/' :: '/' :: rest => (checkForeign rest).map fun _ => .other name
      | _ => .ok (.other name)

end SettingsConsole.Url
