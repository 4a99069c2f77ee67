import SettingsConsole.Toml.Scalar

/-!
# Reading TOML text

A document is a sequence of lines: headers of tables, keys with values, comments. Arrays and tables
in braces nest 79 deep at most, and a dotted key has as many parts at most. What is wrong with a
document is not told.
-/

namespace SettingsConsole.Toml

open Text

/-- How deep arrays and tables in braces may nest, and how many parts a dotted key may have. -/
def maxDepth : Nat := 79

/-- Whether a character may not stand in a line. Tabs may. -/
def isForbidden (c : Char) : Bool := (c.toNat < 32 && c != '\t') || c.toNat == 127

/-- Skip spaces and tabs. -/
def skipBlanks (cs : List Char) : List Char := cs.dropWhile fun c => c == ' ' || c == '\t'

/-- Skip a line break. -/
def newline? : List Char → Option (List Char)
  | '\n' :: cs | '\r' :: '\n' :: cs => some cs
  | _ => none

/-- Skip a comment, if there is one. -/
def skipComment : List Char → List Char
  | '#' :: cs => cs.dropWhile fun c => !isForbidden c
  | cs => cs

/-- Skip the rest of a line: blanks, a comment, and the line break or the end. -/
def endLine? (cs : List Char) : Option (List Char) :=
  match skipComment (skipBlanks cs) with
  | [] => some []
  | rest => newline? rest

/-- Skip blanks, comments and line breaks. Every line uses one unit of `fuel`. -/
def skipLines : Nat → List Char → List Char
  | 0, cs => cs
  | fuel + 1, cs =>
    let rest := skipComment (skipBlanks cs)
    match newline? rest with
    | some rest => skipLines fuel rest
    | none => rest

/-! ## Texts -/

/-- The value of hexadecimal digits, if they are the number of a character. -/
def codePoint? (cs : List Char) : Option Char := do
  let n ← cs.foldlM (fun n c => (hexValue? c).map fun d => n * 16 + d) 0
  if n.isValidChar then some (Char.ofNat n) else none

/-- Read the character of an escape after its backslash. -/
def escape? : List Char → Option (Char × List Char)
  | 'b' :: cs => some (Char.ofNat 8, cs)
  | 't' :: cs => some ('\t', cs)
  | 'n' :: cs => some ('\n', cs)
  | 'f' :: cs => some (Char.ofNat 12, cs)
  | 'r' :: cs => some ('\r', cs)
  | '"' :: cs => some ('"', cs)
  | '\\' :: cs => some ('\\', cs)
  | 'u' :: cs => if cs.length < 4 then none else (codePoint? (cs.take 4)).map (·, cs.drop 4)
  | 'U' :: cs => if cs.length < 8 then none else (codePoint? (cs.take 8)).map (·, cs.drop 8)
  | _ => none

/-- Read a text with escapes up to its quote; `done` holds the characters before, last first. -/
def basicText (fuel : Nat) (done : List Char) (cs : List Char) : Option (String × List Char) :=
  match fuel, cs with
  | 0, _ | _, [] => none
  | _, '"' :: rest => some (String.ofList done.reverse, rest)
  | fuel + 1, '\\' :: rest =>
    match escape? rest with
    | some (c, rest) => basicText fuel (c :: done) rest
    | none => none
  | fuel + 1, c :: rest => if isForbidden c then none else basicText fuel (c :: done) rest

/-- Read a text without escapes up to its quote. -/
def literalText (done : List Char) : List Char → Option (String × List Char)
  | [] => none
  | '\'' :: rest => some (String.ofList done.reverse, rest)
  | c :: rest => if isForbidden c then none else literalText (c :: done) rest

/-- Skip the blanks and line breaks after a backslash at the end of a line. -/
def skipFold : List Char → List Char
  | '\r' :: '\n' :: cs => skipFold cs
  | c :: cs => if c = ' ' ∨ c = '\t' ∨ c = '\n' then skipFold cs else c :: cs
  | [] => []

/-- End a text of several lines. Up to two quotes may stand right before the three that end it. -/
def endLong (quote : Char) (done : List Char) (cs : List Char) : String × List Char :=
  let extra := ((cs.takeWhile (· == quote)).length).min 2
  (String.ofList (List.replicate extra quote ++ done).reverse, cs.drop extra)

/-- Read a text of several lines with escapes up to its three quotes. -/
def longBasicText (fuel : Nat) (done : List Char) (cs : List Char) : Option (String × List Char) :=
  match fuel, cs with
  | 0, _ | _, [] => none
  | _, '"' :: '"' :: '"' :: rest => some (endLong '"' done rest)
  | fuel + 1, '\r' :: '\n' :: rest => longBasicText fuel ('\n' :: done) rest
  | fuel + 1, '\n' :: rest => longBasicText fuel ('\n' :: done) rest
  | fuel + 1, '\\' :: rest =>
    if (newline? (skipBlanks rest)).isSome then longBasicText fuel done (skipFold rest)
    else
      match escape? rest with
      | some (c, rest) => longBasicText fuel (c :: done) rest
      | none => none
  | fuel + 1, c :: rest => if isForbidden c then none else longBasicText fuel (c :: done) rest

/-- Read a text of several lines without escapes up to its three quotes. -/
def longLiteralText (done : List Char) : List Char → Option (String × List Char)
  | [] => none
  | '\'' :: '\'' :: '\'' :: rest => some (endLong '\'' done rest)
  | '\r' :: '\n' :: rest => longLiteralText ('\n' :: done) rest
  | c :: rest => if isForbidden c ∧ c ≠ '\n' then none else longLiteralText (c :: done) rest

/-- Drop a line break right after the quotes that begin a text of several lines. -/
def dropNewline (cs : List Char) : List Char := (newline? cs).getD cs

/-- Read a text of one line. -/
def shortText? : List Char → Option (String × List Char)
  | '"' :: cs => basicText (cs.length + 1) [] cs
  | '\'' :: cs => literalText [] cs
  | _ => none

/-- Read a text. -/
def text? : List Char → Option (String × List Char)
  | '"' :: '"' :: '"' :: cs => longBasicText (cs.length + 1) [] (dropNewline cs)
  | '\'' :: '\'' :: '\'' :: cs => longLiteralText [] (dropNewline cs)
  | cs => shortText? cs

/-! ## Keys -/

/-- Whether a character may stand in a key without quotes. -/
def isKeyChar (c : Char) : Bool := isAsciiLetter c || isAsciiDigit c || c == '_' || c == '-'

/-- Read a key without dots. -/
def simpleKey? (cs : List Char) : Option (String × List Char) :=
  match shortText? cs with
  | some r => some r
  | none =>
    let key := cs.takeWhile isKeyChar
    if key.isEmpty then none else some (String.ofList key, cs.dropWhile isKeyChar)

/-- Read a dotted key of at most `room` parts with the blanks after it. -/
def dottedKey? : Nat → List Char → Option (List String × List Char)
  | 0, _ => none
  | room + 1, cs => do
    let (k, rest) ← simpleKey? cs
    match skipBlanks rest with
    | '.' :: rest =>
      let (ks, rest) ← dottedKey? room (skipBlanks rest)
      some (k :: ks, rest)
    | rest => some ([k], rest)

/-- Read a key with the blanks after it. -/
def key? (cs : List Char) : Option (List String × List Char) := dottedKey? maxDepth cs

/-! ## Values -/

mutual

/-- Read a value. Every step uses one unit of `fuel`; `depth` more arrays and tables may be
opened. -/
def value? (fuel depth : Nat) (cs : List Char) : Option (Toml × List Char) :=
  match fuel with
  | 0 => none
  | fuel + 1 =>
    match cs with
    | '"' :: _ | '\'' :: _ => (text? cs).map fun (s, rest) => (text s, rest)
    | '[' :: rest =>
      match depth with
      | 0 => none
      | depth + 1 => items? fuel depth [] rest
    | '{' :: rest =>
      match depth with
      | 0 => none
      | depth + 1 =>
        match skipBlanks rest with
        | '}' :: rest => some (table .braces [], rest)
        | rest => members? fuel depth [] rest
    | _ => scalar? cs

/-- Read the items of an array up to its closing bracket. -/
def items? (fuel depth : Nat) (done : List Toml) (cs : List Char) : Option (Toml × List Char) :=
  match fuel with
  | 0 => none
  | fuel + 1 =>
    match skipLines cs.length cs with
    | ']' :: rest => some (array done.reverse, rest)
    | rest =>
      match value? fuel depth rest with
      | none => none
      | some (v, rest) =>
        match skipLines rest.length rest with
        | ',' :: rest => items? fuel depth (v :: done) rest
        | ']' :: rest => some (array (v :: done).reverse, rest)
        | _ => none

/-- Read the members of a table in braces up to its closing brace. -/
def members? (fuel depth : Nat) (done : Members) (cs : List Char) : Option (Toml × List Char) :=
  match fuel with
  | 0 => none
  | fuel + 1 =>
    match key? (skipBlanks cs) with
    | some (key, '=' :: rest) =>
      match value? fuel depth (skipBlanks rest) with
      | none => none
      | some (v, rest) =>
        match addValue v key done with
        | none => none
        | some done =>
          match skipBlanks rest with
          | ',' :: rest => members? fuel depth done rest
          | '}' :: rest => some (table .braces done, rest)
          | _ => none
    | _ => none

end

/-! ## Documents -/

/-- What has been read of a document. -/
structure Draft where
  members : Members
  /-- The path of the table that keys belong to. -/
  here : List String

/-- Read a key with its value. -/
def keyValue? (d : Draft) (cs : List Char) : Option (Draft × List Char) := do
  let (key, rest) ← key? cs
  let (v, rest) ← value? (2 * cs.length + 2) maxDepth (skipBlanks (← skip? '=' rest))
  let members ← inside (addValue v key) d.here d.members
  some ({ d with members := members }, rest)

/-- Open the table of a header. -/
def header? (openLast : String → Members → Option Members) (d : Draft) (key : List String) :
    Option Draft := do
  let last ← key.getLast?
  let members ← inside (openLast last) key.dropLast d.members
  some ⟨members, key⟩

/-- Read a header, a key with its value, or nothing. -/
def expression? (d : Draft) (cs : List Char) : Option (Draft × List Char) :=
  match skipBlanks cs with
  | '[' :: '[' :: rest => do
    let (key, rest) ← key? (skipBlanks rest)
    let rest ← skip? ']' (← skip? ']' rest)
    some (← header? openElement d key, rest)
  | '[' :: rest => do
    let (key, rest) ← key? (skipBlanks rest)
    some (← header? openTable d key, ← skip? ']' rest)
  | [] => some (d, [])
  | c :: rest =>
    if c = '#' ∨ c = '\n' ∨ c = '\r' then some (d, c :: rest) else keyValue? d (c :: rest)

/-- Read line by line. Every line uses one unit of `fuel`. -/
def lines? : Nat → Draft → List Char → Option Draft
  | _, d, [] => some d
  | 0, _, _ => none
  | fuel + 1, d, cs => do
    let (d, rest) ← expression? d cs
    lines? fuel d (← endLine? rest)

/-- Read a document. A byte order mark may stand in front. -/
def parse? (s : String) : Option Members :=
  let cs := s.toList
  let cs := if cs.head? = some '\ufeff' then cs.drop 1 else cs
  (lines? (cs.length + 1) ⟨[], []⟩ cs).map (·.members)

end SettingsConsole.Toml
