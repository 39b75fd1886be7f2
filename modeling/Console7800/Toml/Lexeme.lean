import Console7800.Text.Numeral
import Console7800.Toml.Value

/-!
# TOML words

Blanks, comments, keys and strings. Each reader takes a text and gives what it read and the rest, or
nothing if the text does not start with it. The loops among them take a bound first, which is more
than the length of the text.
-/

namespace Console7800.Toml

/-! ## Blanks and comments -/

def isBlank (c : Char) : Bool := c = ' ' || c = '\t'

/-- Every character but controls; a tab is none. -/
def isPlain (c : Char) : Bool := c = '\t' || (' ' ≤ c && c ≠ '\x7f')

def skipBlanks (text : List Char) : List Char := text.dropWhile isBlank

def newline? : List Char → Option (List Char)
  | '\n' :: rest => some rest
  | '\r' :: '\n' :: rest => some rest
  | _ => none

def skipComment : List Char → List Char
  | '#' :: rest => rest.dropWhile isPlain
  | text => text

/-- The rest of a line on which nothing but a comment is left. -/
def endLine? (text : List Char) : Option (List Char) :=
  match skipComment (skipBlanks text) with
  | [] => some []
  | rest => newline? rest

/-- Skip blanks, comments and line ends. -/
def skipLines : Nat → List Char → Option (List Char)
  | 0, text => some text
  | bound + 1, text =>
    match skipBlanks text with
    | [] => some []
    | '#' :: rest =>
      match rest.dropWhile isPlain with
      | [] => some []
      | rest => (newline? rest).bind (skipLines bound)
    | rest =>
      match newline? rest with
      | some rest => skipLines bound rest
      | none => some rest

/-! ## Strings -/

/-- The character of a code point given by `count` hexadecimal digits. -/
def codePoint? (count : Nat) (text : List Char) : Option (Char × List Char) := do
  let digits := text.take count
  if digits.length ≠ count then none
  let n ← Text.magnitude? 16 (Nat.pow 16 count) digits
  if n.isValidChar then some (Char.ofNat n, text.drop count) else none

/-- The character that an escape stands for, behind its backslash. -/
def escape? : List Char → Option (Char × List Char)
  | 'b' :: rest => some ('\x08', rest)
  | 't' :: rest => some ('\t', rest)
  | 'n' :: rest => some ('\n', rest)
  | 'f' :: rest => some ('\x0c', rest)
  | 'r' :: rest => some ('\r', rest)
  | '"' :: rest => some ('"', rest)
  | '\\' :: rest => some ('\\', rest)
  | 'u' :: rest => codePoint? 4 rest
  | 'U' :: rest => codePoint? 8 rest
  | _ => none

/-- The rest of a string with escapes on one line; `done` has what was read, the last first. -/
def basicString : Nat → List Char → List Char → Option (List Char × List Char)
  | 0, _, _ => none
  | bound + 1, done, text =>
    match text with
    | '"' :: rest => some (done.reverse, rest)
    | '\\' :: rest => (escape? rest).bind fun (c, rest) => basicString bound (c :: done) rest
    | c :: rest => if isPlain c then basicString bound (c :: done) rest else none
    | [] => none

/-- The rest of a string without escapes on one line. -/
def literalString (text : List Char) : Option (List Char × List Char) :=
  let body := text.takeWhile fun c => isPlain c && c ≠ '\''
  match text.drop body.length with
  | '\'' :: rest => some (body, rest)
  | _ => none

/-- Skip blanks and line ends. -/
def skipSpace : List Char → List Char
  | '\r' :: '\n' :: rest => skipSpace rest
  | c :: rest => if isBlank c || c = '\n' then skipSpace rest else c :: rest
  | [] => []

/-- The text behind a backslash that ends its line, from the next character that is neither blank
nor part of a line end. -/
def continued? (text : List Char) : Option (List Char) :=
  (newline? (skipBlanks text)).map skipSpace

/-- The rest of a string that may span lines, with or without escapes, up to three of its quotes. Of
a run of quotes up to two stand for themselves before the last three. -/
def multilineString (quote : Char) (escapes : Bool) :
    Nat → List Char → List Char → Option (List Char × List Char)
  | 0, _, _ => none
  | bound + 1, done, text =>
    let run := (text.takeWhile (· = quote)).length
    if 3 ≤ run then
      let kept := min run 5 - 3
      some (done.reverse ++ List.replicate kept quote, text.drop (kept + 3))
    else match text with
      | [] => none
      | c :: rest =>
        if escapes ∧ c = '\\' then
          match continued? rest with
          | some rest => multilineString quote escapes bound done rest
          | none => (escape? rest).bind fun (c, rest) =>
            multilineString quote escapes bound (c :: done) rest
        else match newline? text with
          | some rest => multilineString quote escapes bound ('\n' :: done) rest
          | none =>
            if isPlain c then multilineString quote escapes bound (c :: done) rest else none

/-- A line end right behind the opening quotes does not belong to the string. -/
def dropNewline (text : List Char) : List Char := (newline? text).getD text

/-- A string of any of the four kinds. -/
def string? (bound : Nat) (text : List Char) : Option (List Char × List Char) :=
  match text with
  | '"' :: '"' :: '"' :: rest => multilineString '"' true bound [] (dropNewline rest)
  | '\'' :: '\'' :: '\'' :: rest => multilineString '\'' false bound [] (dropNewline rest)
  | '"' :: rest => basicString bound [] rest
  | '\'' :: rest => literalString rest
  | _ => none

/-! ## Keys -/

def isBareKeyChar (c : Char) : Bool := c.isAlphanum || c = '_' || c = '-'

/-- One part of a key. -/
def keyPart? (bound : Nat) (text : List Char) : Option (Key × List Char) :=
  match text with
  | '"' :: rest => basicString bound [] rest
  | '\'' :: rest => literalString rest
  | _ =>
    let word := text.takeWhile isBareKeyChar
    if word.isEmpty then none else some (word, text.drop word.length)

/-- A key with the parts before its last one, blanks around each left out. -/
def key? : Nat → List Char → Option (List Key × Key × List Char)
  | 0, _ => none
  | bound + 1, text => do
    let (part, rest) ← keyPart? (bound + 1) (skipBlanks text)
    match skipBlanks rest with
    | '.' :: rest =>
      let (path, key, rest) ← key? bound rest
      some (part :: path, key, rest)
    | rest => some ([], part, rest)

end Console7800.Toml
