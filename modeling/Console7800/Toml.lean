import Console7800.Toml.Number

/-!
# TOML documents

Lines that give keys their values or open a table by a header. A document in which anything is
malformed or given twice is no document.
-/

namespace Console7800.Toml

/-! ## Values

As in the readers of words, `bound` is more than the length of the text. -/

/-- What reads a value in front of a text. -/
abbrev ValueReader := List Char → Option (Value × List Char)

/-- The items of an array that are left, behind those in `done`, which has the last first. -/
def arrayItems (value? : ValueReader) : Nat → List Value → List Char → Option (Value × List Char)
  | 0, _, _ => none
  | bound + 1, done, text => do
    match ← skipLines (bound + 1) text with
    | ']' :: rest => some (.array done.reverse, rest)
    | text =>
      let (value, rest) ← value? text
      match ← skipLines (bound + 1) rest with
      | ',' :: rest => arrayItems value? bound (value :: done) rest
      | ']' :: rest => some (.array (value :: done).reverse, rest)
      | _ => none

/-- The entries of an inline table that are left, at least one. -/
def inlineEntries (value? : ValueReader) : Nat → Entries → List Char → Option (Value × List Char)
  | 0, _, _ => none
  | bound + 1, entries, text => do
    let (path, key, rest) ← key? (bound + 1) text
    match rest with
    | '=' :: rest =>
      let (value, rest) ← value? (skipBlanks rest)
      let entries ← entries.insert key value path true
      match skipBlanks rest with
      | ',' :: rest => inlineEntries value? bound entries rest
      | '\x7d' :: rest => some (.table .inline entries, rest)
      | _ => none
    | _ => none

/-- A value whose arrays and inline tables stand less than `depth` deep in each other. -/
def value? (bound : Nat) : Nat → ValueReader
  | 0, _ => none
  | depth + 1, text =>
    match text with
    | '"' :: _ | '\'' :: _ => (string? bound text).map fun (text, rest) => (.string text, rest)
    | '[' :: rest => arrayItems (value? bound depth) bound [] rest
    | '\x7b' :: rest =>
      match skipBlanks rest with
      | '\x7d' :: rest => some (.table .inline [], rest)
      | rest => inlineEntries (value? bound depth) bound [] rest
    | _ =>
      let (word, rest) := word text
      (wordValue? word).map fun value => (value, rest)

/-- How deep values may stand in each other. -/
def nestingLimit : Nat := 80

/-! ## Lines -/

/-- What has been read: the root table, and the header of the table at hand. -/
structure Draft where
  root : Entries := []
  header : List Key := []

/-- Read a header behind its first bracket, up to the end of its line. -/
def header? (bound : Nat) (draft : Draft) (text : List Char) : Option (Draft × List Char) := do
  match text with
  | '[' :: text =>
    let (path, key, rest) ← key? bound text
    match rest with
    | ']' :: ']' :: rest =>
      let root ← draft.root.within (Entries.openNext key) path
      some ({ root, header := path ++ [key] }, ← endLine? rest)
    | _ => none
  | _ =>
    let (path, key, rest) ← key? bound text
    match rest with
    | ']' :: rest =>
      let root ← draft.root.within (Entries.openTable key) path
      some ({ root, header := path ++ [key] }, ← endLine? rest)
    | _ => none

/-- Read a key and its value, up to the end of their line. -/
def entry? (bound : Nat) (draft : Draft) (text : List Char) : Option (Draft × List Char) := do
  let (path, key, rest) ← key? bound text
  match rest with
  | '=' :: rest =>
    let (value, rest) ← value? bound nestingLimit (skipBlanks rest)
    let root ← draft.root.within (Entries.insert key value path true) draft.header
    some ({ draft with root }, ← endLine? rest)
  | _ => none

/-- Read the lines of a text. -/
def readLines : Nat → Draft → List Char → Option Entries
  | 0, _, _ => none
  | bound + 1, draft, text => do
    match ← skipLines (bound + 1) text with
    | [] => some draft.root
    | '[' :: rest =>
      let (draft, rest) ← header? (bound + 1) draft rest
      readLines bound draft rest
    | text =>
      let (draft, rest) ← entry? (bound + 1) draft text
      readLines bound draft rest

/-- The root table of a document. A byte order mark in front is left out. -/
def parse? (text : String) : Option Entries :=
  let text := match text.toList with
    | '\ufeff' :: rest => rest
    | text => text
  readLines (text.length + 1) {} text

end Console7800.Toml
