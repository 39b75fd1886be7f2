import Console7800.Database.Entry
import Console7800.Text.Quoted

/-!
# Cartridge database

A text of records. A record is a line that starts with a bracket and the 32 hexadecimal digits of an
image's digest, and up to 17 lines after it, as far as the next line that starts with a bracket.
Seven of these stand in a fixed order; the others are recognised by the keys that occur in them, one
line by as many as do. A line's value is what follows its last equals sign, without blanks around
it.
-/

namespace Console7800

/-- A value that a record needs and that is missing or cannot be read, with its line counted from
1. -/
structure Database.Error where
  line : Nat
  key : String
  value : String
  deriving Repr, DecidableEq

def Database.Error.message (error : Database.Error) : String :=
  let value := String.ofList (Text.quoted error.value.toList)
  s!"line {error.line}: bad value {value} for {error.key}"

/-- The records, each under its digest in lower case. The first of several for one digest counts. -/
structure Database where
  records : List (List Char × Database.Entry)
  deriving DecidableEq

namespace Database

/-! ## Values -/

/-- What follows the last equals sign of a line, without blanks around it. -/
def valueOf (line : List Char) : List Char :=
  Text.trim (line.reverse.takeWhile (· != '=')).reverse

def byte? (text : List Char) : Option UInt8 := (Text.unsigned? 10 256 text).map UInt8.ofNat

def number? (text : List Char) : Option Nat := Text.unsigned? 10 4294967296 text

/-- A yes or no: `true` or `false` in any case, or 1 or 0. -/
def flag? (text : List Char) : Option Bool :=
  let lower := Text.asciiLower text
  if lower = "true".toList ∨ lower = ['1'] then some true
  else if lower = "false".toList ∨ lower = ['0'] then some false
  else none

def mapper? (text : List Char) : Option Mapper :=
  (byte? text).bind fun code => Mapper.ofCode? code.toNat

/-! ## Records -/

/-- The keys of the seven lines with a fixed place. -/
def positionalKeys : List String :=
  ["title", "type", "pokey", "controller1", "controller2", "region", "flags"]

/-- The most lines that belong to one record. -/
def recordLines : Nat := 17

/-- The result of reading the value of `key` on a line. -/
def need {α : Type} (line : Nat) (key : String) (read? : List Char → Option α)
    (text : List Char) : Except Error α :=
  match read? text with
  | some value => .ok value
  | none => .error ⟨line, key, String.ofList text⟩

/-- The entry of seven lines, the first of which is line `number` of the text. -/
def positional (number : Nat) (title kind pokey first second region flags : List Char) :
    Except Error Entry := do
  let mapper ← need (number + 1) "type" mapper? (valueOf kind)
  let pokey ← need (number + 2) "pokey" flag? (valueOf pokey)
  let first ← need (number + 3) "controller1" byte? (valueOf first)
  let second ← need (number + 4) "controller2" byte? (valueOf second)
  let region ← need (number + 5) "region" byte? (valueOf region)
  let flags ← need (number + 6) "flags" number? (valueOf flags)
  return {
    title := String.ofList (valueOf title)
    mapper, pokey
    controllers := (first, second)
    region := .ofByte region
    flags := UInt32.ofNat flags }

/-- A setting found by its key: how its value changes an entry, if it can be read. -/
structure Setting where
  key : String
  assign : List Char → Entry → Option Entry

/-- The settings found by key, in the order in which a line is searched for them. -/
def settings : List Setting := [
  ⟨"crossx", fun text entry =>
    (Text.signed? 32 text).map fun n => { entry with crosshairX? := some n }⟩,
  ⟨"crossy", fun text entry =>
    (Text.signed? 32 text).map fun n => { entry with crosshairY? := some n }⟩,
  ⟨"hblank", fun text entry => (number? text).map fun n => { entry with hblank? := some n }⟩,
  ⟨"dualanalog", fun text entry => (flag? text).map fun b => { entry with dualAnalog? := some b }⟩,
  ⟨"pokey450", fun text entry => (flag? text).map fun b => { entry with pokey450? := some b }⟩,
  ⟨"xm", fun text entry => (flag? text).map fun b => { entry with expansion? := some b }⟩,
  ⟨"disablebios", fun text entry =>
    (flag? text).map fun b => { entry with disableBios? := some b }⟩,
  ⟨"leftswitch", fun text entry => (byte? text).map fun n => { entry with leftSwitch? := some n }⟩,
  ⟨"rightswitch", fun text entry =>
    (byte? text).map fun n => { entry with rightSwitch? := some n }⟩,
  ⟨"swapbuttons", fun text entry =>
    (flag? text).map fun b => { entry with swapButtons? := some b }⟩]

/-- The word stands somewhere in the text. -/
def occursIn (word : List Char) : List Char → Bool
  | [] => word.isEmpty
  | c :: rest => word.isPrefixOf (c :: rest) || occursIn word rest

/-- Make the settings whose keys occur in a line. -/
def applyLine (number : Nat) (line : List Char) (entry : Entry) : Except Error Entry :=
  settings.foldlM (fun entry setting =>
    if occursIn setting.key.toList line then
      need number setting.key (fun text => setting.assign text entry) (valueOf line)
    else .ok entry) entry

/-- Make the settings of lines that start at line `number` of the text. -/
def applyLines (number : Nat) : List (List Char) → Entry → Except Error Entry
  | [], entry => .ok entry
  | line :: lines, entry => do
    let entry ← applyLine number line entry
    applyLines (number + 1) lines entry

/-- The entry of a record whose first line after the digest is line `number` of the text. -/
def parseRecord (number : Nat) (record : List (List Char)) : Except Error Entry :=
  match record with
  | title :: kind :: pokey :: first :: second :: region :: flags :: keyed => do
    let entry ← positional number title kind pokey first second region flags
    applyLines (number + 7) keyed entry
  | short => .error ⟨number + short.length, positionalKeys.getD short.length "", ""⟩

/-! ## The text -/

def isHexDigit (c : Char) : Bool := (Text.digitValue? 16 c).isSome

/-- The digest in a record's first line, in lower case. -/
def recordDigest? (line : List Char) : Option (List Char) :=
  match line with
  | '[' :: rest =>
    let digits := rest.take 32
    if digits.length = 32 ∧ digits.all isHexDigit then some (Text.asciiLower digits) else none
  | _ => none

/-- The lines after a digest that belong to its record. -/
def recordBody (lines : List (List Char)) : List (List Char) :=
  (lines.take recordLines).takeWhile fun line => line.head? != some '['

/-- Read the records of lines that start at line `number` of the text, the last one first, in front
of `records`. -/
def parseLines (number : Nat) (lines : List (List Char)) (records : List (List Char × Entry)) :
    Except Error (List (List Char × Entry)) :=
  match lines with
  | [] => .ok records
  | line :: rest =>
    match recordDigest? line with
    | none => parseLines (number + 1) rest records
    | some digest => do
      let body := recordBody rest
      let entry ← parseRecord (number + 1) body
      parseLines (number + 1 + body.length) (rest.drop body.length) ((digest, entry) :: records)
termination_by lines.length

/-- A line without the carriage returns at its end. -/
def dropReturns (line : List Char) : List Char := Text.dropEndWhile (· == '\r') line

def parse (text : String) : Except Error Database := do
  let records ← parseLines 1 ((Text.lines text.toList).map dropReturns) []
  return ⟨records⟩

/-! ## Looking up -/

/-- The entry for a digest in any letter case. -/
def lookup? (database : Database) (digest : String) : Option Entry :=
  database.records.lookup (Text.asciiLower digest.toList)

/-- The number of digests with an entry. -/
def size (database : Database) : Nat := (database.records.map (·.1)).eraseDups.length

/-- The cartridge with the settings of its entry, and whether there is one. -/
def apply (database : Database) (cartridge : Cartridge) : Bool × Cartridge :=
  match database.lookup? cartridge.digest with
  | some entry => (true, entry.apply cartridge)
  | none => (false, cartridge)

end Database
end Console7800
