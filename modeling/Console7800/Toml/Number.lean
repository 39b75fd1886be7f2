import Console7800.Toml.Lexeme

/-!
# TOML numbers and dates

A number or date is a word: it goes as far as the characters that can stand in one. Integers have 64
bits. Of the other forms only it matters whether they are well formed.
-/

namespace Console7800.Toml

/-- No integer has a greater magnitude than this one. -/
def magnitudeLimit : Nat := Nat.pow 2 64

/-- Digits of a base in which single underscores may stand between two digits; their value, or the
limit if that is less. -/
def grouped? (radix : Nat) (text : List Char) : Option Nat :=
  let rec go (value : Nat) : List Char → Option Nat
    | [] => some value
    | '_' :: c :: rest => do
      let digit ← Text.digitValue? radix c
      go (min magnitudeLimit (value * radix + digit)) rest
    | c :: rest => do
      let digit ← Text.digitValue? radix c
      go (min magnitudeLimit (value * radix + digit)) rest
  match text with
  | [] => none
  | c :: rest => (Text.digitValue? radix c).bind fun digit => go digit rest

/-- The text behind an optional sign, and whether the sign is a minus. -/
def signed : List Char → Bool × List Char
  | '+' :: rest => (false, rest)
  | '-' :: rest => (true, rest)
  | text => (false, text)

/-- Decimal digits without a zero in front of others. -/
def decimal? (text : List Char) : Option Nat :=
  match text with
  | '0' :: _ :: _ => none
  | _ => grouped? 10 text

def inRange (value : Int) : Option Int :=
  let half : Int := Nat.pow 2 63
  if -half ≤ value ∧ value < half then some value else none

def integer? (word : List Char) : Option Int :=
  match word with
  | '0' :: 'x' :: digits => (grouped? 16 digits).bind fun n => inRange n
  | '0' :: 'o' :: digits => (grouped? 8 digits).bind fun n => inRange n
  | '0' :: 'b' :: digits => (grouped? 2 digits).bind fun n => inRange n
  | _ =>
    let (negative, digits) := signed word
    (decimal? digits).bind fun n => inRange (if negative then -n else n)

/-- The exponent of a float, behind its letter. -/
def isExponent (text : List Char) : Bool := (grouped? 10 (signed text).2).isSome

def isFloat (word : List Char) : Bool :=
  let body := (signed word).2
  if body = "inf".toList ∨ body = "nan".toList then true
  else
    let whole := body.takeWhile fun c => c ≠ '.' ∧ c ≠ 'e' ∧ c ≠ 'E'
    let rest := body.drop whole.length
    (decimal? whole).isSome && match rest with
      | '.' :: rest =>
        let places := rest.takeWhile fun c => c ≠ 'e' ∧ c ≠ 'E'
        (grouped? 10 places).isSome && match rest.drop places.length with
          | [] => true
          | _ :: exponent => isExponent exponent
      | _ :: exponent => isExponent exponent
      | [] => false

/-! ## Dates -/

/-- A number of exactly `count` digits in front of the text. -/
def digits? (count : Nat) (text : List Char) : Option (Nat × List Char) :=
  let digits := text.take count
  if digits.length = count ∧ digits.all Char.isDigit then
    (Text.magnitude? 10 (Nat.pow 10 count) digits).map fun n => (n, text.drop count)
  else none

def daysIn (year month : Nat) : Nat :=
  if month = 2 then
    if year % 4 = 0 ∧ (year % 100 ≠ 0 ∨ year % 400 = 0) then 29 else 28
  else if month = 4 ∨ month = 6 ∨ month = 9 ∨ month = 11 then 30
  else 31

/-- The text behind a date. -/
def date? (text : List Char) : Option (List Char) := do
  let (year, rest) ← digits? 4 text
  let (month, rest) ← match rest with | '-' :: rest => digits? 2 rest | _ => none
  let (day, rest) ← match rest with | '-' :: rest => digits? 2 rest | _ => none
  if 1 ≤ month ∧ month ≤ 12 ∧ 1 ≤ day ∧ day ≤ daysIn year month then some rest else none

/-- The text behind an hour and a minute. -/
def hourMinute? (text : List Char) : Option (List Char) := do
  let (hour, rest) ← digits? 2 text
  let (minute, rest) ← match rest with | ':' :: rest => digits? 2 rest | _ => none
  if hour ≤ 23 ∧ minute ≤ 59 then some rest else none

/-- The text behind a time of day. -/
def time? (text : List Char) : Option (List Char) := do
  let rest ← hourMinute? text
  let (second, rest) ← match rest with | ':' :: rest => digits? 2 rest | _ => none
  if 60 < second then none
  match rest with
  | '.' :: rest =>
    let places := rest.takeWhile Char.isDigit
    if places.isEmpty then none else some (rest.drop places.length)
  | _ => some rest

/-- Nothing, or an offset from universal time. -/
def isOffset : List Char → Bool
  | [] | ['Z'] | ['z'] => true
  | '+' :: rest | '-' :: rest => hourMinute? rest = some []
  | _ => false

def isDatetime (word : List Char) : Bool :=
  match date? word with
  | none => time? word = some []
  | some [] => true
  | some (c :: rest) =>
    (c = 'T' || c = 't' || c = ' ') && match time? rest with
      | some rest => isOffset rest
      | none => false

/-! ## Words -/

def isWordChar (c : Char) : Bool :=
  c.isAlphanum || c = '+' || c = '-' || c = '_' || c = '.' || c = ':'

/-- A word and the rest. A blank between a date and a time belongs to the word. -/
def word (text : List Char) : List Char × List Char :=
  let first := text.takeWhile isWordChar
  let rest := text.drop first.length
  match rest with
  | ' ' :: c :: more =>
    if date? first = some [] ∧ c.isDigit then
      let second := (c :: more).takeWhile isWordChar
      (first ++ ' ' :: second, (c :: more).drop second.length)
    else (first, rest)
  | _ => (first, rest)

/-- The value of a word. -/
def wordValue? (text : List Char) : Option Value :=
  if text = "true".toList then some (.boolean true)
  else if text = "false".toList then some (.boolean false)
  else match integer? text with
    | some n => some (.integer n)
    | none => if isFloat text then some .float else if isDatetime text then some .datetime else none

end Console7800.Toml
