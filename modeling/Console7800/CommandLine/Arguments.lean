import Console7800.Text.Numeral

/-!
# Command-line arguments

Options take a value, the next argument or what is attached to them, and may be given once. A value
that is an argument of its own does not start with a dash, unless it is nothing else. Short options
without a value can be run together.
-/

namespace Console7800.CommandLine

/-- The options that take a value. -/
inductive OptionName where
  | rom | frames | config | database | bios | loadState | saveState
  deriving Repr, DecidableEq

structure Arguments where
  rom : String
  /-- Frames to run. -/
  frames : Nat := 60
  config : Option String := none
  database : Option String := none
  bios : Option String := none
  loadState : Option String := none
  saveState : Option String := none
  /-- Print the registers at the end. -/
  dumpCpu : Bool := false
  deriving Repr, DecidableEq

/-- Why there is nothing to run. -/
inductive Refusal where
  | help
  | misuse
  deriving Repr, DecidableEq

/-- What the arguments so far have given. -/
structure Given where
  values : List (OptionName × String) := []
  dumpCpu : Bool := false

namespace OptionName

def ofLong? : String → Option OptionName
  | "rom" => some .rom
  | "frames" => some .frames
  | "config" => some .config
  | "database" => some .database
  | "bios" => some .bios
  | "load-state" => some .loadState
  | "save-state" => some .saveState
  | _ => none

def ofShort? : Char → Option OptionName
  | 'r' => some .rom
  | 'f' => some .frames
  | _ => none

/-- The value is one that the option can have. -/
def accepts (name : OptionName) (value : String) : Bool :=
  match name with
  | .frames => (Text.unsigned? 10 (Nat.pow 2 64) value.toList).isSome
  | _ => !value.isEmpty

end OptionName

namespace Given

def give (given : Given) (name : OptionName) (value : String) : Except Refusal Given :=
  if (given.values.lookup name).isNone ∧ name.accepts value then
    .ok { given with values := (name, value) :: given.values }
  else .error .misuse

def giveDump (given : Given) : Except Refusal Given :=
  if given.dumpCpu then .error .misuse else .ok { given with dumpCpu := true }

def finish (given : Given) : Except Refusal Arguments :=
  match given.values.lookup .rom with
  | none => .error .misuse
  | some rom => .ok {
      rom
      frames :=
        ((given.values.lookup .frames).bind fun text =>
          Text.unsigned? 10 (Nat.pow 2 64) text.toList).getD 60
      config := given.values.lookup .config
      database := given.values.lookup .database
      bios := given.values.lookup .bios
      loadState := given.values.lookup .loadState
      saveState := given.values.lookup .saveState
      dumpCpu := given.dumpCpu }

end Given

/-- Read the letters behind a single dash. The option that still needs its value comes back. -/
def readLetters (given : Given) : List Char → Except Refusal (Given × Option OptionName)
  | [] => .ok (given, none)
  | 'c' :: more => do readLetters (← given.giveDump) more
  | 'h' :: _ => .error .help
  | letter :: more =>
    match OptionName.ofShort? letter, more with
    | none, _ => .error .misuse
    | some name, [] => .ok (given, some name)
    | some name, '=' :: value => return (← given.give name (String.ofList value), none)
    | some name, value => return (← given.give name (String.ofList value), none)

/-- Read what is behind two dashes. -/
def readLong (given : Given) (text : List Char) : Except Refusal (Given × Option OptionName) :=
  let name := String.ofList (text.takeWhile (· ≠ '='))
  let attached := (text.dropWhile (· ≠ '=')).tail?
  match name, attached, OptionName.ofLong? name with
  | "help", none, _ => .error .help
  | "dump-cpu", none, _ => do return (← given.giveDump, none)
  | _, none, some name => .ok (given, some name)
  | _, some value, some name => do return (← given.give name (String.ofList value), none)
  | _, _, none => .error .misuse

/-- Read the arguments that are left; the first may be the value of an option before it. -/
def readArguments : Option OptionName → Given → List String → Except Refusal Given
  | none, given, [] => .ok given
  | some _, _, [] => .error .misuse
  | pending, given, argument :: rest =>
    match pending, argument.toList with
    | some name, ['-'] => do readArguments none (← given.give name argument) rest
    | some _, '-' :: _ => .error .misuse
    | some name, _ => do readArguments none (← given.give name argument) rest
    | none, ['-', '-'] => if rest.isEmpty then .ok given else .error .misuse
    | none, '-' :: '-' :: text => do
      let (given, pending) ← readLong given text
      readArguments pending given rest
    | none, '-' :: letter :: letters => do
      let (given, pending) ← readLetters given (letter :: letters)
      readArguments pending given rest
    | none, _ => .error .misuse

def parse (arguments : List String) : Except Refusal Arguments := do
  (← readArguments none {} arguments).finish

end Console7800.CommandLine
