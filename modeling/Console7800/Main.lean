import Console7800.CommandLine

/-!
# The program

Runs the command line on the files of the system.
-/

namespace Console7800.CommandLine

def ofSystemError : IO.Error → FileError
  | .noFileOrDirectory .. => .notFound
  | .permissionDenied .. => .permissionDenied
  | .inappropriateType _ 20 _ => .notDirectory
  | .inappropriateType _ 21 _ => .isDirectory
  | .invalidArgument _ 36 _ => .nameTooLong
  | error => .other (toString error)

instance : Files IO where
  read path := do
    if path.contains '\x00' then return .error .nulInName
    try
      let data ← IO.FS.readBinFile path
      return .ok data.data
    catch error => return .error (ofSystemError error)
  write path data := do
    if path.contains '\x00' then return .error .nulInName
    try
      IO.FS.writeBinFile path ⟨data⟩
      return .ok ()
    catch error => return .error (ofSystemError error)

def helpText : String :=
  "Headless 7800 console\n\n" ++
  "  -r, --rom <file>         cartridge image\n" ++
  "  -f, --frames <number>    frames to run [60]\n" ++
  "      --config <file>      TOML configuration\n" ++
  "      --database <file>    cartridge database, in place of the configured one\n" ++
  "      --bios <file>        boot ROM, in place of the configured one\n" ++
  "      --load-state <file>  state to load before running\n" ++
  "      --save-state <file>  where to save the state after running\n" ++
  "  -c, --dump-cpu           print the registers at the end\n" ++
  "  -h, --help               print this text\n"

end Console7800.CommandLine

open Console7800.CommandLine in
def main (arguments : List String) : IO UInt32 := do
  if let .error .help := parse arguments then
    IO.print helpText
  let outcome ← run arguments
  IO.print outcome.output
  if let some message := outcome.message then
    IO.eprintln message
  return UInt32.ofNat outcome.code
