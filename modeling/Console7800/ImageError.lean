/-!
# Images that are refused

Why an image of a cartridge, of the boot ROM or of the high-score cartridge is not accepted.
-/

namespace Console7800

inductive ImageError where
  | tooSmall (size : Nat)
  | hackFormat
  | truncated (declared available : Nat)
  | highScoreDigest (digest : String)
  | highScoreSram (expected actual : Nat)
  | bootSize (size : Nat)
  deriving Repr, DecidableEq

def ImageError.message : ImageError → String
  | .tooSmall size => s!"cartridge image is too small ({size} bytes)"
  | .hackFormat => "cartridge is in the unsupported CC2 hack format"
  | .truncated declared available =>
    s!"cartridge header declares {declared} bytes but only {available} follow it"
  | .highScoreDigest digest => s!"high score cartridge digest {digest} is not the expected image"
  | .highScoreSram expected actual => s!"high score SRAM must be {expected} bytes, got {actual}"
  | .bootSize size => s!"BIOS image must be 1..=65536 bytes, got {size}"

end Console7800
