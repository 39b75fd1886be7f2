import Console7800.ImageError
import Console7800.Mapper
import Console7800.Md5
import Console7800.Region
import Console7800.Text.Ascii
import Console7800.Text.Blank
import Console7800.Text.Utf8

/-!
# Cartridges

A cartridge is an image with settings. The file is the bare image or has a header of 128 bytes:

| Offset | Contents |
|--------|----------|
| 1..10  | signature |
| 17..49 | title, up to the first zero byte |
| 49..53 | size of the image, high byte first |
| 53     | mapper: 1 Activision, 2 Absolute, 0 as the flags say |
| 54     | flags: bits 0 and 6 a sound chip, at $4000 and at $0450; 1 banks; 2 RAM |
| 54     | more flags: bit 3 the first bank at $4000, bit 4 the last bank but one |
| 55, 56 | controllers: 1 joystick, 2 light gun |
| 57     | region: 1 PAL |
| 63     | bit 0: expansion module |
-/

namespace Console7800

/-- The quarter-cycles of a line that pass before the display chip takes the bus, if nothing else is
said. -/
def Cartridge.defaultHblank : Nat := 34

structure Cartridge where
  /-- The image without its header. -/
  image : Bytes
  /-- The digest of the image, by which settings and saved states are found to belong to it. -/
  digest : String
  digest_eq : digest = Md5.hexDigest image
  /-- The bank last seen through the window. -/
  bank : UInt8 := 0
  title : String := ""
  mapper : Mapper := .normal
  /-- A sound chip is on the cartridge. -/
  pokey : Bool := false
  /-- The sound chip answers at $0450 and not at $4000. -/
  pokey450 : Bool := false
  controllers : UInt8 × UInt8 := (0, 0)
  region : Region := .ntsc
  /-- Bit 0: run without cycle stealing. Bit 1: run without waiting for the beam. -/
  flags : UInt32 := 0
  /-- The cartridge asks for the expansion module. -/
  expansion : Bool := false
  /-- Quarter-cycles of each line that pass before the display chip takes the bus. -/
  hblank : Nat := Cartridge.defaultHblank
  crosshair : Int × Int := (0, 0)
  dualAnalog : Bool := false
  disableBios : Bool := false
  /-- Where the difficulty switches stand at power-on; not zero is A. -/
  switches : UInt8 × UInt8 := (1, 0)
  swapButtons : Bool := false

namespace Cartridge

def headerSize : Nat := 128

/-- The size of a bank. -/
def bankSize : Nat := 16384

/-- The controller code of a light gun. -/
def lightgunController : UInt8 := 2

def signature : Bytes := Text.asciiBytes "ATARI7800"

/-- A cartridge about which nothing but the image is known. -/
def ofImage (image : Bytes) : Cartridge where
  image := image
  digest := Md5.hexDigest image
  digest_eq := rfl

/-- The number stored in four bytes, high byte first. -/
def sizeAt (data : Bytes) (i : Nat) : Nat :=
  (((data.getD i 0).toNat * 256 + (data.getD (i + 1) 0).toNat) * 256 +
    (data.getD (i + 2) 0).toNat) * 256 + (data.getD (i + 3) 0).toNat

/-- The title of a header: text up to the first zero byte, without blanks around it. -/
def headerTitle (header : Bytes) : String :=
  let bytes := (header.extract 17 49).toList.takeWhile (· != 0)
  String.ofList (Text.trim (Text.decodeLossy bytes))

/-- The mapper of a header. Of the flags, those of the largest layout count. -/
def headerMapper (code flags : UInt8) (size : Nat) : Mapper :=
  if code = 0 then
    if flags &&& 0x0A = 0x0A then .supercartLarge
    else if flags &&& 0x12 = 0x12 then .supercartRom
    else if flags &&& 0x06 = 0x06 then .supercartRam
    else if flags &&& 0x02 = 0x02 then .supercart
    else .ofSize size
  else if code = 1 then .activision
  else if code = 2 then .absolute
  else .normal

/-- Take the settings of a header. -/
def withHeader (cartridge : Cartridge) (header : Bytes) : Cartridge :=
  let flags := header.getD 54 0
  let pokey450 := flags &&& 0x40 != 0
  { cartridge with
    title := headerTitle header
    mapper := headerMapper (header.getD 53 0) flags cartridge.image.size
    pokey := pokey450 || flags &&& 0x01 != 0
    pokey450
    controllers := (header.getD 55 0, header.getD 56 0)
    region := .ofByte (header.getD 57 0)
    flags := 0
    expansion := header.getD 63 0 &&& 0x01 != 0 }

/-- Read a cartridge file. -/
def load (data : Bytes) : Except ImageError Cartridge :=
  if data.size ≤ headerSize then .error (.tooSmall data.size)
  else if data.extract 1 3 = Text.asciiBytes ">>" then .error .hackFormat
  else if data.extract 1 10 = signature then
    let declared := sizeAt data 49
    let available := data.size - headerSize
    if available < declared then .error (.truncated declared available)
    else .ok ((ofImage (data.extract headerSize (headerSize + declared))).withHeader data)
  else .ok { ofImage data with mapper := .ofSize data.size }

/-- The first of the sixteen addresses at which the cartridge's sound chip answers. -/
def pokeyBase (cartridge : Cartridge) : UInt16 := if cartridge.pokey450 then 0x0450 else 0x4000

end Cartridge
end Console7800
