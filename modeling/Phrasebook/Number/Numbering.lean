/-! # Numbering systems

    The digits with which numbers are written in base ten. All systems but one
    have digits that follow each other in the order of code points.
-/

namespace Phrasebook

/-- A set of ten digits under a name. -/
structure NumberingSystem where
  name : String
  /-- The digits from zero to nine. -/
  digits : List Char
  deriving DecidableEq, Repr

namespace NumberingSystem

/-- The system whose digits are ten characters in a row, given by the first. -/
def inRow (name : String) (first : Nat) : NumberingSystem :=
  ⟨name, (List.range 10).map fun n => Char.ofNat (first + n)⟩

def latin : NumberingSystem := inRow "latn" 0x30

def arabic : NumberingSystem := inRow "arab" 0x660

def chinese : NumberingSystem :=
  ⟨"hanidec", ['〇', '一', '二', '三', '四', '五', '六', '七', '八', '九']⟩

/-- The zeros of the systems whose digits stand in a row. -/
def zeros : List (String × Nat) :=
  [("adlm", 0x1E950), ("arab", 0x660), ("arabext", 0x6F0), ("beng", 0x9E6), ("cakm", 0x11136),
    ("deva", 0x966), ("gujr", 0xAE6), ("guru", 0xA66), ("khmr", 0x17E0), ("knda", 0xCE6),
    ("laoo", 0xED0), ("latn", 0x30), ("mlym", 0xD66), ("mymr", 0x1040), ("nkoo", 0x7C0),
    ("olck", 0x1C50), ("orya", 0xB66), ("tamldec", 0xBE6), ("telu", 0xC66), ("thai", 0xE50),
    ("tibt", 0xF20), ("vaii", 0xA620)]

/-- The system of a name. Known are the systems in use for some language, each ten
    digits in base ten; a name of any other way to write numbers has none. -/
def ofName? (name : String) : Option NumberingSystem :=
  if name = chinese.name then some chinese
  else (zeros.lookup name).map (inRow name)

/-- An ASCII digit in the digits of the system; any other character stays. -/
def write (s : NumberingSystem) (c : Char) : Char :=
  if c.isDigit then s.digits.getD (c.toNat - '0'.toNat) c else c

end NumberingSystem

end Phrasebook
