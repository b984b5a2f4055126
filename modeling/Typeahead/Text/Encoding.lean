import Typeahead.Text.Lines

/-!
# Octets as text

How the octets of a file are read as text. A configuration names the encoding, and three
are known under all their names: UTF-8, Latin-1 and ASCII. Every other name counts as
unknown, also where the runtime of a host has a codec for it, so that what is said about
files is said about these three.
-/

namespace Typeahead.Text

/-! ## UTF-8

Reading never fails. An octet sequence is cut into well-formed characters and
maximal ill-formed parts, and each such part is read as one replacement
character. A part ends just before the first octet that cannot continue it,
and that octet is read afresh.
-/

abbrev Octets := List UInt8

/-- Stands for octets that are no character. -/
def replacement : Char := Char.ofNat 0xFFFD

namespace Utf8

/-- A character that has begun: its bits so far, the values its next octet may
have, and how many octets follow that one. -/
structure Pending where
  bits : Nat
  low : Nat
  high : Nat
  more : Nat
  deriving DecidableEq, Repr

/-- What an octet is at the place where a character begins. -/
inductive Lead where
  | whole (c : Char)
  | opening (p : Pending)
  | stray
  deriving DecidableEq, Repr

/-- The range of the second octet excludes overlong forms, surrogates and
numbers above the last code point. -/
def lead (b : Nat) : Lead :=
  if b < 0x80 then .whole (Char.ofNat b)
  else if b < 0xC2 then .stray
  else if b < 0xE0 then .opening ⟨b - 0xC0, 0x80, 0xBF, 0⟩
  else if b = 0xE0 then .opening ⟨0, 0xA0, 0xBF, 1⟩
  else if b = 0xED then .opening ⟨0xD, 0x80, 0x9F, 1⟩
  else if b < 0xF0 then .opening ⟨b - 0xE0, 0x80, 0xBF, 1⟩
  else if b = 0xF0 then .opening ⟨0, 0x90, 0xBF, 2⟩
  else if b < 0xF4 then .opening ⟨b - 0xF0, 0x80, 0xBF, 2⟩
  else if b = 0xF4 then .opening ⟨4, 0x80, 0x8F, 2⟩
  else .stray

def start (b : Nat) : List Char × Option Pending :=
  match lead b with
  | .whole c => ([c], none)
  | .opening p => ([], some p)
  | .stray => ([replacement], none)

/-- Reads one octet: the characters that it completes, and the one it leaves open. -/
def step (open? : Option Pending) (b : Nat) : List Char × Option Pending :=
  match open? with
  | none => start b
  | some p =>
    if p.low ≤ b ∧ b ≤ p.high then
      let bits := p.bits * 64 + (b - 0x80)
      match p.more with
      | 0 => ([Char.ofNat bits], none)
      | more + 1 => ([], some ⟨bits, 0x80, 0xBF, more⟩)
    else
      let next := start b
      (replacement :: next.1, next.2)

/-- What the end of the text, or an octet that begins a character, makes of an open one. -/
def flush : Option Pending → List Char
  | none => []
  | some _ => [replacement]

/-- Reads octets with a character open. -/
def decodeFrom (open? : Option Pending) : Octets → List Char
  | [] => flush open?
  | b :: rest =>
    let next := step open? b.toNat
    next.1 ++ decodeFrom next.2 rest

def decode (octets : Octets) : List Char :=
  decodeFrom none octets

def encodeCode (n : Nat) : Octets :=
  if n < 0x80 then [UInt8.ofNat n]
  else if n < 0x800 then [UInt8.ofNat (0xC0 + n / 64), UInt8.ofNat (0x80 + n % 64)]
  else if n < 0x10000 then
    [UInt8.ofNat (0xE0 + n / 4096), UInt8.ofNat (0x80 + n / 64 % 64), UInt8.ofNat (0x80 + n % 64)]
  else
    [UInt8.ofNat (0xF0 + n / 262144), UInt8.ofNat (0x80 + n / 4096 % 64),
      UInt8.ofNat (0x80 + n / 64 % 64), UInt8.ofNat (0x80 + n % 64)]

def encode (cs : List Char) : Octets :=
  cs.flatMap fun c => encodeCode c.toNat

/-- A part that is cut off is one replacement character, and what follows is kept. -/
example : decode [0xE2, 0x82, 0x41] = [replacement, 'A'] := by decide

/-- An overlong form is ill-formed from its second octet on. -/
example : decode [0xE0, 0x80, 0xAF] = [replacement, replacement, replacement] := by decide

end Utf8

/-! ## Encodings by name

A configured encoding is a name. Case, and which signs stand between its
letters and digits, do not matter. A name cannot hold the null character.
-/

inductive Encoding where
  | utf8
  | latin1
  | ascii
  deriving DecidableEq, Repr

namespace Encoding

/-- The runs of letters, digits and points of a name, in lower case and with
underscores between them. -/
def normalName (cs : List Char) : List Char :=
  let marked := cs.map fun c => if c.isAlphanum || c == '.' then c.toLower else '-'
  joinWith '_' ((splitOn '-' marked).filter (· ≠ []))

def properName : Encoding → String
  | .utf8 => "utf_8"
  | .latin1 => "latin_1"
  | .ascii => "ascii"

def otherNames : Encoding → List String
  | .utf8 => ["utf8", "u8", "utf", "utf8_ucs2", "utf8_ucs4", "cp65001"]
  | .latin1 => ["latin1", "latin", "l1", "iso8859", "iso8859_1", "8859", "cp819", "csisolatin1",
      "ibm819", "iso_8859_1", "iso_8859_1_1987", "iso_ir_100"]
  | .ascii => ["646", "ansi_x3.4_1968", "ansi_x3_4_1968", "ansi_x3.4_1986", "cp367", "csascii",
      "ibm367", "iso646_us", "iso_646.irv_1991", "iso_ir_6", "us", "us_ascii"]

/-- A name with underscores for its points. -/
def withoutPoints (cs : List Char) : List Char :=
  cs.map fun c => if c = '.' then '_' else c

/-- The encoding that a name stands for. In all but a proper name, a point may
stand for an underscore. -/
def ofName? (name : String) : Option Encoding :=
  let wanted := normalName name.toList
  let spellings := [String.ofList wanted, String.ofList (withoutPoints wanted)]
  [utf8, latin1, ascii].find? fun e =>
    e.properName == String.ofList wanted || spellings.any e.otherNames.contains

example : ofName? "ISO 8859.1" = some .latin1 ∧ ofName? "utf.8" = none := by decide +kernel

/-- One ASCII character for an octet, or the replacement character. -/
def asciiChar (b : UInt8) : Char :=
  if b.toNat < 0x80 then Char.ofNat b.toNat else replacement

/-- Reads octets as characters; octets that are no character are replaced. -/
def decode : Encoding → Octets → List Char
  | .utf8, octets => Utf8.decode octets
  | .latin1, octets => octets.map fun b => Char.ofNat b.toNat
  | .ascii, octets => octets.map asciiChar

end Encoding

end Typeahead.Text
