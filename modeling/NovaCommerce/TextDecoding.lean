import Mathlib.Init

/-!
# Decoding bytes into text

The Unicode encodings in which a request body can arrive.  A decoder reads one
unit after another from the front of the bytes; a unit is a code point, or
`none` for the longest piece that cannot belong to any text.  What happens to
such pieces is the caller's choice: refuse the whole text, leave them out, or
put a replacement character in their place.
-/

namespace TextDecoding

abbrev Bytes := List UInt8

/-- What one step of a decoder reads, and the bytes that follow. -/
abbrev Step := Option Nat × Bytes

/-- Text in the ASCII range as bytes. -/
def ascii (text : String) : Bytes :=
  text.toList.map fun char => char.toNat.toUInt8

/-- From the first surrogate to the last 2048 private-use characters. -/
def surrogateOffset : Nat := 0x102000

/-- The character of a code point.  A surrogate, one half of a pair in UTF-16,
is not a character, but Python's texts can hold it; it stands in a text as a
private-use character, which no text is taken to hold otherwise. -/
def charOf (codePoint : Nat) : Char :=
  if codePoint.isValidChar then Char.ofNat codePoint
  else Char.ofNat (codePoint + surrogateOffset)

def standsForHighSurrogate (char : Char) : Bool :=
  0xD800 + surrogateOffset ≤ char.toNat && char.toNat < 0xDC00 + surrogateOffset

def standsForSurrogate (char : Char) : Bool :=
  0xD800 + surrogateOffset ≤ char.toNat

/-- Every surrogate is one half of a pair. -/
def pairsSurrogates : List Char → Bool
  | [] => true
  | [char] => !standsForSurrogate char
  | first :: second :: rest =>
      if standsForHighSurrogate first then
        standsForSurrogate second && !standsForHighSurrogate second &&
          pairsSurrogates rest
      else !standsForSurrogate first && pairsSurrogates (second :: rest)

/-- Continuation bytes carry six bits. -/
def isContinuation (byte : UInt8) : Bool :=
  128 ≤ byte && byte ≤ 191

/-- Read the continuation bytes of a sequence whose second byte is already
known to be in range. -/
def continuation : Nat → Nat → Bytes → Step
  | 0, codePoint, rest => (some codePoint, rest)
  | _ + 1, _, [] => (none, [])
  | missing + 1, codePoint, byte :: rest =>
      if isContinuation byte then
        continuation missing (codePoint * 64 + (byte.toNat - 128)) rest
      else (none, byte :: rest)

/-- A sequence whose first byte carries `bits` and whose second byte lies
between two bounds. -/
def sequence (missing bits : Nat) (low high : UInt8) : Bytes → Step
  | [] => (none, [])
  | byte :: rest =>
      if low ≤ byte && byte ≤ high then
        continuation missing (bits * 64 + (byte.toNat - 128)) rest
      else (none, byte :: rest)

/-- One unit of UTF-8.  Overlong forms and numbers beyond the last code point
are excluded by the range of the second byte, and surrogates too unless they
are let pass. -/
def utf8Step (passSurrogates : Bool) (byte : UInt8) (rest : Bytes) : Step :=
  if byte < 128 then (some byte.toNat, rest)
  else if byte < 194 then (none, rest)
  else if byte < 224 then sequence 0 (byte.toNat - 192) 128 191 rest
  else if byte = 224 then sequence 1 0 160 191 rest
  else if byte = 237 && !passSurrogates then sequence 1 13 128 159 rest
  else if byte < 240 then sequence 1 (byte.toNat - 224) 128 191 rest
  else if byte = 240 then sequence 2 0 144 191 rest
  else if byte < 244 then sequence 2 (byte.toNat - 240) 128 191 rest
  else if byte = 244 then sequence 2 4 128 143 rest
  else (none, rest)

/-- The number that some bytes write, most significant byte first. -/
def bigEndian (bytes : Bytes) : Nat :=
  bytes.foldl (fun number byte => number * 256 + byte.toNat) 0

def number (isBig : Bool) (bytes : Bytes) : Nat :=
  bigEndian (if isBig then bytes else bytes.reverse)

/-- One unit of UTF-16, in which a pair of surrogates is one code point and a
single surrogate is let pass. -/
def utf16Step (isBig : Bool) (first : UInt8) : Bytes → Step
  | second :: third :: fourth :: rest =>
      let high := number isBig [first, second]
      let low := number isBig [third, fourth]
      if 0xD800 ≤ high && high < 0xDC00 && 0xDC00 ≤ low && low < 0xE000 then
        (some (0x10000 + (high - 0xD800) * 0x400 + (low - 0xDC00)), rest)
      else (some high, third :: fourth :: rest)
  | second :: rest => (some (number isBig [first, second]), rest)
  | [] => (none, [])

def utf32Step (isBig : Bool) (first : UInt8) : Bytes → Step
  | second :: third :: fourth :: rest =>
      let codePoint := number isBig [first, second, third, fourth]
      if codePoint < 0x110000 then (some codePoint, rest) else (none, rest)
  | _ => (none, [])

/-- All units of the bytes; every step takes at least one byte. -/
def units (step : UInt8 → Bytes → Step) : Nat → Bytes → List (Option Nat)
  | 0, _ => []
  | _ + 1, [] => []
  | fuel + 1, byte :: rest =>
      (step byte rest).1 :: units step fuel (step byte rest).2

def decode (step : UInt8 → Bytes → Step) (bytes : Bytes) :
    List (Option Nat) :=
  units step bytes.length bytes

/-- Refuse a text with a unit that cannot be read. -/
def strict (decoded : List (Option Nat)) : Option String :=
  (decoded.mapM id).map fun codePoints => String.ofList (codePoints.map charOf)

/-- Leave out the units that cannot be read. -/
def ignoring (decoded : List (Option Nat)) : String :=
  String.ofList ((decoded.filterMap id).map charOf)

/-- Put the replacement character for the units that cannot be read. -/
def replacing (decoded : List (Option Nat)) : String :=
  String.ofList (decoded.map fun unit => (unit.map charOf).getD '\uFFFD')

example : strict (decode (utf8Step false) [0x63, 0xC3, 0xA9]) = some "cé" := by
  decide

example :
    ignoring (decode (utf8Step false) [0x63, 0xE1, 0x80, 0x61]) = "ca" := by
  decide

/-- The encoding of a JSON text is seen from a byte order mark or from the
position of its zero bytes. -/
def decodeDetected (bytes : Bytes) : Option String :=
  match bytes with
  | 0x00 :: 0x00 :: 0xFE :: 0xFF :: rest =>
      strict (decode (utf32Step true) rest)
  | 0xFF :: 0xFE :: 0x00 :: 0x00 :: rest =>
      strict (decode (utf32Step false) rest)
  | 0xFE :: 0xFF :: rest => strict (decode (utf16Step true) rest)
  | 0xFF :: 0xFE :: rest => strict (decode (utf16Step false) rest)
  | 0xEF :: 0xBB :: 0xBF :: rest => strict (decode (utf8Step true) rest)
  | 0x00 :: second :: _ :: _ :: _ =>
      if second = 0 then strict (decode (utf32Step true) bytes)
      else strict (decode (utf16Step true) bytes)
  | _ :: 0x00 :: third :: fourth :: _ =>
      if third = 0 && fourth = 0 then strict (decode (utf32Step false) bytes)
      else strict (decode (utf16Step false) bytes)
  | [0x00, _] => strict (decode (utf16Step true) bytes)
  | [_, 0x00] => strict (decode (utf16Step false) bytes)
  | _ => strict (decode (utf8Step true) bytes)

end TextDecoding
