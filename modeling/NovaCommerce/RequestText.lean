import NovaCommerce.TextDecoding

/-!
# Base64, form bodies and integers in text

Further readers of the standard library that webhooks go through: base64 as a
lenient decoder takes it, the fields of a form body, and the integers that a
text can write.
-/

namespace RequestText

open TextDecoding

def base64Alphabet : List Char :=
  "ABCDEFGHIJKLMNOPQRSTUVWXYZabcdefghijklmnopqrstuvwxyz0123456789+/".toList

/-- The six bits that a character stands for. -/
def sixBits (char : Char) : Option Nat :=
  if char ∈ base64Alphabet then some (base64Alphabet.idxOf char) else none

/-- Where a decoder stands in a group of four characters: how many it has
read, the bits that are not yet part of a byte, and how many pads came in a
row. -/
structure Quad where
  read : Nat := 0
  left : Nat := 0
  pads : Nat := 0

/-- The bytes of the remaining characters.  Characters outside the alphabet
are skipped, a complete group of pads ends the text, and a group must not be
left open. -/
def decodeQuads : Quad → List Char → Option Bytes
  | quad, [] => if quad.read = 0 then some [] else none
  | quad, char :: rest =>
      if char = '=' then
        if 2 ≤ quad.read then
          if 4 ≤ quad.read + quad.pads + 1 then some []
          else decodeQuads { quad with pads := quad.pads + 1 } rest
        else decodeQuads quad rest
      else
        match sixBits char with
        | none => decodeQuads quad rest
        | some bits =>
            match quad.read with
            | 0 => decodeQuads { read := 1, left := bits } rest
            | 1 =>
                (decodeQuads { read := 2, left := bits % 16 } rest).map
                  ((quad.left * 4 + bits / 16).toUInt8 :: ·)
            | 2 =>
                (decodeQuads { read := 3, left := bits % 4 } rest).map
                  ((quad.left * 16 + bits / 4).toUInt8 :: ·)
            | _ =>
                (decodeQuads { } rest).map
                  ((quad.left * 64 + bits).toUInt8 :: ·)

/-- `base64.b64decode` of a text; `none` where it raises. -/
def b64decode (text : List Char) : Option Bytes :=
  if text.all fun char => char.toNat < 128 then decodeQuads { } text else none

def base64Char (bits : Nat) : Char :=
  base64Alphabet.getD bits '='

/-- `base64.b64encode`. -/
def b64encode : Bytes → List Char
  | first :: second :: third :: rest =>
      let group := bigEndian [first, second, third]
      [base64Char (group / 262144), base64Char (group / 4096 % 64),
        base64Char (group / 64 % 64), base64Char (group % 64)] ++
        b64encode rest
  | [first, second] =>
      let group := bigEndian [first, second] * 4
      [base64Char (group / 4096), base64Char (group / 64 % 64),
        base64Char (group % 64), '=']
  | [first] =>
      let group := first.toNat * 16
      [base64Char (group / 64), base64Char (group % 64), '=', '=']
  | [] => []

example : b64decode (b64encode (ascii "Paycom:key")) =
    some (ascii "Paycom:key") := by
  decide

/-- The pieces of a text between separators. -/
def splitAt (separator : Char) : List Char → List (List Char)
  | [] => [[]]
  | char :: rest =>
      if char = separator then [] :: splitAt separator rest
      else
        match splitAt separator rest with
        | [] => [[char]]
        | piece :: pieces => (char :: piece) :: pieces

/-- What stands before and after the first separator. -/
def partitionAt (separator : Char) (text : List Char) :
    List Char × List Char :=
  (text.takeWhile fun char => char ≠ separator,
    (text.dropWhile fun char => char ≠ separator).drop 1)

def hexDigit (char : Char) : Option Nat :=
  if char.isDigit then some (char.toNat - '0'.toNat)
  else if 'a' ≤ char && char ≤ 'f' then some (char.toNat - 'a'.toNat + 10)
  else if 'A' ≤ char && char ≤ 'F' then some (char.toNat - 'A'.toNat + 10)
  else none

/-- The byte that a percent sign and two digits write. -/
def escapedByte (rest : List Char) : Option UInt8 :=
  match rest with
  | high :: low :: _ => do
      let high ← hexDigit high
      let low ← hexDigit low
      some (high * 16 + low).toUInt8
  | _ => none

/-- `unquote`: runs of ASCII characters are read as bytes of UTF-8 after their
escapes were replaced, and other characters stand for themselves.  `run` holds
the bytes of the current run, last byte first, and `skip` counts the digits of
an escape that was already read. -/
def unquoteFrom : Bytes → Nat → List Char → List Char
  | run, _, [] => (replacing (decode (utf8Step false) run.reverse)).toList
  | run, skip + 1, _ :: rest => unquoteFrom run skip rest
  | run, 0, char :: rest =>
      if 128 ≤ char.toNat then
        (replacing (decode (utf8Step false) run.reverse)).toList ++
          char :: unquoteFrom [] 0 rest
      else if char = '%' then
        match escapedByte rest with
        | some byte => unquoteFrom (byte :: run) 2 rest
        | none => unquoteFrom (char.toNat.toUInt8 :: run) 0 rest
      else unquoteFrom (char.toNat.toUInt8 :: run) 0 rest

def unquote (text : List Char) : List Char :=
  unquoteFrom [] 0 (text.map fun char => if char = '+' then ' ' else char)

/-- The pairs of a form body, without those that have no value. -/
def formPairs (body : String) : List (String × String) :=
  (splitAt '&' body.toList).filterMap fun piece =>
    let (name, value) := partitionAt '=' piece
    if value.isEmpty then none
    else some (String.ofList (unquote name), String.ofList (unquote value))

/-- Keep the first pair of every key. -/
def firstOfEach : List (String × String) → List (String × String)
  | [] => []
  | pair :: pairs =>
      pair :: (firstOfEach pairs).filter fun other => other.1 ≠ pair.1

/-- The first value of every field, by `parse_qs`. -/
def firstValues (body : String) : List (String × String) :=
  firstOfEach (formPairs body)

example : firstValues "a=1&b=%d0%96+x&a=2&c=" = [("a", "1"), ("b", "Ж x")] := by
  decide

/-- The first digit of every run of ten decimal digits. -/
def digitZeros : List Nat :=
  [0x30, 0x660, 0x6F0, 0x7C0, 0x966, 0x9E6, 0xA66, 0xAE6, 0xB66, 0xBE6, 0xC66,
    0xCE6, 0xD66, 0xDE6, 0xE50, 0xED0, 0xF20, 0x1040, 0x1090, 0x17E0, 0x1810,
    0x1946, 0x19D0, 0x1A80, 0x1A90, 0x1B50, 0x1BB0, 0x1C40, 0x1C50, 0xA620,
    0xA8D0, 0xA900, 0xA9D0, 0xA9F0, 0xAA50, 0xABF0, 0xFF10, 0x104A0, 0x10D30,
    0x11066, 0x110F0, 0x11136, 0x111D0, 0x112F0, 0x11450, 0x114D0, 0x11650,
    0x116C0, 0x11730, 0x118E0, 0x11950, 0x11C50, 0x11D50, 0x11DA0, 0x11F50,
    0x16A60, 0x16AC0, 0x16B50, 0x1D7CE, 0x1D7D8, 0x1D7E2, 0x1D7EC, 0x1D7F6,
    0x1E140, 0x1E2F0, 0x1E4F0, 0x1E950, 0x1FBF0]

def decimalDigit (char : Char) : Option Nat :=
  (digitZeros.find? fun first =>
    first ≤ char.toNat && char.toNat < first + 10).map (char.toNat - ·)

/-- White space around an integer; the separators 0x1C to 0x1F do not count. -/
def spaces : List Nat :=
  [0x9, 0xA, 0xB, 0xC, 0xD, 0x20, 0x85, 0xA0, 0x1680, 0x2000, 0x2001, 0x2002,
    0x2003, 0x2004, 0x2005, 0x2006, 0x2007, 0x2008, 0x2009, 0x200A, 0x2028,
    0x2029, 0x202F, 0x205F, 0x3000]

def strip (text : List Char) : List Char :=
  let isSpace := fun char : Char => char.toNat ∈ spaces
  ((text.dropWhile isSpace).reverse.dropWhile isSpace).reverse

/-- Digits with single underscores between them; `number` is what was read so
far. -/
def digitsFrom : Nat → List Char → Option Nat
  | number, [] => some number
  | number, '_' :: char :: rest =>
      match decimalDigit char with
      | some digit => digitsFrom (number * 10 + digit) rest
      | none => none
  | number, char :: rest =>
      match decimalDigit char with
      | some digit => digitsFrom (number * 10 + digit) rest
      | none => none

/-- The number of digits that an integer may have. -/
def maxDigits : Nat := 4300

def natOf (text : List Char) : Option Nat :=
  match text with
  | [] => none
  | first :: _ =>
      if first = '_' || maxDigits < (text.filter fun char => char ≠ '_').length
      then none
      else digitsFrom 0 text

/-- `int` of a text; `none` where it raises `ValueError`. -/
def intOf (text : String) : Option Int :=
  let text := strip text.toList
  match text with
  | '-' :: rest => (natOf rest).map fun number => -(number : Int)
  | '+' :: rest => (natOf rest).map fun number => (number : Int)
  | _ => (natOf text).map fun number => (number : Int)

example : [" 1_0 ", "-3", "٢", "1__0", ""].map intOf =
    [some 10, some (-3), some 2, none, none] := by
  decide

end RequestText
