import NovaCommerce.Json
import NovaCommerce.TextDecoding

/-!
# Reading JSON texts

The reader of the standard library.  It goes through the text from the left; a
failure remembers what was left of the text at the place it complains about,
from which the line and the column are counted.
-/

namespace NovaCommerce

open TextDecoding

namespace Json

/-- Why a text could not be read. -/
inductive Failure where
  | malformed (message : String) (left : List Char)
  | tooManyDigits (count : Nat)

abbrev Scanned (Value : Type) := Except Failure (Value × List Char)

def isSpace (char : Char) : Bool :=
  char = ' ' || char = '\t' || char = '\n' || char = '\r'

def skipSpace (chars : List Char) : List Char :=
  chars.dropWhile isSpace

def digitValue (char : Char) : Nat :=
  char.toNat - '0'.toNat

/-- The number that decimal digits write. -/
def decimal (digits : List Char) : Nat :=
  digits.foldl (fun number digit => number * 10 + digitValue digit) 0

def hexValue (char : Char) : Option Nat :=
  if char.isDigit then some (digitValue char)
  else if 'a' ≤ char && char ≤ 'f' then some (char.toNat - 'a'.toNat + 10)
  else if 'A' ≤ char && char ≤ 'F' then some (char.toNat - 'A'.toNat + 10)
  else none

/-- Four hexadecimal digits. -/
def hex4 : List Char → Option Nat
  | [first, second, third, fourth] => do
      let digits ← [first, second, third, fourth].mapM hexValue
      some (digits.foldl (fun number digit => number * 16 + digit) 0)
  | _ => none

def isHighSurrogate (code : Nat) : Bool :=
  0xD800 ≤ code && code < 0xDC00

def isLowSurrogate (code : Nat) : Bool :=
  0xDC00 ≤ code && code < 0xE000

/-- What follows a backslash and a `u`: four digits, and a second escape when
the first one is the upper half of a pair.  A string cannot end here, so that
one more character is asked for. -/
def unicodeEscape (marker : Char) (rest : List Char) : Scanned Nat :=
  let refused left := .error (.malformed "Invalid \\uXXXX escape" left)
  if rest.length ≤ 4 then refused (marker :: rest)
  else
    match hex4 (rest.take 4) with
    | none => refused (marker :: rest)
    | some code =>
        let rest := rest.drop 4
        if isHighSurrogate code && 6 < rest.length &&
            rest.take 2 = ['\\', 'u'] then
          match hex4 ((rest.drop 2).take 4) with
          | none => refused (rest.drop 1)
          | some low =>
              if isLowSurrogate low then
                .ok (0x10000 + (code - 0xD800) * 0x400 + (low - 0xDC00),
                  rest.drop 6)
              else .ok (code, rest)
        else .ok (code, rest)

def simpleEscape (char : Char) : Option Char :=
  [('"', '"'), ('\\', '\\'), ('/', '/'), ('b', '\x08'), ('f', '\x0C'),
    ('n', '\n'), ('r', '\r'), ('t', '\t')].lookup char

/-- The rest of a string whose opening quote stands at `start`. -/
def scanString (start : List Char) :
    Nat → List Char → List Char → Scanned String
  | fuel + 1, char :: rest, text =>
      if char = '"' then .ok (String.ofList text.reverse, rest)
      else if char = '\\' then
        match rest with
        | [] => .error (.malformed "Unterminated string starting at" start)
        | escaped :: rest =>
            if escaped = 'u' then
              match unicodeEscape escaped rest with
              | .error failure => .error failure
              | .ok (code, rest) =>
                  scanString start fuel rest (charOf code :: text)
            else
              match simpleEscape escaped with
              | some meant => scanString start fuel rest (meant :: text)
              | none => .error
                  (.malformed "Invalid \\escape" (char :: escaped :: rest))
      else if char.toNat < 32 then
        .error (.malformed "Invalid control character at" (char :: rest))
      else scanString start fuel rest (char :: text)
  | _, _, _ => .error (.malformed "Unterminated string starting at" start)

/-- A fraction, if a point with a digit follows. -/
def scanFraction (chars : List Char) : List Char × List Char :=
  match chars with
  | '.' :: rest =>
      let digits := rest.takeWhile Char.isDigit
      if digits.isEmpty then ([], chars)
      else (digits, rest.dropWhile Char.isDigit)
  | _ => ([], chars)

/-- An exponent, if its sign and a digit follow. -/
def scanExponent (chars : List Char) : Option Int × List Char :=
  match chars with
  | [] => (none, [])
  | mark :: rest =>
      if mark = 'e' || mark = 'E' then
        let isNegative := rest.head? = some '-'
        let unsigned :=
          if isNegative || rest.head? = some '+' then rest.drop 1 else rest
        let digits := unsigned.takeWhile Char.isDigit
        if digits.isEmpty then (none, chars)
        else
          let size : Int := decimal digits
          (some (if isNegative then -size else size),
            unsigned.dropWhile Char.isDigit)
      else (none, chars)

/-- The number of digits that an integer may have. -/
def maxDigits : Nat := 4300

def scanNumber (chars : List Char) : Scanned Json :=
  let isNegative := chars.head? = some '-'
  let unsigned := if isNegative then chars.drop 1 else chars
  let signed (size : Nat) : Int := if isNegative then -size else size
  -- A leading zero stands alone.
  let digits :=
    if unsigned.head? = some '0' then ['0']
    else unsigned.takeWhile Char.isDigit
  if digits.isEmpty then .error (.malformed "Expecting value" chars)
  else
    let (fraction, afterFraction) :=
      scanFraction (unsigned.drop digits.length)
    let (exponent, rest) := scanExponent afterFraction
    if fraction.isEmpty && exponent.isNone then
      if maxDigits < digits.length then .error (.tooManyDigits digits.length)
      else .ok (.int (signed (decimal digits)), rest)
    else
      let mantissa := signed (decimal (digits ++ fraction))
      let exponent := exponent.getD 0 - fraction.length
      if overflows mantissa exponent then
        .ok (.nonFinite (if isNegative then "-Infinity" else "Infinity"), rest)
      else .ok (.float mantissa exponent, rest)

/-- The constants, with the text that writes each. -/
def constants : List (List Char × Json) :=
  [("null".toList, .null), ("true".toList, .bool true),
    ("false".toList, .bool false), ("NaN".toList, .nonFinite "NaN"),
    ("Infinity".toList, .nonFinite "Infinity"),
    ("-Infinity".toList, .nonFinite "-Infinity")]

def scanConstant (chars : List Char) : Option (Json × List Char) :=
  (constants.find? fun entry => entry.1.isPrefixOf chars).map fun entry =>
    (entry.2, chars.drop entry.1.length)

/-- A repeated key keeps its place and takes the new value. -/
def setField (fields : List (String × Json)) (key : String) (value : Json) :
    List (String × Json) :=
  if fields.any fun field => field.1 = key then
    fields.map fun field => if field.1 = key then (key, value) else field
  else fields ++ [(key, value)]

/-- What the reader is about to read: a value, the next member of an object,
or the next item of an array. -/
inductive Expected where
  | value
  | member (fields : List (String × Json))
  | item (items : List Json)

/-- Every step takes a character, so that the length of the text is enough
fuel. -/
def scan : Nat → Expected → List Char → Scanned Json
  | 0, _, chars => .error (.malformed "Expecting value" chars)
  | fuel + 1, .value, chars =>
      match chars with
      | [] => .error (.malformed "Expecting value" [])
      | char :: rest =>
          if char = '"' then
            match scanString chars rest.length rest [] with
            | .error failure => .error failure
            | .ok (text, rest) => .ok (.str text, rest)
          else if char = '{' then
            let rest := skipSpace rest
            if rest.head? = some '}' then .ok (.obj [], rest.drop 1)
            else scan fuel (.member []) rest
          else if char = '[' then
            let rest := skipSpace rest
            if rest.head? = some ']' then .ok (.arr [], rest.drop 1)
            else scan fuel (.item []) rest
          else
            match scanConstant chars with
            | some found => .ok found
            | none => scanNumber chars
  | fuel + 1, .member fields, chars =>
      if chars.head? ≠ some '"' then
        .error (.malformed
          "Expecting property name enclosed in double quotes" chars)
      else
        match scanString chars chars.length (chars.drop 1) [] with
        | .error failure => .error failure
        | .ok (key, rest) =>
            let rest := skipSpace rest
            if rest.head? ≠ some ':' then
              .error (.malformed "Expecting ':' delimiter" rest)
            else
              match scan fuel .value (skipSpace (rest.drop 1)) with
              | .error failure => .error failure
              | .ok (value, rest) =>
                  let fields := setField fields key value
                  let rest := skipSpace rest
                  if rest.head? = some '}' then .ok (.obj fields, rest.drop 1)
                  else if rest.head? ≠ some ',' then
                    .error (.malformed "Expecting ',' delimiter" rest)
                  else
                    let next := skipSpace (rest.drop 1)
                    if next.head? = some '}' then
                      .error (.malformed
                        "Illegal trailing comma before end of object" rest)
                    else scan fuel (.member fields) next
  | fuel + 1, .item items, chars =>
      match scan fuel .value chars with
      | .error failure => .error failure
      | .ok (value, rest) =>
          let items := items ++ [value]
          let rest := skipSpace rest
          if rest.head? = some ']' then .ok (.arr items, rest.drop 1)
          else if rest.head? ≠ some ',' then
            .error (.malformed "Expecting ',' delimiter" rest)
          else
            let next := skipSpace (rest.drop 1)
            if next.head? = some ']' then
              .error (.malformed
                "Illegal trailing comma before end of array" rest)
            else scan fuel (.item items) next

/-- How the reader of a body fails: with a `JSONDecodeError`, which its callers
catch, or with an error that they let through. -/
inductive LoadError where
  | decodeError (text : String)
  | unicodeDecodeError
  | valueError
  deriving DecidableEq

/-- The text of a `JSONDecodeError`. -/
def failureText (text : List Char) (message : String) (left : List Char) :
    String :=
  let position := text.length - left.length
  let before := text.take position
  let line := before.count '\n' + 1
  let column := (before.reverse.takeWhile fun char => char ≠ '\n').length + 1
  s!"{message}: line {line} column {column} (char {position})"

def parse (text : List Char) : Except LoadError Json :=
  match scan (text.length + 1) .value (skipSpace text) with
  | .error (.malformed message left) =>
      .error (.decodeError (failureText text message left))
  | .error (.tooManyDigits _) => .error .valueError
  | .ok (value, rest) =>
      let left := skipSpace rest
      if left.isEmpty then .ok value
      else .error (.decodeError (failureText text "Extra data" left))

/-- `json.loads(body or b"{}")`. -/
def loads (body : Bytes) : Except LoadError Json :=
  match decodeDetected (if body.isEmpty then ascii "\x7b\x7d" else body) with
  | none => .error .unicodeDecodeError
  | some text => parse text.toList

/-- One half of a pair of surrogates can be read, but not stored. -/
example : (loads (ascii "\"\\ud83d\"")).toOption.map storable = some false ∧
    (loads (ascii "\"\\ud83d\\ude00\"")).toOption.map storable = some true := by
  decide +kernel

end Json

end NovaCommerce
