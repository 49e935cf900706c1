/-
This file reads JSON texts. Besides the standard values, `NaN`, `Infinity` and `-Infinity` are
numbers. An integer with too many digits is a fault of its own, and so are arrays and objects that
are nested too deep.
-/

import ItemFilter.Host
import ItemFilter.Json.Basic
import ItemFilter.Text.Hexadecimal
import ItemFilter.Text.Numeral

namespace ItemFilter.Json

inductive Container where
  | array
  | object
deriving DecidableEq

/-- The container that goes one level too deep. -/
structure TooDeep where
  container : Container
deriving DecidableEq

def TooDeep.message (fault : TooDeep) : String :=
  "maximum recursion depth exceeded while decoding a JSON " ++
    (match fault.container with
      | .array => "array"
      | .object => "object") ++ " from a unicode string"

inductive Fault where
  | malformed
  | numeral (fault : NumeralTooLong)
  | tooDeep (fault : TooDeep)
deriving DecidableEq

def isSpace (character : Char) : Bool :=
  character == ' ' || character == '\t' || character == '\n' || character == '\r'

def skipSpace (text : Text) : Text :=
  text.dropWhile isSpace

def isHighSurrogate (unit : Nat) : Bool :=
  0xD800 ≤ unit && unit ≤ 0xDBFF

def isLowSurrogate (unit : Nat) : Bool :=
  0xDC00 ≤ unit && unit ≤ 0xDFFF

/-- A surrogate without its partner is read as the replacement character. -/
def unitCharacter (unit : Nat) : Char :=
  if isHighSurrogate unit || isLowSurrogate unit then Char.ofNat 0xFFFD else Char.ofNat unit

def pairCharacter (high low : Nat) : Char :=
  Char.ofNat (0x10000 + (high - 0xD800) * 0x400 + (low - 0xDC00))

/-- A high surrogate and the low one after it are one character. -/
def joinUnits : List Nat → Text
  | [] => []
  | [unit] => [unitCharacter unit]
  | unit :: next :: rest =>
      if isHighSurrogate unit && isLowSurrogate next then pairCharacter unit next :: joinUnits rest
      else unitCharacter unit :: joinUnits (next :: rest)

def simpleEscape? : Char → Option Char
  | '"' => some '"'
  | '\\' => some '\\'
  | '/' => some '/'
  | 'b' => some '\x08'
  | 'f' => some '\x0c'
  | 'n' => some '\n'
  | 'r' => some '\r'
  | 't' => some '\t'
  | _ => none

/-- The string after its opening quote and the reversed units already read, with the text after its
closing quote. -/
def readString (units : List Nat) : Text → Except Fault (Text × Text)
  | [] => .error .malformed
  | '"' :: rest => .ok (joinUnits units.reverse, rest)
  | '\\' :: 'u' :: a :: b :: c :: d :: rest =>
      match Text.hexRun? [a, b, c, d] with
      | some unit => readString (unit :: units) rest
      | none => .error .malformed
  | '\\' :: escape :: rest =>
      match simpleEscape? escape with
      | some character => readString (character.toNat :: units) rest
      | none => .error .malformed
  | character :: rest =>
      if character.toNat < 0x20 || character == '\\' then .error .malformed
      else readString (character.toNat :: units) rest

/-- Whether `digits * 10 ^ exponent` is rounded to infinity. -/
def overflows (digits : Text) (exponent : Int) : Bool :=
  let significant := digits.dropWhile (· == '0')
  let lead : Int := significant.length - 1 + exponent
  if significant.isEmpty || lead < -400 then false
  else if 400 < lead then true
  else
    let bound := Nat.pow 2 1024 - Nat.pow 2 970
    let value := Text.digitsValue significant
    if 0 ≤ exponent then decide (bound ≤ value * Nat.pow 10 exponent.toNat)
    else decide (bound * Nat.pow 10 (-exponent).toNat ≤ value)

def realValue (sign : Text.Sign) (digits : Text) (exponent : Int) : RealClass :=
  if overflows digits exponent then
    match sign with
    | .plus => .infinity
    | .minus => .negativeInfinity
  else .finite

/-- The digits after a point that a digit follows. -/
def readFraction : Text → Text × Text
  | '.' :: rest =>
      let digits := rest.takeWhile Text.isPlainDigit
      if digits.isEmpty then ([], '.' :: rest) else (digits, rest.dropWhile Text.isPlainDigit)
  | rest => ([], rest)

/-- The exponent, if a digit follows its mark and sign. -/
def readExponent (text : Text) : Option Int × Text :=
  match text with
  | mark :: rest =>
      if mark = 'e' ∨ mark = 'E' then
        let (sign, tail) := Text.splitSign rest
        let digits := tail.takeWhile Text.isPlainDigit
        if digits.isEmpty then (none, text)
        else (some (sign.apply (Text.digitsValue digits)), tail.dropWhile Text.isPlainDigit)
      else (none, text)
  | [] => (none, [])

/-- The digits before the point: a lone zero, or no leading zero. -/
def readWhole : Text → Option (Text × Text)
  | '0' :: rest => some (['0'], rest)
  | text =>
      let digits := text.takeWhile Text.isPlainDigit
      if digits.isEmpty then none else some (digits, text.dropWhile Text.isPlainDigit)

/-- The sign of a number is written only if it is a minus. -/
def splitMinus : Text → Text.Sign × Text
  | '-' :: rest => (.minus, rest)
  | rest => (.plus, rest)

def readNumber (text : Text) : Except Fault (Json × Text) :=
  let (sign, unsigned) := splitMinus text
  match readWhole unsigned with
  | none => .error .malformed
  | some (whole, rest) =>
      let (fraction, rest) := readFraction rest
      match fraction, readExponent rest with
      | [], (none, rest) =>
          match Text.readDigits whole with
          | .ok value => .ok (.integer (sign.apply value), rest)
          | .error fault => .error (.numeral fault)
      | fraction, (exponent, rest) =>
          let place : Int := exponent.getD 0 - fraction.length
          .ok (.real (realValue sign (whole ++ fraction) place), rest)

/-- The values that are written as a word. -/
def words : List (Text × Json) :=
  [("null".toList, .null), ("true".toList, .boolean true), ("false".toList, .boolean false),
   ("NaN".toList, .real .notANumber), ("Infinity".toList, .real .infinity),
   ("-Infinity".toList, .real .negativeInfinity)]

def readWord? (text : Text) : Option (Json × Text) :=
  words.findSome? fun (word, value) =>
    if word.isPrefixOf text then some (value, text.drop word.length) else none

/-- One level less, for a container that is opened. -/
def enter (container : Container) : Nat → Except Fault Nat
  | 0 => .error (.tooDeep ⟨container⟩)
  | level + 1 => .ok level

mutual

/-- A value at the start of the text. The room bounds the number of steps, and the level says how
many containers may be opened around each other. -/
def readValue : Nat → Nat → Text → Except Fault (Json × Text)
  | 0, _, _ => .error .malformed
  | room + 1, level, text =>
      match text with
      | '"' :: rest => do
          let (value, rest) ← readString [] rest
          return (.string value, rest)
      | '{' :: rest => do
          let level ← enter .object level
          match skipSpace rest with
          | '}' :: rest => return (.object [], rest)
          | rest => readFields room level [] rest
      | '[' :: rest => do
          let level ← enter .array level
          match skipSpace rest with
          | ']' :: rest => return (.array [], rest)
          | rest => readItems room level [] rest
      | text =>
          match readWord? text with
          | some found => .ok found
          | none => readNumber text

/-- The fields after those already read. -/
def readFields : Nat → Nat → List (Text × Json) → Text → Except Fault (Json × Text)
  | 0, _, _, _ => .error .malformed
  | room + 1, level, fields, text =>
      match text with
      | '"' :: rest => do
          let (key, rest) ← readString [] rest
          match skipSpace rest with
          | ':' :: rest =>
              let (value, rest) ← readValue room level (skipSpace rest)
              let fields := putField key value fields
              match skipSpace rest with
              | '}' :: rest => return (.object fields, rest)
              | ',' :: rest => readFields room level fields (skipSpace rest)
              | _ => .error .malformed
          | _ => .error .malformed
      | _ => .error .malformed

/-- The items after the reversed ones already read. -/
def readItems : Nat → Nat → List Json → Text → Except Fault (Json × Text)
  | 0, _, _, _ => .error .malformed
  | room + 1, level, items, text => do
      let (value, rest) ← readValue room level text
      match skipSpace rest with
      | ']' :: rest => return (.array (value :: items).reverse, rest)
      | ',' :: rest => readItems room level (value :: items) (skipSpace rest)
      | _ => .error .malformed

end

/-- Reads a whole document: one value between spaces, without a byte order mark. A container takes
a step for itself and one for each of its parts. -/
def parse [Host] (text : Text) : Except Fault Json := do
  let (value, rest) ← readValue (2 * text.length + 1) Host.documentDepth (skipSpace text)
  if (skipSpace rest).isEmpty then return value else .error .malformed

end ItemFilter.Json
