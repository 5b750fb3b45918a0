import LineMap.Json.Value
import LineMap.Number.Literal
import LineMap.Text.Utf8

/-!
# Reading JSON text

The reader takes bytes and stops at the first one that cannot go on, naming the cause and its index.
Besides standard JSON it reads `NaN`, `Infinity` and `-Infinity`.  A dialect says how deep
containers may nest, how many digits a number may have, and whether halves of surrogate pairs may
stand alone.  Bytes that are not UTF-8 are noticed inside strings only, and there only once the
string has ended; anywhere else they are bytes that no value begins with.

Every call is given at least as much fuel as twice the bytes that are left, and each production
spends at most two units for a byte that it consumes.
-/

set_option autoImplicit false

namespace LineMap.Json

open LineMap.Text
open LineMap.Number

/-- What a reader admits beyond the grammar: the greatest depth, the most digits before the point of
any number, the most digits of an integer, and whether halves of surrogate pairs may stand alone, as
escapes or as bytes. -/
structure Dialect where
  depthLimit : Nat
  wholeLimit : Option Nat
  integerLimit : Option Nat
  loneSurrogates : Bool

def within (limit? : Option Nat) (count : Nat) : Bool :=
  match limit? with
  | some limit => count ≤ limit
  | none => true

inductive Container where
  | array
  | object
deriving DecidableEq

inductive Defect where
  | endOfValue
  | endOfString
  | endOf (container : Container)
  | expectedValue
  | expectedIdent
  | expectedColon
  | expectedNext (container : Container)
  | nameNotString
  | trailingComma
  | trailingCharacters
  | invalidNumber
  | numberTooLong
  | invalidEscape
  | endOfPair
  | loneSurrogate
  | controlCharacter
  | notUtf8
  | tooDeep (container : Container)
deriving DecidableEq

def Defect.message : Defect → String
  | .endOfValue => "EOF while parsing a value"
  | .endOfString => "EOF while parsing a string"
  | .endOf .array => "EOF while parsing a list"
  | .endOf .object => "EOF while parsing an object"
  | .expectedValue => "expected value"
  | .expectedIdent => "expected ident"
  | .expectedColon => "expected `:`"
  | .expectedNext .array => "expected `,` or `]`"
  | .expectedNext .object => "expected `,` or `\x7d`"
  | .nameNotString => "key must be a string"
  | .trailingComma => "trailing comma"
  | .trailingCharacters => "trailing characters"
  | .invalidNumber => "invalid number"
  | .numberTooLong => "number out of range"
  | .invalidEscape => "invalid escape"
  | .endOfPair => "unexpected end of hex escape"
  | .loneSurrogate => "lone leading surrogate in hex escape"
  | .controlCharacter => "control character (\\u0000-\\u001F) found while parsing a string"
  | .notUtf8 => "invalid unicode code point"
  | .tooDeep _ => "recursion limit exceeded"

/-- A defect and the index of the byte where it showed. -/
structure Failure where
  defect : Defect
  index : Nat
deriving DecidableEq

/-- The line of a byte, counted from one, and the count of bytes from the last line feed up to and
with it; at the end of the text, up to the end. -/
def place (bytes : List UInt8) (index : Nat) : Nat × Nat :=
  let seen := bytes.take (index + 1)
  (seen.count 10 + 1, (seen.reverse.takeWhile (· ≠ 10)).length)

structure Cursor where
  rest : List UInt8
  index : Nat

namespace Cursor

def skip (count : Nat) (cursor : Cursor) : Cursor :=
  ⟨cursor.rest.drop count, cursor.index + count⟩

def fail {α : Type} (cursor : Cursor) (defect : Defect) : Except Failure α :=
  .error ⟨defect, cursor.index⟩

end Cursor

def isGap (byte : UInt8) : Bool :=
  byte == 32 || byte == 10 || byte == 9 || byte == 13

def isDigitByte (byte : UInt8) : Bool :=
  48 ≤ byte && byte ≤ 57

def skipWhile (inClass : UInt8 → Bool) : List UInt8 → Nat → Cursor
  | [], index => ⟨[], index⟩
  | byte :: rest, index =>
      if inClass byte then skipWhile inClass rest (index + 1) else ⟨byte :: rest, index⟩

def Cursor.skipGap (cursor : Cursor) : Cursor :=
  skipWhile isGap cursor.rest cursor.index

/-- Reads the remaining bytes of a word; the first that differs is not the expected one. -/
def readWord (word : List UInt8) (cursor : Cursor) : Except Failure Cursor :=
  match word, cursor.rest with
  | [], _ => .ok cursor
  | _ :: _, [] => cursor.fail .endOfValue
  | expected :: others, byte :: rest =>
      if byte = expected then readWord others ⟨rest, cursor.index + 1⟩
      else cursor.fail .expectedIdent
termination_by structural word

/-! ## Numbers -/

def asciiChars (bytes : List UInt8) : List Char :=
  bytes.map fun byte => Char.ofNat byte.toNat

def readDigits (cursor : Cursor) : Except Failure (List Char × Cursor) :=
  let digits := cursor.rest.takeWhile isDigitByte
  match digits, cursor.rest with
  | [], [] => cursor.fail .endOfValue
  | [], _ :: _ => cursor.fail .invalidNumber
  | _ :: _, _ => .ok (asciiChars digits, cursor.skip digits.length)

/-- Reads the whole part of a number; no digit follows a leading zero. -/
def readWhole (dialect : Dialect) (cursor : Cursor) : Except Failure (List Char × Cursor) :=
  match cursor.rest with
  | 48 :: byte :: _ =>
      if isDigitByte byte then (cursor.skip 1).fail .invalidNumber
      else .ok (['0'], cursor.skip 1)
  | [48] => .ok (['0'], cursor.skip 1)
  | _ => do
      let (digits, after) ← readDigits cursor
      if within dialect.wholeLimit digits.length then return (digits, after)
      else throw ⟨.numberTooLong, cursor.index + dialect.wholeLimit.getD 0 + 1⟩

def readPower (cursor : Cursor) : Except Failure (Int × Cursor) := do
  let (negative, cursor) := match cursor.rest with
    | 45 :: _ => (true, cursor.skip 1)
    | 43 :: _ => (false, cursor.skip 1)
    | _ => (false, cursor)
  let (digits, cursor) ← readDigits cursor
  return (signed negative (numberOf digits), cursor)

def Cursor.atExponent (cursor : Cursor) : Bool :=
  cursor.rest.head? == some 101 || cursor.rest.head? == some 69

def readMagnitude (dialect : Dialect) (negative : Bool) (cursor : Cursor) :
    Except Failure (Value × Cursor) := do
  let (whole, cursor) ← readWhole dialect cursor
  if cursor.rest.head? = some 46 then
    let (fraction, cursor) ← readDigits (cursor.skip 1)
    if cursor.atExponent then
      let (power, cursor) ← readPower (cursor.skip 1)
      return (.float (decimalNumber negative whole fraction power), cursor)
    else
      return (.float (decimalNumber negative whole fraction 0), cursor)
  else if cursor.atExponent then
    let (power, cursor) ← readPower (cursor.skip 1)
    return (.float (decimalNumber negative whole [] power), cursor)
  else if within dialect.integerLimit whole.length then
    return (.int (signed negative (numberOf whole)), cursor)
  else cursor.fail .numberTooLong

def infinityTail : List UInt8 := [110, 102, 105, 110, 105, 116, 121]

def readNegative (dialect : Dialect) (cursor : Cursor) : Except Failure (Value × Cursor) :=
  match cursor.rest with
  | 73 :: _ => do
      let cursor ← readWord infinityTail (cursor.skip 1)
      return (.float (.infinite true), cursor)
  | _ => readMagnitude dialect true cursor

/-! ## Strings -/

/-- A part of the content of a string: bytes as they stand, or one escaped code point. -/
inductive Segment where
  | raw (bytes : List UInt8)
  | escaped (point : CodePoint)

def pointSize : CodePoint → Nat
  | .scalar c => c.utf8Size
  | .surrogate _ => 3

/-- Decodes the segments; a failure gives the count of well-formed bytes before the defect. -/
def decodeSegments (dialect : Dialect) : Nat → List Segment → Except Nat Str
  | _, [] => .ok []
  | before, .escaped point :: rest => do
      let decoded ← decodeSegments dialect (before + pointSize point) rest
      return point :: decoded
  | before, .raw bytes :: rest =>
      match Utf8.decodePoints (if dialect.loneSurrogates then bytes.length else 0) bytes with
      | .error bad => .error (before + bad.position)
      | .ok points => do
          let decoded ← decodeSegments dialect (before + bytes.length) rest
          return points ++ decoded

/-- The value of four hexadecimal digits. The first byte that is none is refused; too few bytes mean
that the string does not end. -/
def readHex (cursor : Cursor) : Except Failure (Nat × Cursor) :=
  match cursor.rest with
  | a :: b :: c :: d :: rest =>
      let refuse (offset : Nat) : Except Failure (Nat × Cursor) :=
        .error ⟨.invalidEscape, cursor.index + offset⟩
      match hexValue? a, hexValue? b, hexValue? c, hexValue? d with
      | some a, some b, some c, some d =>
          .ok (((a * 16 + b) * 16 + c) * 16 + d, ⟨rest, cursor.index + 4⟩)
      | none, _, _, _ => refuse 0
      | _, none, _, _ => refuse 1
      | _, _, none, _ => refuse 2
      | _, _, _, none => refuse 3
  | _ => .error ⟨.endOfString, cursor.index + cursor.rest.length⟩

def isLeading (unit : Nat) : Bool := 0xD800 ≤ unit && unit ≤ 0xDBFF

def isTrailing (unit : Nat) : Bool := 0xDC00 ≤ unit && unit ≤ 0xDFFF

def pairChar (leading trailing : Nat) : Char :=
  Char.ofNat (0x10000 + (leading - 0xD800) * 0x400 + (trailing - 0xDC00))

/-- Reads the second half of a pair where halves may not stand alone. -/
def readTrailing (leading : Nat) (cursor : Cursor) : Except Failure (CodePoint × Cursor) :=
  match cursor.rest with
  | 92 :: 117 :: _ => do
      let (unit, after) ← readHex (cursor.skip 2)
      if isTrailing unit then return (.scalar (pairChar leading unit), after)
      else throw ⟨.loneSurrogate, after.index - 1⟩
  | 92 :: _ :: _ => (cursor.skip 1).fail .endOfPair
  | [92] => (cursor.skip 1).fail .endOfString
  | [] => cursor.fail .endOfString
  | _ :: _ => cursor.fail .endOfPair

/-- Reads the second half of a pair if one follows; otherwise the first half stands alone. -/
def joinTrailing (leading : Nat) (cursor : Cursor) : Except Failure (CodePoint × Cursor) :=
  match cursor.rest with
  | 92 :: 117 :: _ => do
      let (unit, after) ← readHex (cursor.skip 2)
      if isTrailing unit then return (.scalar (pairChar leading unit), after)
      else return (.surrogate leading, cursor)
  | _ => .ok (.surrogate leading, cursor)

/-- Reads the four digits of an escape, and of a second one if the two denote one character. -/
def readUnicode (dialect : Dialect) (cursor : Cursor) : Except Failure (CodePoint × Cursor) := do
  let (unit, after) ← readHex cursor
  if isLeading unit then
    if dialect.loneSurrogates then joinTrailing unit after else readTrailing unit after
  else if isTrailing unit then
    if dialect.loneSurrogates then return (.surrogate unit, after)
    else throw ⟨.loneSurrogate, after.index - 1⟩
  else return (.scalar (Char.ofNat unit), after)

def readEscape (dialect : Dialect) (cursor : Cursor) : Except Failure (CodePoint × Cursor) :=
  let single (c : Char) : Except Failure (CodePoint × Cursor) :=
    .ok (.scalar c, cursor.skip 1)
  match cursor.rest with
  | [] => cursor.fail .endOfString
  | 34 :: _ => single '"'
  | 92 :: _ => single '\\'
  | 47 :: _ => single '/'
  | 98 :: _ => single '\x08'
  | 102 :: _ => single '\x0c'
  | 110 :: _ => single '\n'
  | 114 :: _ => single '\r'
  | 116 :: _ => single '\t'
  | 117 :: _ => readUnicode dialect (cursor.skip 1)
  | _ :: _ => cursor.fail .invalidEscape

/-- Reads the content of a string up to its closing mark. Segments stand in reverse order. -/
def readContent (dialect : Dialect) :
    Nat → List UInt8 → List Segment → Cursor → Except Failure (List Segment × Cursor)
  | 0, _, _, cursor => cursor.fail .endOfString
  | fuel + 1, raw, segments, cursor =>
      match cursor.rest with
      | [] => cursor.fail .endOfString
      | byte :: rest =>
          if byte = 34 then
            .ok ((.raw raw.reverse :: segments).reverse, ⟨rest, cursor.index + 1⟩)
          else if byte = 92 then do
            let (point, after) ← readEscape dialect ⟨rest, cursor.index + 1⟩
            readContent dialect fuel [] (.escaped point :: .raw raw.reverse :: segments) after
          else if byte < 32 then cursor.fail .controlCharacter
          else readContent dialect fuel (byte :: raw) segments ⟨rest, cursor.index + 1⟩

def readString (dialect : Dialect) (fuel : Nat) (cursor : Cursor) :
    Except Failure (Str × Cursor) := do
  let (segments, after) ← readContent dialect fuel [] [] cursor
  match decodeSegments dialect 0 segments with
  | .ok s => return (s, after)
  | .error offset => throw ⟨.notUtf8, cursor.index + offset⟩

/-! ## Values -/

mutual

def readValue (dialect : Dialect) :
    Nat → Nat → Cursor → Except Failure (Value × Cursor)
  | 0, _, cursor => cursor.fail .endOfValue
  | fuel + 1, allowance, cursor =>
      match cursor.rest with
      | [] => cursor.fail .endOfValue
      | byte :: _ =>
          let after := cursor.skip 1
          if byte = 110 then do
            let after ← readWord [117, 108, 108] after
            return (.null, after)
          else if byte = 116 then do
            let after ← readWord [114, 117, 101] after
            return (.bool true, after)
          else if byte = 102 then do
            let after ← readWord [97, 108, 115, 101] after
            return (.bool false, after)
          else if byte = 78 then do
            let after ← readWord [97, 78] after
            return (.float .nan, after)
          else if byte = 73 then do
            let after ← readWord infinityTail after
            return (.float (.infinite false), after)
          else if byte = 34 then do
            let (s, after) ← readString dialect fuel after
            return (.str s, after)
          else if byte = 45 then readNegative dialect after
          else if isDigitByte byte then readMagnitude dialect false cursor
          else if byte = 91 then
            let first := after.skipGap
            match first.rest with
            | [] => first.fail (.endOf .array)
            | 93 :: _ => .ok (.arr [], first.skip 1)
            | _ :: _ =>
                match allowance with
                | 0 => first.fail (.tooDeep .array)
                | allowance + 1 => readItems dialect fuel allowance [] first
          else if byte = 123 then
            let first := after.skipGap
            match first.rest with
            | [] => first.fail (.endOf .object)
            | 125 :: _ => .ok (.obj [], first.skip 1)
            | _ :: _ => readMembers dialect fuel allowance [] first
          else cursor.fail .expectedValue

/-- Reads the items of an array from the first byte of one; earlier ones stand in reverse order. -/
def readItems (dialect : Dialect) :
    Nat → Nat → List Value → Cursor → Except Failure (Value × Cursor)
  | 0, _, _, cursor => cursor.fail .endOfValue
  | fuel + 1, allowance, items, cursor => do
      let (item, after) ← readValue dialect fuel allowance cursor
      let next := after.skipGap
      match next.rest with
      | [] => next.fail (.endOf .array)
      | byte :: _ =>
          if byte = 44 then
            let following := (next.skip 1).skipGap
            if following.rest.head? = some 93 then following.fail .trailingComma
            else readItems dialect fuel allowance (item :: items) following
          else if byte = 93 then return (.arr (item :: items).reverse, next.skip 1)
          else next.fail (.expectedNext .array)

/-- Reads the members of an object from the first byte of one; earlier ones stand in reverse
order. -/
def readMembers (dialect : Dialect) :
    Nat → Nat → List (Str × Value) → Cursor → Except Failure (Value × Cursor)
  | 0, _, _, cursor => cursor.fail .endOfValue
  | fuel + 1, allowance, members, cursor => do
      if cursor.rest.head? ≠ some 34 then cursor.fail .nameNotString
      else
        let (name, after) ← readString dialect fuel (cursor.skip 1)
        let colon := after.skipGap
        match colon.rest with
        | [] => colon.fail (.endOf .object)
        | byte :: _ =>
            if byte ≠ 58 then colon.fail .expectedColon
            else
              let first := (colon.skip 1).skipGap
              match first.rest, allowance with
              | [], _ => first.fail .endOfValue
              | _ :: _, 0 => first.fail (.tooDeep .object)
              | _ :: _, allowance + 1 =>
                  let (value, after) ← readValue dialect fuel allowance first
                  let next := after.skipGap
                  match next.rest with
                  | [] => next.fail (.endOf .object)
                  | byte :: _ =>
                      if byte = 44 then
                        let following := (next.skip 1).skipGap
                        match following.rest with
                        | [] => following.fail .endOfValue
                        | 125 :: _ => following.fail .trailingComma
                        | _ :: _ =>
                            readMembers dialect fuel (allowance + 1)
                              ((name, value) :: members) following
                      else if byte = 125 then
                        return (.obj ((name, value) :: members).reverse, next.skip 1)
                      else next.fail (.expectedNext .object)

end

def readText (dialect : Dialect) (bytes : List UInt8) : Except Failure Value := do
  let start := (Cursor.mk bytes 0).skipGap
  let (value, after) ← readValue dialect (2 * bytes.length + 2) dialect.depthLimit start
  let stop := after.skipGap
  if stop.rest.isEmpty then return value else stop.fail .trailingCharacters

/-- The dialect of files: halves of surrogate pairs are refused. -/
def fileDialect : Dialect :=
  ⟨200, some digitLimit, none, false⟩

/-- The dialect of values typed by hand: halves of surrogate pairs may stand alone. -/
def typedDialect : Dialect :=
  ⟨990, none, some digitLimit, true⟩

end LineMap.Json
