import LineMap.Text.Quoted

/-!
# UTF-8

A strict decoder that reads one byte at a time and refuses at the first byte that no well-formed
text can have there.  The refusal names the defective sequence: where it begins, its first byte,
and how many bytes were taken as its part before the defect showed.  Halves of surrogate pairs have
three bytes each, which the strict decoder refuses; a second decoder admits some of them.
-/

set_option autoImplicit false

namespace LineMap.Text.Utf8

inductive Defect where
  | start
  | continuation
  | truncated
deriving DecidableEq

def Defect.reason : Defect → String
  | .start => "invalid start byte"
  | .continuation => "invalid continuation byte"
  | .truncated => "unexpected end of data"

structure Malformed where
  defect : Defect
  position : Nat
  length : Nat
  lead : UInt8
deriving DecidableEq

/-- The report of a refusal: one byte is shown, several are only counted. -/
def Malformed.message (bad : Malformed) : String :=
  let place :=
    if bad.length = 1 then
      "byte 0x" ++ String.ofList (hexPadded 2 bad.lead.toNat) ++ " in position " ++
        toString bad.position
    else
      "bytes in position " ++ toString bad.position ++ "-" ++
        toString (bad.position + bad.length - 1)
  "'utf-8' codec can't decode " ++ place ++ ": " ++ bad.defect.reason

/-- A sequence under way: what was read of it, and the range of the byte that must come next. -/
structure Pending where
  position : Nat
  lead : UInt8
  seen : Nat
  missing : Nat
  low : UInt8
  high : UInt8
  code : Nat

/-- The state of the decoder; the characters decoded so far stand in reverse order. -/
inductive State where
  | ready (position : Nat) (decoded : List Char)
  | within (decoded : List Char) (pending : Pending)
  | refused (bad : Malformed)

def lead (position : Nat) (decoded : List Char) (byte : UInt8) : State :=
  let pending (missing : Nat) (low high : UInt8) (mask : Nat) : State :=
    .within decoded ⟨position, byte, 1, missing, low, high, byte.toNat % mask⟩
  if byte < 0x80 then .ready (position + 1) (Char.ofNat byte.toNat :: decoded)
  else if byte < 0xC2 then .refused ⟨.start, position, 1, byte⟩
  else if byte < 0xE0 then pending 1 0x80 0xBF 0x20
  else if byte = 0xE0 then pending 2 0xA0 0xBF 0x10
  else if byte = 0xED then pending 2 0x80 0x9F 0x10
  else if byte < 0xF0 then pending 2 0x80 0xBF 0x10
  else if byte = 0xF0 then pending 3 0x90 0xBF 0x08
  else if byte < 0xF4 then pending 3 0x80 0xBF 0x08
  else if byte = 0xF4 then pending 3 0x80 0x8F 0x08
  else .refused ⟨.start, position, 1, byte⟩

def step : State → UInt8 → State
  | .ready position decoded, byte => lead position decoded byte
  | .within decoded pending, byte =>
      if pending.low ≤ byte && byte ≤ pending.high then
        let code := 64 * pending.code + byte.toNat % 64
        if pending.missing = 1 then
          .ready (pending.position + pending.seen + 1) (Char.ofNat code :: decoded)
        else
          .within decoded
            { pending with
              seen := pending.seen + 1
              missing := pending.missing - 1
              low := 0x80
              high := 0xBF
              code := code }
      else .refused ⟨.continuation, pending.position, pending.seen, pending.lead⟩
  | .refused bad, _ => .refused bad

def finish : State → Except Malformed (List Char)
  | .ready _ decoded => .ok decoded.reverse
  | .within _ pending => .error ⟨.truncated, pending.position, pending.seen, pending.lead⟩
  | .refused bad => .error bad

/-- Decodes a whole byte sequence, or says where it stops being UTF-8. -/
def decode (bytes : List UInt8) : Except Malformed (List Char) :=
  finish (bytes.foldl step (.ready 0 []))

def encode (text : List Char) : List UInt8 :=
  text.flatMap String.utf8EncodeChar

/-! ## Halves of surrogate pairs -/

def encodePoint : CodePoint → List UInt8
  | .scalar c => String.utf8EncodeChar c
  | .surrogate code =>
      [0xED, UInt8.ofNat (0xA0 + code / 64 % 32), UInt8.ofNat (0x80 + code % 64)]

/-- The bytes of a text in which halves of surrogate pairs may stand. -/
def encodePoints (points : List CodePoint) : List UInt8 :=
  points.flatMap encodePoint

/-- The half of a surrogate pair with which bytes begin, and the bytes behind it. -/
def splitSurrogate? : List UInt8 → Option (CodePoint × List UInt8)
  | lead :: second :: third :: rest =>
      if lead = 0xED && 0xA0 ≤ second && second ≤ 0xBF && 0x80 ≤ third && third ≤ 0xBF then
        some (.surrogate (0xD000 + 64 * (second.toNat % 64) + third.toNat % 64), rest)
      else none
  | _ => none

/-- Decodes bytes among which so many halves of surrogate pairs may stand.  The strict decoder stops
at the first of them. -/
def decodePoints (halves : Nat) (bytes : List UInt8) : Except Malformed (List CodePoint) :=
  match decode bytes with
  | .ok cells => .ok (cells.map .scalar)
  | .error bad =>
      match halves, splitSurrogate? (bytes.drop bad.position) with
      | halves + 1, some (half, rest) => do
          let front ← decode (bytes.take bad.position)
          let behind ← decodePoints halves rest
          return front.map .scalar ++ half :: behind
      | _, _ => .error bad

end LineMap.Text.Utf8
