import GatedModules.Text.Quoted

/-!
# Strict UTF-8

Bytes are decoded as strict UTF-8: no over-long form, no surrogate, nothing past `U+10FFFF`. A
fault covers the bytes of the longest proper beginning of a character at the first wrong place.
-/

namespace GatedModules.Text.Utf8

inductive Reason where
  | invalidStart
  | invalidContinuation
  | unexpectedEnd
  deriving DecidableEq, Repr

def Reason.text : Reason → String
  | .invalidStart => "invalid start byte"
  | .invalidContinuation => "invalid continuation byte"
  | .unexpectedEnd => "unexpected end of data"

/-- The bytes at fault: `size` of them from `position`, the first being `byte`. -/
structure Fault where
  position : Nat
  size : Nat
  byte : Nat
  reason : Reason
  deriving DecidableEq, Repr

def Fault.message (f : Fault) : String :=
  let place :=
    if f.size = 1 then "byte 0x" ++ hex 2 f.byte ++ " in position " ++ toString f.position
    else "bytes in position " ++ toString f.position ++ "-" ++ toString (f.position + f.size - 1)
  "'utf-8' codec can't decode " ++ place ++ ": " ++ f.reason.text

/-- The least and the greatest byte that may follow a first byte of a longer character. -/
def secondRange (lead : Nat) : Nat × Nat :=
  if lead = 0xE0 then (0xA0, 0xBF)
  else if lead = 0xED then (0x80, 0x9F)
  else if lead = 0xF0 then (0x90, 0xBF)
  else if lead = 0xF4 then (0x80, 0x8F)
  else (0x80, 0xBF)

/-- How many bytes follow a first byte, or nothing for a byte that starts no character. -/
def tailSize? (lead : Nat) : Option Nat :=
  if lead < 0x80 then some 0
  else if lead < 0xC2 then none
  else if lead < 0xE0 then some 1
  else if lead < 0xF0 then some 2
  else if lead < 0xF5 then some 3
  else none

/-- The part of a first byte that counts towards the code point. -/
def leadBits (lead : Nat) : Nat :=
  if lead < 0x80 then lead
  else if lead < 0xE0 then lead % 0x20
  else if lead < 0xF0 then lead % 0x10
  else lead % 8

/-- A character that has begun: its first byte, where it stands, how many of its bytes have been
read, how many are still due, the range of the next one and the code point so far. -/
structure Begun where
  lead : Nat
  start : Nat
  read : Nat
  due : Nat
  low : Nat
  high : Nat
  code : Nat

def Begun.fault (p : Begun) (reason : Reason) : Fault :=
  { position := p.start, size := p.read, byte := p.lead, reason }

/-- Decodes bytes from a position on, in the middle of a character or between two. -/
def decodeFrom (position : Nat) : Option Begun → List Nat → Except Fault (List Char)
  | none, [] => .ok []
  | some p, [] => .error (p.fault .unexpectedEnd)
  | none, b :: rest =>
    match tailSize? b with
    | none => .error { position, size := 1, byte := b, reason := .invalidStart }
    | some 0 => (decodeFrom (position + 1) none rest).map (Char.ofNat b :: ·)
    | some (due + 1) =>
      let (low, high) := secondRange b
      decodeFrom (position + 1)
        (some { lead := b, start := position, read := 1, due, low, high, code := leadBits b }) rest
  | some p, b :: rest =>
    if b < p.low ∨ p.high < b then .error (p.fault .invalidContinuation)
    else
      let code := p.code * 0x40 + b % 0x40
      match p.due with
      | 0 => (decodeFrom (position + 1) none rest).map (Char.ofNat code :: ·)
      | due + 1 =>
        decodeFrom (position + 1)
          (some { p with read := p.read + 1, due, low := 0x80, high := 0xBF, code }) rest

/-- The text that the bytes encode. -/
def decode (bytes : ByteArray) : Except Fault (List Char) :=
  decodeFrom 0 none (bytes.toList.map UInt8.toNat)

end GatedModules.Text.Utf8
