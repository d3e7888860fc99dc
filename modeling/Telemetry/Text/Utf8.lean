/-!
# Reading UTF-8

Bytes are read as characters. A fault tells where the first character that is none starts, and how
many bytes of it could have been the start of one.
-/

namespace Telemetry.Text

/-- Where bytes are no text. -/
structure Utf8Fault where
  /-- How many bytes are before the wrong ones. -/
  position : Nat
  /-- How many bytes are wrong; none if more bytes could make them right. -/
  length? : Option Nat
  deriving DecidableEq, Repr

/-- The fault as a phrase. -/
def Utf8Fault.message (f : Utf8Fault) : String :=
  match f.length? with
  | some n => s!"invalid utf-8 sequence of {n} bytes from index {f.position}"
  | none => s!"incomplete utf-8 byte sequence from index {f.position}"

/-- Whether a byte continues a character. -/
def isContinuation (b : Nat) : Bool := 0x80 ≤ b && b < 0xC0

/-- How many bytes follow the first byte of a character. -/
def following? (b : Nat) : Option Nat :=
  if b < 0x80 then some 0
  else if 0xC2 ≤ b && b < 0xE0 then some 1
  else if 0xE0 ≤ b && b < 0xF0 then some 2
  else if 0xF0 ≤ b && b < 0xF5 then some 3
  else none

/-- Whether a byte can be the second one of a character: overlong forms, halves of surrogate pairs
and codes beyond the last one are left out. -/
def isSecond (first second : Nat) : Bool :=
  isContinuation second &&
    (if first = 0xE0 then 0xA0 ≤ second
    else if first = 0xED then second < 0xA0
    else if first = 0xF0 then 0x90 ≤ second
    else if first = 0xF4 then second < 0x90
    else true)

/-- Reads the bytes behind the second one of a character: its code, or how many bytes were good. -/
def readTail (code good : Nat) : Nat → List UInt8 → Except (Option Nat) (Nat × List UInt8)
  | 0, bs => .ok (code, bs)
  | _ + 1, [] => .error none
  | n + 1, b :: bs =>
    if isContinuation b.toNat then readTail (64 * code + b.toNat % 64) (good + 1) n bs
    else .error (some good)

/-- Reads a character behind its first byte. -/
def readCode (first : Nat) (bs : List UInt8) : Except (Option Nat) (Nat × List UInt8) :=
  match following? first, bs with
  | none, _ => .error (some 1)
  | some 0, bs => .ok (first, bs)
  | some _, [] => .error none
  | some (n + 1), b :: bs =>
    if isSecond first b.toNat then
      let high := if n = 0 then first % 32 else if n = 1 then first % 16 else first % 8
      readTail (64 * high + b.toNat % 64) 2 n bs
    else .error (some 1)

/-- Reads bytes at a position; the first argument bounds their number. -/
def decodeAt : Nat → Nat → List UInt8 → Except Utf8Fault (List Char)
  | _, _, [] => .ok []
  | 0, position, _ => .error ⟨position, none⟩
  | fuel + 1, position, b :: bs =>
    match readCode b.toNat bs with
    | .error length? => .error ⟨position, length?⟩
    | .ok (code, rest) =>
      match decodeAt fuel (position + 1 + (bs.length - rest.length)) rest with
      | .ok cs => .ok (Char.ofNat code :: cs)
      | .error fault => .error fault

/-- Reads bytes as text. -/
def decode (bs : List UInt8) : Except Utf8Fault String :=
  (decodeAt bs.length 0 bs).map String.ofList

/-- Bytes up to and with the first line feed, and the rest. -/
def splitLine : List UInt8 → List UInt8 × List UInt8
  | [] => ([], [])
  | b :: bs =>
    if b = 10 then ([b], bs)
    else
      let (line, rest) := splitLine bs
      (b :: line, rest)

/-- What is behind the first line is shorter. -/
theorem length_splitLine_lt (b : UInt8) (bs : List UInt8) :
    (splitLine (b :: bs)).2.length < (b :: bs).length := by
  induction bs generalizing b with
  | nil => simp only [splitLine]; split <;> simp
  | cons c bs ih =>
    rw [splitLine]
    split
    · simp
    · have := ih c
      simp only [List.length_cons] at this ⊢
      omega

/-- The lines of bytes, with their line feeds. -/
def lines : List UInt8 → List (List UInt8)
  | [] => []
  | b :: bs => (splitLine (b :: bs)).1 :: lines (splitLine (b :: bs)).2
termination_by bs => bs.length
decreasing_by exact length_splitLine_lt b bs

end Telemetry.Text
