/-!
# UTF-8

Reading octets as text. A reading either ends with all octets used, or stops at the first octets
that can be no part of a text, or finds that the octets end inside a character.

* `Utf8.Fault` says which octets are at fault and why; `Utf8.Fault.message` words it.
* `Utf8.decode` reads a whole octet string and keeps the text before a fault.
* `Utf8.Fault.findInChunks` says how a fault is found when a file is read chunk by chunk.
-/

namespace Plotline.Text.Utf8

/-- Why some octets are not read. -/
inductive Cause
  /-- The octet starts no character. -/
  | badStart
  /-- A character has begun, and the next octet cannot continue it. -/
  | badContinuation
  /-- The octets end inside a character. -/
  | cutOff
  deriving DecidableEq, Repr

/-- The octets that are not read: the first of them, how many they are, and why. -/
structure Fault where
  first : UInt8
  position : Nat
  count : Nat
  cause : Cause
  deriving DecidableEq, Repr

/-- The wording of a cause. -/
def Cause.wording : Cause → String
  | .badStart => "invalid start byte"
  | .badContinuation => "invalid continuation byte"
  | .cutOff => "unexpected end of data"

/-- The wording of a fault: a single octet is shown, several are named by their positions. -/
def Fault.message (f : Fault) : String :=
  let hex := String.ofList ((Nat.toDigits 16 (f.first.toNat + 0x100)).drop 1)
  let place :=
    if f.count = 1 then "byte 0x" ++ hex ++ " in position " ++ toString f.position
    else "bytes in position " ++ toString f.position ++ "-" ++
      toString (f.position + f.count - 1)
  "'utf-8' codec can't decode " ++ place ++ ": " ++ f.cause.wording

/-- What the first octet of a character fixes: how many more follow, the range of the next one,
and the bits it carries itself. -/
structure Lead where
  more : Nat
  low : Nat
  high : Nat
  bits : Nat

/-- The octets that start a character. The range of the second octet leaves out the forms that
are longer than needed, the surrogates, and what lies above U+10FFFF. -/
def lead? (b : UInt8) : Option Lead :=
  let n := b.toNat
  if n < 0x80 then some ⟨0, 0, 0, n⟩
  else if n < 0xC2 then none
  else if n < 0xE0 then some ⟨1, 0x80, 0xBF, n - 0xC0⟩
  else if n = 0xE0 then some ⟨2, 0xA0, 0xBF, 0⟩
  else if n = 0xED then some ⟨2, 0x80, 0x9F, 0xD⟩
  else if n < 0xF0 then some ⟨2, 0x80, 0xBF, n - 0xE0⟩
  else if n = 0xF0 then some ⟨3, 0x90, 0xBF, 0⟩
  else if n < 0xF4 then some ⟨3, 0x80, 0xBF, n - 0xF0⟩
  else if n = 0xF4 then some ⟨3, 0x80, 0x8F, 4⟩
  else none

/-- A character that has begun: its first octet and position, how many octets were read and how
many are missing, the range of the next one, and the bits so far. -/
structure Begun where
  first : UInt8
  position : Nat
  read : Nat
  missing : Nat
  low : Nat
  high : Nat
  bits : Nat

/-- The fault of a character that does not go on. -/
def Begun.fault (p : Begun) (cause : Cause) : Fault := ⟨p.first, p.position, p.read, cause⟩

/-- What was read, and the fault at which the reading stopped. -/
structure Reading where
  text : List Char
  fault : Option Fault

/-- Reads the octets from `position` on, inside the character `p` if one has begun. -/
def decodeFrom (position : Nat) (p : Option Begun) : List UInt8 → Reading
  | [] => ⟨[], p.map (·.fault .cutOff)⟩
  | b :: rest =>
    match p with
    | none =>
      match lead? b with
      | none => ⟨[], some ⟨b, position, 1, .badStart⟩⟩
      | some l =>
        if l.more = 0 then
          let r := decodeFrom (position + 1) none rest
          { r with text := Char.ofNat l.bits :: r.text }
        else
          decodeFrom (position + 1) (some ⟨b, position, 1, l.more, l.low, l.high, l.bits⟩) rest
    | some p =>
      if p.low ≤ b.toNat ∧ b.toNat ≤ p.high then
        let bits := p.bits * 64 + (b.toNat - 0x80)
        if p.missing ≤ 1 then
          let r := decodeFrom (position + 1) none rest
          { r with text := Char.ofNat bits :: r.text }
        else
          decodeFrom (position + 1)
            (some { p with read := p.read + 1, missing := p.missing - 1, low := 0x80, high := 0xBF
                           bits := bits }) rest
      else ⟨[], some (p.fault .badContinuation)⟩

/-- Reads a whole octet string. -/
def decode (octets : List UInt8) : Reading := decodeFrom 0 none octets

/-! ## Reading in chunks -/

/-- How many octets of a file are read at once. -/
def chunkSize : Nat := 8192

/-- The octets begin with two that only a surrogate has. They are refused when a third octet is
there, whatever it is. -/
def beginsSurrogate : List UInt8 → Bool
  | first :: second :: _ => first = 0xED ∧ 0xA0 ≤ second ∧ second ≤ 0xBF
  | _ => false

/-- The position of the octet that shows a fault. It is behind all octets if these just end. -/
def Fault.shownAt (f : Fault) (octets : List UInt8) : Nat :=
  if beginsSurrogate (octets.drop f.position) then f.position + 2
  else if f.cause = .badStart then f.position
  else f.position + f.count

/-- How many octets were read before the chunk that shows a fault. What is behind all octets shows
when there is no further chunk. -/
def Fault.octetsBefore (f : Fault) (octets : List UInt8) : Nat :=
  let shown := f.shownAt octets
  if shown < octets.length then shown / chunkSize * chunkSize else octets.length

/-- A fault as it is found in chunks: the text of the chunks before, and the fault with its position
among the octets that are not used by then. A character that had begun in an earlier chunk is one
of them. -/
def Fault.findInChunks (f : Fault) (octets : List UInt8) : List Char × Fault :=
  let read := f.octetsBefore octets
  let before := decode (octets.take read)
  let used := (before.fault.map (·.position)).getD read
  (before.text, { f with position := f.position - used })

end Plotline.Text.Utf8
