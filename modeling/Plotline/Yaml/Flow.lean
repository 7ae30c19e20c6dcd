import Plotline.Yaml.Cursor
import Plotline.Yaml.Fault

/-!
# Scalars on one or more lines

The reading of a single value's text. A value may go on over several lines; one line end between
two lines stands for a space, and of several the first stands for nothing and the others for
themselves (`folded`).

* `quotedScalar` reads a value between single or double quotes. Apart from its form, the code points
  that its escapes name can be wrong.
* `plainScalar` reads a value without quotes, which ends at a comment, at a `: `, in brackets at
  their signs, or where a further line is not indented enough.
-/

namespace Plotline.Yaml

/-- What lies between two pieces of a value, if line ends do: `first` and the ones after it. -/
def folded (first : Char) (more : List Char) : List Char :=
  if first ≠ '\n' then first :: more
  else if more.isEmpty then [' ']
  else more

/-! ## Quoted values -/

/-- The escapes of one letter. -/
def escapes : List (Char × Nat) :=
  [('0', 0x00), ('a', 0x07), ('b', 0x08), ('t', 0x09), ('\t', 0x09), ('n', 0x0A), ('v', 0x0B),
    ('f', 0x0C), ('r', 0x0D), ('e', 0x1B), (' ', 0x20), ('\x22', 0x22), ('\\', 0x5C), ('/', 0x2F),
    ('N', 0x85), ('_', 0xA0), ('L', 0x2028), ('P', 0x2029)]

/-- The escapes by code point, with the number of hexadecimal digits. -/
def codeEscapes : List (Char × Nat) := [('x', 2), ('u', 4), ('U', 8)]

/-- The value of a hexadecimal digit. -/
def hexValue? (c : Char) : Option Nat :=
  if c.isDigit then some (c.toNat - 0x30)
  else if 'a' ≤ c ∧ c ≤ 'f' then some (c.toNat - 0x57)
  else if 'A' ≤ c ∧ c ≤ 'F' then some (c.toNat - 0x37)
  else none

/-- Reads exactly `n` hexadecimal digits. -/
def hexNumber? : Nat → Nat → List Char → Option (Nat × List Char)
  | 0, value, s => some (value, s)
  | _ + 1, _, [] => none
  | n + 1, value, c :: rest => (hexValue? c).bind fun v => hexNumber? n (value * 16 + v) rest

/-- Skips blanks and reads line ends, up to anything else; a document mark is refused. -/
def lineEnds : Nat → List Char → Option (List Char × List Char)
  | 0, _ => none
  | fuel + 1, s =>
    if documentMark s then none
    else
      let s := s.dropWhile fun c => c = ' ' || c = '\t'
      match takeBreak s with
      | none => some ([], s)
      | some (c, rest) => (lineEnds fuel rest).map fun (more, rest) => (c :: more, rest)

/-- Reads an escape that names a code point by so many digits. A surrogate is refused. -/
def codeEscape (digits : Nat) (s : List Char) : Except Fault (List Char × List Char) :=
  match hexNumber? digits 0 s with
  | none => .error .malformed
  | some (code, rest) =>
    if 0xD800 ≤ code ∧ code ≤ 0xDFFF then .error .malformed
    else if code < 0x110000 then .ok ([Char.ofNat code], rest)
    else .error (.codePoint code)

/-- Reads an escape behind its backslash, and gives what it stands for. -/
def escape (fuel : Nat) (s : List Char) : Except Fault (List Char × List Char) :=
  match s with
  | [] => .error .malformed
  | c :: rest =>
    match escapes.lookup c, codeEscapes.lookup c with
    | some code, _ => .ok ([Char.ofNat code], rest)
    | _, some digits => codeEscape digits rest
    | _, _ => orMalformed ((takeBreak s).bind fun (_, rest) => lineEnds fuel rest)

/-- Reads the rest of a quoted value, up to its quote. -/
def quotedScalar (quote : Char) : Nat → List Char → Except Fault (List Char × List Char)
  | 0, _ => .error .malformed
  | fuel + 1, s =>
    let add (piece : List Char) (rest : List Char) : Except Fault (List Char × List Char) :=
      (quotedScalar quote fuel rest).map fun (text, rest) => (piece ++ text, rest)
    match s with
    | [] => .error .malformed
    | c :: rest =>
      if c = quote then
        if quote = '\x27' && rest.head? = some '\x27' then add ['\x27'] (rest.drop 1)
        else .ok ([], rest)
      else if quote = '\x22' && c = '\\' then
        (escape fuel rest).bind fun (piece, rest) => add piece rest
      else if gapAhead s then
        let blanks := s.takeWhile fun c => c = ' ' || c = '\t'
        let rest := s.dropWhile fun c => c = ' ' || c = '\t'
        match rest, takeBreak rest with
        | [], _ => .error .malformed
        | _, none => add blanks rest
        | _, some (first, rest) =>
          match lineEnds fuel rest with
          | none => .error .malformed
          | some (more, rest) => add (folded first more) rest
      else add [c] rest

/-! ## Plain values -/

/-- The signs of brackets and lists. -/
def isBracketSign (c : Char) : Bool := ",[]\x7b\x7d".toList.contains c

/-- A plain value stops in front of this. -/
def stopsPlain (inFlow : Bool) (s : List Char) : Bool :=
  match s with
  | [] => true
  | c :: rest =>
    gapAhead s ||
      (c = ':' && (gapAhead rest || (inFlow && (rest.head?.any isBracketSign)))) ||
      (inFlow && (c = '?' || isBracketSign c))

/-- The piece of a plain value up to the next stop, and what follows. -/
def plainPiece (inFlow : Bool) : List Char → List Char × List Char
  | [] => ([], [])
  | c :: rest =>
    if stopsPlain inFlow (c :: rest) then ([], c :: rest)
    else
      let (piece, after) := plainPiece inFlow rest
      (c :: piece, after)

/-- Reads line ends and spaces behind a line end of a plain value. The column is that of what
follows. A document mark gives `none`. -/
def plainLineEnds : Nat → List Char → Option (List Char × Nat × List Char)
  | 0, _ => none
  | fuel + 1, s =>
    if documentMark s then none
    else
      let spaces := (s.takeWhile (· = ' ')).length
      match takeBreak (s.drop spaces) with
      | none => some ([], spaces, s.drop spaces)
      | some (c, rest) =>
        (plainLineEnds fuel rest).map fun (more, column, rest) => (c :: more, column, rest)

/-- A plain value that was read: its text, what follows, and whether the last thing read was a line
end. -/
structure Plain where
  text : List Char
  rest : List Char
  atLineStart : Bool

/-- Reads a plain value. `indent` is the least column of a further line outside brackets. -/
def plainScalar (inFlow : Bool) (indent : Int) : Nat → List Char → Plain
  | 0, s => ⟨[], s, false⟩
  | fuel + 1, s =>
    if s.head? = some '#' then ⟨[], s, false⟩
    else
      let (piece, rest) := plainPiece inFlow s
      let spaces := rest.takeWhile (· = ' ')
      let after := rest.dropWhile (· = ' ')
      let goOn (between rest : List Char) (lineStart : Bool) : Plain :=
        let more := plainScalar inFlow indent fuel rest
        if more.text.isEmpty then ⟨piece, rest, lineStart⟩
        else { more with text := piece ++ between ++ more.text }
      match takeBreak after with
      | none => if spaces.isEmpty then ⟨piece, after, false⟩ else goOn spaces after false
      | some (first, rest) =>
        match plainLineEnds (fuel + 1) rest with
        | none => ⟨piece, rest.dropWhile fun c => c = ' ' || isBreak c, true⟩
        | some (more, column, rest) =>
          if !inFlow && (column : Int) < indent then ⟨piece, rest, true⟩
          else goOn (folded first more) rest true

end Plotline.Yaml
