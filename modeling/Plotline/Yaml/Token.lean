import Plotline.Yaml.Flow

/-!
# Tokens

A settings text as a list of tokens in which the indentation has become explicit: a block of items
or entries begins with a token of its own and ends with `blockEnd`.

A key is recognised only at the `:` behind it. So every token that may be a key is noted when it is
read (`Candidate`), once for the block and once for each bracket that is open, and the `key` token
is put in front of it later. A candidate is given up at the end of its line or after 1024
characters. One that stands where a block's keys stand must turn out to be a key.

* `Token.ofText` gives the tokens of a text, and the fault at which the reading stopped if it did.
  A token that may still turn out to be a key is not settled: a fault behind it is found before
  anything can be said of the token.
-/

namespace Plotline.Yaml

/-- A token. -/
inductive Token
  | documentStart
  | documentEnd
  | blockSequence
  | blockMapping
  | blockEnd
  | flowSequence
  | flowSequenceEnd
  | flowMapping
  | flowMappingEnd
  /-- The dash of a block's item. -/
  | item
  /-- The comma between brackets. -/
  | separator
  | key
  | value
  | scalar (plain : Bool) (text : List Char)
  deriving DecidableEq, Repr

/-- A token that may be a key: how many tokens are before it, where it begins, and whether it must
be one. -/
structure Candidate where
  before : Nat
  index : Nat
  line : Nat
  column : Nat
  required : Bool

/-- The tokens of a text, up to the fault if there is one. -/
structure Reading where
  tokens : List Token
  fault : Option Fault := none

/-- The state of reading tokens. -/
structure Scanner where
  cursor : Cursor
  tokens : List Token := []
  /-- The columns of the open blocks, innermost first. -/
  indents : List Nat := []
  /-- The candidates, innermost bracket first, the block last. -/
  candidates : List (Option Candidate) := [none]
  /-- A key may begin here. -/
  keyAllowed : Bool := true

namespace Scanner

/-- Brackets are open. -/
def inFlow (s : Scanner) : Bool := 1 < s.candidates.length

/-- The column of the innermost block; it is -1 outside all blocks. -/
def indent (s : Scanner) : Int := (s.indents.head?.map Int.ofNat).getD (-1)

/-- Adds a token. -/
def emit (s : Scanner) (t : Token) : Scanner := { s with tokens := s.tokens ++ [t] }

/-- Goes past characters. -/
def skip (s : Scanner) (n : Nat) : Scanner := { s with cursor := s.cursor.skip n }

/-- Ends the blocks that are indented more than the column. Brackets keep blocks open. -/
def closeBlocks (s : Scanner) (column : Int) : Scanner :=
  if s.inFlow then s
  else
    let closed := s.indents.takeWhile fun i : Nat => column < (i : Int)
    { s with
      indents := s.indents.drop closed.length
      tokens := s.tokens ++ closed.map fun _ => Token.blockEnd }

/-- Begins a block at a column that is further in than the present one. -/
def openBlock (s : Scanner) (column : Nat) (t : Token) : Scanner :=
  if s.indent < column then { s with indents := column :: s.indents }.emit t else s

/-- Gives up the innermost candidate; it fails if that had to be a key. -/
def dropCandidate (s : Scanner) : Option Scanner :=
  match s.candidates with
  | some c :: rest => if c.required then none else some { s with candidates := none :: rest }
  | _ => some s

/-- Notes that the next token may be a key. -/
def noteCandidate (s : Scanner) : Option Scanner :=
  if !s.keyAllowed then some s
  else
    let c : Candidate :=
      { before := s.tokens.length, index := s.cursor.index, line := s.cursor.line
        column := s.cursor.column, required := !s.inFlow && s.indent = s.cursor.column }
    s.dropCandidate.map fun s => { s with candidates := some c :: s.candidates.drop 1 }

/-- A candidate can no longer be a key. -/
def isStale (s : Scanner) (c : Candidate) : Bool :=
  c.line ≠ s.cursor.line || 1024 < s.cursor.index - c.index

/-- Gives up the candidates that can no longer be keys. -/
def dropStale (s : Scanner) : Option Scanner :=
  if s.candidates.any fun c => c.any fun c => s.isStale c && c.required then none
  else some { s with candidates := s.candidates.map fun c => c.filter fun c => !s.isStale c }

/-- Goes past spaces, comments and line ends. Outside brackets, a key may begin on a new line. -/
def skipGap : Nat → Scanner → Scanner
  | 0, s => s
  | fuel + 1, s =>
    let rest := s.cursor.rest.dropWhile (· = ' ')
    let rest := if rest.head? = some '#' then rest.dropWhile (!isBreak ·) else rest
    match takeBreak rest with
    | none => { s with cursor := s.cursor.goTo rest }
    | some (_, rest) =>
      skipGap fuel
        { s with cursor := s.cursor.goTo rest, keyAllowed := s.keyAllowed || !s.inFlow }

/-- Goes past a byte order mark at the beginning of the text. -/
def skipMark (s : Scanner) : Scanner :=
  if s.cursor.index = 0 ∧ s.cursor.rest.head?.any (·.toNat = 0xFEFF) then s.skip 1 else s

/-! ## One token at a time -/

/-- A mark between documents: all blocks end. -/
def readDocumentMark (s : Scanner) (t : Token) : Option Scanner :=
  (s.closeBlocks (-1)).dropCandidate.map fun s =>
    { (s.emit t).skip 3 with keyAllowed := false }

/-- An opening bracket. -/
def readOpening (s : Scanner) (t : Token) : Option Scanner :=
  s.noteCandidate.map fun s =>
    { (s.emit t).skip 1 with candidates := none :: s.candidates, keyAllowed := true }

/-- A closing bracket; there must be one to close. -/
def readClosing (s : Scanner) (t : Token) : Option Scanner :=
  if !s.inFlow then none
  else
    s.dropCandidate.map fun s =>
      { (s.emit t).skip 1 with candidates := s.candidates.drop 1, keyAllowed := false }

/-- A comma between brackets. -/
def readSeparator (s : Scanner) : Option Scanner :=
  s.dropCandidate.map fun s => { (s.emit .separator).skip 1 with keyAllowed := true }

/-- The dash of an item. -/
def readItem (s : Scanner) : Option Scanner :=
  if !s.inFlow && !s.keyAllowed then none
  else
    let s := if s.inFlow then s else s.openBlock s.cursor.column .blockSequence
    s.dropCandidate.map fun s => { (s.emit .item).skip 1 with keyAllowed := true }

/-- The question mark in front of a key. -/
def readKey (s : Scanner) : Option Scanner :=
  if !s.inFlow && !s.keyAllowed then none
  else
    let s := if s.inFlow then s else s.openBlock s.cursor.column .blockMapping
    s.dropCandidate.map fun s => { (s.emit .key).skip 1 with keyAllowed := !s.inFlow }

/-- The colon in front of a value. If there is a candidate, that is the key. -/
def readValue (s : Scanner) : Option Scanner :=
  match s.candidates with
  | some c :: rest =>
    let opens := !s.inFlow && s.indent < c.column
    let starts := if opens then [Token.blockMapping, .key] else [.key]
    let s :=
      { s with
        candidates := none :: rest
        indents := if opens then c.column :: s.indents else s.indents
        tokens := s.tokens.take c.before ++ starts ++ s.tokens.drop c.before
        keyAllowed := false }
    some ((s.emit .value).skip 1)
  | _ =>
    if !s.inFlow && !s.keyAllowed then none
    else
      let s := if s.inFlow then s else s.openBlock s.cursor.column .blockMapping
      s.dropCandidate.map fun s => { (s.emit .value).skip 1 with keyAllowed := !s.inFlow }

/-- A value between quotes. -/
def readQuoted (s : Scanner) (quote : Char) : Except Fault Scanner :=
  (orMalformed s.noteCandidate).bind fun s =>
    let body := s.cursor.rest.drop 1
    (quotedScalar quote (body.length + 1) body).map fun (text, rest) =>
      { s.emit (.scalar false text) with cursor := s.cursor.goTo rest, keyAllowed := false }

/-- A value without quotes. -/
def readPlain (s : Scanner) : Option Scanner :=
  s.noteCandidate.map fun s =>
    let body := s.cursor.rest
    let p := plainScalar s.inFlow (s.indent + 1) (body.length + 1) body
    { s.emit (.scalar true p.text) with
      cursor := s.cursor.goTo p.rest, keyAllowed := p.atLineStart }

/-- The characters that a value without quotes begins with only in front of something else, or
never. -/
def indicators : List Char := "-?:,[]\x7b\x7d#&*!|>'\x22%@\x60".toList

/-- A value without quotes begins here. -/
def startsPlain (inFlow : Bool) (c : Char) (rest : List Char) : Bool :=
  !indicators.contains c || (!gapAhead rest && (c = '-' || (!inFlow && (c = '?' || c = ':'))))

/-- Reads the next token, which begins with `c` and is no value between quotes. -/
def readUnquoted (s : Scanner) (c : Char) (rest : List Char) : Option Scanner :=
  let atMark := s.cursor.column = 0 && documentMark (c :: rest)
  if atMark && c = '-' then s.readDocumentMark .documentStart
  else if atMark then s.readDocumentMark .documentEnd
  else if c = '%' && s.cursor.column = 0 then none
  else if c = '[' then s.readOpening .flowSequence
  else if c = '\x7b' then s.readOpening .flowMapping
  else if c = ']' then s.readClosing .flowSequenceEnd
  else if c = '\x7d' then s.readClosing .flowMappingEnd
  else if c = ',' then s.readSeparator
  else if c = '-' && gapAhead rest then s.readItem
  else if c = '?' && (s.inFlow || gapAhead rest) then s.readKey
  else if c = ':' && (s.inFlow || gapAhead rest) then s.readValue
  else if c ≠ '\t' && startsPlain s.inFlow c rest then s.readPlain
  else none

/-- Reads the next token, which begins with `c`. -/
def readToken (s : Scanner) (c : Char) (rest : List Char) : Except Fault Scanner :=
  if c = '\x27' || c = '\x22' then s.readQuoted c else orMalformed (s.readUnquoted c rest)

/-- Goes to the next token. -/
def approach (s : Scanner) : Except Fault Scanner :=
  (orMalformed ((s.skipMark).skipGap (s.cursor.rest.length + 1)).dropStale).map fun s =>
    s.closeBlocks s.cursor.column

/-- The tokens in front of all that may still turn out to be keys. -/
def settled (s : Scanner) : List Token :=
  let waiting := (s.candidates.filterMap fun c => c.filter fun c => !s.isStale c).map (·.before)
  s.tokens.take (waiting.foldl min s.tokens.length)

/-- Reads tokens to the end of the text. -/
def readAll : Nat → Scanner → Reading
  | 0, s => ⟨s.settled, some .malformed⟩
  | fuel + 1, s =>
    match s.approach with
    | .error f => ⟨s.settled, some f⟩
    | .ok next =>
      match next.cursor.rest with
      | [] =>
        match (next.closeBlocks (-1)).dropCandidate with
        | none => ⟨s.settled, some .malformed⟩
        | some last => ⟨last.tokens, none⟩
      | c :: rest =>
        match next.readToken c rest with
        | .error f => ⟨s.settled, some f⟩
        | .ok after => readAll fuel after

end Scanner

/-- The characters that may occur in a text. -/
def isAllowed (c : Char) : Bool :=
  let n := c.toNat
  n == 0x09 || n == 0x0A || n == 0x0D || (0x20 ≤ n && n ≤ 0x7E) || n == 0x85 ||
    (0xA0 ≤ n && n ≤ 0xD7FF) || (0xE000 ≤ n && n ≤ 0xFFFD) || 0x10000 ≤ n

/-- The tokens of a text. -/
def Token.ofText (text : List Char) : Reading :=
  if text.all isAllowed then Scanner.readAll (text.length + 2) { cursor := { rest := text } }
  else ⟨[], some .malformed⟩

end Plotline.Yaml
