/-!
# Cursors

A place in a text: what is still to be read, and the numbers of the characters, of the line and of
the column that it stands for. Columns count characters; a byte order mark has no width.
-/

namespace Plotline.Yaml

/-- The characters that end a line. -/
def isBreak (c : Char) : Bool :=
  c = '\n' || c = '\r' || c.toNat = 0x85 || c.toNat = 0x2028 || c.toNat = 0x2029

/-- A place in a text. -/
structure Cursor where
  rest : List Char
  index : Nat := 0
  line : Nat := 0
  column : Nat := 0

namespace Cursor

/-- Goes past one character. -/
def next (c : Cursor) : Cursor :=
  match c.rest with
  | [] => c
  | x :: rest =>
    let c := { c with rest := rest, index := c.index + 1 }
    if isBreak x && !(x = '\r' && rest.head? = some '\n') then
      { c with line := c.line + 1, column := 0 }
    else if x.toNat = 0xFEFF then c
    else { c with column := c.column + 1 }

/-- Goes past characters. -/
def skip : Nat → Cursor → Cursor
  | 0, c => c
  | n + 1, c => skip n c.next

/-- Goes to where `rest`, an end of the text, begins. -/
def goTo (c : Cursor) (rest : List Char) : Cursor := c.skip (c.rest.length - rest.length)

end Cursor

/-- The end of the text, a blank or a line end follows. -/
def gapAhead (s : List Char) : Bool :=
  match s with
  | [] => true
  | c :: _ => c = ' ' || c = '\t' || isBreak c

/-- A line of three marks that separates documents begins here. -/
def documentMark (s : List Char) : Bool :=
  (s.take 3 = ['-', '-', '-'] || s.take 3 = ['.', '.', '.']) && gapAhead (s.drop 3)

/-- Takes one line end off the front, and gives what it stands for in a value. -/
def takeBreak : List Char → Option (Char × List Char)
  | '\r' :: '\n' :: rest => some ('\n', rest)
  | c :: rest =>
    if !isBreak c then none
    else if c.toNat < 0x2028 then some ('\n', rest)
    else some (c, rest)
  | [] => none

end Plotline.Yaml
