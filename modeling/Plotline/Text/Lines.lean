/-!
# Lines

Three ways of cutting a text into lines, which differ in what ends a line.

* `cutAt` cuts at one character, `cutLines` at `\n`; `joinLines` puts the lines together again
  (`joinLines_cutLines`).
* `unifyLineEnds` writes each of the three line ends `\r\n`, `\r` and `\n` as `\n`, and `fileLines`
  gives the lines of a file: what lies before each line end, and the rest if it is not empty.
* `breakLines` cuts at every character that ends a line or a page, for display.
-/

namespace Plotline.Text

/-! ## Cutting at a character -/

/-- The pieces between the occurrences of a character: one more than there are occurrences. -/
def cutAt (sep : Char) : List Char → List (List Char)
  | [] => [[]]
  | c :: rest =>
    if c = sep then [] :: cutAt sep rest
    else
      match cutAt sep rest with
      | [] => [[c]]
      | piece :: pieces => (c :: piece) :: pieces

/-- The pieces between newlines. -/
def cutLines (s : List Char) : List (List Char) := cutAt '\n' s

/-- The lines one after the other with a newline between two of them. -/
def joinLines (lines : List (List Char)) : List Char := ['\n'].intercalate lines

theorem cutAt_ne_nil (sep : Char) (s : List Char) : cutAt sep s ≠ [] := by
  cases s with
  | nil => simp [cutAt]
  | cons c rest =>
    rw [cutAt]
    split
    · simp
    · split <;> simp

theorem intercalate_cutAt (sep : Char) (s : List Char) : [sep].intercalate (cutAt sep s) = s := by
  induction s with
  | nil => rfl
  | cons c rest ih =>
    obtain ⟨piece, pieces, h⟩ := List.exists_cons_of_ne_nil (cutAt_ne_nil sep rest)
    rw [h] at ih
    by_cases hc : c = sep <;> cases pieces <;>
      simp_all [cutAt, List.intercalate, List.intersperse]

theorem joinLines_cutLines (s : List Char) : joinLines (cutLines s) = s := intercalate_cutAt '\n' s

/-! ## Lines of a file -/

/-- Writes `\r\n` and a lone `\r` as `\n`. -/
def unifyLineEnds : List Char → List Char
  | [] => []
  | '\r' :: '\n' :: rest => '\n' :: unifyLineEnds rest
  | '\r' :: rest => '\n' :: unifyLineEnds rest
  | c :: rest => c :: unifyLineEnds rest

/-- The lines of a file, without their ends; a last line needs no end unless it is empty. -/
def fileLines (s : List Char) : List (List Char) :=
  let lines := cutLines (unifyLineEnds s)
  if lines.getLast? = some [] then lines.dropLast else lines

/-- The lines of the beginning of a file whose rest is not known: a line counts once its end is
certain, which for a `\r` takes one more character. -/
def completeLines (s : List Char) : List (List Char) :=
  let known := if s.getLast? = some '\r' then s.dropLast else s
  (cutLines (unifyLineEnds known)).dropLast

/-! ## Lines for display -/

/-- Characters that end a line on a page; `\r\n` counts as one end. -/
def endsLine (c : Char) : Bool :=
  let n := c.toNat
  (0x0A ≤ n && n ≤ 0x0D) || (0x1C ≤ n && n ≤ 0x1E) || n == 0x85 || n == 0x2028 || n == 0x2029

/-- Cuts at line ends; `line` is what the present line holds so far, last character first. -/
def breakLinesFrom (line : List Char) : List Char → List (List Char)
  | [] => if line.isEmpty then [] else [line.reverse]
  | '\r' :: '\n' :: rest => line.reverse :: breakLinesFrom [] rest
  | c :: rest =>
    if endsLine c then line.reverse :: breakLinesFrom [] rest else breakLinesFrom (c :: line) rest

/-- The lines of a text for display; an empty last line is none. -/
def breakLines (s : List Char) : List (List Char) := breakLinesFrom [] s

end Plotline.Text
