import Plotline.Calendar
import Plotline.Number.Shortest
import Plotline.Tree.Display

/-!
# Data

The values that a settings file can hold, and how they are turned into integers, truth values and
text.

* `Datum.toInt` reads an integer off a value, `Datum.truthy` whether a value counts as true.
* `Datum.toText` shows a value; a text is shown as it is, but between quotes inside a list or
  mapping. A value with too long an integer in it cannot be shown (`Datum.isShowable`).
* `Datum.at?` goes down nested mappings.

Text with a surrogate in it, which some documents can write, is left out.
-/

namespace Plotline

/-- A value of a settings file. A mapping keeps its entries in order, with distinct keys. -/
inductive Datum
  | null
  | bool (b : Bool)
  | int (n : Int)
  | real (x : Number.Binary64)
  | text (s : String)
  | date (d : Date)
  | moment (m : Moment)
  | list (items : List Datum)
  | map (entries : List (Datum × Datum))

namespace Datum

instance : Inhabited Datum := ⟨null⟩

/-- The word for the kind of a value. -/
def kind : Datum → String
  | null => "NoneType"
  | bool _ => "bool"
  | int _ => "int"
  | real _ => "float"
  | text _ => "str"
  | date _ => "datetime.date"
  | moment _ => "datetime.datetime"
  | list _ => "list"
  | map _ => "dict"

/-- Whether the value counts as true: it is neither absent, nor zero, nor empty. -/
def truthy : Datum → Bool
  | null => false
  | bool b => b
  | int n => n ≠ 0
  | real x => !x.isZero
  | text s => s ≠ ""
  | date _ | moment _ => true
  | list items => !items.isEmpty
  | map entries => !entries.isEmpty

/-- The integer that a value stands for. -/
def toInt : Datum → Except Number.Fault Int
  | bool b => .ok (if b then 1 else 0)
  | int n => .ok n
  | real x => x.truncate
  | text s => Number.Numeral.read s
  | d => .error (.wrongKind d.kind)

/-- Shows a value that has no parts; `inside` puts a text between quotes. -/
def atom (inside : Bool) : Datum → String
  | null => "None"
  | bool b => truthWord b
  | int n => toString n
  | real x => x.text
  | text s => if inside then quote s else s
  | date d => if inside then d.described else d.text
  | moment m => if inside then m.described else m.text
  | list _ => "[]"
  | map _ => "\x7b\x7d"

mutual

/-- Shows a value; `inside` says that it is part of another one. -/
def shown (inside : Bool) : Datum → String
  | list items => bracketed (shownItems items)
  | map entries => "\x7b" ++ ", ".intercalate (shownEntries entries) ++ "\x7d"
  | d => d.atom inside

/-- Shows the items of a list. -/
def shownItems : List Datum → List String
  | [] => []
  | d :: rest => shown true d :: shownItems rest

/-- Shows the entries of a mapping. -/
def shownEntries : List (Datum × Datum) → List String
  | [] => []
  | (k, v) :: rest => (shown true k ++ ": " ++ shown true v) :: shownEntries rest

end

mutual

/-- No integer in the value is too long to be written. -/
def isShowable : Datum → Bool
  | int n => Number.isWritable n
  | list items => areShowable items
  | map entries => entriesAreShowable entries
  | _ => true

/-- All items can be shown. -/
def areShowable : List Datum → Bool
  | [] => true
  | d :: rest => d.isShowable && areShowable rest

/-- All keys and values can be shown. -/
def entriesAreShowable : List (Datum × Datum) → Bool
  | [] => true
  | (k, v) :: rest => k.isShowable && v.isShowable && entriesAreShowable rest

end

/-- The text of a value that stands by itself. -/
def toText (d : Datum) : String := d.shown false

/-- Two keys count as the same: equal texts, equal numbers of any kind, a truth value counting as
one or zero, both the undefined number, equal dates or moments, or both absent. -/
def sameKey : Datum → Datum → Bool
  | null, null => true
  | text s, text t => s = t
  | date d, date e => d = e
  | moment m, moment n => m.same n
  | real .undefined, real .undefined => true
  | real x, real y => x.same y
  | real x, d | d, real x =>
    match d with
    | bool b => x.sameAsInt (if b then 1 else 0)
    | int n => x.sameAsInt n
    | _ => false
  | bool a, bool b => a = b
  | int m, int n => m = n
  | bool b, int n | int n, bool b => n = (if b then 1 else 0)
  | _, _ => false

/-- Sets an entry: a key that is there keeps its place and gets the new value. -/
def setEntry (k v : Datum) : List (Datum × Datum) → List (Datum × Datum)
  | [] => [(k, v)]
  | (k', v') :: rest =>
    if k'.sameKey k then (k', v) :: rest else (k', v') :: setEntry k v rest

/-- The value under a text key of a mapping. -/
def get? (key : String) : Datum → Option Datum
  | map entries =>
    (entries.find? fun e =>
      match e.1 with
      | text s => s = key
      | _ => false).map (·.2)
  | _ => none

/-- The value at the end of a path of text keys. -/
def at? (d : Datum) : List String → Option Datum
  | [] => some d
  | key :: rest => (d.get? key).bind (·.at? rest)

end Datum

end Plotline
