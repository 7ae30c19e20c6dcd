import Plotline.Yaml.Node
import Plotline.Yaml.Scalar

/-!
# Documents as data

The value that a document writes.

* `Node.datum` gives the value of a node. A mapping takes over the entries of the mappings under its
  merge keys, as if they stood in front of its own; of equal keys the last value counts.
* Of the faults of a document the one nearest to the root is found, of several the first
  (`Finding`).
* `Document.read` reads the text of a settings file. A text without a document is an absent value.

Refused as malformed, though they could be given a value, are texts with a block scalar (`|` and
`>`), an anchor or an alias (`&` and `*`), a tag (`!`), a directive (`%`) or an escape that names a
surrogate. The program is stated for any reader (`Settings.Reader`), this one or another.
-/

namespace Plotline.Yaml

/-! ## Findings -/

/-- A fault, and how far below a node it is. -/
structure Finding where
  depth : Nat
  fault : Fault

/-- What a part of a document gives. -/
abbrev Found (α : Type) := Except Finding α

namespace Found

/-- A fault at the node itself. -/
def here {α : Type} (f : Fault) : Found α := .error ⟨0, f⟩

/-- Two parts, the first one in front of the other. -/
def both {α β : Type} : Found α → Found β → Found (α × β)
  | .ok a, .ok b => .ok (a, b)
  | .error f, .ok _ => .error f
  | .ok _, .error g => .error g
  | .error f, .error g => .error (if g.depth < f.depth then g else f)

/-- All parts, one in front of the other. -/
def all {α : Type} : List (Found α) → Found (List α)
  | [] => .ok []
  | a :: rest => (both a (all rest)).map fun (a, as) => a :: as

/-- Parts as the node above them sees them. -/
def below {α : Type} : Found α → Found α
  | .ok a => .ok a
  | .error f => .error { f with depth := f.depth + 1 }

end Found

/-! ## Nodes -/

/-- The value of a scalar. -/
def scalarDatum (plain : Bool) (text : List Char) : Found Datum :=
  if plain then
    match plainDatum text with
    | .ok d => .ok d
    | .error f => .here f
  else .ok (.text (String.ofList text))

/-- The value of a key. Only a scalar can be a key. -/
def Node.keyDatum : Node → Found Datum
  | .scalar plain text =>
    if plain ∧ String.ofList text = valueWord then .ok (.text valueWord) else scalarDatum plain text
  | _ => .here .malformed

/-- The key asks for the entries of its value to be taken over. -/
def Node.isMerge : Node → Bool
  | .scalar plain text => plain && String.ofList text = mergeWord
  | _ => false

/-- The entries of a mapping, those taken over apart from its own; there are none if something other
than mappings is to be taken over. -/
structure Entries where
  merged : List (Found (Datum × Datum)) := []
  own : List (Found (Datum × Datum)) := []

namespace Entries

/-- All entries, in order. -/
def all (e : Entries) : List (Found (Datum × Datum)) := e.merged ++ e.own

/-- Takes over entries in front of those taken over so far. -/
def take (entries : List (Found (Datum × Datum))) (e : Entries) : Entries :=
  { e with merged := entries ++ e.merged }

/-- The mapping of these entries. -/
def datum : Option Entries → Found Datum
  | none => .here .malformed
  | some e => (Found.all e.all).map fun entries =>
    .map (entries.foldl (fun done (k, v) => Datum.setEntry k v done) [])

end Entries

mutual

/-- The value of a node. -/
def Node.datum : Node → Found Datum
  | .scalar plain text => scalarDatum plain text
  | .sequence items => (Found.all (itemData items)).below.map .list
  | .mapping entries => (Entries.datum (entriesOf entries)).below

/-- The values of items. -/
def itemData : List Node → List (Found Datum)
  | [] => []
  | n :: rest => n.datum :: itemData rest

/-- The entries that a mapping has. -/
def entriesOf : List (Node × Node) → Option Entries
  | [] => some {}
  | (k, v) :: rest =>
    if k.isMerge then
      match takenOver v, entriesOf rest with
      | some taken, some e => some (e.take taken)
      | _, _ => none
    else (entriesOf rest).map fun e => { e with own := .both k.keyDatum v.datum :: e.own }

/-- The entries that are taken over from a value: those of a mapping, or those of the mappings in a
sequence, the last mapping first. -/
def takenOver : Node → Option (List (Found (Datum × Datum)))
  | .scalar _ _ => none
  | .mapping entries => (entriesOf entries).map Entries.all
  | .sequence items => takenOverAll items

/-- The entries that are taken over from the mappings in a sequence. -/
def takenOverAll : List Node → Option (List (Found (Datum × Datum)))
  | [] => some []
  | .mapping entries :: rest =>
    match entriesOf entries, takenOverAll rest with
    | some e, some taken => some (taken ++ e.all)
    | _, _ => none
  | _ :: _ => none

end

/-- Reads the text of a settings file. A fault that stopped the reading counts unless the tokens in
front of it can begin no document. -/
def Document.read (text : List Char) : Except Fault Datum :=
  let reading := Token.ofText text
  match reading.fault, Node.ofTokens reading.tokens with
  | _, .error (_ :: _) => .error .malformed
  | some f, _ => .error f
  | none, .error [] => .error .malformed
  | none, .ok none => .ok .null
  | none, .ok (some n) =>
    match n.datum with
    | .ok d => .ok d
    | .error f => .error f.fault

end Plotline.Yaml
