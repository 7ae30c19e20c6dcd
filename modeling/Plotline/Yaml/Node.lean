import Plotline.Yaml.Token

/-!
# Nodes

A document as a tree of scalars, sequences and mappings, read off its tokens. A missing key, value
or item is an empty scalar.

* `Node.ofTokens` reads the one document of a text, if there is a document at all. If the tokens
  form none, or more than one, it gives the tokens at which it stopped; none are left if it stopped
  for want of tokens.
-/

namespace Plotline.Yaml

/-- A part of a document. -/
inductive Node
  | scalar (plain : Bool) (text : List Char)
  | sequence (items : List Node)
  | mapping (entries : List (Node × Node))

namespace Node

/-- What stands where nothing is written. -/
def absent : Node := scalar true []

/-- What reading tokens gives: something and the tokens behind it, or the tokens at which the
reading stopped. -/
abbrev Parsed (α : Type) := Except (List Token) (α × List Token)

/-- Nothing is written in front of such a token. -/
def endsEntry : List Token → Bool
  | .key :: _ | .value :: _ | .blockEnd :: _ => true
  | _ => false

/-- Nothing is written in front of such a token between brackets. -/
def endsFlowEntry (close : Token) : List Token → Bool
  | .value :: _ | .separator :: _ => true
  | t :: _ => t = close
  | [] => false

/-- Goes past the comma that is in front of all but the first part between brackets. -/
def pastSeparator (first : Bool) (ts : List Token) : Except (List Token) (List Token) :=
  if first then .ok ts
  else
    match ts with
    | .separator :: rest => .ok rest
    | _ => .error ts

mutual

/-- Reads a node. In a block, items may stand at the column of the key in front of them
(`indentless`). Every reader stops when its fuel is used up. -/
def read (indentless block : Bool) : Nat → List Token → Parsed Node
  | 0, ts => .error ts
  | fuel + 1, ts =>
    match ts with
    | .item :: _ => if indentless then (looseItems fuel ts).map (.map sequence id) else .error ts
    | .scalar plain text :: rest => .ok (scalar plain text, rest)
    | .flowSequence :: rest => (flowItems fuel true rest).map (.map sequence id)
    | .flowMapping :: rest => (flowEntries fuel true rest).map (.map mapping id)
    | .blockSequence :: rest =>
      if block then (items fuel rest).map (.map sequence id) else .error ts
    | .blockMapping :: rest =>
      if block then (entries fuel rest).map (.map mapping id) else .error ts
    | _ => .error ts

/-- Reads the items of a block. -/
def items : Nat → List Token → Parsed (List Node)
  | 0, ts => .error ts
  | fuel + 1, ts =>
    match ts with
    | .blockEnd :: rest => .ok ([], rest)
    | .item :: rest =>
      let first : Parsed Node :=
        match rest with
        | .item :: _ | .blockEnd :: _ => .ok (absent, rest)
        | _ => read false true fuel rest
      first.bind fun (n, rest) => (items fuel rest).map fun (ns, rest) => (n :: ns, rest)
    | _ => .error ts

/-- Reads items at the column of a key; they end with the entry. -/
def looseItems : Nat → List Token → Parsed (List Node)
  | 0, ts => .error ts
  | fuel + 1, ts =>
    match ts with
    | .item :: rest =>
      let first : Parsed Node :=
        match rest with
        | .item :: _ => .ok (absent, rest)
        | _ => if endsEntry rest then .ok (absent, rest) else read false true fuel rest
      first.bind fun (n, rest) => (looseItems fuel rest).map fun (ns, rest) => (n :: ns, rest)
    | _ => .ok ([], ts)

/-- Reads what follows a key or value sign in a block. -/
def entryPart : Nat → List Token → Parsed Node
  | 0, ts => .error ts
  | fuel + 1, ts => if endsEntry ts then .ok (absent, ts) else read true true fuel ts

/-- Reads the value of an entry, if its sign is there. -/
def entryValue : Nat → List Token → Parsed Node
  | 0, ts => .error ts
  | fuel + 1, ts =>
    match ts with
    | .value :: rest => entryPart fuel rest
    | _ => .ok (absent, ts)

/-- Reads the entries of a block. -/
def entries : Nat → List Token → Parsed (List (Node × Node))
  | 0, ts => .error ts
  | fuel + 1, ts =>
    match ts with
    | .blockEnd :: rest => .ok ([], rest)
    | .key :: rest =>
      (entryPart fuel rest).bind fun (k, rest) =>
        (entryValue fuel rest).bind fun (v, rest) =>
          (entries fuel rest).map fun (es, rest) => ((k, v) :: es, rest)
    | _ => .error ts

/-- Reads a key or value between brackets that end with `close`. -/
def flowPart (close : Token) : Nat → List Token → Parsed Node
  | 0, ts => .error ts
  | fuel + 1, ts =>
    if endsFlowEntry close ts then .ok (absent, ts) else read false false fuel ts

/-- Reads the value of an entry between brackets, if its sign is there. -/
def flowValue (close : Token) : Nat → List Token → Parsed Node
  | 0, ts => .error ts
  | fuel + 1, ts =>
    match ts with
    | .value :: rest =>
      match rest with
      | .value :: _ => .error rest
      | _ => flowPart close fuel rest
    | _ => .ok (absent, ts)

/-- Reads the items between brackets; all but the first follow a comma, and a comma may stand at the
end. A single entry among them is a mapping of its own. -/
def flowItems : Nat → Bool → List Token → Parsed (List Node)
  | 0, _, ts => .error ts
  | fuel + 1, first, ts =>
    match ts with
    | .flowSequenceEnd :: rest => .ok ([], rest)
    | _ =>
      (pastSeparator first ts).bind fun ts =>
        match ts with
        | .flowSequenceEnd :: rest => .ok ([], rest)
        | .key :: rest =>
          (flowPart .flowSequenceEnd fuel rest).bind fun (k, rest) =>
            (flowValue .flowSequenceEnd fuel rest).bind fun (v, rest) =>
              (flowItems fuel false rest).map fun (ns, rest) => (mapping [(k, v)] :: ns, rest)
        | _ =>
          (read false false fuel ts).bind fun (n, rest) =>
            (flowItems fuel false rest).map fun (ns, rest) => (n :: ns, rest)

/-- Reads the entries between braces. A node alone is a key. -/
def flowEntries : Nat → Bool → List Token → Parsed (List (Node × Node))
  | 0, _, ts => .error ts
  | fuel + 1, first, ts =>
    match ts with
    | .flowMappingEnd :: rest => .ok ([], rest)
    | _ =>
      (pastSeparator first ts).bind fun ts =>
        match ts with
        | .flowMappingEnd :: rest => .ok ([], rest)
        | .key :: rest =>
          (flowPart .flowMappingEnd fuel rest).bind fun (k, rest) =>
            (flowValue .flowMappingEnd fuel rest).bind fun (v, rest) =>
              (flowEntries fuel false rest).map fun (es, rest) => ((k, v) :: es, rest)
        | _ =>
          (read false false fuel ts).bind fun (k, rest) =>
            (flowEntries fuel false rest).map fun (es, rest) => ((k, absent) :: es, rest)

end

/-- Ends the reading; nothing but ends of documents may be left. -/
def finish (n : Node) (ts : List Token) : Except (List Token) (Option Node) :=
  match ts.dropWhile (· = .documentEnd) with
  | [] => .ok (some n)
  | rest => .error rest

/-- Reads the document behind its start, which may be empty. -/
def readDocument (fuel : Nat) (ts : List Token) : Except (List Token) (Option Node) :=
  match ts with
  | [] | .documentEnd :: _ => finish absent ts
  | .documentStart :: _ => .error ts
  | _ => (read false true fuel ts).bind fun (n, rest) => finish n rest

/-- Reads the one document of a text. -/
def ofTokens (ts : List Token) : Except (List Token) (Option Node) :=
  let fuel := 4 * ts.length + 4
  match ts with
  | [] => .ok none
  | .documentStart :: rest => readDocument fuel rest
  | .documentEnd :: _ => .error ts
  | _ => readDocument fuel ts

end Node

end Plotline.Yaml
