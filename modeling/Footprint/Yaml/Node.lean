import Footprint.Yaml.Token

/-!
# Nodes of a YAML text

The tokens of a text make up one node: a scalar, a sequence of nodes or a mapping between nodes.
What is left out between tokens, such as the value of a key, is an empty plain scalar. A text
without any document has no node, and one with several documents is malformed.
-/

namespace Footprint.Yaml

/-- A scalar, a sequence or a mapping. -/
inductive Node where
  | scalar (text : String) (plain : Bool)
  | sequence (items : List Node)
  | mapping (entries : List (Node × Node))
  deriving Repr, Inhabited

namespace Node

/-- The node of what is left out. -/
def empty : Node := scalar "" true

/-- The fault of tokens that start with one that cannot stand there. -/
def unexpected : List Token → Fault
  | .broken fault :: _ => fault
  | _ => .malformed

/-- The tokens after the comma that separates an entry from the one before it. -/
def afterComma (first : Bool) (tokens : List Token) : Except Fault (List Token) :=
  if first then .ok tokens
  else
    match tokens with
    | .flowEntry :: rest => .ok rest
    | _ => .error (unexpected tokens)

mutual

/-- Reads a node. Outside of brackets it may be a block, and the value of a key may be a sequence
that is not indented further than the key. -/
def read (inBlock flat : Bool) : Nat → List Token → Except Fault (Node × List Token)
  | 0, _ => .error .malformed
  | fuel + 1, tokens =>
    match tokens with
    | .blockEntry :: _ =>
      if flat then (readFlat fuel tokens).map fun (items, rest) => (sequence items, rest)
      else .error .malformed
    | .scalar text plain :: rest => .ok (scalar text plain, rest)
    | .flowSequenceStart :: rest =>
      (readFlowSequence true fuel rest).map fun (items, rest) => (sequence items, rest)
    | .flowMappingStart :: rest =>
      (readFlowMapping true fuel rest).map fun (entries, rest) => (mapping entries, rest)
    | .sequenceStart :: rest =>
      if inBlock then (readSequence fuel rest).map fun (items, rest) => (sequence items, rest)
      else .error .malformed
    | .mappingStart :: rest =>
      if inBlock then (readMapping fuel rest).map fun (entries, rest) => (mapping entries, rest)
      else .error .malformed
    | _ => .error (unexpected tokens)

/-- Reads a node unless one of the given tokens stands in its place, or nothing at all. -/
def readUnless (stops : List Token) (inBlock flat : Bool) :
    Nat → List Token → Except Fault (Node × List Token)
  | 0, _ => .error .malformed
  | fuel + 1, tokens =>
    match tokens with
    | [] => .error .malformed
    | token :: _ =>
      if stops.contains token then .ok (empty, tokens) else read inBlock flat fuel tokens

/-- Reads the entries of a block sequence up to its end. -/
def readSequence : Nat → List Token → Except Fault (List Node × List Token)
  | 0, _ => .error .malformed
  | fuel + 1, tokens =>
    match tokens with
    | .blockEnd :: rest => .ok ([], rest)
    | .blockEntry :: rest => do
      let (item, rest) ← readUnless [.blockEntry, .blockEnd] true false fuel rest
      let (items, rest) ← readSequence fuel rest
      pure (item :: items, rest)
    | _ => .error (unexpected tokens)

/-- Reads the entries of a sequence that is not indented, as long as there are any. -/
def readFlat : Nat → List Token → Except Fault (List Node × List Token)
  | 0, _ => .error .malformed
  | fuel + 1, tokens =>
    match tokens with
    | .blockEntry :: rest => do
      let (item, rest) ← readUnless [.blockEntry, .key, .value, .blockEnd] true false fuel rest
      let (items, rest) ← readFlat fuel rest
      pure (item :: items, rest)
    | _ => .ok ([], tokens)

/-- Reads the value of a key, if it has one, unless one of the given tokens stands in its place. -/
def readValue (stops : List Token) (inBlock flat : Bool) :
    Nat → List Token → Except Fault (Node × List Token)
  | 0, _ => .error .malformed
  | fuel + 1, tokens =>
    match tokens with
    | .value :: rest => readUnless stops inBlock flat fuel rest
    | _ => .ok (empty, tokens)

/-- Reads the entries of a block mapping up to its end. -/
def readMapping : Nat → List Token → Except Fault (List (Node × Node) × List Token)
  | 0, _ => .error .malformed
  | fuel + 1, tokens =>
    match tokens with
    | .blockEnd :: rest => .ok ([], rest)
    | .key :: rest => do
      let (key, rest) ← readUnless [.key, .value, .blockEnd] true true fuel rest
      let (value, rest) ← readValue [.key, .value, .blockEnd] true true fuel rest
      let (entries, rest) ← readMapping fuel rest
      pure ((key, value) :: entries, rest)
    | _ => .error (unexpected tokens)

/-- Reads the entries of a sequence in brackets up to its end. An entry with a key is a mapping. -/
def readFlowSequence (first : Bool) : Nat → List Token → Except Fault (List Node × List Token)
  | 0, _ => .error .malformed
  | fuel + 1, tokens =>
    match tokens with
    | .flowSequenceEnd :: rest => .ok ([], rest)
    | _ => do
      let tokens ← afterComma first tokens
      match tokens with
      | .flowSequenceEnd :: rest => pure ([], rest)
      | .key :: rest => do
        let (key, rest) ← readUnless [.value, .flowEntry, .flowSequenceEnd] false false fuel rest
        let (value, rest) ← readValue [.flowEntry, .flowSequenceEnd] false false fuel rest
        let (items, rest) ← readFlowSequence false fuel rest
        pure (mapping [(key, value)] :: items, rest)
      | _ => do
        let (item, rest) ← read false false fuel tokens
        let (items, rest) ← readFlowSequence false fuel rest
        pure (item :: items, rest)

/-- Reads the entries of a mapping in braces up to its end. An entry may have no value. -/
def readFlowMapping (first : Bool) :
    Nat → List Token → Except Fault (List (Node × Node) × List Token)
  | 0, _ => .error .malformed
  | fuel + 1, tokens =>
    match tokens with
    | .flowMappingEnd :: rest => .ok ([], rest)
    | _ => do
      let tokens ← afterComma first tokens
      match tokens with
      | .flowMappingEnd :: rest => pure ([], rest)
      | .key :: rest => do
        let (key, rest) ← readUnless [.value, .flowEntry, .flowMappingEnd] false false fuel rest
        let (value, rest) ← readValue [.flowEntry, .flowMappingEnd] false false fuel rest
        let (entries, rest) ← readFlowMapping false fuel rest
        pure ((key, value) :: entries, rest)
      | _ => do
        let (key, rest) ← read false false fuel tokens
        let (entries, rest) ← readFlowMapping false fuel rest
        pure ((key, empty) :: entries, rest)

end

/-- Reads the node of a document after its start, which may have been left out. -/
def readDocument (explicit : Bool) (tokens : List Token) : Except Fault (Node × List Token) :=
  match tokens with
  | [] | .documentStart :: _ | .documentEnd :: _ =>
    if explicit then .ok (empty, tokens) else .error .malformed
  | _ => read true false (4 * tokens.length + 4) tokens

/-- The node of the only document, or none if there is no document. -/
def ofTokens (tokens : List Token) : Except Fault (Option Node) :=
  match tokens with
  | [] => .ok none
  | .documentStart :: rest => only (readDocument true rest)
  | _ => only (readDocument false tokens)
where
  /-- The node of a document after which nothing follows but ends of documents. -/
  only (read : Except Fault (Node × List Token)) : Except Fault (Option Node) := do
    let (node, rest) ← read
    match rest.dropWhile (· == .documentEnd) with
    | [] => pure (some node)
    | others => throw (unexpected others)

end Node

end Footprint.Yaml
