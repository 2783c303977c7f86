import CallTree.KeyMap
import CallTree.Settings.Value
import CallTree.Settings.Yaml.Token

/-!
# Nodes of a text of settings

The tokens of a text make up a tree of nodes: mappings, sequences and scalars.
Plain scalars are typed by how they look or by a tag, a node with an anchor can
be used again, and a key may stand in a mapping only once.

* `Node.ofTokens?` — the node of the only document of a text;
* `Node.setting?` — a node as a setting.
-/

namespace CallTree.Settings.Yaml

/-- A node of a text of settings. -/
inductive Node where
  /-- A scalar that is not what its tag says, or a node inside itself. -/
  | unknown
  | nil
  | bool (value : Bool)
  | int (value : Int)
  /-- A floating point number as it is written. -/
  | real (source : String)
  | text (value : String)
  | sequence (items : List Node)
  | mapping (fields : List (Node × Node))
deriving Inhabited

namespace Node

mutual

/-- Whether two nodes are the same. -/
def same : Node → Node → Bool
  | .unknown, .unknown => true
  | .nil, .nil => true
  | .bool a, .bool b => a == b
  | .int a, .int b => a == b
  | .real a, .real b => a == b
  | .text a, .text b => a == b
  | .sequence a, .sequence b => sameItems a b
  | .mapping a, .mapping b => sameFields a b
  | _, _ => false

/-- Whether two lists of nodes are the same. -/
def sameItems : List Node → List Node → Bool
  | [], [] => true
  | a :: as, b :: bs => same a b && sameItems as bs
  | _, _ => false

/-- Whether two lists of fields are the same. -/
def sameFields : List (Node × Node) → List (Node × Node) → Bool
  | [], [] => true
  | (a, x) :: as, (b, y) :: bs => same a b && same x y && sameFields as bs
  | _, _ => false

end

/-! ### Scalars -/

/-- The integer that a plain scalar writes, in hexadecimal after `0x` and in
octal after `0o`. -/
def readInt? (s : List Char) : Option Int :=
  match s with
  | '0' :: 'x' :: digits => readSigned 16 digits
  | '0' :: 'o' :: digits => readSigned 8 digits
  | '+' :: digits => readSigned 10 digits
  | digits => readSigned 10 digits

/-- The words for infinities and for what is no number. -/
def specialFloats : List String :=
  [".inf", ".Inf", ".INF", "+.inf", "+.Inf", "+.INF", "-.inf", "-.Inf", "-.INF", ".nan", ".NaN",
    ".NAN"]

/-- Whether a plain scalar writes a floating point number; only texts with a
digit do, apart from a few words. -/
def isReal (s : List Char) : Bool :=
  specialFloats.contains (String.ofList s) || (s.any Char.isDigit && (readFloat s).isSome)

/-- What a plain scalar without a tag is. -/
def ofPlain (s : List Char) : Node :=
  let word := String.ofList s
  if ["", "~", "null"].contains word then .nil
  else if ["true", "True", "TRUE"].contains word then .bool true
  else if ["false", "False", "FALSE"].contains word then .bool false
  else
    match readInt? s with
    | some i => .int i
    | none => if isReal s then .real word else .text word

/-- The beginning of the tags for types that every text knows. -/
def coreTags : String := "tag:yaml.org,2002:"

/-- What a plain scalar with a tag is. -/
def ofTagged (start ending : String) (s : List Char) : Node :=
  let word := String.ofList s
  if start ≠ coreTags then .text word
  else
    match ending with
    | "bool" =>
        if word = "true" then .bool true else if word = "false" then .bool false else .unknown
    | "int" => ((readSigned 10 s).map Node.int).getD .unknown
    | "float" => if isReal s then .real word else .unknown
    | "null" => if word = "~" || word = "null" then .nil else .unknown
    | _ => .text word

/-! ### Properties of nodes -/

/-- What has been seen of a document: the names for the beginnings of tags, and
the anchors, each with the number of its node. -/
structure Known where
  tagNames : List (String × String)
  anchors : List (String × Nat)
  /-- The nodes with anchors that are complete. -/
  nodes : List (Nat × Node)
  /-- How many anchors there are. -/
  count : Nat

/-- Notes an anchor, and gives the number of its node. -/
def Known.add (name : String) (known : Known) : Nat × Known :=
  (known.count,
    { known with anchors := (name, known.count) :: known.anchors, count := known.count + 1 })

/-- Notes that the node with a number is complete. -/
def Known.finish (number : Option Nat) (node : Node) (known : Known) : Known :=
  match number with
  | some number => { known with nodes := (number, node) :: known.nodes }
  | none => known

/-- The node of an anchor, if there is such an anchor. -/
def Known.reuse? (name : String) (known : Known) : Option Node :=
  (known.anchors.lookup name).map fun number => (known.nodes.lookup number).getD .unknown

/-- The beginning that the handle of a tag stands for; a handle between two marks
has to be known. -/
def Known.tagStart? (handle ending : String) (known : Known) : Option String :=
  if handle = "!!" then some ((known.tagNames.lookup "!!").getD coreTags)
  else if handle = "" && ending = "!" then some ((known.tagNames.lookup "").getD "")
  else
    match known.tagNames.lookup handle with
    | some start => some start
    | none => if 2 ≤ handle.length && handle.endsWith "!" then none else some handle

/-- The anchor and the tag of a node. -/
structure Properties where
  number : Option Nat
  tag : Option (String × String)

/-- Reads an anchor. -/
def readAnchor (known : Known) : List Token → Option Nat × Known × List Token
  | .anchor name :: rest =>
      let (number, known) := known.add name
      (some number, known, rest)
  | tokens => (none, known, tokens)

/-- Reads a tag. -/
def readTag (known : Known) : List Token → Option (Option (String × String) × List Token)
  | .tag handle ending :: rest =>
      (known.tagStart? handle ending).map fun start => (some (start, ending), rest)
  | tokens => some (none, tokens)

/-- Reads an anchor and a tag, in either order. -/
def readProperties (known : Known) (tokens : List Token) :
    Option (Properties × Known × List Token) := do
  match readAnchor known tokens with
  | (some number, known, tokens) =>
      let (tag, tokens) ← readTag known tokens
      pure (⟨some number, tag⟩, known, tokens)
  | (none, known, tokens) =>
      let (tag, tokens) ← readTag known tokens
      if tag.isNone then pure (⟨none, none⟩, known, tokens)
      else
        let (number, known, tokens) := readAnchor known tokens
        pure (⟨number, tag⟩, known, tokens)

/-- What a scalar with the given tag is. -/
def ofScalar (tag : Option (String × String)) (isPlain : Bool) (s : List Char) : Node :=
  if isPlain then
    match tag with
    | some (start, ending) => ofTagged start ending s
    | none => ofPlain s
  else .text (String.ofList s)

/-! ### Collections -/

/-- The fields that keys and values in turn make up; a key of unknown kind does
not count as one, and a key may stand there only once. -/
def pairs (done : List (Node × Node)) : (key : Node) → List Node → Option (List (Node × Node))
  | _, [] => some done.reverse
  | .unknown, node :: rest => pairs done node rest
  | key, node :: rest =>
      if done.any fun field => same field.1 key then none
      else pairs ((key, node) :: done) .unknown rest

/-- A mapping of keys and values in turn. -/
def ofPairs? (nodes : List Node) : Option Node :=
  (pairs [] .unknown nodes).map Node.mapping

/-- What was read, what is known then, and the tokens after it. -/
abbrev Reading (α : Type) := α × Known × List Token

mutual

/-- A node.  In a block it may be a block collection, and as the value of a key
the items of a sequence that is not set in. -/
def read (inBlock loose : Bool) : (fuel : Nat) → Known → List Token → Option (Reading Node)
  | 0, _, _ => none
  | _, known, .reuse name :: rest => (known.reuse? name).map fun node => (node, known, rest)
  | fuel + 1, known, tokens => do
      let (properties, known, tokens) ← readProperties known tokens
      let (node, known, rest) ← readContent inBlock loose fuel properties known tokens
      pure (node, known.finish properties.number node, rest)

/-- The content of a node behind its properties. -/
def readContent (inBlock loose : Bool) :
    (fuel : Nat) → Properties → Known → List Token → Option (Reading Node)
  | 0, _, _, _ => none
  | fuel + 1, properties, known, tokens =>
      match tokens with
      | .scalar isPlain s :: rest => some (ofScalar properties.tag isPlain s, known, rest)
      | .flowSequence :: rest => do
          let (items, known, rest) ← readFlowItems fuel known rest
          pure (.sequence items, known, rest)
      | .flowMapping :: rest => do
          let (nodes, known, rest) ← readFlowFields fuel known rest
          pure (← ofPairs? nodes, known, rest)
      | tokens =>
          match inBlock, loose, tokens with
          | _, true, .item :: _ => do
              let (items, known, rest) ← readLooseItems fuel known tokens
              pure (.sequence items, known, rest)
          | true, _, .blockSequence :: rest => do
              let (items, known, rest) ← readItems fuel known rest
              pure (.sequence items, known, rest)
          | true, _, .blockMapping :: rest => do
              let (nodes, known, rest) ← readFields fuel known rest
              pure (← ofPairs? nodes, known, rest)
          | _, _, tokens =>
              if properties.number.isSome || properties.tag.isSome then
                some (ofScalar properties.tag true [], known, tokens)
              else none

/-- The items of a block sequence. -/
def readItems : (fuel : Nat) → Known → List Token → Option (Reading (List Node))
  | 0, _, _ => none
  | fuel + 1, known, tokens =>
      match tokens with
      | .blockEnd :: rest => some ([], known, rest)
      | .item :: rest => do
          let (item, known, rest) ← match rest with
            | .item :: _ => some (.nil, known, rest)
            | .blockEnd :: _ => some (.nil, known, rest)
            | rest => read true false fuel known rest
          let (items, known, rest) ← readItems fuel known rest
          pure (item :: items, known, rest)
      | _ => none

/-- The items of a sequence that is not set in. -/
def readLooseItems : (fuel : Nat) → Known → List Token → Option (Reading (List Node))
  | 0, _, _ => none
  | fuel + 1, known, tokens =>
      match tokens with
      | .item :: rest => do
          let (item, known, rest) ← match rest with
            | .item :: _ => some (.nil, known, rest)
            | .key :: _ => some (.nil, known, rest)
            | .value :: _ => some (.nil, known, rest)
            | .blockEnd :: _ => some (.nil, known, rest)
            | rest => read true false fuel known rest
          let (items, known, rest) ← readLooseItems fuel known rest
          pure (item :: items, known, rest)
      | tokens => some ([], known, tokens)

/-- The keys and values of a block mapping in turn. -/
def readFields : (fuel : Nat) → Known → List Token → Option (Reading (List Node))
  | 0, _, _ => none
  | fuel + 1, known, tokens => do
      match tokens with
      | .blockEnd :: rest => some ([], known, rest)
      | .key :: rest =>
          let (key, known, rest) ← readPart fuel known rest
          readValue fuel key known rest
      | .value :: _ => readValue fuel .nil known tokens
      | _ => none

/-- A value behind its key in a block mapping, and the fields after it. -/
def readValue : (fuel : Nat) → (key : Node) → Known → List Token → Option (Reading (List Node))
  | 0, _, _, _ => none
  | fuel + 1, key, known, tokens => do
      let (value, known, rest) ← match tokens with
        | .value :: rest => readPart fuel known rest
        | tokens => some (.nil, known, tokens)
      let (nodes, known, rest) ← readFields fuel known rest
      pure (key :: value :: nodes, known, rest)

/-- A key or a value in a block mapping, which may be left out. -/
def readPart : (fuel : Nat) → Known → List Token → Option (Reading Node)
  | 0, _, _ => none
  | fuel + 1, known, tokens =>
      match tokens with
      | .key :: _ => some (.nil, known, tokens)
      | .value :: _ => some (.nil, known, tokens)
      | .blockEnd :: _ => some (.nil, known, tokens)
      | tokens => read true true fuel known tokens

/-- The items of a flow sequence; an item may be a mapping of one field. -/
def readFlowItems : (fuel : Nat) → Known → List Token → Option (Reading (List Node))
  | 0, _, _ => none
  | fuel + 1, known, tokens =>
      match tokens with
      | .flowSequenceEnd :: rest => some ([], known, rest)
      | tokens => do
          let (item, known, rest) ← match tokens with
            | .key :: rest => readSingle fuel known rest
            | tokens => read false false fuel known tokens
          match rest with
          | .flowSequenceEnd :: rest => pure ([item], known, rest)
          | .comma :: rest =>
              let (items, known, rest) ← readFlowItems fuel known rest
              pure (item :: items, known, rest)
          | _ => none

/-- A mapping of one field in a flow sequence. -/
def readSingle : (fuel : Nat) → Known → List Token → Option (Reading Node)
  | 0, _, _ => none
  | fuel + 1, known, tokens => do
      let (key, known, rest) ← match tokens with
        | .value :: rest => some (.nil, known, rest)
        | .comma :: rest => some (.nil, known, rest)
        | .flowSequenceEnd :: rest => some (.nil, known, rest)
        | tokens => read false false fuel known tokens
      let (value, known, rest) ← match rest with
        | .value :: rest =>
            match rest with
            | .comma :: _ => some (.nil, known, rest)
            | .flowSequenceEnd :: _ => some (.nil, known, rest)
            | rest => read false false fuel known rest
        | rest => some (.nil, known, rest)
      pure (← ofPairs? [key, value], known, rest)

/-- The keys and values of a flow mapping in turn. -/
def readFlowFields : (fuel : Nat) → Known → List Token → Option (Reading (List Node))
  | 0, _, _ => none
  | fuel + 1, known, tokens =>
      match tokens with
      | .flowMappingEnd :: rest => some ([], known, rest)
      | tokens => do
          let (key, hasValue, known, rest) ← match tokens with
            | .key :: rest =>
                match rest with
                | .value :: _ => some (.nil, true, known, rest)
                | .comma :: _ => some (.nil, true, known, rest)
                | .flowMappingEnd :: _ => some (.nil, true, known, rest)
                | rest => (read false false fuel known rest).map fun (n, k, r) => (n, true, k, r)
            | .value :: _ => some (.nil, true, known, tokens)
            | tokens => (read false false fuel known tokens).map fun (n, k, r) => (n, false, k, r)
          let (value, known, rest) ← match hasValue, rest with
            | true, .value :: rest =>
                match rest with
                | .comma :: _ => some (.nil, known, rest)
                | .flowMappingEnd :: _ => some (.nil, known, rest)
                | rest => read false false fuel known rest
            | _, rest => some (.nil, known, rest)
          match rest with
          | .flowMappingEnd :: rest => pure ([key, value], known, rest)
          | .comma :: rest =>
              let (nodes, known, rest) ← readFlowFields fuel known rest
              pure (key :: value :: nodes, known, rest)
          | _ => none

end

/-! ### Documents -/

/-- The directives before a document: the names for the beginnings of tags that
the last one gives, and the tokens after them.  The version may be given once. -/
def readDirectives (hasVersion : Bool) (names : List (String × String)) :
    List Token → Option (List (String × String) × List Token)
  | .version :: rest => if hasVersion then none else readDirectives true [] rest
  | .tagName handle start :: rest => readDirectives hasVersion [(handle, start)] rest
  | tokens => some (names, tokens)

/-- The node of the document that tokens begin with, and the tokens after it. -/
def readDocument (tokens : List Token) : Option (Node × List Token) := do
  let fuel := 4 * tokens.length + 4
  let (names, rest) ← readDirectives false [] tokens
  let known : Known := ⟨names, [], [], 0⟩
  match rest with
  | .documentStart :: rest =>
      match rest with
      | .version :: _ => some (.nil, rest)
      | .tagName _ _ :: _ => some (.nil, rest)
      | .documentStart :: _ => some (.nil, rest)
      | .documentEnd :: _ => some (.nil, rest)
      | .streamEnd :: _ => some (.nil, rest)
      | rest =>
          let (node, _, rest) ← read true false fuel known rest
          pure (node, rest)
  | rest =>
      if rest.length = tokens.length then
        let (node, _, rest) ← read true false fuel known rest
        pure (node, rest)
      else none

/-- The tokens after the ends of documents. -/
def dropEnds (tokens : List Token) : List Token := tokens.dropWhile (· == .documentEnd)

/-- The node of the only document that tokens make up; an empty mapping where
there is none.  A second document is not allowed. -/
def ofTokens? (tokens : List Token) : Option Node :=
  match dropEnds tokens with
  | [.streamEnd] => some (.mapping [])
  | tokens =>
      (readDocument tokens).bind fun (node, rest) =>
        if dropEnds rest = [.streamEnd] then some node else none

/-! ### Settings -/

/-- The text of a key. -/
def keyText? : Node → Option String
  | .bool b => some (if b then "true" else "false")
  | .int i => some (String.ofList (Json.intText i))
  | .real source => some source
  | .text s => some s
  | _ => none

mutual

/-- A node as a setting. -/
def setting? (origin : String) : Node → Option Setting
  | .unknown => some (.scalar .nil (some origin))
  | .nil => some (.scalar .nil (some origin))
  | .bool b => some (.scalar (.bool b) (some origin))
  | .int i => some (.scalar (.int i) (some origin))
  | .real source => (readFloat source.toList).map fun d => .scalar (.float d) (some origin)
  | .text s => some (.scalar (.text s) (some origin))
  | .sequence items => (settings? origin items).map fun items => .list items (some origin)
  | .mapping fields => (fields? origin [] fields).map fun fields => .table fields (some origin)

/-- Nodes as settings. -/
def settings? (origin : String) : List Node → Option (List Setting)
  | [] => some []
  | item :: items => do
      let first ← setting? origin item
      pure (first :: (← settings? origin items))

/-- Fields of a mapping as fields of settings, after those in `done`. -/
def fields? (origin : String) (done : List (String × Setting)) :
    List (Node × Node) → Option (List (String × Setting))
  | [] => some done
  | (key, value) :: rest => do
      let name ← keyText? key
      let setting ← setting? origin value
      fields? origin (KeyMap.insertEntry name setting done) rest

end

end Node

end CallTree.Settings.Yaml
