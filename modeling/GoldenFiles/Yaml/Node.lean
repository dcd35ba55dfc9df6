import GoldenFiles.Yaml.Token

/-!
# Nodes

The tokens of a document make up one node: a scalar, a sequence, a mapping, or a
reference to a node that has been given a name. A node that is left out where
one may stand is an empty plain scalar.

Names are numbered as nodes are given them, by how many names there are at that
time, and a reference carries the number. So a name that is given again takes
its references to the newer node, and a number stands for the last node that
has it.
-/

namespace GoldenFiles.Yaml

/-- What is said about a node in front of it. -/
structure Properties where
  /-- The number of its name. -/
  anchor : Option Nat := none
  tag : Option Bytes := none
  deriving DecidableEq, Repr

/-- A node of a document. -/
inductive Node where
  | alias (number : Nat)
  | scalar (properties : Properties) (style : Style) (text : String)
  | sequence (properties : Properties) (items : List Node)
  | mapping (properties : Properties) (entries : List (Node × Node))

/-- A node that is left out. -/
def Node.empty : Node := .scalar {} .plain ""

/-- The names of a document and their numbers, newest first. -/
abbrev Names := List (List Char × Nat)

/-- Numbers a name that is given to a node. -/
def Names.bind (names : Names) (name : List Char) : Nat × Names :=
  (names.length, (name, names.length) :: names.filter (·.1 ≠ name))

/-- What the handles of tags stand for. -/
abbrev Handles := List (List Char × Bytes)

/-- What handles stand for where no directive says otherwise. -/
def Handles.standard : Handles :=
  [(['!'], Utf8.encode "!"), (['!', '!'], Utf8.encode "tag:yaml.org,2002:")]

/-- The tag that a written one stands for. -/
def WrittenTag.resolve? (handles : Handles) (written : WrittenTag) : Option Bytes :=
  if written.handle = [] then some written.suffix
  else (handles.lookup written.handle).map (· ++ written.suffix)

/-- What is still to be read of a document. -/
structure Unread where
  tokens : List Token
  names : Names := []

/-- The properties that come next. There may be a name and a tag, in either
order. -/
def properties (handles : Handles) (u : Unread) : Option (Properties × Unread) :=
  match u.tokens with
  | .anchor name :: .tag written :: rest =>
      let (number, names) := u.names.bind name
      (written.resolve? handles).map fun tag => (⟨some number, some tag⟩, ⟨rest, names⟩)
  | .tag written :: .anchor name :: rest =>
      let (number, names) := u.names.bind name
      (written.resolve? handles).map fun tag => (⟨some number, some tag⟩, ⟨rest, names⟩)
  | .anchor name :: rest =>
      let (number, names) := u.names.bind name
      some (⟨some number, none⟩, ⟨rest, names⟩)
  | .tag written :: rest =>
      (written.resolve? handles).map fun tag => (⟨none, some tag⟩, { u with tokens := rest })
  | _ => some ({}, u)

/-- Whether a key or a value may be left out in front of a token of a block. -/
def endsBlockEntry (t : Token) : Bool := t = .key ∨ t = .value ∨ t = .blockEnd

/-- Whether an item may be left out in front of a token of a block. -/
def endsBlockItem (t : Token) : Bool := t = .item ∨ endsBlockEntry t

/-- Whether a node may be left out in front of a token in brackets or braces. -/
def endsFlowNode (close : Token) (t : Token) : Bool := t = .value ∨ t = .comma ∨ t = close

/-- What comes next in brackets or braces. -/
inductive FlowNext where
  | closed (rest : List Token)
  | entry (rest : List Token)

/-- The end of a collection in brackets or braces, or its next entry, which all
but the first have a comma before them. -/
def flowNext (close : Token) (first : Bool) : List Token → Option FlowNext
  | [] => none
  | t :: rest =>
      if t = close then some (.closed rest)
      else if first then some (.entry (t :: rest))
      else if t ≠ .comma then none
      else if rest.head? = some close then some (.closed rest.tail)
      else some (.entry rest)

mutual

/-- The node that comes next. `bare` tells whether it may be a sequence whose
dashes are not indented. -/
def node (handles : Handles) : (fuel : Nat) → (bare : Bool) → Unread → Option (Node × Unread)
  | 0, _, _ => none
  | fuel + 1, bare, u =>
      match u.tokens with
      | .alias name :: rest =>
          (u.names.lookup name).map fun number => (.alias number, { u with tokens := rest })
      | _ =>
          match properties handles u with
          | none => none
          | some (p, u) =>
              match u.tokens with
              | .scalar style text :: rest =>
                  some (.scalar p style (.ofList text), { u with tokens := rest })
              | .flowSequence :: rest =>
                  (flowItems handles fuel true { u with tokens := rest }).map
                    fun (items, u) => (.sequence p items, u)
              | .flowMapping :: rest =>
                  (flowEntries handles fuel true { u with tokens := rest }).map
                    fun (entries, u) => (.mapping p entries, u)
              | .blockSequence :: rest =>
                  (items handles fuel false { u with tokens := rest }).map
                    fun (items, u) => (.sequence p items, u)
              | .blockMapping :: rest =>
                  (entries handles fuel { u with tokens := rest }).map
                    fun (entries, u) => (.mapping p entries, u)
              | t :: _ =>
                  if bare ∧ t = .item then
                    (items handles fuel true u).map fun (items, u) => (.sequence p items, u)
                  else if p = {} then none
                  else some (.scalar p .plain "", u)
              | [] => if p = {} then none else some (.scalar p .plain "", u)

/-- The node that comes next, or an empty one if it is left out. -/
def nodeOrEmpty (handles : Handles) : (fuel : Nat) → (ends : Token → Bool) → (bare : Bool) →
    Unread → Option (Node × Unread)
  | 0, _, _, _ => none
  | fuel + 1, ends, bare, u =>
      if u.tokens.head?.any ends then some (.empty, u) else node handles fuel bare u

/-- A key whose mark has been read, and its value. -/
def pair (handles : Handles) : (fuel : Nat) → (ends : Token → Bool) → (bare : Bool) → Unread →
    Option ((Node × Node) × Unread)
  | 0, _, _, _ => none
  | fuel + 1, ends, bare, u =>
      match nodeOrEmpty handles fuel ends bare u with
      | none => none
      | some (key, u) =>
          match u.tokens with
          | .value :: rest =>
              (nodeOrEmpty handles fuel ends bare { u with tokens := rest }).map
                fun (value, u) => ((key, value), u)
          | _ => some ((key, .empty), u)

/-- The items of a sequence with dashes. A bare one ends where no dash comes. -/
def items (handles : Handles) : (fuel : Nat) → (bare : Bool) → Unread →
    Option (List Node × Unread)
  | 0, _, _ => none
  | fuel + 1, bare, u =>
      match u.tokens with
      | .item :: rest =>
          match nodeOrEmpty handles fuel endsBlockItem false { u with tokens := rest } with
          | none => none
          | some (first, u) =>
              (items handles fuel bare u).map fun (more, u) => (first :: more, u)
      | t :: rest =>
          if bare then some ([], u)
          else if t = .blockEnd then some ([], { u with tokens := rest })
          else none
      | [] => if bare then some ([], u) else none

/-- The entries of a mapping that is laid out by columns. -/
def entries (handles : Handles) : (fuel : Nat) → Unread → Option (List (Node × Node) × Unread)
  | 0, _ => none
  | fuel + 1, u =>
      match u.tokens with
      | .key :: rest =>
          match pair handles fuel endsBlockEntry true { u with tokens := rest } with
          | none => none
          | some (first, u) =>
              (entries handles fuel u).map fun (more, u) => (first :: more, u)
      | .blockEnd :: rest => some ([], { u with tokens := rest })
      | _ => none

/-- The items of a sequence in brackets. An item with a key is a mapping of its
own. -/
def flowItems (handles : Handles) : (fuel : Nat) → (first : Bool) → Unread →
    Option (List Node × Unread)
  | 0, _, _ => none
  | fuel + 1, first, u =>
      match flowNext .flowSequenceEnd first u.tokens with
      | none => none
      | some (.closed rest) => some ([], { u with tokens := rest })
      | some (.entry tokens) =>
          let item :=
            match tokens with
            | .key :: rest =>
                (pair handles fuel (endsFlowNode .flowSequenceEnd) false
                  { u with tokens := rest }).map fun (entry, u) => (Node.mapping {} [entry], u)
            | _ => node handles fuel false { u with tokens := tokens }
          match item with
          | none => none
          | some (item, u) =>
              (flowItems handles fuel false u).map fun (more, u) => (item :: more, u)

/-- The entries of a mapping in braces. An entry without the mark of a key is a
key alone. -/
def flowEntries (handles : Handles) : (fuel : Nat) → (first : Bool) → Unread →
    Option (List (Node × Node) × Unread)
  | 0, _, _ => none
  | fuel + 1, first, u =>
      match flowNext .flowMappingEnd first u.tokens with
      | none => none
      | some (.closed rest) => some ([], { u with tokens := rest })
      | some (.entry tokens) =>
          let entry :=
            match tokens with
            | .key :: rest =>
                pair handles fuel (endsFlowNode .flowMappingEnd) false { u with tokens := rest }
            | _ =>
                (node handles fuel false { u with tokens := tokens }).map
                  fun (key, u) => ((key, Node.empty), u)
          match entry with
          | none => none
          | some (entry, u) =>
              (flowEntries handles fuel false u).map fun (more, u) => (entry :: more, u)

end

/-- Reads directives. There is one version at most, a known one, and one meaning
for each handle. -/
def directives (seenVersion : Bool) (handles : Handles) :
    List Token → Option (Handles × List Token)
  | .directive (.version major minor) :: rest =>
      if seenVersion ∨ major ≠ 1 ∨ (minor ≠ 1 ∧ minor ≠ 2) then none
      else directives true handles rest
  | .directive (.handle handle meaning) :: rest =>
      if (handles.lookup handle).isSome then none
      else directives seenVersion ((handle, meaning) :: handles) rest
  | tokens => some (handles, tokens)

/-- Whether a token marks the start or the end of a document. -/
def endsDocument : Token → Bool
  | .documentStart | .documentEnd | .directive _ => true
  | _ => false

/-- The one document that tokens make up; there need not be one. A document
that begins with a mark or with directives may be empty. -/
def document (tokens : List Token) : Option (Option Node) :=
  let fuel := 4 * (tokens.length + 1)
  let close (root : Node) (rest : List Token) : Option (Option Node) :=
    if rest.all (· = .documentEnd) then some (some root) else none
  match tokens with
  | [] => some none
  | first :: _ =>
      match directives false [] tokens with
      | none => none
      | some (handles, .documentStart :: rest) =>
          if rest.head?.all endsDocument then close .empty rest
          else
            (node (handles ++ .standard) fuel false { tokens := rest }).bind
              fun (root, u) => close root u.tokens
      | some _ =>
          if endsDocument first then none
          else
            (node .standard fuel false { tokens := tokens }).bind
              fun (root, u) => close root u.tokens

/-- The node of a text; `some none` stands for a text without a document. -/
def read (text : List Char) : Option (Option Node) := (tokens text).bind document

end GoldenFiles.Yaml
