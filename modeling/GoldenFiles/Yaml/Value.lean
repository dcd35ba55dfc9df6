import GoldenFiles.Yaml.Node

/-!
# What nodes stand for

A scalar is text, and whoever reads a document knows what a text is to be. So
any scalar will do for a text, however it is written, while a number has to be
plain, and a plain scalar may also say that there is nothing.
-/

namespace GoldenFiles.Yaml

/-- The nodes in a node that have a number, in the order in which they begin. -/
def Node.numbered : Node → List (Nat × Node)
  | .alias _ => []
  | .scalar p style text => p.anchor.toList.map (·, .scalar p style text)
  | .sequence p items =>
      p.anchor.toList.map (·, .sequence p items) ++ numberedItems items
  | .mapping p entries =>
      p.anchor.toList.map (·, .mapping p entries) ++ numberedEntries entries
where
  /-- The nodes in items that have a number. -/
  numberedItems : List Node → List (Nat × Node)
    | [] => []
    | item :: items => item.numbered ++ numberedItems items
  /-- The nodes in entries that have a number. -/
  numberedEntries : List (Node × Node) → List (Nat × Node)
    | [] => []
    | (key, value) :: entries => key.numbered ++ value.numbered ++ numberedEntries entries

/-- The node that a node of a document stands for: itself, or for a reference
the last node with its number. -/
def Node.target? (root : Node) : Node → Option Node
  | .alias number => root.numbered.reverse.lookup number
  | node => some node

/-- The words for nothing. -/
def nullWords : List String := ["null", "Null", "NULL", "~"]

/-- The tag of numbers. -/
def integerTag : Bytes := Utf8.encode "tag:yaml.org,2002:int"

/-- The tag of nothing. -/
def nullTag : Bytes := Utf8.encode "tag:yaml.org,2002:null"

/-- The value of digits of a base, if they are any. -/
def digits? (base : Nat) (digits : List Char) : Option Nat :=
  if digits = [] then none
  else
    digits.foldlM
      (fun n c => (hexDigit? c).bind fun d => if d < base then some (n * base + d) else none) 0

/-- The digits after a mark for a base. -/
def basedDigits? : List Char → Option Nat
  | '0' :: 'x' :: digits => digits? 16 digits
  | '0' :: 'o' :: digits => digits? 8 digits
  | '0' :: 'b' :: digits => digits? 2 digits
  | '0' :: _ :: _ => none
  | digits => digits? 10 digits

/-- The number that a text stands for. It may have a plus in front, and a
decimal one does not begin with a zero. -/
def natural? (text : List Char) : Option Nat :=
  let unsigned := match text with
    | '+' :: rest => rest
    | _ => text
  (basedDigits? unsigned).filter (· < Nat.pow 2 64)

namespace Node

/-- The text of a scalar. -/
def text? : Node → Option String
  | .scalar _ _ text => some text
  | _ => none

/-- The number that a scalar stands for. -/
def natural? : Node → Option Nat
  | .scalar p style text =>
      if style = .plain ∨ (style = .literal ∧ p.tag = some integerTag) then
        Yaml.natural? text.toList
      else none
  | _ => none

/-- The text of a scalar that may also stand for nothing. -/
def optionalText? : Node → Option (Option String)
  | .scalar p style text =>
      if style ≠ .plain then some (some text)
      else if p.tag = some nullTag then if text ∈ nullWords then some none else none
      else if p.tag = none ∧ (text = "" ∨ text ∈ nullWords) then some none
      else some (some text)
  | _ => none

/-- The word that a scalar stands for: its text, or a tag of its own on nothing. -/
def word? : Node → Option String
  | .scalar p style text =>
      match p.tag with
      | some (0x21 :: word) =>
          if style = .plain ∧ (text = "" ∨ text ∈ nullWords) then Utf8.decode? word else none
      | _ => some text
  | _ => none

/-- The items of a sequence. Nothing at all is a sequence without items. -/
def items? : Node → Option (List Node)
  | .sequence _ items => some items
  | .scalar _ style text => if style = .plain ∧ text = "" then some [] else none
  | _ => none

/-- The entries of a mapping. Nothing at all is a mapping without entries. -/
def entries? : Node → Option (List (Node × Node))
  | .mapping _ entries => some entries
  | .scalar _ style text => if style = .plain ∧ text = "" then some [] else none
  | _ => none

end Node

end GoldenFiles.Yaml
