import GoldenFiles.Naming.Scheme

/-!
# Telling inputs from other files by their names

A file whose name starts with the input marker claims to be an input. The claim
is good if an identifier follows that is not empty and has no dot, then a dot,
then exactly the input extension. A name that makes the claim and does not keep
it is reported, never skipped in silence: with the extension it has, if it has
the right shape, and otherwise as a name without an identifier. An extension is
a line of text, so a name with a line feed after the dot has the wrong shape.
-/

namespace GoldenFiles.Scheme

/-- How a name that starts with the marker fails to be an input's. -/
inductive Malformed where
  /-- It is not of the form marker, identifier, dot, extension. -/
  | shape
  /-- It has another extension. -/
  | extension (found : String)
  deriving DecidableEq, Repr

/-- How a file name relates to a naming scheme. -/
inductive Classification where
  | unrelated
  | fixture (id : CaseId)
  | malformed (why : Malformed)
  deriving DecidableEq, Repr

/-- What a malformed name is told. -/
def Malformed.message (scheme : Scheme) : Malformed → String
  | .shape =>
      "expected '" ++ scheme.inputMarker ++ "<id>." ++ scheme.inputExtension ++
        "' with a non-empty identifier"
  | .extension found =>
      "extension '" ++ found ++ "' does not match input extension '" ++
        scheme.inputExtension ++ "'"

/-- The text after a leading one, if it leads. -/
def dropLeading? : List Char → List Char → Option (List Char)
  | [], text => some text
  | _ :: _, [] => none
  | m :: marker, c :: text => if m = c then dropLeading? marker text else none

/-- The identifier and the extension of what follows the marker. -/
def idAndExtension? (rest : List Char) : Option (List Char × List Char) :=
  let id := rest.takeWhile (· ≠ '.')
  match rest.dropWhile (· ≠ '.') with
  | _ :: extension =>
      if id = [] ∨ extension = [] ∨ '\n' ∈ extension then none else some (id, extension)
  | [] => none

/-- Tells what a file name is. -/
def classify (scheme : Scheme) (name : String) : Classification :=
  match dropLeading? scheme.inputMarker.toList name.toList with
  | none => .unrelated
  | some rest =>
      match idAndExtension? rest with
      | none => .malformed .shape
      | some (id, extension) =>
          if extension = scheme.inputExtension.toList then .fixture ⟨String.ofList id⟩
          else .malformed (.extension (String.ofList extension))

end GoldenFiles.Scheme
