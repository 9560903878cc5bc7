import Stencil.Modifier.Registry
import Stencil.Unicode.Binary

namespace Stencil

/-! One-line descriptions of registries and chains, for messages to developers.

Names are in quotes.  A character that would combine with the one before it is shown by its code.
-/

/-- A character of a name. -/
def describedChar (c : Char) : List Char :=
  if Unicode.inRanges c.toNat Unicode.graphemeExtend then
    "\\u\x7b".toList ++ Nat.toDigits 16 c.toNat ++ ['\x7d']
  else [c]

/-- A modifier's name, which consists of letters and of marks on them. -/
def describedName (name : String) : List Char :=
  '"' :: name.toList.flatMap describedChar ++ ['"']

def describedModifiers (kind : String) (names : List String) : String :=
  String.ofList (kind.toList ++ " \x7b modifiers: [".toList ++
    (", ".toList).intercalate (names.map describedName) ++ "] \x7d".toList)

def Registry.description (registry : Registry) : String :=
  describedModifiers "ModifierRegistry" registry.names

def Chain.description (chain : Chain) : String :=
  describedModifiers "TransformChain" chain.names

end Stencil
