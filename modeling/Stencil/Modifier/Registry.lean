import Stencil.Data.Dictionary
import Stencil.Template.Calls
import Stencil.Value.Basic

namespace Stencil

/-! Modifiers and the registry that knows them by name.

A modifier turns its parameters into steps, or rejects them.  A step transforms a value by itself
or stands for whatever modifier the registry knows under some name.  A call that the registry does
not know and a call whose parameters are rejected leave every value as it is.
-/

abbrev Transform := Value → Option Value

namespace Transform

def total (f : Value → Value) : Transform :=
  fun value => some (f value)

def sequence (transforms : List Transform) : Transform :=
  fun value => transforms.foldlM (fun value transform => transform value) value

@[simp] theorem sequence_nil (value : Value) : sequence [] value = some value := rfl

@[simp] theorem sequence_cons (transform : Transform) (rest : List Transform) (value : Value) :
    sequence (transform :: rest) value = (transform value).bind (sequence rest) := rfl

theorem sequence_append (left right : List Transform) (value : Value) :
    sequence (left ++ right) value = (sequence left value).bind (sequence right) :=
  List.foldlM_append

end Transform

namespace Value

/-- Applies a function to texts and leaves every other value as it is. -/
def onText (f : List Char → List Char) : Value → Value
  | .string s => .string (String.ofList (f s.toList))
  | value => value

end Value

/-- One step of a modifier. -/
inductive Step where
  | apply (transform : Transform)
  /-- The modifier of this name without parameters, as the registry resolves it. -/
  | call (name : String)

/-- A modifier: the steps for given parameters, or `none` if it rejects them. -/
structure Modifier where
  steps? : List String → Option (List Step)

namespace Modifier

/-- A modifier that transforms by itself. -/
def ofTransform (transform? : List String → Option Transform) : Modifier where
  steps? params := (transform? params).map fun transform => [.apply transform]

/-- A modifier whose transform always has a result. -/
def direct (function? : List String → Option (Value → Value)) : Modifier :=
  ofTransform fun params => (function? params).map Transform.total

/-- A modifier of texts that takes no parameters. -/
def text (f : List Char → List Char) : Modifier :=
  direct fun _ => some (Value.onText f)

end Modifier

structure Registry where
  modifiers : Dictionary Modifier

namespace Registry

def empty : Registry := ⟨.empty⟩

instance : Inhabited Registry := ⟨empty⟩

/-- The modifier under a normalized name. -/
def find? (registry : Registry) (name : String) : Option Modifier :=
  registry.modifiers.get? name

/-- Makes a modifier known under a name, in place of any that was known under it. -/
def register (registry : Registry) (name : String) (modifier : Modifier) : Registry :=
  ⟨registry.modifiers.insert (normalizeName name) modifier⟩

/-- Makes the modifier that is now known as `target` known under another name too; `none` if there
is no such modifier. -/
def alias? (registry : Registry) (name target : String) : Option Registry :=
  (registry.find? (normalizeName target)).map fun modifier => registry.register name modifier

def contains (registry : Registry) (name : String) : Bool :=
  (registry.find? (normalizeName name)).isSome

def names (registry : Registry) : List String :=
  registry.modifiers.keys

def size (registry : Registry) : Nat :=
  registry.modifiers.size

/-- Resolves a call if that takes no more than `depth` nested calls. -/
def expand (registry : Registry) : Nat → ModifierCall → Option Transform
  | 0, _ => none
  | depth + 1, call =>
      match registry.find? call.name with
      | none => some some
      | some modifier =>
          match modifier.steps? call.params with
          | none => some some
          | some steps =>
              (steps.mapM fun step : Step =>
                match step with
                | .apply transform => some transform
                | .call name => registry.expand depth (.named name [])).map Transform.sequence

/-- Resolves a call, or gives `none` if its nested calls never end.  Only the first call has
parameters, so one that nests deeper than there are names comes back to itself. -/
def resolve? (registry : Registry) (call : ModifierCall) : Option Transform :=
  registry.expand (registry.size + 2) call

/-- The transform of a call.  One whose nested calls never end has no result for any value. -/
def resolve (registry : Registry) (call : ModifierCall) : Transform :=
  (registry.resolve? call).getD fun _ => none

end Registry

/-- The resolved calls of a chain, with their names. -/
structure Chain where
  steps : List (String × Transform)

namespace Chain

instance : Inhabited Chain := ⟨⟨[]⟩⟩

def ofCalls (registry : Registry) (calls : List ModifierCall) : Chain :=
  ⟨calls.map fun call => (call.name, registry.resolve call)⟩

def names (chain : Chain) : List String :=
  chain.steps.map (·.1)

/-- Feeds what each step yields to the next one. -/
def apply (chain : Chain) : Transform :=
  Transform.sequence (chain.steps.map (·.2))

def toTransform (chain : Chain) : Transform :=
  match chain.steps with
  | [] => some
  | _ :: _ => chain.apply

end Chain

end Stencil
