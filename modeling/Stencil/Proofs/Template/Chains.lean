import Stencil.Template.Table
import Stencil.Proofs.Template.Unescaping

namespace Stencil

/-! Chains one behind the other.

A modifier delimiter between two chain texts joins the chains, provided that no backslash at the end
of the first one takes the delimiter.  A chain does what its parts do one after the other, so a call
that the registry ignores can be put anywhere.
-/

/-- The reading of the text leaves a backslash over, which would take whatever follows. -/
def EndsInBackslash (text : List Char) : Prop :=
  .plain '\\' ∈ glyphs text

instance (text : List Char) : Decidable (EndsInBackslash text) :=
  inferInstanceAs (Decidable (_ ∈ _))

theorem splitUnescaped_join {separator : Char} (notBackslash : separator ≠ '\\')
    {left : List Char} (complete : ¬ EndsInBackslash left) (right : List Char) :
    splitUnescaped separator (left ++ separator :: right) =
      splitUnescaped separator left ++ splitUnescaped separator right := by
  suffices cut : cutUnescaped separator false (left ++ separator :: right) =
      ((cutUnescaped separator false left).1,
        (cutUnescaped separator false left).2 ++ splitUnescaped separator right) by
    simp [splitUnescaped, cut]
  rw [EndsInBackslash] at complete
  fun_induction glyphs left with
  | case1 => rw [List.nil_append, cutUnescaped_separator notBackslash]; rfl
  | case2 => simp at complete
  | case3 c rest restIH =>
      rw [List.cons_append, List.cons_append, cutUnescaped_escaped, cutUnescaped_escaped,
        restIH (by simpa using complete)]
  | case4 c rest notEnd notPair restIH =>
      have plain : c ≠ '\\' := ne_backslash_of_unpaired notEnd notPair
      have restComplete : .plain '\\' ∉ glyphs rest := fun dangling => complete (by simp [dangling])
      rw [List.cons_append]
      by_cases here : c = separator
      · rw [here, cutUnescaped_separator notBackslash, cutUnescaped_separator notBackslash,
          restIH restComplete]
        rfl
      · rw [cutUnescaped_plain plain here, cutUnescaped_plain plain here, restIH restComplete]

theorem ModifierCall.ofChain_join (d : Delimiters) {left : List Char}
    (complete : ¬ EndsInBackslash left) (right : List Char) :
    ofChain d (left ++ d.modifier :: right) = ofChain d left ++ ofChain d right := by
  simp only [ofChain, splitUnescaped_join d.modifier_ne_backslash complete, List.filter_append,
    List.map_append]

/-- The registry does not know the call, or the modifier that it knows rejects the parameters. -/
def Registry.Ignores (registry : Registry) (call : ModifierCall) : Prop :=
  registry.find? call.name = none ∨
    ∃ modifier, registry.find? call.name = some modifier ∧ modifier.steps? call.params = none

theorem Registry.resolve_of_ignores {registry : Registry} {call : ModifierCall}
    (ignores : registry.Ignores call) : registry.resolve call = some := by
  rcases ignores with unknown | ⟨modifier, known, rejects⟩
  · simp [resolve, resolve?, expand, unknown]
  · simp [resolve, resolve?, expand, known, rejects]

theorem Transform.sequence_of_identities {transforms : List Transform}
    (identities : ∀ transform ∈ transforms, transform = some) (value : Value) :
    sequence transforms value = some value := by
  induction transforms with
  | nil => rfl
  | cons transform rest restIH =>
      rw [sequence_cons, identities transform (by simp), Option.bind_some,
        restIH fun other member => identities other (by simp [member])]

/-- Appends the parameter, without which there is nothing to do, to texts. -/
def Modifier.suffix : Modifier :=
  .direct fun params => params[0]?.map fun ending => Value.onText fun text => text ++ ending.toList

namespace Chain

variable {d : Delimiters} {registry : Registry}

/-- The chain that a text writes. -/
def ofSource (d : Delimiters) (registry : Registry) (source : List Char) : Chain :=
  ofCalls registry (ModifierCall.ofChain d source)

theorem steps_ofSource_join {left : List Char} (complete : ¬ EndsInBackslash left)
    (right : List Char) :
    (ofSource d registry (left ++ d.modifier :: right)).steps =
      (ofSource d registry left).steps ++ (ofSource d registry right).steps := by
  simp only [ofSource, ofCalls, ModifierCall.ofChain_join d complete, List.map_append]

theorem apply_of_steps {chain left right : Chain} (steps : chain.steps = left.steps ++ right.steps)
    (value : Value) : chain.apply value = (left.apply value).bind right.apply := by
  rw [apply, steps, List.map_append, Transform.sequence_append]
  rfl

theorem apply_ofSource_join {left : List Char} (complete : ¬ EndsInBackslash left)
    (right : List Char) (value : Value) :
    (ofSource d registry (left ++ d.modifier :: right)).apply value =
      ((ofSource d registry left).apply value).bind (ofSource d registry right).apply :=
  apply_of_steps (steps_ofSource_join complete right) value

theorem apply_ofSource_of_ignores {source : List Char}
    (ignores : ∀ call ∈ ModifierCall.ofChain d source, registry.Ignores call) :
    (ofSource d registry source).apply = some := by
  funext value
  refine Transform.sequence_of_identities (fun transform member => ?_) value
  simp only [ofSource, ofCalls, List.map_map, List.mem_map, Function.comp_apply] at member
  obtain ⟨call, written, rfl⟩ := member
  exact Registry.resolve_of_ignores (ignores call written)

/-- Going through steps one by one, each with the value that the one before yielded. -/
inductive Passes : List (String × Transform) → Value → Value → Prop where
  | done {value : Value} : Passes [] value value
  | step {name : String} {transform : Transform} {rest : List (String × Transform)}
      {before between after : Value} :
      transform before = some between → Passes rest between after →
        Passes ((name, transform) :: rest) before after

theorem passes_iff {steps : List (String × Transform)} {value result : Value} :
    Passes steps value result ↔ (Chain.mk steps).apply value = some result := by
  rw [apply]
  induction steps generalizing value with
  | nil =>
      constructor
      · intro passes
        cases passes
        rfl
      · intro applied
        cases applied
        exact .done
  | cons first rest restIH =>
      obtain ⟨name, transform⟩ := first
      rw [List.map_cons, Transform.sequence_cons, Option.bind_eq_some_iff]
      constructor
      · intro passes
        cases passes with
        | step here later => exact ⟨_, here, restIH.mp later⟩
      · intro applied
        obtain ⟨between, here, later⟩ := applied
        exact .step here (restIH.mpr later)

theorem toTransform_eq_apply (chain : Chain) : chain.toTransform = chain.apply := by
  obtain ⟨steps⟩ := chain
  cases steps <;> rfl

variable (d registry)

/-- Two chain texts with a modifier delimiter between them write the first chain followed by the
second: values go through the one and then through the other, and the names are those of both.
Calls that the registry ignores change no value, alone, behind a chain, in front of it or between
two of its calls.  And a chain that is collapsed into one transform, the chain itself and its steps
one by one yield the same. -/
theorem join_insert_collapse {left : List Char} (complete : ¬ EndsInBackslash left)
    (right : List Char) (value : Value) :
    (ofSource d registry (left ++ d.modifier :: right)).apply value =
        ((ofSource d registry left).apply value).bind (ofSource d registry right).apply ∧
      (ofSource d registry (left ++ d.modifier :: right)).names =
        (ofSource d registry left).names ++ (ofSource d registry right).names ∧
      (∀ inserted, (∀ call ∈ ModifierCall.ofChain d inserted, registry.Ignores call) →
        (ofSource d registry inserted).apply value = some value ∧
          (ofSource d registry (left ++ d.modifier :: inserted)).apply value =
            (ofSource d registry left).apply value ∧
          (¬ EndsInBackslash inserted →
            (ofSource d registry (inserted ++ d.modifier :: right)).apply value =
                (ofSource d registry right).apply value ∧
              (ofSource d registry
                  (left ++ d.modifier :: (inserted ++ d.modifier :: right))).apply value =
                (ofSource d registry (left ++ d.modifier :: right)).apply value)) ∧
      ∀ chain : Chain, chain.toTransform value = chain.apply value ∧
        ∀ result, chain.apply value = some result ↔ Passes chain.steps value result := by
  refine ⟨apply_ofSource_join complete right value, ?_, fun inserted ignores => ⟨?_, ?_, ?_⟩,
    fun chain => ⟨by rw [toTransform_eq_apply], fun result => passes_iff.symm⟩⟩
  · rw [names, steps_ofSource_join complete, List.map_append]
    rfl
  · rw [apply_ofSource_of_ignores ignores]
  · rw [apply_ofSource_join complete, apply_ofSource_of_ignores ignores, Option.bind_fun_some]
  · intro insertedComplete
    have dropped (input : Value) :
        (ofSource d registry (inserted ++ d.modifier :: right)).apply input =
          (ofSource d registry right).apply input := by
      rw [apply_ofSource_join insertedComplete, apply_ofSource_of_ignores ignores,
        Option.bind_some]
    refine ⟨dropped value, ?_⟩
    rw [apply_ofSource_join complete, apply_ofSource_join complete, funext dropped]

/-- The first chain ends in an escaped delimiter and the second begins with an empty call.  Of the
calls between them one is not known and one lacks its parameter. -/
theorem join_insert_collapse_escaped :
    let registry := (Registry.empty.register "suffix" Modifier.suffix).register "upper"
      (Modifier.text Unicode.uppercase)
    let left := "suffix:\\^".toList
    let inserted := "bogus:\\^^suffix".toList
    let right := "^upper".toList
    ¬ EndsInBackslash left ∧ ¬ EndsInBackslash inserted ∧
      (∀ call ∈ ModifierCall.ofChain .standard inserted, registry.Ignores call) ∧
      (ofSource .standard registry (left ++ '^' :: (inserted ++ '^' :: right))).apply
        (.string "x") = some (.string "X^") := by
  intro registry left inserted right
  have leftComplete : ¬ EndsInBackslash left := by decide
  have insertedComplete : ¬ EndsInBackslash inserted := by decide
  have ignores : ∀ call ∈ ModifierCall.ofChain .standard inserted, registry.Ignores call := by
    have written : ModifierCall.ofChain .standard inserted =
        [⟨"bogus", ["^"]⟩, ⟨"suffix", []⟩] := by
      decide +kernel
    have unknown : registry.find? "bogus" = none := by decide +kernel
    have known : registry.find? "suffix" = some Modifier.suffix := rfl
    rw [written]
    intro call member
    rcases List.mem_cons.mp member with rfl | member
    · exact .inl unknown
    · obtain rfl := List.mem_singleton.mp member
      exact .inr ⟨Modifier.suffix, known, rfl⟩
  have laws := join_insert_collapse .standard registry leftComplete right (.string "x")
  have between := ((laws.2.2.1 inserted ignores).2.2 insertedComplete).2
  have joined : (ofSource .standard registry (left ++ '^' :: right)).apply (.string "x") =
      some (.string "X^") := rfl
  exact ⟨leftComplete, insertedComplete, ignores, between.trans joined⟩

end Chain

end Stencil
