import Stencil.Proofs.Modifier.Unfolding

namespace Stencil

/-! Which modifiers can break off.

Of the catalogue only the date modifier can.  It takes formats with an offset that can be read but
not written, and then breaks off on every value that stands for a moment.
-/

namespace Transform

def Total (transform : Transform) : Prop :=
  ∀ value, (transform value).isSome

theorem total_sequence {transforms : List Transform}
    (each : ∀ transform ∈ transforms, transform.Total) : (sequence transforms).Total := by
  induction transforms with
  | nil => exact fun _ => rfl
  | cons transform rest restIH =>
      intro value
      obtain ⟨here, later⟩ := List.forall_mem_cons.mp each
      obtain ⟨changed, found⟩ := Option.isSome_iff_exists.mp (here value)
      rw [sequence_cons, found, Option.bind_some]
      exact restIH later changed

end Transform

theorem DateItem.write?_isSome_iff {item : DateItem} {moment : Moment} :
    (item.write? moment).isSome ↔ item ≠ .looseOffset := by
  cases item with
  | dayHalf capital => cases capital <;> simp [write?]
  | _ => simp [write?]

theorem DateFormat.write?_isSome_iff {format : DateFormat} {moment : Moment} :
    (format.write? moment).isSome ↔ .looseOffset ∉ format := by
  rw [write?, Option.isSome_map, isSome_mapM_iff]
  simp only [DateItem.write?_isSome_iff]
  constructor
  · intro each member
    exact each _ member rfl
  · intro missing item member same
    exact missing (same ▸ member)

/-- The moment that a numeric value stands for. -/
def Value.moment? (value : Value) : Option Moment :=
  value.number?.bind fun x => Moment.ofSeconds? x.floor

theorem Modifier.writeDate_of_moment {format : DateFormat} {value : Value} {moment : Moment}
    (found : value.moment? = some moment) : writeDate format value =
      (format.write? moment).map fun text => .string (String.ofList text) := by
  rw [Value.moment?] at found
  simp only [writeDate, found]

theorem Modifier.writeDate_of_no_moment {format : DateFormat} {value : Value}
    (found : value.moment? = none) : writeDate format value = some value := by
  rw [Value.moment?] at found
  simp only [writeDate, found]

theorem Modifier.writeDate_eq_none_iff {format : DateFormat} {value : Value} :
    writeDate format value = none ↔ .looseOffset ∈ format ∧ value.moment?.isSome := by
  cases found : value.moment? with
  | none => simp [writeDate_of_no_moment found]
  | some moment =>
      have written : (format.write? moment).isSome ↔ .looseOffset ∉ format :=
        DateFormat.write?_isSome_iff
      rw [writeDate_of_moment found, ← Option.not_isSome_iff_eq_none, Option.isSome_map, written]
      simp

namespace Modifier

/-- All that the modifier does by itself with these parameters has a result. -/
def Steady (modifier : Modifier) (params : List String) : Prop :=
  ∀ steps, modifier.steps? params = some steps →
    ∀ transform, .apply transform ∈ steps → transform.Total

variable {modifier : Modifier} {params : List String}

@[simp] theorem steady_direct (function? : List String → Option (Value → Value))
    (params : List String) : (direct function?).Steady params :=
  doesOnly_direct fun _ _ _ => rfl

@[simp] theorem steady_text (f : List Char → List Char) (params : List String) :
    (text f).Steady params :=
  steady_direct _ params

@[simp] theorem steady_plainText (params : List String) : plainText.Steady params :=
  doesOnly_plainText

@[simp] theorem steady_limitUnits (next : Text.TakeUnit) (params : List String) :
    (limitUnits next).Steady params :=
  doesOnly_limitUnits fun _ _ => rfl

@[simp] theorem steady_maxChars (params : List String) : maxChars.Steady params :=
  doesOnly_maxChars fun _ _ => rfl

theorem steady_or_mem_dateFamily [Regex.Limits] {entry : List String × Modifier}
    (member : entry ∈ catalogue) :
    (∀ params, entry.2.Steady params) ∨ entry ∈ dateFamily := by
  have steady : ∀ entry ∈ spellingFamily ++ branchFamily ++ arithmeticFamily ++ patternFamily ++
      markupFamily ++ cleanupFamily, ∀ params, entry.2.Steady params := by
    simp [spellingFamily, branchFamily, emptiness, matching, notMatching, containing,
      notContaining, textTest, greater, greaterOrEqual, less, lessOrEqual, numberTest,
      arithmeticFamily, add, subtract, multiply, divide, increment, decrement, round, ceil, floor,
      binary, patternFamily, patternTest, patternReplace, markupFamily, cleanupFamily, noLines,
      maxWords, maxSentences]
  rw [catalogue, List.mem_append] at member
  exact member.imp_left fun others => steady entry others

/-- The format that the date modifier takes from its parameters. -/
def dateFormat? (params : List String) : Option DateFormat :=
  params[0]?.bind fun source =>
    if source.toList.isEmpty then none else DateFormat.parse? source.toList

theorem steps?_dateFormat (params : List String) :
    dateFormat.steps? params = (dateFormat? params).map fun format => [.apply (writeDate format)] := by
  simp only [dateFormat, dateFormat?, ofTransform]
  cases params[0]? with
  | none => rfl
  | some source =>
      simp only [Option.bind_eq_bind, Option.bind_some]
      split
      · rfl
      · rw [Option.map_map]
        rfl

theorem steady_dateFormat
    (firm : ∀ format, dateFormat? params = some format → .looseOffset ∉ format) :
    dateFormat.Steady params := by
  intro steps known transform member
  rw [steps?_dateFormat] at known
  obtain ⟨format, taken, rfl⟩ := Option.map_eq_some_iff.mp known
  rw [List.mem_singleton, Step.apply.injEq] at member
  subst member
  intro value
  rw [Option.isSome_iff_ne_none, Ne, writeDate_eq_none_iff]
  exact fun breaksOff => firm format taken breaksOff.1

end Modifier

/-- A call of the date modifier with an offset that cannot be written. -/
def ModifierCall.LooseDate (call : ModifierCall) : Prop :=
  call.name ∈ ["dateformat", "formatdate"] ∧
    ∃ format, Modifier.dateFormat? call.params = some format ∧ .looseOffset ∈ format

namespace Registry

variable {registry : Registry} {call : ModifierCall}

/-- Nested calls have no parameters, so what a modifier does with parameters matters only for the
call itself. -/
theorem total_resolve
    (steady : ∀ modifier, registry.find? call.name = some modifier → modifier.Steady call.params)
    (all : registry.All fun modifier => modifier.Steady [])
    (finishes : registry.Finishes call) : (registry.resolve call).Total := by
  refine resolve_of_kind Transform.Total (fun call => ∀ modifier,
    registry.find? call.name = some modifier → modifier.Steady call.params)
    (fun _ => Transform.total_sequence) (fun _ steady => steady) ?_ finishes steady
  intro call _ inner nested modifier known
  rw [params_of_nested nested]
  exact all _ modifier known

theorem steady_nil_builtin [Regex.Limits] : builtin.All fun modifier => modifier.Steady [] := by
  refine all_builtin fun entry member => ?_
  rcases Modifier.steady_or_mem_dateFamily member with steady | isDate
  · exact steady []
  · rw [List.mem_singleton.mp isDate]
    refine Modifier.steady_dateFormat fun format taken => ?_
    cases taken

theorem steady_builtin [Regex.Limits] {modifier : Modifier} (firm : ¬ call.LooseDate)
    (known : builtin.find? call.name = some modifier) : modifier.Steady call.params := by
  obtain ⟨entry, member, named, rfl⟩ := mem_catalogue_of_find? known
  rcases Modifier.steady_or_mem_dateFamily member with steady | isDate
  · exact steady call.params
  · rw [List.mem_singleton.mp isDate] at named ⊢
    exact Modifier.steady_dateFormat fun format taken loose => firm ⟨named, format, taken, loose⟩

theorem finishes_builtin [Regex.Limits] (call : ModifierCall) : builtin.Finishes call := by
  refine finishes_of_untangled (all_builtin fun _ => Modifier.selfContained_or_mem_composites)
    (untangled_of_quiet (fun name member modifier => quiet_builtin member) ?_) call
  have known : builtin.find? Modifier.plainTextName = some Modifier.plainText := by
    rw [find?_builtin]
    rfl
  rw [known]
  intro same
  exact absurd (congrArg (Option.map (Modifier.calledNames · [])) same) (by decide)

theorem resolve_of_resolve? {transform : Transform}
    (resolved : registry.resolve? call = some transform) : registry.resolve call = transform := by
  rw [resolve, resolved, Option.getD_some]

theorem resolve?_of_single {modifier : Modifier} {transform : Transform}
    (known : registry.find? call.name = some modifier)
    (steps : modifier.steps? call.params = some [.apply transform]) :
    registry.resolve? call = some (Transform.sequence [transform]) := by
  rw [resolve?, expand]
  simp only [known, steps]
  rfl

/-- A built-in modifier of texts does the same to every text, whatever its parameters. -/
theorem resolve_of_text [Regex.Limits] {name : String} {params : List String}
    {f : List Char → List Char}
    (known : builtin.find? name = some (.text f)) (s : String) :
    builtin.resolve ⟨name, params⟩ (.string s) = some (.string (String.ofList (f s.toList))) := by
  have resolved : builtin.resolve? ⟨name, params⟩ =
      some (Transform.sequence [.total (Value.onText f)]) := resolve?_of_single known rfl
  rw [resolve_of_resolve? resolved]
  rfl

theorem resolve_of_dateFormat? [Regex.Limits] {format : DateFormat}
    (named : call.name ∈ ["dateformat", "formatdate"])
    (taken : Modifier.dateFormat? call.params = some format) :
    builtin.resolve call = Modifier.writeDate format := by
  have known : builtin.find? call.name = some Modifier.dateFormat := by
    rw [find?_builtin]
    simp only [List.mem_cons, List.not_mem_nil, or_false] at named
    rcases named with same | same <;> rw [same] <;> rfl
  have steps : Modifier.dateFormat.steps? call.params =
      some [.apply (Modifier.writeDate format)] := by
    rw [Modifier.steps?_dateFormat, taken, Option.map_some]
  funext value
  rw [resolve_of_resolve? (resolve?_of_single known steps), Transform.sequence_cons]
  exact Option.bind_fun_some _

theorem resolve_looseDate [Regex.Limits] (loose : call.LooseDate) :
    ∃ format, .looseOffset ∈ format ∧
      ∀ value, builtin.resolve call value = Modifier.writeDate format value := by
  obtain ⟨named, format, taken, member⟩ := loose
  exact ⟨format, member, congrFun (resolve_of_dateFormat? named taken)⟩

/-- A built-in modifier breaks off just on moments that are to be written with an offset for which
there is no writing. -/
theorem resolve_builtin_eq_none_iff [Regex.Limits] {value : Value} :
    builtin.resolve call value = none ↔ call.LooseDate ∧ value.moment?.isSome := by
  by_cases loose : call.LooseDate
  · obtain ⟨format, member, same⟩ := resolve_looseDate loose
    rw [same, Modifier.writeDate_eq_none_iff]
    simp only [member, loose]
  · have total : (builtin.resolve call).Total :=
      total_resolve (fun modifier => steady_builtin loose) steady_nil_builtin (finishes_builtin call)
    have made := Option.isSome_iff_ne_none.mp (total value)
    simp only [made, loose, false_and]

end Registry

end Stencil
