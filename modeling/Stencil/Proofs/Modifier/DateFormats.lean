import Stencil.Proofs.Calendar.Formats
import Stencil.Proofs.Calendar.Range
import Stencil.Proofs.Modifier.Steadiness

namespace Stencil

/-! What the date modifier does with a format that it takes.

The seconds that can be written are those of the calendar, from `Moment.earliest` to
`Moment.latest`.  A number outside of that range stays as it is, and so does every value that is no
number.  All the others are written, unless the format has an offset for which there is no writing.
-/

namespace Value

variable {value : Value} {x : Binary64}

theorem moment?_eq_some (known : value.number? = some x) (late : Moment.earliest ≤ x.floor)
    (early : x.floor ≤ Moment.latest) : value.moment? = some ⟨x.floor⟩ := by
  rw [moment?, known, Option.bind_some]
  exact Moment.ofSeconds?_eq_some_iff.mpr ⟨⟨late, early⟩, rfl⟩

theorem moment?_eq_none
    (outside : ∀ x, value.number? = some x → x.floor < Moment.earliest ∨ Moment.latest < x.floor) :
    value.moment? = none := by
  rw [moment?, Option.bind_eq_none_iff]
  intro x known
  rw [Option.eq_none_iff_forall_ne_some]
  intro moment found
  have within := (Moment.ofSeconds?_eq_some_iff.mp found).1
  have apart := outside x known
  omega

end Value

namespace Registry

variable {name source : String} {format : DateFormat}

theorem resolve_dateFormat [Regex.Limits] (named : name ∈ ["dateformat", "formatdate"])
    (nonempty : source ≠ "")
    (accepted : DateFormat.parse? source.toList = some format) (further : List String) :
    builtin.resolve ⟨name, source :: further⟩ = Modifier.writeDate format := by
  refine resolve_of_dateFormat? named ?_
  rw [Modifier.dateFormat?, List.getElem?_cons_zero, Option.bind_some, if_neg, accepted]
  simpa using nonempty

/-- With a format that it takes, the date modifier leaves a value as it is if that is no number or
one whose floor is no second of the calendar.  Any other number it writes as the format says, or
breaks off if the format has a loose offset. -/
theorem accepted_date_format_writes [Regex.Limits] (named : name ∈ ["dateformat", "formatdate"])
    (nonempty : source ≠ "") (accepted : DateFormat.parse? source.toList = some format)
    (further : List String) (value : Value) :
    let result := builtin.resolve ⟨name, source :: further⟩ value
    ((∀ x, value.number? = some x → x.floor < Moment.earliest ∨ Moment.latest < x.floor) →
        result = some value) ∧
      ∀ x, value.number? = some x → Moment.earliest ≤ x.floor → x.floor ≤ Moment.latest →
        (DateFormat.HasLooseOffset source.toList → result = none) ∧
          (¬ DateFormat.HasLooseOffset source.toList →
            ∃ text, format.write? ⟨x.floor⟩ = some text ∧
              result = some (.string (String.ofList text))) := by
  intro result
  have same : result = Modifier.writeDate format value :=
    congrFun (resolve_dateFormat named nonempty accepted further) value
  rw [same, ← DateFormat.looseOffset_mem_iff accepted]
  refine ⟨fun outside => Modifier.writeDate_of_no_moment (Value.moment?_eq_none outside),
    fun x known late early => ?_⟩
  have found := Value.moment?_eq_some known late early
  constructor
  · intro loose
    exact Modifier.writeDate_eq_none_iff.mpr ⟨loose, by rw [found]; rfl⟩
  · intro firm
    have writable : (format.write? ⟨x.floor⟩).isSome := DateFormat.write?_isSome_iff.mpr firm
    obtain ⟨text, written⟩ := Option.isSome_iff_exists.mp writable
    exact ⟨text, written, by rw [Modifier.writeDate_of_moment found, written, Option.map_some]⟩

/-- A day, and the second after the end of the calendar. -/
theorem date_format_writes_day :
    let resolve := builtin.resolve ⟨"formatdate", ["%d.%m.%Y"]⟩
    resolve (.string "1700000000") = some (.string "14.11.2023") ∧
      resolve (.integer 8210266876800) = some (.integer 8210266876800) := by
  intro resolve
  have accepted : DateFormat.parse? "%d.%m.%Y".toList = some
      [.number .day .zeros, .literal ['.'], .number .month .zeros, .literal ['.'],
        .number .year .zeros] := by
    decide +kernel
  have firm := (DateFormat.looseOffset_mem_iff accepted).not.mp (by decide)
  have named : "formatdate" ∈ ["dateformat", "formatdate"] := by decide
  have result := accepted_date_format_writes named (by decide) accepted []
  constructor
  · have floor : (Value.string "1700000000").number?.map Binary64.floor = some 1700000000 := by
      decide +kernel
    obtain ⟨x, known, same⟩ := Option.map_eq_some_iff.mp floor
    obtain ⟨text, written, made⟩ :=
      ((result (.string "1700000000")).2 x known (by rw [same]; decide) (by rw [same]; decide)).2 firm
    have day : text = "14.11.2023".toList := by
      rw [same] at written
      exact Option.some.inj (written.symm.trans (by decide +kernel))
    exact made.trans (by rw [day]; rfl)
  · refine (result (.integer 8210266876800)).1 fun x known => .inr ?_
    have floor : (Value.integer 8210266876800).number?.map Binary64.floor =
        some 8210266876800 := by
      decide +kernel
    rw [known, Option.map_some, Option.some.injEq] at floor
    rw [floor]
    decide

/-- A format that is taken and then cannot be written, not even for the start of 1970. -/
theorem loose_offset_is_not_written :
    (DateFormat.parse? "%#z".toList).isSome ∧ (Value.integer 0).moment? = some ⟨0⟩ ∧
      builtin.resolve ⟨"dateformat", ["%#z"]⟩ (.integer 0) = none := by
  have accepted : DateFormat.parse? "%#z".toList = some [.looseOffset] := by decide +kernel
  have found : (Value.integer 0).moment? = some ⟨0⟩ := by decide +kernel
  refine ⟨by rw [accepted]; rfl, found, ?_⟩
  rw [resolve_dateFormat (by decide) (by decide) accepted, Modifier.writeDate_eq_none_iff, found]
  exact ⟨List.mem_singleton_self _, rfl⟩

end Registry

end Stencil
