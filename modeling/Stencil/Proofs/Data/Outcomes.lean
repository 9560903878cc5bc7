import Mathlib.Data.List.Forall2

namespace Stencil

/-! Steps that may have no result.

What a sequence of such steps yields is told by what each of them yields, and if it yields nothing
then one step is to blame: the first that fails.
-/

variable {α β ε ε' : Type}

theorem isSome_mapM_iff {f : α → Option β} {items : List α} :
    (items.mapM f).isSome ↔ ∀ item ∈ items, (f item).isSome := by
  induction items with
  | nil => simp
  | cons item rest restIH =>
      rw [List.mapM_cons, List.forall_mem_cons, ← restIH]
      cases f item with
      | none => simp
      | some result => cases rest.mapM f <;> simp

theorem mapM_eq_some_iff {f : α → Option β} {items : List α} {results : List β} :
    items.mapM f = some results ↔
      List.Forall₂ (fun item result => f item = some result) items results := by
  induction items generalizing results with
  | nil => cases results <;> simp
  | cons item rest restIH =>
      rw [List.mapM_cons, List.forall₂_cons_left_iff]
      simp only [Option.bind_eq_bind, Option.bind_eq_some_iff, restIH]
      constructor
      · rintro ⟨result, here, others, later, made⟩
        cases made
        exact ⟨result, others, here, later, rfl⟩
      · rintro ⟨result, others, here, later, rfl⟩
        exact ⟨result, here, others, later, rfl⟩

theorem foldlM_eq_none_iff {f : β → α → Option β} {start : β} {items : List α} :
    items.foldlM f start = none ↔ ∃ before item after reached, items = before ++ item :: after ∧
      before.foldlM f start = some reached ∧ f reached item = none := by
  induction items generalizing start with
  | nil => simp
  | cons item rest restIH =>
      rw [List.foldlM_cons, Option.bind_eq_bind, Option.bind_eq_none_iff]
      constructor
      · intro stops
        cases here : f start item with
        | none => exact ⟨[], item, rest, start, rfl, rfl, here⟩
        | some next =>
            obtain ⟨before, other, after, reached, rfl, passes, failed⟩ :=
              restIH.mp (stops next here)
            refine ⟨item :: before, other, after, reached, rfl, ?_, failed⟩
            rw [List.foldlM_cons, here]
            exact passes
      · rintro ⟨before, other, after, reached, whole, passes, failed⟩ next here
        cases before with
        | nil =>
            cases whole
            cases passes
            cases here.symm.trans failed
        | cons first before =>
            cases whole
            rw [List.foldlM_cons, here] at passes
            exact restIH.mpr ⟨before, other, after, reached, rfl, passes, failed⟩

theorem bind_eq_ok_iff {first : Except ε α} {next : α → Except ε β} {result : β} :
    first >>= next = .ok result ↔ ∃ value, first = .ok value ∧ next value = .ok result := by
  cases first <;> simp [bind, Except.bind]

theorem bind_eq_error_iff {first : Except ε α} {next : α → Except ε β} {fault : ε} :
    first >>= next = .error fault ↔
      first = .error fault ∨ ∃ value, first = .ok value ∧ next value = .error fault := by
  cases first <;> simp [bind, Except.bind]

theorem mapError_eq_ok_iff {result : Except ε α} {f : ε → ε'} {value : α} :
    result.mapError f = .ok value ↔ result = .ok value := by
  cases result <;> simp [Except.mapError]

theorem mapError_eq_error_iff {result : Except ε α} {f : ε → ε'} {fault : ε'} :
    result.mapError f = .error fault ↔ ∃ inner, result = .error inner ∧ fault = f inner := by
  cases result <;> simp [Except.mapError, eq_comm]

theorem mapM_eq_ok_iff {f : α → Except ε β} {items : List α} {results : List β} :
    items.mapM f = .ok results ↔
      List.Forall₂ (fun item result => f item = .ok result) items results := by
  induction items generalizing results with
  | nil => cases results <;> simp [pure, Except.pure]
  | cons item rest restIH =>
      rw [List.mapM_cons, bind_eq_ok_iff, List.forall₂_cons_left_iff]
      simp only [bind_eq_ok_iff, restIH]
      constructor
      · rintro ⟨result, here, others, later, made⟩
        cases made
        exact ⟨result, others, here, later, rfl⟩
      · rintro ⟨result, others, here, later, rfl⟩
        exact ⟨result, here, others, later, rfl⟩

/-- The first item that fails decides. -/
theorem mapM_eq_error_iff {f : α → Except ε β} {items : List α} {fault : ε} :
    items.mapM f = .error fault ↔ ∃ before item after, items = before ++ item :: after ∧
      f item = .error fault ∧ ∀ other ∈ before, ∃ result, f other = .ok result := by
  induction items with
  | nil => simp [pure, Except.pure]
  | cons item rest restIH =>
      have unmade (result : β) : (do let others ← rest.mapM f; pure (result :: others)) =
          .error fault ↔ rest.mapM f = .error fault := by
        rw [bind_eq_error_iff]
        exact or_iff_left fun ⟨_, _, made⟩ => nomatch made
      rw [List.mapM_cons, bind_eq_error_iff]
      simp only [unmade, restIH]
      constructor
      · rintro (failed | ⟨result, here, before, other, after, rfl, failed, earlier⟩)
        · exact ⟨[], item, rest, rfl, failed, fun _ none => absurd none List.not_mem_nil⟩
        · exact ⟨item :: before, other, after, rfl, failed,
            List.forall_mem_cons.mpr ⟨⟨result, here⟩, earlier⟩⟩
      · rintro ⟨before, other, after, whole, failed, earlier⟩
        cases before with
        | nil =>
            cases whole
            exact .inl failed
        | cons first before =>
            cases whole
            obtain ⟨⟨result, here⟩, earlier⟩ := List.forall_mem_cons.mp earlier
            exact .inr ⟨result, here, before, other, after, rfl, failed, earlier⟩

end Stencil
