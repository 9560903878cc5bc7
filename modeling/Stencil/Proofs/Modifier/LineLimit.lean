import Stencil.Proofs.Modifier.Steadiness
import Stencil.Proofs.Text.LineBreaks

namespace Stencil.Registry

/-! What the built-in modifier of blank lines makes of texts. -/

open Text

/-- The number of line breaks in a row that the parameters ask for. -/
def lineLimit (params : List String) : Nat :=
  min ((Modifier.positiveCount? params[0]?).getD Modifier.defaultMaxLines) Modifier.maxLinesLimit

theorem resolve_nolines [Regex.Limits] (params : List String) (s : String) :
    builtin.resolve ⟨"nolines", params⟩ (.string s) =
      some (.string (String.ofList (limitBreaks (lineLimit params) s.toList))) := by
  have known : builtin.find? "nolines" = some Modifier.noLines := by
    rw [find?_builtin]
    rfl
  have resolved : builtin.resolve? ⟨"nolines", params⟩ = some (Transform.sequence
      [.total (Value.onText (limitBreaks (lineLimit params)))]) :=
    resolve?_of_single known rfl
  rw [resolve_of_resolve? resolved]
  rfl

/-- Blank lines are cut to whole breaks just where every run either has more breaks than the limit
or no more characters than that. -/
theorem nolines_keeps_breaks_iff [Regex.Limits] (params : List String) (s : String) :
    ∃ result : String,
      builtin.resolve ⟨"nolines", params⟩ (.string s) = some (.string result) ∧
      result.toList =
        onRuns isBreakChar (cutBreaks (lineLimit params)) (withoutLineEnds s.toList) ∧
      (result.toList = keepBreaks (lineLimit params) s.toList ↔
        ∀ run ∈ runs isBreakChar (withoutLineEnds s.toList),
          lineLimit params < (lineBreaks run).length ∨ run.length ≤ lineLimit params) := by
  refine ⟨_, resolve_nolines params s, ?_, ?_⟩
  · rw [String.toList_ofList, limitBreaks_eq]
  · rw [String.toList_ofList, limitBreaks_eq_keepBreaks_iff]

/-- A single break of two characters loses the second one. -/
theorem nolines_splits_break :
    builtin.resolve ⟨"nolines", ["1"]⟩ (.string "a\r\nb") = some (.string "a\rb") ∧
      keepBreaks (lineLimit ["1"]) "a\r\nb".toList = "a\r\nb".toList := by
  have one : lineLimit ["1"] = 1 := by decide +kernel
  constructor
  · rw [resolve_nolines, one]
    rfl
  · have ends : withoutLineEnds "a\r\nb".toList = ['a'] ++ (['\r', '\n'] ++ ['b']) := by decide
    have kept : keptBreaks 1 ['\r', '\n'] = ['\r', '\n'] := by decide
    have breaks : ∀ c ∈ ['\r', '\n'], isBreakChar c = true := by simp [isBreakChar]
    have otherB : isBreakChar 'b' = false := by decide
    rw [one, keepBreaks, ends, List.singleton_append, onRuns_of_not (by decide),
      onRuns_append rfl breaks (stops_cons.mpr otherB), kept, onRuns_of_not otherB, onRuns_nil]
    rfl

end Stencil.Registry
