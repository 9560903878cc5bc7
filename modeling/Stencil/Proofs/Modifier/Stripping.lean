import Stencil.Proofs.Markup.OpeningTags
import Stencil.Proofs.Markup.Tags
import Stencil.Proofs.Modifier.Truncation

namespace Stencil.Registry

open Markup
open scoped List

/-! What the built-in modifiers that strip markup leave for a second time.

No tag remains when tags are stripped.  The other modifiers go over a text once, and what a removal
brings together can be a construct again; but nothing else can.
-/

/-- What the tag stripping modifier makes of a text has no tag in it. -/
theorem striptags_leaves_no_tag [Regex.Limits] (params : List String) (s : String) :
    ∃ out : String,
      builtin.resolve ⟨"striptags", params⟩ (.string s) = some (.string out) ∧
      TagsRemoved s.toList out.toList ∧
      ¬ HasTag out.toList ∧
      builtin.resolve ⟨"striptags", params⟩ (.string out) = some (.string out) ∧
      (out = s ↔ ¬ HasTag s.toList) := by
  have known : builtin.find? "striptags" = some (.text anyTag.removeAll) := by
    rw [find?_builtin]
    rfl
  refine ⟨_, resolve_of_text known s, ?_, ?_, ?_, ?_⟩
  · rw [String.toList_ofList]
    exact tagsRemoved_removeAll s.toList
  · rw [String.toList_ofList]
    exact not_hasTag_removeAll s.toList
  · rw [resolve_of_text known, String.toList_ofList,
      removeAll_anyTag_eq_self_iff.mpr (not_hasTag_removeAll s.toList)]
  · rw [← removeAll_anyTag_eq_self_iff, ← String.toList_inj, String.toList_ofList]

/-- What the other modifiers that strip markup look for, by their names. -/
def strippers : List (List String × Stripper) := [
  (["stripcomments", "stripcomment", "nocomments", "nocomment"],
    .ofPatterns [comment] (by simp [persistent_comment])),
  (["stripcdata"], .ofPatterns [cdata] (by simp [persistent_cdata])),
  (["stripscript"], .ofPatterns [scriptElement] (by simp [persistent_scriptElement])),
  (["stripstyle"], .ofPatterns [styleElement] (by simp [persistent_styleElement])),
  (["striponevent"], .events),
  (["text", "plaintext"], .ofPatterns [cdata, scriptElement, styleElement, comment]
    (by simp [persistent_cdata, persistent_scriptElement, persistent_styleElement,
      persistent_comment]))]

theorem find?_of_mem_strippers [Regex.Limits] {names : List String} {stripper : Stripper}
    (listed : (names, stripper) ∈ strippers) :
    ∀ name ∈ names, builtin.find? name = some (.text stripper.strip) ∨
      builtin.find? name = some Modifier.plainText ∧ stripper.strip = withoutCode := by
  simp only [find?_builtin]
  simp only [strippers, List.mem_cons, List.not_mem_nil, or_false, Prod.mk.injEq] at listed
  rcases listed with ⟨rfl, rfl⟩ | ⟨rfl, rfl⟩ | ⟨rfl, rfl⟩ | ⟨rfl, rfl⟩ | ⟨rfl, rfl⟩ | ⟨rfl, rfl⟩
  all_goals simp only [List.mem_cons, List.not_mem_nil, or_false, forall_eq_or_imp, forall_eq]
  · exact ⟨.inl rfl, .inl rfl, .inl rfl, .inl rfl⟩
  · exact .inl rfl
  · exact .inl rfl
  · exact .inl rfl
  · exact .inl rfl
  · exact ⟨.inr ⟨rfl, rfl⟩, .inr ⟨rfl, rfl⟩⟩

theorem resolve_of_mem_strippers [Regex.Limits] {names : List String} {stripper : Stripper}
    (listed : (names, stripper) ∈ strippers) {name : String} (member : name ∈ names)
    (params : List String) (s : String) : builtin.resolve ⟨name, params⟩ (.string s) =
      some (.string (String.ofList (stripper.strip s.toList))) := by
  rcases find?_of_mem_strippers listed name member with isText | ⟨isPlainText, same⟩
  · exact resolve_of_text isText s
  · rw [same]
    exact resolve_of_plainText isPlainText params s

/-- The modifier makes a text of the first one and yet another of that. -/
def StripsFurther [Regex.Limits] (name s out again : String) : Prop :=
  builtin.resolve ⟨name, []⟩ (.string s) = some (.string out) ∧
    builtin.resolve ⟨name, []⟩ (.string out) = some (.string again) ∧ again ≠ out

theorem stripsFurther_of_strip [Regex.Limits] {names : List String} {stripper : Stripper}
    (listed : (names, stripper) ∈ strippers) {name : String} (member : name ∈ names)
    {s out again : String} (once : stripper.strip s.toList = out.toList)
    (twice : stripper.strip out.toList = again.toList) (differs : again ≠ out) :
    StripsFurther name s out again := by
  refine ⟨?_, ?_, differs⟩
  · rw [resolve_of_mem_strippers listed member, once, String.ofList_toList]
  · rw [resolve_of_mem_strippers listed member, twice, String.ofList_toList]

/-- What a modifier that strips markup makes of a text is changed by a second run just if it has a
construct in it, and such a construct was not there before: a removal has brought it together. -/
theorem strips_again_iff [Regex.Limits] {names : List String} {stripper : Stripper}
    (listed : (names, stripper) ∈ strippers) {name : String} (member : name ∈ names)
    (params : List String) (s : String) :
    ∃ out : String,
      builtin.resolve ⟨name, params⟩ (.string s) = some (.string out) ∧
      (builtin.resolve ⟨name, params⟩ (.string out) = some (.string out) ↔
        ∀ before part after, out.toList = before ++ part ++ after →
          ¬ stripper.Finds before part after) ∧
      out.toList = (stripper.kept s.toList).map Prod.fst ∧
      stripper.kept s.toList <+ s.toList.zipIdx ∧
      ∀ before part after, stripper.kept s.toList = before ++ part ++ after →
        stripper.Finds (before.map Prod.fst) (part.map Prod.fst) (after.map Prod.fst) →
          ¬ Consecutive part := by
  refine ⟨_, resolve_of_mem_strippers listed member params s, ?_, ?_, stripper.kept_sublist _, ?_⟩
  · rw [resolve_of_mem_strippers listed member, ← stripper.strip_eq_self_iff, Option.some.injEq,
      Value.string.injEq, ← String.toList_inj, String.toList_ofList, String.toList_ofList]
  · rw [String.toList_ofList, stripper.fst_kept]
  · intro before part after whole
    exact stripper.apart (increasing_zipIdx s.toList 0) whole

/-- A script element is put together out of what stands around another one. -/
theorem strips_again_nested_script : ∃ stripper out,
    (["stripscript"], stripper) ∈ strippers ∧ "stripscript" ∈ ["stripscript"] ∧
      builtin.resolve ⟨"stripscript", []⟩ (.string "<scr<script></script>ipt></script>") =
        some (.string out) ∧
      ∃ before part after, out.toList = before ++ part ++ after ∧
        stripper.Finds before part after := by
  have listed : (["stripscript"], Stripper.ofPatterns [scriptElement]
      (by simp [persistent_scriptElement])) ∈ strippers := .tail _ (.tail _ (.head _))
  have member : "stripscript" ∈ ["stripscript"] := List.mem_singleton_self _
  obtain ⟨once, twice, _⟩ : StripsFurther "stripscript" "<scr<script></script>ipt></script>"
      "<script></script>" "" :=
    stripsFurther_of_strip listed member (by decide +kernel) (by decide +kernel) (by decide)
  obtain ⟨out, yields, again, _⟩ :=
    strips_again_iff listed member [] "<scr<script></script>ipt></script>"
  obtain rfl : out = "<script></script>" := by
    rwa [once, Option.some.injEq, Value.string.injEq, eq_comm] at yields
  refine ⟨_, _, listed, member, yields, ?_⟩
  by_contra nothing
  have unchanged := again.mpr fun before part after split found =>
    nothing ⟨before, part, after, split, found⟩
  rw [twice, Option.some.injEq, Value.string.injEq] at unchanged
  exact absurd unchanged (by decide)

/-- None of these modifiers strips everything in one run. -/
theorem strips_further_nested :
    StripsFurther "stripcomments" "<!<!---->-- -->" "<!-- -->" "" ∧
    StripsFurther "stripcdata" "<![CDA<![CDATA[]]>TA[]]>" "<![CDATA[]]>" "" ∧
    StripsFurther "stripscript" "<scr<script></script>ipt></script>" "<script></script>" "" ∧
    StripsFurther "stripstyle" "<sty<style></style>le></style>" "<style></style>" "" ∧
    StripsFurther "striponevent" "<a o onx=''nclick=2>" "<a onclick=2>" "<a >" ∧
    StripsFurther "text" "<scr<!---->ipt></script>" "<script></script>" "" := by
  refine ⟨stripsFurther_of_strip (.head _) ?_ ?_ ?_ ?_,
    stripsFurther_of_strip (.tail _ (.head _)) ?_ ?_ ?_ ?_,
    stripsFurther_of_strip (.tail _ (.tail _ (.head _))) ?_ ?_ ?_ ?_,
    stripsFurther_of_strip (.tail _ (.tail _ (.tail _ (.head _)))) ?_ ?_ ?_ ?_,
    stripsFurther_of_strip (.tail _ (.tail _ (.tail _ (.tail _ (.head _))))) ?_ ?_ ?_ ?_,
    stripsFurther_of_strip (.tail _ (.tail _ (.tail _ (.tail _ (.tail _ (.head _)))))) ?_ ?_ ?_ ?_⟩
  all_goals decide +kernel

end Stencil.Registry
