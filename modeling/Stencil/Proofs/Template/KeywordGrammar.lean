import Stencil.Proofs.Template.EscapeUnits

namespace Stencil

open Unicode

/-! The grammar of keywords, and the keywords of a template by it.

A keyword is the opening delimiter, units of a name, perhaps the modifier delimiter and units of a
chain, and the closing delimiter (`KeywordBody.WellFormed`).  `Listing` says which keywords a
template has: the first place at which one begins, and then the same again after its end.  The
reader of keywords accepts exactly this grammar, so a text begins with one keyword at most.
-/

namespace KeywordBody

/-- What may stand between the delimiters of a keyword. -/
structure WellFormed (d : Delimiters) (body : KeywordBody) : Prop where
  name_units : d.NameText body.name
  name_nonempty : body.name ≠ []
  chain_units : ∀ chain ∈ body.chain, d.ChainText chain

end KeywordBody

namespace Delimiters

variable {d : Delimiters}

/-- A keyword begins at the front of the text. -/
def Begins (d : Delimiters) (text : List Char) : Prop :=
  ∃ body after, body.WellFormed d ∧ text = KeywordBody.source d body ++ after

theorem afterName?_chainText {text after : List Char} {chain : Option (List Char)}
    (found : d.afterName? text = some (chain, after)) : ∀ units ∈ chain, d.ChainText units := by
  unfold afterName? at found
  split at found
  · contradiction
  · next c rest =>
      split at found
      · simp only [Option.some.injEq, Prod.mk.injEq] at found
        simp [← found.1]
      · split at found
        · split at found
          · contradiction
          · split at found
            · simp only [Option.some.injEq, Prod.mk.injEq] at found
              simpa [← found.1] using takeChain_chainText d rest
            · contradiction
        · contradiction

theorem keyword?_wellFormed {text after : List Char} {body : KeywordBody}
    (found : d.keyword? text = some (body, after)) : body.WellFormed d := by
  unfold keyword? at found
  split at found
  · contradiction
  · next c rest =>
      split at found
      · next begins =>
          obtain ⟨⟨chain, left⟩, named, made⟩ := Option.map_eq_some_iff.mp found
          simp only [Prod.mk.injEq] at made
          obtain ⟨rfl, rfl⟩ := made
          exact ⟨takeName_nameText d rest, begins.2, afterName?_chainText named⟩
      · contradiction

theorem afterName?_chainSource {chain : Option (List Char)}
    (units : ∀ text ∈ chain, d.ChainText text) (after : List Char) :
    d.afterName? (d.chainSource chain ++ d.closing :: after) = some (chain, after) := by
  cases chain with
  | none => simp [chainSource, afterName?]
  | some chain =>
      have taken : d.takeChain (chain ++ d.closing :: after) = (chain, d.closing :: after) := by
        rw [takeChain_append_units (units chain rfl), takeChain_closing, List.append_nil]
      simp [chainSource, afterName?, taken, d.modifier_distinct.2]

theorem takeName_chainSource (d : Delimiters) (chain : Option (List Char)) (after : List Char) :
    d.takeName (d.chainSource chain ++ d.closing :: after) =
      ([], d.chainSource chain ++ d.closing :: after) := by
  cases chain with
  | none => exact takeName_closing d after
  | some chain => exact takeName_modifier d _

theorem keyword?_source_append {body : KeywordBody} (wellFormed : body.WellFormed d)
    (after : List Char) : d.keyword? (body.source d ++ after) = some (body, after) := by
  have taken : d.takeName (body.name ++ (d.chainSource body.chain ++ d.closing :: after)) =
      (body.name, d.chainSource body.chain ++ d.closing :: after) := by
    rw [takeName_append_units wellFormed.name_units, takeName_chainSource, List.append_nil]
  simp [KeywordBody.source, keyword?, taken, wellFormed.name_nonempty,
    afterName?_chainSource wellFormed.chain_units]

theorem keyword?_eq_some_iff {text after : List Char} {body : KeywordBody} :
    d.keyword? text = some (body, after) ↔
      body.WellFormed d ∧ text = body.source d ++ after := by
  constructor
  · intro found
    exact ⟨keyword?_wellFormed found, keyword?_source found⟩
  · intro begun
    obtain ⟨wellFormed, rfl⟩ := begun
    exact keyword?_source_append wellFormed after

theorem keyword?_eq_none_iff {text : List Char} : d.keyword? text = none ↔ ¬ d.Begins text := by
  rw [Option.eq_none_iff_forall_ne_some]
  constructor
  · intro missing begins
    obtain ⟨body, after, begun⟩ := begins
    exact missing (body, after) (keyword?_eq_some_iff.mpr begun)
  · intro missing both found
    obtain ⟨body, after⟩ := both
    exact missing ⟨body, after, keyword?_eq_some_iff.mp found⟩

/-- No text begins with two keywords. -/
theorem source_append_inj {left right : KeywordBody} {leftAfter rightAfter : List Char}
    (leftWellFormed : left.WellFormed d) (rightWellFormed : right.WellFormed d)
    (same : left.source d ++ leftAfter = right.source d ++ rightAfter) :
    left = right ∧ leftAfter = rightAfter := by
  have found := keyword?_source_append leftWellFormed leftAfter
  rw [same, keyword?_source_append rightWellFormed] at found
  simp only [Option.some.injEq, Prod.mk.injEq] at found
  exact ⟨found.1.symm, found.2.symm⟩

end Delimiters

/-- The keywords of a text that starts at byte `place` of its template.  Either none begins in it,
or the first one begins behind a gap in which none does, and the others are those of the text behind
it. -/
inductive Listing (d : Delimiters) : Nat → List Char → List Occurrence → Prop where
  | none {place : Nat} {text : List Char} :
      (∀ skipped rest, text = skipped ++ rest → ¬ d.Begins rest) → Listing d place text []
  | next {place : Nat} {gap after : List Char} {body : KeywordBody} {others : List Occurrence} :
      body.WellFormed d →
      (∀ skipped rest, gap = skipped ++ rest → rest ≠ [] →
        ¬ d.Begins (rest ++ (body.source d ++ after))) →
      Listing d (place + Text.width gap + Text.width (body.source d)) after others →
      Listing d place (gap ++ (body.source d ++ after))
        ({ source := String.ofList (body.source d)
           keyword := d.foldName (String.ofList (d.unescape body.name))
           chain := String.ofList (body.chain.getD [])
           start := place + Text.width gap
           stop := place + Text.width gap + Text.width (body.source d) } :: others)

namespace Delimiters

variable {d : Delimiters}

@[simp] theorem pieces_nil (d : Delimiters) : d.pieces [] = [] := by
  rw [pieces]

theorem pieces_source_append {body : KeywordBody} (wellFormed : body.WellFormed d)
    (after : List Char) : d.pieces (body.source d ++ after) = .keyword body :: d.pieces after := by
  have found := keyword?_source_append wellFormed after
  obtain ⟨c, rest, shape⟩ : ∃ c rest, body.source d ++ after = c :: rest :=
    ⟨d.opening, _, rfl⟩
  rw [shape] at found ⊢
  rw [pieces]
  split
  · next taken =>
      rw [found] at taken
      simp only [Option.some.injEq, Prod.mk.injEq] at taken
      rw [← taken.1, ← taken.2]
  · next missing => simp [found] at missing

theorem pieces_literal {c : Char} {rest : List Char} (missing : ¬ d.Begins (c :: rest)) :
    d.pieces (c :: rest) = .literal c :: d.pieces rest := by
  rw [← keyword?_eq_none_iff] at missing
  rw [pieces]
  split
  · next taken => simp [missing] at taken
  · rfl

theorem pieces_gap {gap rest : List Char}
    (missing : ∀ skipped left, gap = skipped ++ left → left ≠ [] → ¬ d.Begins (left ++ rest)) :
    d.pieces (gap ++ rest) = gap.map .literal ++ d.pieces rest := by
  induction gap with
  | nil => rfl
  | cons c gap gapIH =>
      have here : ¬ d.Begins (c :: (gap ++ rest)) := missing [] (c :: gap) rfl (by simp)
      rw [List.cons_append, pieces_literal here, gapIH, List.map_cons, List.cons_append]
      intro skipped left split nonempty
      exact missing (c :: skipped) left (by rw [split, List.cons_append]) nonempty

theorem Begins.opening_eq {c : Char} {rest : List Char} (begins : d.Begins (c :: rest)) :
    c = d.opening := by
  obtain ⟨body, after, _, shape⟩ := begins
  exact (List.cons_eq_cons.mp shape).1

theorem pieces_unopened {gap : List Char} (free : d.opening ∉ gap) (rest : List Char) :
    d.pieces (gap ++ rest) = gap.map .literal ++ d.pieces rest := by
  refine pieces_gap fun skipped left split nonempty begins => ?_
  cases left with
  | nil => contradiction
  | cons c left =>
      have member : c ∈ gap := by simp [split]
      exact free (begins.opening_eq ▸ member)

end Delimiters

namespace Occurrence

variable {d : Delimiters}

theorem ofPieces_literals (d : Delimiters) (place : Nat) (gap : List Char) (pieces : List Piece) :
    ofPieces d place (gap.map .literal ++ pieces) = ofPieces d (place + Text.width gap) pieces := by
  induction gap generalizing place with
  | nil => rfl
  | cons c gap gapIH =>
      rw [List.map_cons, List.cons_append, ofPieces, gapIH]
      rw [Text.width_cons, Nat.add_assoc]

end Occurrence

/-- A character in front at which no keyword begins changes no occurrence. -/
theorem Listing.skip {d : Delimiters} {place : Nat} {c : Char} {text : List Char}
    {occurrences : List Occurrence} (missing : ¬ d.Begins (c :: text))
    (listing : Listing d (place + c.utf8Size) text occurrences) :
    Listing d place (c :: text) occurrences := by
  cases listing with
  | none missingLater =>
      refine .none fun skipped rest split => ?_
      cases skipped with
      | nil =>
          rw [List.nil_append] at split
          rw [← split]
          exact missing
      | cons first skipped =>
          obtain ⟨_, later⟩ := List.cons_eq_cons.mp split
          exact missingLater skipped rest later
  | @next _ gap after body others wellFormed missingLater othersListing =>
      -- The first keyword stays the first, behind a gap that is longer by this character.
      have moved : place + c.utf8Size + Text.width gap = place + Text.width (c :: gap) := by
        rw [Text.width_cons, Nat.add_assoc]
      rw [moved] at othersListing ⊢
      rw [← List.cons_append]
      refine .next wellFormed (fun skipped rest split nonempty => ?_) othersListing
      cases skipped with
      | nil =>
          rw [List.nil_append] at split
          rw [← split]
          exact missing
      | cons first skipped =>
          obtain ⟨_, later⟩ := List.cons_eq_cons.mp split
          exact missingLater skipped rest later nonempty

/-- Every text has a listing, the one that reading it in pieces gives. -/
theorem listing_pieces (d : Delimiters) (place : Nat) (text : List Char) :
    Listing d place text (Occurrence.ofPieces d place (d.pieces text)) := by
  fun_induction d.pieces text generalizing place with
  | case1 =>
      refine .none fun skipped rest split begins => ?_
      obtain ⟨body, after, _, rfl⟩ := begins
      simp [KeywordBody.source] at split
  | case2 c rest body after found restIH =>
      obtain ⟨wellFormed, shape⟩ := Delimiters.keyword?_eq_some_iff.mp found
      rw [shape, Occurrence.ofPieces, ← List.nil_append (body.source d ++ after)]
      refine .next wellFormed ?_ (restIH _)
      intro skipped left split nonempty
      exact absurd (List.append_eq_nil_iff.mp split.symm).2 nonempty
  | case3 c rest missing restIH =>
      rw [Occurrence.ofPieces]
      exact (restIH _).skip (Delimiters.keyword?_eq_none_iff.mp missing)

/-- A text has no second listing. -/
theorem Listing.eq_pieces {d : Delimiters} {place : Nat} {text : List Char}
    {occurrences : List Occurrence} (listing : Listing d place text occurrences) :
    occurrences = Occurrence.ofPieces d place (d.pieces text) := by
  induction listing with
  | @none place text missing =>
      have copied : d.pieces (text ++ []) = text.map .literal ++ d.pieces [] :=
        Delimiters.pieces_gap fun skipped left split _ => by
          rw [List.append_nil]
          exact missing skipped left split
      rw [List.append_nil] at copied
      rw [copied, Occurrence.ofPieces_literals, Delimiters.pieces_nil, Occurrence.ofPieces]
  | next wellFormed missing _ othersIH =>
      rw [Delimiters.pieces_gap missing, Occurrence.ofPieces_literals,
        Delimiters.pieces_source_append wellFormed, Occurrence.ofPieces, othersIH]
      rfl

end Stencil
