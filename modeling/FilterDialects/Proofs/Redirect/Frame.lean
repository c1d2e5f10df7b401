import FilterDialects.Proofs.Redirect.Rewriting

/-!
# Redirect rules with a gap for the resource

A rule with a single modifier that names a resource is taken as it is written, with all its
blanks, and the resource is left out. Any resource that fits between commas can be filled in:
the rule then reads as before, but for that resource. Every rule with a single such modifier
is a frame that was filled in.
-/

namespace FilterDialects

open RedirectRule (IsModifier)

/-- A piece of a rule beside the modifier that names the resource. -/
structure IsBeside (piece : Text) : Prop where
  comma : ',' ∉ piece
  dollar : '$' ∉ piece
  marker : RedirectMarker.of? (Text.trim piece) = none

/-- A redirect rule as it is written, with a gap in place of its resource. -/
structure RedirectFrame where
  /-- Everything before the last `$`. -/
  base : Text
  /-- The pieces before the modifier that names the resource, with their blanks. -/
  before : List Text
  /-- The blanks before that modifier. -/
  lead : Text
  /-- The kind of that modifier. -/
  marker : RedirectMarker
  /-- The blanks behind the gap. -/
  trail : Text
  /-- The pieces after the modifier, with their blanks. -/
  after : List Text
  isBeside_before : ∀ piece ∈ before, IsBeside piece
  isBeside_after : ∀ piece ∈ after, IsBeside piece
  isBlank_lead : ∀ c ∈ lead, Text.isBlank c = true
  isBlank_trail : ∀ c ∈ trail, Text.isBlank c = true

namespace RedirectFrame

variable {frame : RedirectFrame} {line resource : Text} {source : RedirectRule}

/-- The pieces of the rule with a resource in the gap. -/
def pieces (frame : RedirectFrame) (resource : Text) : List Text :=
  frame.before ++
    (frame.lead ++ ((frame.marker.key ++ resource) ++ frame.trail)) :: frame.after

def fill (frame : RedirectFrame) (resource : Text) : Text :=
  frame.base ++ '$' :: [','].intercalate (frame.pieces resource)

/-- What the rule with a resource in the gap reads as. -/
def rule (frame : RedirectFrame) (resource : Text) : RedirectRule :=
  ⟨frame.base, frame.before.map Text.trim, frame.marker, resource, frame.after.map Text.trim⟩

theorem notMem_pieces {c : Char} (hblank : Text.isBlank c = false)
    (hbefore : ∀ piece ∈ frame.before, c ∉ piece) (hresource : c ∉ frame.marker.key ++ resource)
    (hafter : ∀ piece ∈ frame.after, c ∉ piece) :
    ∀ piece ∈ frame.pieces resource, c ∉ piece := by
  have hpadding {blanks : Text} (hall : ∀ d ∈ blanks, Text.isBlank d = true) : c ∉ blanks := by
    intro hmem
    rw [hall c hmem] at hblank
    contradiction
  intro piece hmem
  rcases List.mem_append.1 hmem with hmem | hmem
  · exact hbefore piece hmem
  · rcases List.mem_cons.1 hmem with rfl | hmem
    · simp only [List.mem_append, not_or] at hresource ⊢
      exact ⟨hpadding frame.isBlank_lead, hresource, hpadding frame.isBlank_trail⟩
    · exact hafter piece hmem

/-- A rule reads as it was filled in. -/
theorem parse?_fill (frame : RedirectFrame) (h : IsModifier (frame.marker.key ++ resource)) :
    RedirectRule.parse? (frame.fill resource) = some (frame.rule resource) := by
  have hcomma : ∀ piece ∈ frame.pieces resource, ',' ∉ piece :=
    notMem_pieces (by decide) (fun piece hmem => (frame.isBeside_before piece hmem).comma) h.comma
      fun piece hmem => (frame.isBeside_after piece hmem).comma
  have hdollar : ∀ piece ∈ frame.pieces resource, '$' ∉ piece :=
    notMem_pieces (by decide) (fun piece hmem => (frame.isBeside_before piece hmem).dollar) h.dollar
      fun piece hmem => (frame.isBeside_after piece hmem).dollar
  have htrim : (frame.pieces resource).map Text.trim =
      frame.before.map Text.trim ++
        (frame.marker.key ++ resource) :: frame.after.map Text.trim := by
    rw [pieces, List.map_append, List.map_cons,
      Text.trim_padded frame.isBlank_lead h.trimmed frame.isBlank_trail]
  refine RedirectRule.parse?_intercalate_pieces frame.base hcomma hdollar htrim ?_ ?_
  · rw [List.forall_mem_map]
    exact fun piece hmem => (frame.isBeside_before piece hmem).marker
  · rw [List.forall_mem_map]
    exact fun piece hmem => (frame.isBeside_after piece hmem).marker

/-- A rule that is read with a single modifier that names a resource is a frame with that
resource in its gap. -/
theorem exists_fill_eq (h : RedirectRule.parse? line = some source)
    (hsingle : source.hasSingleMarker = true) :
    ∃ frame : RedirectFrame, frame.fill source.value = line := by
  obtain ⟨options, rfl, hdollar, hmodifiers⟩ := RedirectRule.exists_of_parse? h
  obtain ⟨before, rest, hpieces, hbefore, hrest⟩ := List.map_eq_append_iff.1 hmodifiers.symm
  obtain ⟨piece, after, rfl, hpiece, hafter⟩ := List.map_eq_cons_iff.1 hrest
  obtain ⟨lead, trail, hlead, htrail, hpadded⟩ := Text.exists_padded piece
  have hbeside : ∀ beside ∈ before ++ after, IsBeside beside := by
    intro beside hmem
    have hin : beside ∈ options.splitOn ',' := by
      rw [hpieces]
      simp only [List.mem_append, List.mem_cons] at hmem ⊢
      exact hmem.imp_right .inr
    refine ⟨RedirectRule.notMem_of_mem_splitOn hin,
      fun hthere => hdollar ((Text.infix_of_mem_splitOn hin).subset hthere), ?_⟩
    rw [RedirectRule.hasSingleMarker, ← hbefore, ← hafter, ← List.map_append,
      List.all_eq_true] at hsingle
    exact Option.isNone_iff_eq_none.1 (hsingle _ (List.mem_map_of_mem hmem))
  refine ⟨⟨source.base, before, lead, source.marker, trail, after,
    fun beside hmem => hbeside beside (List.mem_append_left _ hmem),
    fun beside hmem => hbeside beside (List.mem_append_right _ hmem), hlead, htrail⟩, ?_⟩
  rw [fill, pieces, ← hpiece, hpadded, ← hpieces, List.intercalate_splitOn]

end RedirectFrame

end FilterDialects
