import FilterDialects.Redirect.ContentType
import FilterDialects.Proofs.Redirect.Rewriting
import FilterDialects.Proofs.Text.Spelling

/-!
# Content types are plain modifiers

A content type names no resource, and neither does its short form, so both stand beside the
modifier that does. Spelling out a short form does not change that, and the types that a
resource implies can be added to any rule. Three types have a short form, and its negation is
one as well.
-/

namespace FilterDialects.ContentType

open RedirectRule (IsPlain)

variable {modifier resource : Text} {types : List Text}

/-- What the short forms stand for. -/
def longForms : List (Text × Text) :=
  [("xhr".toList, "xmlhttprequest".toList), ("~xhr".toList, "~xmlhttprequest".toList),
   ("css".toList, "stylesheet".toList), ("~css".toList, "~stylesheet".toList),
   ("frame".toList, "subdocument".toList), ("~frame".toList, "~subdocument".toList)]

theorem isRespelling_expand (modifier : Text) :
    Text.IsRespelling longForms modifier (expand modifier) := by
  cases hlookup : shorthands.lookup modifier with
  | none =>
    have hkept : expand modifier = modifier := by simp [expand, hlookup]
    rw [hkept]
    refine .kept fun hlisted => ?_
    obtain ⟨pair, hpair, rfl⟩ := List.mem_map.1 hlisted
    simpa using List.lookup_eq_none_iff.1 hlookup pair hpair
  | some long =>
    obtain ⟨before, after, hsplit, -⟩ := List.lookup_eq_some_iff.1 hlookup
    have hexpand : expand modifier = long := by simp [expand, hlookup]
    have hlisted : (modifier, long) ∈ shorthands := by simp [hsplit]
    exact hexpand ▸ .listed hlisted

theorem isPlain_expand (h : IsPlain modifier) : IsPlain (expand modifier) := by
  have hlong : ∀ pair ∈ longForms, IsPlain pair.2 := by decide
  rcases (isRespelling_expand modifier).eq_or_mem with heq | hmem
  · rwa [heq]
  · exact hlong _ hmem

theorem of?_of_isContentType (h : isContentType modifier = true) :
    RedirectMarker.of? modifier = none := by
  have hlong : ∀ name ∈ all, RedirectMarker.of? name = none := by decide
  have hshort : ∀ pair ∈ longForms, RedirectMarker.of? pair.1 = none := by decide
  rw [isContentType, List.contains_iff_mem] at h
  rcases (isRespelling_expand modifier).eq_or_mem with heq | hmem
  · exact hlong modifier (heq ▸ h)
  · exact hshort _ hmem

/-- What a resource implies is a row of content types that can be added to a rule. -/
theorem implied?_eq_some (h : implied? resource = some types) :
    types ≠ [] ∧ ∀ type ∈ types, IsPlain type ∧ isContentType type = true := by
  have hlisted : ∀ pair ∈ impliedBy,
      pair.2 ≠ [] ∧ ∀ type ∈ pair.2, IsPlain type ∧ isContentType type = true := by decide
  obtain ⟨before, after, hsplit, -⟩ := List.lookup_eq_some_iff.1 h
  exact hlisted (resource, types) (by simp [hsplit])

end FilterDialects.ContentType
