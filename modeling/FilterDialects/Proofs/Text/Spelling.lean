import FilterDialects.Text.Basic
import Mathlib.Data.List.Forall2
import Mathlib.Data.List.Nodup

/-!
# Texts in another spelling

Two dialects may spell the same thing differently. A table lists such texts in their old and
in their new spelling, and a text that it does not list is spelled alike. When no text is
listed twice, each has one new spelling only, so a function that gives every text a new
spelling gives the only one.
-/

namespace FilterDialects.Text

/-- A table takes a text to its new spelling. -/
inductive IsRespelling (table : List (Text × Text)) : Text → Text → Prop
  | listed {old new : Text} (h : (old, new) ∈ table) : IsRespelling table old new
  | kept {old : Text} (h : old ∉ table.map Prod.fst) : IsRespelling table old old

variable {table : List (Text × Text)} {old new other : Text} {spell : Text → Text}

theorem IsRespelling.unique (hkeys : (table.map Prod.fst).Nodup)
    (h : IsRespelling table old new) (hother : IsRespelling table old other) : new = other := by
  cases h with
  | listed hlisted =>
    cases hother with
    | listed hother => exact congrArg Prod.snd (List.inj_on_of_nodup_map hkeys hlisted hother rfl)
    | kept hkept => exact absurd (List.mem_map_of_mem hlisted) hkept
  | kept hkept =>
    cases hother with
    | listed hother => exact absurd (List.mem_map_of_mem hother) hkept
    | kept _ => rfl

theorem IsRespelling.eq_or_mem (h : IsRespelling table old new) :
    new = old ∨ (old, new) ∈ table := by
  cases h with
  | listed hlisted => exact .inr hlisted
  | kept _ => exact .inl rfl

/-- A function that respells every text gives the only new spelling. -/
theorem isRespelling_iff (hkeys : (table.map Prod.fst).Nodup)
    (hspell : ∀ old, IsRespelling table old (spell old)) :
    IsRespelling table old new ↔ spell old = new := by
  constructor
  · exact (hspell old).unique hkeys
  · rintro rfl
    exact hspell old

/-- A row of texts is respelled one by one. -/
theorem forall₂_isRespelling_iff (hkeys : (table.map Prod.fst).Nodup)
    (hspell : ∀ old, IsRespelling table old (spell old)) {olds news : List Text} :
    List.Forall₂ (IsRespelling table) olds news ↔ olds.map spell = news := by
  have hsame : IsRespelling table = fun old new => spell old = new := by
    funext old new
    exact propext (isRespelling_iff hkeys hspell)
  rw [hsame, ← List.forall₂_map_left_iff, List.forall₂_eq_eq_eq]

end FilterDialects.Text
