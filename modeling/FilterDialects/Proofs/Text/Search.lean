import FilterDialects.Text.Basic
import Mathlib.Data.List.Infix

/-!
# Where a mask is found

A cut is made at the leftmost position where something can be read, and a text contains a
mask exactly when the mask is an infix of it. Most lemmas of this module tell where in a
text that is put together from parts a mask can stand: inside one of the parts, unless it
reaches across a seam. It cannot reach across a character that it does not have, nor into
a part that none of its own ends fits on.
-/

namespace FilterDialects.Text

/-- Two places in one row: the first lies before the second, is the second, or lies behind
it. -/
theorem append_cons_cases {α : Type} {before rest before' rest' : List α} {a a' : α}
    (h : before ++ a :: rest = before' ++ a' :: rest') :
    (∃ mid, before' = before ++ a :: mid ∧ rest = mid ++ a' :: rest') ∨
      (before = before' ∧ a = a' ∧ rest = rest') ∨
      ∃ mid, before = before' ++ a' :: mid ∧ rest' = mid ++ a :: rest := by
  rcases List.append_eq_append_iff.1 h with ⟨mid, rfl, hrest⟩ | ⟨mid, rfl, hrest⟩
  · cases mid with
    | nil =>
      obtain ⟨rfl, rfl⟩ := List.cons.inj hrest
      exact .inr (.inl ⟨(List.append_nil _).symm, rfl, rfl⟩)
    | cons b mid =>
      obtain ⟨rfl, rfl⟩ := List.cons.inj hrest
      exact .inl ⟨mid, rfl, rfl⟩
  · cases mid with
    | nil =>
      obtain ⟨rfl, rfl⟩ := List.cons.inj hrest
      exact .inr (.inl ⟨List.append_nil _, rfl, rfl⟩)
    | cons b mid =>
      obtain ⟨rfl, rfl⟩ := List.cons.inj hrest
      exact .inr (.inr ⟨mid, rfl, rfl⟩)

section Cut

variable {α : Type} {read? : Text → Option α}

theorem cut?_eq_none_iff {t : Text} : cut? read? t = none ↔ ∀ s, s <:+ t → read? s = none := by
  induction t with
  | nil => simp [cut?]
  | cons c t ih =>
    cases hread : read? (c :: t) with
    | some found =>
      rw [cut?_cons_of_some hread]
      simp only [reduceCtorEq, false_iff]
      intro h
      simpa [hread] using h (c :: t) (List.suffix_refl _)
    | none =>
      rw [cut?_cons_of_none hread, Option.map_eq_none_iff, ih]
      constructor
      · intro h s hs
        rcases List.suffix_cons_iff.1 hs with rfl | hs
        · exact hread
        · exact h s hs
      · exact fun h s hs => h s (List.suffix_cons_iff.2 (.inr hs))

theorem cut?_append {before t : Text} {found : α} (hfound : read? t = some found)
    (hbefore : ∀ s, s <:+ before → s ≠ [] → read? (s ++ t) = none) :
    cut? read? (before ++ t) = some (before, found) := by
  induction before with
  | nil =>
    cases t with
    | nil => simp [cut?, hfound]
    | cons c t => exact cut?_cons_of_some hfound
  | cons c before ih =>
    have hread : read? (c :: (before ++ t)) = none :=
      hbefore (c :: before) (List.suffix_refl _) (List.cons_ne_nil _ _)
    have hlater := ih fun s hs => hbefore s (List.suffix_cons_iff.2 (.inr hs))
    rw [List.cons_append, cut?_cons_of_none hread, hlater]
    rfl

/-- A cut is made where something can be read, and nothing can be read before. -/
theorem exists_of_cut? {t before : Text} {found : α} (h : cut? read? t = some (before, found)) :
    ∃ rest, t = before ++ rest ∧ read? rest = some found ∧
      ∀ s, s <:+ before → s ≠ [] → read? (s ++ rest) = none := by
  induction t generalizing before with
  | nil =>
    obtain ⟨found', hread, heq⟩ := Option.map_eq_some_iff.1 h
    obtain ⟨rfl, rfl⟩ : [] = before ∧ found' = found := by simpa using heq
    exact ⟨[], rfl, hread, by simp⟩
  | cons c t ih =>
    cases hread : read? (c :: t) with
    | some found' =>
      rw [cut?_cons_of_some hread] at h
      obtain ⟨rfl, rfl⟩ : [] = before ∧ found' = found := by simpa using h
      exact ⟨c :: t, rfl, hread, by simp⟩
    | none =>
      rw [cut?_cons_of_none hread] at h
      obtain ⟨⟨before', found'⟩, hcut, heq⟩ := Option.map_eq_some_iff.1 h
      obtain ⟨rfl, rfl⟩ : c :: before' = before ∧ found' = found := by simpa using heq
      obtain ⟨rest, rfl, hrest, hbefore⟩ := ih hcut
      refine ⟨rest, rfl, hrest, ?_⟩
      intro s hs hne
      rcases List.suffix_cons_iff.1 hs with rfl | hs
      · exact hread
      · exact hbefore s hs hne

/-- Wherever else something can be read, it stands no farther left than the cut. -/
theorem prefix_of_cut? {t before before' rest : Text} {found : α}
    (h : cut? read? t = some (before, found)) (ht : before' ++ rest = t)
    (hread : read? rest ≠ none) : before <+: before' := by
  obtain ⟨tail, rfl, -, hnone⟩ := exists_of_cut? h
  have hpre : before' <+: before ++ tail := ⟨rest, ht⟩
  cases List.prefix_or_prefix_of_prefix hpre (List.prefix_append before tail) with
  | inl hearlier =>
    obtain ⟨s, rfl⟩ := hearlier
    have hrest : rest = s ++ tail := by simpa using ht
    by_cases hs : s = []
    · simp [hs]
    · exact absurd (hrest ▸ hnone s (List.suffix_append before' s) hs) hread
  | inr hlater => exact hlater

end Cut

theorem isPrefixOf?_eq_none_iff {mask t : Text} :
    mask.isPrefixOf? t = none ↔ ¬ mask <+: t := by
  rw [Option.eq_none_iff_forall_ne_some]
  simp only [ne_eq, isPrefixOf?_eq_some, List.IsPrefix, not_exists]

theorem containsMask_iff {t mask : Text} : t.containsMask mask = true ↔ mask <:+: t := by
  constructor
  · intro h
    obtain ⟨⟨before, after⟩, hcut⟩ := Option.isSome_iff_exists.1 h
    obtain ⟨rest, rfl, hread, -⟩ := exists_of_cut? hcut
    rw [← isPrefixOf?_eq_some.1 hread]
    exact List.infix_append' before mask after
  · rintro ⟨before, after, rfl⟩
    rw [containsMask, Option.isSome_iff_ne_none, cutMask?, Ne, cut?_eq_none_iff]
    intro h
    have hread := h (mask ++ after) ⟨before, by simp⟩
    exact isPrefixOf?_eq_none_iff.1 hread (List.prefix_append mask after)

theorem cutMask?_eq_none_iff {mask t : Text} : cutMask? mask t = none ↔ ¬ mask <:+: t := by
  rw [← containsMask_iff, containsMask, Bool.not_eq_true, Option.isSome_eq_false_iff,
    Option.isNone_iff_eq_none]

theorem append_of_cutMask? {mask t before after : Text}
    (h : cutMask? mask t = some (before, after)) : before ++ mask ++ after = t := by
  obtain ⟨rest, rfl, hread, -⟩ := exists_of_cut? h
  rw [← isPrefixOf?_eq_some.1 hread, List.append_assoc]

theorem prefix_of_cutMask? {mask t before before' after : Text}
    (h : cutMask? mask t = some (before, after)) (hoccurs : before' ++ mask <+: t) :
    before <+: before' := by
  obtain ⟨rest, rfl⟩ := hoccurs
  refine prefix_of_cut? h (List.append_assoc before' mask rest).symm ?_
  rw [Ne, isPrefixOf?_eq_none_iff, not_not]
  exact List.prefix_append mask rest

/-- A text that starts with a mask does so before any character that the mask does not
have. -/
theorem prefix_append_cons_iff {mask before after : Text} {c : Char} (hc : c ∉ mask) :
    mask <+: before ++ c :: after ↔ mask <+: before := by
  constructor
  · intro h
    cases List.prefix_or_prefix_of_prefix h (List.prefix_append before (c :: after)) with
    | inl hp => exact hp
    | inr hp =>
      obtain ⟨rest, rfl⟩ := hp
      have hrest := (List.prefix_append_right_inj before).1 h
      cases rest with
      | nil => exact (List.append_nil before).symm ▸ List.prefix_refl _
      | cons m rest =>
        obtain ⟨rfl, -⟩ := List.cons_prefix_cons.1 hrest
        exact absurd (List.mem_append_right before List.mem_cons_self) hc
  · exact fun h => h.trans (List.prefix_append _ _)

/-- A mask without a certain character does not reach across that character. -/
theorem infix_append_cons_iff {mask before after : Text} {c : Char} (hc : c ∉ mask) :
    mask <:+: before ++ c :: after ↔ mask <:+: before ∨ mask <:+: after := by
  constructor
  · intro h
    rcases List.infix_append_iff_ne_nil.1 h with h | h | ⟨l, r, -, hr, rfl, -, hpre⟩
    · exact .inl h
    · cases List.infix_cons_iff.1 h with
      | inl h =>
        cases mask with
        | nil => exact .inl List.nil_infix
        | cons m mask =>
          obtain ⟨rfl, -⟩ := List.cons_prefix_cons.1 h
          exact absurd List.mem_cons_self hc
      | inr h => exact .inr h
    · cases r with
      | nil => exact absurd rfl hr
      | cons m r =>
        obtain ⟨rfl, -⟩ := List.cons_prefix_cons.1 hpre
        exact absurd (List.mem_append_right l List.mem_cons_self) hc
  · rintro (h | h)
    · exact h.trans List.infix_append_left
    · exact (h.trans (List.suffix_cons c after).isInfix).trans List.infix_append_right

/-- Whether a mask that begins before a text could go on into it: one of its proper ends
fits on the text, as far as both go. -/
def overlaps (mask next : Text) : Bool :=
  mask.tail.tails.any fun ending =>
    decide (ending ≠ []) && (ending.isPrefixOf next || next.isPrefixOf ending)

theorem not_prefix_of_not_overlaps {start ending next after : Text}
    (h : overlaps (start ++ ending) next = false) (hstart : start ≠ []) (hending : ending ≠ []) :
    ¬ ending <+: next ++ after := by
  intro hpre
  have hmem : ending ∈ (start ++ ending).tail.tails := by
    rw [List.mem_tails, List.tail_append_of_ne_nil hstart]
    exact List.suffix_append _ _
  have hfits := List.any_eq_false.1 h ending hmem
  cases List.prefix_or_prefix_of_prefix hpre (List.prefix_append next after) with
  | inl hp => exact hfits (by simp [hending, List.isPrefixOf_iff_prefix.2 hp])
  | inr hp => exact hfits (by simp [hending, List.isPrefixOf_iff_prefix.2 hp])

/-- A mask that does not overlap a text stands before it or from its beginning on. -/
theorem infix_append_of_not_overlaps {mask before next after : Text}
    (h : overlaps mask next = false) (hoccurs : mask <:+: before ++ (next ++ after)) :
    mask <:+: before ∨ mask <:+: next ++ after := by
  rcases List.infix_append_iff_ne_nil.1 hoccurs with hl | hr | ⟨l, r, hl, hr, rfl, -, hpre⟩
  · exact .inl hl
  · exact .inr hr
  · exact absurd hpre (not_prefix_of_not_overlaps h hl hr)

/-- A text is cut around a mask that does not occur before. -/
theorem cutMask?_append {mask before : Text} (h : overlaps mask mask = false)
    (hbefore : ¬ mask <:+: before) (after : Text) :
    cutMask? mask (before ++ (mask ++ after)) = some (before, after) := by
  apply cut?_append (isPrefixOf?_eq_some.2 rfl)
  intro s hs hne
  rw [isPrefixOf?_eq_none_iff]
  intro hpre
  rcases List.prefix_or_prefix_of_prefix hpre (List.prefix_append s _) with hp | ⟨r, hr⟩
  · exact hbefore (hp.isInfix.trans hs.isInfix)
  · by_cases hnil : r = []
    · subst hnil
      rw [List.append_nil] at hr
      exact hbefore (hr ▸ hs.isInfix)
    · rw [← hr] at h hpre
      exact not_prefix_of_not_overlaps h hne hnil ((List.prefix_append_right_inj s).1 hpre)

end FilterDialects.Text
