import FilterDialects.Proofs.Text.Delimited

/-!
# Texts put together around separators

A text is cut at the last occurrence of a character exactly where that character does not
occur any more behind. Pieces that are joined by a separator without escapes are read back
by splitting, as long as no piece has the separator; and what stands in joined pieces and
has no separator stands in one of them.
-/

namespace FilterDialects.Text

variable {d : Char} {t before after mask : Text} {pieces : List Text}

theorem cutLast?_eq_none_iff : cutLast? d t = none ↔ d ∉ t := by
  induction t with
  | nil => simp
  | cons c t ih =>
    simp only [cutLast?, List.mem_cons, not_or, ← ih]
    cases cutLast? d t with
    | none =>
      by_cases hc : c = d
      · simp [hc]
      · simp [hc, Ne.symm hc]
    | some cut => simp

/-- A text is cut around a character that does not come again. -/
theorem cutLast?_append_cons (h : d ∉ after) (before : Text) :
    cutLast? d (before ++ d :: after) = some (before, after) := by
  induction before with
  | nil => simp [cutLast?, cutLast?_eq_none_iff.2 h]
  | cons c before ih => rw [List.cons_append, cutLast?, ih]

theorem notMem_of_cutLast? (h : cutLast? d t = some (before, after)) : d ∉ after := by
  induction t generalizing before with
  | nil => simp at h
  | cons c t ih =>
    rw [cutLast?] at h
    split at h
    · next before' after' hcut =>
      obtain ⟨-, rfl⟩ : c :: before' = before ∧ after' = after := by simpa using h
      exact ih hcut
    · next hnone =>
      split at h
      · obtain ⟨-, rfl⟩ : [] = before ∧ t = after := by simpa using h
        exact cutLast?_eq_none_iff.1 hnone
      · contradiction

theorem cutLast?_eq_some_iff :
    cutLast? d t = some (before, after) ↔ before ++ d :: after = t ∧ d ∉ after := by
  constructor
  · exact fun h => ⟨append_of_cutLast? h, notMem_of_cutLast? h⟩
  · rintro ⟨rfl, h⟩
    exact cutLast?_append_cons h before

/-- A mask with the separator in it stands before the last separator of a text, or around
it. -/
theorem infix_append_cons_of_notMem {ending : Text} (hending : d ∉ ending) (hafter : d ∉ after)
    (h : mask ++ d :: ending <:+: before ++ d :: after) :
    mask ++ d :: ending <:+: before ∨ mask <:+ before ∧ ending <+: after := by
  have hcut {start rest : Text} (heq : mask ++ d :: ending = start ++ rest) (hne : rest ≠ [])
      (hpre : rest <+: d :: after) : mask = start ∧ ending <+: after := by
    obtain ⟨c, rest, rfl⟩ := List.exists_cons_of_ne_nil hne
    obtain ⟨rfl, hrest⟩ := List.cons_prefix_cons.1 hpre
    have hlast := cutLast?_append_cons hending mask
    rw [heq, cutLast?_append_cons fun hmem => hafter (hrest.subset hmem)] at hlast
    obtain ⟨rfl, rfl⟩ : start = mask ∧ rest = ending := by simpa using hlast
    exact ⟨rfl, hrest⟩
  rcases List.infix_append_iff_ne_nil.1 h with hbefore | hlater | ⟨l, r, -, hr, heq, hl, hpre⟩
  · exact .inl hbefore
  · rcases List.infix_cons_iff.1 hlater with hpre | hlater
    · obtain ⟨rfl, hending⟩ := hcut (List.nil_append _).symm (by simp) hpre
      exact .inr ⟨List.nil_suffix, hending⟩
    · exact absurd (hlater.subset (by simp)) hafter
  · obtain ⟨rfl, hending⟩ := hcut heq hr hpre
    exact .inr ⟨hl, hending⟩

/-- What stands in joined pieces and has no separator stands in one of them. -/
theorem exists_infix_of_infix_intercalate (hmask : d ∉ mask) (hne : mask ≠ [])
    (h : mask <:+: [d].intercalate pieces) : ∃ piece ∈ pieces, mask <:+: piece := by
  induction pieces with
  | nil => exact absurd (List.infix_nil.1 h) hne
  | cons first others ih =>
    cases others with
    | nil => exact ⟨first, List.mem_cons_self, by simpa [List.intercalate] using h⟩
    | cons second others =>
      have hseam : mask <:+: first ++ d :: [d].intercalate (second :: others) := by
        simpa [intercalate_cons_cons] using h
      rcases (infix_append_cons_iff hmask).1 hseam with hfirst | hlater
      · exact ⟨first, List.mem_cons_self, hfirst⟩
      · obtain ⟨piece, hmem, hoccurs⟩ := ih hlater
        exact ⟨piece, List.mem_cons_of_mem first hmem, hoccurs⟩

theorem notMem_intercalate {c : Char} (hc : c ≠ d) (h : ∀ piece ∈ pieces, c ∉ piece) :
    c ∉ [d].intercalate pieces := by
  intro hmem
  have hone : [c] <:+: [d].intercalate pieces := (List.singleton_infix_iff c _).2 hmem
  obtain ⟨piece, hpiece, hoccurs⟩ :=
    exists_infix_of_infix_intercalate (by simpa using hc.symm) (List.cons_ne_nil c []) hone
  exact h piece hpiece ((List.singleton_infix_iff c piece).1 hoccurs)

theorem infix_of_mem_splitOn {piece : Text} (h : piece ∈ t.splitOn d) : piece <:+: t := by
  have hin : piece <:+: [d].intercalate (t.splitOn d) := infix_of_mem_intercalate h
  rwa [List.intercalate_splitOn] at hin

end FilterDialects.Text
