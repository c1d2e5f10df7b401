import FilterDialects.Registry.Basic
import FilterDialects.Proofs.Text.Search

/-!
# The names of entries

A uBlock Origin name that an entry took from a table has none of the characters that
stand between names. Its extension is the last `.js` of it, and dropping that leaves the
start of the name.
-/

namespace FilterDialects

theorem dropJs_append (name : Text) : dropJs (name ++ ".js".toList) = name := by
  have hsuffix : ".js".toList.isSuffixOf? (name ++ ".js".toList) = some name :=
    Text.isSuffixOf?_eq_some.2 rfl
  rw [dropJs, hsuffix, Option.getD_some]

theorem dropJs_of_not_suffix {name : Text} (h : ¬ ".js".toList <:+ name) : dropJs name = name := by
  cases hread : ".js".toList.isSuffixOf? name with
  | none => rw [dropJs, hread, Option.getD_none]
  | some rest => exact absurd ⟨rest, Text.isSuffixOf?_eq_some.1 hread⟩ h

theorem dropJs_isPrefix (name : Text) : dropJs name <+: name := by
  by_cases h : ".js".toList <:+ name
  · obtain ⟨rest, rfl⟩ := h
    rw [dropJs_append]
    exact List.prefix_append _ _
  · rw [dropJs_of_not_suffix h]

namespace Entry

/-- A part between separators has none of them. -/
theorem separates_of_mem_splitOnP {separates : Char → Bool} {t part : Text}
    (h : part ∈ t.splitOnP separates) {c : Char} (hc : c ∈ part) : separates c = false := by
  induction t generalizing part with
  | nil => simp_all [List.splitOnP_nil]
  | cons first t ih =>
    rw [List.splitOnP_cons_eq_if_modifyHead] at h
    split at h
    · rcases List.mem_cons.1 h with rfl | hmem
      · simp at hc
      · exact ih hmem hc
    · next hfirst =>
      obtain ⟨head, others, hparts⟩ :=
        List.exists_cons_of_ne_nil (List.splitOnP_ne_nil separates t)
      rw [hparts, List.modifyHead_cons] at h
      rw [hparts] at ih
      rcases List.mem_cons.1 h with rfl | hmem
      · rcases List.mem_cons.1 hc with rfl | hhead
        · simpa using hfirst
        · exact ih List.mem_cons_self hhead
      · exact ih (List.mem_cons_of_mem head hmem) hc

theorem separatesNames_of_mem_splitNames {names name : Text} (h : name ∈ splitNames names)
    {c : Char} (hc : c ∈ name) : separatesNames c = false :=
  separates_of_mem_splitOnP (List.mem_filter.1 h).1 hc

theorem separatesNames_of_mem_uboNames {list : Section} {record : Record} {name : Text}
    (h : name ∈ (ofRecord list record).uboNames) {c : Char} (hc : c ∈ name) :
    separatesNames c = false := by
  rw [uboNames_ofRecord] at h
  cases hubo : record.ubo with
  | none => simp [hubo] at h
  | some names => exact separatesNames_of_mem_splitNames (by simpa [hubo] using h) hc

end Entry

end FilterDialects
