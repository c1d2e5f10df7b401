import FilterDialects.Registry.Load
import FilterDialects.Proofs.Registry.Resources

/-!
# The shipped registry

The shipped table builds, and the names of its redirect resources can stand in rules: they
have none of the characters that mean something there.
-/

namespace FilterDialects.Registry

theorem build_shipped : (build Table.shipped).2 = .ok shipped := by
  obtain ⟨registry, h⟩ := exists_build_ok Table.shipped (by decide +kernel) (by decide +kernel)
  rw [h, shipped, h]

theorem notMem_name_shipped :
    ∀ entry ∈ shipped.redirects, ∀ c ∈ ['#', '$', ',', ':'], c ∉ entry.name := by
  have hplain : (Table.shippedRedirects.all fun record =>
      ['#', '$', ',', ':'].all fun c => !(Text.trim record.adg).contains c) = true := by
    decide +kernel
  rw [(entries_of_build build_shipped).2]
  intro entry hentry c hc
  obtain ⟨record, hrecord, rfl⟩ := List.mem_map.1 hentry
  have hnone := List.all_eq_true.1 (List.all_eq_true.1 hplain record hrecord) c hc
  simpa using hnone

theorem hasPlainResources_shipped : shipped.HasPlainResources where
  not_dollar entry hentry := notMem_name_shipped entry hentry '$' (by decide)
  not_comma entry hentry := notMem_name_shipped entry hentry ',' (by decide)
  not_priority entry hentry := by
    rintro ⟨before, tail, hname, -⟩
    exact notMem_name_shipped entry hentry ':' (by decide) (by simp [hname])

theorem isAdgRedirect_shipped_noopjs : shipped.isAdgRedirect "noop.js".toList = false := by
  rw [isAdgRedirect_eq_isSome, redirect?_eq_find?, (entries_of_build build_shipped).2]
  decide +kernel

theorem redirectOfUbo?_shipped_noopjs :
    shipped.redirectOfUbo? "noop.js".toList = some "noopjs".toList := by
  rw [redirectOfUbo?_eq_find?, (entries_of_build build_shipped).2]
  decide +kernel

end FilterDialects.Registry
