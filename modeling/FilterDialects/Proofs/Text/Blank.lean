import FilterDialects.Text.Blank
import Mathlib.Data.List.DropRight

/-!
# Trimmed texts

Trimming takes a part out of the middle of a text, and leaves a text alone that neither
starts nor ends with a blank.
-/

namespace FilterDialects.Text

theorem trimEnd_eq_rdropWhile (t : Text) : trimEnd t = t.rdropWhile isBlank := by
  induction t with
  | nil => rfl
  | cons c t ih =>
    have hcons : (c :: t).rdropWhile isBlank =
        if t.rdropWhile isBlank = [] then [c].rdropWhile isBlank
        else c :: t.rdropWhile isBlank := by
      simp only [List.rdropWhile, List.reverse_cons, List.dropWhile_append, List.isEmpty_iff,
        List.reverse_eq_nil_iff]
      split <;> simp
    rw [hcons, ← ih, trimEnd]
    cases htrim : trimEnd t with
    | nil => by_cases hc : isBlank c = true <;> simp [hc, List.rdropWhile_singleton]
    | cons d kept => simp

theorem trimStart_isSuffix (t : Text) : trimStart t <:+ t :=
  List.dropWhile_suffix isBlank

theorem takeWhile_append_trimStart (t : Text) : t.takeWhile isBlank ++ trimStart t = t :=
  List.takeWhile_append_dropWhile

theorem trimEnd_isPrefix (t : Text) : trimEnd t <+: t := by
  rw [trimEnd_eq_rdropWhile]
  exact List.rdropWhile_prefix isBlank t

theorem trimStart_append_of_blank {blanks : Text} (h : ∀ c ∈ blanks, isBlank c = true)
    (t : Text) : trimStart (blanks ++ t) = trimStart t := by
  rw [trimStart, List.dropWhile_append_of_pos h]
  rfl

/-- Trimming a start does not go past a character other than a blank. -/
theorem trimStart_append_cons {c : Char} (h : isBlank c = false) (t u : Text) :
    trimStart (t ++ c :: u) = trimStart t ++ c :: u := by
  induction t with
  | nil => simp [trimStart_of_head h]
  | cons d t ih =>
    rw [List.cons_append, trimStart_cons, trimStart_cons, ih]
    split <;> rfl

theorem isBlank_of_mem_space : ∀ c ∈ [' '], isBlank c = true :=
  List.forall_mem_singleton.2 (by decide)

theorem trim_isInfix (t : Text) : trim t <:+: t :=
  (trimEnd_isPrefix _).isInfix.trans (trimStart_isSuffix t).isInfix

/-- Trimming an end does not go beyond a part that has something left. -/
theorem trimEnd_append_of_ne_nil {u : Text} (h : trimEnd u ≠ []) (t : Text) :
    trimEnd (t ++ u) = t ++ trimEnd u := by
  induction t with
  | nil => rfl
  | cons c t ih =>
    rw [List.cons_append, trimEnd, ih]
    split
    · next hnil => exact absurd (List.append_eq_nil_iff.1 hnil).2 h
    · rfl

/-- A text ends as its last part does, but for blanks. -/
theorem getLast?_trimEnd_append {c : Char} {u : Text} (h : (trim u).getLast? = some c)
    (t : Text) : (trimEnd (t ++ u)).getLast? = some c := by
  obtain ⟨before, hbefore⟩ := trimStart_isSuffix u
  have hne : trimEnd (trimStart u) ≠ [] := fun hnil => by simp [trim, hnil] at h
  rw [← hbefore, ← List.append_assoc, trimEnd_append_of_ne_nil hne, List.getLast?_append]
  simpa [trim] using Or.inl h

/-- A text that ends with a character other than a blank keeps its end. -/
theorem trimEnd_of_last {c : Char} (h : isBlank c = false) (t : Text) :
    trimEnd (t ++ [c]) = t ++ [c] := by
  rw [trimEnd_eq_rdropWhile]
  exact List.rdropWhile_concat_neg _ _ _ (by simp [h])

/-- A text between two characters other than blanks is trimmed. -/
theorem trim_of_ends {first last : Char} (hfirst : isBlank first = false)
    (hlast : isBlank last = false) (t : Text) :
    trim (first :: t ++ [last]) = first :: t ++ [last] := by
  rw [trim, List.cons_append, trimStart_of_head hfirst, ← List.cons_append]
  exact trimEnd_of_last hlast (first :: t)

theorem trim_eq_nil_iff {t : Text} : trim t = [] ↔ ∀ c ∈ t, isBlank c = true := by
  rw [trim, trimEnd_eq_rdropWhile, List.rdropWhile_eq_nil_iff]
  constructor
  · intro h c hc
    by_contra hblank
    obtain ⟨before, after, rfl⟩ := List.append_of_mem hc
    rw [trimStart_append_cons (by simpa using hblank)] at h
    exact hblank (h c (by simp))
  · exact fun h c hc => h c ((trimStart_isSuffix t).subset hc)

theorem trim_of_forall {t : Text} (h : ∀ c ∈ t, isBlank c = false) : trim t = t := by
  cases t with
  | nil => rfl
  | cons c t =>
    rw [trim, trimStart_of_head (h c List.mem_cons_self), trimEnd_eq_rdropWhile,
      List.rdropWhile_eq_self_iff]
    intro hne
    simpa using h _ (List.getLast_mem hne)

/-- Nothing is trimmed off a text when neither of its ends is. -/
theorem trim_eq_self_iff {t : Text} : trim t = t ↔ trimStart t = t ∧ trimEnd t = t := by
  constructor
  · intro h
    have hlength : t.length ≤ (trimStart t).length := by
      calc t.length = (trim t).length := by rw [h]
        _ ≤ (trimStart t).length := (trimEnd_isPrefix _).length_le
    have hstart : trimStart t = t := (trimStart_isSuffix t).eq_of_length_le hlength
    rw [trim, hstart] at h
    exact ⟨hstart, h⟩
  · rintro ⟨hstart, hend⟩
    rw [trim, hstart, hend]

theorem trim_trim (t : Text) : trim (trim t) = trim t := by
  rw [trim_eq_self_iff]
  have hend : trimEnd (trim t) = trim t := by
    rw [trim, trimEnd_eq_rdropWhile (trimStart t), trimEnd_eq_rdropWhile,
      List.rdropWhile_idempotent]
  refine ⟨?_, hend⟩
  cases hstart : trimStart t with
  | nil => simp [trim, hstart]
  | cons c u =>
    have hc := isBlank_of_trimStart hstart
    have hne : trim t ≠ [] := by
      rw [Ne, trim, hstart, trimEnd_eq_rdropWhile, List.rdropWhile_eq_nil_iff]
      exact fun hall => by simp [hc] at hall
    obtain ⟨d, v, hv⟩ := List.exists_cons_of_ne_nil hne
    have hpre : d :: v <+: c :: u := by
      rw [← hv, trim, hstart]
      exact trimEnd_isPrefix _
    rw [hv, (List.cons_prefix_cons.1 hpre).1, trimStart_of_head hc]

/-- Two trimmed texts of which the first is not empty stay as they are side by side. -/
theorem trim_append {t u : Text} (ht : trim t = t) (hne : t ≠ []) (hu : trim u = u) :
    trim (t ++ u) = t ++ u := by
  obtain ⟨htStart, htEnd⟩ := trim_eq_self_iff.1 ht
  obtain ⟨-, huEnd⟩ := trim_eq_self_iff.1 hu
  rw [trim_eq_self_iff]
  constructor
  · obtain ⟨c, v, rfl⟩ := List.exists_cons_of_ne_nil hne
    exact trimStart_of_head (isBlank_of_trimStart htStart) (v ++ u)
  · by_cases hnil : u = []
    · rw [hnil, List.append_nil, htEnd]
    · rw [trimEnd_append_of_ne_nil (by rwa [huEnd]), huEnd]

theorem isBlank_of_isDigit {c : Char} (h : c.isDigit = true) : isBlank c = false := by
  obtain ⟨hleast, hgreatest⟩ := Char.isDigit_iff_toNat.1 h
  have hbounds : 48 ≤ c.toNat ∧ c.toNat ≤ 57 := ⟨hleast, hgreatest⟩
  simp [isBlank, inRanges, blankRanges]
  omega

theorem trim_padded {lead t trail : Text} (hlead : ∀ c ∈ lead, isBlank c = true)
    (ht : trim t = t) (htrail : ∀ c ∈ trail, isBlank c = true) :
    trim (lead ++ (t ++ trail)) = t := by
  obtain ⟨hstart, hend⟩ := trim_eq_self_iff.1 ht
  cases t with
  | nil =>
    rw [List.nil_append, trim_eq_nil_iff]
    exact fun c hc => (List.mem_append.1 hc).elim (hlead c) (htrail c)
  | cons c t =>
    have hhead := isBlank_of_trimStart hstart
    have hdropped : (c :: t ++ trail).rdropWhile isBlank = (c :: t).rdropWhile isBlank := by
      rw [List.rdropWhile, List.reverse_append,
        List.dropWhile_append_of_pos fun d hd => htrail d (List.mem_reverse.1 hd)]
      rfl
    rw [trim, trimStart_append_of_blank hlead, List.cons_append, trimStart_of_head hhead,
      ← List.cons_append, trimEnd_eq_rdropWhile, hdropped, ← trimEnd_eq_rdropWhile, hend]

/-- A text is its trimmed part with blanks around it. -/
theorem exists_padded (t : Text) :
    ∃ lead trail, (∀ c ∈ lead, isBlank c = true) ∧ (∀ c ∈ trail, isBlank c = true) ∧
      lead ++ (trim t ++ trail) = t := by
  refine ⟨t.takeWhile isBlank, (trimStart t).rtakeWhile isBlank, ?_, ?_, ?_⟩
  · exact fun c hc => List.mem_takeWhile_imp hc
  · exact fun c hc => List.mem_rtakeWhile_imp hc
  · rw [trim, trimEnd_eq_rdropWhile, List.rdropWhile_append_rtakeWhile]
    exact takeWhile_append_trimStart t

theorem exists_mem_words {t : Text} {c : Char} (hc : c ∈ t) (hblank : isBlank c = false) :
    ∃ word ∈ words t, c ∈ word := by
  suffices hpiece : ∃ piece ∈ t.splitOnP isBlank, c ∈ piece by
    obtain ⟨piece, hmem, hin⟩ := hpiece
    exact ⟨piece, List.mem_filter.2 ⟨hmem, by simpa using List.ne_nil_of_mem hin⟩, hin⟩
  induction t with
  | nil => simp at hc
  | cons first t ih =>
    rw [List.splitOnP_cons_eq_if_modifyHead]
    obtain ⟨head, others, hpieces⟩ := List.exists_cons_of_ne_nil (List.splitOnP_ne_nil isBlank t)
    rcases List.mem_cons.1 hc with rfl | hlater
    · exact ⟨c :: head, by simp [hblank, hpieces], List.mem_cons_self⟩
    · obtain ⟨piece, hmem, hin⟩ := ih hlater
      split
      · exact ⟨piece, List.mem_cons_of_mem _ hmem, hin⟩
      · rw [hpieces, List.modifyHead_cons]
        rw [hpieces] at hmem
        rcases List.mem_cons.1 hmem with rfl | hother
        · exact ⟨first :: piece, List.mem_cons_self, List.mem_cons_of_mem _ hin⟩
        · exact ⟨piece, List.mem_cons_of_mem _ hother, hin⟩

end FilterDialects.Text
