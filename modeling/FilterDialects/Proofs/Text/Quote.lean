import FilterDialects.Text.Quote
import Mathlib.Data.List.Infix

/-!
# What quoting does to an argument

Requoting an argument takes three steps: its outer quotes are dropped, then each backslash
before a single quote, then every single quote becomes a double quote. `bare` does the
last two at once.

Requoting brings in no character other than the double quote, so whatever else stands in
a requoted argument stood in the argument. It keeps the last character, unless that is a
quote.
-/

namespace FilterDialects.Text

/-- Drop each backslash right before a single quote. -/
def unescapeQuotes : Text → Text
  | [] => []
  | '\\' :: '\'' :: t => '\'' :: unescapeQuotes t
  | c :: t => c :: unescapeQuotes t

def doubleQuotes (t : Text) : Text :=
  t.map fun c => if c = '\'' then '"' else c

/-- An argument without its outer quotes, whose single quotes, escaped or not, are double
quotes. -/
def requote (t : Text) : Text :=
  doubleQuotes (unescapeQuotes (stripQuotes t))

/-- A text without the quotes around it: they are dropped when the same quote stands at both
ends. -/
inductive IsUnquoted : Text → Text → Prop
  | quoted {quote : Char} {inner : Text} (hquote : quote = '\'' ∨ quote = '"') :
      IsUnquoted (quote :: (inner ++ [quote])) inner
  | plain {t : Text}
      (h : ∀ quote inner, quote = '\'' ∨ quote = '"' → t ≠ quote :: (inner ++ [quote])) :
      IsUnquoted t t

theorem isQuote_iff {c : Char} : isQuote c = true ↔ c = '\'' ∨ c = '"' := by
  rw [isQuote, Bool.or_eq_true, decide_eq_true_iff, decide_eq_true_iff]

theorem isUnquoted_stripQuotes (t : Text) : IsUnquoted t (stripQuotes t) := by
  cases t with
  | nil => exact .plain fun _ _ _ => (List.cons_ne_nil _ _).symm
  | cons c t =>
    rw [stripQuotes]
    split
    · next hquotes =>
      obtain ⟨inner, rfl⟩ := List.getLast?_eq_some_iff.1 hquotes.2
      rw [List.dropLast_concat]
      exact .quoted (isQuote_iff.1 hquotes.1)
    · next hquotes =>
      refine .plain ?_
      rintro quote inner hquote heq
      obtain ⟨rfl, rfl⟩ := List.cons.inj heq
      exact hquotes ⟨isQuote_iff.2 hquote, List.getLast?_concat⟩

/-- There is one way to drop the quotes around a text. -/
theorem isUnquoted_iff {t inner : Text} : IsUnquoted t inner ↔ stripQuotes t = inner := by
  constructor
  · intro h
    cases h with
    | @quoted quote inner hquote => simp [stripQuotes, isQuote_iff.2 hquote]
    | plain hplain =>
      have hstripped := isUnquoted_stripQuotes t
      generalize stripQuotes t = stripped at hstripped
      cases hstripped with
      | quoted hquote => exact absurd rfl (hplain _ _ hquote)
      | plain _ => rfl
  · rintro rfl
    exact isUnquoted_stripQuotes t

theorem unescapeQuotes_cons {c : Char} {t : Text} (h : ∀ u, c = '\\' → t ≠ '\'' :: u) :
    unescapeQuotes (c :: t) = c :: unescapeQuotes t := by
  rw [unescapeQuotes]
  exact h

theorem softenQuotes_eq (t : Text) : softenQuotes t = doubleQuotes (unescapeQuotes t) := by
  fun_induction softenQuotes t with
  | case1 => rfl
  | case2 => rfl
  | case3 c hc =>
    have hne : c ≠ '\'' := hc
    simp [unescapeQuotes, doubleQuotes, hne]
  | case4 t ih => simpa [unescapeQuotes, doubleQuotes] using ih
  | case5 t _ ih => simpa [unescapeQuotes, doubleQuotes] using ih
  | case6 c t _ _ hescape hquote ih =>
    have hne : c ≠ '\'' := hquote
    simpa [unescapeQuotes_cons hescape, doubleQuotes, hne] using ih

/-- An argument is written between single quotes as it is requoted. -/
theorem bare_eq_requote (t : Text) : bare t = requote t :=
  softenQuotes_eq (stripQuotes t)

theorem notMem_bare (t : Text) : '\'' ∉ bare t :=
  notMem_softenQuotes _

theorem stripQuotes_isInfix (t : Text) : stripQuotes t <:+: t := by
  have h := isUnquoted_stripQuotes t
  generalize stripQuotes t = inner at h ⊢
  cases h with
  | @quoted quote _ hquote => exact ⟨[quote], [quote], by simp⟩
  | plain _ => exact List.infix_refl t

theorem count_stripQuotes {c : Char} (hc : isQuote c = false) (t : Text) :
    (stripQuotes t).count c = t.count c := by
  have h := isUnquoted_stripQuotes t
  generalize stripQuotes t = inner at h ⊢
  cases h with
  | @quoted quote _ hquote =>
    have hne : quote ≠ c := by
      rintro rfl
      rw [isQuote_iff.2 hquote] at hc
      contradiction
    simp [hne]
  | plain _ => rfl

/-- Only a pair of quotes has nothing left without its outer quotes. -/
theorem stripQuotes_eq_nil_iff {t : Text} :
    stripQuotes t = [] ↔ t = [] ∨ ∃ quote, isQuote quote = true ∧ t = [quote, quote] := by
  rw [← isUnquoted_iff]
  constructor
  · intro h
    cases h with
    | @quoted quote _ hquote => exact .inr ⟨quote, isQuote_iff.2 hquote, rfl⟩
    | plain _ => exact .inl rfl
  · rintro (rfl | ⟨quote, hquote, rfl⟩)
    · exact isUnquoted_stripQuotes []
    · exact @IsUnquoted.quoted quote [] (isQuote_iff.1 hquote)

theorem prefix_of_prefix_unescapeQuotes {mask t : Text} (hmask : '\'' ∉ mask)
    (h : mask <+: unescapeQuotes t) : mask <+: t := by
  induction mask generalizing t with
  | nil => exact List.nil_prefix
  | cons m mask ih =>
    have hm : m ≠ '\'' := fun heq => hmask (by simp [heq])
    have hrest : '\'' ∉ mask := fun hmem => hmask (List.mem_cons_of_mem _ hmem)
    fun_cases unescapeQuotes t with
    | case1 => exact h
    | case2 t => exact absurd (List.cons_prefix_cons.1 h).1 hm
    | case3 c t hescape =>
      rw [unescapeQuotes_cons hescape] at h
      obtain ⟨rfl, htail⟩ := List.cons_prefix_cons.1 h
      exact List.cons_prefix_cons.2 ⟨rfl, ih hrest htail⟩

/-- Dropping backslashes before single quotes joins nothing else. -/
theorem infix_of_infix_unescapeQuotes {mask t : Text} (hmask : '\'' ∉ mask)
    (h : mask <:+: unescapeQuotes t) : mask <:+: t := by
  fun_induction unescapeQuotes t with
  | case1 => exact h
  | case2 t ih =>
    cases List.infix_cons_iff.1 h with
    | inl h => exact (prefix_of_prefix_unescapeQuotes (t := '\\' :: '\'' :: t) hmask h).isInfix
    | inr h => exact (ih h).trans ⟨['\\', '\''], [], by simp⟩
  | case3 c t hescape ih =>
    cases List.infix_cons_iff.1 h with
    | inl h =>
      rw [← unescapeQuotes_cons hescape] at h
      exact (prefix_of_prefix_unescapeQuotes hmask h).isInfix
    | inr h => exact (ih h).trans (List.suffix_cons c t).isInfix

theorem doubleQuotes_of_notMem {t : Text} (h : '\'' ∉ t) : doubleQuotes t = t := by
  have hkept : ∀ c ∈ t, (if c = '\'' then '"' else c) = id c := by
    intro c hc
    have hne : c ≠ '\'' := fun heq => h (heq ▸ hc)
    rw [if_neg hne, id]
  rw [doubleQuotes, List.map_congr_left hkept, List.map_id]

theorem infix_of_infix_doubleQuotes {mask t : Text} (hmask : '"' ∉ mask)
    (h : mask <:+: doubleQuotes t) : mask <:+: t := by
  obtain ⟨u, hu, rfl⟩ := List.infix_map_iff.1 h
  have hsingle : '\'' ∉ u := fun hmem => hmask (by simpa using ⟨'\'', hmem, by simp⟩)
  have hkept := doubleQuotes_of_notMem hsingle
  rw [doubleQuotes] at hkept
  rwa [hkept]

theorem infix_of_infix_bare {mask t : Text} (hsingle : '\'' ∉ mask) (hdouble : '"' ∉ mask)
    (h : mask <:+: bare t) : mask <:+: t := by
  rw [bare, softenQuotes_eq] at h
  exact (infix_of_infix_unescapeQuotes hsingle (infix_of_infix_doubleQuotes hdouble h)).trans
    (stripQuotes_isInfix t)

theorem unescapeQuotes_of_notMem {t : Text} (h : '\'' ∉ t) : unescapeQuotes t = t := by
  induction t with
  | nil => rfl
  | cons c t ih =>
    have ht : '\'' ∉ t := fun hmem => h (List.mem_cons_of_mem _ hmem)
    have hescape : ∀ u, c = '\\' → t ≠ '\'' :: u := fun u _ heq => ht (by simp [heq])
    rw [unescapeQuotes_cons hescape, ih ht]

theorem softenQuotes_of_notMem {t : Text} (h : '\'' ∉ t) : softenQuotes t = t := by
  rw [softenQuotes_eq, unescapeQuotes_of_notMem h, doubleQuotes_of_notMem h]

theorem getLast?_unescapeQuotes (t : Text) : (unescapeQuotes t).getLast? = t.getLast? := by
  fun_induction unescapeQuotes t with
  | case1 => rfl
  | case2 t ih => simp [List.getLast?_cons, ih]
  | case3 c t _ ih => simp [List.getLast?_cons, ih]

/-- Only the outer quotes can be all that an argument has. -/
theorem bare_eq_nil_iff {t : Text} : bare t = [] ↔ stripQuotes t = [] := by
  rw [← List.getLast?_eq_none_iff, ← @List.getLast?_eq_none_iff _ (stripQuotes t), bare,
    softenQuotes_eq, doubleQuotes, List.getLast?_map, getLast?_unescapeQuotes,
    Option.map_eq_none_iff]

/-- An argument in quotes ends in a backslash when it cannot be quoted. -/
theorem getLast?_bare_iff {t : Text} :
    (bare t).getLast? = some '\\' ↔ isQuotable t = false := by
  have hlast : (bare t).getLast? =
      (stripQuotes t).getLast?.map fun c => if c = '\'' then '"' else c := by
    rw [bare, softenQuotes_eq, doubleQuotes, List.getLast?_map, getLast?_unescapeQuotes]
  have hquotable : isQuotable t = false ↔ (stripQuotes t).getLast? = some '\\' := by
    simp [isQuotable]
  rw [hlast, hquotable, Option.map_eq_some_iff]
  constructor
  · rintro ⟨c, hc, heq⟩
    split at heq
    · simp at heq
    · exact heq ▸ hc
  · intro h
    exact ⟨'\\', h, rfl⟩

theorem getLast?_bare_ne {t : Text} (h : isQuotable t = true) :
    (bare t).getLast? ≠ some '\\' := by
  intro hlast
  rw [getLast?_bare_iff, h] at hlast
  contradiction

end FilterDialects.Text
