import FilterDialects.Proofs.Text.Delimited

/-!
# Cutting outside of quotes

A text is cut at each delimiter that has an even number of double quotes behind it, so a text
is one piece exactly when every delimiter in it has an odd number of them behind it. The
first cut of any other text leaves such a piece before it and an even number of double quotes
behind it. The text and the places of its cuts leave no choice for the pieces.

The same pieces come from a scan that reads the text once from left to right and counts down
its double quotes: the counter is right for what is left to read, at every point.
-/

namespace FilterDialects.Text

variable {d : Char}

theorem intercalate_modifyHead (d c : Char) {pieces : List Text} (h : pieces ≠ []) :
    [d].intercalate (pieces.modifyHead (c :: ·)) = c :: [d].intercalate pieces := by
  cases pieces with
  | nil => exact absurd rfl h
  | cons first others =>
    cases others with
    | nil => simp [List.intercalate]
    | cons second others => simp

/-- Cutting at delimiters loses nothing but these. -/
theorem intercalate_splitEvenQuotes (d : Char) (quotesAhead : Nat) (t : Text) :
    [d].intercalate (splitEvenQuotes d quotesAhead t) = t := by
  induction t generalizing quotesAhead with
  | nil => rfl
  | cons c t ih =>
    rw [splitEvenQuotes]
    split
    · rw [intercalate_modifyHead d c (splitEvenQuotes_ne_nil _ _ _), ih]
    · split
      · next hcut =>
        obtain ⟨first, others, hpieces⟩ :=
          List.exists_cons_of_ne_nil (splitEvenQuotes_ne_nil d quotesAhead t)
        have hwhole := ih quotesAhead
        rw [hpieces] at hwhole ⊢
        rw [intercalate_cons_cons, hwhole, hcut.1]
        rfl
      · rw [intercalate_modifyHead d c (splitEvenQuotes_ne_nil _ _ _), ih]

theorem infix_of_mem_splitOutsideQuotes {t piece : Text} (h : piece ∈ splitOutsideQuotes d t) :
    piece <:+: t := by
  have hin := @infix_of_mem_intercalate [d] piece _ h
  rw [splitOutsideQuotes, intercalate_splitEvenQuotes] at hin
  exact hin

/-- Every delimiter of a text is followed by an odd number of double quotes. -/
def IsEnclosed (d : Char) (t : Text) : Prop :=
  ∀ before after, t = before ++ d :: after → after.count '"' % 2 = 1

theorem isEnclosed_cons {c : Char} {t : Text} :
    IsEnclosed d (c :: t) ↔ (c = d → t.count '"' % 2 = 1) ∧ IsEnclosed d t := by
  constructor
  · intro h
    refine ⟨fun hc => h [] t (by rw [hc, List.nil_append]), ?_⟩
    rintro before after rfl
    exact h (c :: before) after rfl
  · rintro ⟨hhead, htail⟩ before after heq
    cases before with
    | nil =>
      obtain ⟨rfl, rfl⟩ := List.cons.inj heq
      exact hhead rfl
    | cons b before =>
      obtain ⟨rfl, rfl⟩ := List.cons.inj heq
      exact htail before after rfl

theorem isEnclosed_of_notMem {t : Text} (h : d ∉ t) : IsEnclosed d t := by
  rintro before after rfl
  simp at h

theorem isEnclosed_append_iff {gap t : Text} (hgap : d ∉ gap) :
    IsEnclosed d (gap ++ t) ↔ IsEnclosed d t := by
  induction gap with
  | nil => rfl
  | cons c gap ih =>
    have hlater : d ∉ gap := fun hmem => hgap (List.mem_cons_of_mem c hmem)
    rw [List.cons_append, isEnclosed_cons, ih hlater, and_iff_right]
    rintro rfl
    exact absurd List.mem_cons_self hgap

/-- Quotes that come in pairs behind a text change nothing for its delimiters. -/
theorem IsEnclosed.append {t u : Text} (ht : IsEnclosed d t) (hu : IsEnclosed d u)
    (heven : u.count '"' % 2 = 0) : IsEnclosed d (t ++ u) := by
  induction t with
  | nil => exact hu
  | cons c t ih =>
    obtain ⟨hhead, htail⟩ := isEnclosed_cons.1 ht
    rw [List.cons_append, isEnclosed_cons, List.count_append]
    refine ⟨fun hc => ?_, ih htail⟩
    have hodd := hhead hc
    omega

theorem isEnclosed_intercalate {sep : Text} (hsep : d ∉ sep) (hquote : '"' ∉ sep)
    {pieces : List Text} (h : ∀ piece ∈ pieces, IsEnclosed d piece ∧ piece.count '"' % 2 = 0) :
    IsEnclosed d (sep.intercalate pieces) ∧ (sep.intercalate pieces).count '"' % 2 = 0 := by
  induction pieces with
  | nil => exact ⟨isEnclosed_of_notMem List.not_mem_nil, rfl⟩
  | cons first others ih =>
    obtain ⟨hfirst, heven⟩ := h first List.mem_cons_self
    cases others with
    | nil =>
      rw [List.intercalate_singleton]
      exact ⟨hfirst, heven⟩
    | cons second others =>
      obtain ⟨hlater, hevenLater⟩ := ih fun piece hmem => h piece (List.mem_cons_of_mem first hmem)
      have hnone := List.count_eq_zero.2 hquote
      rw [intercalate_cons_cons]
      refine ⟨hfirst.append ((isEnclosed_append_iff hsep).2 hlater) ?_, ?_⟩
      · rw [List.count_append, hnone, Nat.zero_add, hevenLater]
      · rw [List.count_append, List.count_append, hnone]
        omega

/-- A text is cut at a delimiter with an even number of double quotes behind it. -/
theorem splitOutsideQuotes_cons (hd : d ≠ '"') (c : Char) (t : Text) :
    splitOutsideQuotes d (c :: t) =
      if c = d ∧ t.count '"' % 2 = 0 then [] :: splitOutsideQuotes d t
      else (splitOutsideQuotes d t).modifyHead (c :: ·) := by
  unfold splitOutsideQuotes
  by_cases hc : c = '"'
  · have hcd : '"' ≠ d := hd.symm
    simp [splitEvenQuotes, hc, hcd]
  · simp [splitEvenQuotes, hc]

theorem splitOutsideQuotes_of_isEnclosed (hd : d ≠ '"') {t : Text} (h : IsEnclosed d t) :
    splitOutsideQuotes d t = [t] := by
  induction t with
  | nil => rfl
  | cons c t ih =>
    obtain ⟨hhead, htail⟩ := isEnclosed_cons.1 h
    rw [splitOutsideQuotes_cons hd, if_neg, ih htail, List.modifyHead_cons]
    rintro ⟨hc, heven⟩
    simp [hhead hc] at heven

/-- The first cut is made at the first delimiter outside of quotes. -/
theorem splitOutsideQuotes_append (hd : d ≠ '"') {first rest : Text} (hfirst : IsEnclosed d first)
    (hrest : rest.count '"' % 2 = 0) :
    splitOutsideQuotes d (first ++ d :: rest) = first :: splitOutsideQuotes d rest := by
  induction first with
  | nil => rw [List.nil_append, splitOutsideQuotes_cons hd, if_pos ⟨rfl, hrest⟩]
  | cons c first ih =>
    obtain ⟨hhead, htail⟩ := isEnclosed_cons.1 hfirst
    rw [List.cons_append, splitOutsideQuotes_cons hd, if_neg, ih htail, List.modifyHead_cons]
    rintro ⟨hc, heven⟩
    have hodd := hhead hc
    rw [List.count_append, List.count_cons_of_ne hd] at heven
    omega

/-- A text without a cut has all its delimiters between quotes. -/
theorem isEnclosed_or_exists (hd : d ≠ '"') (t : Text) :
    IsEnclosed d t ∨
      ∃ first rest, t = first ++ d :: rest ∧ IsEnclosed d first ∧ rest.count '"' % 2 = 0 := by
  induction t with
  | nil => exact .inl (isEnclosed_of_notMem List.not_mem_nil)
  | cons c t ih =>
    by_cases hcut : c = d ∧ t.count '"' % 2 = 0
    · obtain ⟨rfl, heven⟩ := hcut
      exact .inr ⟨[], t, rfl, isEnclosed_of_notMem List.not_mem_nil, heven⟩
    · have hodd : c = d → t.count '"' % 2 = 1 := fun hc =>
        (Nat.mod_two_eq_zero_or_one _).resolve_left fun heven => hcut ⟨hc, heven⟩
      rcases ih with hwhole | ⟨first, rest, rfl, hfirst, heven⟩
      · exact .inl (isEnclosed_cons.2 ⟨hodd, hwhole⟩)
      · refine .inr ⟨c :: first, rest, rfl, isEnclosed_cons.2 ⟨fun hc => ?_, hfirst⟩, heven⟩
        have hsum := hodd hc
        rw [List.count_append, List.count_cons_of_ne hd] at hsum
        omega

section Cuts

variable {t before mid after first : Text} {pieces others : List Text}

/-- One of the cuts between the pieces of a text stands at the delimiter that has `before` on
its left and `after` on its right. -/
def IsCutAt (d : Char) (pieces : List Text) (before after : Text) : Prop :=
  ∃ left right, left ≠ [] ∧ right ≠ [] ∧ left ++ right = pieces ∧
    [d].intercalate left = before ∧ [d].intercalate right = after

theorem not_isCutAt_singleton : ¬ IsCutAt d [first] before after := by
  rintro ⟨left, right, hleft, hright, hpieces, -⟩
  rcases List.append_eq_singleton_iff.1 hpieces with ⟨rfl, -⟩ | ⟨-, rfl⟩
  · exact hleft rfl
  · exact hright rfl

/-- The first piece stands before the first delimiter that joins the pieces. -/
theorem intercalate_cons (hothers : others ≠ []) :
    [d].intercalate (first :: others) = first ++ d :: [d].intercalate others := by
  rw [List.intercalate_cons_of_ne_nil hothers, List.append_assoc, List.singleton_append]

/-- The cuts are the one behind the first piece and those of the other pieces. -/
theorem isCutAt_cons_iff (hothers : others ≠ []) :
    IsCutAt d (first :: others) before after ↔
      (before = first ∧ after = [d].intercalate others) ∨
        ∃ mid, before = first ++ d :: mid ∧ IsCutAt d others mid after := by
  constructor
  · rintro ⟨left, right, hleft, hright, hpieces, rfl, rfl⟩
    obtain ⟨head, left, rfl⟩ := List.exists_cons_of_ne_nil hleft
    obtain ⟨rfl, rfl⟩ := List.cons.inj hpieces
    by_cases hnil : left = []
    · subst hnil
      exact .inl ⟨List.intercalate_singleton, rfl⟩
    · exact .inr ⟨_, intercalate_cons hnil, left, right, hnil, hright, rfl, rfl, rfl⟩
  · rintro (⟨rfl, rfl⟩ | ⟨mid, rfl, left, right, hleft, hright, rfl, rfl, rfl⟩)
    · exact ⟨[before], others, by simp, hothers, rfl, List.intercalate_singleton, rfl⟩
    · exact ⟨first :: left, right, by simp, hright, rfl, intercalate_cons hleft, rfl⟩

/-- There is no cut inside the first piece. -/
theorem not_isCutAt_inside (hothers : others ≠ []) :
    ¬ IsCutAt d ((before ++ d :: mid) :: others) before after := by
  rw [isCutAt_cons_iff hothers]
  rintro (⟨heq, -⟩ | ⟨later, heq, -⟩)
  · simpa using congrArg List.length heq
  · have hlength := congrArg List.length heq
    simp at hlength

theorem isCutAt_behind_iff (hothers : others ≠ []) :
    IsCutAt d (first :: others) (first ++ d :: before) after ↔ IsCutAt d others before after := by
  rw [isCutAt_cons_iff hothers]
  constructor
  · rintro (⟨heq, -⟩ | ⟨mid, heq, hcut⟩)
    · simp at heq
    · rwa [(List.cons.inj (List.append_cancel_left heq)).2]
  · exact fun hcut => .inr ⟨before, rfl, hcut⟩

/-- The pieces make up the text, and the cuts between them are the delimiters with an even
number of double quotes behind them. -/
structure IsCutOutside (d : Char) (t : Text) (pieces : List Text) : Prop where
  ne_nil : pieces ≠ []
  joined : [d].intercalate pieces = t
  cut_iff : ∀ before after, before ++ d :: after = t →
    (IsCutAt d pieces before after ↔ after.count '"' % 2 = 0)

theorem isCutOutside_singleton_iff : IsCutOutside d t [first] ↔ t = first ∧ IsEnclosed d t := by
  constructor
  · intro h
    refine ⟨h.joined.symm.trans List.intercalate_singleton, ?_⟩
    intro before after hplace
    have hodd := (h.cut_iff before after hplace.symm).not.1 not_isCutAt_singleton
    omega
  · rintro ⟨rfl, henclosed⟩
    refine ⟨by simp, List.intercalate_singleton, ?_⟩
    intro before after hplace
    have hodd := henclosed before after hplace.symm
    exact iff_of_false not_isCutAt_singleton (by omega)

/-- The first of several pieces has its delimiters enclosed, and what is behind it is cut on
its own. -/
theorem isCutOutside_cons_iff (hd : d ≠ '"') (hothers : others ≠ []) :
    IsCutOutside d t (first :: others) ↔
      ∃ rest, t = first ++ d :: rest ∧ IsEnclosed d first ∧ rest.count '"' % 2 = 0 ∧
        IsCutOutside d rest others := by
  have hcount (u v : Text) : (u ++ d :: v).count '"' = u.count '"' + v.count '"' := by
    rw [List.count_append, List.count_cons_of_ne hd]
  constructor
  · intro h
    have hplace := (intercalate_cons hothers).symm.trans h.joined
    have heven : ([d].intercalate others).count '"' % 2 = 0 :=
      (h.cut_iff _ _ hplace).1 ((isCutAt_cons_iff hothers).2 (.inl ⟨rfl, rfl⟩))
    refine ⟨_, hplace.symm, ?_, heven, hothers, rfl, ?_⟩
    · rintro before mid rfl
      have hodd := (h.cut_iff _ _ (by simpa using hplace)).not.1 (not_isCutAt_inside hothers)
      rw [hcount] at hodd
      omega
    · intro before after hrest
      rw [← h.cut_iff (first ++ d :: before) after (by simp [hrest, hplace]),
        isCutAt_behind_iff hothers]
  · rintro ⟨rest, rfl, henclosed, heven, hrest⟩
    refine ⟨by simp, by rw [intercalate_cons hothers, hrest.joined], ?_⟩
    intro before after hplace
    rcases append_cons_cases hplace with ⟨mid, rfl, rfl⟩ | ⟨rfl, -, rfl⟩ | ⟨mid, rfl, hmid⟩
    · have hodd := henclosed before mid rfl
      exact iff_of_false (not_isCutAt_inside hothers) (by rw [hcount]; omega)
    · exact iff_of_true ((isCutAt_cons_iff hothers).2 (.inl ⟨rfl, hrest.joined.symm⟩)) heven
    · rw [isCutAt_behind_iff hothers, hrest.cut_iff mid after hmid.symm]

theorem IsCutOutside.of_splitOutsideQuotes (hd : d ≠ '"') (h : splitOutsideQuotes d t = pieces) :
    IsCutOutside d t pieces := by
  induction pieces generalizing t with
  | nil => exact absurd h (splitEvenQuotes_ne_nil _ _ _)
  | cons first others ih =>
    rcases isEnclosed_or_exists hd t with hwhole | ⟨head, rest, rfl, hhead, heven⟩
    · rw [splitOutsideQuotes_of_isEnclosed hd hwhole] at h
      obtain ⟨rfl, rfl⟩ := List.cons.inj h
      exact isCutOutside_singleton_iff.2 ⟨rfl, hwhole⟩
    · rw [splitOutsideQuotes_append hd hhead heven] at h
      obtain ⟨rfl, hrest⟩ := List.cons.inj h
      have hothers : others ≠ [] := hrest ▸ splitEvenQuotes_ne_nil _ _ _
      exact (isCutOutside_cons_iff hd hothers).2 ⟨rest, rfl, hhead, heven, ih hrest⟩

/-- The text and the places of its cuts leave no choice for the pieces. -/
theorem IsCutOutside.splitOutsideQuotes_eq (hd : d ≠ '"') (h : IsCutOutside d t pieces) :
    splitOutsideQuotes d t = pieces := by
  induction pieces generalizing t with
  | nil => exact absurd rfl h.ne_nil
  | cons first others ih =>
    by_cases hothers : others = []
    · subst hothers
      obtain ⟨rfl, hwhole⟩ := isCutOutside_singleton_iff.1 h
      exact splitOutsideQuotes_of_isEnclosed hd hwhole
    · obtain ⟨rest, rfl, hfirst, heven, hrest⟩ := (isCutOutside_cons_iff hd hothers).1 h
      rw [splitOutsideQuotes_append hd hfirst heven, ih hrest]

end Cuts

section Scan

/-- A text that is being cut from left to right: the pieces behind which a cut was made, the
piece that is being read, and the number of double quotes that are still to be read. -/
structure Scan where
  closed : List Text
  current : Text
  quotesAhead : Nat

namespace Scan

variable {s : Scan} {c : Char} {t before after : Text}

def start (t : Text) : Scan :=
  ⟨[], [], t.count '"'⟩

/-- Read one character. A double quote is one less to come, and a delimiter ends a piece when
the number of double quotes to come is even. -/
def step (d : Char) (s : Scan) (c : Char) : Scan :=
  if c = '"' then ⟨s.closed, s.current ++ [c], s.quotesAhead - 1⟩
  else if c = d ∧ s.quotesAhead % 2 = 0 then ⟨s.closed ++ [s.current], [], s.quotesAhead⟩
  else ⟨s.closed, s.current ++ [c], s.quotesAhead⟩

/-- Where the scan of `t` is when it has read `before`. -/
def behind (d : Char) (t before : Text) : Scan :=
  before.foldl (step d) (start t)

def pieces (s : Scan) : List Text :=
  s.closed ++ [s.current]

/-- The pieces of what a scan has still to read go on where the scan is. -/
theorem pieces_foldl (d : Char) (s : Scan) (rest : Text) :
    (rest.foldl (step d) s).pieces =
      s.closed ++ (splitEvenQuotes d s.quotesAhead rest).modifyHead (s.current ++ ·) := by
  induction rest generalizing s with
  | nil => simp [pieces, splitEvenQuotes]
  | cons c rest ih =>
    rw [List.foldl_cons, ih, step, splitEvenQuotes]
    split
    · simp [Function.comp_def]
    · split
      · cases splitEvenQuotes d s.quotesAhead rest <;> simp
      · simp [Function.comp_def]

/-- Reading a text to its end splits it. -/
theorem pieces_behind (d : Char) (t : Text) : (behind d t t).pieces = splitOutsideQuotes d t := by
  rw [behind, pieces_foldl]
  cases hsplit : splitEvenQuotes d (start t).quotesAhead t <;> simp_all [start, splitOutsideQuotes]

/-- A counter that is right for what is left to read stays so. -/
theorem quotesAhead_step (d : Char) (h : s.quotesAhead = (c :: after).count '"') :
    (s.step d c).quotesAhead = after.count '"' := by
  rw [step]
  split
  · next hc =>
    rw [hc, List.count_cons_self] at h
    exact Nat.sub_eq_of_eq_add h
  · next hc =>
    rw [List.count_cons_of_ne hc] at h
    split <;> exact h

theorem quotesAhead_foldl (d : Char) (h : s.quotesAhead = (before ++ after).count '"') :
    (before.foldl (step d) s).quotesAhead = after.count '"' := by
  induction before generalizing s with
  | nil => exact h
  | cons c before ih => exact ih (quotesAhead_step d h)

/-- At every point of a text the counter is the number of double quotes that are left. -/
theorem quotesAhead_behind (d : Char) (h : before ++ after = t) :
    (behind d t before).quotesAhead = after.count '"' :=
  quotesAhead_foldl d (congrArg (List.count '"') h.symm)

end Scan

end Scan

/-- With the double quote as its delimiter a text is not cut. -/
theorem splitOutsideQuotes_quote (t : Text) : splitOutsideQuotes '"' t = [t] := by
  rw [splitOutsideQuotes]
  generalize t.count '"' = quotesAhead
  induction t generalizing quotesAhead with
  | nil => rfl
  | cons c t ih =>
    rw [splitEvenQuotes, ih, ih]
    by_cases hc : c = '"' <;> simp [hc]

/-- Splitting gives the only pieces that make up the text with cuts exactly at the delimiters
that have an even number of double quotes behind them. The number before such a delimiter is
even or odd as that of the whole text is. A scan from the left comes to the same pieces, and its
counter is at every point the number of double quotes left, so it is not zero when one is read.
The double quote itself is no place for a cut. -/
theorem splitOutsideQuotes_eq_iff (d : Char) (t : Text) :
    (d ≠ '"' →
      (∀ pieces, splitOutsideQuotes d t = pieces ↔ IsCutOutside d t pieces) ∧
      ∀ before after, before ++ d :: after = t →
        (after.count '"' % 2 = 0 ↔ before.count '"' % 2 = t.count '"' % 2)) ∧
    (Scan.behind d t t).pieces = splitOutsideQuotes d t ∧
    (∀ before after, before ++ after = t →
      (Scan.behind d t before).quotesAhead = after.count '"' ∧
      (after.head? = some '"' → 0 < (Scan.behind d t before).quotesAhead)) ∧
    splitOutsideQuotes '"' t = [t] := by
  refine ⟨fun hd => ⟨fun pieces => ?_, ?_⟩, Scan.pieces_behind d t, ?_, splitOutsideQuotes_quote t⟩
  · exact ⟨.of_splitOutsideQuotes hd, fun h => h.splitOutsideQuotes_eq hd⟩
  · rintro before after rfl
    rw [List.count_append, List.count_cons_of_ne hd]
    omega
  · intro before after hplace
    have hcounter := Scan.quotesAhead_behind d hplace
    refine ⟨hcounter, fun hquote => ?_⟩
    rw [hcounter, List.count_pos_iff]
    exact List.mem_of_head? hquote

/-- A semicolon is a cut behind a quote that is not closed, and no cut before it. -/
theorem splitOutsideQuotes_eq_iff_unclosed :
    ';' ≠ '"' ∧ "a;\"b".toList ++ ';' :: "c".toList = "a;\"b;c".toList ∧
      "a;".toList ++ "\"b;c".toList = "a;\"b;c".toList ∧
      IsCutOutside ';' "a;\"b;c".toList ["a;\"b".toList, "c".toList] ∧
      "a;\"b".toList.count '"' % 2 = "a;\"b;c".toList.count '"' % 2 ∧
      0 < (Scan.behind ';' "a;\"b;c".toList "a;".toList).quotesAhead ∧
      splitOutsideQuotes '"' "a;\"b;c".toList = ["a;\"b;c".toList] := by
  have hsemicolon : ';' ≠ '"' := by decide
  have hcut : "a;\"b".toList ++ ';' :: "c".toList = "a;\"b;c".toList := by decide
  have hquote : "a;".toList ++ "\"b;c".toList = "a;\"b;c".toList := by decide
  obtain ⟨houtside, -, hcounter, hquoted⟩ := splitOutsideQuotes_eq_iff ';' "a;\"b;c".toList
  obtain ⟨hpieces, hparity⟩ := houtside hsemicolon
  exact ⟨hsemicolon, hcut, hquote, (hpieces _).1 (by decide), (hparity _ _ hcut).1 (by decide),
    (hcounter _ _ hquote).2 rfl, hquoted⟩

end FilterDialects.Text
