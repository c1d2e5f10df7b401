import FilterDialects.Proofs.Scriptlet.Elements

/-!
# Statements, written and read

A snippet is written as statements with a semicolon and a space in between, and each of
these as words with single spaces. It is cut at every semicolon that is followed by an even
number of double quotes, whether or not they have a backslash, while the words of a statement
are read with their backslashes.

So the statements come back exactly when each of them but the first has an even number of
double quotes, and every semicolon inside of one is followed by an odd number of them there.
That is so when no quoted word has quotes inside.
-/

namespace FilterDialects.ScriptletRule

/-- A statement of a snippet, as a row of words. -/
structure Statement where
  name : Text
  args : List Text
  isWord : ∀ word ∈ name :: args, Text.IsWord word
  /-- A bare word has no semicolon. -/
  bare : ∀ word ∈ name :: args, ';' ∈ word → '"' ∈ word
  /-- No word has the character that masks start with. -/
  hash : ∀ word ∈ name :: args, '#' ∉ word

namespace Statement

def words (statement : Statement) : List Text :=
  statement.name :: statement.args

def text (statement : Statement) : Text :=
  [' '].intercalate statement.words

def rule (domains : Text) (isException : Bool) (statement : Statement) : ScriptletRule :=
  ⟨domains, isException, Text.stripQuotes statement.name, statement.args⟩

def body (statements : List Statement) : Text :=
  "; ".toList.intercalate (statements.map text)

def snippet (domains : Text) (isException : Bool) (statements : List Statement) : Text :=
  domains ++ (Mask.abp isException ++ body statements)

variable {domains lead piece rest : Text} {isException : Bool}
variable {statement first second : Statement} {statements others : List Statement}

section Text

theorem splitSentence_text (statement : Statement) :
    Text.splitSentence statement.text = statement.words :=
  Text.splitSentence_intercalate statement.isWord

/-- A statement has no characters but those of its words and blanks. -/
theorem count_text {c : Char} (hc : Text.isBlank c = false) (statement : Statement) :
    statement.text.count c = statement.words.flatten.count c := by
  rw [← splitSentence_text, Text.count_flatten_splitSentence hc]

theorem hash_notMem_text (statement : Statement) : '#' ∉ statement.text := by
  rw [← List.count_eq_zero, count_text (by decide), List.count_eq_zero, List.mem_flatten]
  rintro ⟨word, hmem, hin⟩
  exact statement.hash word hmem hin

/-- A statement starts with its first word, and so with neither a blank nor a semicolon. -/
theorem exists_text_eq_cons (statement : Statement) :
    ∃ c after, statement.text = c :: after ∧ Text.isBlank c = false ∧ c ≠ ';' := by
  have hstart : statement.name <+: statement.text := by
    cases hargs : statement.args with
    | nil => simp [text, words, hargs]
    | cons arg args => simp [text, words, hargs]
  have hword := statement.isWord statement.name List.mem_cons_self
  obtain ⟨c, word, hname, hblank⟩ := hword.exists_cons
  obtain ⟨after, hafter⟩ := hstart
  refine ⟨c, word ++ after, by rw [← hafter, hname, List.cons_append], hblank, ?_⟩
  rintro rfl
  have hquote := statement.bare statement.name List.mem_cons_self (by simp [hname])
  generalize statement.name = name at hword hname hquote
  cases hword with
  | bare hne hplain => exact absurd (hplain _ hquote).2 (by decide)
  | quoted hbody => simp at hname

theorem ofStatement?_text (hlead : ∀ c ∈ lead, Text.isBlank c = true) (statement : Statement) :
    ofStatement? domains isException (lead ++ statement.text) =
      some (statement.rule domains isException) := by
  rw [ofStatement?, Text.splitSentence_append_of_blank hlead, splitSentence_text, words]
  rfl

theorem count_of_ofStatement?
    (h : ofStatement? domains isException piece = some (statement.rule domains isException)) :
    piece.count ';' = statement.text.count ';' := by
  obtain ⟨name, args, hwords, hrule⟩ := ofStatement?_eq_some_iff.1 h
  obtain ⟨-, -, hname, rfl⟩ : domains = domains ∧ isException = isException ∧
      Text.stripQuotes name = Text.stripQuotes statement.name ∧ args = statement.args := by
    simpa [rule] using hrule
  rw [← Text.count_flatten_splitSentence (by decide), count_text (by decide), hwords, words,
    List.flatten_cons, List.flatten_cons, List.count_append, List.count_append,
    ← Text.count_stripQuotes (by decide) name, hname, Text.count_stripQuotes (by decide)]

theorem ofStatement?_ne_none {c : Char} (hc : c ∈ piece) (hblank : Text.isBlank c = false) :
    ofStatement? domains isException piece ≠ none := by
  rw [Ne, ofStatement?_eq_none_iff]
  intro hall
  simp [hall c hc] at hblank

end Text

section Body

theorem body_cons_cons (first second : Statement) (others : List Statement) :
    body (first :: second :: others) = first.text ++ ';' :: ([' '] ++ body (second :: others)) := by
  rw [body, List.map_cons, List.map_cons, List.intercalate_cons_cons, List.append_assoc]
  rfl

theorem body_singleton (first : Statement) : body [first] = first.text := by
  simp [body]

/-- A snippet has the characters of its statements but for blanks and semicolons. -/
theorem count_body_cons {c : Char} (hc : c ≠ ';') (hspace : c ≠ ' ') (first : Statement)
    (others : List Statement) :
    (body (first :: others)).count c = first.text.count c + (body others).count c := by
  cases others with
  | nil => simp [body]
  | cons second others => simp [body_cons_cons, hc.symm, hspace.symm]

theorem hash_notMem_body (statements : List Statement) : '#' ∉ body statements := by
  rw [← List.count_eq_zero]
  induction statements with
  | nil => rfl
  | cons first others ih =>
    rw [count_body_cons (by decide) (by decide), ih, List.count_eq_zero.2 first.hash_notMem_text]

theorem even_body (h : ∀ statement ∈ statements, statement.text.count '"' % 2 = 0) :
    (body statements).count '"' % 2 = 0 := by
  induction statements with
  | nil => rfl
  | cons first others ih =>
    have hfirst := h first List.mem_cons_self
    have hothers := ih fun statement hmem => h statement (List.mem_cons_of_mem first hmem)
    rw [count_body_cons (by decide) (by decide)]
    omega

end Body

section Split

def readAll (domains : Text) (isException : Bool) (t : Text) : List ScriptletRule :=
  (Text.splitOutsideQuotes ';' t).filterMap (ofStatement? domains isException)

/-- Every separator is a cut, and nothing else is: each statement but the first has an even
number of double quotes, and the semicolons of each are between quotes. -/
structure IsSeparated (first : Statement) (others : List Statement) : Prop where
  even : ∀ statement ∈ others, statement.text.count '"' % 2 = 0
  enclosed : ∀ statement ∈ first :: others, Text.IsEnclosed ';' statement.text

theorem isSeparated_singleton : IsSeparated first [] ↔ Text.IsEnclosed ';' first.text := by
  constructor
  · exact fun h => h.enclosed first List.mem_cons_self
  · exact fun h => ⟨by simp, by simpa using h⟩

theorem isSeparated_cons :
    IsSeparated first (second :: others) ↔
      Text.IsEnclosed ';' first.text ∧ (body (second :: others)).count '"' % 2 = 0 ∧
        IsSeparated second others := by
  constructor
  · intro h
    refine ⟨h.enclosed first List.mem_cons_self, even_body h.even, ?_, ?_⟩
    · exact fun statement hmem => h.even statement (List.mem_cons_of_mem second hmem)
    · exact fun statement hmem => h.enclosed statement (List.mem_cons_of_mem first hmem)
  · rintro ⟨hfirst, heven, hothers⟩
    constructor
    · intro statement hmem
      rcases List.mem_cons.1 hmem with rfl | hmem
      · have hlater := even_body hothers.even
        rw [count_body_cons (by decide) (by decide)] at heven
        omega
      · exact hothers.even statement hmem
    · intro statement hmem
      rcases List.mem_cons.1 hmem with rfl | hmem
      · exact hfirst
      · exact hothers.enclosed statement hmem

theorem notMem_of_blank {c : Char} (hc : Text.isBlank c = false)
    (hlead : ∀ c ∈ lead, Text.isBlank c = true) : c ∉ lead := by
  intro hmem
  have hblank := hlead c hmem
  simp [hc] at hblank

/-- Behind blanks a snippet is cut at its first separator, if that is outside of quotes. -/
theorem splitOutsideQuotes_body (hlead : ∀ c ∈ lead, Text.isBlank c = true)
    (hfirst : Text.IsEnclosed ';' first.text)
    (heven : (body (second :: others)).count '"' % 2 = 0) :
    Text.splitOutsideQuotes ';' (lead ++ body (first :: second :: others)) =
      (lead ++ first.text) :: Text.splitOutsideQuotes ';' ([' '] ++ body (second :: others)) := by
  rw [body_cons_cons, ← List.append_assoc]
  apply Text.splitOutsideQuotes_append (by decide)
  · exact (Text.isEnclosed_append_iff (notMem_of_blank (by decide) hlead)).2 hfirst
  · simpa using heven

theorem readAll_of_isSeparated (hlead : ∀ c ∈ lead, Text.isBlank c = true)
    (h : IsSeparated first others) :
    readAll domains isException (lead ++ body (first :: others)) =
      (first :: others).map (rule domains isException) := by
  -- the space behind a separator is left in front of the next statement
  induction others generalizing first lead with
  | nil =>
    have hwhole : Text.IsEnclosed ';' (lead ++ first.text) :=
      (Text.isEnclosed_append_iff (notMem_of_blank (by decide) hlead)).2
        (isSeparated_singleton.1 h)
    rw [readAll, body_singleton, Text.splitOutsideQuotes_of_isEnclosed (by decide) hwhole,
      List.filterMap_cons_some (ofStatement?_text hlead first)]
    rfl
  | cons second others ih =>
    obtain ⟨hfirst, heven, hothers⟩ := isSeparated_cons.1 h
    have hlater := ih Text.isBlank_of_mem_space hothers
    rw [readAll, splitOutsideQuotes_body hlead hfirst heven,
      List.filterMap_cons_some (ofStatement?_text hlead first), ← readAll, hlater]
    rfl

/-- A piece that is cut off is read as the first statement only if it ends where that does. -/
theorem count_of_readAll {after : Text} {pieces : List Text} {rules : List ScriptletRule}
    (hlead : ∀ c ∈ lead, Text.isBlank c = true)
    (hplace : lead ++ (first.text ++ after) = piece ++ ';' :: rest)
    (h : (piece :: pieces).filterMap (ofStatement? domains isException) =
      first.rule domains isException :: rules) :
    piece.count ';' = first.text.count ';' ∧
      pieces.filterMap (ofStatement? domains isException) = rules := by
  obtain ⟨c, word, htext, hblank, hc⟩ := first.exists_text_eq_cons
  have hmem : c ∈ piece := by
    rw [htext, List.cons_append] at hplace
    rcases Text.append_cons_cases hplace with ⟨mid, rfl, -⟩ | ⟨-, rfl, -⟩ | ⟨mid, rfl, -⟩
    · simp
    · exact absurd rfl hc
    · have hsemicolon : ';' ∉ piece ++ ';' :: mid := notMem_of_blank (by decide) hlead
      simp at hsemicolon
  obtain ⟨found, hfound⟩ := Option.ne_none_iff_exists'.1
    (@ofStatement?_ne_none domains piece isException c hmem hblank)
  rw [List.filterMap_cons_some hfound] at h
  obtain ⟨rfl, hrules⟩ := List.cons.inj h
  exact ⟨count_of_ofStatement? hfound, hrules⟩

/-- Statements that are read back are separated: cuts that are made elsewhere would leave a
rule with other semicolons than its statement has. -/
theorem isSeparated_of_readAll (hlead : ∀ c ∈ lead, Text.isBlank c = true)
    (h : readAll domains isException (lead ++ body (first :: others)) =
      (first :: others).map (rule domains isException)) : IsSeparated first others := by
  rw [readAll] at h
  induction others generalizing first lead with
  | nil =>
    have hblanks : ';' ∉ lead := notMem_of_blank (by decide) hlead
    rw [body_singleton] at h
    rw [isSeparated_singleton, ← Text.isEnclosed_append_iff hblanks]
    rcases Text.isEnclosed_or_exists (show ';' ≠ '"' by decide) (lead ++ first.text) with
      hwhole | ⟨piece, rest, hplace, hpiece, heven⟩
    · exact hwhole
    · rw [hplace, Text.splitOutsideQuotes_append (by decide) hpiece heven] at h
      rw [← List.append_nil first.text] at hplace
      obtain ⟨hcount, -⟩ := count_of_readAll hlead hplace h
      have hall := congrArg (List.count ';') hplace
      simp [List.count_eq_zero.2 hblanks] at hall
      omega
  | cons second others ih =>
    have hblanks : ';' ∉ lead := notMem_of_blank (by decide) hlead
    rw [isSeparated_cons]
    rcases Text.isEnclosed_or_exists (show ';' ≠ '"' by decide)
        (lead ++ body (first :: second :: others)) with
      hwhole | ⟨piece, rest, hplace, hpiece, heven⟩
    · -- without a cut there is one rule at most
      rw [Text.splitOutsideQuotes_of_isEnclosed (by decide) hwhole] at h
      have hlength := List.length_filterMap_le (ofStatement? domains isException)
        [lead ++ body (first :: second :: others)]
      simp [h] at hlength
    · rw [hplace, Text.splitOutsideQuotes_append (by decide) hpiece heven] at h
      rw [body_cons_cons] at hplace
      obtain ⟨hcount, hlater⟩ := count_of_readAll hlead hplace h
      rw [← List.append_assoc] at hplace
      rcases Text.append_cons_cases hplace with ⟨mid, rfl, -⟩ | ⟨rfl, -, rfl⟩ | ⟨mid, hmid, -⟩
      · simp at hcount
        omega
      · exact ⟨(Text.isEnclosed_append_iff hblanks).1 hpiece, by simpa using heven,
          ih Text.isBlank_of_mem_space hlater⟩
      · have hall := congrArg (List.count ';') hmid
        simp [List.count_eq_zero.2 hblanks] at hall
        omega

end Split

section Quotes

/-- Between the only two double quotes of a word all semicolons are enclosed. -/
theorem isEnclosed_quoted {inner : Text} (h : '"' ∉ inner) :
    Text.IsEnclosed ';' ('"' :: (inner ++ ['"'])) := by
  rw [Text.isEnclosed_cons]
  refine ⟨by simp, ?_⟩
  intro before after hplace
  rcases Text.append_cons_cases hplace with ⟨mid, -, hend⟩ | ⟨-, hc, -⟩ | ⟨mid, rfl, rfl⟩
  · simp at hend
  · exact absurd hc (by decide)
  · have hmid : '"' ∉ mid := fun hmem => h (by simp [hmem])
    simp [List.count_eq_zero.2 hmid]

/-- A word without quotes inside keeps its semicolons enclosed and its quotes in pairs. -/
theorem isEnclosed_word {word : Text} (hword : Text.IsWord word) (hbare : ';' ∈ word → '"' ∈ word)
    (hplain : word.count '"' ≤ 2) : Text.IsEnclosed ';' word ∧ word.count '"' % 2 = 0 := by
  cases hword with
  | bare hne h =>
    have hquote : '"' ∉ word := fun hmem => absurd (h _ hmem).2 (by decide)
    refine ⟨Text.isEnclosed_of_notMem fun hmem => hquote (hbare hmem), ?_⟩
    rw [List.count_eq_zero.2 hquote]
  | @quoted inner h =>
    have hquote : '"' ∉ inner := by
      rw [← List.count_eq_zero]
      simpa using hplain
    refine ⟨isEnclosed_quoted hquote, ?_⟩
    simp [List.count_eq_zero.2 hquote]

theorem isSeparated_of_count
    (h : ∀ statement ∈ first :: others, ∀ word ∈ statement.words, word.count '"' ≤ 2) :
    IsSeparated first others := by
  have htext : ∀ statement ∈ first :: others,
      Text.IsEnclosed ';' statement.text ∧ statement.text.count '"' % 2 = 0 := by
    intro statement hmem
    refine Text.isEnclosed_intercalate (by decide) (by decide) fun word hword => ?_
    exact isEnclosed_word (statement.isWord word hword) (statement.bare word hword)
      (h statement hmem word hword)
  constructor
  · exact fun statement hmem => (htext statement (List.mem_cons_of_mem first hmem)).2
  · exact fun statement hmem => (htext statement hmem).1

end Quotes

end Statement

open Statement

/-- The statements of a snippet are read back, in order and with exactly their words, if and
only if its separators are the semicolons with an even number of double quotes behind them.
That is so when no word has double quotes between its quotes. -/
theorem parseAbp_snippet_iff {domains : Text} (hdomains : '#' ∉ domains) (isException : Bool)
    (first : Statement) (others : List Statement) :
    (parseAbp (snippet domains isException (first :: others)) =
        .ok ((first :: others).map (rule domains isException)) ↔
      IsSeparated first others) ∧
    ((∀ statement ∈ first :: others, ∀ word ∈ statement.words, word.count '"' ≤ 2) →
      IsSeparated first others) := by
  refine ⟨?_, isSeparated_of_count⟩
  have hcut := Mask.cut?_abp_append hdomains (hash_notMem_body (first :: others)) isException
  have hlead : ∀ c ∈ ([] : Text), Text.isBlank c = true := by simp
  constructor
  · intro h
    obtain ⟨cut, hcut', -, hrules⟩ := parseAbp_eq_ok.1 h
    obtain rfl := Option.some.inj (hcut.symm.trans hcut')
    exact isSeparated_of_readAll hlead hrules
  · intro h
    exact parseAbp_eq_ok.2 ⟨_, hcut, by simp, readAll_of_isSeparated hlead h⟩

def Statement.log {inner : Text} (hinner : Text.IsQuotedBody inner) (hhash : '#' ∉ inner) :
    Statement where
  name := "log".toList
  args := ['"' :: (inner ++ ['"'])]
  isWord := by
    intro word hmem
    rcases List.mem_pair.1 hmem with rfl | rfl
    · exact .bare (by decide) (by simp; decide)
    · exact .quoted hinner
  bare := by
    intro word hmem hsemicolon
    rcases List.mem_pair.1 hmem with rfl | rfl
    · exact absurd hsemicolon (by decide)
    · exact List.mem_cons_self
  hash := by
    intro word hmem
    rcases List.mem_pair.1 hmem with rfl | rfl
    · decide
    · simpa using hhash

/-- A semicolon between quotes stays in its argument. -/
theorem parseAbp_snippet_quoted :
    '#' ∉ "a.org".toList ∧
      parseAbp "a.org#@$#log \"a;b\"; log \"\"".toList =
        .ok [⟨"a.org".toList, true, "log".toList, ["\"a;b\"".toList]⟩,
          ⟨"a.org".toList, true, "log".toList, ["\"\"".toList]⟩] := by
  have hinner : Text.IsQuotedBody "a;b".toList :=
    .plain (by decide) (by decide) (.plain (by decide) (by decide)
      (.plain (by decide) (by decide) .nil))
  have hdomains : '#' ∉ "a.org".toList := by decide
  obtain ⟨hiff, hplain⟩ := parseAbp_snippet_iff hdomains true (log hinner (by decide))
    [log .nil (by decide)]
  exact ⟨hdomains, hiff.2 (hplain (by simp [words, log]))⟩

/-- A semicolon between quotes cuts its argument when an escaped quote stands behind it. -/
theorem exists_parseAbp_snippet_ne :
    ∃ statement : Statement,
      statement.words = ["log".toList, "\"a;b\\\"c\"".toList] ∧
        snippet "example.org".toList false [statement] =
          "example.org#$#log \"a;b\\\"c\"".toList ∧
        parseAbp "example.org#$#log \"a;b\\\"c\"".toList =
          .ok [⟨"example.org".toList, false, "log".toList, ["\"a".toList]⟩,
            ⟨"example.org".toList, false, "b\\\"c\"".toList, []⟩] ∧
        parseAbp (snippet "example.org".toList false [statement]) ≠
          .ok ([statement].map (rule "example.org".toList false)) := by
  have hinner : Text.IsQuotedBody "a;b\\\"c".toList :=
    .plain (by decide) (by decide) (.plain (by decide) (by decide)
      (.plain (by decide) (by decide) (.escape (by decide)
        (.plain (by decide) (by decide) .nil))))
  have hread : parseAbp "example.org#$#log \"a;b\\\"c\"".toList =
      .ok [⟨"example.org".toList, false, "log".toList, ["\"a".toList]⟩,
        ⟨"example.org".toList, false, "b\\\"c\"".toList, []⟩] := by
    decide +kernel
  have hsnippet : snippet "example.org".toList false [log hinner (by decide)] =
      "example.org#$#log \"a;b\\\"c\"".toList := rfl
  refine ⟨log hinner (by decide), rfl, hsnippet, hread, ?_⟩
  rw [hsnippet, hread]
  simp

end FilterDialects.ScriptletRule
