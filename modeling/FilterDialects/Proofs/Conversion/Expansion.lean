import FilterDialects.Proofs.Conversion.FromAbp

/-!
# Snippets, statement by statement

What stands between the semicolons of a snippet is a statement, unless it is blank. A
converted snippet has one AdGuard rule for each of its statements, in order, and nothing else.

Whether a snippet is converted is told by the words behind the names of its statements. The
first of all these that cannot be quoted makes the whole conversion fail, whichever statement
it stands in, and then there is no rule at all.
-/

namespace FilterDialects.FromAbp

variable {rule : Text} {cut : Mask.Cut}

/-- Whether a piece of a snippet holds anything but blanks. -/
def isStatement (piece : Text) : Bool :=
  piece.any (!Text.isBlank ·)

/-- The statements of a snippet as they are written between its semicolons. -/
def statementTexts (body : Text) : List Text :=
  (Text.splitOutsideQuotes ';' body).filter isStatement

def argumentWords (piece : Text) : List Text :=
  (Text.splitSentence piece).tail

/-- A text is the AdGuard rule that spells a statement: for the domains of the snippet, with
the first word under the mark of Adblock Plus as name and all other words as arguments. -/
def Spells (cut : Mask.Cut) (piece out : Text) : Prop :=
  ∃ name args, Text.splitSentence piece = name :: args ∧
    out = ScriptletRule.toAdg
      ⟨cut.domains, cut.isException, "abp-".toList ++ Text.stripQuotes name, args⟩

/-- A rule is what a statement is read as. -/
def IsReading (cut : Mask.Cut) (piece : Text) (statement : ScriptletRule) : Prop :=
  ScriptletRule.ofStatement? cut.domains cut.isException piece = some statement

def readStatements (cut : Mask.Cut) : List ScriptletRule :=
  (Text.splitOutsideQuotes ';' cut.body).filterMap
    (ScriptletRule.ofStatement? cut.domains cut.isException)

section Statements

theorem isSome_ofStatement? (domains : Text) (isException : Bool) (piece : Text) :
    (ScriptletRule.ofStatement? domains isException piece).isSome = isStatement piece := by
  rw [Bool.eq_iff_iff, Option.isSome_iff_ne_none, Ne, ScriptletRule.ofStatement?_eq_none_iff]
  simp [isStatement]

/-- Statements are read one by one, and blank pieces leave nothing behind. -/
theorem forall₂_isReading_filterMap (cut : Mask.Cut) (pieces : List Text) :
    List.Forall₂ (IsReading cut) (pieces.filter isStatement)
      (pieces.filterMap (ScriptletRule.ofStatement? cut.domains cut.isException)) := by
  induction pieces with
  | nil => exact .nil
  | cons piece pieces ih =>
    have hsome := isSome_ofStatement? cut.domains cut.isException piece
    cases hread : ScriptletRule.ofStatement? cut.domains cut.isException piece with
    | none =>
      have hblank : ¬ isStatement piece = true := by simp [← hsome, hread]
      rw [List.filter_cons_of_neg hblank, List.filterMap_cons_none hread]
      exact ih
    | some statement =>
      have hwords : isStatement piece = true := by simp [← hsome, hread]
      rw [List.filter_cons_of_pos hwords, List.filterMap_cons_some hread]
      exact .cons hread ih

theorem forall₂_isReading (cut : Mask.Cut) :
    List.Forall₂ (IsReading cut) (statementTexts cut.body) (readStatements cut) :=
  forall₂_isReading_filterMap cut _

theorem readStatements_eq_nil_iff : readStatements cut = [] ↔ statementTexts cut.body = [] := by
  have hread := forall₂_isReading cut
  constructor
  · intro h
    rw [h] at hread
    exact List.forall₂_nil_right_iff.1 hread
  · intro h
    rw [h] at hread
    exact List.forall₂_nil_left_iff.1 hread

theorem flatMap_args_of_isReading {pieces : List Text} {statements : List ScriptletRule}
    (h : List.Forall₂ (IsReading cut) pieces statements) :
    statements.flatMap ScriptletRule.args = pieces.flatMap argumentWords := by
  induction h with
  | nil => rfl
  | cons hread _ ih =>
    obtain ⟨name, args, hwords, rfl⟩ := ScriptletRule.ofStatement?_eq_some_iff.1 hread
    rw [List.flatMap_cons, List.flatMap_cons, ih, argumentWords, hwords, List.tail_cons]

/-- The AdGuard form of a rule spells the statement that it was read from. -/
theorem forall₂_spells (cut : Mask.Cut) :
    List.Forall₂ (Spells cut) (statementTexts cut.body)
      ((readStatements cut).map fun statement => (adgForm statement).toAdg) := by
  rw [List.forall₂_map_right_iff]
  refine (forall₂_isReading cut).imp ?_
  intro piece statement hread
  obtain ⟨name, args, hwords, rfl⟩ := ScriptletRule.ofStatement?_eq_some_iff.1 hread
  exact ⟨name, args, hwords, rfl⟩

end Statements

section Conversion

theorem abpSnippetToAdg_of_nil (hcomment : Mask.isComment rule = false)
    (hcut : Mask.cut? Mask.abp rule = some cut) (hnone : readStatements cut = []) :
    abpSnippetToAdg rule = .error (.malformed .emptySnippet) := by
  rw [abpSnippetToAdg, hcomment, if_neg Bool.false_ne_true,
    ScriptletRule.parseAbp_eq_error hcut hnone]
  rfl

/-- A snippet with statements is converted when all their arguments can be quoted. -/
theorem abpSnippetToAdg_of_ne_nil (hcomment : Mask.isComment rule = false)
    (hcut : Mask.cut? Mask.abp rule = some cut) (hne : readStatements cut ≠ []) :
    abpSnippetToAdg rule = ConversionError.ofSyntax
      ((checkAllQuotable ((readStatements cut).flatMap ScriptletRule.args)).map fun _ =>
        (readStatements cut).map fun statement => (adgForm statement).toAdg) := by
  have hparsed : ScriptletRule.parseAbp rule = .ok (readStatements cut) :=
    ScriptletRule.parseAbp_eq_ok.2 ⟨cut, hcut, hne, rfl⟩
  rw [abpSnippetToAdg, hcomment, if_neg Bool.false_ne_true, hparsed]
  show ConversionError.ofSyntax ((convertAll (readStatements cut)).map _) = _
  rw [convertAll_eq]
  cases checkAllQuotable ((readStatements cut).flatMap ScriptletRule.args) with
  | error fault => rfl
  | ok => exact congrArg Except.ok List.map_map

end Conversion

/-- A snippet without statements is refused. One with statements is refused for the first
word behind a name that cannot be quoted; if there is none, the result is one AdGuard rule
for each statement, in order. -/
theorem abpSnippetToAdg_of_cut (hcomment : Mask.isComment rule = false)
    (hcut : Mask.cut? Mask.abp rule = some cut) :
    (statementTexts cut.body = [] →
      abpSnippetToAdg rule = .error (.malformed .emptySnippet)) ∧
    (∀ word, ((statementTexts cut.body).flatMap argumentWords).find? (!Text.isQuotable ·) =
        some word →
      abpSnippetToAdg rule = .error (.malformed (.trailingBackslash word))) ∧
    (statementTexts cut.body ≠ [] →
      (∀ piece ∈ statementTexts cut.body, ∀ word ∈ argumentWords piece,
        Text.isQuotable word = true) →
      ∃ outs, abpSnippetToAdg rule = .ok outs ∧
        List.Forall₂ (Spells cut) (statementTexts cut.body) outs) := by
  refine ⟨?_, ?_, ?_⟩
  · intro hnone
    exact abpSnippetToAdg_of_nil hcomment hcut (readStatements_eq_nil_iff.2 hnone)
  · intro word hword
    have hne : readStatements cut ≠ [] := by
      intro hnone
      rw [readStatements_eq_nil_iff.1 hnone] at hword
      contradiction
    have hchecked : checkAllQuotable ((readStatements cut).flatMap ScriptletRule.args) =
        .error (.trailingBackslash word) := by
      rw [flatMap_args_of_isReading (forall₂_isReading cut)]
      exact checkAllQuotable_eq_error.2 ⟨word, hword, rfl⟩
    rw [abpSnippetToAdg_of_ne_nil hcomment hcut hne, hchecked]
    rfl
  · intro hne hquotable
    have hchecked : checkAllQuotable ((readStatements cut).flatMap ScriptletRule.args) =
        .ok () := by
      rw [flatMap_args_of_isReading (forall₂_isReading cut)]
      exact checkAllQuotable_eq_ok.2 (List.forall_mem_flatMap.2 hquotable)
    refine ⟨_, ?_, forall₂_spells cut⟩
    rw [abpSnippetToAdg_of_ne_nil hcomment hcut (mt readStatements_eq_nil_iff.1 hne), hchecked]
    rfl

/-- A blank piece between two statements vanishes, a semicolon between quotes is no separator,
and of two words that end in a backslash the first is reported. -/
theorem abpSnippetToAdg_of_cut_blank :
    abpSnippetToAdg "a.org#@$#log 'x y'; ;trace \"a;b\"".toList =
      .ok ["a.org#@%#//scriptlet('abp-log', 'x y')".toList,
        "a.org#@%#//scriptlet('abp-trace', 'a;b')".toList] ∧
    abpSnippetToAdg "a.org#$#log; trace a b\\; log c\\".toList =
      .error (.malformed (.trailingBackslash "b\\".toList)) ∧
    abpSnippetToAdg "a.org#$# ; ".toList = .error (.malformed .emptySnippet) := by
  refine ⟨?_, ?_, ?_⟩
  · have hcut : Mask.cut? Mask.abp "a.org#@$#log 'x y'; ;trace \"a;b\"".toList =
        some ⟨"a.org".toList, true, "log 'x y'; ;trace \"a;b\"".toList⟩ := by decide
    have htexts : statementTexts "log 'x y'; ;trace \"a;b\"".toList =
        ["log 'x y'".toList, "trace \"a;b\"".toList] := by decide
    have hlog : Text.splitSentence "log 'x y'".toList = ["log".toList, "'x y'".toList] := by cbv
    have htrace : Text.splitSentence "trace \"a;b\"".toList =
        ["trace".toList, "\"a;b\"".toList] := by cbv
    obtain ⟨-, -, hconverted⟩ := abpSnippetToAdg_of_cut rfl hcut
    rw [htexts] at hconverted
    obtain ⟨outs, houts, hspells⟩ := hconverted (by simp) (by
      simp only [List.forall_mem_cons, argumentWords, hlog, htrace]
      decide)
    obtain ⟨first, others, hfirst, hothers, rfl⟩ := List.forall₂_cons_left_iff.1 hspells
    obtain ⟨second, rest, hsecond, hrest, rfl⟩ := List.forall₂_cons_left_iff.1 hothers
    obtain rfl := List.forall₂_nil_left_iff.1 hrest
    obtain ⟨name, args, hwords, rfl⟩ := hfirst
    obtain ⟨rfl, rfl⟩ := List.cons.inj (hlog.symm.trans hwords)
    obtain ⟨name, args, hwords, rfl⟩ := hsecond
    obtain ⟨rfl, rfl⟩ := List.cons.inj (htrace.symm.trans hwords)
    rw [houts]
    rfl
  · have hcut : Mask.cut? Mask.abp "a.org#$#log; trace a b\\; log c\\".toList =
        some ⟨"a.org".toList, false, "log; trace a b\\; log c\\".toList⟩ := by decide
    have hsentences : (statementTexts "log; trace a b\\; log c\\".toList).map Text.splitSentence =
        [["log".toList], ["trace".toList, "a".toList, "b\\".toList],
          ["log".toList, "c\\".toList]] := by cbv
    have hwords : (statementTexts "log; trace a b\\; log c\\".toList).flatMap argumentWords =
        ["a".toList, "b\\".toList, "c\\".toList] := by
      have hflat := congrArg (List.flatMap List.tail) hsentences
      rwa [List.flatMap_map] at hflat
    obtain ⟨-, hrefused, -⟩ := abpSnippetToAdg_of_cut rfl hcut
    rw [hwords] at hrefused
    exact hrefused _ (by decide)
  · have hcut : Mask.cut? Mask.abp "a.org#$# ; ".toList =
        some ⟨"a.org".toList, false, " ; ".toList⟩ := by decide
    exact (abpSnippetToAdg_of_cut rfl hcut).1 (by decide)

end FilterDialects.FromAbp
