import FilterDialects.Json.Reader
import FilterDialects.Json.Writer
import Mathlib.Data.List.Forall2
import Mathlib.Tactic.SplitIfs

/-!
# Written JSON is read back

A written string holds the characters of its text: each is read back from its escape, from
its code point or from itself. A string is one token wherever it stands, and so is every
bracket and separator, so the tokens of a text that is put together are those of its parts.

A text spells a value when the machine takes its tokens as that value, whatever is still
open. Arrays and objects of spelled values are spelled themselves: behind each item the
machine is where the next item or the end may follow.
-/

namespace FilterDialects.Json

variable {t : Text} {tokens : List Token} {value : Value} {stack stack' : List Frame}

section Strings

theorem digits_of_lt : ∀ n < 0x20,
    ['0', '0', Nat.digitChar (n / 16), Nat.digitChar (n % 16)].all Text.isHexDigit = true ∧
      Text.hexValue ['0', '0', Nat.digitChar (n / 16), Nat.digitChar (n % 16)] = n := by
  decide

theorem readCode?_append {digits : Text} (hlength : digits.length = 4)
    (hdigits : digits.all Text.isHexDigit = true) (t : Text) :
    readCode? (digits ++ t) = some (.ofCode (Text.hexValue digits), t) := by
  simp only [readCode?, List.take_left' hlength, List.drop_left' hlength]
  rw [if_pos ⟨hlength, hdigits⟩]

theorem ofCode_of_lt {c : Char} (h : c.toNat < 0x20) : StringUnit.ofCode c.toNat = .char c := by
  rw [StringUnit.ofCode, dif_neg (by omega), Char.ofNat_toNat]

/-- How a character is written: with the letter of its escape, with its code point, or as
it is. -/
theorem escapeChar_cases (c : Char) :
    (∃ e, e ≠ 'u' ∧ unescape? e = some c ∧ escapeChar c = ['\\', e]) ∨
      (c.toNat < 0x20 ∧ escapeChar c =
        ['\\', 'u', '0', '0', Nat.digitChar (c.toNat / 16), Nat.digitChar (c.toNat % 16)]) ∨
      (c ≠ '"' ∧ c ≠ '\\' ∧ ¬ c.toNat < 0x20 ∧ escapeChar c = [c]) := by
  unfold escapeChar
  split_ifs with hquote hbackslash hb hf hn hr ht hcontrol
  · exact .inl ⟨'"', by decide, by rw [hquote]; rfl, rfl⟩
  · exact .inl ⟨'\\', by decide, by rw [hbackslash]; rfl, rfl⟩
  · exact .inl ⟨'b', by decide, by rw [hb]; rfl, rfl⟩
  · exact .inl ⟨'f', by decide, by rw [hf]; rfl, rfl⟩
  · exact .inl ⟨'n', by decide, by rw [hn]; rfl, rfl⟩
  · exact .inl ⟨'r', by decide, by rw [hr]; rfl, rfl⟩
  · exact .inl ⟨'t', by decide, by rw [ht]; rfl, rfl⟩
  · exact .inr (.inl ⟨hcontrol, rfl⟩)
  · exact .inr (.inr ⟨hquote, hbackslash, hcontrol, rfl⟩)

theorem readString?_escapeChar (c : Char) (t : Text) :
    readString? (escapeChar c ++ t) =
      (readString? t).map fun read => (.char c :: read.1, read.2) := by
  have hescape {e : Char} {rest : Text} (hunit : readUnit? '\\' (e :: rest) = some (.char c, t)) :
      readString? ('\\' :: e :: rest) =
        (readString? t).map fun read => (.char c :: read.1, read.2) := by
    rw [readString?_cons (by decide), hunit, Option.bind_some]
  obtain ⟨e, he, hc, hwritten⟩ | ⟨hcontrol, hwritten⟩ | ⟨hquote, hbackslash, hcontrol, hwritten⟩ :=
    escapeChar_cases c
  · rw [hwritten]
    apply hescape
    simp [readUnit?, he, hc]
  · rw [hwritten]
    apply hescape
    obtain ⟨hdigits, hvalue⟩ := digits_of_lt c.toNat hcontrol
    have hcode := readCode?_append rfl hdigits t
    rwa [hvalue, ofCode_of_lt hcontrol] at hcode
  · rw [hwritten, List.singleton_append, readString?_cons hquote]
    simp [readUnit?, hbackslash, hcontrol]

theorem readString?_escaped (t rest : Text) :
    readString? (t.flatMap escapeChar ++ '"' :: rest) = some (t.map .char, rest) := by
  induction t with
  | nil => simp
  | cons c t ih =>
    rw [List.flatMap_cons, List.append_assoc, readString?_escapeChar, ih]
    rfl

end Strings

section Spelled

/-- A text spells tokens: they are read ahead of whatever follows the text. -/
def SpellsTokens (t : Text) (tokens : List Token) : Prop :=
  ∀ rest, tokens? (t ++ rest) = (tokens? rest).map (tokens ++ ·)

/-- A text spells a value: the machine takes its tokens as that value wherever a value has
to follow. -/
def Spells (t : Text) (value : Value) : Prop :=
  ∃ tokens, SpellsTokens t tokens ∧
    ∀ stack, run (.value stack) tokens = some (.done value stack)

theorem spellsTokens_nil : SpellsTokens [] [] := by
  intro rest
  simp

theorem SpellsTokens.append {t' : Text} {tokens' : List Token}
    (h : SpellsTokens t tokens) (h' : SpellsTokens t' tokens') :
    SpellsTokens (t ++ t') (tokens ++ tokens') := by
  intro rest
  rw [List.append_assoc, h, h', Option.map_map]
  simp [Function.comp_def]

/-- A character that is a token of its own. -/
theorem SpellsTokens.cons {c : Char} {token : Token}
    (hspace : isSpace c = false) (hc : ∀ rest, readToken? c rest = some (token, rest))
    (h : SpellsTokens t tokens) : SpellsTokens (c :: t) (token :: tokens) := by
  intro rest
  rw [List.cons_append, tokens?_cons hspace, hc, Option.bind_some, h, Option.map_map]
  rfl

theorem spellsTokens_writeText (t : Text) : SpellsTokens (writeText t) [.string (t.map .char)] := by
  intro rest
  have hread : readToken? '"' (t.flatMap escapeChar ++ '"' :: rest) =
      some (.string (t.map .char), rest) := by
    show (readString? _).map _ = _
    rw [readString?_escaped]
    rfl
  have hwritten : writeText t ++ rest = '"' :: (t.flatMap escapeChar ++ '"' :: rest) := by
    simp [writeText]
  rw [hwritten, tokens?_cons rfl, hread]
  rfl

theorem spells_writeText (t : Text) : Spells (writeText t) (.string (t.map .char)) :=
  ⟨_, spellsTokens_writeText t, fun _ => rfl⟩

/-- Quotes, backslashes and control characters are escaped, other characters are not. -/
example : writeText "a\"\\\n\x0f😀".toList = "\"a\\\"\\\\\\n\\u000f😀\"".toList := by decide

theorem parse?_of_spells (h : Spells t value) : parse? t = some value := by
  obtain ⟨tokens, htokens, hrun⟩ := h
  have hwhole := htokens []
  rw [List.append_nil, tokens?_nil, Option.map_some, List.append_nil] at hwhole
  rw [parse?, hwhole, Option.bind_some, hrun]
  rfl

theorem run_firstElement
    (h : run (.value (.array [] :: stack)) tokens = some (.done value stack')) :
    run (.firstElement stack) tokens = some (.done value stack') := by
  cases tokens with
  | nil => simp at h
  | cons token tokens =>
    rw [run_cons] at h ⊢
    cases token <;> first | exact h | simp [step, stepValue] at h

theorem run_firstKey (h : run (.nextKey [] stack) tokens = some (.done value stack')) :
    run (.firstKey stack) tokens = some (.done value stack') := by
  cases tokens with
  | nil => simp at h
  | cons token tokens =>
    rw [run_cons] at h ⊢
    cases token <;> first | exact h | simp [step] at h

variable {α : Type} {start : List α → List Frame → State} {whole : List α → Value}
variable {closing : Token}

/-- A text spells an item of an array or object: behind the items `before`, last one first,
its tokens lead to a state where another item or the end may follow. -/
def SpellsItem (start : List α → List Frame → State) (whole : List α → Value) (closing : Token)
    (t : Text) (item : α) : Prop :=
  ∃ tokens, SpellsTokens t tokens ∧ ∀ before stack, ∃ state,
    run (start before stack) tokens = some state ∧
      step state .comma = some (start (item :: before) stack) ∧
      step state closing = some (.done (whole (item :: before).reverse) stack)

theorem exists_tokens_of_items (close : Char) (hspace : isSpace close = false)
    (hclose : ∀ rest, readToken? close rest = some (closing, rest)) {first : Text}
    {others : List Text} {item : α} {items : List α}
    (hfirst : SpellsItem start whole closing first item)
    (hothers : List.Forall₂ (SpellsItem start whole closing) others items) :
    ∃ tokens, SpellsTokens ([','].intercalate (first :: others) ++ [close]) tokens ∧
      ∀ before stack, run (start before stack) tokens =
        some (.done (whole (before.reverse ++ item :: items)) stack) := by
  obtain ⟨tokens, htokens, hrun⟩ := hfirst
  induction hothers generalizing first item tokens with
  | nil =>
    refine ⟨tokens ++ [closing], ?_, ?_⟩
    · have hone : [','].intercalate [first] = first := by simp [List.intercalate]
      rw [hone]
      exact htokens.append (spellsTokens_nil.cons hspace hclose)
    · intro before stack
      obtain ⟨state, hstate, -, hend⟩ := hrun before stack
      rw [run_append, hstate, Option.bind_some, run_cons, hend]
      simp
  | @cons second item' others items' hsecond _ ih =>
    obtain ⟨tokens', htokens', hrun'⟩ := hsecond
    obtain ⟨later, hlater, hrunLater⟩ := ih tokens' htokens' hrun'
    refine ⟨tokens ++ .comma :: later, ?_, ?_⟩
    · have hjoined : [','].intercalate (first :: second :: others) ++ [close] =
          first ++ ',' :: ([','].intercalate (second :: others) ++ [close]) := by
        simp [List.intercalate, List.intersperse]
      rw [hjoined]
      exact htokens.append (hlater.cons rfl fun _ => rfl)
    · intro before stack
      obtain ⟨state, hstate, hnext, -⟩ := hrun before stack
      rw [run_append, hstate, Option.bind_some, run_cons, hnext, Option.bind_some, hrunLater]
      simp

theorem spells_writeArray {elements : List Text} {values : List Value}
    (h : List.Forall₂ Spells elements values) : Spells (writeArray elements) (.array values) := by
  have hitem {t : Text} {value : Value} (ht : Spells t value) :
      SpellsItem (fun before stack => .value (.array before :: stack)) .array .closeBracket
        t value := by
    obtain ⟨tokens, htokens, hrun⟩ := ht
    exact ⟨tokens, htokens, fun before stack => ⟨_, hrun _, rfl, rfl⟩⟩
  cases h with
  | nil =>
    refine ⟨[.openBracket, .closeBracket], ?_, fun _ => rfl⟩
    exact (spellsTokens_nil.cons rfl fun _ => rfl).cons rfl fun _ => rfl
  | cons hfirst hothers =>
    obtain ⟨tokens, htokens, hrun⟩ := exists_tokens_of_items ']' rfl (fun _ => rfl) (hitem hfirst)
      (hothers.imp fun _ _ => hitem)
    refine ⟨.openBracket :: tokens, htokens.cons rfl fun _ => rfl, ?_⟩
    intro stack
    rw [run_cons]
    exact run_firstElement (hrun [] stack)

structure SpellsMember (written : Text × Text) (member : List StringUnit × Value) : Prop where
  key : member.1 = written.1.map .char
  value : Spells written.2 member.2

theorem spells_writeObject {written : List (Text × Text)}
    {members : List (List StringUnit × Value)} (h : List.Forall₂ SpellsMember written members) :
    Spells (writeObject written) (.object members) := by
  have hitem {written : Text × Text} {member : List StringUnit × Value}
      (hmember : SpellsMember written member) :
      SpellsItem .nextKey .object .closeBrace (writeText written.1 ++ ':' :: written.2)
        member := by
    obtain ⟨tokens, htokens, hrun⟩ := hmember.value
    refine ⟨.string member.1 :: .colon :: tokens, ?_, ?_⟩
    · rw [hmember.key]
      exact (spellsTokens_writeText _).append (htokens.cons rfl fun _ => rfl)
    · intro before stack
      exact ⟨_, hrun _, rfl, rfl⟩
  cases h with
  | nil =>
    refine ⟨[.openBrace, .closeBrace], ?_, fun _ => rfl⟩
    exact (spellsTokens_nil.cons rfl fun _ => rfl).cons rfl fun _ => rfl
  | @cons first member others members hfirst hothers =>
    have hitems : List.Forall₂ (SpellsItem .nextKey .object .closeBrace)
        (others.map fun member => writeText member.1 ++ ':' :: member.2) members :=
      List.forall₂_map_left_iff.2 (hothers.imp fun _ _ => hitem)
    obtain ⟨tokens, htokens, hrun⟩ := exists_tokens_of_items '}' rfl (fun _ => rfl) (hitem hfirst)
      hitems
    refine ⟨.openBrace :: tokens, htokens.cons rfl fun _ => rfl, ?_⟩
    intro stack
    rw [run_cons]
    exact run_firstKey (hrun [] stack)

end Spelled

end FilterDialects.Json
