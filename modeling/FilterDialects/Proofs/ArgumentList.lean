import FilterDialects.ArgumentList
import FilterDialects.Proofs.Outcome
import FilterDialects.Proofs.Text.Delimited

/-!
# What argument lists hold

A list of quoted arguments is read back as it was written, as long as no argument holds
its own quote or ends in a backslash. Whatever is read ends with the parenthesis that
closes the list, and every argument that comes of it can be quoted again: none ends in a
backslash, since a backslash before the closing quote would have kept the argument open.

A written list in which an argument ends in a backslash is not read. The argument stays
open up to the next opening quote, and from there on every quote opens where it should
close.
-/

namespace FilterDialects.ArgumentList

variable {offset : Nat} {args : List Text}

theorem read_between_space (offset : Nat) (t : Text) :
    read .between offset (' ' :: t) = read .between (offset + ' '.utf8Size) t := rfl

theorem read_between_comma (offset : Nat) (t : Text) :
    read .between offset (',' :: t) = read .between (offset + ','.utf8Size) t := rfl

theorem read_between_open (offset : Nat) (t : Text) :
    read .between offset ('(' :: t) = read .between (offset + '('.utf8Size) t := rfl

theorem read_between_quote (offset : Nat) (t : Text) :
    read .between offset ('\'' :: t) = read (.quoted '\'' []) (offset + '\''.utf8Size) t := rfl

/-- A quote of its kind ends the argument, unless a backslash was read before it. -/
theorem read_quoted_quote {quote : Char} {held : Text} (h : held.head? ≠ some '\\')
    (offset : Nat) (t : Text) :
    read (.quoted quote held) offset (quote :: t) =
      (read .between (offset + quote.utf8Size) t).map (held.reverse :: ·) := by
  rw [read, if_pos rfl]
  intro earlier heq
  exact h (by simp [heq])

theorem read_quoted_of_ne {quote c : Char} (h : c ≠ quote) (held : Text) (offset : Nat)
    (t : Text) :
    read (.quoted quote held) offset (c :: t) =
      read (.quoted quote (c :: held)) (offset + c.utf8Size) t := by
  simp [read, h]

/-- A quote with a backslash before it belongs to the argument, without the backslash. -/
theorem read_quoted_escape (quote : Char) (earlier : Text) (offset : Nat) (t : Text) :
    read (.quoted quote ('\\' :: earlier)) offset (quote :: t) =
      read (.quoted quote (quote :: earlier)) (offset + quote.utf8Size) t := by
  rw [read, if_pos rfl]

theorem read_quoted_body {quote : Char} {body : Text} (hbody : quote ∉ body) (held : Text)
    (offset : Nat) (t : Text) :
    ∃ offset', read (.quoted quote held) offset (body ++ t) =
      read (.quoted quote (body.reverse ++ held)) offset' t := by
  induction body generalizing held offset with
  | nil => exact ⟨offset, rfl⟩
  | cons c body ih =>
    have hc : c ≠ quote := fun heq => hbody (by simp [heq])
    have hlater : quote ∉ body := fun hmem => hbody (List.mem_cons_of_mem c hmem)
    obtain ⟨offset', hread⟩ := ih hlater (c :: held) (offset + c.utf8Size)
    refine ⟨offset', ?_⟩
    rw [List.cons_append, read_quoted_of_ne hc, hread]
    simp

theorem read_quoted_append {quote : Char} {body : Text} (hbody : quote ∉ body) (held : Text)
    (hend : (held.reverse ++ body).getLast? ≠ some '\\') (offset : Nat) (rest : Text) :
    ∃ offset', read (.quoted quote held) offset (body ++ quote :: rest) =
      (read .between offset' rest).map ((held.reverse ++ body) :: ·) := by
  obtain ⟨offset', hread⟩ := read_quoted_body hbody held offset (quote :: rest)
  have hhead : (body.reverse ++ held).head? ≠ some '\\' := by
    rw [← List.getLast?_reverse]
    simpa using hend
  refine ⟨offset' + quote.utf8Size, ?_⟩
  rw [hread, read_quoted_quote hhead]
  simp

def quoted (arg : Text) : Text :=
  '\'' :: arg ++ ['\'']

/-- What is written behind an argument: the other arguments and the parenthesis. -/
def behind : List Text → Text
  | [] => [')']
  | arg :: args => ',' :: ' ' :: (quoted arg ++ behind args)

theorem quoted_append (arg rest : Text) : quoted arg ++ rest = '\'' :: (arg ++ '\'' :: rest) := by
  simp [quoted]

theorem intercalate_quoted (first : Text) (others : List Text) :
    ", ".toList.intercalate ((first :: others).map quoted) ++ [')'] =
      quoted first ++ behind others := by
  induction others generalizing first with
  | nil => simp [List.intercalate, behind]
  | cons second others ih =>
    have hlater := ih second
    rw [List.map_cons, List.map_cons, Text.intercalate_cons_cons, List.append_assoc,
      List.append_assoc, ← List.map_cons, hlater]
    rfl

theorem read_between_quoted {arg : Text} (hquote : '\'' ∉ arg) (hend : arg.getLast? ≠ some '\\')
    (offset : Nat) (rest : Text) :
    ∃ offset', read .between offset (quoted arg ++ rest) =
      (read .between offset' rest).map (arg :: ·) := by
  rw [quoted_append, read_between_quote]
  exact read_quoted_append hquote [] (by simpa using hend) _ rest

/-- A row of quoted arguments with its closing parenthesis. -/
theorem read_between_behind {first : Text} {others : List Text}
    (hargs : ∀ arg ∈ first :: others, '\'' ∉ arg ∧ arg.getLast? ≠ some '\\') (offset : Nat) :
    read .between offset (quoted first ++ behind others) = .ok (first :: others) := by
  induction others generalizing first offset with
  | nil =>
    obtain ⟨hquote, hend⟩ := hargs first List.mem_cons_self
    obtain ⟨offset', hread⟩ := read_between_quoted hquote hend offset (behind [])
    rw [hread]
    rfl
  | cons second others ih =>
    obtain ⟨hquote, hend⟩ := hargs first List.mem_cons_self
    have hlater := @ih second fun arg hmem => hargs arg (List.mem_cons_of_mem first hmem)
    obtain ⟨offset', hread⟩ := read_between_quoted hquote hend offset (behind (second :: others))
    rw [hread, behind, read_between_comma, read_between_space, hlater]
    rfl

theorem parse_quoted {args : List Text}
    (hargs : ∀ arg ∈ args, '\'' ∉ arg ∧ arg.getLast? ≠ some '\\') :
    parse ('(' :: ", ".toList.intercalate (args.map quoted) ++ [')']) = .ok args := by
  rw [parse, List.cons_append, read_between_open]
  cases args with
  | nil => rfl
  | cons first others =>
    rw [intercalate_quoted]
    exact read_between_behind hargs _

section Shifted

/-- The states of a reader in the text of an argument whose opening quote has closed
something else: no single quote is open. -/
def State.IsShifted : State → Prop
  | .between => True
  | .quoted quote _ => quote = '"'
  | .closed => False

/-- One character: a shifted reader stays so up to the next single quote. -/
theorem exists_read_of_isShifted {state : State} (hstate : state.IsShifted) {c : Char}
    (hc : c ≠ '\'') {t : Text} (hmore : t ≠ []) (h : read state offset (c :: t) = .ok args) :
    ∃ state' offset' args', state'.IsShifted ∧ read state' offset' t = .ok args' := by
  cases state with
  | between =>
    rw [read] at h
    split at h
    · exact ⟨.between, _, args, trivial, h⟩
    · split at h
      · next hquote =>
        have hdouble : c = '"' := by simpa [Text.isQuote, hc] using hquote
        exact ⟨.quoted c [], _, args, hdouble, h⟩
      · split at h
        · exact ⟨.between, _, args, trivial, h⟩
        · simp at h
  | quoted quote held =>
    obtain rfl : quote = '"' := hstate
    by_cases hquote : c = '"'
    · subst hquote
      by_cases hend : held.head? = some '\\'
      · obtain ⟨earlier, rfl⟩ := List.head?_eq_some_iff.1 hend
        rw [read_quoted_escape] at h
        exact ⟨.quoted '"' _, _, args, rfl, h⟩
      · rw [read_quoted_quote hend] at h
        obtain ⟨args', hread, -⟩ := Outcome.map_eq_ok.1 h
        exact ⟨.between, _, args', trivial, hread⟩
    · rw [read_quoted_of_ne hquote] at h
      exact ⟨.quoted '"' _, _, args, rfl, h⟩
  | closed => exact hstate.elim

/-- A whole argument: behind its closing quote a shifted reader is inside something. -/
theorem exists_read_quoted_of_isShifted {arg rest : Text} (harg : '\'' ∉ arg) {state : State}
    (hstate : state.IsShifted) (h : read state offset (arg ++ '\'' :: rest) = .ok args) :
    ∃ quote held offset' args', Text.isQuote quote = true ∧
      read (.quoted quote held) offset' rest = .ok args' := by
  induction arg generalizing state offset args with
  | nil =>
    cases state with
    | between => exact ⟨'\'', [], _, args, rfl, h⟩
    | quoted quote held =>
      obtain rfl : quote = '"' := hstate
      rw [List.nil_append, read_quoted_of_ne (by decide)] at h
      exact ⟨'"', _, _, args, rfl, h⟩
    | closed => exact hstate.elim
  | cons c arg ih =>
    have hc : c ≠ '\'' := fun heq => harg (by simp [heq])
    obtain ⟨state', offset', args', hstate', hread⟩ :=
      exists_read_of_isShifted hstate hc (by simp) h
    exact ih (fun hmem => harg (List.mem_cons_of_mem c hmem)) hstate' hread

/-- A reader that is still inside something behind the closing quote of an argument does
not get to the end of the list: each quote that follows opens where it should close. -/
theorem read_behind_ne_ok {others : List Text} (hothers : ∀ arg ∈ others, '\'' ∉ arg)
    {quote : Char} (hquote : Text.isQuote quote = true) (held : Text) (offset : Nat)
    (args : List Text) : read (.quoted quote held) offset (behind others) ≠ .ok args := by
  have hplain {c : Char} (hc : Text.isQuote c = false) {quote : Char}
      (hquote : Text.isQuote quote = true) : c ≠ quote := by
    rintro rfl
    simp [hc] at hquote
  induction others generalizing quote held offset args with
  | nil =>
    rw [behind, read_quoted_of_ne (hplain rfl hquote)]
    simp [read]
  | cons arg others ih =>
    have harg := hothers arg List.mem_cons_self
    have hlater := @ih fun other hmem => hothers other (List.mem_cons_of_mem arg hmem)
    have hwritten : behind (arg :: others) =
        ',' :: ' ' :: '\'' :: (arg ++ '\'' :: behind others) := by
      rw [behind, quoted_append]
    intro h
    rw [hwritten, read_quoted_of_ne (hplain rfl hquote), read_quoted_of_ne (hplain rfl hquote)] at h
    -- the opening quote of the argument closes what is open, or is held by it
    have hshifted : ∃ state offset' args', State.IsShifted state ∧
        read state offset' (arg ++ '\'' :: behind others) = .ok args' := by
      by_cases hsingle : quote = '\''
      · subst hsingle
        rw [read_quoted_quote (by simp)] at h
        obtain ⟨args', hread, -⟩ := Outcome.map_eq_ok.1 h
        exact ⟨.between, _, args', trivial, hread⟩
      · have hdouble : quote = '"' := by simpa [Text.isQuote, hsingle] using hquote
        rw [read_quoted_of_ne (Ne.symm hsingle)] at h
        exact ⟨.quoted quote _, _, args, hdouble, h⟩
    obtain ⟨state, offset', args', hstate, hread⟩ := hshifted
    obtain ⟨quote', held', offset'', args'', hquote', hbehind⟩ :=
      exists_read_quoted_of_isShifted harg hstate hread
    exact hlater hquote' held' offset'' args'' hbehind

/-- A row whose first argument ends in a backslash is not read: the backslash keeps the
argument open. -/
theorem read_quoted_ne_ok {first : Text} {others : List Text}
    (hargs : ∀ arg ∈ first :: others, '\'' ∉ arg) (hlast : first.getLast? = some '\\')
    (offset : Nat) (args : List Text) :
    read .between offset (quoted first ++ behind others) ≠ .ok args := by
  obtain ⟨earlier, rfl⟩ := List.getLast?_eq_some_iff.1 hlast
  obtain ⟨offset', hread⟩ := read_quoted_body (hargs _ List.mem_cons_self) []
    (offset + '\''.utf8Size) ('\'' :: behind others)
  have hopen : (earlier ++ ['\\']).reverse ++ [] = '\\' :: earlier.reverse := by simp
  have hothers : ∀ arg ∈ others, '\'' ∉ arg := fun arg hmem =>
    hargs arg (List.mem_cons_of_mem _ hmem)
  rw [hopen, read_quoted_escape] at hread
  rw [quoted_append, read_between_quote, hread]
  exact read_behind_ne_ok hothers rfl _ _ args

/-- Neither is a row in which any other argument ends so. -/
theorem read_between_behind_ne_ok {first : Text} {others : List Text}
    (hargs : ∀ arg ∈ first :: others, '\'' ∉ arg)
    (hend : ∃ arg ∈ first :: others, arg.getLast? = some '\\') (offset : Nat)
    (args : List Text) : read .between offset (quoted first ++ behind others) ≠ .ok args := by
  induction others generalizing first offset args with
  | nil =>
    have hlast : first.getLast? = some '\\' := by simpa using hend
    exact read_quoted_ne_ok hargs hlast offset args
  | cons second others ih =>
    by_cases hlast : first.getLast? = some '\\'
    · exact read_quoted_ne_ok hargs hlast offset args
    · have hlater := @ih second (fun arg hmem => hargs arg (List.mem_cons_of_mem first hmem))
        ((List.exists_mem_cons_iff ..).1 hend |>.resolve_left hlast)
      obtain ⟨offset', hread⟩ := read_between_quoted (hargs first List.mem_cons_self) hlast offset
        (behind (second :: others))
      intro h
      rw [hread] at h
      obtain ⟨args', hbehind, -⟩ := Outcome.map_eq_ok.1 h
      exact hlater _ args' hbehind

/-- A written argument list is not read when an argument ends in a backslash. -/
theorem exists_error_of_backslash {args : List Text} (hargs : ∀ arg ∈ args, '\'' ∉ arg)
    (hend : ∃ arg ∈ args, arg.getLast? = some '\\') :
    ∃ fault, parse ('(' :: ", ".toList.intercalate (args.map quoted) ++ [')']) =
      .error fault := by
  cases args with
  | nil => simp at hend
  | cons first others =>
    rw [parse, List.cons_append, read_between_open, intercalate_quoted]
    cases hread : read .between (0 + '('.utf8Size) (quoted first ++ behind others) with
    | error fault => exact ⟨fault, rfl⟩
    | ok args => exact absurd hread (read_between_behind_ne_ok hargs hend _ args)

end Shifted

/-- The rest of a list that is not closed ends with its closing parenthesis. -/
theorem getLast?_of_read {state : State} {t : Text} (hopen : state ≠ .closed)
    (h : read state offset t = .ok args) : t.getLast? = some ')' := by
  have hcons {c : Char} {u : Text} (hlast : u.getLast? = some ')') :
      (c :: u).getLast? = some ')' := by
    simp [List.getLast?_cons, hlast]
  fun_induction read state offset t generalizing args with
  | case1 | case2 | case7 | case11 => simp at h
  | case3 => exact absurd rfl hopen
  | case4 _ _ _ _ ih | case5 _ _ _ _ _ ih | case8 _ _ _ _ ih | case10 _ _ _ _ _ _ ih =>
    exact hcons (ih (by simp) h)
  | case6 _ u _ _ ih =>
    by_cases hnil : u = []
    · simp [hnil]
    · exact hcons (ih (by simp [hnil]) h)
  | case9 _ _ _ _ _ ih =>
    obtain ⟨rest, hrest, -⟩ := Outcome.map_eq_ok.1 h
    exact hcons (ih (by simp) hrest)

/-- No argument that is read ends in a backslash. -/
theorem getLast?_ne_of_read {state : State} {t : Text} (h : read state offset t = .ok args) :
    ∀ arg ∈ args, arg.getLast? ≠ some '\\' := by
  fun_induction read state offset t generalizing args with
  | case1 | case2 | case7 | case11 => simp at h
  | case3 => simp_all
  | case4 _ _ _ _ ih | case5 _ _ _ _ _ ih | case6 _ _ _ _ ih | case8 _ _ _ _ ih
  | case10 _ _ _ _ _ _ ih => exact ih h
  | case9 held _ _ _ hend ih =>
    obtain ⟨rest, hrest, rfl⟩ := Outcome.map_eq_ok.1 h
    intro arg hmem
    rcases List.mem_cons.1 hmem with rfl | hmem
    · intro hlast
      cases held with
      | nil => simp at hlast
      | cons last held =>
        obtain rfl : last = '\\' := by simpa using hlast
        exact hend held rfl
    · exact ih hrest arg hmem

def State.heldText : State → Text
  | .between | .closed => []
  | .quoted _ held => held.reverse

/-- The quote of the argument that the reader is inside of is a quote. -/
def State.HasQuote : State → Prop
  | .between | .closed => True
  | .quoted quote _ => Text.isQuote quote = true

/-- What stands in an argument and has no quotes was held of it already or stands in the
rest of the list, or reaches from the one into the other. -/
theorem infix_of_infix_arg {mask : Text} (hmask : ∀ c ∈ mask, Text.isQuote c = false)
    {state : State} {t : Text} (hstate : state.HasQuote) (h : read state offset t = .ok args)
    {arg : Text} (harg : arg ∈ args) (hoccurs : mask <:+: arg) :
    mask <:+: state.heldText ++ t := by
  have hquote {c : Char} (hc : Text.isQuote c = true) : c ∉ mask := by
    intro hmem
    simp [hmask c hmem] at hc
  fun_induction read state offset t generalizing args with
  | case1 | case2 | case7 | case11 => simp at h
  | case3 => simp_all
  | case4 _ c u _ ih => exact (ih trivial h harg).trans (List.suffix_cons c u).isInfix
  | case5 _ c u _ hc ih => exact (ih hc h harg).trans (List.suffix_cons c u).isInfix
  | case6 _ u _ _ ih =>
    by_cases hnil : u = []
    · simp_all [read]
    · simp only [hnil, if_false] at ih h
      exact (ih trivial h harg).trans (List.suffix_cons ')' u).isInfix
  | case8 _ c u earlier ih =>
    have hnext := ih hstate h harg
    simp only [State.heldText, List.reverse_cons, List.append_assoc, List.singleton_append,
      Text.infix_append_cons_iff (hquote hstate)] at hnext ⊢
    cases hnext with
    | inl hoccurs => exact hoccurs.trans List.infix_append_left
    | inr hoccurs => exact hoccurs.trans ⟨earlier.reverse ++ ['\\', c], [], by simp⟩
  | case9 held _ c u hend ih =>
    obtain ⟨rest, hrest, rfl⟩ := Outcome.map_eq_ok.1 h
    rcases List.mem_cons.1 harg with rfl | hlater
    · exact hoccurs.trans List.infix_append_left
    · have hbehind := ih trivial hrest hlater
      exact hbehind.trans ⟨held.reverse ++ [c], [], by simp [State.heldText]⟩
  | case10 quote held _ c u hc ih =>
    simpa [State.heldText] using ih hstate h harg

theorem getLast?_of_parse {t : Text} (h : parse t = .ok args) : t.getLast? = some ')' :=
  getLast?_of_read (by simp) h

theorem getLast?_ne_of_parse {t : Text} (h : parse t = .ok args) :
    ∀ arg ∈ args, arg.getLast? ≠ some '\\' :=
  getLast?_ne_of_read h

theorem infix_of_parse {mask t arg : Text} (hmask : ∀ c ∈ mask, Text.isQuote c = false)
    (h : parse t = .ok args) (harg : arg ∈ args) (hoccurs : mask <:+: arg) : mask <:+: t :=
  @infix_of_infix_arg 0 args mask hmask .between t trivial h arg harg hoccurs

end FilterDialects.ArgumentList
