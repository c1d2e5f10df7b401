import FilterDialects.Proofs.ArgumentList

/-!
# The language of argument lists

An argument list is a row of items with a closing parenthesis at its end. An item is a mark
between the arguments or a group, that is a quoted argument as it is written: inside a group
its quote stands only behind a backslash, and the last character is no backslash.

The reader goes through a text character by character. It decides about a quote by what it
holds of the argument, from which backslashes were dropped already, and not by the text. The
two agree since dropping a backslash before a quote leaves the last character as it was.
Hence the reader is between two arguments exactly behind a row of items, and inside an
argument exactly behind a row of items and the beginning of a group. Which texts are read,
what they hold and which fault is found first all follow from this.
-/

namespace FilterDialects.ArgumentList

variable {quote c : Char} {body before rest t : Text} {args : List Text} {state state' : State}

section Body

/-- Every quote of the given kind has a backslash right before it. -/
def IsGuarded (quote : Char) (body : Text) : Prop :=
  ∀ earlier later, body = earlier ++ quote :: later → earlier.getLast? = some '\\'

/-- The text with each backslash before a quote of the given kind dropped. -/
def unescape (quote : Char) : Text → Text
  | [] => []
  | [c] => [c]
  | c :: next :: t =>
    if c = '\\' ∧ next = quote then quote :: unescape quote t else c :: unescape quote (next :: t)

theorem isGuarded_nil : IsGuarded quote [] := by
  intro earlier later h
  simp at h

theorem isGuarded_concat_iff :
    IsGuarded quote (body ++ [c]) ↔
      IsGuarded quote body ∧ (c = quote → body.getLast? = some '\\') := by
  constructor
  · intro h
    refine ⟨?_, ?_⟩
    · rintro earlier later rfl
      exact h earlier (later ++ [c]) (by simp)
    · rintro rfl
      exact h body [] rfl
  · rintro ⟨hbody, hlast⟩ earlier later h
    obtain rfl | ⟨later, d, rfl⟩ := List.eq_nil_or_concat later
    · obtain ⟨rfl, hc⟩ := List.append_inj' h rfl
      exact hlast (List.cons.inj hc).1
    · have hsplit : body ++ [c] = (earlier ++ quote :: later) ++ [d] := by simpa using h
      exact hbody earlier later (List.append_inj' hsplit rfl).1

/-- A pair that is dropped does not reach across a seam unless it is cut there. -/
theorem unescape_append {u : Text} (h : t.getLast? = some '\\' → u.head? ≠ some quote) :
    unescape quote (t ++ u) = unescape quote t ++ unescape quote u := by
  fun_induction unescape quote t with
  | case1 => rfl
  | case2 c =>
    cases u with
    | nil => rfl
    | cons next u =>
      rw [List.singleton_append, unescape, if_neg]
      · rfl
      · rintro ⟨rfl, rfl⟩
        exact h rfl rfl
  | case3 c next t hpair ih =>
    rw [List.cons_append, List.cons_append, unescape, if_pos hpair, ih]
    · rfl
    · intro hlast
      exact h (by simp [List.getLast?_cons, hlast])
  | case4 c next t hpair ih =>
    rw [List.cons_append, List.cons_append, unescape, if_neg hpair, ← List.cons_append, ih]
    · rfl
    · intro hlast
      exact h (by simpa [List.getLast?_cons] using hlast)

/-- The last character stays. -/
theorem getLast?_unescape (quote : Char) (t : Text) :
    (unescape quote t).getLast? = t.getLast? := by
  fun_induction unescape quote t with
  | case1 => rfl
  | case2 c => rfl
  | case3 c next t hpair ih => simp [List.getLast?_cons, ih, hpair.2]
  | case4 c next t hpair ih => simp [List.getLast?_cons, ih]

theorem unescape_concat_of_ne (h : c ≠ quote) :
    unescape quote (body ++ [c]) = unescape quote body ++ [c] :=
  unescape_append fun _ => by simpa using h

/-- A quote behind a backslash takes its place. -/
theorem unescape_concat_quote (hquote : quote ≠ '\\') (body : Text) :
    unescape quote (body ++ ['\\'] ++ [quote]) = unescape quote body ++ [quote] := by
  rw [List.append_assoc, unescape_append fun _ => by simpa using hquote.symm]
  simp [unescape]

end Body

section Items

/-- The characters that may stand between two arguments. -/
def marks : List Char := [' ', '(', ')', ',']

/-- A quoted argument as it is written. -/
structure Group where
  quote : Char
  body : Text
  isQuote : Text.isQuote quote = true
  isGuarded : IsGuarded quote body
  getLast?_ne : body.getLast? ≠ some '\\'

/-- What an argument list is a row of. -/
inductive Item where
  | mark (c : Char) (h : c ∈ marks)
  | group (g : Group)

namespace Item

def text : Item → Text
  | mark c _ => [c]
  | group g => g.quote :: g.body ++ [g.quote]

def arg? : Item → Option Text
  | mark _ _ => none
  | group g => some (unescape g.quote g.body)

end Item

def written (items : List Item) : Text :=
  items.flatMap Item.text

def argsOf (items : List Item) : List Text :=
  items.filterMap Item.arg?

theorem written_concat (items : List Item) (item : Item) :
    written (items ++ [item]) = written items ++ item.text := by
  simp [written]

theorem argsOf_concat (items : List Item) (item : Item) :
    argsOf (items ++ [item]) = argsOf items ++ item.arg?.toList := by
  cases h : item.arg? <;> simp [argsOf, h]

end Items

section Run

/-- What the reader does with the character `c` in front of `rest`: its next state, and the
argument that it completes. There is nothing it could do when the character has no place. -/
def advance? : State → Char → Text → Option (State × Option Text)
  | .between, c, rest =>
    if c = ' ' ∨ c = '(' ∨ c = ',' then some (.between, none)
    else if Text.isQuote c then some (.quoted c [], none)
    else if c = ')' then some (if rest = [] then .closed else .between, none)
    else none
  | .quoted quote held, c, _ =>
    if c = quote then
      match held with
      | '\\' :: earlier => some (.quoted quote (c :: earlier), none)
      | _ => some (.between, some held.reverse)
    else some (.quoted quote (c :: held), none)
  | .closed, _, _ => none

theorem advance?_of_ne (h : c ≠ quote) (held rest : Text) :
    advance? (.quoted quote held) c rest = some (.quoted quote (c :: held), none) := by
  simp [advance?, h]

theorem advance?_escape (quote : Char) (earlier rest : Text) :
    advance? (.quoted quote ('\\' :: earlier)) quote rest =
      some (.quoted quote (quote :: earlier), none) := by
  rw [advance?, if_pos rfl]

theorem advance?_close {held : Text} (h : held.head? ≠ some '\\') (rest : Text) :
    advance? (.quoted quote held) quote rest = some (.between, some held.reverse) := by
  rw [advance?, if_pos rfl]
  intro earlier heq
  exact h (by simp [heq])

theorem advance?_quoted_ne_none {held : Text} (c : Char) (rest : Text) :
    advance? (.quoted quote held) c rest ≠ none := by
  by_cases hc : c = quote
  · subst hc
    by_cases hend : held.head? = some '\\'
    · obtain ⟨earlier, rfl⟩ := List.head?_eq_some_iff.1 hend
      rw [advance?_escape]
      exact nofun
    · rw [advance?_close hend]
      exact nofun
  · rw [advance?_of_ne hc]
    exact nofun

/-- Reading is advancing, character by character. -/
theorem read_cons (state : State) (offset : Nat) (c : Char) (rest : Text) :
    read state offset (c :: rest) =
      match advance? state c rest with
      | none => .error (.unexpectedCharacter c offset)
      | some (state', arg?) =>
        (read state' (offset + c.utf8Size) rest).map (arg?.toList ++ ·) := by
  have hnone (outcome : Except SyntaxError (List Text)) :
      outcome = outcome.map ((none : Option Text).toList ++ ·) := by
    cases outcome <;> rfl
  cases state with
  | between =>
    rw [read, advance?]
    split
    · exact hnone _
    · split
      · exact hnone _
      · split
        · exact hnone _
        · rfl
  | quoted quote held =>
    by_cases hc : c = quote
    · subst hc
      by_cases hend : held.head? = some '\\'
      · obtain ⟨earlier, rfl⟩ := List.head?_eq_some_iff.1 hend
        rw [read_quoted_escape, advance?_escape]
        exact hnone _
      · rw [read_quoted_quote hend, advance?_close hend]
        rfl
    · rw [read_quoted_of_ne hc, advance?_of_ne hc]
      exact hnone _
  | closed => rfl

/-- Where the reader of a text gets to: its state, the text before it, the arguments that it
has read, and the text that is left. -/
inductive Reaches (t : Text) : State → Text → List Text → Text → Prop
  | start : Reaches t .between [] [] t
  | step {state state' : State} {before rest : Text} {args : List Text} {c : Char}
      {arg? : Option Text} (h : Reaches t state before args (c :: rest))
      (hstep : advance? state c rest = some (state', arg?)) :
      Reaches t state' (before ++ [c]) (args ++ arg?.toList) rest

/-- The reader goes through the text. -/
theorem Reaches.append_eq (h : Reaches t state before args rest) : before ++ rest = t := by
  induction h with
  | start => rfl
  | step _ _ ih => simpa using ih

/-- The offset that a fault behind a text is reported with. -/
def offsetBehind (before : Text) : Nat :=
  (String.ofList before).utf8ByteSize

theorem offsetBehind_concat (before : Text) (c : Char) :
    offsetBehind (before ++ [c]) = offsetBehind before + c.utf8Size := by
  simp [offsetBehind, String.ofList_append]

/-- What is read of a text is what is read from wherever the reader gets to, behind the
arguments that it has read. -/
theorem Reaches.parse_eq (h : Reaches t state before args rest) :
    parse t = (read state (offsetBehind before) rest).map (args ++ ·) := by
  induction h with
  | start =>
    show parse t = (parse t).map _
    cases parse t <;> rfl
  | @step state state' before rest args c arg? _ hstep ih =>
    rw [ih, read_cons, offsetBehind_concat]
    simp only [hstep]
    cases read state' (offsetBehind before + c.utf8Size) rest <;> simp [Except.map]

/-- The reader gets to the end of a text or to a character that has no place. -/
theorem exists_reaches (t : Text) :
    ∃ state before args rest, Reaches t state before args rest ∧
      ∀ c u, rest = c :: u → advance? state c u = none := by
  have hgo {state : State} {before : Text} {args : List Text} (rest : Text)
      (h : Reaches t state before args rest) :
      ∃ state before args rest, Reaches t state before args rest ∧
        ∀ c u, rest = c :: u → advance? state c u = none := by
    induction rest generalizing state before args with
    | nil => exact ⟨_, _, _, _, h, nofun⟩
    | cons c rest ih =>
      cases hstep : advance? state c rest with
      | some next => exact ih (h.step hstep)
      | none =>
        refine ⟨_, _, _, _, h, ?_⟩
        rintro d u heq
        obtain ⟨rfl, rfl⟩ := List.cons.inj heq
        exact hstep
  exact hgo t .start

end Run

section Scanned

/-- The state of the reader in an argument whose body began with `body`. -/
def openState (quote : Char) (body : Text) : State :=
  .quoted quote (unescape quote body).reverse

theorem ne_backslash_of_isQuote (h : Text.isQuote quote = true) : quote ≠ '\\' := by
  rintro rfl
  contradiction

theorem advance?_mark (h : c ∈ marks) (rest : Text) :
    advance? .between c rest =
      some (if c = ')' ∧ rest = [] then .closed else .between, none) := by
  have hcases : c = ' ' ∨ c = '(' ∨ c = ')' ∨ c = ',' := by simpa [marks] using h
  obtain rfl | rfl | rfl | rfl := hcases
  · rfl
  · rfl
  · by_cases hrest : rest = [] <;> simp [advance?, hrest, Text.isQuote]
  · rfl

theorem advance?_quote (h : Text.isQuote quote = true) (rest : Text) :
    advance? .between quote rest = some (openState quote [], none) := by
  have hcases : quote = '\'' ∨ quote = '"' := by simpa [Text.isQuote] using h
  obtain rfl | rfl := hcases <;> rfl

theorem advance?_between_eq_none_iff :
    advance? .between c rest = none ↔ c ∉ marks ∧ Text.isQuote c = false := by
  constructor
  · intro h
    refine ⟨fun hmark => ?_, ?_⟩
    · rw [advance?_mark hmark] at h
      contradiction
    · rw [← Bool.not_eq_true]
      intro hquote
      rw [advance?_quote hquote] at h
      contradiction
  · rintro ⟨hmark, hquote⟩
    have hcases : c ≠ ' ' ∧ c ≠ '(' ∧ c ≠ ')' ∧ c ≠ ',' := by simpa [marks] using hmark
    simp [advance?, hcases, hquote]

/-- A character that a body may go on with stays in the argument. -/
theorem advance?_openState (hquote : Text.isQuote quote = true)
    (h : IsGuarded quote (body ++ [c])) (rest : Text) :
    advance? (openState quote body) c rest = some (openState quote (body ++ [c]), none) := by
  obtain ⟨-, hlast⟩ := isGuarded_concat_iff.1 h
  have hne := ne_backslash_of_isQuote hquote
  by_cases hc : c = quote
  · subst hc
    obtain ⟨earlier, rfl⟩ := List.getLast?_eq_some_iff.1 (hlast rfl)
    rw [openState, openState, unescape_concat_quote hne, unescape_concat_of_ne hne.symm,
      List.reverse_concat, List.reverse_concat, advance?_escape]
  · rw [openState, openState, advance?_of_ne hc, unescape_concat_of_ne hc, List.reverse_concat]

theorem advance?_openState_close (h : body.getLast? ≠ some '\\') (rest : Text) :
    advance? (openState quote body) quote rest = some (.between, some (unescape quote body)) := by
  have hhead : (unescape quote body).reverse.head? ≠ some '\\' := by
    rwa [List.head?_reverse, getLast?_unescape]
  rw [openState, advance?_close hhead, List.reverse_reverse]

/-- What stands before the reader in a state, what it has read of it, and what may be left:
a row of items, behind which an argument may be open or the list closed. -/
def IsScanned : State → Text → List Text → Text → Prop
  | .between, before, args, rest => ∃ items,
    before = written items ∧ args = argsOf items ∧ (before.getLast? = some ')' → rest ≠ [])
  | .quoted quote held, before, args, _ => ∃ items body,
    before = written items ++ quote :: body ∧ args = argsOf items ∧
      Text.isQuote quote = true ∧ IsGuarded quote body ∧ .quoted quote held = openState quote body
  | .closed, before, args, rest => ∃ items,
    before = written items ++ [')'] ∧ args = argsOf items ∧ rest = []

/-- One step of the reader. -/
theorem IsScanned.step {arg? : Option Text} (h : IsScanned state before args (c :: rest))
    (hstep : advance? state c rest = some (state', arg?)) :
    IsScanned state' (before ++ [c]) (args ++ arg?.toList) rest := by
  cases state with
  | between =>
    obtain ⟨items, rfl, rfl, -⟩ := h
    by_cases hmark : c ∈ marks
    · rw [advance?_mark hmark] at hstep
      split at hstep
      · next hlast =>
        obtain ⟨rfl, rfl⟩ : State.closed = state' ∧ none = arg? := by simpa using hstep
        exact ⟨items, by rw [hlast.1], by simp, hlast.2⟩
      · next hmore =>
        obtain ⟨rfl, rfl⟩ : State.between = state' ∧ none = arg? := by simpa using hstep
        refine ⟨items ++ [.mark c hmark], by rw [written_concat]; rfl,
          by rw [argsOf_concat]; rfl, ?_⟩
        intro hlast hrest
        exact hmore ⟨by simpa using hlast, hrest⟩
    · by_cases hquote : Text.isQuote c = true
      · rw [advance?_quote hquote] at hstep
        obtain ⟨rfl, rfl⟩ : openState c [] = state' ∧ none = arg? := by simpa using hstep
        exact ⟨items, [], rfl, by simp, hquote, isGuarded_nil, rfl⟩
      · rw [advance?_between_eq_none_iff.2 ⟨hmark, by simpa using hquote⟩] at hstep
        contradiction
  | quoted quote held =>
    obtain ⟨items, body, rfl, rfl, hquote, hguarded, hopen⟩ := h
    rw [hopen] at hstep
    by_cases hclose : c = quote ∧ body.getLast? ≠ some '\\'
    · obtain ⟨rfl, hlast⟩ := hclose
      rw [advance?_openState_close hlast] at hstep
      obtain ⟨rfl, rfl⟩ : State.between = state' ∧ some (unescape c body) = arg? := by
        simpa using hstep
      refine ⟨items ++ [.group ⟨c, body, hquote, hguarded, hlast⟩],
        by rw [written_concat]; simp [Item.text], by rw [argsOf_concat]; rfl, ?_⟩
      intro hparen
      rw [List.getLast?_concat] at hparen
      obtain rfl := Option.some.inj hparen
      contradiction
    · have hnext : IsGuarded quote (body ++ [c]) := isGuarded_concat_iff.2
        ⟨hguarded, fun hc => by simpa [hc] using hclose⟩
      rw [advance?_openState hquote hnext] at hstep
      obtain ⟨rfl, rfl⟩ : openState quote (body ++ [c]) = state' ∧ none = arg? := by
        simpa using hstep
      exact ⟨items, body ++ [c], by simp, by simp, hquote, hnext, rfl⟩
  | closed =>
    obtain ⟨items, -, -, hrest⟩ := h
    contradiction

/-- Wherever the reader gets to. -/
theorem Reaches.isScanned (h : Reaches t state before args rest) :
    IsScanned state before args rest := by
  induction h with
  | start => exact ⟨[], rfl, rfl, by simp⟩
  | step _ hstep ih => exact ih.step hstep

end Scanned

section Reached

theorem Reaches.skip (h : Reaches t state before args (c :: rest))
    (hstep : advance? state c rest = some (state', none)) :
    Reaches t state' (before ++ [c]) args rest := by
  simpa using h.step hstep

theorem Reaches.openState (h : Reaches t .between before args (quote :: (body ++ rest)))
    (hquote : Text.isQuote quote = true) (hguarded : IsGuarded quote body) :
    Reaches t (openState quote body) (before ++ quote :: body) args rest := by
  induction body using List.reverseRecOn generalizing rest with
  | nil => exact h.skip (advance?_quote hquote _)
  | append_singleton body c ih =>
    have hinside := @ih (c :: rest) (by simpa using h) (isGuarded_concat_iff.1 hguarded).1
    simpa using hinside.skip (advance?_openState hquote hguarded rest)

/-- The reader goes past an item, unless it is the parenthesis at the end. -/
theorem Reaches.item {item : Item} (h : Reaches t .between before args (item.text ++ rest))
    (hend : item.text = [')'] → rest ≠ []) :
    Reaches t .between (before ++ item.text) (args ++ item.arg?.toList) rest := by
  cases item with
  | mark c hmark =>
    have hmore : ¬ (c = ')' ∧ rest = []) := fun hlast => hend (by simp [Item.text, hlast.1]) hlast.2
    have hstep := advance?_mark hmark rest
    rw [if_neg hmore] at hstep
    exact h.step hstep
  | group g =>
    have hinside : Reaches t _ _ _ (g.quote :: rest) := Reaches.openState
      (by simpa [Item.text] using h) g.isQuote g.isGuarded
    simpa [Item.text, Item.arg?] using
      hinside.step (advance?_openState_close g.getLast?_ne rest)

/-- The reader goes past a row of items, unless it ends with the parenthesis at the end. -/
theorem reaches_written (items : List Item) (ht : written items ++ rest = t)
    (hend : (written items).getLast? = some ')' → rest ≠ []) :
    Reaches t .between (written items) (argsOf items) rest := by
  induction items using List.reverseRecOn generalizing rest with
  | nil =>
    obtain rfl : rest = t := ht
    exact .start
  | append_singleton items item ih =>
    have hmore : item.text ++ rest ≠ [] := by cases item <;> simp [Item.text]
    rw [written_concat] at ht hend ⊢
    rw [argsOf_concat]
    apply (@ih (item.text ++ rest) (by simpa using ht) fun _ => hmore).item
    intro htext
    exact hend (by simp [htext])

/-- The reader gets exactly to where a row of items explains its state. -/
theorem reaches_iff :
    Reaches t state before args rest ↔ before ++ rest = t ∧ IsScanned state before args rest := by
  refine ⟨fun h => ⟨h.append_eq, h.isScanned⟩, ?_⟩
  rintro ⟨ht, hscanned⟩
  cases state with
  | between =>
    obtain ⟨items, rfl, rfl, hend⟩ := hscanned
    exact reaches_written items ht hend
  | quoted quote held =>
    obtain ⟨items, body, rfl, rfl, hquote, hguarded, hopen⟩ := hscanned
    rw [hopen]
    refine (reaches_written items ?_ (by simp)).openState hquote hguarded
    simpa using ht
  | closed =>
    obtain ⟨items, rfl, rfl, rfl⟩ := hscanned
    refine (reaches_written items ?_ (by simp)).skip (advance?_mark (by decide) [])
    simpa using ht

end Reached

section Outcomes

variable {items : List Item}

theorem parse_written_close (items : List Item) :
    parse (written items ++ [')']) = .ok (argsOf items) := by
  have hreach : Reaches (written items ++ [')']) .closed (written items ++ [')'])
      (argsOf items) [] := reaches_iff.2 ⟨by simp, items, rfl, rfl, rfl⟩
  rw [hreach.parse_eq]
  simp [read, Except.map]

theorem parse_written_illegal (items : List Item) (hmark : c ∉ marks)
    (hquote : Text.isQuote c = false) (rest : Text) :
    parse (written items ++ c :: rest) =
      .error (.unexpectedCharacter c (offsetBehind (written items))) := by
  rw [(reaches_written items rfl (by simp)).parse_eq, read_cons,
    advance?_between_eq_none_iff.2 ⟨hmark, hquote⟩]
  rfl

theorem parse_written_open (items : List Item) (hquote : Text.isQuote quote = true)
    (hguarded : IsGuarded quote body) :
    parse (written items ++ quote :: body) = .error .unterminatedQuote := by
  have hreach : Reaches (written items ++ quote :: body) (openState quote body)
      (written items ++ quote :: body) (argsOf items) [] :=
    reaches_iff.2 ⟨by simp, items, body, rfl, rfl, hquote, hguarded, rfl⟩
  rw [hreach.parse_eq]
  rfl

theorem parse_written (h : (written items).getLast? ≠ some ')') :
    parse (written items) = .error .notClosed := by
  have hreach : Reaches (written items) .between (written items) (argsOf items) [] :=
    reaches_iff.2 ⟨by simp, items, rfl, rfl, fun hend => absurd hend h⟩
  rw [hreach.parse_eq]
  rfl

/-- A row of items, and what is left of a text behind the longest one that it begins with. -/
structure IsScan (t : Text) (items : List Item) (rest : Text) : Prop where
  append_eq : written items ++ rest = t
  longest : ∀ others, written others <+: t → (written others).length ≤ (written items).length

/-- The fault that a text has behind the longest row of items that it begins with. -/
inductive IsFault (t : Text) : SyntaxError → Prop
  | unexpectedCharacter {items : List Item} {c : Char} {rest : Text}
      (scan : IsScan t items (c :: rest)) (hmark : c ∉ marks) (hquote : Text.isQuote c = false) :
      IsFault t (.unexpectedCharacter c (offsetBehind (written items)))
  | unterminatedQuote {items : List Item} {quote : Char} {body : Text}
      (scan : IsScan t items (quote :: body)) (hquote : Text.isQuote quote = true)
      (hguarded : IsGuarded quote body) : IsFault t .unterminatedQuote
  | notClosed {items : List Item} (scan : IsScan t items []) (hend : t.getLast? ≠ some ')') :
      IsFault t .notClosed

/-- A longer row would be read if a parenthesis stood behind it. -/
theorem isScan_of_parse_ne_ok
    (h : ∀ more, more ≠ [] → more <+: rest →
      ∀ args, parse (written items ++ more ++ [')']) ≠ .ok args) :
    IsScan (written items ++ rest) items rest := by
  refine ⟨rfl, ?_⟩
  intro others hothers
  by_contra hlonger
  have hlength : (written items).length ≤ (written others).length := by omega
  obtain ⟨more, hmore⟩ :=
    List.prefix_of_prefix_length_le (List.prefix_append _ rest) hothers hlength
  have hne : more ≠ [] := by
    rintro rfl
    simp [← hmore] at hlonger
  rw [← hmore, List.prefix_append_right_inj] at hothers
  apply h more hne hothers (argsOf others)
  rw [hmore]
  exact parse_written_close others

theorem isScan_illegal (items : List Item) (hmark : c ∉ marks) (hquote : Text.isQuote c = false)
    (rest : Text) : IsScan (written items ++ c :: rest) items (c :: rest) := by
  apply isScan_of_parse_ne_ok
  intro more hne hmore args
  obtain ⟨u, rfl, -⟩ := (List.prefix_cons_iff.1 hmore).resolve_left hne
  rw [List.append_assoc, List.cons_append, parse_written_illegal items hmark hquote]
  exact nofun

theorem IsGuarded.of_isPrefix (h : IsGuarded quote t) (hbody : body <+: t) :
    IsGuarded quote body := by
  obtain ⟨u, rfl⟩ := hbody
  rintro earlier later rfl
  exact h earlier (later ++ u) (by simp)

theorem isScan_open (items : List Item) (hquote : Text.isQuote quote = true)
    (hguarded : IsGuarded quote body) :
    IsScan (written items ++ quote :: body) items (quote :: body) := by
  apply isScan_of_parse_ne_ok
  intro more hne hmore args
  obtain ⟨u, rfl, hu⟩ := (List.prefix_cons_iff.1 hmore).resolve_left hne
  -- The parenthesis behind the row would still be a part of the argument.
  have hinside : IsGuarded quote (u ++ [')']) := by
    refine isGuarded_concat_iff.2 ⟨hguarded.of_isPrefix hu, ?_⟩
    rintro rfl
    contradiction
  rw [List.append_assoc, List.cons_append, parse_written_open items hquote hinside]
  exact nofun

theorem isScan_written (items : List Item) : IsScan (written items) items [] :=
  ⟨by simp, fun _ hothers => hothers.length_le⟩

/-- A text is a row of items with the parenthesis at the end, or it has a fault. -/
theorem exists_written_or_isFault (t : Text) :
    (∃ items, t = written items ++ [')']) ∨ ∃ fault, IsFault t fault := by
  obtain ⟨state, before, args, rest, hreach, hstuck⟩ := exists_reaches t
  obtain ⟨rfl, hscanned⟩ := reaches_iff.1 hreach
  cases state with
  | between =>
    obtain ⟨items, rfl, -, hend⟩ := hscanned
    cases rest with
    | nil =>
      have hopen : (written items ++ []).getLast? ≠ some ')' := by simpa using hend
      exact .inr ⟨_, .notClosed (by simpa using isScan_written items) hopen⟩
    | cons c rest =>
      obtain ⟨hmark, hquote⟩ := advance?_between_eq_none_iff.1 (hstuck c rest rfl)
      exact .inr ⟨_, .unexpectedCharacter (isScan_illegal items hmark hquote rest) hmark hquote⟩
  | quoted quote held =>
    obtain ⟨items, body, rfl, -, hquote, hguarded, -⟩ := hscanned
    cases rest with
    | nil =>
      rw [List.append_nil]
      exact .inr ⟨_, .unterminatedQuote (isScan_open items hquote hguarded) hquote hguarded⟩
    | cons c rest => exact absurd (hstuck c rest rfl) (advance?_quoted_ne_none c rest)
  | closed =>
    obtain ⟨items, rfl, -, rfl⟩ := hscanned
    exact .inl ⟨items, by simp⟩

theorem IsFault.parse_eq {fault : SyntaxError} (h : IsFault t fault) : parse t = .error fault := by
  cases h with
  | unexpectedCharacter scan hmark hquote =>
    rw [← scan.append_eq]
    exact parse_written_illegal _ hmark hquote _
  | unterminatedQuote scan hquote hguarded =>
    rw [← scan.append_eq]
    exact parse_written_open _ hquote hguarded
  | notClosed scan hend =>
    obtain rfl : written _ = t := by simpa using scan.append_eq
    exact parse_written hend

/-- A text is read exactly when it is a row of items with the parenthesis at the end, and
what is read is what the items hold. Any other text has the fault that is found behind the
longest row of items. Wherever the reader gets to, it goes on with what is left of the text,
and nothing is left behind the parenthesis at the end. -/
theorem parse_eq_iff (t : Text) :
    (∀ args, parse t = .ok args ↔ ∃ items, t = written items ++ [')'] ∧ args = argsOf items) ∧
      (∀ args, parse t = .ok args → ∀ arg ∈ args, arg.getLast? ≠ some '\\') ∧
      (∀ fault, parse t = .error fault ↔ IsFault t fault) ∧
      ∀ state before args rest, Reaches t state before args rest →
        parse t = (read state (offsetBehind before) rest).map (args ++ ·) ∧
          (state = .closed → rest = []) := by
  have hok (args : List Text) (hparse : parse t = .ok args) :
      ∃ items, t = written items ++ [')'] ∧ args = argsOf items := by
    obtain ⟨items, rfl⟩ | ⟨fault, hfault⟩ := exists_written_or_isFault t
    · rw [parse_written_close] at hparse
      exact ⟨items, rfl, (Except.ok.inj hparse).symm⟩
    · rw [hfault.parse_eq] at hparse
      contradiction
  have herror (fault : SyntaxError) (hparse : parse t = .error fault) : IsFault t fault := by
    obtain ⟨items, rfl⟩ | ⟨found, hfound⟩ := exists_written_or_isFault t
    · rw [parse_written_close] at hparse
      contradiction
    · rw [hfound.parse_eq] at hparse
      obtain rfl := Except.error.inj hparse
      exact hfound
  refine ⟨?_, fun args => getLast?_ne_of_parse, ?_, ?_⟩
  · intro args
    refine ⟨hok args, ?_⟩
    rintro ⟨items, rfl, rfl⟩
    exact parse_written_close items
  · exact fun fault => ⟨herror fault, IsFault.parse_eq⟩
  · intro state before args rest hreach
    refine ⟨hreach.parse_eq, ?_⟩
    rintro rfl
    obtain ⟨items, -, -, hrest⟩ := hreach.isScanned
    exact hrest

/-- A quote with a backslash before it stays in its argument, a letter between two arguments
is a fault whose offset counts bytes, and a list may hold no argument at all. -/
theorem parse_eq_iff_escaped :
    (∃ items, "('it\\'s', \"b\")".toList = written items ++ [')'] ∧
        ["it's".toList, "b".toList] = argsOf items) ∧
      "it's".toList.getLast? ≠ some '\\' ∧
      IsFault "('é' x)".toList (.unexpectedCharacter 'x' 6) ∧
      ∃ rest, Reaches "()".toList .closed "()".toList [] rest ∧ rest = [] := by
  have hparse : parse "('it\\'s', \"b\")".toList = .ok ["it's".toList, "b".toList] := rfl
  have hfault : parse "('é' x)".toList = .error (.unexpectedCharacter 'x' 6) := rfl
  have hclosed : Reaches "()".toList .closed "()".toList [] [] :=
    reaches_iff.2 ⟨rfl, [.mark '(' (by simp [marks])], rfl, rfl, rfl⟩
  refine ⟨((parse_eq_iff _).1 _).1 hparse, ?_, ((parse_eq_iff _).2.2.1 _).1 hfault, ?_⟩
  · exact (parse_eq_iff _).2.1 _ hparse _ List.mem_cons_self
  · exact ⟨[], hclosed, ((parse_eq_iff _).2.2.2 _ _ _ _ hclosed).2 rfl⟩

end Outcomes

end FilterDialects.ArgumentList
