import FilterDialects.Redirect.Priority
import FilterDialects.Proofs.Text.Blank
import FilterDialects.Proofs.Text.Joined
import FilterDialects.Text.Shown

/-!
# Names and priorities

A resource name is read back whole when it does not end in a colon and a priority. The last
colon decides that alone, since a priority has none.

Every integer of 32 bits can be a priority, and any spelling of it is taken off a name again.
-/

namespace FilterDialects.Priority

variable {t name tail : Text}

def EndsInPriority (t : Text) : Prop :=
  ∃ before tail, t = before ++ ':' :: tail ∧ (parse? tail).isSome

theorem isDigit_of_digitsValue? {value n : Nat} (h : digitsValue? value t = some n) :
    ∀ c ∈ t, c.isDigit = true := by
  induction t generalizing value with
  | nil => simp
  | cons first t ih =>
    rw [digitsValue?] at h
    split at h
    · next hfirst =>
      intro c hc
      rcases List.mem_cons.1 hc with rfl | hlater
      · exact hfirst
      · exact ih h c hlater
    · contradiction

theorem isDigit_of_natural? {n : Nat} (h : natural? t = some n) : ∀ c ∈ t, c.isDigit = true := by
  rw [natural?] at h
  split at h
  · contradiction
  · exact isDigit_of_digitsValue? h

theorem exists_of_integer? {n : Int} (h : integer? t = some n) :
    ∃ digits m, natural? digits = some m ∧
      (t = '-' :: digits ∨ t = '+' :: digits ∨ t = digits) := by
  unfold integer? at h
  split at h <;>
    obtain ⟨_, hread, -⟩ := Option.map_eq_some_iff.1 h <;>
    obtain ⟨m, hm, -⟩ := Option.bind_eq_some_iff.1 hread
  · exact ⟨_, m, hm, .inl rfl⟩
  · exact ⟨_, m, hm, .inr (.inl rfl)⟩
  · exact ⟨_, m, hm, .inr (.inr rfl)⟩

/-- A priority is spelled with digits, and with a sign before them. -/
theorem isDigit_or_sign_of_parse? {n : Int} (h : parse? t = some n) :
    ∀ c ∈ t, c.isDigit = true ∨ c = '-' ∨ c = '+' := by
  obtain ⟨digits, m, hm, hspelled⟩ := exists_of_integer? (Option.filter_eq_some_iff.1 h).1
  have hdigits := isDigit_of_natural? hm
  intro c hc
  rcases hspelled with rfl | rfl | rfl
  · exact (List.mem_cons.1 hc).elim (fun hsign => .inr (.inl hsign)) fun hc => .inl (hdigits c hc)
  · exact (List.mem_cons.1 hc).elim (fun hsign => .inr (.inr hsign)) fun hc => .inl (hdigits c hc)
  · exact .inl (hdigits c hc)

theorem notMem_of_parse? {c : Char} (h : (parse? t).isSome)
    (hc : ¬ (c.isDigit = true ∨ c = '-' ∨ c = '+')) : c ∉ t := by
  obtain ⟨n, hn⟩ := Option.isSome_iff_exists.1 h
  exact fun hmem => hc (isDigit_or_sign_of_parse? hn c hmem)

/-- A text is a name of its own exactly when it does not end in a priority. -/
theorem split_eq_self_iff : split t = (t, none) ↔ ¬ EndsInPriority t := by
  constructor
  · rintro h ⟨before, tail, rfl, hsome⟩
    obtain ⟨n, hn⟩ := Option.isSome_iff_exists.1 hsome
    rw [split, Text.cutLast?_append_cons (notMem_of_parse? hsome (by decide))] at h
    simp [hn] at h
  · intro h
    refine split_of_none ?_
    unfold split
    split
    · rfl
    · next before tail hcut =>
      split
      · rfl
      · next n hn =>
        exact absurd ⟨before, tail, (Text.append_of_cutLast? hcut).symm, by simp [hn]⟩ h

instance (t : Text) : Decidable (EndsInPriority t) :=
  decidable_of_iff (¬ split t = (t, none)) (by rw [split_eq_self_iff, not_not])

section Written

theorem digitsValue?_of_isDigit (h : ∀ c ∈ t, c.isDigit = true) (value : Nat) :
    digitsValue? value t = some (Nat.ofDigitChars 10 t value) := by
  induction t generalizing value with
  | nil => rfl
  | cons c t ih =>
    have hlater := ih fun d hd => h d (List.mem_cons_of_mem c hd)
    rw [digitsValue?, if_pos (h c List.mem_cons_self), hlater, Nat.ofDigitChars_cons]

theorem isDigit_of_mem_ofNat {n : Nat} : ∀ c ∈ Text.ofNat n, c.isDigit = true :=
  fun _ => Nat.isDigit_of_mem_toDigits (by decide) (by decide)

theorem natural?_ofNat (n : Nat) : natural? (Text.ofNat n) = some n := by
  have hne : Text.ofNat n ≠ [] := Nat.toDigits_ne_nil
  rw [natural?, if_neg hne, digitsValue?_of_isDigit isDigit_of_mem_ofNat, Text.ofNat,
    Nat.ofDigitChars_toDigits (by decide) (by decide)]

/-- An integer in decimal digits, with a sign before them when it is negative. -/
def text : Int → Text
  | .ofNat n => Text.ofNat n
  | .negSucc n => '-' :: Text.ofNat (n + 1)

theorem integer?_of_isDigit (h : ∀ c ∈ t, c.isDigit = true) :
    integer? t = (natural? t).map fun n => (n : Int) := by
  unfold integer?
  split
  · exact absurd (h '-' List.mem_cons_self) (by decide)
  · exact absurd (h '+' List.mem_cons_self) (by decide)
  · rfl

theorem integer?_text (n : Int) : integer? (text n) = some n := by
  cases n with
  | ofNat n =>
    rw [text, integer?_of_isDigit isDigit_of_mem_ofNat, natural?_ofNat]
    rfl
  | negSucc n =>
    rw [text, integer?, natural?_ofNat]
    rfl

/-- Every integer of 32 bits is a priority. -/
theorem parse?_text {n : Int} (hleast : -limit ≤ n) (hlimit : n < limit) :
    parse? (text n) = some n := by
  rw [parse?, integer?_text, Option.filter_some, if_pos (by simp [hleast, hlimit])]

end Written

section Appended

theorem split_append {n : Int} (h : parse? tail = some n) (name : Text) :
    split (name ++ ':' :: tail) = (name, some n) := by
  have hcolon : ':' ∉ tail := notMem_of_parse? (Option.isSome_of_eq_some h) (by decide)
  rw [split, Text.cutLast?_append_cons hcolon]
  simp only [h]

theorem isBlank_of_parse? {n : Int} (h : parse? t = some n) :
    ∀ c ∈ t, Text.isBlank c = false := by
  intro c hc
  rcases isDigit_or_sign_of_parse? h c hc with hdigit | rfl | rfl
  · exact Text.isBlank_of_isDigit hdigit
  · decide
  · decide

/-- A trimmed name stays trimmed under a priority. -/
theorem trim_append {n : Int} (h : parse? tail = some n) (hname : Text.trim name = name) :
    Text.trim (name ++ ':' :: tail) = name ++ ':' :: tail := by
  have htail : Text.trim (':' :: tail) = ':' :: tail := by
    refine Text.trim_of_forall fun c hc => ?_
    rcases List.mem_cons.1 hc with rfl | hc
    · decide
    · exact isBlank_of_parse? h c hc
  by_cases hnil : name = []
  · rw [hnil, List.nil_append, htail]
  · exact Text.trim_append hname hnil htail

end Appended

end FilterDialects.Priority
