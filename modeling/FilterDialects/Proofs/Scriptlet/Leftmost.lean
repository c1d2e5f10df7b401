import FilterDialects.Dialect
import FilterDialects.Proofs.Scriptlet.Mask

/-!
# The leftmost mask of a rule

What stands behind the leftmost mask of a rule are its arguments, whatever further masks
they hold, and what stands before it are its domains. The leftmost mask is unique, and its
form is too, since the two forms of a mask differ in their second character.

The cut around a uBlock Origin mask is made at the leftmost one. The masks of AdGuard and
Adblock Plus have their exception form looked for in the whole rule first, so a rule is cut
farther right than it should be when an exception mask stands behind a normal one.
-/

namespace FilterDialects.Mask

variable {dialect : Dialect} {rule domains domains' before body mask t : Text}
variable {isException isException' : Bool} {cut : Cut} {masks : Bool → Text}

/-- The masks of a dialect in their normal and their exception form. -/
def IsMaskOf : Dialect → Bool → Text → Prop
  | .adg, isException, mask => mask = adg isException
  | .ubo, isException, mask => ∃ word, IsUboWord word ∧ mask = uboOpening isException ++ word
  | .abp, isException, mask => mask = abp isException

/-- The leftmost mask of a dialect in a rule stands behind `domains` and is of the given
form. -/
structure IsLeftmost (dialect : Dialect) (rule domains : Text) (isException : Bool) : Prop where
  exists_mask : ∃ mask, IsMaskOf dialect isException mask ∧ domains ++ mask <+: rule
  prefix_of_mask : ∀ isException' mask before,
    IsMaskOf dialect isException' mask → before ++ mask <+: rule → domains <+: before

/-- The leftmost mask is a normal one, and an exception mask stands somewhere behind it. -/
def IsMixed (dialect : Dialect) (rule : Text) : Prop :=
  (∃ domains, IsLeftmost dialect rule domains false) ∧
    ∃ mask, IsMaskOf dialect true mask ∧ mask <:+: rule

section Unique

/-- The second character of a mask tells its form. -/
theorem second_of_isMaskOf (h : IsMaskOf dialect isException mask) :
    ∃ c rest, mask = '#' :: c :: rest ∧ (isException = true ↔ c = '@') := by
  cases dialect with
  | adg =>
    obtain rfl := h
    cases isException <;> exact ⟨_, _, rfl, by decide⟩
  | ubo =>
    obtain ⟨word, -, rfl⟩ := h
    cases isException <;> exact ⟨_, _, rfl, by decide⟩
  | abp =>
    obtain rfl := h
    cases isException <;> exact ⟨_, _, rfl, by decide⟩

/-- A text without the character that masks start with has no mask. -/
theorem not_infix_of_hash_notMem (hhash : '#' ∉ t) (h : IsMaskOf dialect isException mask) :
    ¬ mask <:+: t := by
  obtain ⟨c, rest, rfl, -⟩ := second_of_isMaskOf h
  exact fun hoccurs => hhash (hoccurs.subset List.mem_cons_self)

/-- Two masks at one place are of one form. -/
theorem isException_eq_of_prefix {mask' : Text} (h : IsMaskOf dialect isException mask)
    (h' : IsMaskOf dialect isException' mask') (hpre : mask <+: t) (hpre' : mask' <+: t) :
    isException = isException' := by
  obtain ⟨c, rest, rfl, hc⟩ := second_of_isMaskOf h
  obtain ⟨c', rest', rfl, hc'⟩ := second_of_isMaskOf h'
  obtain ⟨tail, rfl⟩ := hpre
  obtain ⟨-, hsecond⟩ := List.cons_prefix_cons.1 hpre'
  obtain ⟨rfl, -⟩ := List.cons_prefix_cons.1 hsecond
  exact Bool.eq_iff_iff.2 (hc.trans hc'.symm)

/-- A rule has one leftmost mask. -/
theorem IsLeftmost.unique (h : IsLeftmost dialect rule domains isException)
    (h' : IsLeftmost dialect rule domains' isException') :
    domains = domains' ∧ isException = isException' := by
  obtain ⟨mask, hmask, hoccurs⟩ := h.exists_mask
  obtain ⟨mask', hmask', hoccurs'⟩ := h'.exists_mask
  have hdomains : domains = domains' :=
    (h.prefix_of_mask _ _ _ hmask' hoccurs').eq_of_length_le
      (h'.prefix_of_mask _ _ _ hmask hoccurs).length_le
  subst hdomains
  obtain ⟨rest, rfl⟩ := (List.prefix_append domains mask).trans hoccurs
  rw [List.prefix_append_right_inj] at hoccurs hoccurs'
  exact ⟨rfl, isException_eq_of_prefix hmask hmask' hoccurs hoccurs'⟩

end Unique

section Ubo

theorem readUbo?_append_ne_none (h : IsMaskOf .ubo isException mask) (after : Text) :
    readUbo? (mask ++ after) ≠ none := by
  obtain ⟨word, hword, rfl⟩ := h
  rw [List.append_assoc, readUbo?_opening hword]
  exact Option.some_ne_none _

/-- A rule is cut where there is a uBlock Origin mask, in any spelling. -/
theorem isSome_cutUbo?_iff :
    (cutUbo? rule).isSome = true ↔
      ∃ isException mask, IsMaskOf .ubo isException mask ∧ mask <:+: rule := by
  constructor
  · intro hsome
    obtain ⟨cut, hcut⟩ := Option.isSome_iff_exists.1 hsome
    obtain ⟨word, hword, rfl⟩ := append_of_cutUbo? hcut
    refine ⟨cut.isException, _, ⟨word, hword, rfl⟩, ?_⟩
    rw [← List.append_assoc _ word]
    exact List.infix_append_of_infix_right (List.prefix_append _ _).isInfix
  · rintro ⟨isException, mask, hmask, hoccurs⟩
    exact isSome_cutUbo?_of_infix (readUbo?_append_ne_none hmask) hoccurs

theorem cutUbo?_eq_none (h : ∀ isException mask, IsMaskOf .ubo isException mask → ¬ mask <:+: t) :
    cutUbo? t = none := by
  rw [← Option.not_isSome_iff_eq_none, isSome_cutUbo?_iff]
  rintro ⟨isException, mask, hmask, hoccurs⟩
  exact h isException mask hmask hoccurs

theorem isLeftmost_of_cutUbo? (h : cutUbo? rule = some cut) :
    IsLeftmost .ubo rule cut.domains cut.isException := by
  constructor
  · obtain ⟨word, hword, rfl⟩ := append_of_cutUbo? h
    exact ⟨_, ⟨word, hword, rfl⟩, cut.body, by simp only [List.append_assoc]⟩
  · intro other mask before hmask hoccurs
    obtain ⟨after, rfl⟩ := hoccurs
    obtain ⟨⟨domains, isException, body⟩, hcut, rfl⟩ := Option.map_eq_some_iff.1 h
    exact Text.prefix_of_cut? hcut (List.append_assoc before mask after).symm
      (readUbo?_append_ne_none hmask after)

end Ubo

section TwoForms

/-- A mask with two forms is looked for in its exception form, and in its normal form only
when there is no exception mask at all. -/
theorem exists_of_cut? (h : cut? masks rule = some cut) :
    cut.domains ++ masks cut.isException <+: rule ∧
      (∀ before, before ++ masks cut.isException <+: rule → cut.domains <+: before) ∧
      (masks true <:+: rule ↔ cut.isException = true) := by
  have happend := append_of_cut? h
  refine ⟨⟨cut.body, (List.append_assoc _ _ _).trans happend⟩, ?_⟩
  unfold cut? at h
  split at h
  · next domains body hcut =>
    cases h
    refine ⟨fun before => Text.prefix_of_cutMask? hcut, iff_of_true ?_ rfl⟩
    exact ⟨domains, body, (List.append_assoc _ _ _).trans happend⟩
  · next hnone =>
    obtain ⟨⟨domains, body⟩, hcut, rfl⟩ := Option.map_eq_some_iff.1 h
    refine ⟨fun before => Text.prefix_of_cutMask? hcut, iff_of_false ?_ (by simp)⟩
    exact Text.cutMask?_eq_none_iff.1 hnone

/-- The first normal mask is the leftmost one when no exception mask stands before it. -/
theorem isLeftmost_of_cutMask?
    (hmasks : ∀ isException mask, IsMaskOf dialect isException mask ↔ mask = masks isException)
    (hcut : Text.cutMask? (masks false) rule = some (domains, body))
    (hfirst : ∀ before, before ++ masks true <+: rule → domains <+: before) :
    IsLeftmost dialect rule domains false := by
  refine ⟨⟨_, (hmasks _ _).2 rfl, body, Text.append_of_cutMask? hcut⟩, ?_⟩
  intro isException mask before hmask hoccurs
  obtain rfl := (hmasks _ _).1 hmask
  cases isException with
  | true => exact hfirst before hoccurs
  | false => exact Text.prefix_of_cutMask? hcut hoccurs

/-- A normal mask that does not stand behind the leftmost exception mask makes a normal mask
the leftmost one. -/
theorem exists_isLeftmost_false
    (hmasks : ∀ isException mask, IsMaskOf dialect isException mask ↔ mask = masks isException)
    (hdomains : domains <+: rule)
    (hfirst : ∀ before, before ++ masks true <+: rule → domains <+: before)
    (hoccurs : before ++ masks false <+: rule) (hearlier : ¬ domains <+: before) :
    ∃ domains', IsLeftmost dialect rule domains' false := by
  have hcontains : rule.containsMask (masks false) = true :=
    Text.containsMask_iff.2 ((List.suffix_append before _).isInfix.trans hoccurs.isInfix)
  obtain ⟨⟨leftmost, body⟩, hcut⟩ := Option.isSome_iff_exists.1 hcontains
  have hleftmost : leftmost <+: rule :=
    (List.prefix_append _ _).trans ⟨body, Text.append_of_cutMask? hcut⟩
  have hbefore : leftmost <+: domains := by
    cases List.prefix_or_prefix_of_prefix hleftmost hdomains with
    | inl hle => exact hle
    | inr hge => exact absurd (hge.trans (Text.prefix_of_cutMask? hcut hoccurs)) hearlier
  refine ⟨leftmost, isLeftmost_of_cutMask? hmasks hcut ?_⟩
  exact fun other hother => hbefore.trans (hfirst other hother)

/-- A cut around a mask with two forms is made at the leftmost mask but for mixed rules. -/
theorem isLeftmost_iff_of_cut?
    (hmasks : ∀ isException mask, IsMaskOf dialect isException mask ↔ mask = masks isException)
    (h : cut? masks rule = some cut) :
    IsLeftmost dialect rule cut.domains cut.isException ↔ ¬ IsMixed dialect rule := by
  obtain ⟨hcut, hfirst, hforms⟩ := exists_of_cut? h
  constructor
  · rintro hleftmost ⟨⟨domains, hnormal⟩, mask, hmask, hoccurs⟩
    obtain rfl := (hmasks _ _).1 hmask
    have hfalse := (hleftmost.unique hnormal).2
    rw [hforms.1 hoccurs] at hfalse
    contradiction
  · intro hmixed
    refine ⟨⟨_, (hmasks _ _).2 rfl, hcut⟩, ?_⟩
    intro isException mask before hmask hoccurs
    obtain rfl := (hmasks _ _).1 hmask
    by_cases hform : isException = cut.isException
    · exact hfirst before (hform ▸ hoccurs)
    · cases hexception : cut.isException with
      | false =>
        have htrue : isException = true := by simpa [hexception] using hform
        have hthere : masks true <:+: rule :=
          (List.suffix_append before _).isInfix.trans (htrue ▸ hoccurs).isInfix
        rw [hforms.1 hthere] at hexception
        contradiction
      | true =>
        have hfalse : isException = false := by simpa [hexception] using hform
        subst hfalse
        rw [hexception] at hfirst
        by_contra hlater
        have hnormal := exists_isLeftmost_false hmasks ((List.prefix_append _ _).trans hcut)
          hfirst hoccurs hlater
        exact hmixed ⟨hnormal, _, (hmasks _ _).2 rfl, hforms.2 hexception⟩

/-- A mixed rule is cut at its leftmost exception mask, so its leftmost mask stands among the
domains. -/
theorem exists_isLeftmost_of_isMixed
    (hmasks : ∀ isException mask, IsMaskOf dialect isException mask ↔ mask = masks isException)
    (h : cut? masks rule = some cut) (hmixed : IsMixed dialect rule) :
    cut.isException = true ∧
      ∃ domains, IsLeftmost dialect rule domains false ∧
        domains <+: cut.domains ∧ domains ≠ cut.domains := by
  obtain ⟨hcut, -, hforms⟩ := exists_of_cut? h
  obtain ⟨⟨domains, hnormal⟩, mask, hmask, hoccurs⟩ := hmixed
  obtain rfl := (hmasks _ _).1 hmask
  have hexception := hforms.1 hoccurs
  refine ⟨hexception, domains, hnormal, ?_, ?_⟩
  · exact hnormal.prefix_of_mask _ _ _ ((hmasks _ _).2 rfl) hcut
  · intro heq
    have hleftmost : IsLeftmost dialect rule cut.domains cut.isException :=
      ⟨⟨_, (hmasks _ _).2 rfl, hcut⟩, heq ▸ hnormal.prefix_of_mask⟩
    have hform := (hleftmost.unique hnormal).2
    rw [hexception] at hform
    contradiction

end TwoForms

section Dialects

def cutOf? : Dialect → Text → Option Cut
  | .adg => cut? adg
  | .ubo => cutUbo?
  | .abp => cut? abp

/-- A rule is cut at its leftmost mask, but for mixed rules of AdGuard and Adblock Plus. -/
theorem isLeftmost_iff_of_cutOf? (h : cutOf? dialect rule = some cut) :
    IsLeftmost dialect rule cut.domains cut.isException ↔
      dialect = .ubo ∨ ¬ IsMixed dialect rule := by
  cases dialect with
  | adg => simpa using isLeftmost_iff_of_cut? (fun _ _ => Iff.rfl) h
  | ubo => simpa using isLeftmost_of_cutUbo? h
  | abp => simpa using isLeftmost_iff_of_cut? (fun _ _ => Iff.rfl) h

theorem exists_isLeftmost_of_cutOf? (h : cutOf? dialect rule = some cut) (hne : dialect ≠ .ubo)
    (hmixed : IsMixed dialect rule) :
    cut.isException = true ∧
      ∃ domains, IsLeftmost dialect rule domains false ∧
        domains <+: cut.domains ∧ domains ≠ cut.domains := by
  cases dialect with
  | adg => exact exists_isLeftmost_of_isMixed (fun _ _ => Iff.rfl) h hmixed
  | ubo => exact absurd rfl hne
  | abp => exact exists_isLeftmost_of_isMixed (fun _ _ => Iff.rfl) h hmixed

end Dialects

end FilterDialects.Mask
