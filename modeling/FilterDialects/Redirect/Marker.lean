import FilterDialects.Text.Basic

/-!
# Redirect markers

A redirect rule names its resource in a modifier that starts with one of three keys. Two
of them belong to AdGuard and uBlock Origin, the third only to Adblock Plus.
-/

namespace FilterDialects

/-- The kinds of modifier that name a redirect resource. -/
inductive RedirectMarker where
  /-- Redirect and block, AdGuard and uBlock Origin. -/
  | redirect
  /-- Redirect what another rule blocks, AdGuard and uBlock Origin. -/
  | redirectRule
  /-- Answer from a resource, Adblock Plus. -/
  | abpResource
  deriving DecidableEq

namespace RedirectMarker

def key : RedirectMarker → Text
  | redirect => "redirect=".toList
  | redirectRule => "redirect-rule=".toList
  | abpResource => "rewrite=abp-resource:".toList

def all : List RedirectMarker := [redirect, redirectRule, abpResource]

def of? (modifier : Text) : Option RedirectMarker :=
  all.find? fun marker => marker.key.isPrefixOf modifier

theorem mem_all (marker : RedirectMarker) : marker ∈ all := by
  cases marker <;> decide

end RedirectMarker

end FilterDialects
