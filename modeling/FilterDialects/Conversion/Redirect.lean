import FilterDialects.Classify
import FilterDialects.Conversion.Error

/-!
# Converting redirect rules

Towards AdGuard a redirect rule gets the canonical name of its resource; the short
content types of uBlock Origin are spelled out and the marker of Adblock Plus becomes
the plain one. Towards uBlock Origin a rule without any content type gets those that its
resource implies.

A priority is never carried over. The checks at the end tell, without converting, which
rules have a form in the other dialect.
-/

namespace FilterDialects

/-- Convert a uBlock Origin redirect rule to AdGuard. A comment stays. -/
def uboRedirectToAdg? (registry : Registry) (rule : Text) : Option Text :=
  if Mask.isComment rule then some rule
  else
    (RedirectRule.parse? rule).bind fun redirect =>
      if redirect.marker = .abpResource then none
      else
        (registry.redirectOfUbo? redirect.resource).map fun name =>
          redirect.withResource redirect.marker name ContentType.expand []

/-- Convert an Adblock Plus redirect rule to AdGuard. A comment stays. -/
def abpRedirectToAdg? (registry : Registry) (rule : Text) : Option Text :=
  if Mask.isComment rule then some rule
  else
    (RedirectRule.parse? rule).bind fun redirect =>
      if redirect.marker = .abpResource then
        (registry.redirectOfAbp? redirect.resource).map fun name =>
          redirect.withResource .redirect name id []
      else none

def redirectToAdg? (registry : Registry) (rule : Text) : Option Text :=
  match classify registry rule with
  | .comment | .redirect .adg => some rule
  | .redirect .ubo => uboRedirectToAdg? registry rule
  | .redirect .abp => abpRedirectToAdg? registry rule
  | .scriptlet _ | .other => none

/-- Read a redirect rule that is not a comment. -/
def redirectRule? (rule : Text) : Option RedirectRule :=
  if Mask.isComment rule then none else RedirectRule.parse? rule

/-- Read a redirect rule that names an AdGuard resource. -/
def adgRedirectRule? (registry : Registry) (rule : Text) : Option RedirectRule :=
  (redirectRule? rule).filter fun redirect =>
    redirect.marker != .abpResource && registry.isAdgRedirect redirect.resource

def adgRedirectToUbo (registry : Registry) (rule : Text) : Except ConversionError Text :=
  match adgRedirectRule? registry rule with
  | none => .error (.unsupportedRedirect rule)
  | some redirect =>
    match registry.redirectToUbo? redirect.resource with
    | none => .error (.unsupportedRedirect rule)
    | some name =>
      if redirect.hasContentType then .ok (redirect.withResource redirect.marker name id [])
      else
        match registry.contentTypes? redirect.resource with
        | none => .error (.missingContentType rule)
        | some types => .ok (redirect.withResource redirect.marker name id types)

/-- Whether a rule has exactly one modifier that names a resource, and AdGuard knows that
resource. -/
def isValidAdgRedirect (registry : Registry) (rule : Text) : Bool :=
  (adgRedirectRule? registry rule).any RedirectRule.hasSingleMarker

def hasAdgFormOfUbo (registry : Registry) (rule : Text) : Bool :=
  (redirectRule? rule).any fun redirect =>
    redirect.marker != .abpResource && (registry.redirectOfUbo? redirect.resource).isSome

def hasAdgFormOfAbp (registry : Registry) (rule : Text) : Bool :=
  (redirectRule? rule).any fun redirect =>
    redirect.marker == .abpResource && (registry.redirectOfAbp? redirect.resource).isSome

/-- Whether the resource of an AdGuard redirect rule has a uBlock Origin name. -/
def hasUboForm (registry : Registry) (rule : Text) : Bool :=
  (adgRedirectRule? registry rule).any fun redirect =>
    (registry.redirectToUbo? redirect.resource).isSome

def hasContentType (rule : Text) : Bool :=
  (redirectRule? rule).any RedirectRule.hasContentType

end FilterDialects
