import FilterDialects.Redirect.ContentType
import FilterDialects.Redirect.Marker
import FilterDialects.Redirect.Priority
import FilterDialects.Text.Blank

/-!
# Redirect rules

A redirect rule is a network rule one of whose modifiers names the mock resource that
answers the request, as in `||example.com/ads.js$script,redirect=noopjs`. The rule is
held around that modifier: the modifiers before it, its marker and value, the modifiers
after it. Every other question about the rule is answered from these parts.

`withResource` puts another resource in place of the chosen one and drops whatever else
names a resource, so its result names exactly one.
-/

namespace FilterDialects

/-- A network rule with a modifier that names a redirect resource. -/
structure RedirectRule where
  /-- Everything before the modifiers, a leading `@@` included. -/
  base : Text
  /-- The modifiers before the one that names the resource. -/
  before : List Text
  /-- The kind of the modifier that names the resource. -/
  marker : RedirectMarker
  /-- What that modifier says behind its key. -/
  value : Text
  /-- The modifiers after the one that names the resource. -/
  after : List Text
  deriving DecidableEq

namespace RedirectRule

/-- Cut a row of modifiers around the first of a kind: those before it, its value, and
those after it. -/
def cutModifiers? (marker : RedirectMarker) : List Text → Option (List Text × Text × List Text)
  | [] => none
  | modifier :: modifiers =>
    match marker.key.isPrefixOf? modifier with
    | some value => some ([], value, modifiers)
    | none =>
      (cutModifiers? marker modifiers).map fun (before, value, after) =>
        (modifier :: before, value, after)

/-- Whether the markers of one rule go together: neither AdGuard marker repeats, and the
Adblock Plus marker stands alone. -/
def areCompatible (markers : List RedirectMarker) : Bool :=
  decide (markers.count .redirect ≤ 1) && decide (markers.count .redirectRule ≤ 1) &&
    (decide (markers.count .abpResource = 0) || decide (markers.length ≤ 1))

/-- Read a redirect rule. The modifiers follow the last `$`; of two markers that go
together the preferred one names the resource. -/
def parse? (line : Text) : Option RedirectRule :=
  match Text.cutLast? '$' line with
  | none => none
  | some (base, options) =>
    let modifiers := (options.splitOn ',').map Text.trim
    let markers := modifiers.filterMap RedirectMarker.of?
    if areCompatible markers then
      (RedirectMarker.all.find? markers.contains).bind fun marker =>
        (cutModifiers? marker modifiers).map fun (before, value, after) =>
          ⟨base, before, marker, value, after⟩
    else none

/-- Whether the rule allows what it matches. -/
def isException (rule : RedirectRule) : Bool :=
  "@@".toList.isPrefixOf rule.base

def modifiers (rule : RedirectRule) : List Text :=
  rule.before ++ (rule.marker.key ++ rule.value) :: rule.after

/-- The resource without its priority. -/
def resource (rule : RedirectRule) : Text :=
  (Priority.split rule.value).1

/-- The priority of the resource. No conversion carries it over. -/
def priority (rule : RedirectRule) : Option Int :=
  (Priority.split rule.value).2

def hasSingleMarker (rule : RedirectRule) : Bool :=
  (rule.before ++ rule.after).all fun modifier => (RedirectMarker.of? modifier).isNone

def hasContentType (rule : RedirectRule) : Bool :=
  rule.modifiers.any ContentType.isContentType

/-- The modifiers that name no resource, each replaced by its image. -/
def mapPlain (f : Text → Text) (modifiers : List Text) : List Text :=
  (modifiers.filter fun modifier => (RedirectMarker.of? modifier).isNone).map f

/-- Write the rule with `marker` naming `resource` in the place of the chosen modifier,
the plain modifiers replaced by their images, and `extra` modifiers at the end. -/
def withResource (rule : RedirectRule) (marker : RedirectMarker) (resource : Text)
    (f : Text → Text) (extra : List Text) : Text :=
  rule.base ++ '$' ::
    [','].intercalate
      (mapPlain f rule.before ++ (marker.key ++ resource) :: mapPlain f rule.after ++ extra)

theorem append_of_cutModifiers? {marker : RedirectMarker} {modifiers before after : List Text}
    {value : Text} (h : cutModifiers? marker modifiers = some (before, value, after)) :
    before ++ (marker.key ++ value) :: after = modifiers := by
  induction modifiers generalizing before with
  | nil => simp [cutModifiers?] at h
  | cons modifier modifiers ih =>
    simp only [cutModifiers?] at h
    split at h
    · next value' hvalue =>
      obtain ⟨rfl, rfl, rfl⟩ : [] = before ∧ value' = value ∧ modifiers = after := by
        simpa using h
      simp [Text.isPrefixOf?_eq_some.1 hvalue]
    · obtain ⟨⟨before', value', after'⟩, hcut, heq⟩ := Option.map_eq_some_iff.1 h
      obtain ⟨rfl, rfl, rfl⟩ : modifier :: before' = before ∧ value' = value ∧ after' = after := by
        simpa using heq
      simp [ih hcut]

end RedirectRule

end FilterDialects
