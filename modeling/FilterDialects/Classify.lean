import FilterDialects.Redirect.Basic
import FilterDialects.Registry.Basic
import FilterDialects.Scriptlet.Mask

/-!
# Classifying rules

The masks of a rule tell whether it is a scriptlet rule and of which dialect. A rule with
the masks of several dialects is none of them, since there is no telling which was
meant. A rule without any mask is a redirect rule if it reads as one: the Adblock Plus
marker tells its dialect, for the other markers the resource does, an AdGuard name first.
-/

namespace FilterDialects

/-- The dialects whose scriptlet mask a rule carries. -/
def maskDialects (rule : Text) : List Dialect :=
  (if Mask.isAdgScriptlet rule then [.adg] else []) ++
    (if Mask.isUboScriptlet rule then [.ubo] else []) ++
      (if Mask.isAbpSnippet rule then [.abp] else [])

/-- The dialect of a redirect rule, none when neither AdGuard nor uBlock Origin knows its
resource. -/
def redirectDialect? (registry : Registry) (rule : RedirectRule) : Option Dialect :=
  if rule.marker = .abpResource then some .abp
  else if registry.isAdgRedirect rule.resource then some .adg
  else if (registry.redirectOfUbo? rule.resource).isSome then some .ubo
  else none

def classify (registry : Registry) (rule : Text) : RuleKind :=
  if Mask.isComment rule then .comment
  else
    match maskDialects rule with
    | [] =>
      match (RedirectRule.parse? rule).bind (redirectDialect? registry) with
      | some dialect => .redirect dialect
      | none => .other
    | [dialect] => .scriptlet dialect
    | _ :: _ :: _ => .other

/-- The events of classifying a rule: a comment passes without any. -/
def classifyEvents (registry : Registry) (rule : Text) : List Event :=
  if Mask.isComment rule then [] else [.classified rule (classify registry rule)]

theorem classify_eq_comment_iff {registry : Registry} {rule : Text} :
    classify registry rule = .comment ↔ Mask.isComment rule = true := by
  simp only [classify]
  split
  · simp_all
  · split
    · split <;> simp_all
    · simp_all
    · simp_all

end FilterDialects
