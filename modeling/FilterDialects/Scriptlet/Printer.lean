import FilterDialects.Scriptlet.Basic
import FilterDialects.Scriptlet.Mask
import FilterDialects.Text.Delimited

/-!
# Writing scriptlet rules

A rule is written in AdGuard syntax with its name and every argument in single quotes,
and in uBlock Origin syntax with bare elements whose commas carry a backslash. The
list of a rule without a name stays empty.
-/

namespace FilterDialects.ScriptletRule

def joinElements (elements : List Text) : Text :=
  ", ".toList.intercalate elements

/-- Put domains, mask and argument list together. -/
def assemble (domains mask list : Text) : Text :=
  domains ++ mask ++ '(' :: list ++ [')']

def adgList (rule : ScriptletRule) : Text :=
  if rule.name = [] ∧ rule.args = [] then []
  else joinElements ((rule.name :: rule.args).map Text.singleQuoted)

/-- The argument list of a rule in uBlock Origin syntax. Empty elements are left out only
when the rule has no name. -/
def uboList (rule : ScriptletRule) : Text :=
  let elements := rule.name :: rule.args.map (Text.escapeDelimiter ',')
  joinElements (if rule.name = [] then elements.filter (· ≠ []) else elements)

def toAdg (rule : ScriptletRule) : Text :=
  assemble rule.domains (Mask.adg rule.isException) rule.adgList

def toUbo (rule : ScriptletRule) : Text :=
  assemble rule.domains (Mask.ubo rule.isException) rule.uboList

end FilterDialects.ScriptletRule
