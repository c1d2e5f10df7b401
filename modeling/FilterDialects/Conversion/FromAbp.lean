import FilterDialects.Conversion.Error
import FilterDialects.Registry.Basic
import FilterDialects.Scriptlet.Parser
import FilterDialects.Scriptlet.Printer

/-!
# From Adblock Plus to AdGuard

A snippet rule becomes one AdGuard rule for each of its statements, in order. A snippet
keeps its name under the `abp-` mark and its arguments are quoted; if one argument of
any statement cannot be, the whole rule fails.
-/

namespace FilterDialects

namespace FromAbp

def convertStatement (rule : ScriptletRule) : Except SyntaxError ScriptletRule :=
  (checkAllQuotable rule.args).map fun _ => { rule with name := Registry.abpMark ++ rule.name }

/-- The AdGuard rules of snippet statements, or the fault of the first that fails. -/
def convertAll : List ScriptletRule → Except SyntaxError (List ScriptletRule)
  | [] => .ok []
  | rule :: rules =>
    match convertStatement rule with
    | .error fault => .error fault
    | .ok converted => (convertAll rules).map (converted :: ·)

end FromAbp

/-- Convert an Adblock Plus snippet rule to AdGuard rules. A comment stays. -/
def abpSnippetToAdg (rule : Text) : Except ConversionError (List Text) :=
  if Mask.isComment rule then .ok [rule]
  else
    ConversionError.ofSyntax <|
      ((ScriptletRule.parseAbp rule).bind FromAbp.convertAll).map
        (List.map ScriptletRule.toAdg)

end FilterDialects
