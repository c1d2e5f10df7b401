import FilterDialects.Dialect
import FilterDialects.Table.Basic

/-!
# Events

Building a registry and answering questions about rules emit events. An event is a value
that says what happened; its level, its wording and its fields follow from it.
-/

namespace FilterDialects

/-- How much attention an event asks for. -/
inductive Level where
  | trace
  | debug
  | warn
  deriving DecidableEq

inductive FieldValue where
  | text (value : Text)
  | count (value : Nat)
  deriving DecidableEq

/-- Something that happened on the way to an answer. -/
inductive Event where
  /-- A rule was classified. -/
  | classified (rule : Text) (kind : RuleKind)
  /-- A registry was built with so many entries. -/
  | registryBuilt (scriptlets redirects : Nat)
  /-- An alias belongs to an entry already and was ignored for another one. -/
  | aliasShared (list : Section) (shared kept ignored : Text)
  /-- An AdGuard rule was dropped, since its scriptlet is unknown. -/
  | unknownRuleDropped (rule : Text)
  /-- A scriptlet is unknown, so its rule has no uBlock Origin form. -/
  | scriptletUnknown (name : Text)
  /-- A scriptlet is known, but not to uBlock Origin. -/
  | scriptletWithoutUbo (name : Text)
  /-- A scriptlet rule could not be converted, for the reason given. -/
  | notConvertible (rule reason : Text)
  deriving DecidableEq

namespace Event

def level : Event → Level
  | classified .. | notConvertible .. => .trace
  | registryBuilt .. | unknownRuleDropped _ | scriptletUnknown _ | scriptletWithoutUbo _ => .debug
  | aliasShared .. => .warn

def message : Event → Text
  | classified .. => "classified rule".toList
  | registryBuilt .. => "built compatibility registry".toList
  | aliasShared list .. =>
    list.word ++ " alias is listed for more than one AdGuard name".toList
  | unknownRuleDropped _ => "dropping AdGuard scriptlet rule with unknown name".toList
  | scriptletUnknown _ => "unknown scriptlet, not converting to uBO".toList
  | scriptletWithoutUbo _ => "scriptlet has no uBO equivalent".toList
  | notConvertible .. => "scriptlet rule does not convert".toList

def fields : Event → List (Text × FieldValue)
  | classified rule kind =>
    [("rule".toList, .text rule), ("kind".toList, .text kind.name)]
  | registryBuilt scriptlets redirects =>
    [("scriptlets".toList, .count scriptlets), ("redirects".toList, .count redirects)]
  | aliasShared _ shared kept ignored =>
    [("alias".toList, .text shared), ("kept".toList, .text kept),
     ("ignored".toList, .text ignored)]
  | unknownRuleDropped rule => [("rule".toList, .text rule)]
  | scriptletUnknown name | scriptletWithoutUbo name => [("name".toList, .text name)]
  | notConvertible rule reason => [("rule".toList, .text rule), ("error".toList, .text reason)]

end Event

end FilterDialects
