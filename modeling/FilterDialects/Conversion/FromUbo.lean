import FilterDialects.Conversion.Error
import FilterDialects.Registry.Basic
import FilterDialects.Scriptlet.Parser
import FilterDialects.Scriptlet.Printer
import FilterDialects.Selector

/-!
# From uBlock Origin to AdGuard

A uBlock Origin scriptlet keeps its name under the `ubo-` mark and with a `.js`
extension, and its arguments are quoted. Two of its habits need care: a lone `$` stands
for itself only when it is doubled in AdGuard, and the scriptlets that remove attributes
and classes take a selector whose commas may have spread it over several arguments.

A selector that was put together again is checked before it is embedded, if the options
ask for that.
-/

namespace FilterDialects

structure Options where
  /-- Whether a selector put together from several arguments is checked. -/
  checkSelectors : Bool := true
  deriving DecidableEq

namespace FromUbo

/-- Double an argument that is a lone `$`. -/
def doubleDollar (argument : Text) : Text :=
  if argument = ['$'] then ['$', '$'] else argument

/-- The scriptlets whose second argument is a selector. -/
def selectorScriptlets : List Text :=
  ["remove-attr".toList, "ra".toList, "remove-class".toList, "rc".toList]

/-- The words that say when such a scriptlet applies. -/
def applyingWords : List Text :=
  ["asap".toList, "stay".toList, "complete".toList]

/-- Whether an argument says when a scriptlet applies: it has words, and all of them are
applying words. -/
def isApplying (argument : Text) : Bool :=
  let words := Text.words argument
  !words.isEmpty && words.all applyingWords.contains

/-- Set a last argument aside that says when the scriptlet applies. -/
def splitApplying (args : List Text) : List Text × List Text :=
  match args.getLast? with
  | some last => if isApplying last then (args.dropLast, [last]) else (args, [])
  | none => (args, [])

/-- Put the selector together that all arguments but the first spell. -/
def gluedSelector (args : List Text) : Text :=
  ", ".toList.intercalate args.tail

/-- Put a selector together that is spread over several arguments. -/
def joinSelector (options : Options) (args : List Text) : Except SyntaxError (List Text) :=
  match splitApplying args with
  | (name :: piece :: pieces, applying) =>
    let selector := gluedSelector (name :: piece :: pieces)
    if options.checkSelectors && !Selector.isValid selector then
      .error (.invalidSelector selector)
    else .ok (name :: selector :: applying)
  | (few, applying) => .ok (few ++ applying)

def plainName (name : Text) : Text :=
  dropJs (Text.stripQuotes name)

def convertArgs (options : Options) (name : Text) (args : List Text) :
    Except SyntaxError (List Text) :=
  let args := args.map doubleDollar
  if selectorScriptlets.contains name && decide (1 < args.length) then joinSelector options args
  else .ok args

def convertRule (options : Options) (rule : ScriptletRule) : Except SyntaxError ScriptletRule :=
  if rule.name = [] then .ok rule
  else
    let name := plainName rule.name
    match convertArgs options name rule.args with
    | .error fault => .error fault
    | .ok args =>
      (checkAllQuotable args).map fun _ =>
        { rule with name := Registry.uboMark ++ name ++ ".js".toList, args := args }

end FromUbo

/-- Convert a uBlock Origin scriptlet rule to AdGuard. A comment stays. -/
def uboScriptletToAdg (options : Options) (rule : Text) : Except ConversionError Text :=
  if Mask.isComment rule then .ok rule
  else
    ConversionError.ofSyntax <|
      ((ScriptletRule.parseUbo rule).bind (FromUbo.convertRule options)).map ScriptletRule.toAdg

end FilterDialects
