import FilterDialects.Text.Blank

/-!
# Masks

The mask is the part of a scriptlet rule that separates the domains from the arguments,
and it tells the dialect. Each mask has a normal form and an exception form with an `@`,
which switches the scriptlet off.

A uBlock Origin rule is written with `+js` or the older `script:inject`, and blanks may
stand before `+js`. The mask of an Adblock Plus snippet also separates the domains of a
CSS injection rule from its declarations, so a rule of that shape is not a snippet.
-/

namespace FilterDialects.Mask

def adg (isException : Bool) : Text :=
  if isException then "#@%#//scriptlet".toList else "#%#//scriptlet".toList

def ubo (isException : Bool) : Text :=
  if isException then "#@#+js".toList else "##+js".toList

/-- The older mask of a uBlock Origin scriptlet rule. -/
def uboInject (isException : Bool) : Text :=
  if isException then "#@#script:inject".toList else "##script:inject".toList

def abp (isException : Bool) : Text :=
  if isException then "#@$#".toList else "#$#".toList

structure Cut where
  /-- The text before the mask. -/
  domains : Text
  /-- Whether the mask is the exception form. -/
  isException : Bool
  /-- The text after the mask. -/
  body : Text
  deriving DecidableEq

/-- Cut a rule around a mask that has two forms. The exception form is looked for in the
whole rule first. -/
def cut? (mask : Bool → Text) (rule : Text) : Option Cut :=
  match Text.cutMask? (mask true) rule with
  | some (domains, body) => some ⟨domains, true, body⟩
  | none => (Text.cutMask? (mask false) rule).map fun (domains, body) => ⟨domains, false, body⟩

/-- Read what follows the second `#` of a uBlock Origin mask. -/
def readUboWord? (t : Text) : Option Text :=
  ("script:inject".toList.isPrefixOf? t).or ("+js".toList.isPrefixOf? (Text.trimStart t))

/-- Read a uBlock Origin mask at the front of a text: whether it is the exception form,
and the text after it. -/
def readUbo? : Text → Option (Bool × Text)
  | '#' :: '@' :: '#' :: t => (readUboWord? t).map (true, ·)
  | '#' :: '#' :: t => (readUboWord? t).map (false, ·)
  | _ => none

/-- Cut a rule around its leftmost uBlock Origin mask. -/
def cutUbo? (rule : Text) : Option Cut :=
  (Text.cut? readUbo? rule).map fun (domains, isException, body) => ⟨domains, isException, body⟩

/-- Whether a text is what may stand between the mask and the closing brace of a CSS
injection rule: a selector, a brace and declarations, all on one line. -/
def isStyleBody (t : Text) : Bool :=
  !t.contains '\n' && t.tail.contains '{'

/-- Read the mask and the body of a CSS injection rule, up to its closing brace. -/
def readStyle? (t : Text) : Option Text :=
  let body? := (abp true).isPrefixOf? t |>.or ((abp false).isPrefixOf? t)
  body?.filter isStyleBody

/-- Whether a rule injects CSS, as `#$#body { color: red }` does. -/
def isStyleRule (rule : Text) : Bool :=
  match ['}'].isSuffixOf? (Text.trimEnd rule) with
  | some opened => (Text.cut? readStyle? opened).isSome
  | none => false

def isComment (rule : Text) : Bool :=
  rule.head? = some '!'

def isAdgScriptlet (rule : Text) : Bool :=
  !isComment rule && (rule.containsMask (adg false) || rule.containsMask (adg true))

/-- Whether a rule carries the mask of a uBlock Origin scriptlet rule. One of the four
plain masks has to occur, so a mask with blanks inside counts only next to a plain one. -/
def isUboScriptlet (rule : Text) : Bool :=
  !isComment rule &&
    (rule.containsMask (ubo false) || rule.containsMask (uboInject false) ||
      rule.containsMask (ubo true) || rule.containsMask (uboInject true)) &&
    (cutUbo? rule).isSome

/-- Whether a rule carries the mask of an Adblock Plus snippet rule and does not inject
CSS. -/
def isAbpSnippet (rule : Text) : Bool :=
  !isComment rule && (rule.containsMask (abp false) || rule.containsMask (abp true)) &&
    !isStyleRule rule

end FilterDialects.Mask
