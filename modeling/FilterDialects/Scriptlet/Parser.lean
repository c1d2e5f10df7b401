import FilterDialects.ArgumentList
import FilterDialects.Scriptlet.Basic
import FilterDialects.Scriptlet.Mask
import FilterDialects.Text.Delimited
import FilterDialects.Text.Sentence

/-!
# Reading scriptlet rules

One reader for each dialect. Each cuts the rule around the mask of its dialect and reads
the rest as the dialect writes its arguments: AdGuard as a quoted list, uBlock Origin as
a parenthesised list with bare elements, Adblock Plus as statements between semicolons,
each of which becomes a rule of its own.
-/

namespace FilterDialects.ScriptletRule

/-- Read an AdGuard rule such as `example.org#%#//scriptlet('log', 'hello')`. -/
def parseAdg (rule : Text) : Except SyntaxError ScriptletRule :=
  match Mask.cut? Mask.adg rule with
  | none => .error .missingArguments
  | some cut =>
    match Text.trim cut.body with
    | [] => .error .missingArguments
    | list => (ArgumentList.parse list).bind (ofElements cut.domains cut.isException)

/-- The text between an opening parenthesis at the front and a closing one at the end. -/
def parenthesised? (t : Text) : Option Text :=
  (['('].isPrefixOf? t).bind ([')'].isSuffixOf? ·)

/-- The elements of a uBlock Origin argument list, none when it is blank. -/
def uboElements (list : Text) : List Text :=
  if Text.trim list = [] then [] else Text.splitUnescaped ',' list

/-- Read a uBlock Origin rule such as `example.org##+js(log, hello)`. -/
def parseUbo (rule : Text) : Except SyntaxError ScriptletRule :=
  match Mask.cutUbo? rule with
  | none => .error .missingArguments
  | some cut =>
    match parenthesised? (Text.trim cut.body) with
    | none => .error .missingArguments
    | some list => ofElements cut.domains cut.isException (uboElements list)

/-- The rule of one snippet statement, none when it has no words. -/
def ofStatement? (domains : Text) (isException : Bool) (statement : Text) :
    Option ScriptletRule :=
  match Text.splitSentence statement with
  | [] => none
  | name :: args => some ⟨domains, isException, Text.stripQuotes name, args⟩

/-- Read an Adblock Plus rule such as `example.org#$#log hello; log again`: one rule for
each statement, in order. -/
def parseAbp (rule : Text) : Except SyntaxError (List ScriptletRule) :=
  match Mask.cut? Mask.abp rule with
  | none => .error .missingArguments
  | some cut =>
    match (Text.splitOutsideQuotes ';' cut.body).filterMap
        (ofStatement? cut.domains cut.isException) with
    | [] => .error .emptySnippet
    | statements => .ok statements

end FilterDialects.ScriptletRule
