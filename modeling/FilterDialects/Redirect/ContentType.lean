import FilterDialects.Text.Basic

/-!
# Content types

uBlock Origin wants a redirect rule to say what kind of request it answers. The types it
accepts are ordinary modifiers, three of which it also spells in a short form.
-/

namespace FilterDialects.ContentType

/-- The content types that satisfy uBlock Origin. -/
def all : List Text :=
  ["image".toList, "media".toList, "subdocument".toList, "stylesheet".toList, "script".toList,
   "xmlhttprequest".toList, "other".toList]

/-- The short forms of content types, positive and negated, and their long forms. -/
def shorthands : List (Text × Text) :=
  [("xhr".toList, "xmlhttprequest".toList), ("~xhr".toList, "~xmlhttprequest".toList),
   ("css".toList, "stylesheet".toList), ("~css".toList, "~stylesheet".toList),
   ("frame".toList, "subdocument".toList), ("~frame".toList, "~subdocument".toList)]

/-- Spell out a content type in short form; any other modifier stays. -/
def expand (modifier : Text) : Text :=
  (shorthands.lookup modifier).getD modifier

def isContentType (modifier : Text) : Bool :=
  all.contains (expand modifier)

/-- The content types that a redirect resource implies. A resource that is not listed
implies none. -/
def impliedBy : List (Text × List Text) :=
  [("nooptext".toList, all),
   ("noopcss".toList, ["stylesheet".toList]),
   ("noopjs".toList, ["script".toList]),
   ("noopframe".toList, ["subdocument".toList]),
   ("1x1-transparent.gif".toList, ["image".toList]),
   ("noopmp3-0.1s".toList, ["media".toList]),
   ("noopmp4-1s".toList, ["media".toList]),
   ("googlesyndication-adsbygoogle".toList, ["xmlhttprequest".toList, "script".toList]),
   ("google-analytics".toList, ["script".toList]),
   ("googletagservices-gpt".toList, ["script".toList])]

/-- The content types to give a rule that redirects to an AdGuard resource and names
none. -/
def implied? (resource : Text) : Option (List Text) :=
  impliedBy.lookup resource

end FilterDialects.ContentType
