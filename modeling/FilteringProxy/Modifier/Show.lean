import FilteringProxy.Modifier.Basic

/-! # Modifiers in words

The written form of a modifier's meaning, for people who look into a rule: the name of every part
followed by what it holds.
-/

namespace FilteringProxy.Show

/-- A name with one thing in parentheses. -/
def call (name : String) (inner : Text) : Text :=
  (name : Text) ++ ['('] ++ inner ++ [')']

def record (name : String) (parts : List (String × Text)) : Text :=
  (name : Text) ++ (" \x7b " : Text) ++
    Text.join ", " (parts.map fun (label, value) => (label : Text) ++ (": " : Text) ++ value) ++
    (" \x7d" : Text)

/-- Things between brackets. -/
def row (items : List Text) : Text := ['['] ++ Text.join ", " items ++ [']']

def truth (b : Bool) : Text := if b then "true" else "false"

def regex (r : RegexLiteral) : Text := ['/'] ++ r.source ++ ['/']

def domainEntry : DomainEntry → Text
  | .below domain => call "Suffix" (Text.quote domain)
  | .anyTop stem => call "Tld" (Text.quote stem)
  | .pattern r => call "Regex" (regex r)

def contentType : ContentType → Text
  | .document => "Document"
  | .fetch => "XmlHttpRequest"
  | .font => "Font"
  | .frame => "Subdocument"
  | .image => "Image"
  | .object => "Object"
  | .script => "Script"
  | .stylesheet => "Stylesheet"
  | .media => "Media"
  | .other => "Other"

def valueCondition : ValueCondition → Text
  | .any => "Any"
  | .exactly text => call "Exact" (Text.quote text)
  | .pattern r => call "Regex" (regex r)

def condition : Condition → Text
  | .domain c =>
    call "Domain" (record "DomainModifier"
      [("entries", row (c.entries.map domainEntry)), ("inverted", truth c.inverted)])
  | .method c =>
    call "Method" (record "MethodModifier"
      [("methods", row (c.methods.map Text.quote)), ("inverted", truth c.inverted)])
  | .content c =>
    call "ContentType" (record "ContentTypeModifier"
      [("content_type", contentType c.kind), ("inverted", truth c.inverted)])
  | .party c => call "ThirdParty" (record "ThirdPartyModifier" [("inverted", truth c.inverted)])
  | .header c =>
    call "Header" (record "HeaderModifier"
      [("name", Text.quote c.name), ("value", valueCondition c.value)])

def parameterChoice : ParameterChoice → Text
  | .all => "All"
  | .named name => call "Exact" (Text.quote name)
  | .notNamed name => call "ExactInverse" (Text.quote name)
  | .pattern r => call "Regex" (regex r)
  | .notPattern r => call "RegexInverse" (regex r)

def cookieChoice : CookieChoice → Text
  | .all => "All"
  | .named name => call "Name" (Text.quote name)
  | .pattern r => call "Regex" (regex r)

def side : Side → Text
  | .request => "Request"
  | .response => "Response"

def edit : Edit → Text
  | .parameters c =>
    call "RemoveParam" (record "RemoveParamModifier" [("param", parameterChoice c)])
  | .header c =>
    call "RemoveHeader" (record "RemoveHeaderModifier"
      [("name", Text.quote c.name), ("scope", side c.side)])
  | .cookies c => call "Cookie" (record "CookieModifier" [("cookie", cookieChoice c)])

def modifier : Option Modifier → Text
  | none => "None"
  | some (.condition c) => call "Some" (call "Matching" (condition c))
  | some (.edit e) => call "Some" (call "Modifying" (edit e))

end FilteringProxy.Show
