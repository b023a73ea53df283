import FilteringProxy.Text.Quoted

/-! # Faults of rule texts

Why a rule line or a modifier list is refused. Every fault is a cause; its wording is given once, by
`message`.
-/

namespace FilteringProxy

inductive ModifierName where
  | domain
  | method
  | header
  | removeparam
  | removeheader
  | cookie
  | thirdParty
  | contentType
  deriving Repr, DecidableEq

def ModifierName.text : ModifierName → Text
  | domain => "domain"
  | method => "method"
  | header => "header"
  | removeparam => "removeparam"
  | removeheader => "removeheader"
  | cookie => "cookie"
  | thirdParty => "third-party"
  | contentType => "content-type"

/-- What is wrong with the value of a modifier. -/
inductive ValueFault where
  | cannotBeInverted
  | missingValue
  | takesNoValue
  | emptyEntry
  | badMethod (written : Text)
  | badFieldName
  | emptyValue
  | emptyParameterName
  | badCookieName
  deriving Repr, DecidableEq

def ValueFault.message : ValueFault → Text
  | cannotBeInverted => "cannot be inverted"
  | missingValue => "missing value"
  | takesNoValue => "takes no value"
  | emptyEntry => "empty entry"
  | badMethod written => ("bad method " : Text) ++ Text.quote written
  | badFieldName => "invalid HTTP header name"
  | emptyValue => "empty value"
  | emptyParameterName => "empty parameter name"
  | badCookieName => "bad cookie name"

/-- Why a rule text is refused. -/
inductive RuleError where
  | unknownFormat
  | emptyModifier
  | unknownModifier (written : Text)
  | invalidModifier (name : ModifierName) (fault : ValueFault)
  /-- Some entries of the value are inverted and others are not. -/
  | mixedInversion (name : ModifierName)
  | invalidRegex (source : Text)
  | protectedHeader (name : Text)
  deriving Repr, DecidableEq

def RuleError.message : RuleError → Text
  | unknownFormat => "unknown rule format"
  | emptyModifier => "empty modifier"
  | unknownModifier written => ("unknown modifier: " : Text) ++ written
  | invalidModifier name fault =>
    ("invalid " : Text) ++ name.text ++ (" modifier: " : Text) ++ fault.message
  | mixedInversion name =>
    name.text ++ (" modifier mixes inverted and non-inverted entries" : Text)
  | invalidRegex source => ("invalid regex: " : Text) ++ source
  | protectedHeader name =>
    ("header " : Text) ++ name ++ (" is forbidden from removal" : Text)

end FilteringProxy
