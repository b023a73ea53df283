import FilteringProxy.Text.Basic

/-! # Failures of connections

What is said about a failure that has causes, and how a failure of a secure connection is told from
others when only what is said about it is known.
-/

namespace FilteringProxy.Failure

/-- A text with the message of one more cause, unless the text holds it already. -/
def addCause (said message : Text) : Text :=
  if said.hasPart message then said else said ++ (": " : Text) ++ message

/-- One line about a failure and its causes, given the message of each. -/
def describe : List Text → Text
  | [] => []
  | message :: causes => causes.foldl addCause message

/-- The words that only messages about secure connections have. -/
def tlsWords : List Text := ["tls", "certificate", "handshake", "alert"]

/-- The message is about a secure connection that failed as such. -/
def isTls (message : Text) : Bool := tlsWords.any message.lower.hasPart

end FilteringProxy.Failure
