import FilteringProxy.Rehearsal.Run

/-! # Reports of rehearsals

What is told of the messages that a client or an origin gets: nothing that depends on the day or on
how a body is cut into pieces, and no words of other programs about their failures.
-/

namespace FilteringProxy.Rehearsal

open Http (Headers)

def unreportedNames : List Text := ["date", "content-length", "transfer-encoding"]

def reportedHeaders (h : Headers) : Headers :=
  ⟨h.fields.filter fun f => !unreportedNames.contains f.name⟩

/-- What the proxy says in its own words when something takes too long. -/
def ownWords : List Text :=
  ["upstream request timed out", "connect timed out", "TLS handshake timed out"]

structure ReportedBody where
  /-- The body, unless it is in the words of other programs. -/
  text : Option Text
  /-- For an answer about a failure: whether it is about a secure connection. -/
  isTls : Option Bool := none
  deriving Repr, DecidableEq

/-- What is told of the body of an answer. -/
def reportedBody (status : Nat) (body : Bytes) : ReportedBody :=
  let text := Utf8.decodeLenient body
  if status = 502 then
    { text := if ownWords.contains text then some text else none
      isTls := some (Failure.isTls text) }
  else { text := some text }

end FilteringProxy.Rehearsal
