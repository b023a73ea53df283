import FilteringProxy.Text.Blank
import FilteringProxy.Http.Headers

/-! # Headers of one connection

Some headers speak about a single connection and are not passed on: those with fixed names, and
those that the `connection` header lists.
-/

namespace FilteringProxy.Http

/-- The names of headers that always speak about a single connection. -/
def hopNames : List Text :=
  ["connection", "proxy-connection", "keep-alive", "proxy-authenticate", "proxy-authorization",
    "te", "trailer", "transfer-encoding", "upgrade"]

namespace Headers

/-- The elements of all readable values of a name: what stands between commas, without blanks. -/
def elements (h : Headers) (name : Text) : List Text :=
  (h.texts name).flatMap fun value => (Text.splitOn ',' value).map Text.trim

/-- Some element is the word, whatever the case of its letters. -/
def hasElement (h : Headers) (name word : Text) : Bool :=
  (h.elements name).any fun element => Text.sameLetters element word

def listedNames (h : Headers) : List Text := (h.elements "connection").filterMap fieldName?

/-- The headers without those that speak about a single connection. -/
def withoutHop (h : Headers) : Headers :=
  let listed := h.listedNames
  ⟨h.fields.filter fun f => !(hopNames.contains f.name || listed.contains f.name)⟩

def asksForWebSocket (h : Headers) : Bool :=
  h.hasElement "connection" "upgrade" && h.hasElement "upgrade" "websocket"

end Headers

end FilteringProxy.Http
