import FilteringProxy.Http.Message
import FilteringProxy.Text.Blank

/-! # Requests as bytes

How a server reads a request from a connection: a request line, header lines, an empty line, and a
body that the headers measure. A request that is not complete yet is told from one that never can
be; the server answers the latter itself.
-/

namespace FilteringProxy.Http.Wire

/-- Why a server refuses to read on. -/
inductive Refusal where
  | malformed
  | targetTooLong
  | tooManyFields
  /-- The client greets a server of the next version of the protocol. -/
  | nextVersion
  deriving Repr, DecidableEq

/-- The status of the answer to what a server refuses to read. There is no answer in a version that
it does not speak. -/
def Refusal.status? : Refusal → Option Nat
  | malformed => some 400
  | targetTooLong => some 414
  | tooManyFields => some 431
  | nextVersion => none

inductive Reading (α : Type) where
  | incomplete
  | refused (why : Refusal)
  /-- Something was read, and some bytes are left. -/
  | complete (value : α) (rest : Bytes)
  deriving Repr, DecidableEq

/-- Go on reading after what was read. -/
def Reading.andThen (r : Reading α) (next : α → Bytes → Reading β) : Reading β :=
  match r with
  | incomplete => .incomplete
  | refused why => .refused why
  | complete value rest => next value rest

def cr : UInt8 := 13

def lf : UInt8 := 10

def space : UInt8 := 32

def isTokenByte (b : UInt8) : Bool := b < 128 && isTokenChar (Char.ofNat b.toNat)

def isTargetByte (b : UInt8) : Bool := 0x21 ≤ b && b != 0x7F

/-- A byte that may stand around a field value without being part of it. -/
def isPadding (b : UInt8) : Bool := b = 32 || b = 9

def asciiText (bytes : Bytes) : Text := bytes.map fun b => Char.ofNat b.toNat

def readWord (isMember : UInt8 → Bool) (bytes : Bytes) : Reading Bytes :=
  match bytes.takeWhile isMember, bytes.dropWhile isMember with
  | _, [] => .incomplete
  | word, b :: rest =>
    if b = space && word ≠ [] then .complete word rest else .refused .malformed

/-- The two versions that a server reads. -/
def readableVersions : List Version := [.http10, .http11]

def readVersion (bytes : Bytes) : Reading Version :=
  let seen := asciiText (bytes.take 8)
  match readableVersions.find? (·.print == seen) with
  | some version => .complete version (bytes.drop 8)
  | none =>
    if readableVersions.any fun version => Text.startsWith version.print seen then .incomplete
    else .refused .malformed

def readLineEnd : Bytes → Reading Unit
  | [] => .incomplete
  | b :: rest =>
    if b = lf then .complete () rest
    else if b = cr then
      match rest with
      | [] => .incomplete
      | c :: rest => if c = lf then .complete () rest else .refused .malformed
    else .refused .malformed

/-- Where a reader of header lines stands. What it has read so far is in reverse order. -/
inductive FieldState where
  | lineStart
  | name (letters : Bytes)
  /-- In front of a value. -/
  | gap (name : Text)
  | value (name : Text) (bytes : Bytes)
  /-- After a carriage return that ends a value. -/
  | valueEnd (name : Text) (bytes : Bytes)
  /-- After a carriage return at the start of a line. -/
  | headEnd
  deriving Repr, DecidableEq

/-- A field from a name and the reversed bytes of a value, without padding at the end. -/
def fieldOf (name : Text) (reversed : Bytes) : Field :=
  ⟨name, (reversed.dropWhile isPadding).reverse⟩

/-- Read header lines up to an empty line; `fields` holds those read so far, the last one first. -/
def readFields : FieldState → List Field → Bytes → Reading (List Field)
  | _, _, [] => .incomplete
  | .lineStart, fields, b :: rest =>
    if b = lf then .complete fields.reverse rest
    else if b = cr then readFields .headEnd fields rest
    else if isTokenByte b then readFields (.name [b]) fields rest
    else .refused .malformed
  | .headEnd, fields, b :: rest =>
    if b = lf then .complete fields.reverse rest else .refused .malformed
  | .name letters, fields, b :: rest =>
    if b = 0x3A then readFields (.gap (asciiText letters.reverse).lower) fields rest
    else if isTokenByte b then readFields (.name (b :: letters)) fields rest
    else .refused .malformed
  | .gap name, fields, b :: rest =>
    if isPadding b then readFields (.gap name) fields rest
    else if b = lf then readFields .lineStart (fieldOf name [] :: fields) rest
    else if b = cr then readFields (.valueEnd name []) fields rest
    else if isValueByte b then readFields (.value name [b]) fields rest
    else .refused .malformed
  | .value name bytes, fields, b :: rest =>
    if b = lf then readFields .lineStart (fieldOf name bytes :: fields) rest
    else if b = cr then readFields (.valueEnd name bytes) fields rest
    else if isValueByte b then readFields (.value name (b :: bytes)) fields rest
    else .refused .malformed
  | .valueEnd name bytes, fields, b :: rest =>
    if b = lf then readFields .lineStart (fieldOf name bytes :: fields) rest
    else .refused .malformed

def fieldLimit : Nat := 100

/-- Leave out empty lines in front of a request. -/
def skipEmptyLines : Bytes → Bytes
  | [] => []
  | [b] => if b = lf then [] else [b]
  | b :: c :: rest =>
    if b = lf then skipEmptyLines (c :: rest)
    else if b = cr && c = lf then skipEmptyLines rest
    else b :: c :: rest

/-- The head of a request as it stands on the wire. -/
structure RawHead where
  method : Text
  target : Text
  version : Version
  headers : Headers
  deriving Repr, DecidableEq

def readRawHead (bytes : Bytes) : Reading RawHead :=
  (readWord isTokenByte (skipEmptyLines bytes)).andThen fun method rest =>
    (readWord isTargetByte rest).andThen fun target rest =>
      (readVersion rest).andThen fun version rest =>
        (readLineEnd rest).andThen fun _ rest =>
          (readFields .lineStart [] rest).andThen fun fields rest =>
            match Utf8.decode? target with
            | none => .refused .malformed
            | some text =>
              if fieldLimit < fields.length then .refused .tooManyFields
              else .complete ⟨asciiText method, text, version, ⟨fields⟩⟩ rest

/-- What a client of the next version of the protocol says first. -/
def greeting : Bytes := Utf8.encode "PRI * HTTP/2.0\r\n\r\nSM\r\n\r\n"

def readHead (bytes : Bytes) : Reading Request :=
  if bytes.take greeting.length = greeting then .refused .nextVersion
  else
    (readRawHead bytes).andThen fun head rest =>
      match Uri.parse? head.target with
      | some uri => .complete ⟨head.method, uri, head.version, head.headers⟩ rest
      | none =>
        if Uri.lengthLimit < Utf8.size head.target then .refused .targetTooLong
        else .refused .malformed

inductive Framing where
  | length (n : Nat)
  | chunked
  deriving Repr, DecidableEq

/-- What a reader of headers knows about the length of the body. -/
structure Measure where
  /-- There is a transfer encoding; the flag tells whether the last one writes chunks. -/
  encoded : Option Bool := none
  length : Option Nat := none
  deriving Repr, DecidableEq

namespace Measure

/-- The largest length that can be told. -/
def lengthLimit : Nat := 0xFFFFFFFFFFFFFFFF

def endsChunked (value : Bytes) : Bool :=
  match readable? value with
  | some t => Text.sameLetters (Text.trim ((Text.splitOn ',' t).getLast?.getD [])) "chunked"
  | none => false

/-- Take note of one header. Encodings came with version 1.1, and after one a length counts for
nothing; lengths must be numbers and agree with each other. -/
def note (version : Version) (m : Measure) (f : Field) : Option Measure :=
  if f.name = "transfer-encoding" then
    if version = .http11 then some { m with encoded := some (endsChunked f.value) } else none
  else if f.name = "content-length" && m.encoded.isNone then do
    let n ← (readable? f.value).bind (Text.toNat? 10)
    if lengthLimit < n then none
    else if m.length.all (· == n) then some { m with length := some n }
    else none
  else some m

end Measure

/-- What the headers say about the body, if they agree with each other. -/
def framing? (version : Version) (headers : Headers) : Option Framing := do
  let m ← headers.fields.foldlM (Measure.note version) {}
  match m.encoded with
  | some true => some .chunked
  | some false => none
  | none => some (.length (m.length.getD 0))

/-- Where a reader of a body in chunks stands. -/
inductive ChunkState where
  /-- In the size of a chunk. -/
  | size (n : Nat) (seen : Bool)
  /-- In what may follow the size. -/
  | extension (n : Nat)
  /-- After the carriage return that ends a size. -/
  | sizeEnd (n : Nat)
  /-- In a chunk of which some bytes are left. -/
  | data (left : Nat)
  | dataEnd
  /-- After the carriage return that follows a chunk. -/
  | dataLineEnd
  deriving Repr, DecidableEq

def hexByte? (b : UInt8) : Option Nat := Text.digit? 16 (Char.ofNat b.toNat)

/-- Read a body in chunks; `body` holds what has been read of it so far, in reverse order. -/
def readChunks : ChunkState → Bytes → Bytes → Reading Bytes
  | _, _, [] => .incomplete
  | .size n seen, body, b :: rest =>
    match hexByte? b with
    | some d => readChunks (.size (n * 16 + d) true) body rest
    | none =>
      if !seen then .refused .malformed
      else if b = cr then readChunks (.sizeEnd n) body rest
      else if isPadding b || b = 0x3B then readChunks (.extension n) body rest
      else .refused .malformed
  | .extension n, body, b :: rest =>
    if b = cr then readChunks (.sizeEnd n) body rest else readChunks (.extension n) body rest
  | .sizeEnd n, body, b :: rest =>
    if b != lf then .refused .malformed
    else if n = 0 then
      (readFields .lineStart [] rest).andThen fun _ rest => .complete body.reverse rest
    else readChunks (.data n) body rest
  | .data left, body, b :: rest =>
    if left ≤ 1 then readChunks .dataEnd (b :: body) rest
    else readChunks (.data (left - 1)) (b :: body) rest
  | .dataEnd, body, b :: rest =>
    if b = cr then readChunks .dataLineEnd body rest else .refused .malformed
  | .dataLineEnd, body, b :: rest =>
    if b = lf then readChunks (.size 0 false) body rest else .refused .malformed

def readBody (framing : Framing) (bytes : Bytes) : Reading Bytes :=
  match framing with
  | .length n => if bytes.length < n then .incomplete else .complete (bytes.take n) (bytes.drop n)
  | .chunked => readChunks (.size 0 false) [] bytes

/-- What the headers say about the length of the body; a server does not read on if they do not
agree. -/
def readFraming (version : Version) (headers : Headers) (rest : Bytes) : Reading Framing :=
  match framing? version headers with
  | some framing => .complete framing rest
  | none => .refused .malformed

def writeField (f : Field) : Bytes :=
  Utf8.encode f.name ++ [0x3A, space] ++ f.value ++ [cr, lf]

/-- One chunk of a body, and the empty one that ends it. -/
def writeChunks (body : Bytes) : Bytes :=
  let chunk (bytes : Bytes) : Bytes :=
    Utf8.encode (Nat.toDigits 16 bytes.length) ++ [cr, lf] ++ bytes ++ [cr, lf]
  if body = [] then chunk [] else chunk body ++ chunk []

end FilteringProxy.Http.Wire
