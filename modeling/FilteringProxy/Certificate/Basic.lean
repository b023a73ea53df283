import FilteringProxy.Certificate.Error
import FilteringProxy.Text.Utf8
import FilteringProxy.Url.Address

/-! # Certificates

What a certificate says. Keys are known by number: a certificate names the key that it is for and
the key that signed it. Times of the clock are in milliseconds; the dates of a certificate are whole
seconds, so that a date is cut down to its second.
-/

namespace FilteringProxy

/-- A pair of keys. Each authority and each leaf gets a pair of its own. -/
inductive Key where
  | authority (number : Nat)
  | leaf (number : Nat)
  /-- A pair that was brought along, told by the bytes of its private key. -/
  | given (bytes : Bytes)
  deriving Repr, DecidableEq

structure DistinguishedName where
  commonName : Option Text := none
  organization : Text
  deriving Repr, DecidableEq

def DistinguishedName.print (n : DistinguishedName) : Text :=
  let organization := ("O=" : Text) ++ n.organization
  match n.commonName with
  | some common => ("CN=" : Text) ++ common ++ (", " : Text) ++ organization
  | none => organization

inductive SubjectName where
  | host (name : Text)
  | address (bytes : List Nat)
  deriving Repr, DecidableEq

namespace SubjectName

/-- The name for a host: an address if the text spells one, else the text itself, which must be
ASCII. -/
def ofHost? (host : Text) : Option SubjectName :=
  match Url.addressBytes? host with
  | some bytes => some (address bytes)
  | none => if host.all (·.toNat < 128) then some (SubjectName.host host) else none

end SubjectName

/-- What a key may be used for, in the order in which uses are told. -/
inductive KeyUsage where
  | digitalSignature
  | keyEncipherment
  | keyCertSign
  | crlSign
  deriving Repr, DecidableEq

def second : Nat := 1000

def minute : Nat := 60 * second

def day : Nat := 24 * 60 * minute

/-- The date of a time: its whole seconds. -/
def dateOf (time : Int) : Int := time / second

structure Certificate where
  subject : DistinguishedName
  issuer : DistinguishedName
  names : List SubjectName := []
  /-- It may sign other certificates. -/
  isAuthority : Bool := false
  /-- How many authorities may stand between this one and a leaf. -/
  pathLength : Option Nat := none
  usages : List KeyUsage
  serverAuth : Bool := false
  clientAuth : Bool := false
  /-- It tells by which key it is signed. -/
  namesSigner : Bool := false
  serial : Nat
  notBefore : Int
  notAfter : Int
  key : Key
  signer : Key
  deriving Repr, DecidableEq

namespace Certificate

def isSelfSigned (c : Certificate) : Bool := c.key == c.signer

/-- From the first to the last second of its validity. -/
def lifetime (c : Certificate) : Int := c.notAfter - c.notBefore

def isValidAt (c : Certificate) (time : Int) : Bool :=
  c.notBefore ≤ dateOf time && dateOf time ≤ c.notAfter

end Certificate

/-- A certificate of an authority and a key to sign with. -/
structure Root where
  certificate : Certificate
  key : Key
  deriving Repr, DecidableEq

namespace Root

def organization : Text := "Sift"

def name : DistinguishedName := { commonName := some "Sift Root CA", organization }

def lifetime : Nat := 365 * 32 * day

/-- A new authority: its certificate is signed by its own key and is valid from the day before. -/
def generate (number now : Nat) : Root :=
  let key := Key.authority number
  { key
    certificate :=
      { subject := name
        issuer := name
        isAuthority := true
        pathLength := some 0
        usages := [.digitalSignature, .keyCertSign, .crlSign]
        serial := number + 1
        notBefore := dateOf ((now : Int) - day)
        notAfter := dateOf ((now : Int) + lifetime)
        key
        signer := key } }

end Root

end FilteringProxy
