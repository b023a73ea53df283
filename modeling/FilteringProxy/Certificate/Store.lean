import FilteringProxy.Certificate.Basic
import FilteringProxy.Certificate.KeyFile

/-! # The files of the authority

An authority is kept in two files of one directory, its certificate and its key, which are written
one after the other. Every file operation may fail: because of what is in its place, or for a reason
that lies outside, which a `Faults` value tells.
-/

namespace FilteringProxy

inductive FileContent where
  | certificate (certificate : Certificate)
  | key (key : Key)
  | bytes (bytes : Bytes)
  deriving Repr, DecidableEq

/-- The key that a file holds, one that was brought along included. -/
def FileContent.key? : FileContent → Option Key
  | key k => some k
  | bytes b => ((Utf8.decode? b).bind KeyFile.read?).map Key.given
  | certificate _ => none

/-- What a name in a directory stands for. -/
inductive DirectoryEntry where
  | file (content : FileContent) (mode : Nat)
  | directory
  deriving Repr, DecidableEq

/-- What stands where the directory of the store should be. -/
inductive Place where
  | missing
  | directory
  /-- A file, so that no directory can be made. -/
  | occupied
  deriving Repr, DecidableEq

inductive FileName where
  | certificate
  | key
  deriving Repr, DecidableEq

/-- File operations of one call that fail for a reason outside. Such an operation leaves its file as
it was. -/
structure Faults where
  certificate : Bool := false
  key : Bool := false
  deriving Repr, DecidableEq

def Faults.hits (f : Faults) : FileName → Bool
  | .certificate => f.certificate
  | .key => f.key

structure Disk where
  place : Place := .directory
  certificate : Option DirectoryEntry := none
  key : Option DirectoryEntry := none
  deriving Repr, DecidableEq

namespace Disk

def entry? (d : Disk) : FileName → Option DirectoryEntry
  | .certificate => d.certificate
  | .key => d.key

/-- The disk where a name stands for something else. -/
def withEntry (d : Disk) (name : FileName) (e : Option DirectoryEntry) : Disk :=
  match name with
  | .certificate => { d with certificate := e }
  | .key => { d with key := e }

/-- Permission bits of a file that others may read. -/
def publicMode : Nat := 0o644

/-- Permission bits of a file that only the owner may read. -/
def privateMode : Nat := 0o600

def directoryMode : Nat := 0o755

def mode? (d : Disk) (name : FileName) : Option Nat :=
  (d.entry? name).map fun
    | .file _ mode => mode
    | .directory => directoryMode

/-- The content of a file, if it is a text. -/
def read? (d : Disk) (name : FileName) : Option FileContent :=
  match d.entry? name with
  | some (.file (.bytes b) _) => (Utf8.decode? b).map fun _ => .bytes b
  | some (.file content _) => some content
  | _ => none

/-- Write a file. A file that was there keeps its permission bits. -/
def write? (d : Disk) (name : FileName) (content : FileContent) (mode : Nat) : Option Disk :=
  match d.place, d.entry? name with
  | .directory, none => some (d.withEntry name (some (.file content mode)))
  | .directory, some (.file _ old) => some (d.withEntry name (some (.file content old)))
  | _, _ => none

def delete? (d : Disk) (name : FileName) : Option Disk :=
  match d.entry? name with
  | some (.file _ _) => some (d.withEntry name none)
  | _ => none

def makePlace? (d : Disk) : Option Disk :=
  match d.place with
  | .occupied => none
  | _ => some { d with place := .directory }

/-- Make a directory under a name, and the directory of the store before it. -/
def makeDirectory? (d : Disk) (name : FileName) : Option Disk :=
  match d.makePlace?, d.entry? name with
  | some d, none => some (d.withEntry name (some .directory))
  | some d, some .directory => some d
  | _, _ => none

end Disk

structure CertificateStore where
  disk : Disk := {}
  loaded : Option Root := none
  generated : Nat := 0
  deriving Repr, DecidableEq

namespace CertificateStore

/-- Both files are there. -/
def exists? (s : CertificateStore) : Bool :=
  (s.disk.entry? .certificate).isSome && (s.disk.entry? .key).isSome

/-- Write a file, unless that fails. -/
def write (s : CertificateStore) (faults : Faults) (name : FileName) (content : FileContent)
    (mode : Nat) : Except CertificateError CertificateStore :=
  if faults.hits name then .error (.write "input or output error")
  else
    match s.disk.write? name content mode with
    | some disk => .ok { s with disk }
    | none => .error (.write "not a file")

/-- Delete a file if it is there, unless that fails. -/
def delete (s : CertificateStore) (faults : Faults) (name : FileName) :
    Except CertificateError CertificateStore :=
  if s.disk.place = .occupied then .error (.write "not a directory")
  else
    match s.disk.entry? name with
    | none => .ok s
    | some _ =>
      if faults.hits name then .error (.write "input or output error")
      else
        match s.disk.delete? name with
        | some disk => .ok { s with disk }
        | none => .error (.write "not a file")

/-- Write the files of an authority, first the certificate and then the key, over those that are
there. A failure leaves what was written before it. -/
def writeFiles (s : CertificateStore) (faults : Faults) (root : Root) :
    CertificateStore × Except CertificateError Unit :=
  match s.write faults .certificate (.certificate root.certificate) Disk.publicMode with
  | .error e => (s, .error e)
  | .ok s =>
    match s.write faults .key (.key root.key) Disk.privateMode with
    | .error e => (s, .error e)
    | .ok s => (s, .ok ())

/-- Generate an authority and write its files. -/
def generate (s : CertificateStore) (now : Nat) (faults : Faults) :
    CertificateStore × Except CertificateError Unit :=
  match s.disk.makePlace? with
  | none => (s, .error (.read "not a directory"))
  | some disk =>
    { s with disk, generated := s.generated + 1 }.writeFiles faults
      (Root.generate s.generated now)

/-- Read both files, the certificate first, and then what they say, the key first. It is not checked
that they belong together. -/
def load (s : CertificateStore) : Except CertificateError Root :=
  match s.disk.read? .certificate, s.disk.read? .key with
  | none, _ => .error (.read "certificate file")
  | some _, none => .error (.read "key file")
  | some certificate, some key =>
    match key.key?, certificate with
    | some key, .certificate certificate => .ok { certificate, key }
    | some _, _ => .error (.parse "certificate file")
    | none, _ => .error (.parse "key file")

/-- Load the authority and keep it, after generating one if a file is missing. -/
def init (s : CertificateStore) (now : Nat) (faults : Faults) :
    CertificateStore × Except CertificateError Root :=
  let (s, ready) := if s.exists? then (s, .ok ()) else s.generate now faults
  match ready with
  | .error e => (s, .error e)
  | .ok () =>
    match s.load with
    | .error e => (s, .error e)
    | .ok root => ({ s with loaded := some root }, .ok root)

/-- Delete both files, first the certificate and then the key. A failure leaves what was deleted
before it. -/
def deleteFiles (s : CertificateStore) (faults : Faults) :
    CertificateStore × Except CertificateError Unit :=
  match s.delete faults .certificate with
  | .error e => (s, .error e)
  | .ok s =>
    match s.delete faults .key with
    | .error e => (s, .error e)
    | .ok s => (s, .ok ())

/-- Forget the authority and delete its files. -/
def remove (s : CertificateStore) (faults : Faults) :
    CertificateStore × Except CertificateError Unit :=
  { s with loaded := none }.deleteFiles faults

def root (s : CertificateStore) : Except CertificateError Root :=
  match s.loaded with
  | some root => .ok root
  | none => .error .notInitialized

/-- A store on the same directory that has loaded nothing. -/
def reopen (s : CertificateStore) : CertificateStore := { s with loaded := none }

end CertificateStore

end FilteringProxy
