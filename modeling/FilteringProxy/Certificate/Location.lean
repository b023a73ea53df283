import FilteringProxy.Text.Basic

/-! # Where the files of the authority are

Paths of the certificate and the key in a directory, and the directory of a user that is taken when
none is named.
-/

namespace FilteringProxy.Location

/-- The path of a name in a directory. An absolute name stands for itself, and a name in no
directory too. -/
def join (directory name : Text) : Text :=
  if name.head? = some '/' || directory = [] then name
  else if directory.getLast? = some '/' then directory ++ name
  else directory ++ ['/'] ++ name

def certificate (directory : Text) : Text := join directory "sift-ca.crt"

def key (directory : Text) : Text := join directory "sift-ca.key"

/-- The directory for the data of a user: the one that the user names, if its path is absolute, or
one below the home. -/
def userData (home : Text) (named : Option Text) : Text :=
  match named with
  | some ('/' :: path) => '/' :: path
  | _ => join home ".local/share"

/-- The directory that is taken when none is named. -/
def standard (home : Text) (named : Option Text) : Text :=
  join (join (userData home named) "sift") "ca"

end FilteringProxy.Location
