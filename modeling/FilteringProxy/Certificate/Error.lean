import FilteringProxy.Text.Basic

/-! # Errors about certificates -/

namespace FilteringProxy

inductive CertificateError where
  /-- It cannot be issued. -/
  | generation (reason : Text)
  /-- The files of the authority cannot be read. -/
  | read (reason : Text)
  /-- The files of the authority hold something else. -/
  | parse (reason : Text)
  /-- The files of the authority cannot be written or deleted. -/
  | write (reason : Text)
  | notInitialized
  deriving Repr, DecidableEq

def CertificateError.message : CertificateError → Text
  | generation reason => ("Failed to generate certificate: " : Text) ++ reason
  | read reason => ("Failed to read CA: " : Text) ++ reason
  | parse reason => ("Failed to parse CA: " : Text) ++ reason
  | write reason => ("Failed to write CA: " : Text) ++ reason
  | notInitialized => "CA not initialized"

end FilteringProxy
