import Newsdesk.Settings.Basic

/-!
# Certificates of the web server

The web server answers over TLS. It needs a certificate and a key, which it reads once before it
listens.
-/

namespace Newsdesk

/-- Why the web server cannot start: a file with its certificate or its key does not exist. -/
structure CertificateError where
  certificate : String
  key : String
  missing : String
deriving DecidableEq, Repr

namespace CertificateError

/-- The wording of an error. -/
def message (e : CertificateError) : String :=
  "failed to load TLS material from " ++ e.certificate ++ " and " ++ e.key ++
    ": failed to read from file `" ++ e.missing ++ "`: No such file or directory (os error 2)"

end CertificateError

/-- What keeps the web server from starting, given which files exist. The certificate is read
before the key. -/
def Settings.certificateError? (exist : String → Bool) (s : Settings) : Option CertificateError :=
  ([s.tlsCertPath, s.tlsKeyPath].find? fun path => !exist path).map fun missing =>
    ⟨s.tlsCertPath, s.tlsKeyPath, missing⟩

end Newsdesk
