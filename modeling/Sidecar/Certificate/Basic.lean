import Sidecar.Certificate.IpAddress

/-!
Certificates, described by their fields. Keys are told apart but not modelled, and nothing is signed.
-/

namespace Sidecar

/-- The keys of a run: that of the certificate authority and that of the server. -/
inductive CertificateKey where
  | authority
  | server
  deriving DecidableEq, Repr

structure DistinguishedName where
  organization : String
  commonName : String
  deriving DecidableEq, Repr

inductive AltName where
  | dns (name : String)
  | ip (address : IpAddress)
  deriving DecidableEq, Repr

inductive KeyUsage where
  | digitalSignature
  | certificateSigning
  deriving DecidableEq, Repr

inductive ExtensionBody where
  | basicConstraints (isAuthority : Bool)
  | subjectKeyId (key : CertificateKey)
  | authorityKeyId (key : CertificateKey)
  | keyUsage (usages : List KeyUsage)
  /-- The purposes are given by their object identifiers. -/
  | extendedKeyUsage (purposes : List String)
  | subjectAltName (names : List AltName)
  deriving DecidableEq, Repr

structure Extension where
  body : ExtensionBody
  critical : Bool
  deriving DecidableEq, Repr

structure Certificate where
  subject : DistinguishedName
  issuer : DistinguishedName
  key : CertificateKey
  validitySeconds : Nat
  extensions : List Extension
  deriving DecidableEq, Repr

namespace Certificate

def keyBits : Nat := 2048

/-- The hash that signatures are made over. -/
def hash : String := "sha256"

def version : String := "v3"

/-- The key that the certificate says it is issued with. -/
def issuerKey? (c : Certificate) : Option CertificateKey :=
  c.extensions.findSome? fun
    | ⟨.authorityKeyId key, _⟩ => some key
    | _ => none

def subjectKey? (c : Certificate) : Option CertificateKey :=
  c.extensions.findSome? fun
    | ⟨.subjectKeyId key, _⟩ => some key
    | _ => none

def altNames (c : Certificate) : List AltName :=
  c.extensions.flatMap fun
    | ⟨.subjectAltName names, _⟩ => names
    | _ => []

end Certificate

/-- What a file or a field holds: bytes, or a certificate, the bytes of which are not modelled. -/
inductive Content where
  | bytes (b : List UInt8)
  | certificate (c : Certificate)
  deriving DecidableEq, Repr

end Sidecar
