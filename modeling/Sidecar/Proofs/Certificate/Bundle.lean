import Mathlib.Tactic.Common
import Sidecar.Certificate.Bundle

/-!
When a bundle can be made, and what is in it: the certificate is for all names that were asked for, and it
is issued by the authority that comes with it.
-/

namespace Sidecar.CertificateBundle

variable {dnsNames : List String} {addresses : List IpAddress} {b : CertificateBundle}

/-- The names for which no certificate is made: one of them is not ASCII, or the first is no common name. -/
def Unfit (dnsNames : List String) : Prop :=
  (∃ name ∈ dnsNames, ∃ c ∈ name.toList, 128 ≤ c.toNat) ∨
    (commonName dnsNames).utf8ByteSize < 1 ∨ 64 < (commonName dnsNames).utf8ByteSize

/-- The certificate names the authority as its issuer, by its subject and by its key. -/
structure Issued (b : CertificateBundle) : Prop where
  subject : b.certificate.issuer = b.authority.subject
  key : ∃ key, b.certificate.issuerKey? = some key ∧ b.authority.subjectKey? = some key

theorem generate_eq_error_iff (dnsNames : List String) (addresses : List IpAddress) :
    (∃ e, generate dnsNames addresses = .error e) ↔ Unfit dnsNames := by
  have hascii : (dnsNames.any fun name => name.toList.any fun c => 128 ≤ c.toNat) = true ↔
      ∃ name ∈ dnsNames, ∃ c ∈ name.toList, 128 ≤ c.toNat := by simp
  rw [generate, Unfit, ← hascii]
  by_cases hany : (dnsNames.any fun name => name.toList.any fun c => 128 ≤ c.toNat) = true
  · rw [if_pos hany]
    exact iff_of_true ⟨_, rfl⟩ (.inl hany)
  · rw [if_neg hany]
    by_cases hlength : (commonName dnsNames).utf8ByteSize < 1 ∨ 64 < (commonName dnsNames).utf8ByteSize
    · rw [if_pos hlength]
      exact iff_of_true ⟨_, rfl⟩ (.inr hlength)
    · rw [if_neg hlength]
      exact iff_of_false (fun ⟨_, he⟩ => nomatch he) (not_or.mpr ⟨hany, hlength⟩)

theorem altNames_generate (h : generate dnsNames addresses = .ok b) :
    b.certificate.altNames = dnsNames.map .dns ++ addresses.map .ip := by
  simp only [generate] at h
  split_ifs at h
  obtain rfl := Except.ok.inj h
  simp [Certificate.altNames]

theorem issued_of_generate (h : generate dnsNames addresses = .ok b) : b.Issued := by
  simp only [generate] at h
  split_ifs at h
  obtain rfl := Except.ok.inj h
  exact ⟨rfl, .authority, rfl, rfl⟩

end Sidecar.CertificateBundle
