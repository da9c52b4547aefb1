/-!
The usages that a certificate may ask for. They are ordered as they are declared.
-/

namespace CertLifecycle

/-- What the key of a certificate may be used for. -/
inductive KeyUsage where
  | signing
  | digitalSignature
  | contentCommitment
  | keyEncipherment
  | keyAgreement
  | dataEncipherment
  | certSign
  | crlSign
  | encipherOnly
  | decipherOnly
  | any
  | serverAuth
  | clientAuth
  | codeSigning
  | emailProtection
  | sMime
  | ipsecEndSystem
  | ipsecTunnel
  | ipsecUser
  | timestamping
  | ocspSigning
  | microsoftSgc
  | netscapeSgc
  deriving DecidableEq

/-- A text that names no usage. -/
structure UnknownUsage where
  text : String
  deriving DecidableEq

namespace UnknownUsage

def message (error : UnknownUsage) : String :=
  "unknown key usage: " ++ error.text

end UnknownUsage

namespace KeyUsage

/-- Every usage in order. -/
def all : List KeyUsage :=
  [.signing, .digitalSignature, .contentCommitment, .keyEncipherment, .keyAgreement,
    .dataEncipherment, .certSign, .crlSign, .encipherOnly, .decipherOnly, .any, .serverAuth,
    .clientAuth, .codeSigning, .emailProtection, .sMime, .ipsecEndSystem, .ipsecTunnel, .ipsecUser,
    .timestamping, .ocspSigning, .microsoftSgc, .netscapeSgc]

def text : KeyUsage → String
  | .signing => "signing"
  | .digitalSignature => "digital signature"
  | .contentCommitment => "content commitment"
  | .keyEncipherment => "key encipherment"
  | .keyAgreement => "key agreement"
  | .dataEncipherment => "data encipherment"
  | .certSign => "cert sign"
  | .crlSign => "crl sign"
  | .encipherOnly => "encipher only"
  | .decipherOnly => "decipher only"
  | .any => "any"
  | .serverAuth => "server auth"
  | .clientAuth => "client auth"
  | .codeSigning => "code signing"
  | .emailProtection => "email protection"
  | .sMime => "s/mime"
  | .ipsecEndSystem => "ipsec end system"
  | .ipsecTunnel => "ipsec tunnel"
  | .ipsecUser => "ipsec user"
  | .timestamping => "timestamping"
  | .ocspSigning => "ocsp signing"
  | .microsoftSgc => "microsoft sgc"
  | .netscapeSgc => "netscape sgc"

/-- The place of a usage in the order. -/
def index (usage : KeyUsage) : Nat :=
  all.idxOf usage

instance : Ord KeyUsage := ⟨fun a b => compare a.index b.index⟩

/-- The usage with a name. -/
def ofText? (s : String) : Option KeyUsage :=
  all.find? (·.text == s)

/-- The usage with a name, or the error that there is none. -/
def parse (s : String) : Except UnknownUsage KeyUsage :=
  match ofText? s with
  | some usage => .ok usage
  | none => .error ⟨s⟩

/-- Usages in their order; equal ones stay. -/
def sort (usages : List KeyUsage) : List KeyUsage :=
  usages.mergeSort fun a b => a.index ≤ b.index

theorem mem_all (usage : KeyUsage) : usage ∈ all := by
  cases usage <;> decide

/-- Different usages have different places. -/
theorem index_inj {a b : KeyUsage} (same : a.index = b.index) : a = b := by
  have place (usage : KeyUsage) : all[usage.index]? = some usage := by cases usage <;> rfl
  have equal := place a
  rw [same, place b] at equal
  exact (Option.some.inj equal).symm

/-- The usages are ordered as they are declared. -/
theorem compare_ctorIdx (a b : KeyUsage) : compare a.ctorIdx b.ctorIdx = compare a b := by
  have place (usage : KeyUsage) : usage.ctorIdx = usage.index := by cases usage <;> rfl
  rw [place, place]
  rfl

instance : Std.LawfulEqOrd KeyUsage where
  compare_self := Std.ReflOrd.compare_self (α := Nat)
  eq_of_compare compared := index_inj (Std.LawfulEqOrd.eq_of_compare (α := Nat) compared)

instance : Std.TransOrd KeyUsage where
  eq_swap := Std.OrientedOrd.eq_swap (α := Nat)
  isLE_trans := Std.TransOrd.isLE_trans (α := Nat)

/-- A usage is read from its name. -/
theorem ofText?_text (usage : KeyUsage) : ofText? usage.text = some usage := by
  cases usage <;> decide

end KeyUsage

end CertLifecycle
