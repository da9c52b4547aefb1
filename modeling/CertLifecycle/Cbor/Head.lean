import CertLifecycle.Text.Bytes

/-!
The heads of CBOR items: a kind, and a number or length in as few bytes as hold it. Longer heads
than needed are read as well.
-/

namespace CertLifecycle.Cbor

/-- What an item begins with. A length that is missing is open: the content goes on until a stop. -/
inductive Head where
  | unsigned (value : Nat)
  | negative (value : Nat)
  | bytes (length : Option Nat)
  | text (length : Option Nat)
  | array (length : Option Nat)
  | map (length : Option Nat)
  | tag (value : Nat)
  | simple (value : Nat)
  | float
  | stop
  deriving DecidableEq

/-- A number in so many bytes, the most significant first. -/
def bigEndian : Nat → Nat → List UInt8
  | 0, _ => []
  | width + 1, n => UInt8.ofNat (n / 256 ^ width) :: bigEndian width n

/-- The number that bytes write, the most significant first. -/
def ofBigEndian (bytes : List UInt8) : Nat :=
  bytes.foldl (fun value byte => value * 256 + byte.toNat) 0

/-- The shortest head of a major type with an argument below 2 to the power of 64. -/
def headBytes (major n : Nat) : List UInt8 :=
  let first (minor : Nat) : UInt8 := UInt8.ofNat (major * 32 + minor)
  if n < 24 then [first n]
  else if n < 256 then first 24 :: bigEndian 1 n
  else if n < UInt16.size then first 25 :: bigEndian 2 n
  else if n < UInt32.size then first 26 :: bigEndian 4 n
  else first 27 :: bigEndian 8 n

/-- The first bytes, and what follows them; there must be so many. -/
def takeBytes? (count : Nat) (bytes : List UInt8) : Option (List UInt8 × List UInt8) :=
  let front := bytes.take count
  if front.length = count then some (front, bytes.drop count) else none

/-- The number after the first byte of a head; open lengths have none. -/
def argument? (minor : Nat) (bytes : List UInt8) : Option (Option Nat × List UInt8) :=
  let wide (width : Nat) : Option (Option Nat × List UInt8) :=
    (takeBytes? width bytes).map fun (front, rest) => (some (ofBigEndian front), rest)
  match minor with
  | 24 => wide 1
  | 25 => wide 2
  | 26 => wide 4
  | 27 => wide 8
  | 28 => none
  | 29 => none
  | 30 => none
  | 31 => some (none, bytes)
  | small => some (some small, bytes)

/-- The head with a major type, a minor type and an argument. -/
def Head.of? (major minor : Nat) (argument : Option Nat) : Option Head :=
  match major with
  | 0 => argument.map .unsigned
  | 1 => argument.map .negative
  | 2 => some (.bytes argument)
  | 3 => some (.text argument)
  | 4 => some (.array argument)
  | 5 => some (.map argument)
  | 6 => argument.map .tag
  | _ =>
    match argument with
    | none => some .stop
    | some value => some (if minor ≤ 24 then .simple value else .float)

def head? : List UInt8 → Option (Head × List UInt8)
  | [] => none
  | first :: rest => do
    let major := first.toNat / 32
    let minor := first.toNat % 32
    let (argument, rest) ← argument? minor rest
    some (← Head.of? major minor argument, rest)

end CertLifecycle.Cbor
