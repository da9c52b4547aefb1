import CertLifecycle.Text.Split

/-!
Domains in ASCII. A domain of ASCII characters is brought into lower case, and that is all. A domain with
other characters, or with a label that encodes some, goes through the ToASCII operation for
internationalised names: by the tables of Unicode its characters are mapped and normalised, each label is
checked, and what is not ASCII is encoded. That operation is a parameter here. Everything that reads domains
is defined for an arbitrary `Idna`, and what is proved holds for each; where more must be known about the
operation, `LawfulIdna` says what.
-/

namespace CertLifecycle.Uri

/-- The ToASCII operation with the settings that URIs use: no transitional mappings, and no check of
hyphens or of lengths. It is asked only about domains that are not plain. -/
class Idna where
  toAscii? : List Char → Option (List Char)

/-- Whether a label in lower case announces that it encodes characters outside ASCII. -/
def isEncodedLabel (label : List Char) : Bool :=
  ['x', 'n', '-', '-'].isPrefixOf label

/-- Whether a domain in lower case is in ASCII already, whatever the tables say. -/
def isPlainDomain (domain : List Char) : Bool :=
  domain.all (·.toNat < 0x80) && (Text.pieces '.' domain).all (!isEncodedLabel ·)

/-- A domain in ASCII, if there is one. -/
def domainToAscii? [Idna] (domain : List Char) : Option (List Char) :=
  let lower := domain.map Char.toLower
  if isPlainDomain lower then some lower else Idna.toAscii? domain

/-- What the operation gives is in ASCII for good: brought into ASCII once more, it stays as it is. -/
class LawfulIdna [Idna] : Prop where
  again {domain ascii : List Char} :
    Idna.toAscii? domain = some ascii → domainToAscii? ascii = some ascii

end CertLifecycle.Uri
