/-!
Texts as bytes: UTF-8, and the three-byte form that a surrogate code unit takes when it stands alone
in a byte string. Main result: the bytes of a text read back as that text.
-/

namespace CertLifecycle.Text

/-- The UTF-8 bytes of a text. -/
def utf8 (s : String) : List UInt8 :=
  s.toUTF8.data.toList

/-- The text whose UTF-8 bytes these are, if they are valid. -/
def ofUtf8? (bytes : List UInt8) : Option String :=
  String.fromUTF8? ⟨bytes.toArray⟩

/-- The three bytes that stand for a lone surrogate. -/
def surrogateBytes (code : UInt16) : List UInt8 :=
  let n := code.toNat
  [UInt8.ofNat (0xe0 + n / 0x1000), UInt8.ofNat (0x80 + n / 0x40 % 0x40),
    UInt8.ofNat (0x80 + n % 0x40)]

/-- The bytes of a text read back as the text. -/
theorem ofUtf8?_utf8 (s : String) : ofUtf8? (utf8 s) = some s := by
  have bytes : (⟨(utf8 s).toArray⟩ : ByteArray) = s.toByteArray := by
    simp [utf8]
  rw [ofUtf8?, bytes, String.fromUTF8?]
  simp [String.fromUTF8, s.isValidUTF8]

/-- The bytes of a text are those of its characters. -/
theorem utf8_ofList (cs : List Char) : utf8 (String.ofList cs) = cs.flatMap String.utf8EncodeChar := by
  rw [utf8, String.toUTF8, String.toByteArray_ofList, List.utf8Encode]
  simp

end CertLifecycle.Text
