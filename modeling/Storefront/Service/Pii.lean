import Storefront.Digest.Sha1
import Storefront.Text.Base64
import Storefront.Failure

/-!
# Hashing personal values

A personal value is written to logs as the first twelve Base64 characters of the SHA-1
digest of a fixed salt followed by the value's UTF-8 bytes: searchable, without the value.
-/

namespace Storefront

/-- The salt put before a personal value. -/
def piiSalt : List UInt8 :=
  [0x8A, 0x19, 0x72, 0xA4, 0x00, 0xE8, 0x43, 0xDA, 0x94, 0xF0, 0x59, 0x59, 0xC7, 0xB9, 0xAF, 0x7A]

/-- The salted, truncated hash of a personal value; a value holding a lone surrogate has no
UTF-8 bytes. -/
def piiHash (s : String) : Except Failure String :=
  match Failure.unencodable? s with
  | some f => throw f
  | none => pure (String.ofList ((Text.base64 (Digest.sha1 (piiSalt ++ s.toUTF8.toList))).take 12))

end Storefront
