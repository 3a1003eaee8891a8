/-
The digest of a domain, by which the cloud is asked about it.
-/

import CategoryFilter.Digest.Base64
import CategoryFilter.Digest.Sha256
import CategoryFilter.Text.LowerCase

namespace CategoryFilter.Domain

/-- The Base64 form of the SHA-256 digest of a domain's lower-case form. -/
def digest (domain : String) : String :=
  String.ofList (Base64.encode (Sha256.digest (Text.lowerCase domain).toUTF8.toList))

end CategoryFilter.Domain
