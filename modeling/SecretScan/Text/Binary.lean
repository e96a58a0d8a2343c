/-!
Telling binary content from text by a look at its start.
-/

namespace SecretScan.Text

def sniffLength : Nat := 8192

def looksBinary (bytes : List UInt8) : Bool :=
  (bytes.take sniffLength).any (· == 0)

end SecretScan.Text
