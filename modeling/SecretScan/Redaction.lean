import SecretScan.Text.Basic

/-!
Hiding secrets in reports. A long secret keeps a few characters at each end; a secret too short to
keep both ends is hidden altogether.
-/

namespace SecretScan.Redaction

def kept : Nat := 4

def redact (secret : Text) : Text :=
  if secret.length ≤ kept * 2 then List.replicate secret.length '*'
  else secret.take kept ++ "...".toList ++ secret.drop (secret.length - kept)

end SecretScan.Redaction
