import BoardDiagnostics.Board.Basic
import BoardDiagnostics.Checks.Result

/-!
# The cipher check

The hardware cipher enciphers a known text under a known key, the first two blocks of the
example F.2.1 of NIST SP 800-38A, and the result is compared with the known ciphertext.
-/

set_option autoImplicit false

namespace BoardDiagnostics.CipherCheck

/-- The known key. -/
def key : Octets :=
  [0x2b, 0x7e, 0x15, 0x16, 0x28, 0xae, 0xd2, 0xa6, 0xab, 0xf7, 0x15, 0x88, 0x09, 0xcf, 0x4f, 0x3c]

/-- The known initial vector. -/
def initialVector : Octets :=
  [0x00, 0x01, 0x02, 0x03, 0x04, 0x05, 0x06, 0x07, 0x08, 0x09, 0x0a, 0x0b, 0x0c, 0x0d, 0x0e, 0x0f]

/-- The known text. -/
def plaintext : Octets :=
  [0x6b, 0xc1, 0xbe, 0xe2, 0x2e, 0x40, 0x9f, 0x96, 0xe9, 0x3d, 0x7e, 0x11, 0x73, 0x93, 0x17, 0x2a,
    0xae, 0x2d, 0x8a, 0x57, 0x1e, 0x03, 0xac, 0x9c, 0x9e, 0xb7, 0x6f, 0xac, 0x45, 0xaf, 0x8e, 0x51]

/-- The known ciphertext. -/
def ciphertext : Octets :=
  [0x76, 0x49, 0xab, 0xac, 0x81, 0x19, 0xb2, 0x46, 0xce, 0xe9, 0x8e, 0x9b, 0x12, 0xe9, 0x19, 0x7d,
    0x50, 0x86, 0xcb, 0x9b, 0x50, 0x72, 0x19, 0xee, 0x95, 0xdb, 0x11, 0x3a, 0x91, 0x76, 0x78, 0xb2]

/-- The fault of a cipher that gave something else. -/
def mismatch (output : Octets) : Fault :=
  .cipher ("cbc-aes128 mismatch: got " ++ Text.hex output ++ ", want " ++ Text.hex ciphertext)

/-- The line about a cipher that gave the known ciphertext. -/
def successLine (output : Octets) : Line :=
  .info ("cbc-aes128 known answer ok: " ++ Text.hex output)

/-- Check the cipher of a board. -/
def run {σ : Type} (board : Board σ) : Work σ CheckResult := do
  match ← board.encipher key initialVector plaintext with
  | .error fault => pure (.error (.of fault.fullText))
  | .ok output =>
    if output = ciphertext then
      Work.say (successLine output)
      pure (.ok ())
    else pure (.error (.of (mismatch output).fullText))

end BoardDiagnostics.CipherCheck
