import Mathlib.Data.List.Basic

/-!
# Cipher block chaining over an abstract block cipher

CBC mode combines each plaintext block with the previous ciphertext block, the IV for the first,
and enciphers the result. A CBC context keeps its chaining value between calls: after a call it
holds the last ciphertext block, so a second call continues the chain of the first.
`cbcEncrypt` and `cbcDecrypt` return the blocks and that chaining value.

The block cipher (`enc`, `dec`) and the combining operation (`xor`, exclusive or on a block) are
parameters.

* `cbcDecrypt_cbcEncrypt` — decryption under the same key and IV gives back the plaintext and
  ends on the same chaining value, for a cipher whose `dec` undoes `enc` and a combination that
  cancels itself.
-/

namespace QemuAppleSilicon.Lib

variable {β : Type*} (xor : β → β → β)

/-- CBC encryption of `bs` from the chaining value `iv`. -/
def cbcEncrypt (enc : β → β) : β → List β → List β × β
  | iv, [] => ([], iv)
  | iv, b :: bs =>
    let c := enc (xor b iv)
    let r := cbcEncrypt enc c bs
    (c :: r.1, r.2)

/-- CBC decryption of `cs` from the chaining value `iv`. -/
def cbcDecrypt (dec : β → β) : β → List β → List β × β
  | iv, [] => ([], iv)
  | iv, c :: cs =>
    let r := cbcDecrypt dec c cs
    (xor (dec c) iv :: r.1, r.2)

variable {xor}

/-- Decryption inverts encryption, block by block, and both end on the last ciphertext block.
Induction on the plaintext, with the chaining value generalised: each ciphertext block is the
chaining value of the next. -/
theorem cbcDecrypt_cbcEncrypt {enc dec : β → β} (hdec : ∀ b, dec (enc b) = b)
    (hxor : ∀ a b, xor (xor a b) b = a) (iv : β) (bs : List β) :
    cbcDecrypt xor dec iv (cbcEncrypt xor enc iv bs).1 = (bs, (cbcEncrypt xor enc iv bs).2) := by
  induction bs generalizing iv with
  | nil => rfl
  | cons b bs ih =>
    simp only [cbcEncrypt, cbcDecrypt, ih, hdec, hxor]

end QemuAppleSilicon.Lib
