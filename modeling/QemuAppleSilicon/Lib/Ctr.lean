import Mathlib.Data.List.Basic

/-!
# Counter mode over an abstract block cipher

Counter mode enciphers a counter block, combines the result with a text block, and steps the
counter for the next block. A counter-mode context keeps its counter between calls: after a
call it holds the counter for the next block, so a second call continues the keystream of the
first. `ctrCrypt` returns the blocks and that counter; the same function encrypts and decrypts.

The block cipher `enc`, the counter step `inc` and the combination `xor` are parameters.
-/

namespace QemuAppleSilicon.Lib

variable {β : Type*} (xor : β → β → β)

/-- Counter mode over `bs` from the counter `ctr`. -/
def ctrCrypt (enc inc : β → β) : β → List β → List β × β
  | ctr, [] => ([], ctr)
  | ctr, b :: bs =>
    let r := ctrCrypt enc inc (inc ctr) bs
    (xor b (enc ctr) :: r.1, r.2)

end QemuAppleSilicon.Lib
