import QemuAppleSilicon.Lib.BigEndian

/-!
# P-384 points in the SSC's messages (`hw/arm/apple-silicon/sep.c`)

The secure storage component exchanges P-384 public keys as two 48-byte big-endian fields,
`x` then `y`. `output_ec_pub` writes them with GMP's `mpz_export(dst, NULL, 1, 1, 1, 0, op)`,
which writes the shortest big-endian form of `op` starting at `dst` (`mpzExport`); it is not
padded. `input_ec_pub` reads each field back with `mpz_import` of exactly 48 bytes.

A coordinate of 48 significant bytes makes the round trip (`inputEcPub_outputEcPub`). A
coordinate below `256^47` is written one or more bytes short, left-aligned: the field then holds
the coordinate shifted left by those bytes, followed by whatever the buffer held
(`read_mpzExport`, `mpzImport_mpzExport`). `generate_kbkdf_keys` hashes the first 48 bytes of
such an export of the shared point, so for those points it hashes `x * 256^k` instead of the
48-byte encoding of `x`.

The arithmetic of the curve itself (scalar multiplication, signatures) is nettle's and is not
modelled: the points and numbers it produces are inputs here. `EccPoint.OnCurve` is the check
`ecc_point_set` makes.
-/

namespace QemuAppleSilicon.Sep

open QemuAppleSilicon.Lib

/-! ## The curve -/

/-- Source: `include/hw/arm/apple-silicon/sep.h` `BYTELEN_384`. Kind: D -/
def BYTELEN_384 : ℕ := 0x30

/-- Source: `include/hw/arm/apple-silicon/sep.h` `SECP384_PUBLIC_XY_SIZE`. Kind: D -/
def SECP384_PUBLIC_XY_SIZE : ℕ := BYTELEN_384 * 2

/-- The prime of the field of secp384r1, `2^384 - 2^128 - 2^96 + 2^32 - 1`.
Source: nettle `nettle_get_secp_384r1` (used by `hw/arm/apple-silicon/sep.c`)
Kind: D -/
def SECP384R1_P : ℕ := 2 ^ 384 - 2 ^ 128 - 2 ^ 96 + 2 ^ 32 - 1

/-- The constant `b` of secp384r1, `y^2 = x^3 - 3x + b`.
Source: nettle `nettle_get_secp_384r1` (used by `hw/arm/apple-silicon/sep.c`)
Kind: D -/
def SECP384R1_B : ℕ :=
  0xb3312fa7e23ee7e4988e056be3f82d19181d9c6efe8141120314088f5013875ac656398d8a2ed19d2a85c8edd3ec2aef

/-- The order `q` of the group of secp384r1, the bound `ecc_scalar_set` checks a scalar against.
Source: nettle `nettle_get_secp_384r1` (used by `hw/arm/apple-silicon/sep.c` `generate_ec_priv`)
Kind: D -/
def SECP384R1_Q : ℕ :=
  0xffffffffffffffffffffffffffffffffffffffffffffffffc7634d81f4372ddf581a0db248b0a77aecec196accc52973

/-- The affine coordinates of a point, as `ecc_point_get` gives them and `ecc_point_set` takes
them.
Source: `hw/arm/apple-silicon/sep.c` `output_ec_pub`, `input_ec_pub`
Kind: D -/
structure EccPoint where
  x : ℕ
  y : ℕ
  deriving DecidableEq, Repr

/-- The check of `ecc_point_set`: both coordinates reduced modulo `p`, and
`y^2 = x^3 - 3x + b (mod p)`.
Source: `hw/arm/apple-silicon/sep.c` `input_ec_pub` (nettle `ecc_point_set`)
Kind: D -/
def EccPoint.OnCurve (P : EccPoint) : Prop :=
  P.x < SECP384R1_P ∧ P.y < SECP384R1_P ∧
    (P.y ^ 2 + 3 * P.x) % SECP384R1_P = (P.x ^ 3 + SECP384R1_B) % SECP384R1_P

instance : DecidablePred EccPoint.OnCurve := fun P =>
  inferInstanceAs (Decidable (P.x < SECP384R1_P ∧ P.y < SECP384R1_P ∧
    (P.y ^ 2 + 3 * P.x) % SECP384R1_P = (P.x ^ 3 + SECP384R1_B) % SECP384R1_P))

/-! ## GMP's byte conversions and the two codecs

GMP is outside the repository: `mpz_export` and `mpz_import` are parameters, and the results
below assume of them the format GMP's manual documents for the arguments `sep.c` passes. -/

/-- The format of `mpz_export(rop, NULL, 1, 1, 1, 0, op)` as GMP documents it: one-byte words,
most significant first, no nails, and the fewest words that hold `op` (none for `0`), written
from `rop` with nothing else written.
Source: `hw/arm/apple-silicon/sep.c` `output_ec_pub` (GMP `mpz_export`)
Kind: D -/
def MpzExportFormat (mpzExport : Mem → ℕ → ℕ → Mem) : Prop :=
  ∀ m rop op, mpzExport m rop op = m.write rop (beBytesMin op)

/-- The format of `mpz_import(rop, count, 1, 1, 1, 0, op)` as GMP documents it: the value of the
`count` bytes at `op`, most significant first.
Source: `hw/arm/apple-silicon/sep.c` `input_ec_pub` (GMP `mpz_import`)
Kind: D -/
def MpzImportFormat (mpzImport : Mem → ℕ → ℕ → ℕ) : Prop :=
  ∀ m count op, mpzImport m count op = beValue (m.read op count)

/-- GMP's `mpz_export` with those arguments, as a build links it.
Source: GMP `mpz_export`
Kind: D -/
def gmpMpzExport (m : Mem) (rop op : ℕ) : Mem := m.write rop (beBytesMin op)

/-- GMP's `mpz_import` with those arguments, as a build links it.
Source: GMP `mpz_import`
Kind: D -/
def gmpMpzImport (m : Mem) (count op : ℕ) : ℕ := beValue (m.read op count)

theorem gmpMpzExport_format : MpzExportFormat gmpMpzExport := fun _ _ _ => rfl

theorem gmpMpzImport_format : MpzImportFormat gmpMpzImport := fun _ _ _ => rfl

variable (mpzExport : Mem → ℕ → ℕ → Mem) (mpzImport : Mem → ℕ → ℕ → ℕ)

/-- `output_ec_pub(ecc_pub, pub_xy)`: `x` exported at `pub_xy`, `y` at `pub_xy + 48`.
Source: `hw/arm/apple-silicon/sep.c` `output_ec_pub`
Kind: D -/
def outputEcPub (P : EccPoint) (m : Mem) (pubXy : ℕ) : Mem :=
  mpzExport (mpzExport m pubXy P.x) (pubXy + BYTELEN_384) P.y

/-- `input_ec_pub(ecc_pub, pub_xy)`: 48 bytes imported for each coordinate, and the point when
`ecc_point_set` accepts it (`none` is a return of `0`).
Source: `hw/arm/apple-silicon/sep.c` `input_ec_pub`
Kind: D -/
def inputEcPub (m : Mem) (pubXy : ℕ) : Option EccPoint :=
  let P : EccPoint :=
    ⟨mpzImport m BYTELEN_384 pubXy, mpzImport m BYTELEN_384 (pubXy + BYTELEN_384)⟩
  if P.OnCurve then some P else none

/-- The bytes `generate_kbkdf_keys` gives HMAC: the first 48 bytes of the zeroed `shared_key_xy`
after `output_ec_pub(&T, shared_key_xy)` of the shared point `T`.
Source: `hw/arm/apple-silicon/sep.c` `generate_kbkdf_keys`
Kind: D -/
def kbkdfSharedKey (T : EccPoint) : List UInt8 :=
  (outputEcPub mpzExport T (fun _ => 0) 0).read 0 BYTELEN_384

/-! ## What a 48-byte field holds after an export -/

section Format

variable {mpzExport mpzImport} (hexport : MpzExportFormat mpzExport)
  (himport : MpzImportFormat mpzImport)
include hexport

/-- After exporting `op < 256^48` at `rop`, the 48-byte field at `rop` holds the shortest
encoding of `op` and then the bytes that were there.
Source: `hw/arm/apple-silicon/sep.c` `output_ec_pub`
Kind: L -/
theorem read_mpzExport (m : Mem) (rop op : ℕ) (hop : op < 256 ^ BYTELEN_384) :
    (mpzExport m rop op).read rop BYTELEN_384 =
      beBytesMin op ++ m.read (rop + (beBytesMin op).length)
        (BYTELEN_384 - (beBytesMin op).length) := by
  rw [hexport]
  exact Mem.read_write_prefix m rop _ ((length_beBytesMin_le_iff op BYTELEN_384).mpr hop)

include himport

/-- The value read back from such a field: `op` shifted past the bytes it left in place, plus
those bytes.
Source: `hw/arm/apple-silicon/sep.c` `output_ec_pub`, `input_ec_pub`
Kind: L -/
theorem mpzImport_mpzExport (m : Mem) (rop op : ℕ) (hop : op < 256 ^ BYTELEN_384) :
    mpzImport (mpzExport m rop op) BYTELEN_384 rop =
      op * 256 ^ (BYTELEN_384 - (beBytesMin op).length) +
        beValue (m.read (rop + (beBytesMin op).length) (BYTELEN_384 - (beBytesMin op).length)) := by
  rw [himport, read_mpzExport hexport m rop op hop, beValue_append, beValue_beBytesMin,
    Mem.read_length]

/-- An export of 48 significant bytes reads back as itself.
Source: `hw/arm/apple-silicon/sep.c` `output_ec_pub`, `input_ec_pub`
Kind: L -/
theorem mpzImport_mpzExport_of_le (m : Mem) (rop op : ℕ) (hlo : 256 ^ (BYTELEN_384 - 1) ≤ op)
    (hop : op < 256 ^ BYTELEN_384) : mpzImport (mpzExport m rop op) BYTELEN_384 rop = op := by
  have hlen : (beBytesMin op).length = BYTELEN_384 := by
    have hle := (length_beBytesMin_le_iff op BYTELEN_384).mpr hop
    have hgt : ¬ (beBytesMin op).length ≤ BYTELEN_384 - 1 := fun h =>
      absurd ((length_beBytesMin_le_iff op _).mp h) (Nat.not_lt.mpr hlo)
    omega
  rw [mpzImport_mpzExport hexport himport m rop op hop, hlen, Nat.sub_self]
  simp [Mem.read, beValue]

/-- An export of fewer than 48 significant bytes of a non-zero `op` reads back as something
larger: `op` times a positive power of `256`, plus the old bytes.
Source: `hw/arm/apple-silicon/sep.c` `output_ec_pub`, `input_ec_pub`
Kind: L -/
theorem mpzImport_mpzExport_of_lt (m : Mem) (rop op : ℕ) (hpos : 0 < op)
    (hop : op < 256 ^ (BYTELEN_384 - 1)) : op < mpzImport (mpzExport m rop op) BYTELEN_384 rop := by
  have hop' : op < 256 ^ BYTELEN_384 :=
    Nat.lt_of_lt_of_le hop (Nat.pow_le_pow_right (by decide) (Nat.sub_le _ _))
  have hlen := (length_beBytesMin_le_iff op (BYTELEN_384 - 1)).mpr hop
  have hshift : 256 ≤ 256 ^ (BYTELEN_384 - (beBytesMin op).length) :=
    Nat.le_self_pow (by unfold BYTELEN_384 at hlen ⊢; omega) 256
  rw [mpzImport_mpzExport hexport himport m rop op hop']
  calc op < op * 256 := by omega
    _ ≤ op * 256 ^ (BYTELEN_384 - (beBytesMin op).length) := Nat.mul_le_mul_left op hshift
    _ ≤ _ := Nat.le_add_right _ _

/-- The `x` field of `output_ec_pub` imports as the first export alone left it: the `y` field
written after it leaves it as it was.
Source: `hw/arm/apple-silicon/sep.c` `output_ec_pub`, `input_ec_pub`
Kind: L -/
theorem mpzImport_x_outputEcPub (P : EccPoint) (m : Mem) (pubXy : ℕ) :
    mpzImport (outputEcPub mpzExport P m pubXy) BYTELEN_384 pubXy =
      mpzImport (mpzExport m pubXy P.x) BYTELEN_384 pubXy := by
  have hx : (outputEcPub mpzExport P m pubXy).read pubXy BYTELEN_384 =
      (mpzExport m pubXy P.x).read pubXy BYTELEN_384 := by
    apply Mem.AgreeOn.read_eq
    rw [outputEcPub, hexport (mpzExport m pubXy P.x)]
    exact ((Mem.unchanged_write _ (pubXy + BYTELEN_384) (beBytesMin P.y)).agreeOn
      (Or.inl (Nat.le_refl _))).symm
  rw [himport, hx, ← himport]

/-- A point whose coordinates have 48 significant bytes each survives `output_ec_pub` then
`input_ec_pub`, whatever the buffer held.
Source: `hw/arm/apple-silicon/sep.c` `output_ec_pub`, `input_ec_pub`
Kind: L -/
theorem inputEcPub_outputEcPub (P : EccPoint) (hP : P.OnCurve) (m : Mem) (pubXy : ℕ)
    (hx : 256 ^ (BYTELEN_384 - 1) ≤ P.x) (hy : 256 ^ (BYTELEN_384 - 1) ≤ P.y) :
    inputEcPub mpzImport (outputEcPub mpzExport P m pubXy) pubXy = some P := by
  -- every reduced coordinate is below `p < 256^48`
  have hp : SECP384R1_P < 256 ^ BYTELEN_384 := by decide +kernel
  have hxP : mpzImport (outputEcPub mpzExport P m pubXy) BYTELEN_384 pubXy = P.x := by
    rw [mpzImport_x_outputEcPub hexport himport]
    exact mpzImport_mpzExport_of_le hexport himport m pubXy P.x hx (Nat.lt_trans hP.1 hp)
  have hyP : mpzImport (outputEcPub mpzExport P m pubXy) BYTELEN_384 (pubXy + BYTELEN_384) = P.y :=
    mpzImport_mpzExport_of_le hexport himport _ _ P.y hy (Nat.lt_trans hP.2.1 hp)
  simp only [inputEcPub, hxP, hyP, if_pos hP]

/-- A point whose `x` has fewer than 48 significant bytes does not survive `output_ec_pub` then
`input_ec_pub`, and the bytes `generate_kbkdf_keys` hashes for such a shared point are not the
48-byte big-endian `x`: in both, the short export reads back as a larger number.
Source: `hw/arm/apple-silicon/sep.c` `output_ec_pub`, `input_ec_pub`, `generate_kbkdf_keys`
Kind: P -/
theorem output_ec_pub_short_x_not_fixed_width (P : EccPoint) (hx0 : 0 < P.x)
    (hx : P.x < 256 ^ (BYTELEN_384 - 1)) (m : Mem) (pubXy : ℕ) :
    inputEcPub mpzImport (outputEcPub mpzExport P m pubXy) pubXy ≠ some P ∧
      kbkdfSharedKey mpzExport P ≠ beBytes P.x BYTELEN_384 := by
  have hgt : ∀ m pubXy, P.x < mpzImport (outputEcPub mpzExport P m pubXy) BYTELEN_384 pubXy := by
    intro m pubXy
    rw [mpzImport_x_outputEcPub hexport himport]
    exact mpzImport_mpzExport_of_lt hexport himport m pubXy P.x hx0 hx
  constructor
  · intro h
    -- whether or not `ecc_point_set` accepts, the imported `x` is not `P.x`
    simp only [inputEcPub] at h
    split_ifs at h with hc
    have hxeq := congrArg EccPoint.x (Option.some.inj h)
    exact Nat.ne_of_gt (hgt m pubXy) hxeq
  · intro h
    have hx48 : P.x < 256 ^ BYTELEN_384 :=
      Nat.lt_of_lt_of_le hx (Nat.pow_le_pow_right (by decide) (Nat.sub_le _ _))
    have hv : mpzImport (outputEcPub mpzExport P (fun _ => 0) 0) BYTELEN_384 0 = P.x := by
      rw [himport, ← kbkdfSharedKey, h, beValue_beBytes, Nat.mod_eq_of_lt hx48]
    exact Nat.ne_of_gt (hgt _ 0) hv

end Format

/-- The point of x-coordinate `2` on secp384r1 has a one-byte `x`. -/
theorem output_ec_pub_short_x_not_fixed_width_x_two :
    (⟨2, 0x8cdeadbbd04911a3c1931e26df3fa6439dca9c7eb286fbd46fc319f0e2bb780232baf57825fc0c1912ada2fefe84024c⟩ :
        EccPoint).OnCurve ∧
      inputEcPub gmpMpzImport (outputEcPub gmpMpzExport ⟨2, 0x8cdeadbbd04911a3c1931e26df3fa6439dca9c7eb286fbd46fc319f0e2bb780232baf57825fc0c1912ada2fefe84024c⟩ (fun _ => 0) 0) 0 ≠
          some ⟨2, 0x8cdeadbbd04911a3c1931e26df3fa6439dca9c7eb286fbd46fc319f0e2bb780232baf57825fc0c1912ada2fefe84024c⟩ ∧
        kbkdfSharedKey gmpMpzExport ⟨2, 0x8cdeadbbd04911a3c1931e26df3fa6439dca9c7eb286fbd46fc319f0e2bb780232baf57825fc0c1912ada2fefe84024c⟩ ≠
          beBytes 2 BYTELEN_384 :=
  ⟨by decide +kernel,
    output_ec_pub_short_x_not_fixed_width gmpMpzExport_format gmpMpzImport_format _ (by decide)
      (by decide +kernel) (fun _ => 0) 0⟩

end QemuAppleSilicon.Sep
