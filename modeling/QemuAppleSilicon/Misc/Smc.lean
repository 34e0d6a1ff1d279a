import Mathlib.Data.List.Basic

/-!
# The SMC key store after migration (`hw/misc/apple-silicon/smc.c`)

The SMC keeps two lists: `keys`, the keys this build defines (name and `info.size`), and
`key_data`, one buffer per key. Only `key_data` travels in the migration stream, so
`vmstate_apple_smc_post_load` reconciles the incoming buffers with this build's keys: it walks
`key_data` dropping buffers whose key no longer exists and failing on a size mismatch, then walks
`keys` creating a zero-filled buffer for each key that has none.

Two things in the code keep it from doing that:

* after removing a buffer whose key is missing, the first loop goes on to `key->info.size` with
  `key == NULL` (no `continue`), so any such buffer crashes the load;
* the buffer the second loop creates comes from `g_new0` and its `key` is never set, so it is
  filed under key `0` and the key it was made for still has no buffer.

`smc_post_load_key_mishandled` states both for every incoming state. The model returns `none`
for the NULL dereference, and `(-1, s)` or `(0, s')` for the two returns.
-/

namespace QemuAppleSilicon.Misc

/-! ## The store -/

/-- A key this build defines: its four-character name and `info.size`.
Source: `include/hw/misc/apple-silicon/smc.h` `SMCKey`, `SMCKeyInfo`
Kind: D -/
structure SMCKey where
  key : UInt32
  size : UInt8
  deriving DecidableEq, Repr

/-- A key's buffer: the key it belongs to, its size and its bytes.
Source: `include/hw/misc/apple-silicon/smc.h` `SMCKeyData`
Kind: D -/
structure SMCKeyData where
  key : UInt32
  size : UInt32
  data : List UInt8
  deriving DecidableEq, Repr

/-- The two lists of `AppleSMCState`, in their `QTAILQ` order.
Source: `hw/misc/apple-silicon/smc.c` `AppleSMCState`
Kind: D -/
structure AppleSMCState where
  keys : List SMCKey
  keyData : List SMCKeyData
  deriving DecidableEq, Repr

/-- `apple_smc_get_key`: the first key with that name.
Source: `hw/misc/apple-silicon/smc.c` `apple_smc_get_key`
Kind: D -/
def appleSmcGetKey (s : AppleSMCState) (key : UInt32) : Option SMCKey :=
  s.keys.find? (·.key == key)

/-- `apple_smc_get_key_data`: the first buffer filed under that key.
Source: `hw/misc/apple-silicon/smc.c` `apple_smc_get_key_data`
Kind: D -/
def appleSmcGetKeyData (s : AppleSMCState) (key : UInt32) : Option SMCKeyData :=
  s.keyData.find? (·.key == key)

/-! ## `vmstate_apple_smc_post_load` -/

/-- The first loop, over the incoming buffers: a buffer whose key exists must match its size
(`-1` otherwise); a buffer whose key is missing is removed and then `key->info.size` is read
through the NULL `key`, which is `none`.
Source: `hw/misc/apple-silicon/smc.c` `vmstate_apple_smc_post_load`
Kind: D -/
def smcPostLoadData (s : AppleSMCState) : List SMCKeyData → Option (Except Int32 AppleSMCState)
  | [] => some (.ok s)
  | d :: ds =>
    match appleSmcGetKey s d.key with
    | none => none
    | some key => if key.size.toUInt32 ≠ d.size then some (.error (-1)) else smcPostLoadData s ds

/-- The buffer the second loop creates for `key`: `g_new0`, then only `data` and `size` set, so
its `key` is `0`.
Source: `hw/misc/apple-silicon/smc.c` `vmstate_apple_smc_post_load`
Kind: D -/
def smcCreatedKeyData (key : SMCKey) : SMCKeyData :=
  ⟨0, key.size.toUInt32, List.replicate key.size.toNat 0⟩

/-- The second loop, over this build's keys: a key without a buffer gets one appended.
Source: `hw/misc/apple-silicon/smc.c` `vmstate_apple_smc_post_load`
Kind: D -/
def smcPostLoadKeys (s : AppleSMCState) : List SMCKey → AppleSMCState
  | [] => s
  | key :: keys =>
    match appleSmcGetKeyData s key.key with
    | some _ => smcPostLoadKeys s keys
    | none => smcPostLoadKeys { s with keyData := s.keyData ++ [smcCreatedKeyData key] } keys

/-- `vmstate_apple_smc_post_load`: the return value and the state, `none` where it dereferences
a missing key.
Source: `hw/misc/apple-silicon/smc.c` `vmstate_apple_smc_post_load`
Kind: D -/
def vmstateAppleSmcPostLoad (s : AppleSMCState) : Option (Int32 × AppleSMCState) :=
  match smcPostLoadData s s.keyData with
  | none => none
  | some (.error r) => some (r, s)
  | some (.ok s) => some (0, smcPostLoadKeys s s.keys)

/-! ## What the two loops do -/

/-- A buffer whose key exists with the buffer's size. -/
def AppleSMCState.KeyedData (s : AppleSMCState) (d : SMCKeyData) : Prop :=
  ∃ key, appleSmcGetKey s d.key = some key ∧ key.size.toUInt32 = d.size

/-- Over buffers that all have their key, with matching sizes, the first loop passes. The
induction is on the buffers.
Source: `hw/misc/apple-silicon/smc.c` `vmstate_apple_smc_post_load`
Kind: L -/
theorem smcPostLoadData_of_keyed (s : AppleSMCState) :
    ∀ ds : List SMCKeyData, (∀ d ∈ ds, s.KeyedData d) → smcPostLoadData s ds = some (.ok s)
  | [], _ => rfl
  | d :: ds, h => by
    obtain ⟨key, hkey, hsize⟩ := h d List.mem_cons_self
    rw [smcPostLoadData, hkey]
    dsimp only
    rw [if_neg (not_not.mpr hsize)]
    exact smcPostLoadData_of_keyed s ds fun d' hd' => h d' (List.mem_cons_of_mem d hd')

/-- The first buffer whose key is missing, after buffers that all passed, crashes the load.
Source: `hw/misc/apple-silicon/smc.c` `vmstate_apple_smc_post_load`
Kind: L -/
theorem smcPostLoadData_of_missing (s : AppleSMCState) {d : SMCKeyData}
    (hmissing : appleSmcGetKey s d.key = none) (post : List SMCKeyData) :
    ∀ pre : List SMCKeyData, (∀ e ∈ pre, s.KeyedData e) → smcPostLoadData s (pre ++ d :: post) = none
  | [], _ => by rw [List.nil_append, smcPostLoadData, hmissing]
  | e :: pre, h => by
    obtain ⟨key, hkey, hsize⟩ := h e List.mem_cons_self
    rw [List.cons_append, smcPostLoadData, hkey]
    dsimp only
    rw [if_neg (not_not.mpr hsize)]
    exact smcPostLoadData_of_missing s hmissing post pre fun e' he' => h e' (List.mem_cons_of_mem e he')

/-- The second loop only appends buffers, all filed under key `0`, and leaves the keys alone. The
induction is on the keys walked.
Source: `hw/misc/apple-silicon/smc.c` `vmstate_apple_smc_post_load`
Kind: L -/
theorem smcPostLoadKeys_appends (s : AppleSMCState) (keys : List SMCKey) :
    ∃ extra, (smcPostLoadKeys s keys).keyData = s.keyData ++ extra ∧ (∀ e ∈ extra, e.key = 0) ∧
      (smcPostLoadKeys s keys).keys = s.keys := by
  induction keys generalizing s with
  | nil => exact ⟨[], (List.append_nil _).symm, by simp, rfl⟩
  | cons key keys ih =>
    unfold smcPostLoadKeys
    split
    · exact ih s
    · obtain ⟨extra, hdata, hzero, hkeys⟩ := ih { s with keyData := s.keyData ++ [smcCreatedKeyData key] }
      refine ⟨smcCreatedKeyData key :: extra, by rw [hdata, List.append_assoc]; rfl, ?_, hkeys⟩
      intro e he
      rcases List.mem_cons.mp he with rfl | he
      · rfl
      · exact hzero e he

/-- Buffers filed under key `0` are never found for another key. -/
theorem find_append_of_key_zero {k : UInt32} (hk : k ≠ 0) (ds extra : List SMCKeyData)
    (hzero : ∀ e ∈ extra, e.key = 0) :
    (ds ++ extra).find? (·.key == k) = ds.find? (·.key == k) := by
  have hnone : extra.find? (·.key == k) = none := by
    refine List.find?_eq_none.mpr fun e he => ?_
    rw [hzero e he, beq_iff_eq]
    exact fun h => hk h.symm
  rw [List.find?_append, hnone, Option.or_none]

/-- For every incoming state: the first buffer whose key this build no longer has, after buffers
that all match their keys, crashes the load (the NULL `key` is dereferenced after the removal);
and when every buffer matches its key, a key `k ≠ 0` that arrived without a buffer still has
none after a load that returns `0`, its new buffer being filed under key `0`.
Source: `hw/misc/apple-silicon/smc.c` `vmstate_apple_smc_post_load`
Kind: P -/
theorem smc_post_load_key_mishandled (s : AppleSMCState) :
    (∀ pre d post, s.keyData = pre ++ d :: post → (∀ e ∈ pre, s.KeyedData e) →
      appleSmcGetKey s d.key = none → vmstateAppleSmcPostLoad s = none) ∧
    ((∀ d ∈ s.keyData, s.KeyedData d) → ∀ k ∈ s.keys, k.key ≠ 0 →
      appleSmcGetKeyData s k.key = none →
      ∃ s', vmstateAppleSmcPostLoad s = some (0, s') ∧ appleSmcGetKeyData s' k.key = none) := by
  refine ⟨fun pre d post hsplit hpre hmissing => ?_, fun hkeyed k _ hk hnone => ?_⟩
  · unfold vmstateAppleSmcPostLoad
    rw [hsplit, smcPostLoadData_of_missing s hmissing post pre hpre]
  · obtain ⟨extra, hdata, hzero, -⟩ := smcPostLoadKeys_appends s s.keys
    refine ⟨smcPostLoadKeys s s.keys, ?_, ?_⟩
    · unfold vmstateAppleSmcPostLoad
      rw [smcPostLoadData_of_keyed s s.keyData hkeyed]
    · unfold appleSmcGetKeyData at hnone ⊢
      rw [hdata, find_append_of_key_zero hk s.keyData extra hzero, hnone]

/-- A build defining the one key `0x42304341` (`'B0CA'`), of size 2. -/
def smcOneKeyState : AppleSMCState := ⟨[⟨0x42304341, 2⟩], []⟩

/-- Loading a stream with no buffer into `smcOneKeyState` returns `0` and leaves `'B0CA'` without
a buffer; loading a stream whose one buffer is for a key `0x58585858` the build lacks crashes.
Source: none: infrastructure
Kind: P -/
theorem smc_post_load_key_mishandled_b0ca :
    vmstateAppleSmcPostLoad ⟨[⟨0x42304341, 2⟩], [⟨0x58585858, 2, [0, 0]⟩]⟩ = none ∧
      ∃ s', vmstateAppleSmcPostLoad smcOneKeyState = some (0, s') ∧
        appleSmcGetKeyData s' 0x42304341 = none :=
  ⟨(smc_post_load_key_mishandled ⟨[⟨0x42304341, 2⟩], [⟨0x58585858, 2, [0, 0]⟩]⟩).1 [] _ [] rfl
      (by simp) (by decide),
    (smc_post_load_key_mishandled smcOneKeyState).2 (by simp [smcOneKeyState]) _
      List.mem_cons_self (by decide) (by decide)⟩

end QemuAppleSilicon.Misc
