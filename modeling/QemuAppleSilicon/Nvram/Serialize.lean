import QemuAppleSilicon.Nvram.Bank

/-!
# Saving and loading the NVRAM (`hw/nvram/apple_nvram.c`)

The device's state is a bank and an environment. Saving writes the environment into the
partition named `"common"` and the bank into the block device; loading parses the bank and
sets the environment from the `"common"` partition.

* `appleNvramSerialize` — `apple_nvram_serialize`: a `"common"` partition of `0x7f0` zero bytes
  is put first if there is none; `env_serialize` writes the variables into the first one (its
  data stays as it was when they do not fit); `nvram_prepare_bank` writes the bank.
* `appleNvramLoad` — `apple_nvram_load`: `nvram_parse`, the same `"common"` partition if the
  parsed bank has none, then `apple_nvram_load_env`.

The round trip (`appleNvramSerialize_parse`) gives back the saved bank with each partition's
data padded to whole 16-byte units, and the environment replayed through `env_set`: the
variables themselves when their names are pairwise different.
-/

namespace QemuAppleSilicon.Nvram

open QemuAppleSilicon.Lib QemuAppleSilicon.Qemu

-- zlib's `adler32`, a parameter of the bank's model
variable (adler32 : UInt32 → List UInt8 → UInt32)

/-! ## The device state -/

/-- The part of `AppleNvramState` that saving and loading read and write: the bank and the
environment.
Source: `include/hw/nvram/apple_nvram.h` `AppleNvramState`
Kind: D -/
structure AppleNvramState where
  /-- `bank`. -/
  bank : NvramBank
  /-- `env`. -/
  env : List EnvVar
  deriving DecidableEq

/-- `"common"`, the partition that holds the environment.
Source: `hw/nvram/apple_nvram.c` `apple_nvram_serialize`, `apple_nvram_load`
Kind: D -/
def commonName : List UInt8 := asciiBytes "common"

/-- The `"common"` partition made when a bank has none: signature `0x70`, `0x7f0` zero bytes.
Source: `hw/nvram/apple_nvram.c` `apple_nvram_serialize` (`if (!p)`), `apple_nvram_load`
Kind: D -/
def newCommonPartition : NvramPartition where
  sig := 0x70
  len := 0x7f0
  data := List.replicate 0x7f0 0
  name := commonName
  data_length := List.length_replicate

/-- The bank with a new `"common"` partition at its head when it has none; the same block
stands in `apple_nvram_serialize` and in `apple_nvram_load`.
Source: `hw/nvram/apple_nvram.c` `apple_nvram_serialize`, `apple_nvram_load`
(`QTAILQ_INSERT_HEAD`)
Kind: D -/
def ensureCommon (bank : NvramBank) : NvramBank :=
  if (nvramFindPart bank commonName).isSome then bank
  else { bank with parts := newCommonPartition :: bank.parts }

/-! ## `apple_nvram_serialize` -/

/-- A successful `env_serialize` fills the whole buffer. -/
theorem envSerialize_length {env : List EnvVar} {len : ℕ} {r : ℕ × List UInt8}
    (h : envSerialize env len = some r) : r.2.length = len := by
  obtain ⟨hpos, hlt, hbytes⟩ := envSerialize_eq h
  rw [hbytes, List.length_append, List.length_replicate, ← hpos]
  omega

/-- `env_serialize(s, p->data, p->len)`: the partition's data replaced by the variables when they
fit, and left as it was when `env_serialize` returns `-1`.
Source: `hw/nvram/apple_nvram.c` `apple_nvram_serialize`, `env_serialize`
Kind: D -/
def envSerializeInto (env : List EnvVar) (p : NvramPartition) : NvramPartition where
  sig := p.sig
  len := p.len
  data := ((envSerialize env p.len).map Prod.snd).getD p.data
  name := p.name
  data_length := by
    cases h : envSerialize env p.len with
    | none => exact p.data_length
    | some r => exact envSerialize_length h

/-- `env_serialize` into the first partition named `"common"`, the one `nvram_find_part` finds.
Source: `hw/nvram/apple_nvram.c` `apple_nvram_serialize`
Kind: D -/
def envSerializeCommon (env : List EnvVar) : List NvramPartition → List NvramPartition
  | [] => []
  | p :: ps => if p.name = commonName then envSerializeInto env p :: ps
    else p :: envSerializeCommon env ps

/-- `apple_nvram_serialize(s, buffer, size)`: the state after the call and the bytes copied to
`buffer`, at most `size` of them; `none` is `-1`, when `nvram_prepare_bank` fails.
Source: `hw/nvram/apple_nvram.c` `apple_nvram_serialize`
Kind: D -/
def appleNvramSerialize (s : AppleNvramState) (size : ℕ) : AppleNvramState × Option (List UInt8) :=
  let bank := ensureCommon s.bank
  let bank := { bank with parts := envSerializeCommon s.env bank.parts }
  ({ s with bank := bank }, (nvramPrepareBank adler32 bank).map fun buf => buf.read 0 (min size bank.len))

/-! ## `apple_nvram_load` -/

/-- `apple_nvram_load` after reading `len` bytes (at most `0x2000`) of the block device into a
zeroed buffer: the bank parsed, a `"common"` partition added if it has none, and the
environment loaded from the first `"common"` partition into an empty list.
Source: `hw/nvram/apple_nvram.c` `apple_nvram_load`, `apple_nvram_load_env`
Kind: D -/
def appleNvramLoad (buffer : List UInt8) : AppleNvramState :=
  let bank := ensureCommon (nvramParse adler32 (Mem.write (fun _ => 0) 0 buffer) buffer.length)
  { bank := bank
    env := ((nvramFindPart bank commonName).map fun p => appleNvramLoadEnv [] p.data).getD [] }

/-! ## Finding `"common"` -/

section Common

variable {env : List EnvVar}

@[simp] theorem envSerializeInto_sig (p : NvramPartition) : (envSerializeInto env p).sig = p.sig :=
  rfl

@[simp] theorem envSerializeInto_len (p : NvramPartition) : (envSerializeInto env p).len = p.len :=
  rfl

@[simp] theorem envSerializeInto_name (p : NvramPartition) :
    (envSerializeInto env p).name = p.name :=
  rfl

/-- Writing the environment keeps a partition storable: the signature, length and name stay. -/
theorem NvramPartition.Storable.envSerializeInto {p : NvramPartition} (hp : p.Storable) :
    (envSerializeInto env p).Storable :=
  ⟨hp.len_ne_zero, hp.sig_ne_free, hp.name_cstr, hp.name_length, hp.not_panic⟩

/-- The new `"common"` partition is storable. -/
theorem newCommonPartition_storable : newCommonPartition.Storable := by decide

theorem storable_envSerializeCommon (ps : List NvramPartition) (hps : ∀ p ∈ ps, p.Storable) :
    ∀ q ∈ envSerializeCommon env ps, q.Storable := by
  induction ps with
  | nil => simp [envSerializeCommon]
  | cons p ps ih =>
    have hp := hps p (by simp)
    have hrest : ∀ q ∈ ps, q.Storable := fun q hq => hps q (by simp [hq])
    intro q hq
    simp only [envSerializeCommon] at hq
    split_ifs at hq
    · rcases List.mem_cons.mp hq with rfl | hq
      · exact hp.envSerializeInto
      · exact hrest q hq
    · rcases List.mem_cons.mp hq with rfl | hq
      · exact hp
      · exact ih hrest q hq

/-- `nvram_find_part` after the write finds the written partition. -/
theorem find_envSerializeCommon (ps : List NvramPartition) :
    (envSerializeCommon env ps).find? (fun p => p.name = commonName) =
      (ps.find? fun p => p.name = commonName).map (envSerializeInto env) := by
  induction ps with
  | nil => rfl
  | cons p ps ih =>
    by_cases hp : p.name = commonName
    · simp [envSerializeCommon, hp]
    · simp [envSerializeCommon, hp, ih]

/-- The partition `apple_nvram_serialize` writes: the first `"common"` one, or the new one.
Source: `hw/nvram/apple_nvram.c` `apple_nvram_serialize` (`p`)
Kind: D -/
def commonPart (bank : NvramBank) : NvramPartition :=
  (nvramFindPart bank commonName).getD newCommonPartition

/-- After `ensureCommon`, `nvram_find_part` finds `commonPart`. -/
theorem nvramFindPart_ensureCommon (bank : NvramBank) :
    nvramFindPart (ensureCommon bank) commonName = some (commonPart bank) := by
  rw [ensureCommon, commonPart]
  cases h : nvramFindPart bank commonName with
  | none =>
    rw [Option.isSome_none, if_neg Bool.false_ne_true, nvramFindPart, List.find?_cons_of_pos]
    · rfl
    · exact decide_eq_true rfl
  | some p => rw [Option.isSome_some, if_pos rfl, h, Option.getD_some]

theorem storable_ensureCommon (bank : NvramBank) (hparts : ∀ p ∈ bank.parts, p.Storable) :
    ∀ p ∈ (ensureCommon bank).parts, p.Storable := by
  rw [ensureCommon]
  split_ifs
  · exact hparts
  · intro p hp
    rcases List.mem_cons.mp hp with rfl | hp
    · exact newCommonPartition_storable
    · exact hparts p hp

@[simp] theorem ensureCommon_len (bank : NvramBank) : (ensureCommon bank).len = bank.len := by
  rw [ensureCommon]
  split_ifs <;> rfl

end Common

/-! ## The round trip -/

section RoundTrip

variable {adler32}

variable {s s' : AppleNvramState} {bytes : List UInt8}

/-- What `apple_nvram_serialize` leaves in the state: the bank with `"common"` ensured and the
environment written into it; the environment itself stays. -/
theorem appleNvramSerialize_fst (s : AppleNvramState) (size : ℕ) :
    (appleNvramSerialize adler32 s size).1 =
      { s with bank := { ensureCommon s.bank with
        parts := envSerializeCommon s.env (ensureCommon s.bank).parts } } :=
  rfl

/-- The partition `nvram_find_part` finds in the saved bank: the environment written into
`commonPart`. -/
theorem nvramFindPart_appleNvramSerialize (s : AppleNvramState) (size : ℕ) :
    nvramFindPart (appleNvramSerialize adler32 s size).1.bank commonName =
      some (envSerializeInto s.env (commonPart s.bank)) := by
  have h := nvramFindPart_ensureCommon s.bank
  rw [nvramFindPart] at h
  rw [appleNvramSerialize_fst, nvramFindPart]
  exact (find_envSerializeCommon _).trans (by rw [h]; rfl)

/-- The bytes `apple_nvram_serialize` copies, with `size` the bank's length, are the buffer
`nvram_prepare_bank` wrote. -/
theorem appleNvramSerialize_snd (h : appleNvramSerialize adler32 s s.bank.len = (s', some bytes)) :
    s'.bank.len = s.bank.len ∧ ∃ buf, nvramPrepareBank adler32 s'.bank = some buf ∧
      bytes = buf.read 0 s.bank.len := by
  have hs' : s' = (appleNvramSerialize adler32 s s.bank.len).1 := by rw [h]
  have hlen : s'.bank.len = s.bank.len := by
    rw [hs', appleNvramSerialize_fst]
    exact ensureCommon_len s.bank
  have hbytes : (appleNvramSerialize adler32 s s.bank.len).2 = some bytes := by rw [h]
  rw [appleNvramSerialize, Option.map_eq_some_iff] at hbytes
  obtain ⟨buf, hbuf, rfl⟩ := hbytes
  refine ⟨hlen, buf, ?_, ?_⟩
  · rw [hs', appleNvramSerialize_fst]
    exact hbuf
  · dsimp only
    rw [ensureCommon_len, Nat.min_self]

section Hyps

variable (hlen16 : 16 ∣ s.bank.len) (hlo : 0x20 ≤ s.bank.len) (hhi : s.bank.len ≤ 0x2000)
  (hparts : ∀ p ∈ s.bank.parts, p.Storable)

include hlen16 hlo hhi hparts

/-- **The saved bank parses back**: the buffer `apple_nvram_serialize` fills passes both checks
of `nvram_parse`, which returns the saved partitions padded.
Source: `hw/nvram/apple_nvram.c` `apple_nvram_serialize`, `nvram_parse`
Kind: L -/
theorem appleNvramSerialize_parse (h : appleNvramSerialize adler32 s s.bank.len = (s', some bytes)) :
    let buf := Mem.write (fun _ => 0) 0 bytes
    buf 1 = chrpChecksumAt buf 0 ∧
      adler32 1 (buf.read 0x14 (s.bank.len - 0x14)) = ldlLeP buf 0x10 ∧
      nvramParse adler32 buf s.bank.len = ⟨s'.bank.parts.map NvramPartition.padded, s.bank.len⟩ := by
  obtain ⟨hlen, buf, hbuf, rfl⟩ := appleNvramSerialize_snd h
  have hs' : s' = (appleNvramSerialize adler32 s s.bank.len).1 := by rw [h]
  have hparts' : ∀ p ∈ s'.bank.parts, p.Storable := by
    rw [hs', appleNvramSerialize_fst]
    exact storable_envSerializeCommon _ (storable_ensureCommon s.bank hparts)
  rw [← hlen] at hlen16 hlo hhi ⊢
  obtain ⟨hcheck, hadler, hzero, -⟩ := nvramPrepareBank_spec hlen16 hlo hhi
    (fun p hp => (hparts' p hp).len_ne_zero) hbuf
  -- the copy in a zeroed buffer is the prepared buffer itself
  have hzero' : Mem.Unchanged (fun _ => 0) buf 0 (0 + s'.bank.len) := by rwa [Nat.zero_add]
  have hcopy : Mem.write (fun _ => 0) 0 (buf.read 0 s'.bank.len) = buf :=
    (Mem.eq_write_read_of_unchanged _ hzero').symm
  rw [hcopy]
  exact ⟨hcheck, hadler, nvramParse_nvramPrepareBank hlen16 hlo hhi hparts' hbuf⟩

/-- **The saved environment loads back** as `env_set` replayed over it, when it fitted into
`"common"` and no name holds a `'='`.
Source: `hw/nvram/apple_nvram.c` `apple_nvram_serialize`, `apple_nvram_load_env`
Kind: L -/
theorem appleNvramSerialize_load_env (hname : ∀ v ∈ s.env, EQUALS ∉ v.name)
    (hfit : (envSerialize s.env (commonPart s.bank).len).isSome)
    (h : appleNvramSerialize adler32 s s.bank.len = (s', some bytes)) :
    ∃ p, nvramFindPart (nvramParse adler32 (Mem.write (fun _ => 0) 0 bytes) s.bank.len) commonName =
      some p ∧ appleNvramLoadEnv [] p.data = replayEnv [] s.env := by
  obtain ⟨-, -, hparse⟩ := appleNvramSerialize_parse hlen16 hlo hhi hparts h
  obtain ⟨⟨pos, data⟩, hser⟩ := Option.isSome_iff_exists.mp hfit
  have hs' : s' = (appleNvramSerialize adler32 s s.bank.len).1 := by rw [h]
  have hfind : nvramFindPart s'.bank commonName =
      some (envSerializeInto s.env (commonPart s.bank)) := by
    rw [hs']
    exact nvramFindPart_appleNvramSerialize s s.bank.len
  refine ⟨(envSerializeInto s.env (commonPart s.bank)).padded, ?_, ?_⟩
  · -- padding keeps the names, so `nvram_find_part` finds the same partition
    rw [hparse, nvramFindPart, List.find?_map]
    rw [nvramFindPart] at hfind
    exact (congrArg (Option.map NvramPartition.padded) hfind :)
  · have hdata : (envSerializeInto s.env (commonPart s.bank)).data = data := by
      simp [envSerializeInto, hser]
    rw [NvramPartition.padded_data, hdata]
    exact appleNvramLoadEnv_envSerialize hname hser _

/-- **Saving, then loading what was saved**: `apple_nvram_load` on the bytes
`apple_nvram_serialize` wrote gives back the saved bank, padded, and the environment replayed
through `env_set`.
Source: `hw/nvram/apple_nvram.c` `apple_nvram_save`, `apple_nvram_load`
Kind: L -/
theorem appleNvramLoad_appleNvramSerialize (hname : ∀ v ∈ s.env, EQUALS ∉ v.name)
    (hfit : (envSerialize s.env (commonPart s.bank).len).isSome)
    (h : appleNvramSerialize adler32 s s.bank.len = (s', some bytes)) :
    appleNvramLoad adler32 bytes =
      ⟨⟨s'.bank.parts.map NvramPartition.padded, s.bank.len⟩, replayEnv [] s.env⟩ := by
  obtain ⟨-, -, hparse⟩ := appleNvramSerialize_parse hlen16 hlo hhi hparts h
  obtain ⟨p, hfind, hload⟩ := appleNvramSerialize_load_env hlen16 hlo hhi hparts hname hfit h
  have hlength : bytes.length = s.bank.len := by
    obtain ⟨-, buf, -, rfl⟩ := appleNvramSerialize_snd h
    exact Mem.read_length _ _ _
  -- the parsed bank has its `"common"` partition, so `apple_nvram_load` adds none
  have hensure : ensureCommon (nvramParse adler32 (Mem.write (fun _ => 0) 0 bytes) s.bank.len) =
      nvramParse adler32 (Mem.write (fun _ => 0) 0 bytes) s.bank.len := by
    rw [ensureCommon, if_pos (by rw [hfind]; rfl)]
  rw [appleNvramLoad, hlength, hensure, hfind, Option.map_some, Option.getD_some, hload, hparse]

end Hyps

end RoundTrip

/-! ## The full round trip -/

/-- **The NVRAM round trip** for a bank of storable partitions and an environment whose names
hold no `'='` and are pairwise different, when `env_serialize` fits the environment into
`"common"` and `apple_nvram_serialize` succeeds: the buffer passes both checks of
`nvram_parse`, which returns the saved partitions padded to 16-byte units, and
`apple_nvram_load_env` on its `"common"` partition rebuilds the environment.
Source: `hw/nvram/apple_nvram.c` `apple_nvram_serialize`, `nvram_parse`, `apple_nvram_load_env`
Kind: P -/
theorem nvram_serialize_parse_round_trip {s s' : AppleNvramState} {bytes : List UInt8}
    (hlen16 : 16 ∣ s.bank.len) (hlo : 0x20 ≤ s.bank.len) (hhi : s.bank.len ≤ 0x2000)
    (hparts : ∀ p ∈ s.bank.parts, p.Storable) (hname : ∀ v ∈ s.env, EQUALS ∉ v.name)
    (hdistinct : (s.env.map EnvVar.name).Nodup)
    (hfit : (envSerialize s.env (commonPart s.bank).len).isSome)
    (h : appleNvramSerialize adler32 s s.bank.len = (s', some bytes)) :
    let buf := Mem.write (fun _ => 0) 0 bytes
    buf 1 = chrpChecksumAt buf 0 ∧
      adler32 1 (buf.read 0x14 (s.bank.len - 0x14)) = ldlLeP buf 0x10 ∧
      nvramParse adler32 buf s.bank.len = ⟨s'.bank.parts.map NvramPartition.padded, s.bank.len⟩ ∧
      ∃ p, nvramFindPart (nvramParse adler32 buf s.bank.len) commonName = some p ∧
        appleNvramLoadEnv [] p.data = s.env := by
  obtain ⟨hcheck, hadler, hparse⟩ := appleNvramSerialize_parse hlen16 hlo hhi hparts h
  obtain ⟨p, hfind, hload⟩ := appleNvramSerialize_load_env hlen16 hlo hhi hparts hname hfit h
  -- with different names, replaying `env_set` appends each variable in turn
  have hreplay : replayEnv [] s.env = s.env := by
    rw [replayEnv_of_nodup s.env [] hdistinct (by simp), List.nil_append]
  exact ⟨hcheck, hadler, hparse, p, hfind, hload.trans hreplay⟩

/-- A fresh device of `0x840` bytes, with no partition yet, and one variable. -/
def freshNvramState : AppleNvramState where
  bank := ⟨[], 0x840⟩
  env := [mkEnvVar (asciiBytes "auto-boot") (asciiBytes "true")]

theorem nvram_serialize_parse_round_trip_fresh :
    let s := freshNvramState
    let r := appleNvramSerialize zlibAdler32 s s.bank.len
    let buf := Mem.write (fun _ => 0) 0 (r.2.getD [])
    buf 1 = chrpChecksumAt buf 0 ∧
      zlibAdler32 1 (buf.read 0x14 (s.bank.len - 0x14)) = ldlLeP buf 0x10 ∧
      nvramParse zlibAdler32 buf s.bank.len = ⟨r.1.bank.parts.map NvramPartition.padded, s.bank.len⟩ ∧
      ∃ p, nvramFindPart (nvramParse zlibAdler32 buf s.bank.len) commonName = some p ∧
        appleNvramLoadEnv [] p.data = s.env := by
  have hsome : (appleNvramSerialize zlibAdler32 freshNvramState 0x840).2.isSome := by decide
  have hr : appleNvramSerialize zlibAdler32 freshNvramState 0x840 =
      ((appleNvramSerialize zlibAdler32 freshNvramState 0x840).1,
        some ((appleNvramSerialize zlibAdler32 freshNvramState 0x840).2.getD [])) :=
    Prod.ext rfl ((Option.eq_some_of_isSome hsome).trans (congrArg some (Option.get_eq_getD _)))
  exact nvram_serialize_parse_round_trip zlibAdler32 (by decide) (by decide) (by decide) (by simp [freshNvramState])
    (by decide) (by decide) (by decide) hr

/-- A fresh device whose environment was set twice under one name of `64` bytes: `env_set`
looks the whole name up but stores it cut to `63` bytes, so both variables stay. -/
def longNameNvramState : AppleNvramState where
  bank := ⟨[], 0x840⟩
  env := envSet (envSet [] (List.replicate 64 0x61) (asciiBytes "1")) (List.replicate 64 0x61)
    (asciiBytes "2")

/-- **Two variables of one name do not survive the round trip**: every assumption but distinct
names holds, the save succeeds, and the load keeps only the second variable.
Source: `hw/nvram/apple_nvram.c` `env_set`, `apple_nvram_load_env`
Kind: P -/
theorem nvram_round_trip_drops_repeated_long_name :
    let s := longNameNvramState
    (∀ v ∈ s.env, EQUALS ∉ v.name) ∧ (envSerialize s.env (commonPart s.bank).len).isSome ∧
      ∃ s' bytes, appleNvramSerialize zlibAdler32 s s.bank.len = (s', some bytes) ∧
        ∃ p, nvramFindPart (nvramParse zlibAdler32 (Mem.write (fun _ => 0) 0 bytes) s.bank.len) commonName =
          some p ∧ appleNvramLoadEnv [] p.data ≠ s.env := by
  have hname : ∀ v ∈ longNameNvramState.env, EQUALS ∉ v.name := by decide
  have hfit : (envSerialize longNameNvramState.env (commonPart longNameNvramState.bank).len).isSome :=
    by decide
  have hsome : (appleNvramSerialize zlibAdler32 longNameNvramState 0x840).2.isSome := by decide
  have hr : appleNvramSerialize zlibAdler32 longNameNvramState 0x840 =
      ((appleNvramSerialize zlibAdler32 longNameNvramState 0x840).1,
        some ((appleNvramSerialize zlibAdler32 longNameNvramState 0x840).2.getD [])) :=
    Prod.ext rfl ((Option.eq_some_of_isSome hsome).trans (congrArg some (Option.get_eq_getD _)))
  obtain ⟨p, hfind, hload⟩ := appleNvramSerialize_load_env (by decide) (by decide) (by decide)
    (by simp [longNameNvramState]) hname hfit hr
  -- replaying `env_set` over the two variables of one name keeps the second only
  have hreplay : replayEnv [] longNameNvramState.env ≠ longNameNvramState.env := by decide
  exact ⟨hname, hfit, _, _, hr, p, hfind, hload ▸ hreplay⟩

end QemuAppleSilicon.Nvram
