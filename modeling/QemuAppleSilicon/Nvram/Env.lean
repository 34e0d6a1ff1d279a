import Mathlib.Data.List.TakeWhile
import QemuAppleSilicon.Qemu.Base

/-!
# The NVRAM environment (`hw/nvram/apple_nvram.c`)

The environment is a list of variables, each a name of at most `63` bytes (`char name[64]`) and
a value, both C strings.

* `envSet` — `env_set`: the first variable of the given name is removed, then the new one is
  appended with its name cut to `63` bytes by `g_strlcpy`. The lookup compares the name as
  given, before the cut, so setting a name longer than `63` bytes twice leaves two variables of
  one name (`envSet_long_name_twice`).
* `envSerialize` — `env_serialize`: `name=value` records, each ended by a zero byte, into a
  zeroed buffer of `len` bytes; `none` (the `-1`) once a record does not fit with room for a
  zero byte after it.
* `appleNvramLoadEnv` — `apple_nvram_load_env`: the records read back, one `env_set` each.

The round trip (`appleNvramLoadEnv_envSerialize`) replays `env_set` over the serialised list;
it rebuilds the list itself exactly when its names are pairwise different
(`replayEnv_of_nodup`).
-/

namespace QemuAppleSilicon.Nvram

open QemuAppleSilicon.Lib QemuAppleSilicon.Qemu

/-! ## Variables -/

/-- `'='`.
Source: `hw/nvram/apple_nvram.c` `env_serialize` (`"%s=%s"`)
Kind: D -/
def EQUALS : UInt8 := 0x3D

/-- An environment variable: `env_var`'s name and string, each a C string, the name within
`char name[64]`.
Source: `include/hw/nvram/apple_nvram.h` `env_var`
Kind: D -/
structure EnvVar where
  /-- `name`. -/
  name : List UInt8
  /-- `str`. -/
  str : List UInt8
  name_cstr : 0 ∉ name
  name_length : name.length ≤ 63
  str_cstr : 0 ∉ str
  deriving DecidableEq

/-- The bytes of a C string: what `%s` and `g_strdup` take from `s`. -/
theorem zero_not_mem_cString (s : List UInt8) : 0 ∉ cString s := by
  intro h
  have := List.mem_takeWhile_imp h
  simp at this

/-- A C string without a zero byte is itself. -/
theorem cString_of_zero_not_mem {s : List UInt8} (h : 0 ∉ s) : cString s = s := by
  rw [cString, List.takeWhile_eq_self_iff]
  intro b hb
  have : b ≠ 0 := fun hb0 => h (hb0 ▸ hb)
  simpa using this

/-- A string followed by a byte that stops a scan reads back as the string. -/
theorem takeWhile_append_cons_of_neg {p : UInt8 → Bool} {s rest : List UInt8} {c : UInt8}
    (hs : ∀ b ∈ s, p b = true) (hc : p c = false) : (s ++ c :: rest).takeWhile p = s := by
  rw [List.takeWhile_append_of_pos hs]
  simp [hc]

/-- A C string ends at the first zero byte: what follows a zero byte is never read. -/
theorem cString_append_of_zero_mem {s : List UInt8} (rest : List UInt8) (h : 0 ∈ s) :
    cString (s ++ rest) = cString s := by
  induction s with
  | nil => simp at h
  | cons b s ih =>
    by_cases hb : b = 0
    · subst hb
      rfl
    · have hs : 0 ∈ s := by
        rcases List.mem_cons.mp h with h | h
        · exact absurd h.symm hb
        · exact h
      have hp : (b != 0) = true := by simpa using hb
      rw [List.cons_append, cString, cString, List.takeWhile_cons, List.takeWhile_cons, if_pos hp,
        if_pos hp, ← cString, ← cString, ih hs]

/-! ## `find_env`, `env_unset`, `env_set` -/

/-- `find_env(s, name)`: the first variable whose name is `strcmp`-equal to `name`.
Source: `hw/nvram/apple_nvram.c` `find_env`
Kind: D -/
def findEnv (env : List EnvVar) (name : List UInt8) : Option EnvVar :=
  env.find? fun v => v.name = cString name

/-- `env_unset(s, name)`: the first variable of that name removed.
Source: `hw/nvram/apple_nvram.c` `env_unset`
Kind: D -/
def envUnset (env : List EnvVar) (name : List UInt8) : List EnvVar :=
  env.eraseP fun v => v.name = cString name

/-- The variable `env_set` builds: the name cut to `63` bytes by `g_strlcpy`, the value copied by
`g_strdup`.
Source: `hw/nvram/apple_nvram.c` `env_set` (`g_strlcpy`, `g_strdup`)
Kind: D -/
def mkEnvVar (name val : List UInt8) : EnvVar where
  name := (cString name).take 63
  str := cString val
  name_cstr := fun h => zero_not_mem_cString name (List.mem_of_mem_take h)
  name_length := by simp
  str_cstr := zero_not_mem_cString val

/-- `env_set(s, name, val, flags)`: an existing variable of that name is removed, the new one
appended.
Source: `hw/nvram/apple_nvram.c` `env_set`
Kind: D -/
def envSet (env : List EnvVar) (name val : List UInt8) : List EnvVar :=
  envUnset env name ++ [mkEnvVar name val]

/-- A variable's own name and value make it again. -/
theorem mkEnvVar_self (v : EnvVar) : mkEnvVar v.name v.str = v := by
  have hname : (cString v.name).take 63 = v.name := by
    rw [cString_of_zero_not_mem v.name_cstr, List.take_of_length_le v.name_length]
  cases v
  simp only [mkEnvVar] at hname ⊢
  simp only [hname, cString_of_zero_not_mem ‹_›]

/-- Setting a name no variable has appends the variable. -/
theorem envSet_of_fresh {env : List EnvVar} {v : EnvVar} (h : ∀ w ∈ env, w.name ≠ v.name) :
    envSet env v.name v.str = env ++ [v] := by
  have herase : envUnset env v.name = env := by
    rw [envUnset, List.eraseP_of_forall_not]
    intro w hw
    rw [cString_of_zero_not_mem v.name_cstr]
    simpa using h w hw
  rw [envSet, herase, mkEnvVar_self]

/-- **Setting a name longer than `63` bytes always appends**: `find_env` compares the whole
name, and no stored name, cut to `63` bytes, is that long.
Source: `hw/nvram/apple_nvram.c` `env_set`
Kind: L -/
theorem envSet_long_name (env : List EnvVar) (name val : List UInt8)
    (hlong : 63 < (cString name).length) : envSet env name val = env ++ [mkEnvVar name val] := by
  have herase : envUnset env name = env := by
    rw [envUnset, List.eraseP_of_forall_not]
    intro w _ heq
    have hw := w.name_length
    rw [decide_eq_true_eq] at heq
    rw [heq] at hw
    omega
  rw [envSet, herase]

/-- Setting one name longer than `63` bytes twice leaves two variables of the same name.
Source: `hw/nvram/apple_nvram.c` `env_set`
Kind: L -/
theorem envSet_long_name_twice (env : List EnvVar) (name a b : List UInt8)
    (hlong : 63 < (cString name).length) :
    envSet (envSet env name a) name b = env ++ [mkEnvVar name a, mkEnvVar name b] ∧
      (mkEnvVar name a).name = (mkEnvVar name b).name := by
  refine ⟨?_, rfl⟩
  rw [envSet_long_name _ _ _ hlong, envSet_long_name _ _ _ hlong, List.append_assoc]
  rfl

/-- `env_get(s, name)`: the value of the first variable `find_env` finds.
Source: `hw/nvram/apple_nvram.c` `env_get`
Kind: D -/
def envGet (env : List EnvVar) (name : List UInt8) : Option (List UInt8) :=
  (findEnv env name).map EnvVar.str

/-- `env_get_uint(s, name, default_val)`: `v->u`, which `env_set` took as `strtoul(v->str, NULL,
0)` (on LP64 `unsigned long` is 64 bits, as `g_ascii_strtoull` parses).
Source: `hw/nvram/apple_nvram.c` `env_get_uint`, `env_set`
Kind: D -/
def envGetUint (env : List EnvVar) (name : List UInt8) (defaultVal : ℕ) : ℕ :=
  match findEnv env name with
  | some v => gAsciiStrtoull v.str
  | none => defaultVal

/-- `env_get_bool(s, name, default_val)`: `true` for the value `"true"` or a non-zero `v->u`.
Source: `hw/nvram/apple_nvram.c` `env_get_bool`
Kind: D -/
def envGetBool (env : List EnvVar) (name : List UInt8) (defaultVal : Bool) : Bool :=
  match findEnv env name with
  | some v => v.str = asciiBytes "true" || gAsciiStrtoull v.str != 0
  | none => defaultVal

/-- `env_set_bool(s, name, val, flags)`.
Source: `hw/nvram/apple_nvram.c` `env_set_bool`
Kind: D -/
def envSetBool (env : List EnvVar) (name : List UInt8) (val : Bool) : List EnvVar :=
  envSet env name (asciiBytes (if val then "true" else "false"))

/-- `env_set_uint(s, name, val, flags)`: the value printed with `"0x%lx"`.
Source: `hw/nvram/apple_nvram.c` `env_set_uint`
Kind: D -/
def envSetUint (env : List EnvVar) (name : List UInt8) (val : ℕ) : List EnvVar :=
  envSet env name (asciiBytes ("0x" ++ String.ofList (Nat.toDigits 16 (val % 2 ^ 64))))

/-- The names of an environment are pairwise different.
Source: `hw/nvram/apple_nvram.c` `find_env`, `env_set`
Kind: D -/
def EnvNodup (env : List EnvVar) : Prop := (env.map EnvVar.name).Nodup

/-- No stored name is longer than `63` bytes, so a longer name is never found.
Source: `hw/nvram/apple_nvram.c` `find_env`
Kind: L -/
theorem findEnv_long_name (env : List EnvVar) (name : List UInt8)
    (hlong : 63 < (cString name).length) : findEnv env name = none := by
  rw [findEnv, List.find?_eq_none]
  intro w _ heq
  have hw := w.name_length
  rw [decide_eq_true_eq] at heq
  rw [heq] at hw
  omega

/-- After `env_unset` of a name no variable of that name is left, when there was at most one.
Source: `hw/nvram/apple_nvram.c` `env_unset`
Kind: L -/
theorem findEnv_envUnset_self {env : List EnvVar} (hnd : EnvNodup env) (name : List UInt8) :
    findEnv (envUnset env name) name = none := by
  induction env with
  | nil => rfl
  | cons v env ih =>
    rw [EnvNodup, List.map_cons, List.nodup_cons] at hnd
    by_cases hv : v.name = cString name
    · -- the first match goes; no later variable has its name
      rw [envUnset, List.eraseP_cons_of_pos (by simpa using hv), findEnv, List.find?_eq_none]
      intro w hw heq
      rw [decide_eq_true_eq, ← hv] at heq
      exact hnd.1 (heq ▸ List.mem_map_of_mem hw)
    · rw [envUnset, List.eraseP_cons_of_neg (by simpa using hv), ← envUnset, findEnv,
        List.find?_cons_of_neg (by simpa using hv), ← findEnv, ih hnd.2]

/-- `env_unset` keeps the names pairwise different: it only removes a variable.
Source: `hw/nvram/apple_nvram.c` `env_unset`
Kind: L -/
theorem envNodup_envUnset {env : List EnvVar} (hnd : EnvNodup env) (name : List UInt8) :
    EnvNodup (envUnset env name) :=
  List.Nodup.sublist (List.Sublist.map _ (List.eraseP_sublist)) hnd

/-- With a name of at most `63` bytes, `env_set` keeps the names pairwise different and
`env_get` then finds the new value.
Source: `hw/nvram/apple_nvram.c` `env_set`, `env_get`
Kind: L -/
theorem envSet_short_name {env : List EnvVar} (hnd : EnvNodup env) (name val : List UInt8)
    (hshort : (cString name).length ≤ 63) :
    EnvNodup (envSet env name val) ∧ envGet (envSet env name val) name = some (cString val) := by
  have hname : (mkEnvVar name val).name = cString name := List.take_of_length_le hshort
  have hgone := findEnv_envUnset_self hnd name
  rw [findEnv, List.find?_eq_none] at hgone
  refine ⟨?_, ?_⟩
  · rw [EnvNodup, envSet, List.map_append, List.nodup_append]
    refine ⟨envNodup_envUnset hnd name, List.nodup_singleton _, ?_⟩
    -- the new name is not among the names left
    intro a ha b hb hab
    obtain ⟨w, hw, rfl⟩ := List.mem_map.mp ha
    rw [List.map_singleton, List.mem_singleton] at hb
    exact hgone w hw (by rw [decide_eq_true_eq, hab, hb, hname])
  · rw [envGet, findEnv, envSet, List.find?_append, List.find?_eq_none.mpr hgone,
      Option.none_or, List.find?_singleton, if_pos (by simpa using hname)]
    rfl

/-- **A name longer than `63` bytes set twice is stored twice, and `env_get` never finds it**:
`env_set` stores the name cut to `63` bytes, while `find_env` compares with the whole name.
Source: `hw/nvram/apple_nvram.c` `env_set`, `find_env`, `env_get`
Kind: P -/
theorem env_set_long_name_duplicates (env : List EnvVar) (name a b : List UInt8)
    (hlong : 63 < (cString name).length) :
    ¬ EnvNodup (envSet (envSet env name a) name b) ∧ envGet (envSet env name a) name = none := by
  obtain ⟨htwice, hsame⟩ := envSet_long_name_twice env name a b hlong
  refine ⟨?_, ?_⟩
  · rw [EnvNodup, htwice, List.map_append]
    intro hnd
    have hpair := (List.nodup_append.mp hnd).2.1
    rw [List.map_cons, List.map_singleton, List.nodup_cons, List.mem_singleton] at hpair
    exact hpair.1 hsame
  · rw [envGet, findEnv_long_name _ _ hlong]
    rfl

/-- The name of 64 `A`s, set to `1` and then to `2`. -/
theorem env_set_long_name_duplicates_sixty_four :
    63 < (cString (List.replicate 64 65)).length ∧
      ¬ EnvNodup (envSet (envSet [] (List.replicate 64 65) [49]) (List.replicate 64 65) [50]) ∧
      envGet (envSet [] (List.replicate 64 65) [49]) (List.replicate 64 65) = none :=
  ⟨by decide, env_set_long_name_duplicates [] (List.replicate 64 65) [49] [50] (by decide)⟩

/-- `env_set` run over a list of variables, in order. -/
def replayEnv (env : List EnvVar) (vs : List EnvVar) : List EnvVar :=
  vs.foldl (fun env v => envSet env v.name v.str) env

/-- **Replaying a list of pairwise differently named variables** onto an environment that has
none of their names appends them. -/
theorem replayEnv_of_nodup (vs : List EnvVar) :
    ∀ (env : List EnvVar), (vs.map EnvVar.name).Nodup → (∀ w ∈ env, ∀ v ∈ vs, w.name ≠ v.name) →
      replayEnv env vs = env ++ vs := by
  induction vs with
  | nil => intro env _ _; simp [replayEnv]
  | cons v vs ih =>
    intro env hnd hfresh
    rw [List.map_cons, List.nodup_cons] at hnd
    have hset : envSet env v.name v.str = env ++ [v] :=
      envSet_of_fresh fun w hw => hfresh w hw v (by simp)
    rw [replayEnv, List.foldl_cons, ← replayEnv, hset, ih (env ++ [v]) hnd.2]
    · simp
    · -- the names still to come differ from the old ones and from `v`'s
      intro w hw u hu
      rcases List.mem_append.mp hw with hw | hw
      · exact hfresh w hw u (by simp [hu])
      · rw [List.mem_singleton.mp hw]
        intro heq
        exact hnd.1 (heq ▸ List.mem_map_of_mem hu)

/-! ## `env_serialize` -/

/-- The record `env_serialize` prints for a variable: `"%s=%s"` and the zero byte after it.
Source: `hw/nvram/apple_nvram.c` `env_serialize` (`snprintf`)
Kind: D -/
def envRecord (v : EnvVar) : List UInt8 := v.name ++ EQUALS :: v.str

/-- The records of a list of variables, each followed by a zero byte. -/
def envBytes (vs : List EnvVar) : List UInt8 := vs.flatMap fun v => envRecord v ++ [0]

/-- The loop of `env_serialize` from `pos`: `snprintf` writes what fits of the record and a zero
byte, `pos` moves past the written string, and `-1` once `pos` reaches `len`.
Source: `hw/nvram/apple_nvram.c` `env_serialize` (the `QTAILQ_FOREACH`)
Kind: D -/
def envSerializeLoop (len : ℕ) : List EnvVar → ℕ → Mem → Option (ℕ × Mem)
  | [], pos, buf => some (pos, buf)
  | v :: vs, pos, buf =>
    let printed := (cString v.name ++ EQUALS :: cString v.str).take (len - pos - 1)
    let buf := buf.write pos (printed ++ [0])
    let pos := pos + (cString printed).length + 1
    if len ≤ pos then none else envSerializeLoop len vs pos buf

/-- `env_serialize(s, buffer, len)`: the returned position and the `len` bytes copied to
`buffer`; `none` is `-1`, with `buffer` untouched (`g_malloc0(0)` is `NULL`, so `len = 0` fails
too).
Source: `hw/nvram/apple_nvram.c` `env_serialize`
Kind: D -/
def envSerialize (env : List EnvVar) (len : ℕ) : Option (ℕ × List UInt8) :=
  if len = 0 then none
  else (envSerializeLoop len env 0 fun _ => 0).map fun r => (r.1, r.2.read 0 len)

@[simp] theorem envBytes_nil : envBytes [] = [] := rfl

theorem envBytes_cons (v : EnvVar) (vs : List EnvVar) :
    envBytes (v :: vs) = envRecord v ++ [0] ++ envBytes vs := by
  simp [envBytes]

/-- Every record takes at least one byte, its zero byte. -/
theorem length_le_length_envBytes (vs : List EnvVar) : vs.length ≤ (envBytes vs).length := by
  induction vs with
  | nil => simp
  | cons v vs ih =>
    rw [envBytes_cons, List.length_append, List.length_append, List.length_singleton,
      List.length_cons]
    omega

/-- A record has no zero byte. -/
theorem zero_not_mem_envRecord (v : EnvVar) : 0 ∉ envRecord v := by
  simp only [envRecord, List.mem_append, List.mem_cons, not_or]
  exact ⟨v.name_cstr, by decide, v.str_cstr⟩

/-- **A successful serialisation loop wrote every record whole**: no `snprintf` was cut short,
so the records lie one after another from `pos`. -/
theorem envSerializeLoop_eq (len : ℕ) (vs : List EnvVar) :
    ∀ (pos : ℕ) (buf : Mem) (pos' : ℕ) (buf' : Mem),
      envSerializeLoop len vs pos buf = some (pos', buf') →
        pos' = pos + (envBytes vs).length ∧ buf' = buf.write pos (envBytes vs) ∧
          (pos < len → pos' < len) := by
  induction vs with
  | nil =>
    intro pos buf pos' buf' h
    cases h
    simp
  | cons v vs ih =>
    intro pos buf pos' buf' h
    simp only [envSerializeLoop, cString_of_zero_not_mem v.name_cstr,
      cString_of_zero_not_mem v.str_cstr] at h
    split_ifs at h with hfit
    -- the record fits: `take` keeps it whole, so `strlen` is its length
    have hz : 0 ∉ (v.name ++ EQUALS :: v.str).take (len - pos - 1) :=
      fun h0 => zero_not_mem_envRecord v (List.mem_of_mem_take h0)
    rw [cString_of_zero_not_mem hz] at hfit h
    rw [List.length_take] at hfit
    have hwhole : (v.name ++ EQUALS :: v.str).take (len - pos - 1) = envRecord v := by
      apply List.take_of_length_le
      omega
    rw [hwhole] at h
    obtain ⟨hpos, hbuf, hlt⟩ := ih _ _ _ _ h
    have hrec : (envRecord v).length = (v.name ++ EQUALS :: v.str).length := rfl
    refine ⟨?_, ?_, fun _ => hlt (by omega)⟩
    · rw [hpos, envBytes_cons, List.length_append, List.length_append, List.length_singleton]
      omega
    · rw [hbuf, envBytes_cons, Mem.write_append buf pos (envRecord v ++ [0]) (envBytes vs),
        List.length_append, List.length_singleton, Nat.add_assoc]

/-- **What a successful `env_serialize` leaves**: the records, then zeros up to `len`, and at
least one zero after the last record. -/
theorem envSerialize_eq {env : List EnvVar} {len pos : ℕ} {bytes : List UInt8}
    (h : envSerialize env len = some (pos, bytes)) :
    pos = (envBytes env).length ∧ pos < len ∧
      bytes = envBytes env ++ List.replicate (len - pos) 0 := by
  unfold envSerialize at h
  split_ifs at h with hlen
  simp only [Option.map_eq_some_iff, Prod.mk.injEq] at h
  obtain ⟨⟨pos', buf'⟩, hloop, rfl, rfl⟩ := h
  obtain ⟨hpos, rfl, hlt⟩ := envSerializeLoop_eq len env 0 _ _ _ hloop
  rw [Nat.zero_add] at hpos
  subst hpos
  refine ⟨rfl, hlt (by omega), ?_⟩
  -- the buffer was zeroed: past the records it reads as zeros
  rw [Mem.read_write_prefix _ 0 _ (by omega), Mem.read_eq_replicate_zero _ (fun _ _ _ => rfl)]

/-! ## `apple_nvram_load_env` -/

/-- The loop of `apple_nvram_load_env` over the bytes from `cnt` on: stop at a zero byte or at
the end; otherwise the name runs to the first `'='` and the value to the next zero byte, both
of which must lie before the end, and the variable is set. Each round consumes at least two
bytes, so `fuel` at least the number of bytes is enough.
Source: `hw/nvram/apple_nvram.c` `apple_nvram_load_env` (the `while` loop)
Kind: D -/
def loadEnvLoop : ℕ → List EnvVar → List UInt8 → List EnvVar
  | 0, env, _ => env
  | fuel + 1, env, rest =>
    match rest with
    | [] => env
    | c :: _ =>
      if c = 0 then env
      else
        let name := rest.takeWhile (· != EQUALS)
        if rest.length ≤ name.length then env
        else
          let rest := rest.drop (name.length + 1)
          let value := rest.takeWhile (· != 0)
          if rest.length ≤ value.length then env
          else loadEnvLoop fuel (envSet env name value) (rest.drop (value.length + 1))

/-- `apple_nvram_load_env(s)` on the data of the `"common"` partition.
Source: `hw/nvram/apple_nvram.c` `apple_nvram_load_env`
Kind: D -/
def appleNvramLoadEnv (env : List EnvVar) (data : List UInt8) : List EnvVar :=
  loadEnvLoop data.length env data

/-- A record starts with a non-zero byte: the first of the name, or the `'='`. -/
theorem envRecord_eq_cons (v : EnvVar) (more : List UInt8) :
    ∃ c cs, envRecord v ++ more = c :: cs ∧ c ≠ 0 := by
  have hz := zero_not_mem_envRecord v
  cases hr : envRecord v with
  | nil => simp [envRecord] at hr
  | cons c cs =>
    refine ⟨c, cs ++ more, rfl, fun hc => hz ?_⟩
    rw [hr, hc]
    exact List.mem_cons_self

/-- **One round of the load loop** reads one record and sets its variable. -/
theorem loadEnvLoop_record (f : ℕ) (env : List EnvVar) (v : EnvVar) (more : List UInt8)
    (hname : EQUALS ∉ v.name) :
    loadEnvLoop (f + 1) env (envRecord v ++ 0 :: more) =
      loadEnvLoop f (envSet env v.name v.str) more := by
  have hname' : ∀ b ∈ v.name, (b != EQUALS) = true := by
    intro b hb
    have : b ≠ EQUALS := fun h => hname (h ▸ hb)
    simpa using this
  have hstr : ∀ b ∈ v.str, (b != 0) = true := by
    intro b hb
    have : b ≠ 0 := fun h => v.str_cstr (h ▸ hb)
    simpa using this
  -- the name runs to the `'='`, the value to the zero byte
  have htake : (envRecord v ++ 0 :: more).takeWhile (· != EQUALS) = v.name := by
    rw [envRecord, List.append_assoc, List.cons_append]
    exact takeWhile_append_cons_of_neg hname' (by decide)
  have hdrop : (envRecord v ++ 0 :: more).drop (v.name.length + 1) = v.str ++ 0 :: more := by
    simp [envRecord]
  have hvalue : (v.str ++ 0 :: more).takeWhile (· != 0) = v.str :=
    takeWhile_append_cons_of_neg hstr (by decide)
  have hrest : (v.str ++ 0 :: more).drop (v.str.length + 1) = more := by simp
  obtain ⟨c, cs, hcs, hc⟩ := envRecord_eq_cons v (0 :: more)
  have hlen₁ : ¬ (envRecord v ++ 0 :: more).length ≤ v.name.length := by
    simp [envRecord]
  have hlen₂ : ¬ (v.str ++ 0 :: more).length ≤ v.str.length := by simp
  rw [hcs, loadEnvLoop]
  dsimp only
  rw [if_neg hc, ← hcs, htake, if_neg hlen₁, hdrop, hvalue, if_neg hlen₂, hrest]

/-- **The records read back**: the load loop over the records of `vs`, then a zero byte or the
end of the data, sets each variable in turn; by induction on `vs`, one
`loadEnvLoop_record` per variable. -/
theorem loadEnvLoop_envBytes (vs : List EnvVar) (hname : ∀ v ∈ vs, EQUALS ∉ v.name) :
    ∀ (fuel : ℕ) (env : List EnvVar) (tail : List UInt8), vs.length ≤ fuel →
      (tail = [] ∨ tail.head? = some 0) →
      loadEnvLoop fuel env (envBytes vs ++ tail) = replayEnv env vs := by
  induction vs with
  | nil =>
    intro fuel env tail _ htail
    rw [envBytes_nil, List.nil_append, replayEnv, List.foldl_nil]
    -- the loop stops at once: no fuel, no data, or a zero byte
    rcases fuel with _ | fuel
    · rfl
    · rcases htail with rfl | htail
      · rfl
      · obtain ⟨rest, rfl⟩ : ∃ rest, tail = 0 :: rest := by
          cases tail with
          | nil => simp at htail
          | cons c rest => simp at htail; exact ⟨rest, by rw [htail]⟩
        rfl
  | cons v vs ih =>
    intro fuel env tail hfuel htail
    obtain ⟨f, rfl⟩ : ∃ f, fuel = f + 1 := ⟨fuel - 1, by simp at hfuel; omega⟩
    rw [envBytes_cons, List.append_assoc, List.append_assoc, List.singleton_append,
      loadEnvLoop_record f env v _ (hname v (by simp)), ih (fun w hw => hname w (by simp [hw])) f _ tail
        (by simp at hfuel; omega) htail]
    rfl

/-- **`apple_nvram_load_env` on the data `env_serialize` wrote** replays `env_set` over the
variables, whatever their names, as long as no name holds a `'='`. -/
theorem appleNvramLoadEnv_envSerialize {vs : List EnvVar} {len pos : ℕ} {bytes : List UInt8}
    (hname : ∀ v ∈ vs, EQUALS ∉ v.name) (h : envSerialize vs len = some (pos, bytes)) (k : ℕ) :
    appleNvramLoadEnv [] (bytes ++ List.replicate k 0) = replayEnv [] vs := by
  obtain ⟨hpos, hlt, rfl⟩ := envSerialize_eq h
  have hlen := length_le_length_envBytes vs
  -- the zeros `env_serialize` left and any padding after them make one zero tail
  have htail : (List.replicate (len - pos) (0 : UInt8) ++ List.replicate k 0).head? = some 0 := by
    obtain ⟨j, hj⟩ : ∃ j, len - pos = j + 1 := ⟨len - pos - 1, by omega⟩
    rw [hj, List.replicate_succ, List.cons_append, List.head?_cons]
  rw [appleNvramLoadEnv, List.append_assoc]
  exact loadEnvLoop_envBytes vs hname _ [] _ (by simp; omega) (Or.inr htail)

end QemuAppleSilicon.Nvram
