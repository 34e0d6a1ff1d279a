import QemuAppleSilicon.Qemu.Base

/-!
# The Apple device tree in memory (`hw/arm/apple-silicon/dtb.c`)

The data model of `dtb.h` and the operations of `dtb.c` that build and edit a tree.

* `DTBProp` — `length`, `placeholder`, `data`; the field `data_length` says that `data` holds
  exactly `length` bytes (`NULL` when `length = 0`), which every constructor of a property in
  `dtb.c` ensures (`g_malloc0(size)` + `memcpy`, or no buffer for size `0`).
* `PropTable` — `node->props`, a `GHashTable` from names to properties, listed in its iteration
  order. Its keys are distinct (a hash table) and are C strings (no `NUL` byte).
* `DTBNode` — a property table and the ordered list of children (`node->children`, a `GList`).
* The API: `dtbFindProp`, `dtbSetProp` with its wrappers (`dtbSetPropNull`, `dtbSetPropU32`,
  `dtbSetPropU64`, `dtbSetPropStr`), `dtbRemovePropNamed`, `dtbGetNode`, `dtbCreateNode`,
  `dtbRemoveNode`; the assertions of the source make the operations partial (`none`).
* `DtbOp` / `DTBNode.apply` — the operations addressed by a path of child indices from the root,
  so that a sequence of API calls on any nodes of a tree is a run of `DTBNode.apply`.
-/

namespace QemuAppleSilicon.Arm.Dtb

open QemuAppleSilicon.Lib QemuAppleSilicon.Qemu

/-! ## Properties and nodes -/

/-- `DT_PROP_NAME_LEN`: the width of a serialised property name.
Source: `hw/arm/apple-silicon/dtb.c` `DT_PROP_NAME_LEN`
Kind: D -/
def DT_PROP_NAME_LEN : ℕ := 32

/-- `DTBProp`: a property's length, its placeholder flag and its bytes.
Source: `include/hw/arm/apple-silicon/dtb.h` `DTBProp`
Kind: D -/
structure DTBProp where
  /-- `length`. -/
  length : UInt32
  /-- `placeholder`. -/
  placeholder : Bool
  /-- The `length` bytes `data` points to. -/
  data : List UInt8
  /-- The buffer holds exactly `length` bytes. -/
  data_length : data.length = length.toNat
deriving DecidableEq

attribute [ext] DTBProp

/-- `node->props`: the property hash table, in its iteration order, keyed by C strings.
Source: `hw/arm/apple-silicon/dtb.c` `dtb_new_node` (`g_hash_table_new_full(g_str_hash, …)`)
Kind: D -/
structure PropTable where
  /-- The `(key, value)` pairs in iteration order. -/
  entries : List (List UInt8 × DTBProp)
  /-- A hash table holds each key once. -/
  keys_nodup : (entries.map Prod.fst).Nodup
  /-- Keys are C strings. -/
  keys_cstr : ∀ k ∈ entries.map Prod.fst, 0 ∉ k
deriving DecidableEq

attribute [ext] PropTable

/-- `DTBNode`: a property table and the children in list order.
Source: `include/hw/arm/apple-silicon/dtb.h` `DTBNode`
Kind: D -/
inductive DTBNode where
  | mk (props : PropTable) (children : List DTBNode)

namespace DTBNode

/-- Source: none: infrastructure. Kind: D -/
def props : DTBNode → PropTable
  | mk p _ => p

/-- Source: none: infrastructure. Kind: D -/
def children : DTBNode → List DTBNode
  | mk _ c => c

@[simp] theorem props_mk (p : PropTable) (c : List DTBNode) : (mk p c).props = p := rfl

@[simp] theorem children_mk (p : PropTable) (c : List DTBNode) : (mk p c).children = c := rfl

end DTBNode

/-! ## The property table -/

namespace PropTable

/-- The empty table of `dtb_new_node`.
Source: `hw/arm/apple-silicon/dtb.c` `dtb_new_node`
Kind: D -/
def empty : PropTable := ⟨[], List.nodup_nil, by simp⟩

/-- `g_hash_table_lookup`.
Source: GLib `g_hash_table_lookup`
Kind: D -/
def find (t : PropTable) (k : List UInt8) : Option DTBProp := t.entries.lookup k

/-- `g_hash_table_insert` of a key the table does not hold (the new entry is listed last);
`none` when the key is present or is not a C string.
Source: GLib `g_hash_table_insert`
Kind: D -/
def insertNew (t : PropTable) (k : List UInt8) (p : DTBProp) : Option PropTable :=
  if hk : k ∈ t.entries.map Prod.fst then none
  else if hz : 0 ∈ k then none
  else some
    { entries := t.entries ++ [(k, p)]
      keys_nodup := by
        rw [List.map_append, List.map_singleton, ← List.concat_eq_append]
        exact List.Nodup.concat hk t.keys_nodup
      keys_cstr := by
        intro k' hk'
        rw [List.map_append, List.mem_append] at hk'
        rcases hk' with hk' | hk'
        · exact t.keys_cstr k' hk'
        · simp at hk'
          exact hk' ▸ hz }

/-- A key that is absent and a C string is inserted at the end. -/
theorem insertNew_eq_some (t : PropTable) {k : List UInt8} (p : DTBProp)
    (hk : k ∉ t.entries.map Prod.fst) (hz : 0 ∉ k) :
    ∃ t', t.insertNew k p = some t' ∧ t'.entries = t.entries ++ [(k, p)] := by
  unfold insertNew
  rw [dif_neg hk, dif_neg hz]
  exact ⟨_, rfl, rfl⟩

theorem insertNew_entries {t t' : PropTable} {k : List UInt8} {p : DTBProp}
    (h : t.insertNew k p = some t') : t'.entries = t.entries ++ [(k, p)] := by
  unfold insertNew at h
  split_ifs at h
  cases h
  rfl

/-- Overwriting values leaves the keys of an entry list as they were. -/
theorem map_fst_overwrite (l : List (List UInt8 × DTBProp)) (k : List UInt8) (p : DTBProp) :
    (l.map fun e => if e.1 = k then (k, p) else e).map Prod.fst = l.map Prod.fst := by
  rw [List.map_map]
  congr 1
  funext e
  by_cases h : e.1 = k <;> simp [h]

/-- Overwrite the value under a key in place (the same hash-table slot).
Source: `hw/arm/apple-silicon/dtb.c` `dtb_set_prop` (existing property branch)
Kind: D -/
def replace (t : PropTable) (k : List UInt8) (p : DTBProp) : PropTable where
  entries := t.entries.map fun e => if e.1 = k then (k, p) else e
  keys_nodup := by
    rw [map_fst_overwrite]
    exact t.keys_nodup
  keys_cstr := by
    rw [map_fst_overwrite]
    exact t.keys_cstr

/-- `g_hash_table_remove`.
Source: GLib `g_hash_table_remove`
Kind: D -/
def remove (t : PropTable) (k : List UInt8) : PropTable where
  entries := t.entries.filter fun e => e.1 != k
  keys_nodup := by
    have := t.keys_nodup
    exact (List.Nodup.filter _ (List.Nodup.of_map Prod.fst this)).map_on
      (fun a ha b hb hab => by
        have h1 := (List.mem_filter.mp ha).1
        have h2 := (List.mem_filter.mp hb).1
        exact (List.inj_on_of_nodup_map this h1 h2 hab))
  keys_cstr := by
    intro k' hk'
    obtain ⟨e, he, rfl⟩ := List.mem_map.mp hk'
    exact t.keys_cstr e.1 (List.mem_map.mpr ⟨e, (List.mem_filter.mp he).1, rfl⟩)

end PropTable

/-! ## Predicates over every node of a tree -/

namespace DTBNode

mutual

/-- `allNodes P T`: every node of `T` satisfies `P` on its property table and its children. -/
def allNodes (P : PropTable → List DTBNode → Prop) : DTBNode → Prop
  | mk t cs => P t cs ∧ allNodesList P cs

/-- `allNodes` over a list of siblings. -/
def allNodesList (P : PropTable → List DTBNode → Prop) : List DTBNode → Prop
  | [] => True
  | c :: cs => allNodes P c ∧ allNodesList P cs

end

mutual

/-- A weaker property of every node follows from a stronger one. -/
theorem allNodes_mono {P Q : PropTable → List DTBNode → Prop} (hPQ : ∀ t cs, P t cs → Q t cs) :
    ∀ T : DTBNode, allNodes P T → allNodes Q T
  | mk t cs, ⟨h, hcs⟩ => ⟨hPQ t cs h, allNodesList_mono hPQ cs hcs⟩

theorem allNodesList_mono {P Q : PropTable → List DTBNode → Prop} (hPQ : ∀ t cs, P t cs → Q t cs) :
    ∀ cs : List DTBNode, allNodesList P cs → allNodesList Q cs
  | [], _ => trivial
  | c :: cs, ⟨hc, hcs⟩ => ⟨allNodes_mono hPQ c hc, allNodesList_mono hPQ cs hcs⟩

end

mutual

/-- The number of nodes on the longest path from `T` down, `T` included: how deep
`dtb_deserialise_node` recurses to read `T` back. -/
def depth : DTBNode → ℕ
  | mk _ cs => depthList cs + 1

/-- The largest depth of a list of siblings. -/
def depthList : List DTBNode → ℕ
  | [] => 0
  | c :: cs => max (depth c) (depthList cs)

end

end DTBNode

/-! ## The `dtb.c` API on one node -/

/-- The bytes `memcpy(prop->data, val, size)` copies from the caller's buffer: its first
`size` bytes (a buffer shorter than `size`, which the source would overrun, is padded with
zeroes).
Source: `hw/arm/apple-silicon/dtb.c` `dtb_set_prop` (`g_malloc0(size)` + `memcpy`)
Kind: D -/
def copyBuffer (v : List UInt8) (size : UInt32) : List UInt8 := (v ++ List.replicate size.toNat 0).take size.toNat

@[simp] theorem copyBuffer_length (v : List UInt8) (size : UInt32) :
    (copyBuffer v size).length = size.toNat := by
  simp [copyBuffer]

/-- The property `dtb_set_prop` stores: `memset(prop, 0)`, then `length = size` and the copied
buffer (none for a `NULL` value).
Source: `hw/arm/apple-silicon/dtb.c` `dtb_set_prop`
Kind: D -/
def setPropValue (size : UInt32) : Option (List UInt8) → Option DTBProp
  | none => if size = 0 then some ⟨0, false, [], rfl⟩ else none
  | some v => if size = 0 then none else some ⟨size, false, copyBuffer v size, by simp⟩

/-- `dtb_find_prop`.
Source: `hw/arm/apple-silicon/dtb.c` `dtb_find_prop`
Kind: D -/
def dtbFindProp (node : DTBNode) (name : List UInt8) : Option DTBProp := node.props.find name

/-- `dtb_set_prop(node, name, size, val)`: assert that `val` is `NULL` exactly when `size` is
`0` and that `strnlen(name, 32) < 32`; overwrite an existing property in place, or insert a
new key.
Source: `hw/arm/apple-silicon/dtb.c` `dtb_set_prop`
Kind: D -/
def dtbSetProp (node : DTBNode) (name : List UInt8) (size : UInt32) (val : Option (List UInt8)) :
    Option DTBNode := do
  let prop ← setPropValue size val
  if DT_PROP_NAME_LEN ≤ name.length then none
  else match node.props.find name with
    | some _ => some (.mk (node.props.replace name prop) node.children)
    | none => do
      let t ← node.props.insertNew name prop
      some (.mk t node.children)

/-- `dtb_set_prop_null`.
Source: `hw/arm/apple-silicon/dtb.c` `dtb_set_prop_null`
Kind: D -/
def dtbSetPropNull (node : DTBNode) (name : List UInt8) : Option DTBNode :=
  dtbSetProp node name 0 none

/-- `dtb_set_prop_u32`: the value's four little-endian bytes.
Source: `hw/arm/apple-silicon/dtb.c` `dtb_set_prop_u32`
Kind: D -/
def dtbSetPropU32 (node : DTBNode) (name : List UInt8) (v : UInt32) : Option DTBNode :=
  dtbSetProp node name 4 (some (leBytes v.toNat 4))

/-- `dtb_set_prop_u64` (and `dtb_set_prop_hwaddr`): eight little-endian bytes.
Source: `hw/arm/apple-silicon/dtb.c` `dtb_set_prop_u64`
Kind: D -/
def dtbSetPropU64 (node : DTBNode) (name : List UInt8) (v : UInt64) : Option DTBNode :=
  dtbSetProp node name 8 (some (leBytes v.toNat 8))

/-- `dtb_set_prop_str`: the string and its `NUL`, `strlen(val) + 1` bytes.
Source: `hw/arm/apple-silicon/dtb.c` `dtb_set_prop_str`
Kind: D -/
def dtbSetPropStr (node : DTBNode) (name val : List UInt8) : Option DTBNode :=
  dtbSetProp node name (UInt32.ofNat (val.length + 1)) (some (val ++ [0]))

/-- `dtb_remove_prop_named`: `g_hash_table_remove`, and whether the key was there.
Source: `hw/arm/apple-silicon/dtb.c` `dtb_remove_prop_named`
Kind: D -/
def dtbRemovePropNamed (node : DTBNode) (name : List UInt8) : DTBNode × Bool :=
  (.mk (node.props.remove name) node.children, (node.props.find name).isSome)

/-- `strncmp(a, b, n) == 0` on two C strings held in byte lists (a list that ends reads as
`NUL`).
Source: C library `strncmp`
Kind: D -/
def strncmpEq : List UInt8 → List UInt8 → ℕ → Bool
  | _, _, 0 => true
  | a, b, n + 1 =>
    let ca := a.headD 0
    let cb := b.headD 0
    if ca != cb then false else if ca == 0 then true else strncmpEq a.tail b.tail n

/-- The key of the name property.
Source: `hw/arm/apple-silicon/dtb.c` (`"name"`)
Kind: D -/
def nameKey : List UInt8 := asciiBytes "name"

/-- The first child whose `name` property matches a path component:
`strncmp(prop->data, token, prop->length) == 0`.
Source: `hw/arm/apple-silicon/dtb.c` `dtb_get_node` (inner loop)
Kind: D -/
def findChild (children : List DTBNode) (token : List UInt8) : Option ℕ :=
  children.findIdx? fun c =>
    match c.props.find nameKey with
    | none => false
    | some p => strncmpEq p.data token p.length.toNat

/-- Follow the components of a path from a node, returning the child indices of the node
found.
Source: `hw/arm/apple-silicon/dtb.c` `dtb_get_node` (outer loop)
Kind: D -/
def getNodeAt : DTBNode → List (List UInt8) → Option (List ℕ)
  | _, [] => some []
  | n, t :: ts => do
    let i ← findChild n.children t
    let c ← n.children[i]?
    let is ← getNodeAt c ts
    some (i :: is)

/-- `dtb_get_node(node, path)`: split the path at `/`, skip empty components, and look each one
up among the children; the result is the index path of the node found.
Source: `hw/arm/apple-silicon/dtb.c` `dtb_get_node`
Kind: D -/
def dtbGetNode (node : DTBNode) (path : List UInt8) : Option (List ℕ) :=
  getNodeAt node ((qemuStrsep path 47).filter (· ≠ []))

/-- `dtb_create_node(NULL, name)`: a fresh root, with a `name` property when a name is given.
Source: `hw/arm/apple-silicon/dtb.c` `dtb_create_node` / `dtb_new_node`
Kind: D -/
def dtbCreateRoot : Option (List UInt8) → Option DTBNode
  | none => some (.mk PropTable.empty [])
  | some name => dtbSetPropStr (.mk PropTable.empty []) nameKey name

/-- `dtb_create_node(parent, name)`: refuse a missing name or one `dtb_get_node` already finds;
otherwise append a fresh named child.
Source: `hw/arm/apple-silicon/dtb.c` `dtb_create_node`
Kind: D -/
def dtbCreateNode (parent : DTBNode) : Option (List UInt8) → Option DTBNode
  | none => none
  | some name =>
    match dtbGetNode parent name with
    | some _ => none
    | none => do
      let child ← dtbSetPropStr (.mk PropTable.empty []) nameKey name
      some (.mk parent.props (parent.children ++ [child]))

/-- `dtb_remove_node(parent, node)` for the child at index `i` (`g_assert_not_reached` when the
node is not a child).
Source: `hw/arm/apple-silicon/dtb.c` `dtb_remove_node`
Kind: D -/
def dtbRemoveNode (parent : DTBNode) (i : ℕ) : Option DTBNode :=
  if i < parent.children.length then some (.mk parent.props (parent.children.eraseIdx i))
  else none

/-! ## Operations anywhere in a tree -/

/-- Apply a node operation at the node reached by a path of child indices. -/
def DTBNode.modifyAt : DTBNode → List ℕ → (DTBNode → Option DTBNode) → Option DTBNode
  | n, [], f => f n
  | .mk t cs, i :: is, f => do
    let c ← cs[i]?
    let c' ← DTBNode.modifyAt c is f
    some (.mk t (cs.set i c'))

/-- One call of the `dtb.c` editing API, on the node at `path`.
Source: `hw/arm/apple-silicon/dtb.c` (the API of `dtb.h`)
Kind: D -/
inductive DtbOp where
  | setProp (path : List ℕ) (name : List UInt8) (size : UInt32) (val : Option (List UInt8))
  | removeProp (path : List ℕ) (name : List UInt8)
  | createNode (path : List ℕ) (name : Option (List UInt8))
  | removeNode (path : List ℕ) (index : ℕ)

/-- The effect of one API call on the whole tree (`none`: an assertion of the source fails).
Source: `hw/arm/apple-silicon/dtb.c`
Kind: D -/
def DTBNode.apply (T : DTBNode) : DtbOp → Option DTBNode
  | .setProp path name size val => T.modifyAt path fun n => dtbSetProp n name size val
  | .removeProp path name => T.modifyAt path fun n => some (dtbRemovePropNamed n name).1
  | .createNode path name => T.modifyAt path fun n => dtbCreateNode n name
  | .removeNode path i => T.modifyAt path fun n => dtbRemoveNode n i

end QemuAppleSilicon.Arm.Dtb
