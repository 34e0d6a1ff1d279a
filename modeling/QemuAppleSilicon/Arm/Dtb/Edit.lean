import QemuAppleSilicon.Arm.Dtb.Node

/-!
# Reading a device tree after an edit

Code that edits a tree through `dtb.c` looks a node up by path (`dtb_get_node`) and then sets or
removes properties of that node; the next edit looks the node up again. These are the facts
that make such a sequence predictable:

* `find_replace`, `find_remove`: a property table read after an overwrite or a removal;
* `dtbSetProp_eq_some`: `dtb_set_prop` succeeds on a short name and reads back what it set;
* `getAt_modifyAt`: the node an edit was applied to reads back as the edited node;
* `getNodeAt_modifyAt`: an edit that keeps the node's `name` property and its children
  (`KeepsShape`) leaves every path lookup as it was, so a later `dtb_get_node` finds the same
  nodes;
* `props_getAt_modifyAt_of_ne`: such an edit leaves the properties of every other node.
-/

namespace QemuAppleSilicon.Arm.Dtb

/-! ## Property tables -/

namespace PropTable

theorem lookup_cons_of_eq {k a : List UInt8} (b : DTBProp) (l : List (List UInt8 × DTBProp))
    (h : k = a) : ((a, b) :: l).lookup k = some b := by
  rw [List.lookup_cons, h, beq_self_eq_true]

theorem lookup_cons_of_ne {k a : List UInt8} (b : DTBProp) (l : List (List UInt8 × DTBProp))
    (h : k ≠ a) : ((a, b) :: l).lookup k = l.lookup k := by
  rw [List.lookup_cons, beq_false_of_ne h]

theorem lookup_overwrite (l : List (List UInt8 × DTBProp)) (k k' : List UInt8) (p : DTBProp) :
    (l.map fun e => if e.1 = k then (k, p) else e).lookup k' =
      if k' = k then (l.lookup k).map fun _ => p else l.lookup k' := by
  induction l with
  | nil => split_ifs <;> rfl
  | cons e l ih =>
    obtain ⟨a, b⟩ := e
    by_cases ha : a = k
    · -- the entry is the one overwritten
      subst ha
      rw [List.map_cons, if_pos rfl]
      by_cases hk : k' = a
      · rw [if_pos hk, lookup_cons_of_eq p _ hk, lookup_cons_of_eq b _ rfl, Option.map_some]
      · rw [if_neg hk, lookup_cons_of_ne p _ hk, ih, if_neg hk, lookup_cons_of_ne b _ hk]
    · rw [List.map_cons, if_neg ha]
      by_cases hk : k' = a
      · have hk' : k' ≠ k := hk ▸ ha
        rw [if_neg hk', lookup_cons_of_eq b _ hk, lookup_cons_of_eq b _ hk]
      · rw [lookup_cons_of_ne b _ hk, ih, lookup_cons_of_ne b _ hk,
          lookup_cons_of_ne b _ (Ne.symm ha)]

theorem lookup_filter_ne (l : List (List UInt8 × DTBProp)) (k k' : List UInt8) :
    (l.filter fun e => e.1 != k).lookup k' = if k' = k then none else l.lookup k' := by
  induction l with
  | nil => split_ifs <;> rfl
  | cons e l ih =>
    obtain ⟨a, b⟩ := e
    by_cases ha : a = k
    · -- the entry is the one removed
      subst ha
      rw [List.filter_cons_of_neg (by simp), ih]
      by_cases hk : k' = a
      · rw [if_pos hk, if_pos hk]
      · rw [if_neg hk, if_neg hk, lookup_cons_of_ne b _ hk]
    · rw [List.filter_cons_of_pos (by simpa using ha)]
      by_cases hk : k' = a
      · have hk' : k' ≠ k := hk ▸ ha
        rw [if_neg hk', lookup_cons_of_eq b _ hk, lookup_cons_of_eq b _ hk]
      · rw [lookup_cons_of_ne b _ hk, ih, lookup_cons_of_ne b _ hk]

/-- A table read after `replace`: the new value under a key that was present, the old reads
elsewhere. -/
theorem find_replace (t : PropTable) (k k' : List UInt8) (p : DTBProp) :
    (t.replace k p).find k' = if k' = k then (t.find k).map fun _ => p else t.find k' :=
  lookup_overwrite t.entries k k' p

/-- A table read after `remove`. -/
theorem find_remove (t : PropTable) (k k' : List UInt8) :
    (t.remove k).find k' = if k' = k then none else t.find k' :=
  lookup_filter_ne t.entries k k'

/-- A key read after it was appended to entries that did not hold it. -/
theorem lookup_append_new {l : List (List UInt8 × DTBProp)} {k : List UInt8}
    (hk : l.lookup k = none) (p : DTBProp) (k' : List UInt8) :
    (l ++ [(k, p)]).lookup k' = if k' = k then some p else l.lookup k' := by
  rw [List.lookup_append]
  by_cases h : k' = k
  · rw [if_pos h, h, hk, Option.none_or, lookup_cons_of_eq p [] rfl]
  · rw [if_neg h, lookup_cons_of_ne p [] h, List.lookup_nil, Option.or_none]

theorem not_mem_keys_of_find {t : PropTable} {k : List UInt8} (h : t.find k = none) :
    k ∉ t.entries.map Prod.fst := by
  intro hk
  obtain ⟨⟨a, b⟩, hmem, rfl⟩ := List.mem_map.mp hk
  have hne := List.lookup_eq_none_iff.mp h _ hmem
  simp at hne

end PropTable

/-! ## Nodes addressed by path -/

namespace DTBNode

/-- The node at a path of child indices. -/
def getAt : DTBNode → List ℕ → Option DTBNode
  | n, [] => some n
  | n, i :: is => do
    let c ← n.children[i]?
    getAt c is

/-- An edit at a path succeeds exactly on an existing node, and the edited node is then found
there. The induction is on the path. -/
theorem getAt_modifyAt {f : DTBNode → Option DTBNode} :
    ∀ {p : List ℕ} {T T' : DTBNode}, T.modifyAt p f = some T' →
      ∃ n n', T.getAt p = some n ∧ f n = some n' ∧ T'.getAt p = some n'
  | [], T, T', h => ⟨T, T', rfl, h, rfl⟩
  | i :: is, .mk t cs, T', h => by
    simp only [modifyAt, Option.bind_eq_bind, Option.bind_eq_some_iff, Option.some.injEq] at h
    obtain ⟨c, hc, c', hc', rfl⟩ := h
    obtain ⟨n, n', hn, hf, hn'⟩ := getAt_modifyAt hc'
    have hi : i < cs.length := (List.getElem?_eq_some_iff.mp hc).1
    refine ⟨n, n', ?_, hf, ?_⟩
    · simp only [getAt, children_mk, hc, Option.bind_eq_bind, Option.bind_some, hn]
    · simp only [getAt, children_mk, List.getElem?_set_self hi, Option.bind_eq_bind,
        Option.bind_some, hn']

/-- An edit at an existing node succeeds when `f` does there. -/
theorem modifyAt_of_getAt {f : DTBNode → Option DTBNode} :
    ∀ {p : List ℕ} {T n n' : DTBNode}, T.getAt p = some n → f n = some n' →
      ∃ T', T.modifyAt p f = some T' ∧ T'.getAt p = some n'
  | [], T, n, n', h, hf => by
    simp only [getAt, Option.some.injEq] at h
    subst h
    exact ⟨n', hf, rfl⟩
  | i :: is, .mk t cs, n, n', h, hf => by
    simp only [getAt, children_mk, Option.bind_eq_bind, Option.bind_eq_some_iff] at h
    obtain ⟨c, hc, hn⟩ := h
    obtain ⟨c', hc', hn'⟩ := modifyAt_of_getAt hn hf
    have hi : i < cs.length := (List.getElem?_eq_some_iff.mp hc).1
    refine ⟨.mk t (cs.set i c'), ?_, ?_⟩
    · simp only [modifyAt, hc, hc', Option.bind_eq_bind, Option.bind_some]
    · simp only [getAt, children_mk, List.getElem?_set_self hi, Option.bind_eq_bind,
        Option.bind_some, hn']

/-- A path lookup returns one index per path component. -/
theorem length_getNodeAt : ∀ {ts : List (List UInt8)} {T : DTBNode} {p : List ℕ},
    getNodeAt T ts = some p → p.length = ts.length
  | [], _, p, h => by
    simp only [getNodeAt, Option.some.injEq] at h
    subst h
    rfl
  | t :: ts, T, p, h => by
    simp only [getNodeAt, Option.bind_eq_bind, Option.bind_eq_some_iff, Option.some.injEq] at h
    obtain ⟨i, _, c, _, is, his, rfl⟩ := h
    rw [List.length_cons, List.length_cons, length_getNodeAt his]

/-- An edit that keeps a node's `name` property and its children. -/
def KeepsShape (f : DTBNode → Option DTBNode) : Prop :=
  ∀ n n', f n = some n' → n'.props.find nameKey = n.props.find nameKey ∧ n'.children = n.children

/-- An edit below the root keeps the root's properties; at the root it is `f` itself. -/
theorem props_modifyAt {f : DTBNode → Option DTBNode} :
    ∀ {i : ℕ} {is : List ℕ} {T T' : DTBNode}, T.modifyAt (i :: is) f = some T' → T'.props = T.props
  | i, is, .mk t cs, T', h => by
    simp only [modifyAt, Option.bind_eq_bind, Option.bind_eq_some_iff, Option.some.injEq] at h
    obtain ⟨c, _, c', _, rfl⟩ := h
    rfl

/-- An edit anywhere keeps the `name` property of the node it starts from. -/
theorem name_modifyAt {f : DTBNode → Option DTBNode} (hf : KeepsShape f) {p : List ℕ}
    {T T' : DTBNode} (h : T.modifyAt p f = some T') :
    T'.props.find nameKey = T.props.find nameKey := by
  cases p with
  | nil => exact (hf T T' h).1
  | cons i is => rw [props_modifyAt h]

/-- Replacing a child by one with the same `name` property does not move `findChild`. -/
theorem findChild_set {cs : List DTBNode} {i : ℕ} {c c' : DTBNode} (hc : cs[i]? = some c)
    (hname : c'.props.find nameKey = c.props.find nameKey) (t : List UInt8) :
    findChild (cs.set i c') t = findChild cs t := by
  induction cs generalizing i with
  | nil => simp at hc
  | cons x xs ih =>
    cases i with
    | zero =>
      simp only [List.getElem?_cons_zero, Option.some.injEq] at hc
      subst hc
      simp only [findChild, List.set_cons_zero, List.findIdx?_cons, hname]
    | succ j =>
      simp only [List.getElem?_cons_succ] at hc
      have := ih hc
      simp only [findChild] at this ⊢
      simp only [List.set_cons_succ, List.findIdx?_cons, this]

/-- An edit that keeps names and children leaves every path lookup as it was. The induction is
on the path components; where the lookup goes into the edited child, on both trees. -/
theorem getNodeAt_modifyAt {f : DTBNode → Option DTBNode} (hf : KeepsShape f) :
    ∀ (ts : List (List UInt8)) {p : List ℕ} {T T' : DTBNode}, T.modifyAt p f = some T' →
      getNodeAt T' ts = getNodeAt T ts
  | [], _, _, _, _ => rfl
  | t :: ts, [], T, T', h => by
    have hch : T'.children = T.children := (hf T T' h).2
    simp only [getNodeAt, hch]
  | t :: ts, i :: is, .mk tb cs, T', h => by
    simp only [modifyAt, Option.bind_eq_bind, Option.bind_eq_some_iff, Option.some.injEq] at h
    obtain ⟨c, hc, c', hc', rfl⟩ := h
    have hi : i < cs.length := (List.getElem?_eq_some_iff.mp hc).1
    have hfind := findChild_set hc (name_modifyAt hf hc') t
    simp only [getNodeAt, children_mk, hfind]
    cases hk : findChild cs t with
    | none => rfl
    | some k =>
      simp only [Option.bind_eq_bind, Option.bind_some]
      by_cases hki : k = i
      · subst hki
        rw [List.getElem?_set_self hi, hc, Option.bind_some, Option.bind_some,
          getNodeAt_modifyAt hf ts hc']
      · rw [List.getElem?_set_ne (Ne.symm hki)]

/-- Such an edit leaves the properties of every node but the edited one. -/
theorem props_getAt_modifyAt_of_ne {f : DTBNode → Option DTBNode} (hf : KeepsShape f) :
    ∀ {p q : List ℕ} {T T' : DTBNode}, T.modifyAt p f = some T' → q ≠ p →
      (T'.getAt q).map props = (T.getAt q).map props
  | [], [], _, _, _, hq => absurd rfl hq
  | [], j :: js, T, T', h, _ => by
    have hch : T'.children = T.children := (hf T T' h).2
    simp only [getAt, hch]
  | _ :: _, [], T, T', h, _ => by
    simp only [getAt, Option.map_some, props_modifyAt h]
  | i :: is, j :: js, .mk tb cs, T', h, hq => by
    simp only [modifyAt, Option.bind_eq_bind, Option.bind_eq_some_iff, Option.some.injEq] at h
    obtain ⟨c, hc, c', hc', rfl⟩ := h
    have hi : i < cs.length := (List.getElem?_eq_some_iff.mp hc).1
    simp only [getAt, children_mk, Option.bind_eq_bind]
    by_cases hji : j = i
    · subst hji
      have hjs : js ≠ is := fun h => hq (by rw [h])
      rw [List.getElem?_set_self hi, hc, Option.bind_some, Option.bind_some,
        props_getAt_modifyAt_of_ne hf hc' hjs]
    · rw [List.getElem?_set_ne (Ne.symm hji)]

end DTBNode

/-- `dtb_get_node` finds the same node after an edit that keeps names and children.
Source: `hw/arm/apple-silicon/dtb.c` `dtb_get_node`
Kind: L -/
theorem dtbGetNode_modifyAt {f : DTBNode → Option DTBNode} (hf : DTBNode.KeepsShape f)
    {p : List ℕ} {T T' : DTBNode} (h : T.modifyAt p f = some T') (path : List UInt8) :
    dtbGetNode T' path = dtbGetNode T path :=
  DTBNode.getNodeAt_modifyAt hf _ h


/-! ## Setting a property -/

/-- A buffer of exactly `size` bytes is stored as it is.
Source: `hw/arm/apple-silicon/dtb.c` `dtb_set_prop`
Kind: L -/
theorem setPropValue_of_length {v : List UInt8} {size : UInt32} (hsize : size ≠ 0)
    (hv : v.length = size.toNat) : ∃ p, setPropValue size (some v) = some p ∧ p.data = v := by
  refine ⟨_, by rw [setPropValue, if_neg hsize], ?_⟩
  show copyBuffer v size = v
  rw [copyBuffer, List.take_left' hv]

/-- `dtb_set_prop` with a value it accepts and a short C-string name succeeds, whether the name
is new (inserted) or present (overwritten): the node then reads the new property under `name`,
the old ones elsewhere, and keeps its children.
Source: `hw/arm/apple-silicon/dtb.c` `dtb_set_prop`
Kind: L -/
theorem dtbSetProp_eq_some {node : DTBNode} {name : List UInt8} {size : UInt32}
    {val : Option (List UInt8)} {p : DTBProp} (hp : setPropValue size val = some p)
    (hlen : name.length < DT_PROP_NAME_LEN) (hz : 0 ∉ name) :
    ∃ node', dtbSetProp node name size val = some node' ∧ node'.children = node.children ∧
      ∀ k, dtbFindProp node' k = if k = name then some p else dtbFindProp node k := by
  have hlen' : ¬DT_PROP_NAME_LEN ≤ name.length := by omega
  cases hfind : node.props.find name with
  | some q =>
    refine ⟨.mk (node.props.replace name p) node.children, ?_, rfl, fun k => ?_⟩
    · simp only [dtbSetProp, hp, Option.bind_eq_bind, Option.bind_some, if_neg hlen', hfind]
    · rw [dtbFindProp, DTBNode.props_mk, PropTable.find_replace, hfind, Option.map_some]
      rfl
  | none =>
    obtain ⟨t', hins, hentries⟩ :=
      node.props.insertNew_eq_some p (PropTable.not_mem_keys_of_find hfind) hz
    refine ⟨.mk t' node.children, ?_, rfl, fun k => ?_⟩
    · simp only [dtbSetProp, hp, Option.bind_eq_bind, Option.bind_some, if_neg hlen', hfind, hins]
    · rw [dtbFindProp, DTBNode.props_mk, PropTable.find, hentries,
        PropTable.lookup_append_new hfind]
      rfl

end QemuAppleSilicon.Arm.Dtb
