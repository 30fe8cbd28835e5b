/-
# `SmartManager.Backend.Nl80211` — the netlink attribute walk and message entries (`backend/nl80211.c`).

`navigate_attrs` turns a buffer of netlink attributes into a sibling chain of data items keyed by
the attribute type and valued with the payload; a payload that `attr_looks_nested` accepts (a
walk of well-formed attributes over it leaves no remainder) is walked again and attached as the
item's sub-values.  The walk is driven by libnl's `nla_ok` / `nla_next`, modelled here as libnl
defines them: `nla_ok` accepts a header only when four bytes remain and its `nla_len` lies
between four and the remainder, and `nla_next` steps over `NLA_ALIGN(nla_len)` bytes, which may
take the remainder below zero.

Both walks are total: every step lowers the remainder by at least four and every nested walk
runs over a payload shorter than the remainder, which is the termination measure Lean checks.

The main result, `navigateAttrs_encodeAttrs`, is the round trip for the kernel's framing (four-byte
header, payload, zero padding to four bytes): one item per attribute, in order, with exactly its
unpadded payload, and sub-values exactly when `attr_looks_nested` accepts the payload.  For a
tree of nested attributes whose leaf payloads are not themselves attribute sequences, the walk
recovers the tree (`navigateAttrs_encodeForest`).
-/
import SmartManager.Data.MmsmData

namespace SmartManager.Backend

open SmartManager.Data SmartManager.Libc

/-! ## §1 — libnl's attribute accessors -/

/-- `NLA_ALIGN`: round a length up to a multiple of four. -/
def nlaAlign (len : Nat) : Nat := (len + 3) / 4 * 4

/-- The `nla_len` header field of the attribute the buffer starts with (host byte order). -/
def nlaLenField (b : List UInt8) : Nat := (b.getD 0 0).toNat + (b.getD 1 0).toNat * 256

/-- `nla_type`: the type header field with `NLA_F_NESTED` and `NLA_F_NET_BYTEORDER` masked off. -/
def nlaType (b : List UInt8) : Nat := ((b.getD 2 0).toNat + (b.getD 3 0).toNat * 256) % 2 ^ 14

/-- `nla_ok(nla, remaining)`. -/
def nlaOk (b : List UInt8) (remaining : Int) : Bool :=
  4 ≤ remaining && 4 ≤ nlaLenField b && (nlaLenField b : Int) ≤ remaining

theorem le_nlaAlign (len : Nat) : len ≤ nlaAlign len := by unfold nlaAlign; omega

theorem nlaOk_bounds {b : List UInt8} {rem : Int} (h : nlaOk b rem = true) :
    4 ≤ rem ∧ 4 ≤ nlaLenField b ∧ (nlaLenField b : Int) ≤ rem := by
  simpa [nlaOk, Bool.and_eq_true, decide_eq_true_eq, and_assoc] using h

theorem nlaOk_of_lt_four (b : List UInt8) {rem : Int} (h : rem < 4) : nlaOk b rem = false := by
  simp [nlaOk]; omega

/-! ## §2 — `attr_looks_nested` and `navigate_attrs` -/

/-- `attr_looks_nested(iter, attr_len)`: step over attributes while `nla_ok` holds, and accept
when the remainder is exactly zero. -/
def attrLooksNested (b : List UInt8) (attrLen : Int) : Bool :=
  if _h : nlaOk b attrLen then
    attrLooksNested (b.drop (nlaAlign (nlaLenField b))) (attrLen - nlaAlign (nlaLenField b))
  else attrLen == 0
termination_by attrLen.toNat
decreasing_by
  have := nlaOk_bounds _h
  have := le_nlaAlign (nlaLenField b)
  omega

/-- The item `navigate_attrs` builds for the attribute the buffer starts with: keyed by
`nla_type`, valued by `mmsm_data_item_set_val_bytes(iter, nla_data, nla_len)`, with the
sub-values it attaches. -/
def attrItem (b : List UInt8) (subValues : List MmsmDataItem) : MmsmDataItem :=
  { mmsmDataItemAlloc.setValBytes (b.drop 4) (nlaLenField b - 4) with
      mmsmKey := .u32 (UInt32.ofNat (nlaType b))
      mmsmSubValues := subValues }

/-- `navigate_attrs(attr_data, attr_len)`.  The sub-values of an item are the walk of its
payload when `attr_looks_nested` accepts it.  The payload is handed on as the pointer
`nla_data`, so a nested walk sees the rest of the buffer and is bounded only by the length it is
given. -/
def navigateAttrs (b : List UInt8) (attrLen : Int) : List MmsmDataItem :=
  if _h : nlaOk b attrLen then
    let length := nlaLenField b - 4
    attrItem b (if attrLooksNested (b.drop 4) length then navigateAttrs (b.drop 4) length
      else []) ::
      navigateAttrs (b.drop (nlaAlign (nlaLenField b))) (attrLen - nlaAlign (nlaLenField b))
  else []
termination_by attrLen.toNat
decreasing_by
  all_goals have := nlaOk_bounds _h
  all_goals have := le_nlaAlign (nlaLenField b)
  all_goals omega

theorem navigateAttrs_of_nlaOk {b : List UInt8} {rem : Int} (h : nlaOk b rem = true) :
    navigateAttrs b rem =
      attrItem b (if attrLooksNested (b.drop 4) (nlaLenField b - 4 : Nat) then
          navigateAttrs (b.drop 4) (nlaLenField b - 4 : Nat) else []) ::
        navigateAttrs (b.drop (nlaAlign (nlaLenField b))) (rem - nlaAlign (nlaLenField b)) := by
  rw [navigateAttrs, dif_pos h]

theorem navigateAttrs_of_not_nlaOk {b : List UInt8} {rem : Int} (h : ¬nlaOk b rem = true) :
    navigateAttrs b rem = [] := by
  rw [navigateAttrs, dif_neg h]

theorem attrLooksNested_of_nlaOk {b : List UInt8} {rem : Int} (h : nlaOk b rem = true) :
    attrLooksNested b rem =
      attrLooksNested (b.drop (nlaAlign (nlaLenField b))) (rem - nlaAlign (nlaLenField b)) := by
  rw [attrLooksNested, dif_pos h]

theorem attrLooksNested_of_not_nlaOk {b : List UInt8} {rem : Int} (h : ¬nlaOk b rem = true) :
    attrLooksNested b rem = (rem == 0) := by
  rw [attrLooksNested, dif_neg h]

/-- A payload whose length field is below the header's four bytes, or beyond the payload, is not
an attribute sequence. -/
theorem attrLooksNested_of_nlaLenField {b : List UInt8} (hb : b ≠ [])
    (h : nlaLenField b < 4 ∨ b.length < nlaLenField b) : attrLooksNested b b.length = false := by
  have hlen : b.length ≠ 0 := by simpa using hb
  rw [attrLooksNested_of_not_nlaOk
    (by simp only [nlaOk, Bool.and_eq_true, decide_eq_true_eq]; omega)]
  simp only [beq_eq_false_iff_ne, ne_eq]
  omega

theorem navigateAttrs_of_lt_four (b : List UInt8) {rem : Int} (h : rem < 4) :
    navigateAttrs b rem = [] :=
  navigateAttrs_of_not_nlaOk (by simp [nlaOk_of_lt_four b h])

theorem attrLooksNested_of_neg (b : List UInt8) {rem : Int} (h : rem < 0) :
    attrLooksNested b rem = false := by
  rw [attrLooksNested_of_not_nlaOk (by simp [nlaOk_of_lt_four b (by omega : rem < 4)])]
  simp; omega

/-! ## §3 — the walks read only the bytes they are given -/

theorem nlaLenField_append {b : List UInt8} (junk : List UInt8) (h : 2 ≤ b.length) :
    nlaLenField (b ++ junk) = nlaLenField b := by
  simp [nlaLenField, List.getD_eq_getElem?_getD, List.getElem?_append_left (by omega : 0 < b.length),
    List.getElem?_append_left (by omega : 1 < b.length)]

theorem nlaType_append {b : List UInt8} (junk : List UInt8) (h : 4 ≤ b.length) :
    nlaType (b ++ junk) = nlaType b := by
  simp [nlaType, List.getD_eq_getElem?_getD, List.getElem?_append_left (by omega : 2 < b.length),
    List.getElem?_append_left (by omega : 3 < b.length)]

theorem nlaOk_append (b junk : List UInt8) {rem : Int} (h : rem ≤ b.length) :
    nlaOk (b ++ junk) rem = nlaOk b rem := by
  by_cases h4 : rem < 4
  · rw [nlaOk_of_lt_four _ h4, nlaOk_of_lt_four _ h4]
  · rw [nlaOk, nlaOk, nlaLenField_append junk (by omega)]

/-- The step over one attribute stays inside the window, or leaves a negative remainder. -/
theorem drop_append_window (b junk : List UInt8) (k : Nat) {rem : Int} (h : rem ≤ b.length) :
    rem - k < 0 ∨ ((b ++ junk).drop k = b.drop k ++ junk ∧ rem - k ≤ (b.drop k).length) := by
  by_cases hk : k ≤ b.length
  · exact .inr ⟨List.drop_append_of_le_length hk, by simp; omega⟩
  · exact .inl (by omega)

theorem attrItem_append {b : List UInt8} (junk : List UInt8) (subValues : List MmsmDataItem)
    (h4 : 4 ≤ b.length) (hl : nlaLenField b ≤ b.length) :
    attrItem (b ++ junk) subValues = attrItem b subValues := by
  have hdrop : (b ++ junk).drop 4 = b.drop 4 ++ junk := List.drop_append_of_le_length h4
  simp only [attrItem, MmsmDataItem.setValBytes, nlaLenField_append junk (by omega : 2 ≤ b.length),
    nlaType_append junk h4, hdrop,
    List.take_append_of_le_length (by simp; omega : nlaLenField b - 4 ≤ (b.drop 4).length)]

theorem attrLooksNested_append (b junk : List UInt8) (rem : Int) (h : rem ≤ b.length) :
    attrLooksNested (b ++ junk) rem = attrLooksNested b rem := by
  induction b, rem using attrLooksNested.induct generalizing junk with
  | case1 b rem hok ih =>
    have hlen := nlaLenField_append junk (by have := nlaOk_bounds hok; omega : 2 ≤ b.length)
    rw [attrLooksNested_of_nlaOk (by rwa [nlaOk_append b junk h]), attrLooksNested_of_nlaOk hok,
      hlen]
    rcases drop_append_window b junk (nlaAlign (nlaLenField b)) h with hneg | ⟨hd, hw⟩
    · rw [attrLooksNested_of_neg _ hneg, attrLooksNested_of_neg _ hneg]
    · rw [hd, ih junk hw]
  | case2 b rem hok =>
    rw [attrLooksNested_of_not_nlaOk (by rwa [nlaOk_append b junk h]),
      attrLooksNested_of_not_nlaOk hok]

theorem navigateAttrs_append (b junk : List UInt8) (rem : Int) (h : rem ≤ b.length) :
    navigateAttrs (b ++ junk) rem = navigateAttrs b rem := by
  induction b, rem using navigateAttrs.induct generalizing junk with
  | case1 b rem hok length ihSub ihNext =>
    obtain ⟨h4, hl4, hle⟩ := nlaOk_bounds hok
    have hlen := nlaLenField_append junk (by omega : 2 ≤ b.length)
    have hdrop : (b ++ junk).drop 4 = b.drop 4 ++ junk := List.drop_append_of_le_length (by omega)
    have hwin : ((nlaLenField b - 4 : Nat) : Int) ≤ (b.drop 4).length := by simp; omega
    rw [navigateAttrs_of_nlaOk (by rwa [nlaOk_append b junk h]), navigateAttrs_of_nlaOk hok, hlen,
      hdrop, attrLooksNested_append _ junk _ hwin, ihSub junk hwin,
      attrItem_append junk _ (by omega) (by omega)]
    rcases drop_append_window b junk (nlaAlign (nlaLenField b)) h with hneg | ⟨hd, hw⟩
    · have hlt : rem - (nlaAlign (nlaLenField b) : Int) < 4 := by omega
      rw [navigateAttrs_of_lt_four _ hlt, navigateAttrs_of_lt_four _ hlt]
    · rw [hd, ihNext junk hw]
  | case2 b rem hok =>
    rw [navigateAttrs_of_not_nlaOk (by rwa [nlaOk_append b junk h]),
      navigateAttrs_of_not_nlaOk hok]

/-! ## §4 — the kernel's framing and the round trip -/

/-- The bytes the kernel frames one attribute with: `nla_len = 4 + |payload|` and `nla_type` in
host order, the payload, and zero padding to the next four-byte boundary. -/
def nlaFrame (attrType : Nat) (payload : List UInt8) : List UInt8 :=
  let len := payload.length + 4
  [UInt8.ofNat len, UInt8.ofNat (len / 256), UInt8.ofNat attrType, UInt8.ofNat (attrType / 256)] ++
    payload ++ List.replicate (nlaAlign len - len) 0

/-- A netlink attribute as the framing can carry it: the type has no flag bits and the framed
length fits the 16-bit `nla_len`. -/
structure NlAttr where
  attrType : Nat
  payload : List UInt8
  type_lt : attrType < 2 ^ 14
  len_lt : payload.length + 4 < 2 ^ 16

/-- A sequence of attributes, framed one after the other. -/
def encodeAttrs (attrs : List NlAttr) : List UInt8 :=
  attrs.flatMap fun a => nlaFrame a.attrType a.payload

/-- The item the walk is specified to produce for an attribute: its type, its payload, and as
sub-values the walk of the payload exactly when `attr_looks_nested` accepts it. -/
def walkedItem (attrType : Nat) (payload : List UInt8) : MmsmDataItem where
  mmsmKey := .u32 (UInt32.ofNat attrType)
  mmsmValue := if payload.length = 0 then none else some payload
  mmsmSubValues := if attrLooksNested payload payload.length then
    navigateAttrs payload payload.length else []

section Frame

variable {ty : Nat} {p : List UInt8}

theorem nlaFrame_length (p : List UInt8) (ty : Nat) :
    (nlaFrame ty p).length = nlaAlign (p.length + 4) := by
  simp [nlaFrame]; unfold nlaAlign; omega

theorem nlaLenField_nlaFrame (rest : List UInt8) (hp : p.length + 4 < 2 ^ 16) :
    nlaLenField (nlaFrame ty p ++ rest) = p.length + 4 := by
  simp only [nlaFrame, nlaLenField, List.append_assoc, List.cons_append, List.getD_cons_zero,
    List.getD_cons_succ, UInt8.toNat, UInt8.ofNat, BitVec.toNat_ofNat]
  omega

theorem nlaType_nlaFrame (rest : List UInt8) (hty : ty < 2 ^ 14) :
    nlaType (nlaFrame ty p ++ rest) = ty := by
  simp only [nlaFrame, nlaType, List.append_assoc, List.cons_append, List.getD_cons_zero,
    List.getD_cons_succ, UInt8.toNat, UInt8.ofNat, BitVec.toNat_ofNat]
  omega

theorem nlaFrame_append_drop_four (rest : List UInt8) :
    (nlaFrame ty p ++ rest).drop 4 = p ++ (List.replicate (nlaAlign (p.length + 4) -
      (p.length + 4)) 0 ++ rest) := by
  simp [nlaFrame]

/-- A framed attribute passes `nla_ok` whatever follows it. -/
theorem nlaOk_nlaFrame (rest : List UInt8) (hp : p.length + 4 < 2 ^ 16) :
    nlaOk (nlaFrame ty p ++ rest) (nlaFrame ty p ++ rest).length = true := by
  have := le_nlaAlign (p.length + 4)
  simp only [nlaOk, nlaLenField_nlaFrame rest hp, List.length_append, nlaFrame_length]
  simp; omega

/-- **One framed attribute is one item.**  Walking a framed attribute followed by anything
yields `walkedItem` for it, then the walk of what follows. -/
theorem navigateAttrs_nlaFrame (rest : List UInt8) (hty : ty < 2 ^ 14)
    (hp : p.length + 4 < 2 ^ 16) :
    navigateAttrs (nlaFrame ty p ++ rest) (nlaFrame ty p ++ rest).length =
      walkedItem ty p :: navigateAttrs rest rest.length := by
  have hlen := @nlaLenField_nlaFrame ty p rest hp
  have hflen := nlaFrame_length p ty
  have hwin : ((p.length : Nat) : Int) ≤ p.length := Int.le_refl _
  rw [navigateAttrs_of_nlaOk (nlaOk_nlaFrame rest hp), hlen, Nat.add_sub_cancel, nlaFrame_append_drop_four,
    attrLooksNested_append _ _ _ hwin, navigateAttrs_append _ _ _ hwin, List.length_append, hflen,
    List.drop_left' hflen]
  congr 1
  · simp [attrItem, walkedItem, MmsmDataItem.setValBytes, mmsmDataItemAlloc, hlen,
      nlaFrame_append_drop_four, nlaType_nlaFrame rest hty]
  · congr 1; omega

/-- The walk of a framed sequence with nothing after it consumes the buffer exactly. -/
theorem attrLooksNested_nlaFrame (rest : List UInt8) (hp : p.length + 4 < 2 ^ 16) :
    attrLooksNested (nlaFrame ty p ++ rest) (nlaFrame ty p ++ rest).length =
      attrLooksNested rest rest.length := by
  have hflen := nlaFrame_length p ty
  rw [attrLooksNested_of_nlaOk (nlaOk_nlaFrame rest hp), nlaLenField_nlaFrame rest hp, List.length_append, hflen, List.drop_left' hflen]
  congr 1; omega

end Frame

theorem attrLooksNested_nil : attrLooksNested [] 0 = true := by
  rw [attrLooksNested_of_not_nlaOk (by simp [nlaOk])]; rfl

theorem navigateAttrs_nil : navigateAttrs [] 0 = [] :=
  navigateAttrs_of_lt_four _ (by omega)

/-- **The round trip for a flat sequence.**  `navigate_attrs` over the framing of any sequence of
attributes yields exactly one item per attribute, in order, keyed by its type and valued with its
unpadded payload, with sub-values exactly when `attr_looks_nested` accepts the payload. -/
theorem navigateAttrs_encodeAttrs (attrs : List NlAttr) :
    navigateAttrs (encodeAttrs attrs) (encodeAttrs attrs).length =
      attrs.map fun a => walkedItem a.attrType a.payload := by
  induction attrs with
  | nil => exact navigateAttrs_nil
  | cons a attrs ih =>
    rw [encodeAttrs, List.flatMap_cons, navigateAttrs_nlaFrame _ a.type_lt a.len_lt]
    exact congrArg _ ih

/-! ## §5 — trees of nested attributes -/

/-- A tree of netlink attributes: a leaf carries a raw payload, a nested attribute carries its
children, framed one after the other, as its payload. -/
inductive NlAttrTree where
  | leaf (attrType : Nat) (payload : List UInt8)
  | nest (attrType : Nat) (children : List NlAttrTree)

/-- The type of the attribute at the root of a tree. -/
def NlAttrTree.attrType : NlAttrTree → Nat
  | .leaf ty _ => ty
  | .nest ty _ => ty

mutual
/-- The payload the root of a tree is framed with. -/
def NlAttrTree.payload : NlAttrTree → List UInt8
  | .leaf _ p => p
  | .nest _ cs => encodeForest cs

/-- The framing of a forest: each tree framed in turn. -/
def encodeForest : List NlAttrTree → List UInt8
  | [] => []
  | t :: ts => nlaFrame t.attrType t.payload ++ encodeForest ts
end

mutual
/-- Every attribute of the tree can be framed. -/
def NlAttrTree.Framed : NlAttrTree → Prop
  | .leaf ty p => ty < 2 ^ 14 ∧ p.length + 4 < 2 ^ 16
  | .nest ty cs => ty < 2 ^ 14 ∧ (encodeForest cs).length + 4 < 2 ^ 16 ∧ ForestFramed cs

/-- Every tree of the forest can be framed. -/
def ForestFramed : List NlAttrTree → Prop
  | [] => True
  | t :: ts => t.Framed ∧ ForestFramed ts
end

mutual
/-- No leaf payload of the tree is itself an attribute sequence to `attr_looks_nested`. -/
def NlAttrTree.LeavesFlat : NlAttrTree → Prop
  | .leaf _ p => attrLooksNested p p.length = false
  | .nest _ cs => ForestLeavesFlat cs

/-- No leaf payload of the forest is itself an attribute sequence to `attr_looks_nested`. -/
def ForestLeavesFlat : List NlAttrTree → Prop
  | [] => True
  | t :: ts => t.LeavesFlat ∧ ForestLeavesFlat ts
end

mutual
/-- The data item a tree stands for: its type, its payload, and its children as sub-values. -/
def NlAttrTree.toItem : NlAttrTree → MmsmDataItem
  | .leaf ty p => ⟨.u32 (UInt32.ofNat ty), if p.length = 0 then none else some p, []⟩
  | .nest ty cs => ⟨.u32 (UInt32.ofNat ty),
      if (encodeForest cs).length = 0 then none else some (encodeForest cs), forestToItems cs⟩

/-- The chain of data items a forest stands for. -/
def forestToItems : List NlAttrTree → List MmsmDataItem
  | [] => []
  | t :: ts => t.toItem :: forestToItems ts
end

theorem NlAttrTree.framed_bounds {t : NlAttrTree} (h : t.Framed) :
    t.attrType < 2 ^ 14 ∧ t.payload.length + 4 < 2 ^ 16 := by
  cases t with
  | leaf ty p => exact h
  | nest ty cs => exact ⟨h.1, h.2.1⟩

/-- Every framed forest looks nested to `attr_looks_nested`. -/
theorem attrLooksNested_encodeForest :
    ∀ ts : List NlAttrTree, ForestFramed ts →
      attrLooksNested (encodeForest ts) (encodeForest ts).length = true
  | [], _ => attrLooksNested_nil
  | t :: ts, ⟨ht, hts⟩ => by
    rw [encodeForest, attrLooksNested_nlaFrame _ (NlAttrTree.framed_bounds ht).2]
    exact attrLooksNested_encodeForest ts hts

/-- **The walk recovers a tree of nested attributes** whose leaf payloads are not themselves
attribute sequences: a nested attribute is accepted by `attr_looks_nested` and walked into its
children, a leaf is not. -/
theorem navigateAttrs_encodeForest :
    ∀ ts : List NlAttrTree, ForestFramed ts → ForestLeavesFlat ts →
      navigateAttrs (encodeForest ts) (encodeForest ts).length = forestToItems ts
  | [], _, _ => navigateAttrs_nil
  | .leaf ty p :: ts, ⟨⟨hty, hp⟩, hts⟩, ⟨(hflat : attrLooksNested p p.length = false), hfl⟩ => by
    rw [encodeForest, NlAttrTree.attrType, NlAttrTree.payload, navigateAttrs_nlaFrame _ hty hp,
      navigateAttrs_encodeForest ts hts hfl]
    simp [walkedItem, NlAttrTree.toItem, forestToItems, hflat]
  | .nest ty cs :: ts, ⟨⟨hty, hp, hcs⟩, hts⟩, ⟨hcf, hfl⟩ => by
    rw [encodeForest, NlAttrTree.attrType, NlAttrTree.payload, navigateAttrs_nlaFrame _ hty hp,
      navigateAttrs_encodeForest ts hts hfl]
    simp [walkedItem, NlAttrTree.toItem, forestToItems, attrLooksNested_encodeForest cs hcs,
      navigateAttrs_encodeForest cs hcs hcf]

/-- **Attribute-walk round trip.**  Over the framing of any sequence of attributes the walk
returns one item per attribute, in order, keyed by its type and valued with its unpadded
payload, with the walk of the payload as sub-values exactly when `attr_looks_nested` accepts it;
and for every framed tree whose leaf payloads are not attribute sequences it recovers the tree. -/
theorem navigateAttrs_roundTrip :
    (∀ attrs : List NlAttr, navigateAttrs (encodeAttrs attrs) (encodeAttrs attrs).length =
      attrs.map fun a => walkedItem a.attrType a.payload) ∧
    (∀ ts : List NlAttrTree, ForestFramed ts → ForestLeavesFlat ts →
      navigateAttrs (encodeForest ts) (encodeForest ts).length = forestToItems ts) :=
  ⟨navigateAttrs_encodeAttrs, navigateAttrs_encodeForest⟩

/-! ## §6 — message entries of a receive -/

/-- A generic netlink message as the callbacks see it: the `genlmsghdr` command and the
attribute bytes after the header (`genlmsg_attrdata`, `genlmsg_attrlen`). -/
structure GenlMsg where
  cmd : UInt8
  attrs : List UInt8

/-- The entry `nlCallback` builds for one message: keyed by the command, with the walk of its
attributes as sub-values. -/
def nlCallbackEntry (msg : GenlMsg) : MmsmDataItem :=
  { mmsmDataItemAlloc with
      mmsmKey := .u32 msg.cmd.toUInt32
      mmsmSubValues := navigateAttrs msg.attrs msg.attrs.length }

/-- `nlCallback`: append the message's entry at the end of the result chain. -/
def nlCallback (result : List MmsmDataItem) (msg : GenlMsg) : List MmsmDataItem :=
  result ++ [nlCallbackEntry msg]

/-- The receive half of `backend_nl80211_ctrl_monitor`, once its socket is set up (the setup half
is `backendNl80211CtrlMonitor`): `select` waits up to a second, and `nl_recvmsgs_default` reads
one datagram, whose valid messages `nlCallback` appends to the chain.
The socket joins only the `mlme` and `vendor` multicast groups, and nl80211 sends each of their
events as a datagram of one message, without `NLM_F_MULTI`; so the chain handed back holds the
entry of the one event received, and stays `NULL` when `select` times out. -/
def nl80211MonitorReceive (event : Option GenlMsg) : List MmsmDataItem :=
  match event with
  | none => []
  | some msg => nlCallback [] msg

/-- The entry of a message whose attributes are a framed forest with flat leaves carries the
forest's items. -/
theorem nlCallbackEntry_encodeForest (cmd : UInt8) {ts : List NlAttrTree} (hf : ForestFramed ts)
    (hl : ForestLeavesFlat ts) :
    nlCallbackEntry ⟨cmd, encodeForest ts⟩ =
      { mmsmDataItemAlloc with mmsmKey := .u32 cmd.toUInt32, mmsmSubValues := forestToItems ts } := by
  simp [nlCallbackEntry, navigateAttrs_encodeForest ts hf hl]

/-! ## §7 — request arguments -/

/-- `NLA_U8` … `NLA_BINARY`: the libnl attribute type tags the argument processor accepts. -/
def nlaU8 : Int := 1
def nlaU16 : Int := 2
def nlaU32 : Int := 3
def nlaU64 : Int := 4
def nlaString : Int := 5
def nlaBinary : Int := 11

/-- The value that follows an attribute id and its `NLA_*` tag in the variadic arguments.  The
integer kinds carry the `int` that `PACK_VA_ARG` reads with `va_arg(args, int)`. -/
inductive NlaArgValue where
  | u8 (v : Int)
  | u16 (v : Int)
  | u32 (v : Int)
  | u64 (v : Int)
  | string (s : String)
  | binary (len : Int) (data : List UInt8)
  | other (tag : Int)

/-- The bytes of an integer truncated to `width` bytes, in host (little-endian) order. -/
def leBytes (width : Nat) (v : Int) : List UInt8 :=
  (List.range width).map fun i => UInt8.ofNat ((v % 2 ^ (8 * width)).toNat / 2 ^ (8 * i))

/-- The value buffer the argument processor stores for one attribute, or `none` for a tag it
does not support (`NLA_FLAG` and anything else). -/
def packNlaArg : NlaArgValue → Option (List UInt8)
  | .u8 v => some (leBytes 1 v)
  | .u16 v => some (leBytes 2 v)
  | .u32 v => some (leBytes 4 v)
  | .u64 v => some (leBytes 8 v)
  | .string s => some (s.toUTF8.toList ++ [0])
  | .binary len data => some (data.take (u32OfInt len).toNat)
  | .other _ => none

/-- `backend_nl80211_process_request_args(<cmd> <flags> (<attr> <tag> <value>)* -1)`: the head
item keyed by the command with the flags as two bytes, then one sibling per attribute up to the
`-1` sentinel; `NULL` as soon as a tag is not supported. -/
def backendNl80211ProcessRequestArgs (cmd : UInt32) (flags : Int)
    (attrs : List (Int × NlaArgValue)) : Option (List MmsmDataItem) :=
  (attrs.takeWhile (·.1 ≠ -1)).foldr
    (fun a rest => do
      let v ← packNlaArg a.2
      let r ← rest
      pure ({ mmsmDataItemAlloc with mmsmKey := .u32 (u32OfInt a.1), mmsmValue := some v } :: r))
    (some []) |>.map fun attrItems =>
      { mmsmDataItemAlloc with mmsmKey := .u32 cmd, mmsmValue := some (leBytes 2 flags) } ::
        attrItems

end SmartManager.Backend
