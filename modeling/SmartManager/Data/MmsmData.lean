/-
# `SmartManager.Data.MmsmData` — the data item tree (`mmsm_data.h`, `engine/helpers.c`).

Every request and response crosses the system as a chain of `mmsm_data_item_t`: a key (an
unsigned 32-bit integer or an owned string), a value buffer, a chain of sub-values and a link to
the next sibling.  The sibling link is the chain itself, so a chain is a `List MmsmDataItem`
and the empty list is the `NULL` chain.  The value keeps the distinction the C code has between
a `NULL` buffer (`none`) and an allocated one (`some bytes`, its length being `mmsm_value_len`).

The searches are the `helpers.c` loops: the first sibling whose key matches wins, and a search
that finds an item with a `NULL` buffer returns `NULL`, exactly like a search that finds
nothing.  `mmsm_find_key` is the one search the others are written with.
-/
import SmartManager.Libc.Conv

namespace SmartManager.Data

open SmartManager.Libc

/-! ## §1 — keys, items and their constructors -/

/-- `mmsm_key_t`.  A freshly allocated item (`calloc`) carries the integer key `0`. -/
inductive MmsmKey where
  | u32 (v : UInt32)
  | string (s : String)
  deriving DecidableEq, Repr, Inhabited

/-- `mmsm_data_item_t`: key, value buffer (`none` is `NULL`), sub-values.  The `mmsm_next`
link is the list the item stands in. -/
structure MmsmDataItem where
  mmsmKey : MmsmKey
  mmsmValue : Option (List UInt8)
  mmsmSubValues : List MmsmDataItem
  deriving Repr, Inhabited

mutual
/-- Equality of data items, decided key, value and sub-values in turn. -/
def MmsmDataItem.decEq : (a b : MmsmDataItem) → Decidable (a = b)
  | ⟨k, v, s⟩, ⟨k', v', s'⟩ =>
    if hk : k = k' then
      if hv : v = v' then
        match MmsmDataItem.decEqList s s' with
        | isTrue hs => isTrue (by subst hk hv hs; rfl)
        | isFalse hs => isFalse (fun h => hs (by cases h; rfl))
      else isFalse (fun h => hv (by cases h; rfl))
    else isFalse (fun h => hk (by cases h; rfl))

/-- Equality of sibling chains. -/
def MmsmDataItem.decEqList : (a b : List MmsmDataItem) → Decidable (a = b)
  | [], [] => isTrue rfl
  | [], _ :: _ => isFalse (fun h => List.noConfusion h)
  | _ :: _, [] => isFalse (fun h => List.noConfusion h)
  | a :: as, b :: bs =>
    match MmsmDataItem.decEq a b, MmsmDataItem.decEqList as bs with
    | isTrue h₁, isTrue h₂ => isTrue (h₁ ▸ h₂ ▸ rfl)
    | isFalse h₁, _ => isFalse (fun h => h₁ (List.cons.inj h).1)
    | _, isFalse h₂ => isFalse (fun h => h₂ (List.cons.inj h).2)
end

instance : DecidableEq MmsmDataItem := MmsmDataItem.decEq

/-- `mmsm_error_code`, what the engine's entry points return. -/
inductive MmsmErrorCode where
  | success
  | commandFailed
  | unknownError
  deriving DecidableEq, Repr

/-- `mmsm_data_item_alloc`: a zeroed item. -/
def mmsmDataItemAlloc : MmsmDataItem := ⟨.u32 0, none, []⟩

/-- The four bytes of a `uint32_t` in host (little-endian) order. -/
def u32Bytes (v : UInt32) : List UInt8 :=
  [v.toUInt8, (v >>> 8).toUInt8, (v >>> 16).toUInt8, (v >>> 24).toUInt8]

/-- Reading a `uint32_t` from the first four bytes of a buffer (`memcpy` or a cast). -/
def readU32 (b : List UInt8) : UInt32 :=
  (b.getD 0 0).toUInt32 ||| ((b.getD 1 0).toUInt32 <<< 8) |||
    ((b.getD 2 0).toUInt32 <<< 16) ||| ((b.getD 3 0).toUInt32 <<< 24)

/-- `mmsm_data_item_set_val_bytes` on a buffer that holds the `len` bytes `memcpy` copies: a zero
length leaves the buffer `NULL`.  Its callers establish the length: `navigate_attrs` copies a
payload that `nla_ok` places inside the attribute buffer, and the morsectrl response is checked
first and read past its end otherwise (`morsectrlResponseItem`). -/
def MmsmDataItem.setValBytes (i : MmsmDataItem) (buff : List UInt8) (len : Nat) :
    MmsmDataItem :=
  { i with mmsmValue := if len = 0 then none else some (buff.take len) }

/-- `mmsm_data_item_set_key_str`. -/
def MmsmDataItem.setKeyStr (i : MmsmDataItem) (s : String) : MmsmDataItem :=
  { i with mmsmKey := .string s }

/-- `mmsm_data_item_set_val_string`: a copy of the string with its terminating `NUL`. -/
def MmsmDataItem.setValString (i : MmsmDataItem) (s : String) : MmsmDataItem :=
  { i with mmsmValue := some (s.toUTF8.data.toList ++ [0]) }

/-- `mmsm_data_item_get_val_u32`. -/
def MmsmDataItem.getValU32 (i : MmsmDataItem) : UInt32 := readU32 (i.mmsmValue.getD [])

/-! ## §2 — searches -/

/-- `mmsm_find_key`: the first sibling whose key has the same type and the same value. -/
def mmsmFindKey (head : List MmsmDataItem) (key : MmsmKey) : Option MmsmDataItem :=
  head.find? (fun i => decide (i.mmsmKey = key))

/-- `mmsm_find_value_by_intkey`. -/
def mmsmFindValueByIntkey (head : List MmsmDataItem) (key : UInt32) : Option (List UInt8) :=
  (mmsmFindKey head (.u32 key)).bind (·.mmsmValue)

/-- `mmsm_find_value_by_key`. -/
def mmsmFindValueByKey (head : List MmsmDataItem) (key : String) : Option (List UInt8) :=
  (mmsmFindKey head (.string key)).bind (·.mmsmValue)

/-- `mmsm_find_nth_value`. -/
def mmsmFindNthValue (head : List MmsmDataItem) (n : Nat) : Option (List UInt8) :=
  (head.get? n).bind (·.mmsmValue)

/-- `mmsm_find_by_nested_intkeys head k ks… -1`: find `k` among the siblings; while keys remain,
descend into the found item's sub-values and search there.  The `-1` sentinel is the end of
the list of keys. -/
def mmsmFindByNestedIntkeys (head : List MmsmDataItem) (k : UInt32) :
    List UInt32 → Option (List UInt8)
  | [] => (mmsmFindKey head (.u32 k)).bind (·.mmsmValue)
  | k' :: ks => (mmsmFindKey head (.u32 k)).bind
      (fun it => mmsmFindByNestedIntkeys it.mmsmSubValues k' ks)

@[simp] theorem mmsmFindKey_nil (key : MmsmKey) : mmsmFindKey [] key = none := rfl

theorem mmsmFindKey_cons (i : MmsmDataItem) (rest : List MmsmDataItem) (key : MmsmKey) :
    mmsmFindKey (i :: rest) key = if i.mmsmKey = key then some i else mmsmFindKey rest key := by
  by_cases h : i.mmsmKey = key <;> simp [mmsmFindKey, List.find?_cons, h]

/-- A search succeeds exactly when some sibling carries the key. -/
theorem mmsmFindKey_isSome_iff (head : List MmsmDataItem) (key : MmsmKey) :
    (mmsmFindKey head key).isSome ↔ ∃ i ∈ head, i.mmsmKey = key := by
  simp [mmsmFindKey, List.find?_isSome]

end SmartManager.Data
