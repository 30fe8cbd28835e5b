/-
# `SmartManager.Misc.Hashmap` — the chained hash map of `include/hashmap.h`

A `hashmap_t` is an array of `size` list heads at consecutive addresses from `buckets`, and an
entry is the `list_entry_t` embedded in an item, filed in the bucket its key hashes to.  The
model keeps the one pointer memory of `SmartManager.Misc.List`: `hashmap_init` resets every
head, `hashmap_insert` is `list_add_tail` on the key's bucket, `hashmap_remove` is
`list_remove`, `hashmap_find` walks one bucket and returns at the first match, and
`hashmap_iterate` and `hashmap_cleanup` run `list_for_each_entry_safe` on each bucket in turn.
The key of an entry is what `get_key_fn` reads there (`getKey`); a key is read as its first
`key_size` bytes.

The abstract model is the list of live entries in the order they were inserted.  `HashmapInv`
says that every head closes the ring of the live entries whose key hashes to it, in that order,
and that no entry is a head.  The bucket an operation works on moves as the list does, and
every other bucket keeps its ring because the operation writes no address of it (`Ring.frame`).
So the invariant holds after `hashmap_init` and along every run of inserts and removes that
keeps the contract of `hashmap.h` (`hashmapRun_inv`).  On it, `hashmap_find` returns the first
live entry with the key (`hashmapRun_find`), and `hashmap_iterate` and `hashmap_cleanup` visit
every live entry exactly once, even when the callback removes the entry it is given
(`HashmapInv.iterate_visits_once`,
`HashmapInv.cleanup_frees_once`).

§5 looks at the hash itself.  It multiplies by 8 after every byte, so its low three bits are
zero, and a byte is shifted out of the `uint32_t` eleven bytes later.
-/
import Mathlib.Data.Nat.Bitwise
import SmartManager.Misc.List

namespace SmartManager.Misc

/-! ## §1 — `hashmap.h` -/

/-- `DEFAULT_HASH_VAL`. -/
def defaultHashVal : UInt32 := 0x12345

/-- `DEFAULT_HASH_MUL`. -/
def defaultHashMul : UInt32 := 8

/-- `hashmap_t`: the address of the first of `size` list heads, and the key size in bytes. -/
structure Hashmap where
  buckets : Nat
  size : Nat
  keySize : Nat
  deriving DecidableEq, Repr

/-- One round of `hashmap_calc_hash`: `hash ^= bytes[i]; hash *= DEFAULT_HASH_MUL`. -/
def hashStep (hash : UInt32) (b : UInt8) : UInt32 := (hash ^^^ b.toUInt32) * defaultHashMul

/-- `hashmap_calc_hash(key, key_size)`, over the first `key_size` bytes of `key`. -/
def hashmapCalcHash (key : List UInt8) (keySize : Nat) : UInt32 :=
  (key.take keySize).foldl hashStep defaultHashVal

/-- `hashmap_key_equal`: `memcmp` of the first `key_size` bytes is zero. -/
def hashmapKeyEqual (key entryKey : List UInt8) (keySize : Nat) : Bool :=
  key.take keySize == entryKey.take keySize

/-- `&map->buckets[i]` for `i = 0, …, size - 1`. -/
def Hashmap.heads (map : Hashmap) : List Nat := (List.range map.size).map (map.buckets + ·)

/-- An address among the bucket heads. -/
def Hashmap.IsHead (map : Hashmap) (x : Nat) : Prop := map.buckets ≤ x ∧ x < map.buckets + map.size

instance Hashmap.decIsHead (map : Hashmap) : DecidablePred map.IsHead :=
  fun x => inferInstanceAs (Decidable (map.buckets ≤ x ∧ x < map.buckets + map.size))

/-- `hashmap_init(map, size, key_size)`: `calloc` gave the heads at `buckets`, and each is
`list_reset`. -/
def hashmapInit (m : ListMem) (buckets size keySize : Nat) : Hashmap × ListMem :=
  let map : Hashmap := ⟨buckets, size, keySize⟩
  (map, map.heads.foldl listReset m)

/-- The bucket of a key: `hashmap_calc_hash(key, map->key_size) % map->size`. -/
def Hashmap.index (map : Hashmap) (key : List UInt8) : Nat :=
  (hashmapCalcHash key map.keySize).toNat % map.size

/-- `hashmap_insert(map, key, entry)`. -/
def hashmapInsert (map : Hashmap) (m : ListMem) (key : List UInt8) (entry : Nat) : ListMem :=
  listAddTail m (map.buckets + map.index key) entry

/-- The loop of `hashmap_find` from `pos`, returning at the first entry `hit` accepts:
`some none` is the `NULL` after a full walk, `none` is running out of fuel. -/
def hashmapFindLoop (m : ListMem) (head : Nat) (hit : Nat → Bool) :
    Nat → Nat → Option (Option Nat)
  | 0, _ => none
  | fuel + 1, pos =>
    if pos = head then some none
    else if hit pos then some (some pos) else hashmapFindLoop m head hit fuel (m.next pos)

/-- `hashmap_find(map, key, get_key_fn)`. -/
def hashmapFind (map : Hashmap) (m : ListMem) (key : List UInt8) (getKeyFn : Nat → List UInt8)
    (fuel : Nat) : Option (Option Nat) :=
  let head := map.buckets + map.index key
  hashmapFindLoop m head (fun entry => hashmapKeyEqual key (getKeyFn entry) map.keySize) fuel
    (m.next head)

/-- `hashmap_remove(entry)`. -/
def hashmapRemove (m : ListMem) (entry : Nat) : ListMem := listRemove m entry

/-- `for (i = 0; i < map->size; ++i)` running `body` on each head: the entries the runs visit,
one bucket after the other, and the memory the loop leaves. -/
def forEachBucket (body : Nat → ListMem → Option (List Nat × ListMem)) :
    List Nat → ListMem → Option (List Nat × ListMem)
  | [], m => some ([], m)
  | head :: heads, m => (body head m).bind fun r =>
    (forEachBucket body heads r.2).map fun s => (r.1 ++ s.1, s.2)

/-- The body of `hashmap_iterate` on one head: `list_for_each_entry_safe` calling `fn`, which
calls `hashmap_remove` on the entries `del` picks. -/
def iterateBucket (del : Nat → Bool) (fuel head : Nat) (m : ListMem) :
    Option (List Nat × ListMem) :=
  listForEachEntrySafe head del fuel m (m.next head) (m.next (m.next head))

/-- `hashmap_iterate(map, fn, arg)`: the entries `fn` is called on, and the memory. -/
def hashmapIterate (map : Hashmap) (del : Nat → Bool) (fuel : Nat) (m : ListMem) :
    Option (List Nat × ListMem) :=
  forEachBucket (iterateBucket del fuel) map.heads m

/-- The body of `hashmap_cleanup` on one head: `list_remove` and `free_fn` on every entry, then
`list_reset`. -/
def cleanupBucket (fuel head : Nat) (m : ListMem) : Option (List Nat × ListMem) :=
  (iterateBucket (fun _ => true) fuel head m).map fun r => (r.1, listReset r.2 head)

/-- `hashmap_cleanup(map, free_fn)`: the entries `free_fn` is called on, the map after
`free(map->buckets)` and the zeroed fields, and the memory. -/
def hashmapCleanup (map : Hashmap) (fuel : Nat) (m : ListMem) :
    Option (List Nat × Hashmap × ListMem) :=
  (forEachBucket (cleanupBucket fuel) map.heads m).map fun r => (r.1, ⟨0, 0, 0⟩, r.2)

/-! ## §2 — the invariant and the frame of a bucket -/

section Invariant

variable (map : Hashmap) (getKey : Nat → List UInt8)

/-- The live entries whose key hashes to bucket `i`, in the order of `live`. -/
def Hashmap.bucketEntries (live : List Nat) (i : Nat) : List Nat :=
  live.filter fun e => map.index (getKey e) = i

/-- **The invariant of a `hashmap_t`** over memory `m` whose live entries are `live`: there is a
bucket, no entry is a head, and every head closes the ring of its bucket's entries. -/
structure HashmapInv (m : ListMem) (live : List Nat) : Prop where
  size_pos : 0 < map.size
  not_head : ∀ e ∈ live, ¬ map.IsHead e
  ring : ∀ i < map.size, Ring m (map.buckets + i) (map.bucketEntries getKey live i)

variable {map getKey} {m : ListMem} {live : List Nat}

theorem Hashmap.index_lt (h : 0 < map.size) (key : List UInt8) : map.index key < map.size :=
  Nat.mod_lt _ h

theorem Hashmap.mem_bucketEntries {i e : Nat} :
    e ∈ map.bucketEntries getKey live i ↔ e ∈ live ∧ map.index (getKey e) = i := by
  simp [Hashmap.bucketEntries]

/-- Keys that `hashmap_key_equal` matches go to one bucket. -/
theorem Hashmap.index_eq_of_keyEqual {key key' : List UInt8}
    (h : hashmapKeyEqual key key' map.keySize = true) : map.index key = map.index key' := by
  rw [Hashmap.index, Hashmap.index, hashmapCalcHash, hashmapCalcHash, beq_iff_eq.1 h]

/-- Two buckets share no address. -/
theorem HashmapInv.disjoint (h : HashmapInv map getKey m live) {i j : Nat} (hi : i < map.size)
    (hj : j < map.size) (hij : i ≠ j) :
    ∀ x ∈ (map.buckets + i) :: map.bucketEntries getKey live i,
      x ∉ (map.buckets + j) :: map.bucketEntries getKey live j := by
  have hhead : ∀ k < map.size, map.buckets + k ∉ live :=
    fun k hk hl => h.not_head _ hl ⟨by omega, by omega⟩
  intro x hx hx'
  simp only [List.mem_cons, Hashmap.mem_bucketEntries] at hx hx'
  rcases hx with rfl | ⟨hl, rfl⟩ <;> rcases hx' with he | ⟨hl', hj'⟩
  · omega
  · exact hhead i hi hl'
  · exact hhead j hj (he ▸ hl)
  · exact hij hj'

/-- **Every other bucket keeps its ring** through an update that writes only the addresses of
bucket `i` and addresses `S` off the map. -/
theorem HashmapInv.ring_frame (h : HashmapInv map getKey m live) {m' : ListMem} {i : Nat}
    (hi : i < map.size) {S : List Nat}
    (hm : m.AgreeOff m' ((map.buckets + i) :: map.bucketEntries getKey live i ++ S))
    (hS : ∀ x ∈ S, x ∉ live ∧ ¬ map.IsHead x) {j : Nat} (hj : j < map.size) (hji : j ≠ i) :
    Ring m' (map.buckets + j) (map.bucketEntries getKey live j) :=
  (h.ring j hj).frame hm fun x hx hx' => by
    rcases List.mem_append.1 hx' with hx' | hx'
    · exact h.disjoint hj hi hji x hx hx'
    · rcases List.mem_cons.1 hx with rfl | hx
      · exact (hS _ hx').2 ⟨by omega, by omega⟩
      · exact (hS x hx').1 (Hashmap.mem_bucketEntries.1 hx).1

/-! ## §3 — insert and remove, and whole runs -/

theorem Hashmap.bucketEntries_concat (e j : Nat) :
    map.bucketEntries getKey (live ++ [e]) j = if map.index (getKey e) = j
      then map.bucketEntries getKey live j ++ [e] else map.bucketEntries getKey live j := by
  unfold Hashmap.bucketEntries
  split <;> simp [List.filter_append, *]

theorem Hashmap.bucketEntries_erase (e j : Nat) :
    map.bucketEntries getKey (live.erase e) j = (map.bucketEntries getKey live j).erase e :=
  (List.erase_filter _ _).symm

/-- `hashmap_insert` files a new entry at the end of its bucket. -/
theorem HashmapInv.insert (h : HashmapInv map getKey m live) {key : List UInt8} {e : Nat}
    (hkey : map.index key = map.index (getKey e)) (hlive : e ∉ live) (hhead : ¬ map.IsHead e) :
    HashmapInv map getKey (hashmapInsert map m key e) (live ++ [e]) := by
  have hi := map.index_lt h.size_pos key
  have hring := h.ring _ hi
  refine ⟨h.size_pos, fun x hx => ?_, fun j hj => ?_⟩
  · rcases List.mem_append.1 hx with hx | hx
    · exact h.not_head x hx
    · exact List.mem_singleton.1 hx ▸ hhead
  rw [Hashmap.bucketEntries_concat]
  by_cases hji : map.index (getKey e) = j
  · rw [if_pos hji, ← hji, ← hkey]
    exact hring.addTail (fun he => hhead (he ▸ ⟨by omega, by omega⟩))
      fun he => hlive (Hashmap.mem_bucketEntries.1 he).1
  · rw [if_neg hji]
    have hp := (hring.neighbours_mem _ (List.mem_cons_self _ _)).2
    refine h.ring_frame hi (S := [e]) ((listAddTail_agreeOff m _ e).mono fun x hx => ?_)
      (fun x hx => List.mem_singleton.1 hx ▸ ⟨hlive, hhead⟩) hj (by rwa [hkey, ne_comm])
    simp only [List.mem_cons, List.not_mem_nil, or_false] at hx
    rcases hx with rfl | rfl | rfl
    exacts [by simp, List.mem_append_left _ hp, by simp]

/-- `hashmap_remove` takes a live entry out of its bucket. -/
theorem HashmapInv.remove (h : HashmapInv map getKey m live) {e : Nat} (he : e ∈ live) :
    HashmapInv map getKey (hashmapRemove m e) (live.erase e) := by
  have hi := map.index_lt h.size_pos (getKey e)
  have hring := h.ring _ hi
  have heB : e ∈ map.bucketEntries getKey live (map.index (getKey e)) :=
    Hashmap.mem_bucketEntries.2 ⟨he, rfl⟩
  refine ⟨h.size_pos, fun x hx => h.not_head x (List.erase_subset _ _ hx), fun j hj => ?_⟩
  rw [Hashmap.bucketEntries_erase]
  by_cases hji : j = map.index (getKey e)
  · subst hji
    exact hring.remove heB
  · rw [List.erase_of_not_mem fun hB => hji (Hashmap.mem_bucketEntries.1 hB).2.symm]
    have hn := hring.neighbours_mem e (List.mem_cons_of_mem _ heB)
    refine h.ring_frame hi (S := []) ((listRemove_agreeOff m e).mono fun x hx => ?_)
      (by simp) hj hji
    simp only [List.mem_cons, List.not_mem_nil, or_false] at hx
    rcases hx with rfl | rfl
    exacts [List.mem_append_left _ hn.2, List.mem_append_left _ hn.1]

end Invariant

/-- The operations of `hashmap.h` that change a map. -/
inductive HashmapOp where
  | insert (key : List UInt8) (entry : Nat)
  | remove (entry : Nat)
  deriving DecidableEq, Repr

/-- An operation on memory. -/
def HashmapOp.exec (map : Hashmap) (m : ListMem) : HashmapOp → ListMem
  | .insert key entry => hashmapInsert map m key entry
  | .remove entry => hashmapRemove m entry

/-- What an operation does to the list of live entries. -/
def HashmapOp.view (live : List Nat) : HashmapOp → List Nat
  | .insert _ entry => live ++ [entry]
  | .remove entry => live.erase entry

/-- The contract of `hashmap.h`: an inserted entry is not in the map and is no head, and its key
argument goes to the bucket of its own key (as any key `hashmap_key_equal` matches does,
`Hashmap.index_eq_of_keyEqual`); a removed entry is in the map. -/
def HashmapOp.Allowed (map : Hashmap) (getKey : Nat → List UInt8) (live : List Nat) :
    HashmapOp → Prop
  | .insert key entry => map.index key = map.index (getKey entry) ∧ entry ∉ live ∧ ¬ map.IsHead entry
  | .remove entry => entry ∈ live

instance HashmapOp.decAllowed (map : Hashmap) (getKey : Nat → List UInt8) (live : List Nat) :
    DecidablePred (HashmapOp.Allowed map getKey live)
  | .insert key entry => inferInstanceAs (Decidable (map.index key = map.index (getKey entry) ∧
      entry ∉ live ∧ ¬ map.IsHead entry))
  | .remove entry => inferInstanceAs (Decidable (entry ∈ live))

/-- A run on memory. -/
def hashmapRun (map : Hashmap) (m : ListMem) (ops : List HashmapOp) : ListMem :=
  ops.foldl (HashmapOp.exec map) m

/-- The same run on the list of live entries. -/
def hashmapViewRun (live : List Nat) (ops : List HashmapOp) : List Nat :=
  ops.foldl HashmapOp.view live

/-- Every operation of a run keeps the contract at the live entries it meets. -/
def HashmapRunAllowed (map : Hashmap) (getKey : Nat → List UInt8) :
    List Nat → List HashmapOp → Prop
  | _, [] => True
  | live, op :: ops => op.Allowed map getKey live ∧ HashmapRunAllowed map getKey (op.view live) ops

instance decHashmapRunAllowed (map : Hashmap) (getKey : Nat → List UInt8) :
    ∀ live ops, Decidable (HashmapRunAllowed map getKey live ops)
  | _, [] => isTrue trivial
  | live, op :: ops => @instDecidableAnd _ _ (HashmapOp.decAllowed map getKey live op)
      (decHashmapRunAllowed map getKey (op.view live) ops)

section Runs

variable {map : Hashmap} {getKey : Nat → List UInt8}

theorem HashmapOp.exec_inv {m : ListMem} {live : List Nat} (h : HashmapInv map getKey m live) :
    ∀ op : HashmapOp, op.Allowed map getKey live →
      HashmapInv map getKey (op.exec map m) (op.view live)
  | .insert _ _, ⟨hkey, hlive, hhead⟩ => h.insert hkey hlive hhead
  | .remove _, he => h.remove he

/-- A run keeps the invariant and moves the live entries as the run on the list does. -/
theorem hashmapRun_inv : ∀ (ops : List HashmapOp) {m : ListMem} {live : List Nat},
    HashmapInv map getKey m live → HashmapRunAllowed map getKey live ops →
      HashmapInv map getKey (hashmapRun map m ops) (hashmapViewRun live ops)
  | [], _, _, h, _ => h
  | op :: ops, _, _, h, ⟨hop, hops⟩ => hashmapRun_inv ops (HashmapOp.exec_inv h op hop) hops

end Runs

theorem foldl_listReset_agreeOff : ∀ (hs : List Nat) (m : ListMem),
    m.AgreeOff (hs.foldl listReset m) hs
  | [], m => .refl m []
  | h :: hs, m => ((listReset_agreeOff m h).mono (by simp)).trans
      ((foldl_listReset_agreeOff hs _).mono (List.subset_cons_self _ _))

/-- After the resets, every head reset is an empty ring. -/
theorem foldl_listReset_ring : ∀ (hs : List Nat) (m : ListMem) {x : Nat}, x ∈ hs →
    Ring (hs.foldl listReset m) x []
  | h :: hs, m, x, hx => by
    by_cases hxs : x ∈ hs
    · exact foldl_listReset_ring hs _ hxs
    · obtain rfl : x = h := by simpa [hxs] using hx
      exact (Ring.reset m x).frame (foldl_listReset_agreeOff hs _) (by simpa using hxs)

/-- `hashmap_init` of at least one bucket, over any memory, sets up an empty map. -/
theorem hashmapInit_inv (getKey : Nat → List UInt8) (m : ListMem) (buckets size keySize : Nat)
    (hsize : 0 < size) :
    HashmapInv ⟨buckets, size, keySize⟩ getKey (hashmapInit m buckets size keySize).2 [] :=
  ⟨hsize, by simp, fun i hi => by
    simpa [Hashmap.bucketEntries] using
      foldl_listReset_ring _ m (List.mem_map.2 ⟨i, List.mem_range.2 hi, rfl⟩)⟩

/-! ## §4 — what `hashmap_find`, `hashmap_iterate` and `hashmap_cleanup` see -/

/-- The loop of `hashmap_find` started at the `next` of `a`, along a chain `a, xs…, b` that does
not meet `b` early, returns the first of `xs` that `hit` accepts. -/
theorem hashmapFindLoop_chain {m : ListMem} {b : Nat} (hit : Nat → Bool) :
    ∀ {a : Nat} {xs : List Nat} {fuel : Nat}, (a :: xs ++ [b]).Chain' (Link m) → b ∉ xs →
      xs.length < fuel → hashmapFindLoop m b hit fuel (m.next a) = some (xs.find? hit)
  | _, _, 0, _, _, hf => absurd hf (Nat.not_lt_zero _)
  | _, [], _ + 1, h, _, _ => by rw [(List.chain'_pair.1 h).1]; simp [hashmapFindLoop]
  | a, x :: xs, fuel + 1, h, hb, hf => by
    have h' : (a :: x :: (xs ++ [b])).Chain' (Link m) := h
    rw [List.chain'_cons] at h'
    rw [h'.1.1, hashmapFindLoop, if_neg fun (e : x = b) => hb (e ▸ List.mem_cons_self x xs)]
    by_cases hx : hit x
    · simp [hx]
    · rw [if_neg hx, List.find?_cons_of_neg _ hx]
      exact hashmapFindLoop_chain hit h'.2 (fun h => hb (List.mem_cons_of_mem x h))
        (Nat.lt_of_succ_lt_succ hf)

section Observations

variable {map : Hashmap} {getKey : Nat → List UInt8} {m : ListMem} {live : List Nat}

/-- **`hashmap_find` returns the first live entry with the key**, in insertion order, and `NULL`
when there is none. -/
theorem HashmapInv.find (h : HashmapInv map getKey m live) (key : List UInt8) {fuel : Nat}
    (hf : live.length < fuel) :
    hashmapFind map m key getKey fuel =
      some (live.find? fun e => hashmapKeyEqual key (getKey e) map.keySize) := by
  have hring := h.ring _ (map.index_lt h.size_pos key)
  rw [hashmapFind, hashmapFindLoop_chain _ hring.chain (List.Nodup.not_mem hring.nodup)
    (lt_of_le_of_lt (List.length_filter_le _ _) hf), Hashmap.bucketEntries, List.find?_filter]
  congr 2
  funext e
  by_cases hk : hashmapKeyEqual key (getKey e) map.keySize
  · simp [hk, map.index_eq_of_keyEqual hk]
  · simp [hk]

/-- What the body of a bucket loop does: on a ring `L` it visits `L`, keeps on the ring the
entries `keep` picks, and writes only the ring's addresses. -/
def BucketBody (body : Nat → ListMem → Option (List Nat × ListMem)) (keep : Nat → Bool)
    (fuel : Nat) : Prop :=
  ∀ m head L, Ring m head L → L.length < fuel →
    ∃ m', body head m = some (L, m') ∧ Ring m' head (L.filter keep) ∧ m.AgreeOff m' (head :: L)

theorem iterateBucket_bucketBody (del : Nat → Bool) (fuel : Nat) :
    BucketBody (iterateBucket del fuel) (fun x => !del x) fuel := by
  intro m head L h hf
  rw [iterateBucket, h.next_head]
  obtain ⟨m', hrun, hring⟩ := listForEachEntrySafe_ring head del L [] m fuel h hf
  exact ⟨m', hrun, hring, listForEachEntrySafe_agreeOff head del L [] m fuel _ h hrun⟩

theorem cleanupBucket_bucketBody (fuel : Nat) :
    BucketBody (cleanupBucket fuel) (fun _ => false) fuel := by
  intro m head L h hf
  obtain ⟨m', hrun, -, hm⟩ := iterateBucket_bucketBody (fun _ => true) fuel m head L h hf
  refine ⟨listReset m' head, by rw [cleanupBucket, hrun]; rfl, by simpa using Ring.reset m' head,
    hm.trans ((listReset_agreeOff m' head).mono (by simp))⟩

theorem Hashmap.bucketEntries_filter (i j : Nat) (keep : Nat → Bool) :
    map.bucketEntries getKey (live.filter fun e => map.index (getKey e) ≠ i || keep e) j =
      if j = i then (map.bucketEntries getKey live j).filter keep
      else map.bucketEntries getKey live j := by
  unfold Hashmap.bucketEntries
  rw [List.filter_filter]
  by_cases hji : j = i
  · subst j
    rw [if_pos rfl, List.filter_filter]
    exact List.filter_congr fun e _ => by
      by_cases he : map.index (getKey e) = i <;> simp [he]
  · rw [if_neg hji]
    exact List.filter_congr fun e _ => by
      by_cases he : map.index (getKey e) = j <;> simp [he, hji]

/-- One bucket's run of the loop body moves the map to the live entries it keeps. -/
theorem HashmapInv.filterBucket (h : HashmapInv map getKey m live) {m' : ListMem} {i : Nat}
    (hi : i < map.size) {keep : Nat → Bool}
    (hring : Ring m' (map.buckets + i) ((map.bucketEntries getKey live i).filter keep))
    (hm : m.AgreeOff m' ((map.buckets + i) :: map.bucketEntries getKey live i)) :
    HashmapInv map getKey m' (live.filter fun e => map.index (getKey e) ≠ i || keep e) := by
  refine ⟨h.size_pos, fun e he => h.not_head e (List.mem_of_mem_filter he), fun j hj => ?_⟩
  rw [Hashmap.bucketEntries_filter]
  split
  · subst j
    exact hring
  · exact h.ring_frame hi (S := []) (by simpa using hm) (by simp) hj ‹_›

/-- **The bucket loop** over distinct buckets `is` visits each bucket's entries in turn, and
keeps of the entries of those buckets exactly the ones `keep` picks. -/
theorem forEachBucket_inv {body : Nat → ListMem → Option (List Nat × ListMem)}
    {keep : Nat → Bool} {fuel : Nat} (hbody : BucketBody body keep fuel) :
    ∀ (is : List Nat) {m : ListMem} {live : List Nat}, HashmapInv map getKey m live →
      (∀ i ∈ is, i < map.size) → is.Nodup → live.length < fuel →
      ∃ m', forEachBucket body (is.map (map.buckets + ·)) m =
          some (is.flatMap (map.bucketEntries getKey live), m') ∧
        HashmapInv map getKey m' (live.filter fun e => decide (map.index (getKey e) ∉ is) || keep e)
  | [], m, live, h, _, _, _ => ⟨m, rfl, by simpa using h⟩
  | i :: is, m, live, h, his, hnd, hf => by
    have hi := his i (List.mem_cons_self i is)
    obtain ⟨m₁, hb, hring, hm⟩ :=
      hbody m _ _ (h.ring i hi) (lt_of_le_of_lt (List.length_filter_le _ _) hf)
    obtain ⟨m', hrun, h'⟩ := forEachBucket_inv hbody is (h.filterBucket hi hring hm)
      (fun j hj => his j (List.mem_cons_of_mem i hj)) (List.nodup_cons.1 hnd).2
      (lt_of_le_of_lt (List.length_filter_le _ _) hf)
    refine ⟨m', ?_, ?_⟩
    · rw [List.map_cons, forEachBucket, hb, Option.some_bind, hrun, Option.map_some',
        List.flatMap_cons]
      congr 3
      exact List.flatMap_congr fun j hj => by
        rw [Hashmap.bucketEntries_filter,
          if_neg (ne_of_mem_of_not_mem hj (List.nodup_cons.1 hnd).1)]
    · rw [List.filter_filter] at h'
      convert h' using 2
      funext e
      cases keep e <;> simp [Bool.and_comm]

/-- The buckets, read one after the other, hold every live entry once. -/
theorem HashmapInv.buckets_perm (h : HashmapInv map getKey m live) :
    ((List.range map.size).flatMap (map.bucketEntries getKey live)).Perm live := by
  have hperm : ∀ n, ((List.range n).flatMap (map.bucketEntries getKey live)).Perm
      (live.filter fun e => map.index (getKey e) < n) := by
    intro n
    induction n with
    | zero => simp
    | succ n ih =>
      rw [List.range_succ, List.flatMap_append, List.flatMap_singleton]
      have h₁ : (live.filter fun e => map.index (getKey e) < n + 1).filter
          (fun e => map.index (getKey e) < n) = live.filter fun e => map.index (getKey e) < n := by
        rw [List.filter_filter]
        exact List.filter_congr fun e _ => by rw [← Bool.decide_and, decide_eq_decide]; omega
      have h₂ : (live.filter fun e => map.index (getKey e) < n + 1).filter
          (fun e => !decide (map.index (getKey e) < n)) = map.bucketEntries getKey live n := by
        rw [List.filter_filter]
        exact List.filter_congr fun e _ => by
          rw [← decide_not, ← Bool.decide_and, decide_eq_decide]; omega
      exact (ih.append (h₂ ▸ List.Perm.refl _)).trans (h₁ ▸ List.filter_append_perm _ _)
  simpa [map.index_lt h.size_pos] using hperm map.size

/-- **`hashmap_iterate` calls `fn` on every live entry exactly once**: bucket after bucket,
and within a bucket in insertion order, even when `fn` removes the entry it is given with
`hashmap_remove`.  The entries removed leave the map and the others stay in it. -/
theorem HashmapInv.iterate_visits_once (h : HashmapInv map getKey m live) (del : Nat → Bool) {fuel : Nat}
    (hf : live.length < fuel) :
    ∃ m', hashmapIterate map del fuel m =
        some ((List.range map.size).flatMap (map.bucketEntries getKey live), m') ∧
      ((List.range map.size).flatMap (map.bucketEntries getKey live)).Perm live ∧
      HashmapInv map getKey m' (live.filter fun e => !del e) := by
  obtain ⟨m', hrun, h'⟩ := forEachBucket_inv (iterateBucket_bucketBody del fuel)
    (List.range map.size) h (fun i hi => List.mem_range.1 hi) (List.nodup_range _) hf
  refine ⟨m', hrun, h.buckets_perm, ?_⟩
  simpa [map.index_lt h.size_pos] using h'

/-- **`hashmap_cleanup` hands every live entry to `free_fn` exactly once**, bucket after
bucket, resets every head and zeroes the map. -/
theorem HashmapInv.cleanup_frees_once (h : HashmapInv map getKey m live) {fuel : Nat}
    (hf : live.length < fuel) :
    ∃ m', hashmapCleanup map fuel m =
        some ((List.range map.size).flatMap (map.bucketEntries getKey live), ⟨0, 0, 0⟩, m') ∧
      ((List.range map.size).flatMap (map.bucketEntries getKey live)).Perm live ∧
      ∀ i < map.size, Ring m' (map.buckets + i) [] := by
  obtain ⟨m', hrun, h'⟩ := forEachBucket_inv (cleanupBucket_bucketBody fuel)
    (List.range map.size) h (fun i hi => List.mem_range.1 hi) (List.nodup_range _) hf
  refine ⟨m', by rw [hashmapCleanup, Hashmap.heads, hrun]; rfl, h.buckets_perm, fun i hi => ?_⟩
  simpa [Hashmap.bucketEntries, map.index_lt h.size_pos] using h'.ring i hi

end Observations

/-- **`hashmap.h` is a map from keys to the entries filed under them.**  After `hashmap_init`
of at least one bucket over any memory, and along every run of `hashmap_insert` and
`hashmap_remove` that keeps the contract of `hashmap.h`, `hashmap_find` returns the first live
entry, in insertion order, whose key matches, and `NULL` when none does: exactly a search of
the run's list of live entries. -/
theorem hashmapRun_find (m₀ : ListMem) (buckets size keySize : Nat)
    (getKey : Nat → List UInt8) (ops : List HashmapOp) (hsize : 0 < size)
    (hops : HashmapRunAllowed ⟨buckets, size, keySize⟩ getKey [] ops) (key : List UInt8)
    {fuel : Nat} (hf : (hashmapViewRun [] ops).length < fuel) :
    hashmapFind ⟨buckets, size, keySize⟩
        (hashmapRun ⟨buckets, size, keySize⟩ (hashmapInit m₀ buckets size keySize).2 ops) key
        getKey fuel =
      some ((hashmapViewRun [] ops).find? fun e => hashmapKeyEqual key (getKey e) keySize) :=
  (hashmapRun_inv ops (hashmapInit_inv getKey m₀ buckets size keySize hsize) hops).find key hf

/-- Entry 3 is filed under the key of entry 1, which is then removed. -/
def reinsertedKeyOps : List HashmapOp :=
  [.insert [1, 0] 1, .insert [0, 0] 2, .insert [1, 0] 3, .remove 1]

/-- The key of an entry in the examples: its parity. -/
def parityKey (e : Nat) : List UInt8 := [(e % 2).toUInt8, 0]

/-- The memory after that run, on four buckets at address 100. -/
def reinsertedKeyMem : ListMem :=
  hashmapRun ⟨100, 4, 2⟩ (hashmapInit ⟨id, id⟩ 100 4 2).2 reinsertedKeyOps

theorem hashmapRun_find_reinsertedKey :
    0 < 4 ∧ HashmapRunAllowed ⟨100, 4, 2⟩ parityKey [] reinsertedKeyOps ∧
      (hashmapViewRun [] reinsertedKeyOps).length < 4 ∧
      hashmapFind ⟨100, 4, 2⟩ reinsertedKeyMem [1, 0] parityKey 4 =
        some ((hashmapViewRun [] reinsertedKeyOps).find? fun e =>
          hashmapKeyEqual [1, 0] (parityKey e) 2) :=
  ⟨by decide, by decide, by decide,
    hashmapRun_find ⟨id, id⟩ 100 4 2 parityKey reinsertedKeyOps (by decide) (by decide) [1, 0]
      (by decide)⟩

/-- The pointers themselves, walked by `hashmap_find`: entry 3. -/
example : hashmapFind ⟨100, 4, 2⟩ reinsertedKeyMem [1, 0] parityKey 4 = some (some 3) := by
  decide

theorem reinsertedKeyMem_inv : HashmapInv ⟨100, 4, 2⟩ parityKey reinsertedKeyMem [2, 3] :=
  hashmapRun_inv reinsertedKeyOps (hashmapInit_inv parityKey ⟨id, id⟩ 100 4 2 (by decide))
    (by decide)

/-- A callback that removes entry 3 as it meets it. -/
theorem HashmapInv.iterate_visits_once_reinsertedKey :
    HashmapInv ⟨100, 4, 2⟩ parityKey reinsertedKeyMem [2, 3] ∧ [2, 3].length < 4 ∧
      ∃ m', hashmapIterate ⟨100, 4, 2⟩ (· == 3) 4 reinsertedKeyMem =
          some ((List.range 4).flatMap ((⟨100, 4, 2⟩ : Hashmap).bucketEntries parityKey [2, 3]),
            m') ∧
        ((List.range 4).flatMap ((⟨100, 4, 2⟩ : Hashmap).bucketEntries parityKey [2, 3])).Perm
          [2, 3] ∧
        HashmapInv ⟨100, 4, 2⟩ parityKey m' ([2, 3].filter fun e => !(e == 3)) :=
  ⟨reinsertedKeyMem_inv, by decide,
    HashmapInv.iterate_visits_once reinsertedKeyMem_inv (· == 3) (by decide)⟩

theorem HashmapInv.cleanup_frees_once_reinsertedKey :
    HashmapInv ⟨100, 4, 2⟩ parityKey reinsertedKeyMem [2, 3] ∧ [2, 3].length < 4 ∧
      ∃ m', hashmapCleanup ⟨100, 4, 2⟩ 4 reinsertedKeyMem =
          some ((List.range 4).flatMap ((⟨100, 4, 2⟩ : Hashmap).bucketEntries parityKey [2, 3]),
            ⟨0, 0, 0⟩, m') ∧
        ((List.range 4).flatMap ((⟨100, 4, 2⟩ : Hashmap).bucketEntries parityKey [2, 3])).Perm
          [2, 3] ∧
        ∀ i < 4, Ring m' (100 + i) [] :=
  ⟨reinsertedKeyMem_inv, by decide,
    HashmapInv.cleanup_frees_once reinsertedKeyMem_inv (by decide)⟩

/-- The order `free_fn` sees: bucket 0 holds entry 2 and bucket 2 entry 3. -/
example : ((hashmapCleanup ⟨100, 4, 2⟩ 4 reinsertedKeyMem).map (·.1)) = some [2, 3] := by
  decide

/-! ## §5 — the hash -/

theorem hashStep_toNat (s : UInt32) (b : UInt8) :
    (hashStep s b).toNat = (s.toNat ^^^ b.toNat) * 8 % 2 ^ 32 := rfl

/-- Multiplying by 8 in 32 bits commutes with `^`. -/
theorem mul_eight_mod_xor (A B : Nat) :
    (A * 8 % 2 ^ 32) ^^^ (B * 8 % 2 ^ 32) = (A ^^^ B) * 8 % 2 ^ 32 := by
  have h8 : ∀ x : Nat, x * 8 = 2 ^ 3 * x := fun x => by omega
  apply Nat.eq_of_testBit_eq
  intro i
  simp only [Nat.testBit_xor, Nat.testBit_mod_two_pow, h8, Nat.testBit_mul_pow_two]
  cases decide (i < 32) <;> cases decide (3 ≤ i) <;> rfl

/-- Two hashes fed the same bytes differ by their starting difference shifted three bits a
byte. -/
theorem foldl_hashStep_xor : ∀ (bs : List UInt8) (s t : UInt32),
    (bs.foldl hashStep s).toNat ^^^ (bs.foldl hashStep t).toNat =
      (s.toNat ^^^ t.toNat) * 8 ^ bs.length % 2 ^ 32
  | [], s, t => by
    have hs : s.toNat < 2 ^ 32 := s.toNat_lt_size
    have ht : t.toNat < 2 ^ 32 := t.toNat_lt_size
    rw [List.foldl_nil, List.foldl_nil, List.length_nil, Nat.pow_zero, Nat.mul_one,
      Nat.mod_eq_of_lt (Nat.xor_lt_two_pow hs ht)]
  | b :: bs, s, t => by
    have hb : s.toNat ^^^ b.toNat ^^^ (t.toNat ^^^ b.toNat) = s.toNat ^^^ t.toNat := by
      rw [Nat.xor_assoc, Nat.xor_comm t.toNat, ← Nat.xor_assoc b.toNat, Nat.xor_self,
        Nat.zero_xor]
    rw [List.foldl_cons, List.foldl_cons, foldl_hashStep_xor bs, hashStep_toNat, hashStep_toNat,
      mul_eight_mod_xor, Nat.mod_mul_mod, hb, List.length_cons,
      show 8 ^ (bs.length + 1) = 8 * 8 ^ bs.length from Nat.pow_succ', ← Nat.mul_assoc]

/-- A hash after at least one byte is a multiple of 8. -/
theorem foldl_hashStep_dvd : ∀ (bs : List UInt8) (s : UInt32), bs ≠ [] →
    8 ∣ (bs.foldl hashStep s).toNat
  | [], _, h => absurd rfl h
  | [b], s, _ => by
    rw [List.foldl_cons, List.foldl_nil, hashStep_toNat]
    exact (Nat.dvd_mod_iff (by decide)).2 (Nat.dvd_mul_left 8 _)
  | a :: b :: bs, s, _ => by
    rw [List.foldl_cons]
    exact foldl_hashStep_dvd (b :: bs) (hashStep s a) (List.cons_ne_nil b bs)

/-- **A key's bucket is a multiple of `gcd 8 size`**: `hashmap_calc_hash` ends every round
with `hash *= 8`, so with a bucket count that is a multiple of 8 only one bucket in eight ever
holds an entry. -/
theorem Hashmap.index_gcd_dvd (map : Hashmap) (key : List UInt8) (hkey : 0 < map.keySize)
    (hne : key ≠ []) : Nat.gcd 8 map.size ∣ map.index key := by
  have h8 := foldl_hashStep_dvd (key.take map.keySize) defaultHashVal fun h =>
    (List.take_eq_nil_iff.1 h).elim (by omega) hne
  exact (Nat.dvd_mod_iff (Nat.gcd_dvd_right 8 map.size)).2 (Nat.dvd_trans (Nat.gcd_dvd_left 8 _) h8)

theorem Hashmap.index_gcd_dvd_sixteen :
    0 < (⟨0, 16, 1⟩ : Hashmap).keySize ∧ [7] ≠ ([] : List UInt8) ∧
      Nat.gcd 8 16 ∣ (⟨0, 16, 1⟩ : Hashmap).index [7] :=
  ⟨by decide, by decide, Hashmap.index_gcd_dvd ⟨0, 16, 1⟩ [7] (by decide) (by decide)⟩

/-- Two hashes that have each taken at least one byte agree after ten more equal bytes. -/
theorem foldl_hashStep_ten {p₁ p₂ : List UInt8} (h₁ : p₁ ≠ []) (h₂ : p₂ ≠ []) {s : List UInt8}
    (hs : s.length = 10) (init : UInt32) :
    (p₁ ++ s).foldl hashStep init = (p₂ ++ s).foldl hashStep init := by
  obtain ⟨q₁, b₁, rfl⟩ := (List.eq_nil_or_concat p₁).resolve_left h₁
  obtain ⟨q₂, b₂, rfl⟩ := (List.eq_nil_or_concat p₂).resolve_left h₂
  apply UInt32.toNat.inj
  apply Nat.xor_eq_zero.1
  simp only [List.concat_eq_append, List.foldl_append, List.foldl_cons, List.foldl_nil]
  rw [foldl_hashStep_xor, hs, hashStep_toNat, hashStep_toNat, mul_eight_mod_xor, Nat.mod_mul_mod,
    show ∀ Z : Nat, Z * 8 * 8 ^ 10 = 2 ^ 32 * (2 * Z) from fun Z => by omega]
  exact Nat.mul_mod_right _ _

/-- **Only the last ten of the `key_size` bytes decide the hash.**  Each later byte shifts a
byte three bits further up, so the bytes before the last ten leave the `uint32_t`: keys that
differ only there hash alike, and land in one bucket. -/
theorem hashmapCalcHash_last_ten (key₁ key₂ : List UInt8) {keySize : Nat}
    (h₁ : keySize ≤ key₁.length) (h₂ : keySize ≤ key₂.length)
    (hsuffix : (key₁.take keySize).drop (keySize - 10) = (key₂.take keySize).drop (keySize - 10)) :
    hashmapCalcHash key₁ keySize = hashmapCalcHash key₂ keySize := by
  have e₁ := List.take_append_drop (keySize - 10) (key₁.take keySize)
  have e₂ := List.take_append_drop (keySize - 10) (key₂.take keySize)
  rw [hashmapCalcHash, hashmapCalcHash, ← e₁, ← e₂, hsuffix]
  by_cases hk : keySize ≤ 10
  · simp only [show keySize - 10 = 0 by omega, List.take_zero]
  · have hpre : ∀ key : List UInt8, keySize ≤ key.length →
        (key.take keySize).take (keySize - 10) ≠ [] := fun key h he => by
      have := congrArg List.length he
      simp only [List.length_take, List.length_nil] at this
      omega
    refine foldl_hashStep_ten (hpre key₁ h₁) (hpre key₂ h₂) ?_ _
    simp only [List.length_drop, List.length_take]
    omega

theorem hashmapCalcHash_last_ten_twelve :
    12 ≤ [1, 2, 0, 0, 0, 0, 0, 0, 0, 0, 0, 5].length ∧
      12 ≤ ([3, 4, 0, 0, 0, 0, 0, 0, 0, 0, 0, 5] : List UInt8).length ∧
      ([1, 2, 0, 0, 0, 0, 0, 0, 0, 0, 0, 5].take 12).drop (12 - 10) =
        (([3, 4, 0, 0, 0, 0, 0, 0, 0, 0, 0, 5] : List UInt8).take 12).drop (12 - 10) ∧
      hashmapCalcHash [1, 2, 0, 0, 0, 0, 0, 0, 0, 0, 0, 5] 12 =
        hashmapCalcHash [3, 4, 0, 0, 0, 0, 0, 0, 0, 0, 0, 5] 12 :=
  ⟨by decide, by decide, by decide, hashmapCalcHash_last_ten _ _ (by decide) (by decide)
    (by decide)⟩

/-- Ten is the least such count: the low bits of the eleventh byte from the end survive. -/
example : hashmapCalcHash [0, 1, 0, 0, 0, 0, 0, 0, 0, 0, 0] 11 ≠
    hashmapCalcHash [0, 0, 0, 0, 0, 0, 0, 0, 0, 0, 0] 11 := by decide

end SmartManager.Misc
