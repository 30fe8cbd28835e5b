/-
# `SmartManager.Engine.Helpers` — `mmsm_is_flag_set_in` (`engine/helpers.c`)

hostapd reports flags inside one value, as in `flags=[AUTH][ASSOC][AUTHORIZED]`.
`mmsm_is_flag_set_in(result, key, flag)` looks the key up with `mmsm_find_value_by_key`, writes
`[flag]` into the 1024-byte stack array `wrapped_flag` (`snprintf` of the flag from index 1,
bounded by the array, then `[` at 0, and `]` and the terminating `NUL` at `strlen(flag) + 1` and
`strlen(flag) + 2`, which nothing bounds), and searches the value for it with `strstr`.

`mmsmIsFlagSetIn` models the call with what it can do besides returning: store outside
`wrapped_flag`, or hand `strstr` the `NULL` that `mmsm_find_value_by_key` returns for a key no
item carries (or an item without a value).  `mmsmIsFlagSetIn_outcome` says what it does for every
chain, key and flag: with a flag of at most 1021 bytes it returns whether `[flag]` occurs in the
value of the first item with that key, and faults on `NULL` when there is none; with a longer
flag it stores outside the array.
-/
import SmartManager.Data.MmsmData

namespace SmartManager.Engine

open SmartManager.Data

/-! ## §1 — the C library pieces -/

/-- What a call can do instead of returning: dereference `NULL`, or store at an index outside an
array. -/
inductive CFault where
  | nullPointer
  | outOfBounds (index : Nat)
  deriving DecidableEq, Repr

/-- A C string in memory: its bytes up to the first `NUL`. -/
def cBytes (b : List UInt8) : List UInt8 := b.takeWhile (· ≠ 0)

/-- The offset of the first occurrence of `needle` in `haystack`. -/
def findInfix (needle : List UInt8) : List UInt8 → Option Nat
  | [] => if needle.isPrefixOf [] then some 0 else none
  | c :: cs => if needle.isPrefixOf (c :: cs) then some 0 else (findInfix needle cs).map (· + 1)

/-- `strstr(haystack, needle)`, `NULL` as `none`. -/
def strstr (haystack needle : List UInt8) : Option Nat := findInfix (cBytes needle) (cBytes haystack)

/-- A store of one byte into an array, or a fault outside it. -/
def storeByte (buf : List UInt8) (i : Nat) (b : UInt8) : Except CFault (List UInt8) :=
  if i < buf.length then .ok (buf.set i b) else .error (.outOfBounds i)

/-- `snprintf(&buf[off], size, "%s", s)`: at most `size - 1` bytes of the string and a `NUL`,
from `off`. -/
def snprintfS (buf : List UInt8) (off size : Nat) (s : List UInt8) : List UInt8 :=
  let out := (cBytes s).take (size - 1) ++ [0]
  buf.take off ++ out ++ buf.drop (off + out.length)

theorem findInfix_isSome (needle : List UInt8) :
    ∀ haystack, (findInfix needle haystack).isSome ↔ needle <:+: haystack
  | [] => by
    simp only [findInfix, List.isPrefixOf_iff_prefix, List.prefix_nil, List.infix_nil]
    split_ifs with h <;> simp [h]
  | c :: cs => by
    rw [findInfix, List.infix_cons_iff, ← findInfix_isSome needle cs, ← List.isPrefixOf_iff_prefix]
    split_ifs with h <;> simp [h]

theorem cBytes_ne_zero {b : List UInt8} {x : UInt8} (h : x ∈ cBytes b) : x ≠ 0 := by
  simpa using List.mem_takeWhile_imp h

/-! ## §2 — `mmsm_is_flag_set_in` -/

/-- `sizeof(wrapped_flag)`. -/
def wrappedFlagSize : Nat := 1024

/-- `mmsm_is_flag_set_in(result, key, flag)`; `undef` is the indeterminate content of the stack
array `wrapped_flag`. -/
def mmsmIsFlagSetIn (undef : Fin wrappedFlagSize → UInt8) (result : List MmsmDataItem)
    (key : String) (flag : List UInt8) : Except CFault Bool := do
  let value := mmsmFindValueByKey result key
  let wrappedFlag := snprintfS (List.ofFn undef) 1 (wrappedFlagSize - 1) flag
  -- `'['`, `']'` and `NUL`
  let wrappedFlag ← storeByte wrappedFlag 0 91
  let wrappedFlag ← storeByte wrappedFlag ((cBytes flag).length + 1) 93
  let wrappedFlag ← storeByte wrappedFlag ((cBytes flag).length + 2) 0
  match value with
  | none => .error .nullPointer
  | some v => pure (strstr v wrappedFlag).isSome

theorem snprintfS_length (buf : List UInt8) (flag : List UInt8)
    (hbuf : buf.length = wrappedFlagSize) :
    (snprintfS buf 1 (wrappedFlagSize - 1) flag).length = wrappedFlagSize := by
  have : ((cBytes flag).take 1022).length ≤ 1022 := List.length_take_le _ _
  simp only [snprintfS, List.length_append, List.length_take, List.length_drop, hbuf,
    List.length_singleton, wrappedFlagSize] at *
  omega

/-- With a flag of at most 1021 bytes the three stores stay in the array and leave `[flag]`
followed by `NUL`. -/
theorem wrappedFlag_short {buf : List UInt8} (hbuf : buf.length = wrappedFlagSize)
    {flag : List UInt8} (hL : (cBytes flag).length ≤ 1021) :
    (((snprintfS buf 1 (wrappedFlagSize - 1) flag).set 0 91).set ((cBytes flag).length + 1) 93).set
      ((cBytes flag).length + 2) 0 =
      91 :: (cBytes flag ++ 93 :: 0 :: buf.drop ((cBytes flag).length + 3)) := by
  obtain ⟨b, rest, rfl⟩ := List.exists_cons_of_length_pos (by rw [hbuf]; decide : 0 < buf.length)
  have hrest : (cBytes flag).length + 1 < rest.length := by
    simp only [List.length_cons, wrappedFlagSize] at hbuf; omega
  have htake : (cBytes flag).take (wrappedFlagSize - 1 - 1) = cBytes flag :=
    List.take_of_length_le (by simp only [wrappedFlagSize]; omega)
  have hs : snprintfS (b :: rest) 1 (wrappedFlagSize - 1) flag =
      b :: (cBytes flag ++ 0 :: rest[(cBytes flag).length + 1] ::
        rest.drop ((cBytes flag).length + 2)) := by
    rw [snprintfS, htake, ← List.drop_eq_getElem_cons hrest]
    simp only [List.take_succ_cons, List.take_zero, List.length_append, List.length_singleton,
      List.cons_append, List.nil_append, List.append_assoc, List.singleton_append]
    rw [show 1 + ((cBytes flag).length + 1) = ((cBytes flag).length + 1) + 1 by omega,
      List.drop_succ_cons]
  rw [hs, List.set_cons_zero, List.set_cons_succ, List.set_append_right _ _ (Nat.le_refl _),
    Nat.sub_self, List.set_cons_zero, List.set_cons_succ,
    List.set_append_right _ _ (Nat.le_succ _), Nat.succ_sub (Nat.le_refl _), Nat.sub_self,
    List.set_cons_succ, List.set_cons_zero]
  rfl

theorem cBytes_wrapped (flag rest : List UInt8) :
    cBytes (91 :: (cBytes flag ++ 93 :: 0 :: rest)) = 91 :: cBytes flag ++ [93] := by
  rw [cBytes, List.takeWhile_cons_of_pos (by decide), List.takeWhile_append_of_pos
    (fun x hx => by simpa using cBytes_ne_zero hx)]
  simp

theorem storeByte_of_lt {buf : List UInt8} {i : Nat} (b : UInt8) (h : i < buf.length) :
    storeByte buf i b = .ok (buf.set i b) := if_pos h

theorem storeByte_of_le {buf : List UInt8} {i : Nat} (b : UInt8) (h : buf.length ≤ i) :
    storeByte buf i b = .error (.outOfBounds i) := if_neg (Nat.not_lt.mpr h)

/-- The `do` step after a store that succeeded. -/
theorem except_ok_bind {ε α β : Type} (a : α) (f : α → Except ε β) :
    (Except.ok a >>= f) = f a := rfl

/-- **The flag test.** For every chain, key, flag and content of the stack array: a flag of at
most 1021 bytes gives whether `[flag]` occurs in the value of the first item keyed `key`, and a
fault on `NULL` when there is no such value; a longer flag stores outside `wrapped_flag` before
`strstr` runs. -/
theorem mmsmIsFlagSetIn_outcome (undef : Fin wrappedFlagSize → UInt8) (result : List MmsmDataItem)
    (key : String) (flag : List UInt8) :
    ((cBytes flag).length ≤ 1021 →
      mmsmIsFlagSetIn undef result key flag =
        match mmsmFindValueByKey result key with
        | none => .error .nullPointer
        | some v => .ok (decide ((91 :: cBytes flag ++ [93]) <:+: cBytes v))) ∧
    (1022 ≤ (cBytes flag).length →
      ∃ i, wrappedFlagSize ≤ i ∧ mmsmIsFlagSetIn undef result key flag = .error (.outOfBounds i)) := by
  rw [mmsmIsFlagSetIn]
  have hlen := snprintfS_length (List.ofFn undef) flag (List.length_ofFn _)
  refine ⟨fun hL => ?_, fun hL => ?_⟩
  · rw [storeByte_of_lt _ (by rw [hlen]; decide), except_ok_bind,
      storeByte_of_lt _ (by rw [List.length_set, hlen, wrappedFlagSize]; omega), except_ok_bind,
      storeByte_of_lt _ (by rw [List.length_set, List.length_set, hlen, wrappedFlagSize]; omega),
      except_ok_bind, wrappedFlag_short (List.length_ofFn _) hL]
    cases mmsmFindValueByKey result key with
    | none => rfl
    | some v =>
      simp only [pure, Except.pure, strstr, cBytes_wrapped]
      exact congrArg _ (Bool.eq_iff_iff.mpr ((findInfix_isSome _ _).trans decide_eq_true_iff.symm))
  · rw [storeByte_of_lt _ (by rw [hlen]; decide), except_ok_bind]
    by_cases h1 : (cBytes flag).length + 1 < 1024
    · refine ⟨(cBytes flag).length + 2, by simp only [wrappedFlagSize]; omega, ?_⟩
      rw [storeByte_of_lt _ (by rw [List.length_set, hlen]; exact h1), except_ok_bind,
        storeByte_of_le _ (by rw [List.length_set, List.length_set, hlen, wrappedFlagSize]; omega)]
      rfl
    · refine ⟨(cBytes flag).length + 1, by simp only [wrappedFlagSize]; omega, ?_⟩
      rw [storeByte_of_le _ (by rw [List.length_set, hlen, wrappedFlagSize]; omega)]
      rfl

theorem mmsmIsFlagSetIn_absent_key_long_flag :
    (cBytes [65]).length ≤ 1021 ∧
      mmsmIsFlagSetIn (fun _ => 0) [] "flags" [65] = .error .nullPointer ∧
    1022 ≤ (cBytes (List.replicate 1022 65)).length ∧
      ∃ i, wrappedFlagSize ≤ i ∧
        mmsmIsFlagSetIn (fun _ => 0) [] "flags" (List.replicate 1022 65) = .error (.outOfBounds i) :=
  have hshort : (cBytes [65]).length ≤ 1021 := by decide
  have hlong : 1022 ≤ (cBytes (List.replicate 1022 65)).length := by
    rw [cBytes, List.takeWhile_replicate, if_pos (by decide), List.length_replicate]
  ⟨hshort, (mmsmIsFlagSetIn_outcome _ _ _ _).1 hshort, hlong,
    (mmsmIsFlagSetIn_outcome _ _ _ _).2 hlong⟩

end SmartManager.Engine
