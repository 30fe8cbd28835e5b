/-
# `SmartManager.Backend.Nl80211Request` — an nl80211 request from its arguments to the wire
(`backend/nl80211.c`: `PACK_VA_ARG`, `backend_nl80211_process_request_args`,
`backend_nl80211_sync_command`).

Callers describe a request as variadic arguments, `<cmd> <flags> (<attr> <NLA tag> <value>)* -1`.
`backend_nl80211_process_request_args` turns them into a chain: the command item with the flags
as two bytes, then one item per attribute with the value at the tag's width.
`backend_nl80211_sync_command` puts the command and the flags with `NLM_F_REQUEST` into the
generic netlink header, and each sibling into the message with `nla_put`.

`PACK_VA_ARG` fetches every integer with `va_arg(args, int)` before converting it to the tag's
type.  On the LP64 ABIs the daemon runs on (x86-64, AArch64) a variadic slot is eight bytes and
an `int` is read from its low four, so a `uint64_t` argument arrives as the sign extension of
its low 32 bits.  `NlaArg.vaArg` is that reading; `NlaArg.bytes` is the schema's encoding.

**The result** (`backendNl80211Request_u64_iff`): for every argument list of in-range values
that fits the message, the chain and the message sent are the schema's exactly when every
`NLA_U64` value is below `2^31` or at least `2^64 - 2^31`.
-/
import SmartManager.Backend.Nl80211

namespace SmartManager.Backend

open SmartManager.Data SmartManager.Libc

/-! ## §1 — the arguments a caller passes -/

/-- An attribute value as a caller writes it after its `NLA_*` tag: an unsigned value of the
tag's type, a string, or a length and the bytes it counts. -/
inductive NlaArg where
  | u8 (v : Nat)
  | u16 (v : Nat)
  | u32 (v : Nat)
  | u64 (v : Nat)
  | string (s : String)
  | binary (data : List UInt8)
  deriving DecidableEq, Repr

/-- The value fits its C type (and a binary length its `int`). -/
def NlaArg.InRange : NlaArg → Prop
  | .u8 v => v < 2 ^ 8
  | .u16 v => v < 2 ^ 16
  | .u32 v => v < 2 ^ 32
  | .u64 v => v < 2 ^ 64
  | .string _ => True
  | .binary data => data.length < 2 ^ 31

instance : DecidablePred NlaArg.InRange := fun a => by
  cases a <;> unfold NlaArg.InRange <;> infer_instance

/-- What the argument processor reads for the value: `uint8_t` and `uint16_t` arguments are
promoted to `int`; an `unsigned int` is read as the `int` of the same bits; a `uint64_t` as the
`int` in the low half of its slot. -/
def NlaArg.vaArg : NlaArg → NlaArgValue
  | .u8 v => .u8 v
  | .u16 v => .u16 v
  | .u32 v => .u32 (toInt32 v)
  | .u64 v => .u64 (toInt32 (v % 2 ^ 32))
  | .string s => .string s
  | .binary data => .binary data.length data

/-- The variadic arguments after the flags, for attributes with ids and values. -/
def callerArgs (attrs : List (Nat × NlaArg)) : List (Int × NlaArgValue) :=
  attrs.map fun a => (a.1, a.2.vaArg)

/-! ## §2 — the schema's chain and message -/

/-- The schema's value bytes: the value at the tag's width in host order, the string with its
`NUL`, the given bytes. -/
def NlaArg.bytes : NlaArg → List UInt8
  | .u8 v => leBytes 1 v
  | .u16 v => leBytes 2 v
  | .u32 v => leBytes 4 v
  | .u64 v => leBytes 8 v
  | .string s => s.toUTF8.toList ++ [0]
  | .binary data => data

/-- An `NLA_U64` value the `int` reading keeps. -/
def NlaArg.U64Fits : NlaArg → Prop
  | .u64 v => v < 2 ^ 31 ∨ 2 ^ 64 - 2 ^ 31 ≤ v
  | _ => True

instance : DecidablePred NlaArg.U64Fits := fun a => by
  cases a <;> unfold NlaArg.U64Fits <;> infer_instance

/-- An item of a request chain: an integer key and a value buffer. -/
def requestItem (key : UInt32) (value : List UInt8) : MmsmDataItem := ⟨.u32 key, some value, []⟩

/-- The chain the schema describes: the command keyed item with the flags as two bytes, then
one item per attribute, keyed by its id, with its value bytes. -/
def requestItems (cmd : UInt32) (flags : Int) (attrs : List (Nat × NlaArg)) : List MmsmDataItem :=
  requestItem cmd (leBytes 2 flags) :: attrs.map fun a => requestItem (UInt32.ofNat a.1) a.2.bytes

/-- A generic netlink request as `nl_send_auto` sends it: the `genlmsghdr` command, the
`nlmsg_flags`, and the attribute bytes after the headers. -/
structure GenlRequest where
  cmd : UInt8
  flags : UInt16
  attrs : List UInt8
  deriving DecidableEq, Repr

/-- `NLM_F_REQUEST`. -/
def nlmFRequest : UInt16 := 1

/-- The message the schema describes: the command, the flags with `NLM_F_REQUEST`, and the
attributes in order. -/
def requestMsg (cmd : UInt32) (flags : Int) (attrs : List (Nat × NlaArg)) : GenlRequest :=
  ⟨cmd.toUInt8, u16OfInt flags ||| nlmFRequest, (attrs.map fun a => nlaFrame a.1 a.2.bytes).flatten⟩

/-! ## §3 — `backend_nl80211_sync_command`'s message -/

/-- `NLMSG_HDRLEN + GENL_HDRLEN`, the room the headers take. -/
def genlHdrLen : Nat := 20

/-- `nla_put(msg, attrtype, len, data)` into a message of `msgSize` bytes (libnl's default, the
page size): the attribute is framed after the others when it fits, and dropped (the call's
error is ignored) when it does not.  `nla_type` is the low 16 bits of `attrtype`. -/
def nlaPut (msgSize : Nat) (msg : GenlRequest) (attrType : UInt32) (payload : List UInt8) :
    GenlRequest :=
  if genlHdrLen + msg.attrs.length + nlaAlign (payload.length + 4) ≤ msgSize then
    { msg with attrs := msg.attrs ++ nlaFrame (attrType.toNat % 2 ^ 16) payload }
  else msg

/-- `cur->mmsm_key.d.u32`: the key of an integer-keyed item (the chains here have no other). -/
def keyU32 : MmsmKey → UInt32
  | .u32 v => v
  | .string _ => 0

/-- `memcpy(&cmd_flags, value, 2)`: the first two bytes in host order. -/
def readU16 (b : List UInt8) : UInt16 := UInt16.ofNat ((b.getD 0 0).toNat + 256 * (b.getD 1 0).toNat)

/-- The message `backend_nl80211_sync_command` sends for a command chain. -/
def backendNl80211SyncCommandMsg (msgSize : Nat) : List MmsmDataItem → Option GenlRequest
  | [] => none
  | cmd :: attrs => some (attrs.foldl
      (fun msg it => nlaPut msgSize msg (keyU32 it.mmsmKey) (it.mmsmValue.getD []))
      ⟨(keyU32 cmd.mmsmKey).toUInt8, readU16 (cmd.mmsmValue.getD []) ||| nlmFRequest, []⟩)

/-! ## §4 — bytes of one width -/

theorem uint8_toNat_ofNat (n : Nat) : (UInt8.ofNat n).toNat = n % 2 ^ 8 := rfl

/-- The value little-endian bytes stand for. -/
def leValue : List UInt8 → Nat
  | [] => 0
  | b :: bs => b.toNat + 256 * leValue bs

theorem leValue_range_map (w : Nat) : ∀ n : Nat,
    leValue ((List.range w).map fun i => UInt8.ofNat (n / 2 ^ (8 * i))) = n % 2 ^ (8 * w) := by
  induction w with
  | zero => intro n; simp [leValue, Nat.mod_one]
  | succ w ih =>
    intro n
    have hshift : ∀ i, n / 2 ^ (8 * (i + 1)) = n / 256 / 2 ^ (8 * i) := fun i => by
      rw [Nat.div_div_eq_div_mul, show 2 ^ (8 * (i + 1)) = 256 * 2 ^ (8 * i) by ring]
    rw [List.range_succ_eq_map, List.map_cons, List.map_map]
    simp only [leValue, Function.comp_def, Nat.succ_eq_add_one, hshift, ih, uint8_toNat_ofNat,
      Nat.mul_zero, Nat.pow_zero, Nat.div_one]
    rw [show 8 * (w + 1) = 8 + 8 * w by ring, Nat.pow_add, Nat.mod_mul]

@[simp] theorem length_leBytes (w : Nat) (v : Int) : (leBytes w v).length = w := by
  simp [leBytes]

theorem leValue_leBytes (w : Nat) (v : Int) : leValue (leBytes w v) = (v % 2 ^ (8 * w)).toNat := by
  rw [leBytes, leValue_range_map, Nat.mod_eq_of_lt]
  have h0 : (0 : Int) ≤ v % 2 ^ (8 * w) := Int.emod_nonneg _ (by positivity)
  have h1 : v % 2 ^ (8 * w) < 2 ^ (8 * w) := Int.emod_lt_of_pos _ (by positivity)
  have hc : ((2 ^ (8 * w) : Nat) : Int) = (2 : Int) ^ (8 * w) := by push_cast; rfl
  omega

/-- **Bytes of one width are equal exactly when the values agree modulo `2^(8w)`.** -/
theorem leBytes_eq_iff (w : Nat) (a b : Int) :
    leBytes w a = leBytes w b ↔ a % 2 ^ (8 * w) = b % 2 ^ (8 * w) := by
  constructor
  · intro h
    have := congrArg leValue h
    rw [leValue_leBytes, leValue_leBytes] at this
    have ha : (0 : Int) ≤ a % 2 ^ (8 * w) := Int.emod_nonneg _ (by positivity)
    have hb : (0 : Int) ≤ b % 2 ^ (8 * w) := Int.emod_nonneg _ (by positivity)
    omega
  · intro h; simp only [leBytes, h]

/-- The `int` reading keeps a 64-bit value exactly when it is the sign extension of its low
32 bits. -/
theorem toInt32_low_emod_iff {v : Nat} (hv : v < 2 ^ 64) :
    toInt32 ((v : Int) % 2 ^ 32) % 2 ^ 64 = (v : Int) % 2 ^ 64 ↔ v < 2 ^ 31 ∨ 2 ^ 64 - 2 ^ 31 ≤ v := by
  rw [toInt32, Int.bmod_def]
  split <;> omega

/-! ## §5 — the chain -/

/-- The bytes `PACK_VA_ARG` (or the string and binary cases) stores for a caller's value. -/
def NlaArg.stored (a : NlaArg) : List UInt8 := (packNlaArg a.vaArg).getD []

theorem packNlaArg_vaArg (a : NlaArg) : packNlaArg a.vaArg = some a.stored := by
  cases a <;> rfl

theorem NlaArg.length_stored {a : NlaArg} (h : a.InRange) : a.stored.length = a.bytes.length := by
  cases a with
  | binary data =>
    simp only [NlaArg.stored, NlaArg.vaArg, packNlaArg, Option.getD_some, NlaArg.bytes,
      List.length_take, u32OfInt, uint32_toNat_ofNat]
    simp only [NlaArg.InRange] at h
    omega
  | _ => simp [NlaArg.stored, NlaArg.vaArg, packNlaArg, NlaArg.bytes]

/-- **A value is stored as the schema says exactly when it is not a large `NLA_U64`.** -/
theorem NlaArg.stored_eq_bytes_iff {a : NlaArg} (h : a.InRange) : a.stored = a.bytes ↔ a.U64Fits := by
  cases a with
  | u32 v =>
    simp only [NlaArg.stored, NlaArg.vaArg, packNlaArg, Option.getD_some, NlaArg.bytes,
      NlaArg.U64Fits, iff_true, leBytes_eq_iff, toInt32, show 8 * 4 = 32 from rfl]
    rw [Int.bmod_def]; split <;> omega
  | u64 v =>
    simp only [NlaArg.stored, NlaArg.vaArg, packNlaArg, Option.getD_some, NlaArg.bytes,
      NlaArg.U64Fits, leBytes_eq_iff]
    exact toInt32_low_emod_iff h
  | binary data =>
    simp only [NlaArg.stored, NlaArg.vaArg, packNlaArg, Option.getD_some, NlaArg.bytes,
      NlaArg.U64Fits, iff_true, u32OfInt, uint32_toNat_ofNat]
    simp only [NlaArg.InRange] at h
    exact List.take_of_length_le (by omega)
  | _ => simp [NlaArg.stored, NlaArg.vaArg, packNlaArg, NlaArg.bytes, NlaArg.U64Fits]

/-- `2^31` as a `uint64_t` goes out as `0xffffffff80000000`. -/
example : NlaArg.stored (.u64 (2 ^ 31)) = [0, 0, 0, 128, 255, 255, 255, 255] := by decide

theorem u32OfInt_natCast (n : Nat) : u32OfInt n = UInt32.ofNat n := by
  rw [uint32_eq_iff_toNat_eq, u32OfInt, uint32_toNat_ofNat, uint32_toNat_ofNat]
  omega

/-- The chain the argument processor builds from a caller's arguments. -/
theorem backendNl80211ProcessRequestArgs_callerArgs (cmd : UInt32) (flags : Int)
    (attrs : List (Nat × NlaArg)) (x : NlaArgValue) (tail : List (Int × NlaArgValue)) :
    backendNl80211ProcessRequestArgs cmd flags (callerArgs attrs ++ (-1, x) :: tail) =
      some (requestItem cmd (leBytes 2 flags) ::
        attrs.map fun a => requestItem (UInt32.ofNat a.1) a.2.stored) := by
  have htake : (callerArgs attrs ++ (-1, x) :: tail).takeWhile (·.1 ≠ -1) = callerArgs attrs := by
    rw [List.takeWhile_append_of_pos (by simp [callerArgs]; omega),
      List.takeWhile_cons_of_neg (by simp), List.append_nil]
  rw [backendNl80211ProcessRequestArgs, htake]
  suffices h : ∀ attrs : List (Nat × NlaArg), (callerArgs attrs).foldr
      (fun a rest => do
        let v ← packNlaArg a.2
        let r ← rest
        pure ({ mmsmDataItemAlloc with mmsmKey := .u32 (u32OfInt a.1), mmsmValue := some v } :: r))
      (some []) = some (attrs.map fun a => requestItem (UInt32.ofNat a.1) a.2.stored) by
    rw [h]; rfl
  intro attrs
  induction attrs with
  | nil => rfl
  | cons a as ih =>
    simp only [callerArgs, List.map_cons, List.foldr_cons] at ih ⊢
    rw [ih, packNlaArg_vaArg, u32OfInt_natCast]
    rfl

/-! ## §6 — the message -/

theorem readU16_leBytes (v : Int) : readU16 (leBytes 2 v) = u16OfInt v := by
  have h0 : (0 : Int) ≤ v % 2 ^ 16 := Int.emod_nonneg _ (by decide)
  have h1 : v % 2 ^ 16 < 2 ^ 16 := Int.emod_lt_of_pos _ (by decide)
  simp only [readU16, leBytes, u16OfInt, List.range_succ, List.range_zero, List.nil_append,
    List.singleton_append, List.map_cons, List.map_nil, List.getD_cons_zero, List.getD_cons_succ,
    uint8_toNat_ofNat]
  congr 1
  omega

/-- Frames of payloads of one length are equal exactly when the payloads are. -/
theorem nlaFrame_inj {ty : Nat} {p q : List UInt8} (h : p.length = q.length) :
    nlaFrame ty p = nlaFrame ty q ↔ p = q := by
  refine ⟨fun hf => ?_, fun hpq => hpq ▸ rfl⟩
  simp only [nlaFrame, h] at hf
  exact List.append_cancel_left (List.append_inj_left' hf rfl)

theorem flatten_map_eq_iff {l : List (Nat × NlaArg)} {f g : Nat × NlaArg → List UInt8}
    (h : ∀ a ∈ l, (f a).length = (g a).length) :
    (l.map f).flatten = (l.map g).flatten ↔ ∀ a ∈ l, f a = g a := by
  induction l with
  | nil => simp
  | cons a l ih =>
    simp only [List.map_cons, List.flatten_cons, List.forall_mem_cons]
    rw [← ih fun b hb => h b (List.mem_cons_of_mem _ hb)]
    exact ⟨fun he => List.append_inj he (h a (List.mem_cons_self _ _)),
      fun ⟨ha, hl⟩ => by rw [ha, hl]⟩

/-- **The `nla_put` loop**: attributes that fit are framed one after the other, each with the
low 16 bits of its id as type. -/
theorem syncCommandAttrs_foldl (msgSize : Nat) :
    ∀ (attrs : List (Nat × NlaArg)) (msg : GenlRequest), (∀ a ∈ attrs, a.1 < 2 ^ 16) →
      genlHdrLen + msg.attrs.length + (attrs.map fun a => nlaAlign (a.2.stored.length + 4)).sum ≤
        msgSize →
      (attrs.map fun a => requestItem (UInt32.ofNat a.1) a.2.stored).foldl
          (fun msg it => nlaPut msgSize msg (keyU32 it.mmsmKey) (it.mmsmValue.getD [])) msg =
        { msg with attrs := msg.attrs ++ (attrs.map fun a => nlaFrame a.1 a.2.stored).flatten }
  | [], msg, _, _ => by simp
  | a :: attrs, msg, hid, hfit => by
    have ha : (UInt32.ofNat a.1).toNat % 2 ^ 16 = a.1 := by
      have := hid a (List.mem_cons_self _ _)
      rw [uint32_toNat_ofNat]; omega
    simp only [List.map_cons, List.sum_cons] at hfit
    have hput : nlaPut msgSize msg (UInt32.ofNat a.1) a.2.stored =
        { msg with attrs := msg.attrs ++ nlaFrame a.1 a.2.stored } := by
      rw [nlaPut, if_pos (by omega), ha]
    have hlen := nlaFrame_length a.2.stored a.1
    rw [List.map_cons, List.foldl_cons]
    show List.foldl _ (nlaPut msgSize msg (UInt32.ofNat a.1) a.2.stored) _ = _
    rw [hput, syncCommandAttrs_foldl msgSize attrs _ (fun b hb => hid b (List.mem_cons_of_mem _ hb))
      (by simp only [List.length_append, hlen]; omega)]
    simp

/-- **From arguments to the wire.** For every command, flags and list of attributes with values
in range, ids of 16 bits and a size that fits the message, the chain
`backend_nl80211_process_request_args` builds and the message `backend_nl80211_sync_command`
sends are the schema's exactly when every `NLA_U64` value is below `2^31` or at least
`2^64 - 2^31`. -/
theorem backendNl80211Request_u64_iff (msgSize : Nat) (cmd : UInt32) (flags : Int)
    (attrs : List (Nat × NlaArg)) (hid : ∀ a ∈ attrs, a.1 < 2 ^ 16) (hv : ∀ a ∈ attrs, a.2.InRange)
    (hfit : genlHdrLen + (attrs.map fun a => nlaAlign (a.2.bytes.length + 4)).sum ≤ msgSize)
    (x : NlaArgValue) (tail : List (Int × NlaArgValue)) :
    (backendNl80211ProcessRequestArgs cmd flags (callerArgs attrs ++ (-1, x) :: tail) =
        some (requestItems cmd flags attrs) ↔ ∀ a ∈ attrs, a.2.U64Fits) ∧
    ((backendNl80211ProcessRequestArgs cmd flags (callerArgs attrs ++ (-1, x) :: tail)).bind
        (backendNl80211SyncCommandMsg msgSize) = some (requestMsg cmd flags attrs) ↔
      ∀ a ∈ attrs, a.2.U64Fits) := by
  have hstored : (∀ a ∈ attrs, a.2.stored = a.2.bytes) ↔ ∀ a ∈ attrs, a.2.U64Fits :=
    forall₂_congr fun a ha => NlaArg.stored_eq_bytes_iff (hv a ha)
  have hsum : (attrs.map fun a => nlaAlign (a.2.stored.length + 4)) =
      attrs.map fun a => nlaAlign (a.2.bytes.length + 4) :=
    List.map_congr_left fun a ha => by rw [NlaArg.length_stored (hv a ha)]
  rw [backendNl80211ProcessRequestArgs_callerArgs, ← hstored]
  constructor
  · simp [requestItems, requestItem]
  · rw [Option.some_bind, backendNl80211SyncCommandMsg, syncCommandAttrs_foldl msgSize attrs _ hid
      (by rw [hsum]; simpa using hfit)]
    simp only [requestMsg, requestItem, keyU32, Option.getD_some, readU16_leBytes, List.nil_append,
      Option.some.injEq, GenlRequest.mk.injEq, true_and]
    rw [flatten_map_eq_iff fun a ha => by rw [nlaFrame_length, nlaFrame_length,
      NlaArg.length_stored (hv a ha)]]
    exact forall₂_congr fun a ha => nlaFrame_inj (NlaArg.length_stored (hv a ha))

theorem backendNl80211Request_u64_2pow31 :
    (∀ a ∈ [(3, NlaArg.u64 (2 ^ 31))], a.1 < 2 ^ 16) ∧
      (∀ a ∈ [(3, NlaArg.u64 (2 ^ 31))], a.2.InRange) ∧
      genlHdrLen + ([(3, NlaArg.u64 (2 ^ 31))].map fun a => nlaAlign (a.2.bytes.length + 4)).sum ≤
        4096 ∧
      backendNl80211ProcessRequestArgs 5 0 (callerArgs [(3, .u64 (2 ^ 31))] ++ [(-1, .other 0)]) ≠
        some (requestItems 5 0 [(3, .u64 (2 ^ 31))]) :=
  ⟨by decide, by decide, by decide, fun h => absurd
    ((backendNl80211Request_u64_iff 4096 5 0 _ (by decide) (by decide) (by decide) (.other 0) []).1.mp h)
    (by decide)⟩

end SmartManager.Backend
