/-
# `SmartManager.Backend.Morsectrl` — the morsectrl backend (`backend/morsectrl.c`,
`backend/morsectrl/command.h`, `backend/morsectrl/vendor.h`)

A morsectrl request carries commands for the Morse Micro firmware.
`backend_morsectrl_process_request_args` packs each command into a request record: a header of
16-bit little-endian fields `message_id`, `len`, `flags`, then `len` bytes of body.  It chains one
item per command, keyed by the command id.  `backend_morsectrl_sync_command` sends each record as
the vendor data of an `NL80211_CMD_VENDOR` request over the nl80211 backend.  It reads the vendor
data of the reply as a response record: the header, a 32-bit `status`, and the data.

The header is declared in `morse_commands.h`, which is not among the sources.  The model follows the
specification's layout: `request{hdr{message_id, len, flags}, data[len]}` and
`response{hdr{message_id, len, flags}, status, data[len]}`.  The value of `MORSE_CMD_TYPE_REQ`
is a parameter of the definitions that write it.

* `backendMorsectrlProcessRequestArgs_decode`: the records decode to the commands, with the id and
  the length cut to 16 bits.
* `backendMorsectrlSyncCommand_eq`: the outcome of the sync command in closed form.  The first
  `NULL` reply ends it with `MMSM_UNKNOWN_ERROR`.  A reply without vendor data is skipped.  A
  non-zero status, of which only the low 16 bits count, makes it `MMSM_COMMAND_FAILED`.  The
  response is read through the `struct response` layout with no check of the vendor data's
  length, so a record shorter than the header and status, or than the `hdr.len` bytes of data
  copied after them, is read past its end: the model stops there (`morsectrlResponseItem`).
* `mmsmRequest_morsectrl_nl80211`: a whole morsectrl request over nl80211, from the commands to
  the items `mmsm_request` returns, for response records that hold what is read from them.
-/
import SmartManager.Backend.Nl80211Sync
import SmartManager.Dcs.Events

namespace SmartManager.Backend

open SmartManager.Data SmartManager.Libc SmartManager.Dcs

/-! ## §1 — request records -/

/-- `NL80211_ATTR_IFINDEX`. -/
def nl80211AttrIfindex : UInt32 := 3

/-- `MORSE_VENDOR_CMD_TO_MORSE` (`vendor.h`). -/
def morseVendorCmdToMorse : UInt32 := 0

/-- One command of the variadic arguments, `<command id> <command length> <pointer to command
body>`, with the bytes the pointer points to. -/
structure MorsectrlArg where
  commandId : Int
  cmdLen : Int
  cmdReq : List UInt8
  deriving DecidableEq, Repr

/-- The request record `calloc`ed for a command: `hdr.message_id`, `hdr.len` and `hdr.flags` as
`htole16` stores them, then the `cmd_len` bytes `memcpy` copies from the body. -/
def morsectrlRequestRecord (morseCmdTypeReq : UInt16) (commandId : Int) (cmdLen : UInt16)
    (cmdReq : List UInt8) : List UInt8 :=
  leBytes 2 commandId ++ leBytes 2 cmdLen.toNat ++ leBytes 2 morseCmdTypeReq.toNat ++
    cmdReq.take cmdLen.toNat

/-- The item for a command: keyed by its id (`mmsm_data_item_set_key_u32`), valued with its
record; `cmd_len` is read as `(uint16_t) va_arg(args, int)`. -/
def morsectrlRequestItem (morseCmdTypeReq : UInt16) (a : MorsectrlArg) : MmsmDataItem :=
  { mmsmDataItemAlloc with
    mmsmKey := .u32 (u32OfInt a.commandId)
    mmsmValue := some (morsectrlRequestRecord morseCmdTypeReq a.commandId (u16OfInt a.cmdLen)
      a.cmdReq) }

/-- `backend_morsectrl_process_request_args`: one item per command before the `-1`, in order;
`NULL` when the first id is `-1`. -/
def backendMorsectrlProcessRequestArgs (morseCmdTypeReq : UInt16) (args : List MorsectrlArg) :
    Option (List MmsmDataItem) :=
  match args.takeWhile (·.commandId ≠ -1) with
  | [] => none
  | cmds => some (cmds.map (morsectrlRequestItem morseCmdTypeReq))

/-! ## §2 — what a request record says -/

/-- A command as a request record carries it: the message id, the flags, and the data, whose
length is the header's `len`. -/
structure MorseRequest where
  messageId : UInt16
  flags : UInt16
  data : List UInt8
  data_fits : data.length < 2 ^ 16

/-- The record of a command. -/
def MorseRequest.encode (r : MorseRequest) : List UInt8 :=
  leBytes 2 r.messageId.toNat ++ leBytes 2 r.data.length ++ leBytes 2 r.flags.toNat ++ r.data

/-- Reading a record: the header, and the data when exactly `len` bytes follow the header. -/
def decodeMorseRequest (b : List UInt8) : Option MorseRequest :=
  if h : (b.drop 6).length = (readU16 (b.drop 2)).toNat then
    some ⟨readU16 b, readU16 (b.drop 4), b.drop 6, h ▸ (readU16 (b.drop 2)).toNat_lt_size⟩
  else none

theorem u16OfInt_toNat (x : UInt16) : u16OfInt x.toNat = x := by
  have hx : x.toNat < 2 ^ 16 := x.toNat_lt_size
  apply UInt16.toNat.inj
  show ((x.toNat : Int) % 2 ^ 16).toNat % 2 ^ 16 = x.toNat
  omega

theorem readU16_append : ∀ {a : List UInt8}, a.length = 2 → ∀ rest, readU16 (a ++ rest) = readU16 a
  | [_, _], _, _ => rfl

theorem readU16_leBytes_append (v : Int) (rest : List UInt8) :
    readU16 (leBytes 2 v ++ rest) = u16OfInt v :=
  (readU16_append (length_leBytes 2 v) rest).trans (readU16_leBytes v)

/-- **The record format round-trips.** -/
theorem decodeMorseRequest_encode (r : MorseRequest) : decodeMorseRequest r.encode = some r := by
  have h2 : r.encode.drop 2 = leBytes 2 r.data.length ++ leBytes 2 r.flags.toNat ++ r.data := by
    rw [MorseRequest.encode, List.append_assoc, List.append_assoc, List.drop_left' (by simp),
      List.append_assoc]
  have h4 : r.encode.drop 4 = leBytes 2 r.flags.toNat ++ r.data := by
    rw [MorseRequest.encode, List.append_assoc, List.append_assoc,
      show (4 : Nat) = 2 + 2 from rfl, ← List.drop_drop, List.drop_left' (by simp),
      List.drop_left' (by simp)]
  have h6 : r.encode.drop 6 = r.data := by
    rw [MorseRequest.encode, List.drop_left' (by simp)]
  have hlen : (readU16 (r.encode.drop 2)).toNat = r.data.length := by
    rw [h2, List.append_assoc, readU16_leBytes_append]
    show ((r.data.length : Int) % 2 ^ 16).toNat % 2 ^ 16 = _
    have := r.data_fits
    omega
  have hid : readU16 r.encode = r.messageId := by
    rw [MorseRequest.encode, List.append_assoc, List.append_assoc, readU16_leBytes_append,
      u16OfInt_toNat]
  have hfl : readU16 (r.encode.drop 4) = r.flags := by
    rw [h4, readU16_leBytes_append, u16OfInt_toNat]
  rw [decodeMorseRequest, dif_pos (h6 ▸ hlen.symm)]
  simp only [hid, hfl, h6]

/-- The record `process_request_args` builds is the encoding of the command it was given, with the
id cut to 16 bits, when the body holds the `cmd_len` bytes copied from it. -/
theorem morsectrlRequestRecord_eq (morseCmdTypeReq : UInt16) (commandId : Int) (cmdLen : UInt16)
    (cmdReq : List UInt8) (hbody : cmdLen.toNat ≤ cmdReq.length) :
    morsectrlRequestRecord morseCmdTypeReq commandId cmdLen cmdReq =
      MorseRequest.encode ⟨u16OfInt commandId, morseCmdTypeReq, cmdReq.take cmdLen.toNat,
        by rw [List.length_take]; exact lt_of_le_of_lt (min_le_left _ _) cmdLen.toNat_lt_size⟩ := by
  have hid : leBytes 2 commandId = leBytes 2 (u16OfInt commandId).toNat := by
    rw [leBytes_eq_iff]
    show commandId % 2 ^ 16 = (((commandId % 2 ^ 16).toNat % 2 ^ 16 : Nat) : Int) % 2 ^ 16
    have h0 : (0 : Int) ≤ commandId % 2 ^ 16 := Int.emod_nonneg _ (by decide)
    have h1 : commandId % 2 ^ 16 < 2 ^ 16 := Int.emod_lt_of_pos _ (by decide)
    omega
  simp only [morsectrlRequestRecord, MorseRequest.encode, List.length_take, min_eq_left hbody]
  rw [hid]

/-- **`backend_morsectrl_process_request_args` round-trips.**  Take the commands before the
`-1`, each with a body holding the `cmd_len` bytes copied from it.  The chain holds one item per
command, in order, keyed by the command id.  Its value decodes to the command: the id and the
flags `MORSE_CMD_TYPE_REQ`, and the body cut to `cmd_len`, where both the id in the header and
`cmd_len` are cut to 16 bits. -/
theorem backendMorsectrlProcessRequestArgs_decode (morseCmdTypeReq : UInt16)
    (args : List MorsectrlArg)
    (hbody : ∀ a ∈ args.takeWhile (·.commandId ≠ -1), (u16OfInt a.cmdLen).toNat ≤ a.cmdReq.length) :
    ((backendMorsectrlProcessRequestArgs morseCmdTypeReq args).getD []).map
        (fun item => (item.mmsmKey,
          (item.mmsmValue.bind decodeMorseRequest).map fun r => (r.messageId, r.flags, r.data))) =
      (args.takeWhile (·.commandId ≠ -1)).map fun a =>
        (.u32 (u32OfInt a.commandId),
          some (u16OfInt a.commandId, morseCmdTypeReq, a.cmdReq.take (u16OfInt a.cmdLen).toNat)) := by
  have hitems : ((backendMorsectrlProcessRequestArgs morseCmdTypeReq args).getD []) =
      (args.takeWhile (·.commandId ≠ -1)).map (morsectrlRequestItem morseCmdTypeReq) := by
    rw [backendMorsectrlProcessRequestArgs]
    split <;> simp_all
  rw [hitems, List.map_map]
  refine List.map_congr_left fun a ha => ?_
  simp only [Function.comp_apply, morsectrlRequestItem, Option.some_bind,
    morsectrlRequestRecord_eq _ _ _ _ (hbody a ha), decodeMorseRequest_encode, Option.map_some']

/-- Two commands; the length `65537` of the second goes out as `1`. -/
def twoCommands : List MorsectrlArg := [⟨5, 2, [1, 2]⟩, ⟨0x10009, 65537, [9]⟩, ⟨-1, 0, []⟩]

theorem backendMorsectrlProcessRequestArgs_twoCommands :
    (∀ a ∈ twoCommands.takeWhile (·.commandId ≠ -1), (u16OfInt a.cmdLen).toNat ≤ a.cmdReq.length) ∧
    ((backendMorsectrlProcessRequestArgs 1 twoCommands).getD []).map
        (fun item => (item.mmsmKey,
          (item.mmsmValue.bind decodeMorseRequest).map fun r => (r.messageId, r.flags, r.data))) =
      (twoCommands.takeWhile (·.commandId ≠ -1)).map fun a =>
        (.u32 (u32OfInt a.commandId),
          some (u16OfInt a.commandId, (1 : UInt16), a.cmdReq.take (u16OfInt a.cmdLen).toNat)) :=
  have hbody : ∀ a ∈ twoCommands.takeWhile (·.commandId ≠ -1),
      (u16OfInt a.cmdLen).toNat ≤ a.cmdReq.length := by
    decide
  ⟨hbody, backendMorsectrlProcessRequestArgs_decode 1 twoCommands hbody⟩

/-! ## §3 — the sync command -/

/-- The vendor request for a command item (`mmsm_request(morsectrl->nl80211_intf,
NL80211_CMD_VENDOR, 0, …, -1)`): the interface index, the Morse OUI, `TO_MORSE`, and the item's
value as binary vendor data.  `uint32_t` arguments are read back as `int`. -/
def morsectrlVendorArgs (ifnum : UInt32) (item : MmsmDataItem) : List (Int × NlaArgValue) :=
  [(nl80211AttrIfindex.toNat, .u32 (toInt32 ifnum.toNat)),
    (nl80211AttrVendorId.toNat, .u32 morseOui.toNat),
    (nl80211AttrVendorSubcmd.toNat, .u32 morseVendorCmdToMorse.toNat),
    (nl80211AttrVendorData.toNat,
      .binary (toInt32 (item.mmsmValue.getD []).length) (item.mmsmValue.getD []))]

/-- `le16toh(resp->status)` stored in `int16_t ret`: the low 16 bits of the 32-bit status that
follows the header. -/
def morsectrlStatus (resp : List UInt8) : UInt16 := (readU32 (resp.drop 6)).toUInt16

/-- `hdr.len` of a response record. -/
def morsectrlDataLen (resp : List UInt8) : Nat := (readU16 (resp.drop 2)).toNat

/-- The response record holds what the loop reads from it: the header and the status, and, when
the status is zero, the `hdr.len` bytes of data that `mmsm_data_item_set_val_bytes` copies. -/
def MorsectrlRecordFits (resp : List UInt8) : Prop :=
  10 ≤ resp.length ∧ (morsectrlStatus resp = 0 → 10 + morsectrlDataLen resp ≤ resp.length)

instance : DecidablePred MorsectrlRecordFits := fun _ => inferInstanceAs (Decidable (_ ∧ _))

/-- The item for the vendor data of a response: keyed by `hdr.message_id`; when the status is
zero, valued with the `hdr.len` bytes of data after the status.  The vendor data is the payload
of an attribute; when it is shorter than what is read from it, the read goes past its end and
the model stops there (`none`). -/
def morsectrlResponseItem (resp : List UInt8) : Option MmsmDataItem :=
  if MorsectrlRecordFits resp then
    let iter : MmsmDataItem := { mmsmDataItemAlloc with mmsmKey := .u32 (readU16 resp).toUInt32 }
    some (if morsectrlStatus resp = 0 then iter.setValBytes (resp.drop 10) (morsectrlDataLen resp)
      else iter)
  else none

/-- **The response item reads exactly the record.**  A record that holds what is read gives the
item keyed by its message id, valued when its status is zero with the `hdr.len` bytes of data
after the status; a shorter one is read past its end. -/
theorem morsectrlResponseItem_eq (resp : List UInt8) :
    morsectrlResponseItem resp = if MorsectrlRecordFits resp then
      some { mmsmDataItemAlloc with
        mmsmKey := .u32 (readU16 resp).toUInt32
        mmsmValue := if morsectrlStatus resp = 0 ∧ morsectrlDataLen resp ≠ 0 then
          some ((resp.drop 10).take (morsectrlDataLen resp)) else none }
    else none := by
  unfold morsectrlResponseItem
  split_ifs with hfit h0 hv hv <;> simp_all [MmsmDataItem.setValBytes, mmsmDataItemAlloc]

/-- The loop of `backend_morsectrl_sync_command` over the command items, with the error and the
result so far.  `request` is the nl80211 `mmsm_request`: the reply chain (`[]` for `NULL`), or
`none` while it has not returned; a response read past its end stops the model (`none`). -/
def morsectrlSyncLoop (request : List (Int × NlaArgValue) → Option (List MmsmDataItem))
    (ifnum : UInt32) : MmsmErrorCode → List MmsmDataItem → List MmsmDataItem →
      Option (MmsmErrorCode × List MmsmDataItem)
  | err, result, [] => some (err, result)
  | err, result, item :: command => (request (morsectrlVendorArgs ifnum item)).bind fun
    | [] => some (.unknownError, result)
    | respItem :: _ =>
      match mmsmFindValueByIntkey respItem.mmsmSubValues nl80211AttrVendorData with
      | none => morsectrlSyncLoop request ifnum err result command
      | some resp => (morsectrlResponseItem resp).bind fun iter =>
          morsectrlSyncLoop request ifnum (if morsectrlStatus resp = 0 then err else .commandFailed)
            (result ++ [iter]) command

/-- `backend_morsectrl_sync_command`, for the interface index `if_nametoindex` gave. -/
def backendMorsectrlSyncCommand (request : List (Int × NlaArgValue) → Option (List MmsmDataItem))
    (ifnum : UInt32) (command : List MmsmDataItem) : Option (MmsmErrorCode × List MmsmDataItem) :=
  morsectrlSyncLoop request ifnum .success [] command

/-- The vendor data of a reply chain: the `NL80211_ATTR_VENDOR_DATA` value among the sub-values of
its first entry. -/
def replyVendorData : List MmsmDataItem → Option (List UInt8)
  | [] => none
  | respItem :: _ => mmsmFindValueByIntkey respItem.mmsmSubValues nl80211AttrVendorData

section SyncLoop

variable (request : List (Int × NlaArgValue) → Option (List MmsmDataItem)) (ifnum : UInt32)
  (reply : MmsmDataItem → List MmsmDataItem)

/-- The command items sent before the first `NULL` reply, and that one. -/
def servedItems (command : List MmsmDataItem) : List MmsmDataItem :=
  command.takeWhile fun item => !(reply item).isEmpty

/-- The vendor data of the replies to the served items, in order. -/
def servedData (command : List MmsmDataItem) : List (List UInt8) :=
  (servedItems reply command).filterMap fun item => replyVendorData (reply item)

/-- The loop in closed form, from any error and result so far: it ends with
`MMSM_UNKNOWN_ERROR` when some reply is `NULL`, and otherwise keeps its error unless a status is
non-zero; it appends one item per reply with vendor data, and stops when one of them is read past
its end. -/
theorem morsectrlSyncLoop_eq : ∀ (command : List MmsmDataItem) (err : MmsmErrorCode)
    (result : List MmsmDataItem),
    (∀ item ∈ command, request (morsectrlVendorArgs ifnum item) = some (reply item)) →
    morsectrlSyncLoop request ifnum err result command =
      ((servedData reply command).mapM morsectrlResponseItem).map fun items =>
        (if (servedItems reply command).length < command.length then .unknownError
          else if (servedData reply command).all (morsectrlStatus · = 0) then err
          else .commandFailed,
          result ++ items)
  | [], err, result, _ => by
    rw [servedData, servedItems, List.takeWhile_nil, List.filterMap_nil, List.mapM_nil]
    simp [morsectrlSyncLoop]
  | item :: command, err, result, hret => by
    have ih := morsectrlSyncLoop_eq command
    have hrest := fun i hi => hret i (List.mem_cons_of_mem _ hi)
    rw [morsectrlSyncLoop, hret item (List.mem_cons_self _ _), Option.some_bind]
    cases hr : reply item with
    | nil =>
      have hserved : servedItems reply (item :: command) = [] := by simp [servedItems, hr]
      rw [servedData, hserved, List.filterMap_nil, List.mapM_nil]
      simp
    | cons respItem rs =>
      have hserved : servedItems reply (item :: command) = item :: servedItems reply command := by
        simp [servedItems, hr]
      have hdata : servedData reply (item :: command) =
          (mmsmFindValueByIntkey respItem.mmsmSubValues nl80211AttrVendorData).toList ++
            servedData reply command := by
        simp only [servedData, hserved, List.filterMap_cons, replyVendorData, hr]
        cases mmsmFindValueByIntkey respItem.mmsmSubValues nl80211AttrVendorData <;> rfl
      simp only [hserved, hdata, List.length_cons, Nat.add_lt_add_iff_right]
      cases hv : mmsmFindValueByIntkey respItem.mmsmSubValues nl80211AttrVendorData with
      | none => exact ih err result hrest
      | some resp =>
        dsimp only
        rw [Option.toList_some, List.singleton_append, List.mapM_cons]
        cases hi : morsectrlResponseItem resp with
        | none => rfl
        | some iter =>
          rw [Option.some_bind, ih _ _ hrest]
          cases (servedData reply command).mapM morsectrlResponseItem <;>
            by_cases hs : morsectrlStatus resp = 0 <;> simp [hs]

end SyncLoop

/-- **`backend_morsectrl_sync_command`, exactly.**  When every vendor request returns, the
command sends the items up to the first one whose reply is `NULL`.  It returns
`MMSM_UNKNOWN_ERROR` if there is such a reply.  Otherwise it returns `MMSM_COMMAND_FAILED` when
some response has a status whose low 16 bits are not zero, and `MMSM_SUCCESS` if not.  Its
result holds one item per reply carrying vendor data, in order; a reply without vendor data
adds nothing.  A response record shorter than what is read from it is read past its end, and
the model stops there. -/
theorem backendMorsectrlSyncCommand_eq
    (request : List (Int × NlaArgValue) → Option (List MmsmDataItem)) (ifnum : UInt32)
    (reply : MmsmDataItem → List MmsmDataItem) (command : List MmsmDataItem)
    (hret : ∀ item ∈ command, request (morsectrlVendorArgs ifnum item) = some (reply item)) :
    backendMorsectrlSyncCommand request ifnum command =
      (((command.takeWhile fun item => !(reply item).isEmpty).filterMap
          fun item => replyVendorData (reply item)).mapM morsectrlResponseItem).map fun items =>
        (if (command.takeWhile fun item => !(reply item).isEmpty).length < command.length then
            .unknownError
          else if ((command.takeWhile fun item => !(reply item).isEmpty).filterMap
              fun item => replyVendorData (reply item)).all (morsectrlStatus · = 0) then .success
          else .commandFailed,
          items) := by
  rw [backendMorsectrlSyncCommand, morsectrlSyncLoop_eq request ifnum reply command .success [] hret]
  rfl

/-- Two commands whose first vendor request returns `NULL`. -/
theorem backendMorsectrlSyncCommand_null_reply :
    (∀ item ∈ [mmsmDataItemAlloc, mmsmDataItemAlloc],
      (fun _ => some []) (morsectrlVendorArgs 7 item) = some ((fun _ => ([] : List MmsmDataItem)) item)) ∧
    backendMorsectrlSyncCommand (fun _ => some []) 7 [mmsmDataItemAlloc, mmsmDataItemAlloc] =
      some (.unknownError, []) :=
  ⟨fun _ _ => rfl, backendMorsectrlSyncCommand_eq (fun _ => some []) 7 (fun _ => []) _ fun _ _ => rfl⟩

/-! ## §4 — a morsectrl request over nl80211 -/

/-- The nl80211 backend's `mmsm_request` for vendor requests, with the calls the kernel's reply to
each request takes. -/
def nl80211VendorRequest (kernel : List (Int × NlaArgValue) → List (List SyncMsg))
    (nlArgs : List (Int × NlaArgValue)) : Option (List MmsmDataItem) :=
  mmsmRequest (backendNl80211ProcessRequestArgs nl80211CmdVendor 0 nlArgs)
    (fun _ => backendNl80211SyncCommand ⟨true, true, true, kernel nlArgs⟩)

theorem backendNl80211ProcessRequestArgs_morsectrlVendorArgs (ifnum : UInt32)
    (item : MmsmDataItem) :
    (backendNl80211ProcessRequestArgs nl80211CmdVendor 0 (morsectrlVendorArgs ifnum item)).isSome :=
  rfl

/-- A vendor request the kernel answers with one message and an ack returns the message's entry,
whose vendor data is the value of the message's first `VENDOR_DATA` attribute. -/
theorem replyVendorData_nl80211 {kernel : List (Int × NlaArgValue) → List (List SyncMsg)}
    {ifnum : UInt32} {item : MmsmDataItem} {c : UInt8} {attrs : List NlAttr}
    (hk : (kernel (morsectrlVendorArgs ifnum item)).flatten = [.valid ⟨c, encodeAttrs attrs⟩, .ack]) :
    ∃ reply, nl80211VendorRequest kernel (morsectrlVendorArgs ifnum item) = some reply ∧
      reply ≠ [] ∧ replyVendorData reply =
        (attrs.find? fun a => a.attrType == nl80211AttrVendorData.toNat).bind fun a =>
          if a.payload.length = 0 then none else some a.payload := by
  refine ⟨_, @mmsmRequest_nl80211_of_reply _
    (backendNl80211ProcessRequestArgs_morsectrlVendorArgs _ _) _ [.valid ⟨c, encodeAttrs attrs⟩] .ack
    0 (fun _ hm => by rw [List.mem_singleton.1 hm]; rfl) rfl le_rfl hk, by simp [validEntries], ?_⟩
  rw [if_neg (lt_irrefl 0)]
  exact mmsmFindValueByIntkey_encodeAttrs attrs nl80211AttrVendorData

/-- A response item is read within its record exactly when the record holds what is read. -/
theorem morsectrlResponseItem_isSome {resp : List UInt8} (h : MorsectrlRecordFits resp) :
    (morsectrlResponseItem resp).isSome := by
  rw [morsectrlResponseItem_eq, if_pos h]
  rfl

/-- `mapM` in `Option` succeeds on a list whose every element succeeds. -/
theorem mapM_isSome {α β : Type} {f : α → Option β} :
    ∀ {l : List α}, (∀ x ∈ l, (f x).isSome) → ∃ ys, l.mapM f = some ys
  | [], _ => ⟨[], rfl⟩
  | x :: l, h => by
    obtain ⟨y, hy⟩ := Option.isSome_iff_exists.1 (h x (List.mem_cons_self x l))
    obtain ⟨ys, hys⟩ := mapM_isSome fun z hz => h z (List.mem_cons_of_mem x hz)
    exact ⟨y :: ys, by rw [List.mapM_cons, hy, hys]; rfl⟩

/-- **A morsectrl request over nl80211, end to end.**  Take commands whose bodies hold their
`cmd_len` bytes.  Suppose the kernel answers the vendor request of each command with one message
and an ack, and the first `VENDOR_DATA` attribute of that message holds a response record that
holds what is read from it: the header, the status and, when the status is zero, `hdr.len` bytes
of data.  Then the records are read within their bounds, and `mmsm_request` on the morsectrl
backend returns one item per command, in order, made from its response record.  When the low 16
bits of some response's status are not zero, it returns `NULL` instead. -/
theorem mmsmRequest_morsectrl_nl80211 (morseCmdTypeReq : UInt16) (args : List MorsectrlArg)
    (ifnum : UInt32) (kernel : List (Int × NlaArgValue) → List (List SyncMsg)) (c : UInt8)
    (attrs : MorsectrlArg → List NlAttr) (resp : MorsectrlArg → List UInt8)
    (hreply : ∀ a ∈ args.takeWhile (·.commandId ≠ -1),
      (kernel (morsectrlVendorArgs ifnum (morsectrlRequestItem morseCmdTypeReq a))).flatten =
        [.valid ⟨c, encodeAttrs (attrs a)⟩, .ack] ∧
      ((attrs a).find? fun x => x.attrType == nl80211AttrVendorData.toNat).map NlAttr.payload =
        some (resp a) ∧ MorsectrlRecordFits (resp a)) :
    ∃ items : List MmsmDataItem,
      ((args.takeWhile (·.commandId ≠ -1)).map resp).mapM morsectrlResponseItem = some items ∧
      mmsmRequest (backendMorsectrlProcessRequestArgs morseCmdTypeReq args)
          (backendMorsectrlSyncCommand (nl80211VendorRequest kernel) ifnum) =
        some (if (args.takeWhile (·.commandId ≠ -1)).all (fun a => morsectrlStatus (resp a) = 0)
          then items else []) := by
  have hans : ∀ a ∈ args.takeWhile (·.commandId ≠ -1), ∃ reply, nl80211VendorRequest kernel
      (morsectrlVendorArgs ifnum (morsectrlRequestItem morseCmdTypeReq a)) = some reply ∧
      reply ≠ [] ∧ replyVendorData reply = some (resp a) := fun a ha => by
    obtain ⟨hk, hfind, hfit⟩ := hreply a ha
    have hne : resp a ≠ [] := fun h => by simpa [h] using hfit.1
    obtain ⟨reply, hr, hrne, hv⟩ := replyVendorData_nl80211 hk
    obtain ⟨x, hx, hxp⟩ := Option.map_eq_some'.1 hfind
    exact ⟨reply, hr, hrne, by rw [hv, hx, Option.some_bind, hxp, if_neg (by simpa using hne)]⟩
  obtain ⟨items, hitems⟩ : ∃ items,
      ((args.takeWhile (·.commandId ≠ -1)).map resp).mapM morsectrlResponseItem = some items :=
    mapM_isSome fun r hr => by
      obtain ⟨a, ha, rfl⟩ := List.mem_map.1 hr
      exact morsectrlResponseItem_isSome (hreply a ha).2.2
  refine ⟨items, hitems, ?_⟩
  rw [backendMorsectrlProcessRequestArgs]
  generalize args.takeWhile (·.commandId ≠ -1) = cmds at hans hitems ⊢
  cases cmds with
  | nil =>
    rw [List.map_nil, List.mapM_nil] at hitems
    cases hitems
    simp [mmsmRequest]
  | cons a cmds =>
    let reply item := (nl80211VendorRequest kernel (morsectrlVendorArgs ifnum item)).getD []
    have hret : ∀ item ∈ (a :: cmds).map (morsectrlRequestItem morseCmdTypeReq),
        nl80211VendorRequest kernel (morsectrlVendorArgs ifnum item) = some (reply item) := by
      intro item hi
      obtain ⟨a, ha, rfl⟩ := List.mem_map.1 hi
      obtain ⟨r, hr, -, -⟩ := hans a ha
      simp [reply, hr]
    have hserved : servedItems reply ((a :: cmds).map (morsectrlRequestItem morseCmdTypeReq)) =
        (a :: cmds).map (morsectrlRequestItem morseCmdTypeReq) := by
      refine List.takeWhile_eq_self_iff.2 fun item hi => ?_
      obtain ⟨a, ha, rfl⟩ := List.mem_map.1 hi
      obtain ⟨r, hr, hrne, -⟩ := hans a ha
      simpa [reply, hr] using hrne
    have hdata : servedData reply ((a :: cmds).map (morsectrlRequestItem morseCmdTypeReq)) =
        (a :: cmds).map resp := by
      rw [servedData, hserved, List.filterMap_map, ← List.filterMap_eq_map]
      refine List.filterMap_congr fun a ha => ?_
      obtain ⟨r, hr, -, hv⟩ := hans a ha
      simp [reply, hr, hv]
    have hall : ∀ l : List MorsectrlArg, ((l.map resp).all fun r => morsectrlStatus r = 0) =
        l.all fun a' => morsectrlStatus (resp a') = 0 := fun l => by
      induction l <;> simp_all
    rw [mmsmRequest, backendMorsectrlSyncCommand, morsectrlSyncLoop_eq _ _ reply _ _ _ hret,
      hserved, hdata, hitems, if_neg (lt_irrefl _), Option.map_some', Option.map_some', hall]
    by_cases hok : ((a :: cmds).all fun a' => morsectrlStatus (resp a') = 0) = true
    · rw [if_pos hok, if_pos hok]
      simp [mmsmInternalRequest]
    · rw [if_neg hok, if_neg hok]
      rfl

/-- A response record: message `5`, no data, status `0x10000`, whose low 16 bits are zero. -/
def statusHighResponse : List UInt8 := [5, 0, 0, 0, 2, 0, 0, 0, 1, 0]

/-- The `VENDOR_DATA` attribute carrying it. -/
def statusHighVendorData : NlAttr := ⟨197, statusHighResponse, by decide, by decide⟩

theorem mmsmRequest_morsectrl_nl80211_statusHigh :
    (∀ a ∈ [(⟨5, 0, []⟩ : MorsectrlArg), ⟨-1, 0, []⟩].takeWhile (·.commandId ≠ -1),
      ([[.valid ⟨103, encodeAttrs [statusHighVendorData]⟩, .ack]] : List (List SyncMsg)).flatten =
        [.valid ⟨103, encodeAttrs [statusHighVendorData]⟩, .ack] ∧
      ([statusHighVendorData].find? fun x => x.attrType == nl80211AttrVendorData.toNat).map
        NlAttr.payload = some statusHighResponse ∧ MorsectrlRecordFits statusHighResponse) ∧
    ∃ items : List MmsmDataItem, (([(⟨5, 0, []⟩ : MorsectrlArg), ⟨-1, 0, []⟩].takeWhile
        (·.commandId ≠ -1)).map
        fun _ => statusHighResponse).mapM morsectrlResponseItem = some items ∧
      mmsmRequest (backendMorsectrlProcessRequestArgs 1 [⟨5, 0, []⟩, ⟨-1, 0, []⟩])
          (backendMorsectrlSyncCommand (nl80211VendorRequest
            fun _ => [[.valid ⟨103, encodeAttrs [statusHighVendorData]⟩, .ack]]) 2) =
        some (if ([(⟨5, 0, []⟩ : MorsectrlArg), ⟨-1, 0, []⟩].takeWhile (·.commandId ≠ -1)).all
            (fun _ => morsectrlStatus statusHighResponse = 0) then items else []) :=
  have hreply : ∀ a ∈ [(⟨5, 0, []⟩ : MorsectrlArg), ⟨-1, 0, []⟩].takeWhile (·.commandId ≠ -1),
      ([[.valid ⟨103, encodeAttrs [statusHighVendorData]⟩, .ack]] : List (List SyncMsg)).flatten =
        [.valid ⟨103, encodeAttrs [statusHighVendorData]⟩, .ack] ∧
      ([statusHighVendorData].find? fun x => x.attrType == nl80211AttrVendorData.toNat).map
        NlAttr.payload = some statusHighResponse ∧ MorsectrlRecordFits statusHighResponse :=
    fun _ _ => ⟨rfl, rfl, by decide⟩
  ⟨hreply, mmsmRequest_morsectrl_nl80211 1 _ 2 (fun _ => [[.valid ⟨103, encodeAttrs
    [statusHighVendorData]⟩, .ack]]) 103 (fun _ => [statusHighVendorData]) (fun _ => statusHighResponse)
    hreply⟩

/-- The status `0x10000` counts as success: the caller gets the item of message `5`. -/
example : morsectrlStatus statusHighResponse = 0 ∧
    morsectrlResponseItem statusHighResponse = some { mmsmDataItemAlloc with mmsmKey := .u32 5 } := by
  decide

/-- A record of four bytes is read past its end: its status lies beyond it. -/
example : morsectrlResponseItem [5, 0, 0, 0] = none := by decide

end SmartManager.Backend
