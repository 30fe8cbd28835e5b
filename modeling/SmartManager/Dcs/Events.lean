/-
# `SmartManager.Dcs.Events` — the nl80211 events DCS listens to (`modules/dcs/dcs.c`,
`engine/engine.c`).

DCS registers two pattern monitors on the nl80211 backend: `measurement_done_callback` for
`NL80211_CMD_VENDOR` (in `init_scan_thread`, live mode only) and `ecsa_done_callback` for
`NL80211_CMD_CH_SWITCH_NOTIFY` (at the end of `dcs_create`).  The dispatcher fires a monitor when
any top-level node of the received chain carries its command, and hands the callback the whole
chain.  The callbacks read the chain from its head: `ecsa_done_callback` asserts that the head is
the `CH_SWITCH_NOTIFY` message and reads `WIPHY_FREQ` among the head's attributes, and the
OCS_DONE checks look only at the first `NL80211_CMD_VENDOR` node (`isMorseOcsDoneVendorEvent_eq`).

The monitor receive hands over at most one message, since nl80211 sends each multicast event as
a datagram of its own (`nl80211MonitorReceive`), and on every chain it hands over the
dispatcher and the callbacks agree (`dcsDispatch_monitor_receive`).

The OCS_DONE check reads four bytes from the `VENDOR_ID` value whatever its length, so a vendor
message with a shorter one is read past its end (`isMorseOcsDoneVendorEvent_short_vendor_id`).
-/
import SmartManager.Backend.Nl80211
import SmartManager.Engine.AsyncMonitor
import SmartManager.Dcs.Context

namespace SmartManager.Dcs

open SmartManager.Data SmartManager.Backend SmartManager.Engine SmartManager.Libc

/-! ## §1 — commands and attributes -/

/-- `NL80211_CMD_CH_SWITCH_NOTIFY`, `NL80211_CMD_VENDOR`. -/
def nl80211CmdChSwitchNotify : UInt32 := 88
def nl80211CmdVendor : UInt32 := 103

/-- `NL80211_ATTR_WIPHY_FREQ`, `NL80211_ATTR_VENDOR_ID`, `NL80211_ATTR_VENDOR_SUBCMD`,
`NL80211_ATTR_VENDOR_DATA`. -/
def nl80211AttrWiphyFreq : UInt32 := 38
def nl80211AttrVendorId : UInt32 := 195
def nl80211AttrVendorSubcmd : UInt32 := 196
def nl80211AttrVendorData : UInt32 := 197

/-- `MORSE_OUI`, `MORSE_VENDOR_EVENT_OCS_DONE`, `MORSE_VENDOR_ATTR_DATA` (`vendor.h`). -/
def morseOui : UInt32 := 0x0CBF74
def morseVendorEventOcsDone : UInt32 := 1
def morseVendorAttrData : UInt32 := 0

/-! ## §2 — what the callbacks read -/

/-- The head check and the frequency read of `ecsa_done_callback`: `MMSM_ASSERT` that the chain's
head is the `CH_SWITCH_NOTIFY` message, then `WIPHY_FREQ` among the head's sub-values as a
`uint32_t`, or `0` when it is missing.  A string key, which the nl80211 backend never builds,
fails the check; an empty chain is a `NULL` result. -/
def ecsaNotifiedFreq : List MmsmDataItem → Except DcsFault UInt32
  | [] => .error .nullPointer
  | head :: _ =>
    if head.mmsmKey = .u32 nl80211CmdChSwitchNotify then
      .ok (((mmsmFindKey head.mmsmSubValues (.u32 nl80211AttrWiphyFreq)).map
        MmsmDataItem.getValU32).getD 0)
    else .error .assertion

/-- A `uint32_t` read through `mmsm_find_by_nested_intkeys(result, NL80211_CMD_VENDOR, attr,
-1)` equals `v`; a missing attribute does not. -/
def vendorAttrIs (result : List MmsmDataItem) (attr v : UInt32) : Bool :=
  (mmsmFindByNestedIntkeys result nl80211CmdVendor [attr]).any fun d => readU32 d == v

/-- `is_morse_ocs_done_vendor_event`: the vendor id is Morse's and the event is OCS_DONE. -/
def isMorseOcsDoneVendorEvent (result : List MmsmDataItem) : Bool :=
  vendorAttrIs result nl80211AttrVendorId morseOui &&
    vendorAttrIs result nl80211AttrVendorSubcmd morseVendorEventOcsDone

/-- `get_ocs_done_from_vendor_event`: the bytes of attribute `MORSE_VENDOR_ATTR_DATA` inside
`VENDOR_DATA`, `NULL` when either is missing. -/
def getOcsDoneFromVendorEvent (result : List MmsmDataItem) : Option (List UInt8) :=
  mmsmFindByNestedIntkeys result nl80211CmdVendor [nl80211AttrVendorData, morseVendorAttrData]

/-- The OCS_DONE test on the attributes of one vendor message. -/
def ocsDoneAttrs (subs : List MmsmDataItem) : Bool :=
  (mmsmFindValueByIntkey subs nl80211AttrVendorId).any (fun d => readU32 d == morseOui) &&
    (mmsmFindValueByIntkey subs nl80211AttrVendorSubcmd).any
      (fun d => readU32 d == morseVendorEventOcsDone)

theorem vendorAttrIs_eq (result : List MmsmDataItem) (attr v : UInt32) :
    vendorAttrIs result attr v = (mmsmFindKey result (.u32 nl80211CmdVendor)).any
      fun n => (mmsmFindValueByIntkey n.mmsmSubValues attr).any fun d => readU32 d == v := by
  cases h : mmsmFindKey result (.u32 nl80211CmdVendor) <;>
    simp [vendorAttrIs, mmsmFindByNestedIntkeys, mmsmFindValueByIntkey, h]

/-- **The OCS_DONE check reads only the first vendor message** of the chain. -/
theorem isMorseOcsDoneVendorEvent_eq (result : List MmsmDataItem) :
    isMorseOcsDoneVendorEvent result =
      (mmsmFindKey result (.u32 nl80211CmdVendor)).any fun n => ocsDoneAttrs n.mmsmSubValues := by
  cases h : mmsmFindKey result (.u32 nl80211CmdVendor) <;>
    simp [isMorseOcsDoneVendorEvent, vendorAttrIs_eq, ocsDoneAttrs, h]

/-! ## §3 — the monitors and the dispatch -/

/-- The DCS callbacks a monitor can carry. -/
inductive DcsCallback where
  | ecsaDone
  | measurementDone
  deriving DecidableEq, Repr

/-- `mmsm_monitor_pattern(nl80211_intf, "", cb, context, <cmd>, 0, -1)`: the request tree is
the nl80211 argument processor's, and the monitor goes at the head of the group's list; `none`
when the processor returns `NULL`. -/
def monitorNl80211 (head : List (AsyncMonitor DcsCallback)) (cmd : UInt32) (cb : DcsCallback) :
    Option (List (AsyncMonitor DcsCallback)) :=
  (backendNl80211ProcessRequestArgs cmd 0 []).bind fun tree =>
    tree.head?.map fun command => pushAsyncMonitor head command cb

/-- The nl80211 group after `dcs_create` in live mode: the measurement monitor registered by
`init_scan_thread`, then the channel-switch monitor. -/
def dcsMonitors : Option (List (AsyncMonitor DcsCallback)) :=
  (monitorNl80211 [] nl80211CmdVendor .measurementDone).bind fun head =>
    monitorNl80211 head nl80211CmdChSwitchNotify .ecsaDone

/-- The monitor list, and the key each monitor's request tree starts with. -/
theorem dcsMonitors_keys :
    dcsMonitors.map (List.map fun m => (m.command.mmsmKey, m.callback)) =
      some [(.u32 nl80211CmdChSwitchNotify, some .ecsaDone),
        (.u32 nl80211CmdVendor, some .measurementDone)] := by
  decide

/-- The callbacks the dispatcher fires on a chain, DCS's monitors being the group. -/
def dcsDispatch (result : List MmsmDataItem) : List DcsCallback :=
  (dcsMonitors.map fun head => asyncDispatch head result).getD []

/-- A DCS callback fires exactly when some top-level node of the chain is the message it
monitors. -/
theorem mem_dcsDispatch (result : List MmsmDataItem) :
    (.ecsaDone ∈ dcsDispatch result ↔
        ∃ i ∈ result, i.mmsmKey = .u32 nl80211CmdChSwitchNotify) ∧
      (.measurementDone ∈ dcsDispatch result ↔ ∃ i ∈ result, i.mmsmKey = .u32 nl80211CmdVendor) := by
  obtain ⟨head, hd, hkeys⟩ : ∃ head, dcsMonitors = some head ∧
      head.map (fun m => (m.command.mmsmKey, m.callback)) =
        [(.u32 nl80211CmdChSwitchNotify, some .ecsaDone),
          (.u32 nl80211CmdVendor, some .measurementDone)] := by
    have := dcsMonitors_keys
    revert this
    cases dcsMonitors <;> simp
  match head, hkeys with
  | [a, b], h =>
    simp only [List.map_cons, List.map_nil, List.cons.injEq, Prod.mk.injEq, and_true] at h
    obtain ⟨⟨ha, hca⟩, hb, hcb⟩ := h
    simp [dcsDispatch, hd, mem_asyncDispatch, or_and_right, exists_or, ha, hca, hb, hcb]

/-- On a one-message chain the dispatcher and the callbacks agree: when `ecsa_done_callback`
fires its assertion holds and it reads `WIPHY_FREQ` from that message; when
`measurement_done_callback` fires its check reads that message; and an OCS_DONE vendor message
fires `measurement_done_callback` and passes its check. -/
theorem dcsDispatch_single (e : MmsmDataItem) :
    (.ecsaDone ∈ dcsDispatch [e] → e.mmsmKey = .u32 nl80211CmdChSwitchNotify ∧
      ecsaNotifiedFreq [e] = .ok (((mmsmFindKey e.mmsmSubValues
        (.u32 nl80211AttrWiphyFreq)).map MmsmDataItem.getValU32).getD 0)) ∧
    (.measurementDone ∈ dcsDispatch [e] → e.mmsmKey = .u32 nl80211CmdVendor ∧
      isMorseOcsDoneVendorEvent [e] = ocsDoneAttrs e.mmsmSubValues) ∧
    (e.mmsmKey = .u32 nl80211CmdVendor → ocsDoneAttrs e.mmsmSubValues = true →
      .measurementDone ∈ dcsDispatch [e] ∧ isMorseOcsDoneVendorEvent [e] = true) := by
  have hocs : e.mmsmKey = .u32 nl80211CmdVendor →
      isMorseOcsDoneVendorEvent [e] = ocsDoneAttrs e.mmsmSubValues := fun hk => by
    simp [isMorseOcsDoneVendorEvent_eq, mmsmFindKey_cons, hk]
  refine ⟨fun h => ?_, fun h => ?_, fun hk hd => ?_⟩
  · obtain ⟨i, hi, hk⟩ := (mem_dcsDispatch [e]).1.1 h
    rw [List.mem_singleton.1 hi] at hk
    exact ⟨hk, by simp [ecsaNotifiedFreq, hk]⟩
  · obtain ⟨i, hi, hk⟩ := (mem_dcsDispatch [e]).2.1 h
    rw [List.mem_singleton.1 hi] at hk
    exact ⟨hk, hocs hk⟩
  · exact ⟨(mem_dcsDispatch [e]).2.2 ⟨e, List.mem_singleton_self e, hk⟩, (hocs hk).trans hd⟩

/-- **The dispatcher and the DCS callbacks agree on every chain the monitor receive hands over.**
A receive carries at most one event (`nl80211MonitorReceive`).  When `ecsa_done_callback`
fires, the chain's head is the `CH_SWITCH_NOTIFY` message, its assertion holds, and it reads
`WIPHY_FREQ` from that message; when `measurement_done_callback` fires, its check reads the
vendor message received; and a received OCS_DONE vendor message fires
`measurement_done_callback` and passes its check. -/
theorem dcsDispatch_monitor_receive (event : Option GenlMsg) :
    (.ecsaDone ∈ dcsDispatch (nl80211MonitorReceive event) →
      ∃ n, nl80211MonitorReceive event = [n] ∧ n.mmsmKey = .u32 nl80211CmdChSwitchNotify ∧
        ecsaNotifiedFreq [n] = .ok (((mmsmFindKey n.mmsmSubValues
          (.u32 nl80211AttrWiphyFreq)).map MmsmDataItem.getValU32).getD 0)) ∧
    (.measurementDone ∈ dcsDispatch (nl80211MonitorReceive event) →
      ∃ n, nl80211MonitorReceive event = [n] ∧ n.mmsmKey = .u32 nl80211CmdVendor ∧
        isMorseOcsDoneVendorEvent [n] = ocsDoneAttrs n.mmsmSubValues) ∧
    (∀ n ∈ nl80211MonitorReceive event, n.mmsmKey = .u32 nl80211CmdVendor →
      ocsDoneAttrs n.mmsmSubValues = true →
      .measurementDone ∈ dcsDispatch (nl80211MonitorReceive event) ∧
        isMorseOcsDoneVendorEvent (nl80211MonitorReceive event) = true) := by
  cases event with
  | none =>
    -- a receive that timed out leaves the chain `NULL`, which fires nothing
    refine ⟨fun h => ?_, fun h => ?_, fun n hn => nomatch hn⟩
    · obtain ⟨i, hi, -⟩ := (mem_dcsDispatch []).1.1 h; cases hi
    · obtain ⟨i, hi, -⟩ := (mem_dcsDispatch []).2.1 h; cases hi
  | some msg =>
    obtain ⟨hecsa, hmeas, hocs⟩ := dcsDispatch_single (nlCallbackEntry msg)
    exact ⟨fun h => ⟨_, rfl, hecsa h⟩, fun h => ⟨_, rfl, hmeas h⟩,
      fun n hn => (List.mem_singleton.1 hn) ▸ hocs⟩

/-! ## §4 — the messages DCS receives -/

/-- The attributes of a Morse vendor event: the OUI, the event number, and, when the event has
one, its record nested as `MORSE_VENDOR_ATTR_DATA` inside `VENDOR_DATA`. -/
def morseVendorEventAttrs (event : UInt32) (record : Option (List UInt8)) : List NlAttrTree :=
  [.leaf nl80211AttrVendorId.toNat (u32Bytes morseOui),
    .leaf nl80211AttrVendorSubcmd.toNat (u32Bytes event)] ++
    (record.map fun r =>
      [NlAttrTree.nest nl80211AttrVendorData.toNat [.leaf morseVendorAttrData.toNat r]]).getD []

/-- A Morse vendor event message. -/
def morseVendorEventMsg (event : UInt32) (record : Option (List UInt8)) : GenlMsg :=
  ⟨nl80211CmdVendor.toUInt8, encodeForest (morseVendorEventAttrs event record)⟩

/-- A channel-switch notification carrying the new operating frequency. -/
def chSwitchNotifyMsg (freq : UInt32) : GenlMsg :=
  ⟨nl80211CmdChSwitchNotify.toUInt8,
    encodeForest [.leaf nl80211AttrWiphyFreq.toNat (u32Bytes freq)]⟩

/-- The entry of a notification whose frequency bytes do not read as an attribute header. -/
theorem chSwitchNotifyMsg_entry {freq : UInt32}
    (h : nlaLenField (u32Bytes freq) < 4 ∨ 4 < nlaLenField (u32Bytes freq)) :
    nlCallbackEntry (chSwitchNotifyMsg freq) =
      ⟨.u32 nl80211CmdChSwitchNotify, none,
        [⟨.u32 nl80211AttrWiphyFreq, some (u32Bytes freq), []⟩]⟩ := by
  rw [chSwitchNotifyMsg, nlCallbackEntry_encodeForest]
  · rfl
  · simp [ForestFramed, NlAttrTree.Framed, u32Bytes, nl80211AttrWiphyFreq, UInt32.size]
  · have hlen : (u32Bytes freq).length = 4 := rfl
    simp [ForestLeavesFlat, NlAttrTree.LeavesFlat,
      attrLooksNested_of_nlaLenField (by simp [u32Bytes] : u32Bytes freq ≠ []) (by omega)]

/-- The entry of a vendor event whose event number does not read as an attribute header and
whose record is not an attribute sequence. -/
theorem morseVendorEventMsg_entry {event : UInt32} {record : Option (List UInt8)}
    (hev : nlaLenField (u32Bytes event) < 4)
    (hrec : ∀ r ∈ record, r ≠ [] ∧ (nlaLenField r < 4 ∨ r.length < nlaLenField r) ∧
      r.length < 2 ^ 15) :
    nlCallbackEntry (morseVendorEventMsg event record) =
      ⟨.u32 nl80211CmdVendor, none, forestToItems (morseVendorEventAttrs event record)⟩ := by
  have houi : attrLooksNested (u32Bytes morseOui) (u32Bytes morseOui).length = false :=
    attrLooksNested_of_nlaLenField (by simp [u32Bytes]) (by decide)
  have hevf : attrLooksNested (u32Bytes event) (u32Bytes event).length = false :=
    attrLooksNested_of_nlaLenField (by simp [u32Bytes]) (.inl hev)
  rw [morseVendorEventMsg, nlCallbackEntry_encodeForest]
  · rfl
  · cases record with
    | none => simp [morseVendorEventAttrs, ForestFramed, NlAttrTree.Framed, u32Bytes,
        nl80211AttrVendorId, nl80211AttrVendorSubcmd, UInt32.size]
    | some r =>
      obtain ⟨-, -, hr⟩ := hrec r rfl
      simp [morseVendorEventAttrs, ForestFramed, NlAttrTree.Framed, u32Bytes, encodeForest,
        nlaFrame_length, nlaAlign, nl80211AttrVendorId, nl80211AttrVendorSubcmd,
        nl80211AttrVendorData, morseVendorAttrData, NlAttrTree.attrType, NlAttrTree.payload,
        UInt32.size]
      omega
  · cases record with
    | none => simp [morseVendorEventAttrs, ForestLeavesFlat, NlAttrTree.LeavesFlat, houi, hevf]
    | some r =>
      obtain ⟨hne, hflat, -⟩ := hrec r rfl
      simp [morseVendorEventAttrs, ForestLeavesFlat, NlAttrTree.LeavesFlat, houi, hevf,
        attrLooksNested_of_nlaLenField hne hflat]

/-! ## §5 — the extent of the fixed-layout reads -/

/-- A fixed-layout read from a received attribute value: `width` bytes at `offset`. -/
structure ValueRead where
  value : List UInt8
  offset : Nat
  width : Nat
  deriving DecidableEq, Repr

/-- The read stays within the value's `mmsm_value_len`. -/
def ValueRead.InBounds (r : ValueRead) : Prop := r.offset + r.width ≤ r.value.length

instance : DecidablePred ValueRead.InBounds := fun r => Nat.decLe (r.offset + r.width) r.value.length

/-- The reads `is_morse_ocs_done_vendor_event` makes, in order: `*((uint32_t*)data)` on the
`VENDOR_ID` value and, when that is `MORSE_OUI`, on the `VENDOR_SUBCMD` value.  A missing value is
`NULL` and is not read. -/
def isMorseOcsDoneVendorEventReads (result : List MmsmDataItem) : List ValueRead :=
  match mmsmFindByNestedIntkeys result nl80211CmdVendor [nl80211AttrVendorId] with
  | none => []
  | some id =>
    ⟨id, 0, 4⟩ :: if readU32 id = morseOui then
      ((mmsmFindByNestedIntkeys result nl80211CmdVendor [nl80211AttrVendorSubcmd]).map
        fun sub => ⟨sub, 0, 4⟩).toList
    else []

/-- A payload of one to three bytes is too short to hold an attribute header. -/
theorem attrLooksNested_short {p : List UInt8} (hp : p ≠ []) (hp4 : p.length < 4) :
    attrLooksNested p p.length = false := by
  have hlen : p.length ≠ 0 := by simpa using hp
  rw [attrLooksNested_of_not_nlaOk (by simp [nlaOk_of_lt_four p (by omega : (p.length : Int) < 4)])]
  simp only [beq_eq_false_iff_ne, ne_eq]
  omega

/-- **`is_morse_ocs_done_vendor_event` reads past a short `VENDOR_ID`.**  For every vendor
message whose first attribute is a `VENDOR_ID` of one to three bytes, followed by any attributes,
the dispatcher hands the message to `measurement_done_callback`, and the check's first read takes
four bytes from that value. -/
theorem isMorseOcsDoneVendorEvent_short_vendor_id {p : List UInt8} {attrs : List NlAttrTree}
    (hp : p ≠ []) (hp4 : p.length < 4) (hf : ForestFramed attrs) (hl : ForestLeavesFlat attrs) :
    .measurementDone ∈ dcsDispatch
        [nlCallbackEntry ⟨nl80211CmdVendor.toUInt8, encodeForest
          (.leaf nl80211AttrVendorId.toNat p :: attrs)⟩] ∧
      ∃ r ∈ isMorseOcsDoneVendorEventReads
        [nlCallbackEntry ⟨nl80211CmdVendor.toUInt8, encodeForest
          (.leaf nl80211AttrVendorId.toNat p :: attrs)⟩], ¬r.InBounds := by
  have hlen : p.length ≠ 0 := by simpa using hp
  have hF : ForestFramed (.leaf nl80211AttrVendorId.toNat p :: attrs) := by
    simp only [ForestFramed, NlAttrTree.Framed]
    exact ⟨⟨by decide, by omega⟩, hf⟩
  have hL : ForestLeavesFlat (.leaf nl80211AttrVendorId.toNat p :: attrs) := by
    simp only [ForestLeavesFlat, NlAttrTree.LeavesFlat]
    exact ⟨attrLooksNested_short hp hp4, hl⟩
  have hcmd : nl80211CmdVendor.toUInt8.toUInt32 = nl80211CmdVendor := by decide
  have hid : UInt32.ofNat nl80211AttrVendorId.toNat = nl80211AttrVendorId := by decide
  rw [nlCallbackEntry_encodeForest _ hF hL, hcmd]
  refine ⟨(mem_dcsDispatch _).2.2 ⟨_, List.mem_singleton_self _, rfl⟩, ⟨p, 0, 4⟩, ?_, ?_⟩
  · simp [isMorseOcsDoneVendorEventReads, mmsmFindByNestedIntkeys, mmsmFindKey_cons,
      forestToItems, NlAttrTree.toItem, hlen, hid]
  · simp only [ValueRead.InBounds]; omega

/-- A `VENDOR_ID` carrying only the three bytes of the OUI, followed by the OCS_DONE event
number. -/
theorem isMorseOcsDoneVendorEvent_three_byte_oui :
    [0x74, 0xBF, 0x0C] ≠ ([] : List UInt8) ∧ [0x74, 0xBF, 0x0C].length < 4 ∧
      ForestFramed [.leaf nl80211AttrVendorSubcmd.toNat (u32Bytes morseVendorEventOcsDone)] ∧
      ForestLeavesFlat [.leaf nl80211AttrVendorSubcmd.toNat (u32Bytes morseVendorEventOcsDone)] ∧
      (.measurementDone ∈ dcsDispatch
        [nlCallbackEntry ⟨nl80211CmdVendor.toUInt8, encodeForest
          [.leaf nl80211AttrVendorId.toNat [0x74, 0xBF, 0x0C],
            .leaf nl80211AttrVendorSubcmd.toNat (u32Bytes morseVendorEventOcsDone)]⟩] ∧
      ∃ r ∈ isMorseOcsDoneVendorEventReads
        [nlCallbackEntry ⟨nl80211CmdVendor.toUInt8, encodeForest
          [.leaf nl80211AttrVendorId.toNat [0x74, 0xBF, 0x0C],
            .leaf nl80211AttrVendorSubcmd.toNat (u32Bytes morseVendorEventOcsDone)]⟩],
        ¬r.InBounds) :=
  have hf : ForestFramed [.leaf nl80211AttrVendorSubcmd.toNat (u32Bytes morseVendorEventOcsDone)] := by
    simp [ForestFramed, NlAttrTree.Framed, u32Bytes, nl80211AttrVendorSubcmd, UInt32.size]
  have hl : ForestLeavesFlat
      [.leaf nl80211AttrVendorSubcmd.toNat (u32Bytes morseVendorEventOcsDone)] := by
    simp only [ForestLeavesFlat, NlAttrTree.LeavesFlat, and_true]
    exact attrLooksNested_of_nlaLenField (by simp [u32Bytes]) (.inl (by decide))
  ⟨by decide, by decide, hf, hl,
    isMorseOcsDoneVendorEvent_short_vendor_id (by decide) (by decide) hf hl⟩

end SmartManager.Dcs
