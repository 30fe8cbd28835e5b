/-
# `SmartManager.Misc.Timestamp` — timestamps and their ISO text (`misc/timestamp.c`).

`timestamp_get` fills a `timestamp_t`, seven `uint16_t` fields, from `localtime_r` and
`gettimeofday`.  `timestamp_write_to_file_as_iso` prints it with the format
`%04u-%02u-%02uT%02u:%02u:%02u.%03u`, and `timestamp_from_iso_string` reads the same format with
`sscanf`, where each width bounds the field read.

A timestamp whose fields fit the widths of the format is read back as it was written, whatever
text follows it (`timestampFromIsoString_write`).  `timestamp_get` gives every field but the year
a value that fits (`timestampGet_isoFits`).  A year from 10000 on is printed with five digits, of
which `%04u` reads four, and the text no longer parses (`timestampFromIsoString_year_ge`).
-/
import SmartManager.Libc.Format

namespace SmartManager.Misc

open SmartManager.Libc

/-! ## §1 — `timestamp_t` and `timestamp_get` -/

/-- `timestamp_t`. -/
structure Timestamp where
  year : UInt16
  month : UInt16
  day : UInt16
  hour : UInt16
  minute : UInt16
  second : UInt16
  millisecond : UInt16
  deriving DecidableEq, Repr

/-- The fields of the `struct tm` that `localtime_r` fills and `timestamp_get` reads, with the
ranges POSIX gives them. -/
structure Tm where
  tmSec : Nat
  tmMin : Nat
  tmHour : Nat
  tmMday : Nat
  tmMon : Nat
  tmYear : Int
  sec_le : tmSec ≤ 60
  min_lt : tmMin < 60
  hour_lt : tmHour < 24
  mday_pos : 1 ≤ tmMday
  mday_le : tmMday ≤ 31
  mon_lt : tmMon < 12

/-- `timestamp_get`: the broken-down local time and the microseconds of `gettimeofday`, each
stored in a `uint16_t`. -/
def timestampGet (tm : Tm) (tvUsec : Nat) : Timestamp where
  year := u16OfInt (tm.tmYear + 1900)
  month := UInt16.ofNat (tm.tmMon + 1)
  day := UInt16.ofNat tm.tmMday
  hour := UInt16.ofNat tm.tmHour
  minute := UInt16.ofNat tm.tmMin
  second := UInt16.ofNat tm.tmSec
  millisecond := UInt16.ofNat (tvUsec / 1000 % 1000)

/-- The fields fit the widths of the ISO format. -/
structure Timestamp.IsoFits (t : Timestamp) : Prop where
  year : t.year.toNat < 10 ^ 4
  month : t.month.toNat < 10 ^ 2
  day : t.day.toNat < 10 ^ 2
  hour : t.hour.toNat < 10 ^ 2
  minute : t.minute.toNat < 10 ^ 2
  second : t.second.toNat < 10 ^ 2
  millisecond : t.millisecond.toNat < 10 ^ 3

/-- **`timestamp_get` fits the ISO widths up to the year.** -/
theorem timestampGet_isoFits (tm : Tm) (tvUsec : Nat)
    (hyear : (timestampGet tm tvUsec).year.toNat < 10000) :
    (timestampGet tm tvUsec).IsoFits := by
  have := tm.sec_le; have := tm.min_lt; have := tm.hour_lt; have := tm.mday_le
  have := tm.mon_lt; have := Nat.mod_lt (tvUsec / 1000) (by norm_num : 1000 > 0)
  constructor <;> simp only [timestampGet, UInt16.toNat, UInt16.ofNat, BitVec.toNat_ofNat] <;>
    first | exact hyear | omega

theorem Timestamp.isoFits_of_timestampGet {t : Timestamp}
    (ht : ∃ tm tvUsec, t = timestampGet tm tvUsec) (hy : t.year.toNat < 10000) : t.IsoFits := by
  obtain ⟨tm, us, rfl⟩ := ht
  exact timestampGet_isoFits tm us hy

/-! ## §2 — the ISO text -/

/-- `timestamp_write_to_file_as_iso`. -/
def timestampWriteToFileAsIso (t : Timestamp) : List Char :=
  formatUPadded 4 t.year.toNat ++ '-' :: formatUPadded 2 t.month.toNat ++
    '-' :: formatUPadded 2 t.day.toNat ++ 'T' :: formatUPadded 2 t.hour.toNat ++
    ':' :: formatUPadded 2 t.minute.toNat ++ ':' :: formatUPadded 2 t.second.toNat ++
    '.' :: formatUPadded 3 t.millisecond.toNat

/-- `"%04u-%02u-%02uT%02u:%02u:%02u.%03u"` as `sscanf` reads it: the `0` of each width is the
width's leading digit. -/
def isoFormat : List ScanDirective :=
  [.u (some 4), .lit '-', .u (some 2), .lit '-', .u (some 2), .lit 'T', .u (some 2), .lit ':',
    .u (some 2), .lit ':', .u (some 2), .lit '.', .u (some 3)]

/-- `timestamp_from_iso_string`: the seven `unsigned int` conversions, each stored in its
`uint16_t` field; `none` when `sscanf` does not convert all seven. -/
def timestampFromIsoString (str : List Char) : Option Timestamp :=
  match sscanf isoFormat str with
  | [year, month, day, hour, minute, second, millisecond] =>
    some ⟨u16OfInt year, u16OfInt month, u16OfInt day, u16OfInt hour, u16OfInt minute,
      u16OfInt second, u16OfInt millisecond⟩
  | _ => none

/-- A `uint16_t` printed and read back by `%u`, then stored in a `uint16_t`. -/
theorem u16OfInt_scanned (x : UInt16) :
    u16OfInt ((min x.toNat ulongMax % 2 ^ 32 : Nat) : Int) = x := by
  have hx : x.toNat < 2 ^ 16 := x.toNat_lt_size
  rw [Nat.min_eq_left (by unfold ulongMax; omega), Nat.mod_eq_of_lt (by omega)]
  have hid : ((x.toNat : Int) % 2 ^ 16).toNat = x.toNat := by omega
  rw [u16OfInt, hid]
  apply UInt16.eq_of_val_eq
  apply Fin.ext
  simp [UInt16.val, UInt16.ofNat, UInt16.toNat]

/-- **The ISO text reads back as the timestamp it was printed from**, whatever follows it, when
the fields fit the widths of the format. -/
theorem timestampFromIsoString_write {t : Timestamp} (ht : t.IsoFits) (rest : List Char) :
    timestampFromIsoString (timestampWriteToFileAsIso t ++ rest) = some t := by
  obtain ⟨hy, hmo, hd, hh, hmi, hs, hms⟩ := ht
  simp only [timestampFromIsoString, timestampWriteToFileAsIso, isoFormat, List.append_assoc,
    List.cons_append, sscanf_u_formatUPadded hy (by norm_num), sscanf_lit,
    sscanf_u_formatUPadded hmo (by norm_num), sscanf_u_formatUPadded hd (by norm_num),
    sscanf_u_formatUPadded hh (by norm_num), sscanf_u_formatUPadded hmi (by norm_num),
    sscanf_u_formatUPadded hs (by norm_num), sscanf_u_formatUPadded hms (by norm_num), sscanf_nil,
    u16OfInt_scanned]

/-- **A year from 10000 on does not parse**: `%04u` reads its first four digits, and the fifth
stands where the format wants `-`. -/
theorem timestampFromIsoString_year_ge {t : Timestamp} (hy : 10 ^ 4 ≤ t.year.toNat)
    (rest : List Char) : timestampFromIsoString (timestampWriteToFileAsIso t ++ rest) = none := by
  obtain ⟨heq, hlen⟩ := formatUPadded_of_le hy
  have hdig := formatU_isDigit t.year.toNat
  obtain ⟨c, r, hcr⟩ := List.exists_cons_of_ne_nil
    (show (formatU t.year.toNat).drop 4 ≠ [] by simp; omega)
  have hc : isDigit c = true := hdig c (List.mem_of_mem_drop (hcr ▸ List.mem_cons_self c r))
  generalize htail : '-' :: formatUPadded 2 t.month.toNat ++ _ = tail
  have hscan : scanField (some 4) ((formatU t.year.toNat).take 4 ++ c :: (r ++ tail)) =
      some (false, (formatU t.year.toNat).take 4, c :: (r ++ tail)) := by
    refine scanField_digits (fun d hd => hdig d (List.mem_of_mem_take hd))
      (List.ne_nil_of_length_pos (by simp; omega)) ?_
    simp only [Option.map_some', Option.getD_some]
    rw [List.take_left' (by simp; omega),
      List.takeWhile_eq_self_iff.2 fun d hd => hdig d (List.mem_of_mem_take hd)]
  have hne : c ≠ '-' := by rintro rfl; cases hc
  simp only [timestampFromIsoString, timestampWriteToFileAsIso, heq, List.append_assoc]
  rw [← List.take_append_drop 4 (formatU _), hcr, List.append_assoc, List.cons_append, htail]
  simp [isoFormat, sscanf, hscan, hne]

/-- The text `timestamp_write_to_file_as_iso` prints has no comma, no newline and no `NUL`. -/
theorem timestampWriteToFileAsIso_chars (t : Timestamp) :
    ∀ c ∈ timestampWriteToFileAsIso t, c ≠ ',' ∧ c ≠ '\n' ∧ c ≠ '\x00' := by
  have hdig : ∀ w n, ∀ c ∈ formatUPadded w n, c ≠ ',' ∧ c ≠ '\n' ∧ c ≠ '\x00' :=
    fun w n c hc => by
      have := formatUPadded_isDigit w n c hc
      refine ⟨?_, ?_, ?_⟩ <;> rintro rfl <;> cases this
  intro c hc
  simp only [timestampWriteToFileAsIso, List.mem_append, List.mem_cons] at hc
  rcases hc with ((((((h | rfl | h) | rfl | h) | rfl | h) | rfl | h) | rfl | h) | rfl | h) <;>
    first | exact hdig _ _ c h | decide

end SmartManager.Misc
