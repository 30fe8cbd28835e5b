/-
# `SmartManager.Engine.Datalog` — CSV data logs (`engine/datalog.c`).

`datalog_create` opens a new file for a datalog.  `datalog_init_csv` fixes the number of fields
of a line, one more than the commas of the heading, and writes the heading as the first line.
`datalog_write_csv` then writes one line of exactly that many fields, separated by commas: each
character of its format string prints the next argument (`u`, `d`, `s`, `S`, `b`, `t`) or nothing
(`0`, and any other character, whose `MMSM_ASSERT` on a string literal always holds); once the
format string has ended (`'\0'`, which the loop does not step over) every remaining field is
empty.

The format string and the arguments are modelled together, as the list of the formatters each
with the argument it reads: a call whose argument does not have its formatter's type is
undefined behaviour in C and has no counterpart here.  Whether a datalog is enabled, its
directory and the file's name are left out; what the model keeps is the text written.
-/
import SmartManager.Misc.Timestamp

namespace SmartManager.Engine

open SmartManager.Libc SmartManager.Misc

/-! ## §1 — the datalog and its lines -/

/-- `struct datalog`: the number of fields of a CSV line (`csv.n_fields`) and the text written to
the file so far. -/
structure Datalog where
  nFields : UInt16
  file : List Char
  deriving DecidableEq, Repr

/-- The datalog `datalog_create` returns: `calloc`ed, on a new empty file. -/
def Datalog.create : Datalog := ⟨0, []⟩

/-- `datalog_init_csv`: the field count stored in a `uint16_t`, the heading written as a line. -/
def datalogInitCsv (dl : Datalog) (heading : List Char) : Datalog where
  nFields := UInt16.ofNat (heading.count ',' + 1)
  file := dl.file ++ heading ++ ['\n']

/-- A formatter of `datalog_write_csv`'s format string with the argument it reads: `u` an
`unsigned int`, `d` and `b` an `int`, `s` and `S` a string, `t` a `timestamp_t *`; `skip` is `0`
or any other character. -/
inductive CsvField where
  | u (v : UInt32)
  | d (v : Int)
  | s (str : List Char)
  | quoted (str : List Char)
  | b (v : Int)
  | t (ts : Timestamp)
  | skip
  deriving DecidableEq, Repr

/-- What a formatter prints. -/
def CsvField.text : CsvField → List Char
  | .u v => formatU v.toNat
  | .d v => formatD v
  | .s str => str
  | .quoted str => '"' :: str ++ ['"']
  | .b v => if v ≠ 0 then "True".toList else "False".toList
  | .t ts => timestampWriteToFileAsIso ts
  | .skip => []

/-- The `n` fields of a line, from the formatters in order; once they run out every remaining
field is empty. -/
def csvFields : Nat → List CsvField → List (List Char)
  | 0, _ => []
  | n + 1, [] => [] :: csvFields n []
  | n + 1, f :: fs => f.text :: csvFields n fs

/-- `datalog_write_csv` on a datalog (its `NULL` case, which returns `false`, is left out):
`none` when the `MMSM_ASSERT` that the line has fields fails. -/
def datalogWriteCsv (dl : Datalog) (fields : List CsvField) : Option Datalog :=
  if dl.nFields = 0 then none
  else
    some { dl with
      file := dl.file ++ [','].intercalate (csvFields dl.nFields.toNat fields) ++ ['\n'] }

/-! ## §2 — what a write appends -/

/-- The text of a line whose formatters are exactly its fields. -/
def csvLine (fields : List CsvField) : List Char :=
  [','].intercalate (fields.map CsvField.text) ++ ['\n']

theorem csvFields_length_eq : ∀ fields : List CsvField,
    csvFields fields.length fields = fields.map CsvField.text
  | [] => rfl
  | f :: fs => by simp [csvFields, csvFields_length_eq fs]

/-- **A write of as many formatters as the line has fields appends their line**, and changes
nothing else. -/
theorem datalogWriteCsv_eq {dl : Datalog} {fields : List CsvField} (hne : fields ≠ [])
    (hn : dl.nFields.toNat = fields.length) :
    datalogWriteCsv dl fields = some { dl with file := dl.file ++ csvLine fields } := by
  have h0 : dl.nFields ≠ 0 := fun h => hne (List.eq_nil_of_length_eq_zero (by simp [← hn, h]))
  simp [datalogWriteCsv, h0, hn, csvFields_length_eq, csvLine]

/-- A run of writes of one line shape appends their lines in order. -/
theorem foldlM_datalogWriteCsv {α : Type} (fields : α → List CsvField)
    (hne : ∀ a, fields a ≠ []) (n : Nat) (hn : ∀ a, (fields a).length = n) :
    ∀ (xs : List α) (dl : Datalog), dl.nFields.toNat = n →
      xs.foldlM (fun dl a => datalogWriteCsv dl (fields a)) dl =
        some { dl with file := dl.file ++ (xs.map fun a => csvLine (fields a)).flatten }
  | [], dl, _ => by simp
  | a :: xs, dl, h => by
    rw [List.foldlM_cons, datalogWriteCsv_eq (hne a) (h.trans (hn a).symm)]
    simp only [Option.bind_eq_bind, Option.some_bind]
    rw [foldlM_datalogWriteCsv fields hne n hn xs
      { dl with file := dl.file ++ csvLine (fields a) } h]
    simp

end SmartManager.Engine
