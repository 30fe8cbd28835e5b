/-
# `SmartManager.Libc.Format` — `printf` and `sscanf` on decimal fields.

`printf`'s `%u` prints the decimal digits of its argument, most significant first, and
`%0<w>u` pads them with zeroes to `w` characters; a wider value is printed in full.  A `sscanf`
conversion (`%u`, `%<w>u`, `%d`) skips white space, reads an optional sign and then digits, at
most `w` characters in all, fails when it reads no digit, and stores what `strtoul` or `strtol`
makes of the text in an `unsigned int` or an `int`.  An ordinary character of the format must
match the next input character.  `sscanf` stops at the first directive that fails and reports the
conversions it stored.

A field printed by `%0<w>u` from a value below `10^w` is read back whole by `%<w>u`
(`scanField_formatUPadded`), and one printed by `%u` is read back by `%d` up to the separator
that follows it (`scanField_formatU`).
-/
import Mathlib.Tactic.IntervalCases
import SmartManager.Libc.Conv

namespace SmartManager.Libc

/-! ## §1 — `printf` -/

/-- `printf("%u", n)`: the decimal digits of `n`, most significant first, as the C library and
Lean's `Nat.toDigits` write them. -/
def formatU (n : Nat) : List Char := Nat.toDigits 10 n

/-- `printf("%0<w>u", n)`. -/
def formatUPadded (w n : Nat) : List Char :=
  List.replicate (w - (formatU n).length) '0' ++ formatU n

/-- `printf("%d", v)` of an `int`. -/
def formatD (v : Int) : List Char :=
  if v < 0 then '-' :: formatU v.natAbs else formatU v.toNat

theorem digitChar_isDigit {d : Nat} (h : d < 10) : isDigit (Nat.digitChar d) = true := by
  interval_cases d <;> rfl

theorem digitChar_value {d : Nat} (h : d < 10) : (Nat.digitChar d).toNat - '0'.toNat = d := by
  interval_cases d <;> rfl

/-- Reading digits after a value already read. -/
theorem foldl_digitsValue (a : Nat) (l : List Char) :
    l.foldl (fun n c => n * 10 + (c.toNat - '0'.toNat)) a = a * 10 ^ l.length + digitsValue l := by
  unfold digitsValue
  induction l generalizing a with
  | nil => simp
  | cons c l ih =>
    rw [List.foldl_cons, List.foldl_cons, ih, ih (0 * 10 + _), List.length_cons, pow_succ]
    ring

theorem digitsValue_append (l₁ l₂ : List Char) :
    digitsValue (l₁ ++ l₂) = digitsValue l₁ * 10 ^ l₂.length + digitsValue l₂ := by
  rw [digitsValue, List.foldl_append, foldl_digitsValue]; rfl

theorem digitsValue_cons (c : Char) (l : List Char) :
    digitsValue (c :: l) = (c.toNat - '0'.toNat) * 10 ^ l.length + digitsValue l := by
  rw [← List.singleton_append, digitsValue_append]
  simp [digitsValue]

theorem digitsValue_zeros_append (k : Nat) (l : List Char) :
    digitsValue (List.replicate k '0' ++ l) = digitsValue l := by
  induction k with
  | zero => rfl
  | succ k ih => rw [List.replicate_succ, List.cons_append, digitsValue_cons, ih]; simp

/-- The digits `toDigitsCore` writes in front of what it has written already. -/
theorem toDigitsCore_isDigit {f n : Nat} {ds : List Char} {c : Char}
    (h : c ∈ Nat.toDigitsCore 10 f n ds) : isDigit c = true ∨ c ∈ ds := by
  induction f generalizing n ds with
  | zero => exact .inr h
  | succ f ih =>
    have hd := digitChar_isDigit (Nat.mod_lt n (by norm_num : 10 > 0))
    simp only [Nat.toDigitsCore] at h
    split at h
    · exact (List.mem_cons.1 h).imp (fun h : c = _ => h ▸ hd) id
    · rcases ih h with h | h
      · exact .inl h
      · exact (List.mem_cons.1 h).imp (fun h : c = _ => h ▸ hd) id

/-- With enough fuel, `toDigitsCore` writes the digits of `n` in front of `ds`. -/
theorem digitsValue_toDigitsCore {f n : Nat} (ds : List Char) (hf : n < f) :
    digitsValue (Nat.toDigitsCore 10 f n ds) = n * 10 ^ ds.length + digitsValue ds := by
  induction f generalizing n ds with
  | zero => omega
  | succ f ih =>
    have hv := digitChar_value (Nat.mod_lt n (by norm_num : 10 > 0))
    have hn := Nat.div_add_mod n 10
    simp only [Nat.toDigitsCore]
    split
    · rw [digitsValue_cons, hv, Nat.mod_eq_of_lt (by omega)]
    · rw [ih _ (by omega), digitsValue_cons, hv, List.length_cons, pow_succ]
      generalize n / 10 = q at *
      generalize n % 10 = r at *
      subst hn
      ring

theorem digitsValue_formatU (n : Nat) : digitsValue (formatU n) = n := by
  rw [formatU, Nat.toDigits, digitsValue_toDigitsCore _ (Nat.lt_succ_self n)]
  simp [digitsValue]

theorem formatU_isDigit (n : Nat) : ∀ c ∈ formatU n, isDigit c = true := fun _ h =>
  (toDigitsCore_isDigit h).resolve_right (List.not_mem_nil _)

theorem formatU_ne_nil (n : Nat) : formatU n ≠ [] := by
  simp only [formatU, Nat.toDigits, Nat.toDigitsCore]
  split
  · simp
  · rw [← List.length_pos, Nat.toDigitsCore_lens_eq]; omega

theorem formatU_length_le {n w : Nat} (hn : n < 10 ^ w) (hw : 0 < w) :
    (formatU n).length ≤ w :=
  Nat.toDigitsCore_length 10 (by norm_num) _ _ _ hn hw

theorem formatUPadded_length {n w : Nat} (hn : n < 10 ^ w) (hw : 0 < w) :
    (formatUPadded w n).length = w := by
  have := formatU_length_le hn hw
  simp [formatUPadded]; omega

theorem formatUPadded_isDigit (w n : Nat) : ∀ c ∈ formatUPadded w n, isDigit c = true := by
  simp only [formatUPadded, List.mem_append, List.mem_replicate]
  rintro c (⟨-, rfl⟩ | h)
  · rfl
  · exact formatU_isDigit n c h

theorem isDigit_toNat {c : Char} (h : isDigit c = true) : 48 ≤ c.toNat ∧ c.toNat ≤ 57 := by
  simpa only [isDigit, Bool.and_eq_true, decide_eq_true_eq, Char.le_def, UInt32.le_def,
    BitVec.le_def] using h

/-- A run of digits is worth less than `10` to its length. -/
theorem digitsValue_lt {l : List Char} (hl : ∀ c ∈ l, isDigit c = true) :
    digitsValue l < 10 ^ l.length := by
  induction l with
  | nil => simp [digitsValue]
  | cons c l ih =>
    have hc := isDigit_toNat (hl c (List.mem_cons_self _ _))
    have hl' := ih fun d hd => hl d (List.mem_cons_of_mem _ hd)
    have h9 : c.toNat - '0'.toNat + 1 ≤ 10 := by show c.toNat - 48 + 1 ≤ 10; omega
    rw [digitsValue_cons, List.length_cons, pow_succ, mul_comm _ 10]
    calc (c.toNat - '0'.toNat) * 10 ^ l.length + digitsValue l
        < (c.toNat - '0'.toNat + 1) * 10 ^ l.length := by rw [Nat.succ_mul]; omega
      _ ≤ 10 * 10 ^ l.length := Nat.mul_le_mul_right _ h9

/-- A value of `10^w` or more is printed in full by `%0<w>u`, with more than `w` digits. -/
theorem formatUPadded_of_le {w n : Nat} (h : 10 ^ w ≤ n) :
    formatUPadded w n = formatU n ∧ w < (formatU n).length := by
  have hlt := digitsValue_lt (formatU_isDigit n)
  rw [digitsValue_formatU] at hlt
  have hw : w < (formatU n).length :=
    (Nat.pow_lt_pow_iff_right (by norm_num : 1 < 10)).1 (by omega)
  exact ⟨by simp [formatUPadded, Nat.sub_eq_zero_of_le hw.le], hw⟩

theorem digitsValue_formatUPadded (w n : Nat) : digitsValue (formatUPadded w n) = n := by
  rw [formatUPadded, digitsValue_zeros_append, digitsValue_formatU]

/-! ## §2 — `sscanf` -/

/-- A directive of a `scanf` format: an ordinary character, `%u` with an optional maximum field
width, or `%d`. -/
inductive ScanDirective where
  | lit (c : Char)
  | u (width : Option Nat)
  | d
  deriving DecidableEq, Repr

/-- The text a numeric conversion reads: white space skipped, then at most `width` characters of
an optional sign and digits.  Gives the sign, the digits and what is left, or `none` when no
digit is read. -/
def scanField (width : Option Nat) (s : List Char) : Option (Bool × List Char × List Char) :=
  let (neg, body, signed) := scanSign (s.dropWhile isSpace)
  let room := if signed then width.map (· - 1) else width
  let ds := ((room.map fun w => body.take w).getD body).takeWhile isDigit
  if ds = [] then none else some (neg, ds, body.drop ds.length)

/-- `sscanf(s, fmt, ...)`: the values it stores, in order, up to the first directive that
fails; their number is what `sscanf` returns (it returns `EOF` instead of `0` on an empty input,
which no caller distinguishes).  `%u` stores the `strtoul` value in an `unsigned int`, `%d` the
`strtol` value in an `int`. -/
def sscanf : List ScanDirective → List Char → List Int
  | [], _ => []
  | .lit c :: fmt, x :: s => if x = c then sscanf fmt s else []
  | .lit _ :: _, [] => []
  | .u w :: fmt, s =>
    match scanField w s with
    | some (neg, ds, rest) => ((strtoulOf neg ds % 2 ^ 32 : Nat) : Int) :: sscanf fmt rest
    | none => []
  | .d :: fmt, s =>
    match scanField none s with
    | some (neg, ds, rest) => toInt32 (strtolOf neg ds) :: sscanf fmt rest
    | none => []

/-- A digit is not white space. -/
theorem isSpace_of_isDigit {c : Char} (hc : isDigit c = true) : isSpace c = false := by
  simp only [isDigit, Bool.and_eq_true, decide_eq_true_eq] at hc
  obtain ⟨h1, -⟩ := hc
  simp only [isSpace, Bool.or_eq_false_iff, decide_eq_false_iff_not]
  refine ⟨⟨⟨⟨⟨?_, ?_⟩, ?_⟩, ?_⟩, ?_⟩, ?_⟩ <;> rintro rfl <;> revert h1 <;> decide

theorem scanSign_of_isDigit {c : Char} (hc : isDigit c = true) (r : List Char) :
    scanSign (c :: r) = (false, c :: r, false) := by
  unfold scanSign
  split
  · rename_i h; cases h; cases hc
  · rename_i h; cases h; cases hc
  · rfl

/-- A conversion reads a run of digits that starts the input, as far as its width and the first
non-digit let it. -/
theorem scanField_digits {ds rest : List Char} {width : Option Nat}
    (hds : ∀ c ∈ ds, isDigit c = true) (hne : ds ≠ [])
    (htake : ((width.map fun w => (ds ++ rest).take w).getD (ds ++ rest)).takeWhile isDigit = ds) :
    scanField width (ds ++ rest) = some (false, ds, rest) := by
  obtain ⟨c, ds', rfl⟩ := List.exists_cons_of_ne_nil hne
  have hc := hds c (List.mem_cons_self _ _)
  unfold scanField
  rw [List.cons_append, List.dropWhile_cons, isSpace_of_isDigit hc, if_neg Bool.false_ne_true,
    scanSign_of_isDigit hc]
  simp only [List.cons_append] at htake
  simp [htake]

theorem scanField_formatUPadded {w n : Nat} (hn : n < 10 ^ w) (hw : 0 < w) (rest : List Char) :
    scanField (some w) (formatUPadded w n ++ rest) = some (false, formatUPadded w n, rest) := by
  have hlen := formatUPadded_length hn hw
  refine scanField_digits (formatUPadded_isDigit w n) (by rintro h; simp [h] at hlen; omega) ?_
  simp only [Option.map_some', Option.getD_some]
  rw [List.take_left' hlen, List.takeWhile_eq_self_iff.2 (formatUPadded_isDigit w n)]

theorem scanField_formatU (n : Nat) {rest : List Char}
    (hrest : ∀ c ∈ rest.head?, isDigit c = false) :
    scanField none (formatU n ++ rest) = some (false, formatU n, rest) := by
  refine scanField_digits (formatU_isDigit n) (formatU_ne_nil n) ?_
  simp only [Option.map_none', Option.getD_none]
  rw [List.takeWhile_append_of_pos (formatU_isDigit n)]
  cases rest with
  | nil => simp
  | cons c r => simp [List.takeWhile_cons, hrest c rfl]

@[simp] theorem sscanf_nil (s : List Char) : sscanf [] s = [] := rfl

@[simp] theorem sscanf_lit (c : Char) (fmt : List ScanDirective) (rest : List Char) :
    sscanf (.lit c :: fmt) (c :: rest) = sscanf fmt rest := by
  simp [sscanf]

/-- **`%<w>u` reads back a field printed by `%0<w>u`** from a value below `10^w`, whatever
follows it. -/
theorem sscanf_u_formatUPadded {w n : Nat} (hn : n < 10 ^ w) (hw : 0 < w)
    (fmt : List ScanDirective) (rest : List Char) :
    sscanf (.u (some w) :: fmt) (formatUPadded w n ++ rest) =
      ((min n ulongMax % 2 ^ 32 : Nat) : Int) :: sscanf fmt rest := by
  simp only [sscanf, scanField_formatUPadded hn hw, strtoulOf, digitsValue_formatUPadded,
    Bool.false_eq_true, ite_false]
  congr 3
  split <;> omega

/-- The directives of `",%d,%d,…"` with `k` conversions. -/
def commaDs : Nat → List ScanDirective
  | 0 => []
  | k + 1 => .lit ',' :: .d :: commaDs k

/-- **`",%d"` repeated reads back values printed by `",%u"`**, up to a character that is not a
digit. -/
theorem sscanf_commaDs (vs : List Nat) {rest : List Char}
    (hrest : ∀ c ∈ rest.head?, isDigit c = false) :
    sscanf (commaDs vs.length) ((vs.map fun v => ',' :: formatU v).flatten ++ rest) =
      vs.map fun v : Nat => toInt32 (min (v : Int) longMax) := by
  induction vs with
  | nil => cases rest <;> rfl
  | cons v vs ih =>
    have hnext : ∀ c ∈ ((vs.map fun v => ',' :: formatU v).flatten ++ rest).head?,
        isDigit c = false := by
      cases vs with
      | nil => simpa using hrest
      | cons w ws => simp [isDigit]
    simp only [List.length_cons, commaDs, List.map_cons, List.flatten_cons, List.cons_append,
      List.append_assoc, sscanf_lit]
    simp only [sscanf, scanField_formatU v hnext, strtolOf, digitsValue_formatU,
      Bool.false_eq_true, ite_false, ih]

/-! ## §3 — reading a text file -/

/-- The lines successive `getline` calls return, each with its newline; the last line of a file
that does not end in a newline comes without one. -/
def getlines : List Char → List (List Char)
  | [] => []
  | c :: s =>
    if c = '\n' then ['\n'] :: getlines s
    else match getlines s with
      | [] => [[c]]
      | l :: ls => (c :: l) :: ls

/-- A line ended by a newline is the next line `getline` returns. -/
theorem getlines_line {l : List Char} (hl : '\n' ∉ l) (rest : List Char) :
    getlines (l ++ '\n' :: rest) = (l ++ ['\n']) :: getlines rest := by
  induction l with
  | nil => simp [getlines]
  | cons c l ih =>
    have hc : c ≠ '\n' := fun h => hl (h ▸ List.mem_cons_self _ _)
    simp [getlines, hc, ih (fun h => hl (List.mem_cons_of_mem _ h))]

/-- The C string a line buffer holds: the characters before the first `NUL`. -/
def cStringOfLine (line : List Char) : List Char := line.takeWhile (· ≠ '\x00')

theorem cStringOfLine_of_not_mem {line : List Char} (h : '\x00' ∉ line) :
    cStringOfLine line = line :=
  List.takeWhile_eq_self_iff.2 fun c hc => by
    simpa using fun h' : c = '\x00' => h (h' ▸ hc)

/-- `strchr(s, c)`: the text from the first `c` on, or `NULL`. -/
def strchr : List Char → Char → Option (List Char)
  | [], _ => none
  | x :: s, c => if x = c then some (x :: s) else strchr s c

theorem strchr_append {l : List Char} {c : Char} (h : c ∉ l) (rest : List Char) :
    strchr (l ++ c :: rest) c = some (c :: rest) := by
  induction l with
  | nil => simp [strchr]
  | cons x l ih =>
    have hx : x ≠ c := fun hx => h (hx ▸ List.mem_cons_self _ _)
    simp [strchr, hx, ih (fun h' => h (List.mem_cons_of_mem _ h'))]

end SmartManager.Libc
