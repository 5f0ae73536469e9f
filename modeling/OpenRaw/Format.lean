import Mathlib.Data.Nat.Digits

/-! # Python 2 byte strings and the `%` operator

The demos build every header line, file name and diagnostic with the `%` operator on
Python 2 `str` values, which are byte strings. `%d` prints an integer in decimal, `%s`
prints a `str` as it is and `None` as `None`, and `%r` prints a `str` quoted and
escaped. The lemmas say when a decimal field can be read back out of a longer string:
exactly when what follows it does not start with a digit.
-/

namespace OpenRaw

/-- A Python 2 `str`: a sequence of bytes. -/
abbrev Bytes := List UInt8

def ascii (s : String) : Bytes := s.toList.map Char.toUInt8

def digitByte (d : Nat) : UInt8 := (48 + d).toUInt8

def isDigit (b : UInt8) : Bool := 48 ≤ b.toNat && b.toNat ≤ 57

def startsWithDigit : Bytes → Bool
  | b :: _ => isDigit b
  | [] => false

/-- `'%d' % n` for `n ≥ 0`: most significant digit first, no leading zero. -/
def decimal (n : Nat) : Bytes :=
  if n = 0 then [digitByte 0] else (Nat.digits 10 n).reverse.map digitByte

/-- `'%d' % n`. -/
def formatD : Int → Bytes
  | .ofNat n => decimal n
  | .negSucc n => ascii "-" ++ decimal (n + 1)

/-- `'%s' % value` for a value that is a `str` or `None`. -/
def formatS : Option Bytes → Bytes
  | some s => s
  | none => ascii "None"

/-- The lowercase hexadecimal digit that `%02x` writes for `d < 16`. -/
def hexDigit (d : Nat) : UInt8 := if d < 10 then digitByte d else (87 + d).toUInt8

/-- How `repr` writes one byte of a `str` it quotes with `quote`. -/
def reprByte (quote c : UInt8) : Bytes :=
  if c = quote ∨ c = 92 then [92, c]
  else if c = 9 then ascii "\\t"
  else if c = 10 then ascii "\\n"
  else if c = 13 then ascii "\\r"
  else if c.toNat < 32 ∨ 127 ≤ c.toNat then
    ascii "\\x" ++ [hexDigit (c.toNat / 16), hexDigit (c.toNat % 16)]
  else [c]

/-- `'%r' % s` for a `str`, as CPython 2 writes it: in double quotes when the text holds
a single quote and no double quote, in single quotes otherwise. -/
def reprStr (s : Bytes) : Bytes :=
  let quote : UInt8 := if 39 ∈ s ∧ 34 ∉ s then 34 else 39
  quote :: s.flatMap (reprByte quote) ++ [quote]

def valueOf (digits : Bytes) : Nat :=
  digits.foldl (fun acc b => 10 * acc + (b.toNat - 48)) 0

/-- A nonempty run of digits, its value, and the bytes after it. -/
def readDecimal (bytes : Bytes) : Option (Nat × Bytes) :=
  match bytes.takeWhile isDigit with
  | [] => none
  | digits => some (valueOf digits, bytes.dropWhile isDigit)

def hexValue (b : UInt8) : Nat := if b.toNat < 58 then b.toNat - 48 else b.toNat - 87

/-- The byte a two-byte escape of `repr` stands for. -/
def unescape (c : UInt8) : UInt8 :=
  if c = 116 then 9 else if c = 110 then 10 else if c = 114 then 13 else c

/-- The body of a `repr` quoted with `quote`: the text, and the bytes after the quote. -/
def readReprBody (quote : UInt8) : Bytes → Option (Bytes × Bytes)
  | [] => none
  | c :: tail =>
    if c = quote then some ([], tail)
    else if c = 92 then
      match tail with
      | e :: rest =>
        if e = 120 then
          match rest with
          | high :: low :: rest => (readReprBody quote rest).map
              (Prod.map ((hexValue high * 16 + hexValue low).toUInt8 :: ·) id)
          | _ => none
        else (readReprBody quote rest).map (Prod.map (unescape e :: ·) id)
      | [] => none
    else (readReprBody quote tail).map (Prod.map (c :: ·) id)

/-- A `repr` of a `str` at the start of the bytes: the text, and the bytes after it. -/
def readRepr : Bytes → Option (Bytes × Bytes)
  | quote :: body => if quote = 34 ∨ quote = 39 then readReprBody quote body else none
  | [] => none

/-! ## Digits -/

theorem toNat_toUInt8 {n : Nat} (h : n < 256) : n.toUInt8.toNat = n := by
  simp [Nat.toUInt8, UInt8.toNat, UInt8.ofNat, Fin.ofNat, Nat.mod_eq_of_lt h]

theorem digitByte_toNat {d : Nat} (h : d < 10) : (digitByte d).toNat = 48 + d :=
  toNat_toUInt8 (by omega)

theorem isDigit_digitByte {d : Nat} (h : d < 10) : isDigit (digitByte d) := by
  simp [isDigit, digitByte_toNat h]
  omega

theorem isDigit_of_mem_decimal {n : Nat} {b : UInt8} (h : b ∈ decimal n) : isDigit b := by
  unfold decimal at h
  split at h
  · simp only [List.mem_singleton] at h
    exact h ▸ isDigit_digitByte (by omega)
  · obtain ⟨d, hd, rfl⟩ := List.mem_map.mp h
    exact isDigit_digitByte (Nat.digits_lt_base (by omega) (List.mem_reverse.mp hd))

theorem decimal_ne_nil (n : Nat) : decimal n ≠ [] := by
  unfold decimal
  split
  · simp
  · simpa [Nat.digits_ne_nil_iff_ne_zero]

theorem valueOf_decimal (n : Nat) : valueOf (decimal n) = n := by
  unfold decimal valueOf
  split
  · simp [digitByte_toNat, *]
  · have hlt : ∀ d ∈ (Nat.digits 10 n).reverse, d < 10 := fun d hd =>
      Nat.digits_lt_base (by omega) (List.mem_reverse.mp hd)
    rw [List.foldl_map, List.foldl_ext _ (fun acc d => 10 * acc + d) _
      (fun acc d hd => by simp only [digitByte_toNat (hlt d hd)]; omega), List.foldl_reverse]
    conv_rhs => rw [← Nat.ofDigits_digits 10 n, Nat.ofDigits_eq_foldr]
    simp [Nat.add_comm]

/-! ## No field breaks a line -/

theorem hexDigit_ne_newline {d : Nat} (h : d < 16) : hexDigit d ≠ 10 := fun he => by
  have hn : (hexDigit d).toNat = 10 := by rw [he]; rfl
  unfold hexDigit at hn
  split at hn
  · rw [digitByte_toNat ‹_›] at hn
    omega
  · rw [toNat_toUInt8 (by omega)] at hn
    omega

theorem newline_not_mem_reprByte {quote c : UInt8} (hq : quote ≠ 10) :
    10 ∉ reprByte quote c := by
  have hc : c.toNat < 256 := UInt8.toNat_lt_size c
  unfold reprByte
  split_ifs with hquote _ _ _ hcontrol
  · simp only [List.mem_cons, List.mem_singleton, List.not_mem_nil, or_false, not_or]
    refine ⟨by decide, fun h => ?_⟩
    subst h
    exact hquote.elim (fun h => hq h.symm) (by decide)
  all_goals try decide
  · have h₁ := hexDigit_ne_newline (d := c.toNat / 16) (by omega)
    have h₂ := hexDigit_ne_newline (d := c.toNat % 16) (by omega)
    simp only [List.mem_append, List.mem_cons, List.mem_singleton, List.not_mem_nil, or_false,
      not_or]
    exact ⟨by decide, fun h => h₁ h.symm, fun h => h₂ h.symm⟩
  · simp only [List.mem_singleton]
    rintro rfl
    exact hcontrol (Or.inl (by decide))

theorem newline_not_mem_reprStr (s : Bytes) : 10 ∉ reprStr s := by
  have hq : (if 39 ∈ s ∧ 34 ∉ s then (34 : UInt8) else 39) ≠ 10 := by split <;> decide
  intro h
  simp only [reprStr, List.mem_cons, List.mem_append, List.mem_flatMap, List.mem_singleton,
    List.not_mem_nil, or_false] at h
  rcases h with (h | ⟨c, _, h⟩) | h
  · exact hq h.symm
  · exact newline_not_mem_reprByte hq h
  · exact hq h.symm

theorem newline_not_mem_decimal (n : Nat) : 10 ∉ decimal n := fun h =>
  absurd (isDigit_of_mem_decimal h) (by decide)

theorem newline_not_mem_formatD (a : Int) : 10 ∉ formatD a := by
  cases a with
  | ofNat n => exact newline_not_mem_decimal n
  | negSucc n =>
    simp only [formatD, List.mem_append, not_or]
    exact ⟨by decide, newline_not_mem_decimal _⟩

/-! ## Reading a decimal field back -/

theorem takeWhile_isDigit_of_not_startsWithDigit {s : Bytes} (hs : startsWithDigit s = false) :
    s.takeWhile isDigit = [] := by
  cases s with
  | nil => rfl
  | cons b s => simp_all [startsWithDigit, List.takeWhile_cons]

theorem dropWhile_isDigit_of_not_startsWithDigit {s : Bytes} (hs : startsWithDigit s = false) :
    s.dropWhile isDigit = s := by
  cases s with
  | nil => rfl
  | cons b s => simp_all [startsWithDigit, List.dropWhile_cons]

theorem readDecimal_decimal_append (n : Nat) {s : Bytes} (hs : startsWithDigit s = false) :
    readDecimal (decimal n ++ s) = some (n, s) := by
  have hall : ∀ b ∈ decimal n, isDigit b = true := fun _ => isDigit_of_mem_decimal
  have htake : (decimal n ++ s).takeWhile isDigit = decimal n := by
    rw [List.takeWhile_append_of_pos hall, takeWhile_isDigit_of_not_startsWithDigit hs,
      List.append_nil]
  unfold readDecimal
  rw [htake]
  split
  · exact absurd ‹_› (decimal_ne_nil n)
  · rw [List.dropWhile_append_of_pos hall, dropWhile_isDigit_of_not_startsWithDigit hs,
      valueOf_decimal]

theorem decimal_append_cancel {m n : Nat} {s t : Bytes} (hs : startsWithDigit s = false)
    (ht : startsWithDigit t = false) (h : decimal m ++ s = decimal n ++ t) : m = n ∧ s = t := by
  have := readDecimal_decimal_append m hs
  rw [h, readDecimal_decimal_append n ht, Option.some.injEq, Prod.mk.injEq] at this
  exact ⟨this.1.symm, this.2.symm⟩

theorem startsWithDigit_decimal_append (n : Nat) (s : Bytes) :
    startsWithDigit (decimal n ++ s) = true := by
  obtain ⟨b, rest, hb⟩ := List.exists_cons_of_ne_nil (decimal_ne_nil n)
  simp [hb, startsWithDigit, isDigit_of_mem_decimal (hb ▸ List.mem_cons_self b rest)]

/-- Only a nonnegative number's `%d` starts with a digit. -/
theorem startsWithDigit_formatD_append (a : Int) (s : Bytes) :
    startsWithDigit (formatD a ++ s) = decide (0 ≤ a) := by
  cases a with
  | ofNat n => simp [formatD, startsWithDigit_decimal_append]
  | negSucc n => rfl

theorem formatD_append_cancel {a b : Int} {s t : Bytes} (hs : startsWithDigit s = false)
    (ht : startsWithDigit t = false) (h : formatD a ++ s = formatD b ++ t) : a = b ∧ s = t := by
  have hsign := congrArg startsWithDigit h
  simp only [startsWithDigit_formatD_append, decide_eq_decide] at hsign
  cases a with
  | ofNat m =>
    cases b with
    | ofNat n =>
      obtain ⟨rfl, rfl⟩ := decimal_append_cancel hs ht h
      exact ⟨rfl, rfl⟩
    | negSucc n => simp at hsign
  | negSucc m =>
    cases b with
    | ofNat n => simp at hsign
    | negSucc n =>
      simp only [formatD, List.append_assoc, List.append_cancel_left_eq] at h
      obtain ⟨hmn, rfl⟩ := decimal_append_cancel hs ht h
      exact ⟨by rw [Nat.add_right_cancel hmn], rfl⟩

/-! ## Reading a quoted `%r` back -/

theorem hexValue_hexDigit {d : Nat} (h : d < 16) : hexValue (hexDigit d) = d := by
  unfold hexDigit
  split
  · rw [hexValue, digitByte_toNat ‹_›, if_pos (by omega)]
    omega
  · rw [hexValue, toNat_toUInt8 (by omega), if_neg (by omega)]
    omega

theorem readReprBody_reprByte_append {quote : UInt8} (hq : quote = 34 ∨ quote = 39)
    (c : UInt8) (more : Bytes) :
    readReprBody quote (reprByte quote c ++ more) =
      (readReprBody quote more).map (Prod.map (c :: ·) id) := by
  have hc : c.toNat < 256 := UInt8.toNat_lt_size c
  have h92 : quote ≠ 92 := by rcases hq with rfl | rfl <;> decide
  have hescapes : ascii "\\t" = [92, 116] ∧ ascii "\\n" = [92, 110] ∧
      ascii "\\r" = [92, 114] ∧ ascii "\\x" = [92, 120] := ⟨rfl, rfl, rfl, rfl⟩
  unfold reprByte
  simp only [hescapes, List.cons_append, List.nil_append]
  split_ifs with hescaped htab hnewline hreturn <;> rw [readReprBody.eq_def]
  · rcases hescaped with rfl | rfl <;> rcases hq with rfl | rfl <;> simp [unescape]
  · subst htab
    rcases hq with rfl | rfl <;> simp [unescape]
  · subst hnewline
    rcases hq with rfl | rfl <;> simp [unescape]
  · subst hreturn
    rcases hq with rfl | rfl <;> simp [unescape]
  · have hbyte : (hexValue (hexDigit (c.toNat / 16)) * 16 +
        hexValue (hexDigit (c.toNat % 16))).toUInt8 = c := by
      rw [hexValue_hexDigit (by omega), hexValue_hexDigit (by omega), Nat.div_add_mod']
      exact UInt8.toNat.inj (toNat_toUInt8 hc)
    simp [h92.symm, hbyte]
  · simp [not_or.mp hescaped]

theorem readReprBody_flatMap_append {quote : UInt8} (hq : quote = 34 ∨ quote = 39)
    (s rest : Bytes) :
    readReprBody quote (s.flatMap (reprByte quote) ++ quote :: rest) = some (s, rest) := by
  induction s with
  | nil =>
    rw [List.flatMap_nil, List.nil_append, readReprBody.eq_def]
    simp
  | cons c s ih =>
    rw [List.flatMap_cons, List.append_assoc, readReprBody_reprByte_append hq, ih]
    rfl

theorem readRepr_reprStr_append (s rest : Bytes) :
    readRepr (reprStr s ++ rest) = some (s, rest) := by
  have hq : (if 39 ∈ s ∧ 34 ∉ s then (34 : UInt8) else 39) = 34 ∨
      (if 39 ∈ s ∧ 34 ∉ s then (34 : UInt8) else 39) = 39 := by
    split <;> simp
  simp only [reprStr, List.cons_append, List.append_assoc, List.singleton_append, readRepr,
    if_pos hq]
  exact readReprBody_flatMap_append hq s rest

theorem reprStr_append_cancel {s s' r r' : Bytes} (h : reprStr s ++ r = reprStr s' ++ r') :
    s = s' ∧ r = r' := by
  have := readRepr_reprStr_append s r
  rw [h, readRepr_reprStr_append, Option.some.injEq, Prod.mk.injEq] at this
  exact ⟨this.1.symm, this.2.symm⟩

/-! ## Fields ended by a separator -/

/-- Two fields ended by the first occurrence of a byte they do not hold read back apart. -/
theorem append_cons_cancel {c : UInt8} {a a' r r' : Bytes} (ha : c ∉ a) (ha' : c ∉ a')
    (h : a ++ c :: r = a' ++ c :: r') : a = a' ∧ r = r' := by
  induction a generalizing a' with
  | nil =>
    cases a' with
    | nil => exact ⟨rfl, (List.cons.inj h).2⟩
    | cons b a' => exact (ha' (List.mem_cons.mpr (.inl (List.cons.inj h).1))).elim
  | cons b a ih =>
    cases a' with
    | nil => exact (ha (List.mem_cons.mpr (.inl (List.cons.inj h).1.symm))).elim
    | cons b' a' =>
      obtain ⟨rfl, ht⟩ := List.cons.inj h
      obtain ⟨rfl, hr⟩ :=
        ih (List.not_mem_of_not_mem_cons ha) (List.not_mem_of_not_mem_cons ha') ht
      exact ⟨rfl, hr⟩

end OpenRaw
