import GradedReading.Format.Toml.Document
import GradedReading.Number.Shortest
import GradedReading.Proofs.Text.Lines

/-!
# GradedReading.Proofs.Format.Integer

Natural numbers in TOML documents are read back as they were written.

**Key idea:** three properties of the digits of a number decide how they are read: they are digits,
they write the number, and only the number zero begins with a zero.
-/

namespace GradedReading

open Number

namespace Number

/-! ### Decimal digits -/

variable {n : Nat} {c : Char}

theorem isDigit_of_mem_decimalDigits (h : c ∈ decimalDigits n) : isDigit c = true := by
  have hdigit : c.isDigit = true := Nat.isDigit_of_mem_toDigits (by omega) (by omega) h
  simp only [Char.isDigit, Bool.and_eq_true, decide_eq_true_eq] at hdigit
  simpa [isDigit, Char.le_def] using hdigit

theorem all_isDigit_decimalDigits (n : Nat) : (decimalDigits n).all isDigit = true :=
  List.all_eq_true.2 fun _ => isDigit_of_mem_decimalDigits

/-- A number has a first digit. -/
theorem exists_decimalDigits_eq_cons (n : Nat) :
    ∃ c ds, decimalDigits n = c :: ds ∧ isDigit c = true := by
  obtain ⟨c, ds, heq⟩ : ∃ c ds, decimalDigits n = c :: ds :=
    List.exists_cons_of_ne_nil Nat.toDigits_ne_nil
  exact ⟨c, ds, heq, isDigit_of_mem_decimalDigits (heq ▸ List.mem_cons_self ..)⟩

/-- A number is what its digits write. -/
theorem digitsValue_decimalDigits (n : Nat) : digitsValue 10 (decimalDigits n) = n := by
  have hfold : ∀ ds : List Char, (∀ c ∈ ds, isDigit c = true) → ∀ m,
      ds.foldl (fun m c => m * 10 + (digitValue? c).getD 0) m = Nat.ofDigitChars 10 ds m := by
    intro ds hds
    induction ds with
    | nil => exact fun _ => rfl
    | cons c ds ih =>
        intro m
        obtain ⟨hc, hrest⟩ := List.forall_mem_cons.1 hds
        have hvalue : (digitValue? c).getD 0 = c.toNat - '0'.toNat := by simp [digitValue?, hc]
        rw [List.foldl_cons, hvalue, ih hrest, Nat.mul_comm]
        rfl
  rw [digitsValue, hfold _ fun _ => isDigit_of_mem_decimalDigits]
  exact Nat.ofDigitChars_toDigits (by omega) (by omega)

theorem eq_zero_of_digitChar : ∀ n < 10, Nat.digitChar n = '0' → n = 0 := by decide

/-- Only the number zero begins with a zero. -/
theorem eq_zero_of_head?_decimalDigits (h : (decimalDigits n).head? = some '0') : n = 0 := by
  induction n using Nat.strongRecOn with
  | ind n ih =>
      by_cases hn : n < 10
      · rw [decimalDigits, Nat.toDigits_of_lt_base hn] at h
        exact eq_zero_of_digitChar n hn (Option.some.inj h)
      · rw [decimalDigits, Nat.toDigits_of_base_le (by omega) (by omega),
          List.head?_append_of_ne_nil _ Nat.toDigits_ne_nil] at h
        have hzero := ih (n / 10) (by omega) h
        omega

theorem beq_of_isDigit {x : Char} (hc : isDigit c = true) (hx : isDigit x = false) :
    (c == x) = false := by
  rw [beq_eq_false_iff_ne]
  rintro rfl
  exact Bool.false_ne_true (hx.symm.trans hc)

theorem splitSign_of_isDigit (h : isDigit c = true) (cs : List Char) :
    splitSign (c :: cs) = (false, c :: cs) := by
  unfold splitSign
  split
  · next heq => simp_all [isDigit]
  · next heq => simp_all [isDigit]
  · rfl

end Number

namespace Format.Toml

/-! ### Scalars -/

theorem integerValue?_decimalDigits (n : Nat) :
    integerValue? (decimalDigits n) = some (n : Int) := by
  obtain ⟨c, ds, heq, hc⟩ := exists_decimalDigits_eq_cons n
  have hall := all_isDigit_decimalDigits n
  have hvalue := digitsValue_decimalDigits n
  rw [heq] at hall hvalue ⊢
  simp [integerValue?, splitSign_of_isDigit hc, hall, hvalue]

/-- Digits without underscores stay as they are. -/
theorem withoutUnderscores?_decimalDigits (isDigit : Char → Bool) (n : Nat) :
    withoutUnderscores? isDigit (decimalDigits n) = some (decimalDigits n) := by
  have hnone : ∀ c ∈ decimalDigits n, (c == '_') = false := fun c hc =>
    beq_of_isDigit (isDigit_of_mem_decimalDigits hc) (by decide)
  have hwhole : Text.splitOnClass (· == '_') (decimalDigits n) = [decimalDigits n] := by
    rw [Text.splitOnClass_eq]
    exact List.splitOnP_eq_singleton hnone
  simp [withoutUnderscores?, hwhole, partsFit]

theorem decimalInteger?_decimalDigits (n : Nat) :
    decimalInteger? (decimalDigits n) = some (.integer (some n)) := by
  rw [decimalInteger?, withoutUnderscores?_decimalDigits, Option.map_some,
    integerValue?_decimalDigits]

theorem numberOrDate?_decimalDigits (n : Nat) :
    numberOrDate? (decimalDigits n) (decimalDigits n) = some (.integer (some n)) := by
  have hrest : (decimalDigits n).dropWhile isDigit = [] :=
    List.dropWhile_eq_nil_iff.2 fun _ => isDigit_of_mem_decimalDigits
  have hzero : ((decimalDigits n).head? == some '0' && (decimalDigits n).length > 1) = false := by
    rw [Bool.and_eq_false_imp]
    intro h
    obtain rfl := eq_zero_of_head?_decimalDigits (eq_of_beq h)
    rfl
  simp [numberOrDate?, hrest, hzero, decimalInteger?_decimalDigits]

theorem scalar?_decimalDigits (n : Nat) :
    scalar? (decimalDigits n) = some (.integer (some n)) := by
  have hall := all_isDigit_decimalDigits n
  have hnumber := numberOrDate?_decimalDigits n
  obtain ⟨c, ds, heq, hc⟩ := exists_decimalDigits_eq_cons n
  rw [heq] at hall hnumber ⊢
  -- whatever else begins a scalar has a character that is no digit
  have hword : ∀ w : List Char, w.all isDigit = false → (c :: ds == w) = false := by
    intro w hw
    rw [beq_eq_false_iff_ne]
    rintro rfl
    exact Bool.false_ne_true (hw.symm.trans hall)
  unfold scalar?
  split
  case h_6 =>
    rw [hword _ (by decide), hword _ (by decide)]
    simp [signed?, hc, hnumber]
  all_goals
    next h =>
      rw [h] at hall
      exact absurd hall (by simp [isDigit])

theorem endsScalar_of_isDigit {c : Char} (h : isDigit c = true) : endsScalar c = false := by
  have hne : ∀ x, isDigit x = false → (c == x) = false := fun x => beq_of_isDigit h
  have hrest : ['\n', '\r', ',', '=', '[', ']', '\x7b', '\x7d', '#'].all (!isDigit ·) = true := rfl
  rw [endsScalar, isSpace, hne ' ' (by decide), hne '\t' (by decide)]
  rw [Bool.or_self, Bool.false_or, Bool.eq_false_iff]
  intro hmem
  have hc := List.all_eq_true.1 hrest c (List.contains_iff_mem.1 hmem)
  rw [h] at hc
  cases hc

/-- A number at the end of a text is read to the end. -/
theorem value?_decimalDigits (steps depth n : Nat) :
    value? (steps + 1) depth (decimalDigits n) = some (.integer (some n), []) := by
  have hscalar := scalar?_decimalDigits n
  have htext : scalarText (decimalDigits n) = (decimalDigits n, []) := by
    have htake : (decimalDigits n).takeWhile (!endsScalar ·) = decimalDigits n := by
      rw [List.takeWhile_eq_self_iff]
      intro c hc
      rw [endsScalar_of_isDigit (isDigit_of_mem_decimalDigits hc), Bool.not_false]
    simp [scalarText, htake]
  obtain ⟨c, ds, heq, hc⟩ := exists_decimalDigits_eq_cons n
  rw [heq] at hscalar htext ⊢
  have hne : ∀ x, isDigit x = false → (c == x) = false := fun x => beq_of_isDigit hc
  rw [value?, hne '"' (by decide), hne singleQuote (by decide), hne '[' (by decide),
    hne '\x7b' (by decide), htext]
  simp [hscalar]

end Format.Toml

end GradedReading
