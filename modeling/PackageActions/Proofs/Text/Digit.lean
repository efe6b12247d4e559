import PackageActions.Proofs.Text.Reading

/-!
# Numbers and their digits

The digits of a number stand for that number, and they begin with a zero only for zero itself
(`valueIn_toDigits`, `exists_toDigits_eq_cons`). A number that is written with a fixed count of digits is
read off them again (`takes_fixedDigits`).
-/

namespace PackageActions.Text

/-! ## Decimal numbers -/

theorem digitValue?_of_isDigit {c : Char} (h : c.isDigit = true) :
    digitValue? c = some (c.toNat - '0'.toNat) := by
  have hbounds : ('0' ≤ c && c ≤ '9') = true := by simpa [Char.isDigit, Char.le_def] using h
  rw [digitValue?, if_pos hbounds]
  rfl

theorem valueIn_toDigits (n : Nat) : valueIn 10 (Nat.toDigits 10 n) = n := by
  have hdigit : ∀ c ∈ Nat.toDigits 10 n, c.isDigit = true := fun c hc =>
    Nat.isDigit_of_mem_toDigits (by decide) (by decide) hc
  have hfold : ∀ (digits : List Char) (start : Nat), (∀ c ∈ digits, c.isDigit = true) →
      digits.foldl (fun n c => n * 10 + (digitValue? c).getD 0) start =
        Nat.ofDigitChars 10 digits start := by
    intro digits
    induction digits with
    | nil => exact fun _ _ => rfl
    | cons c rest ih =>
        intro start h
        obtain ⟨hc, hrest⟩ := List.forall_mem_cons.1 h
        rw [List.foldl_cons, ih _ hrest, digitValue?_of_isDigit hc, Nat.mul_comm]
        rfl
  rw [valueIn, hfold _ _ hdigit, Nat.ofDigitChars_ten_toDigits]

/-- A positive number is written without a zero in front. -/
theorem exists_toDigits_eq_cons (n : Nat) (hn : 0 < n) :
    ∃ first more, Nat.toDigits 10 n = first :: more ∧ '1' ≤ first ∧ first ≤ '9' := by
  induction n using Nat.strongRecOn with
  | ind n ih =>
      by_cases hsmall : n < 10
      · have hfirst : ∀ d < 10, 0 < d → '1' ≤ d.digitChar ∧ d.digitChar ≤ '9' := by decide
        exact ⟨n.digitChar, [], Nat.toDigits_of_lt_base hsmall, hfirst n hsmall hn⟩
      · have hbase : 10 ≤ n := Nat.le_of_not_lt hsmall
        obtain ⟨first, more, hdigits, hfirst⟩ := ih (n / 10) (by omega) (by omega)
        refine ⟨first, more ++ [(n % 10).digitChar], ?_, hfirst⟩
        rw [Nat.toDigits_of_base_le (by decide) hbase, hdigits, List.cons_append]

/-! ## Digits of a fixed count -/

namespace Parser

variable {base : Nat}

theorem takes_digit (hbase : base ≤ 16) {d : Nat} (hd : d < base) (rest : List Char) :
    Takes (satisfy (isDigitIn base)) (d.digitChar :: rest) d.digitChar rest ∧
      (digitValue? d.digitChar).getD 0 = d := by
  have hvalue : digitValue? d.digitChar = some d := by
    have hall : ∀ d < 16, digitValue? d.digitChar = some d := by decide
    exact hall d (Nat.lt_of_lt_of_le hd hbase)
  constructor
  · exact takes_satisfy (by simp [isDigitIn, hvalue, hd]) rest
  · rw [hvalue, Option.getD_some]

theorem Takes.fixedDigits_succ {k higher d : Nat} {text rest : List Char} (hbase : base ≤ 16)
    (hd : d < base) (h : Takes (fixedDigits base k) text higher (d.digitChar :: rest)) :
    Takes (fixedDigits base (k + 1)) text (higher * base + d) rest := by
  obtain ⟨hdigit, hvalue⟩ := takes_digit hbase hd rest
  refine h.bind (hdigit.bind ?_)
  rw [hvalue]
  exact takes_pure (higher * base + d) rest

theorem takes_zeros (hbase : base ≤ 16) (hpos : 0 < base) (k : Nat) (rest : List Char) :
    Takes (fixedDigits base k) (List.replicate k '0' ++ rest) 0 rest := by
  induction k generalizing rest with
  | zero => exact takes_pure 0 rest
  | succ k ih =>
      have h := (ih ('0' :: rest)).fixedDigits_succ (d := 0) hbase hpos
      rwa [Nat.zero_mul, Nat.zero_add, List.append_cons, ← List.replicate_succ'] at h

/-- A number with no more digits than there is room for is read off its digits. -/
theorem takes_fixedDigits (hbase : base ≤ 16) (hone : 1 < base) (k n : Nat) (rest : List Char)
    (hk : (Nat.toDigits base n).length ≤ k) :
    Takes (fixedDigits base k) (digitsIn base k n ++ rest) n rest := by
  induction k generalizing n rest with
  | zero =>
      have hpos : 0 < (Nat.toDigits base n).length := Nat.length_toDigits_pos
      omega
  | succ k ih =>
      by_cases hsmall : n < base
      · -- the last digit alone, behind zeros
        have hdigits : digitsIn base (k + 1) n = List.replicate k '0' ++ [n.digitChar] := by
          simp [digitsIn, Nat.toDigits_of_lt_base hsmall]
        have h := (takes_zeros hbase (by omega) k (n.digitChar :: rest)).fixedDigits_succ hbase hsmall
        rwa [Nat.zero_mul, Nat.zero_add, List.append_cons, ← hdigits] at h
      · have hsplit := Nat.toDigits_of_base_le hone (Nat.le_of_not_lt hsmall)
        have hlength : (Nat.toDigits base n).length = (Nat.toDigits base (n / base)).length + 1 := by
          rw [hsplit, List.length_append, List.length_singleton]
        have hdigits : digitsIn base (k + 1) n =
            digitsIn base k (n / base) ++ [(n % base).digitChar] := by
          simp only [digitsIn, hlength, Nat.add_sub_add_right]
          rw [hsplit, List.append_assoc]
        have h := (ih (n / base) ((n % base).digitChar :: rest) (by omega)).fixedDigits_succ hbase
          (Nat.mod_lt n (by omega))
        rwa [Nat.div_add_mod', List.append_cons, ← hdigits] at h

end Parser

end PackageActions.Text
