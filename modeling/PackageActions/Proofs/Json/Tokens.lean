import PackageActions.Json.Reader
import PackageActions.Json.Writer
import PackageActions.Proofs.Text.Digit

/-!
# Scalars as they are written

Every string and every integer of 64 bits is read off its written form, whatever stands behind it
(`takes_stringToken`, `takes_numeral`), provided that a number is not followed by what could belong to it.
-/

namespace PackageActions.Json

open Text Parser

/-! ## Blanks -/

/-- The characters that may stand between tokens. -/
def isBlank (c : Char) : Bool := c == ' ' || c == '\t' || c == '\n' || c == '\r'

/-- Blanks and nothing else. -/
def Blank (w : List Char) : Prop := ∀ c ∈ w, isBlank c = true

/-- The text does not begin with a blank. -/
def NotBlank (text : List Char) : Prop := ∀ c ∈ text.head?, isBlank c = false

theorem takes_blanks {w rest : List Char} (hw : Blank w) (hrest : NotBlank rest) :
    Takes blanks (w ++ rest) () rest :=
  (takes_takeWhile hw hrest).bind (takes_pure () rest)

theorem takes_token {α : Type} {p : Parser α} {a : α} {text w rest : List Char}
    (hp : Takes p text a (w ++ rest)) (hw : Blank w) (hrest : NotBlank rest) :
    Takes (token p) text a rest :=
  hp.seqLeft (takes_blanks hw hrest)

theorem takes_mark (c : Char) {w rest : List Char} (hw : Blank w) (hrest : NotBlank rest) :
    Takes (mark c) (c :: (w ++ rest)) c rest :=
  takes_token (takes_char c (w ++ rest)) hw hrest

theorem refuses_mark {c : Char} {text : List Char} (h : c ∉ text.head?) : Refuses (mark c) text :=
  (refuses_char h).seqLeft

/-! ## Strings -/

theorem takes_escape {letter c : Char} (h : shortEscape? letter = some c) (hu : letter ≠ 'u')
    (rest : List Char) : Takes escape ('\\' :: letter :: rest) c rest := by
  refine (takes_char '\\' (letter :: rest)).bind ((takes_satisfy rfl rest).bind ?_)
  rw [beq_false_of_ne hu, h]
  exact takes_pure c rest

/-- A control character is read off its code point. -/
theorem takes_escapedUnit {c : Char} (hc : c.toNat < 0x20) (rest : List Char) :
    Takes escape ('\\' :: 'u' :: (digitsIn 16 4 c.toNat ++ rest)) c rest := by
  have hlength : (Nat.toDigits 16 c.toNat).length ≤ 4 := by
    have hall : ∀ n < 0x20, (Nat.toDigits 16 n).length ≤ 4 := by decide
    exact hall c.toNat hc
  have hunit : Takes escapedUnit (digitsIn 16 4 c.toNat ++ rest) c rest := by
    refine (takes_fixedDigits (by decide) (by decide) 4 c.toNat rest hlength).bind ?_
    have hhigh : (decide (0xd800 ≤ c.toNat) && decide (c.toNat < 0xdc00)) = false := by
      simp only [Bool.and_eq_false_iff, decide_eq_false_iff_not]
      omega
    have hlow : (decide (0xdc00 ≤ c.toNat) && decide (c.toNat < 0xe000)) = false := by
      simp only [Bool.and_eq_false_iff, decide_eq_false_iff_not]
      omega
    simp only [hhigh, hlow, Bool.false_eq_true, if_false, Char.ofNat_toNat]
    exact takes_pure c rest
  exact (takes_char '\\' _).bind ((takes_satisfy rfl _).bind hunit)

/-- A character is written by a letter, by its code point or as it stands. -/
theorem jsonEscape_cases (c : Char) :
    (∃ letter, shortEscape? letter = some c ∧ letter ≠ 'u' ∧ jsonEscape c = ['\\', letter]) ∨
      (c.toNat < 0x20 ∧ jsonEscape c = '\\' :: 'u' :: digitsIn 16 4 c.toNat) ∨
      (c ≠ quote ∧ c ≠ '\\' ∧ ' ' ≤ c ∧ jsonEscape c = [c]) := by
  unfold jsonEscape
  split_ifs with hquote hbackslash hbackspace htab hnewline hfeed hreturn hcontrol
  · exact Or.inl ⟨quote, by rw [hquote]; rfl, by decide, rfl⟩
  · exact Or.inl ⟨'\\', by rw [hbackslash]; rfl, by decide, rfl⟩
  · exact Or.inl ⟨'b', by rw [hbackspace]; rfl, by decide, rfl⟩
  · exact Or.inl ⟨'t', by rw [htab]; rfl, by decide, rfl⟩
  · exact Or.inl ⟨'n', by rw [hnewline]; rfl, by decide, rfl⟩
  · exact Or.inl ⟨'f', by rw [hfeed]; rfl, by decide, rfl⟩
  · exact Or.inl ⟨'r', by rw [hreturn]; rfl, by decide, rfl⟩
  · exact Or.inr (Or.inl ⟨hcontrol, rfl⟩)
  · have hspace : ' ' ≤ c := by
      show ' '.toNat ≤ c.toNat
      exact Nat.le_of_not_lt hcontrol
    exact Or.inr (Or.inr ⟨hquote, hbackslash, hspace, rfl⟩)

theorem takes_stringChar (c : Char) (rest : List Char) :
    Takes stringChar (jsonEscape c ++ rest) c rest := by
  have hescaped : ∀ {text : List Char}, Takes escape ('\\' :: text) c rest →
      Takes stringChar ('\\' :: text) c rest := fun h =>
    h.orElse_right (refuses_satisfy (by simp))
  rcases jsonEscape_cases c with ⟨letter, hletter, hu, h⟩ | ⟨hcontrol, h⟩ | ⟨hquote, hbackslash, hspace, h⟩
  · rw [h]
    exact hescaped (takes_escape hletter hu rest)
  · rw [h]
    exact hescaped (takes_escapedUnit hcontrol rest)
  · have hplain : (c != '\x22' && c != '\\' && decide (' ' ≤ c)) = true := by
      simp [show c ≠ '\x22' from hquote, hbackslash, hspace]
    rw [h]
    exact (takes_satisfy hplain rest).orElse_left _

theorem refuses_stringChar_quote (rest : List Char) : Refuses stringChar (quote :: rest) :=
  Refuses.orElse (refuses_satisfy (by simp [quote])) (refuses_char (by simp [quote])).bind

theorem takes_many_stringChar (cs rest : List Char) :
    Takes (many stringChar) (cs.flatMap jsonEscape ++ quote :: rest) cs (quote :: rest) := by
  induction cs with
  | nil => exact (refuses_stringChar_quote rest).many
  | cons c cs ih =>
      rw [List.flatMap_cons, List.append_assoc]
      refine (takes_stringChar c _).many ?_ ih
      have hpos : 0 < (jsonEscape c).length := by
        rcases jsonEscape_cases c with ⟨_, -, -, h⟩ | ⟨-, h⟩ | ⟨-, -, -, h⟩ <;> simp [h]
      simp only [List.length_append]
      omega

theorem toList_jsonQuoted (s : String) :
    (jsonQuoted s).toList = quote :: (s.toList.flatMap jsonEscape ++ [quote]) := by
  rw [jsonQuoted, String.toList_ofList, quoted, List.cons_append]

theorem takes_stringToken (s : String) (rest : List Char) :
    Takes stringToken ((jsonQuoted s).toList ++ rest) s rest := by
  rw [toList_jsonQuoted, List.cons_append, List.append_assoc]
  refine (takes_char quote _).bind ((takes_many_stringChar s.toList rest).bind ?_)
  refine (takes_char quote rest).bind ?_
  rw [String.ofList_toList]
  exact takes_pure s rest

/-! ## Integers -/

/-- The characters that end a value: blanks, and the marks that may stand behind it. -/
def endsValue (c : Char) : Bool := isBlank c || c == ',' || c == ']' || c == '\x7d'

/-- What stands behind a value does not belong to it. -/
def Ended (rest : List Char) : Prop := ∀ c ∈ rest.head?, endsValue c = true

theorem endsValue_iff {c : Char} : endsValue c = true ↔
    c = ' ' ∨ c = '\t' ∨ c = '\n' ∨ c = '\r' ∨ c = ',' ∨ c = ']' ∨ c = '\x7d' := by
  simp [endsValue, isBlank, or_assoc]

theorem Ended.not_isDigit {rest : List Char} (h : Ended rest) : ∀ c ∈ rest.head?, c.isDigit = false := by
  intro c hc
  rcases endsValue_iff.1 (h c hc) with rfl | rfl | rfl | rfl | rfl | rfl | rfl <;> rfl

theorem Ended.refuses_fraction {rest : List Char} (h : Ended rest) : Refuses fractionDigits rest :=
  Refuses.bind (refuses_char fun hc => absurd (h _ hc) (by decide))

theorem Ended.refuses_exponent {rest : List Char} (h : Ended rest) : Refuses exponentValue rest := by
  refine Refuses.bind (refuses_satisfy fun c hc => ?_)
  rcases endsValue_iff.1 (h c hc) with rfl | rfl | rfl | rfl | rfl | rfl | rfl <;> rfl

theorem takes_wholeDigits (n : Nat) {rest : List Char} (h : Ended rest) :
    Takes wholeDigits (Nat.toDigits 10 n ++ rest) (Nat.toDigits 10 n) rest := by
  cases n with
  | zero =>
      exact ((takes_char '0' rest).bind (takes_pure ['0'] rest)).orElse_left _
  | succ n =>
      obtain ⟨first, more, hdigits, hlow, hhigh⟩ := exists_toDigits_eq_cons (n + 1) n.succ_pos
      have hfirst : (decide ('1' ≤ first) && decide (first ≤ '9')) = true := by simp [hlow, hhigh]
      have hzero : first ≠ '0' := by
        rintro rfl
        exact absurd hlow (by decide)
      have hmore : ∀ c ∈ more, c.isDigit = true := fun c hc =>
        Nat.isDigit_of_mem_toDigits (b := 10) (n := n + 1) (by decide) (by decide)
          (hdigits ▸ List.mem_cons_of_mem first hc)
      rw [hdigits]
      refine Takes.orElse_right ?_ (refuses_char (by simpa using hzero)).bind
      refine (takes_satisfy hfirst _).bind ?_
      exact (takes_takeWhile hmore h.not_isDigit).bind (takes_pure (first :: more) rest)

theorem exists_toDigits_eq_digit_cons (n : Nat) :
    ∃ first more, Nat.toDigits 10 n = first :: more ∧ first.isDigit = true := by
  obtain ⟨first, more, h⟩ := List.exists_cons_of_ne_nil (Nat.toDigits_ne_nil (b := 10) (n := n))
  have hmem : first ∈ Nat.toDigits 10 n := by
    rw [h]
    exact List.mem_cons_self
  exact ⟨first, more, h, Nat.isDigit_of_mem_toDigits (by decide) (by decide) hmem⟩

theorem toList_toString (n : Int) :
    (toString n).toList = (if n < 0 then ['-'] else []) ++ Nat.toDigits 10 n.natAbs := by
  cases n with
  | ofNat m =>
      have hpos : ¬ Int.ofNat m < 0 := Int.not_lt.2 (Int.natCast_nonneg m)
      rw [if_neg hpos, List.nil_append]
      show m.repr.toList = _
      exact Nat.toList_repr
  | negSucc m =>
      rw [if_pos (Int.negSucc_lt_zero m)]
      show ("-" ++ (m + 1).repr).toList = _
      rw [String.toList_append, Nat.toList_repr]
      rfl

/-- An integer begins with its sign or a digit. -/
theorem exists_toString_eq_cons (n : Int) :
    ∃ first more, (toString n).toList = first :: more ∧ (first = '-' ∨ first.isDigit = true) := by
  obtain ⟨first, more, hdigits, hfirst⟩ := exists_toDigits_eq_digit_cons n.natAbs
  rw [toList_toString, hdigits]
  split
  · exact ⟨'-', first :: more, rfl, Or.inl rfl⟩
  · exact ⟨first, more, rfl, Or.inr hfirst⟩

/-- The numeral of an integer. -/
def Numeral.ofInt (n : Int) : Numeral := ⟨decide (n < 0), Nat.toDigits 10 n.natAbs, none, none⟩

theorem takes_numeral (n : Int) {rest : List Char} (h : Ended rest) :
    Takes numeral ((toString n).toList ++ rest) (.ofInt n) rest := by
  have hunsigned : ∀ {sign : Option Char} {text : List Char},
      Takes (optional? (char '-')) text sign (Nat.toDigits 10 n.natAbs ++ rest) →
      Takes numeral text ⟨sign.isSome, Nat.toDigits 10 n.natAbs, none, none⟩ rest := by
    intro sign text hsign
    refine hsign.bind ((takes_wholeDigits n.natAbs h).bind ?_)
    exact h.refuses_fraction.optional?.bind (h.refuses_exponent.optional?.bind (takes_pure _ rest))
  rw [toList_toString, Numeral.ofInt]
  by_cases hn : n < 0
  · rw [if_pos hn, decide_eq_true hn]
    exact hunsigned (takes_char '-' _).optional?
  · rw [if_neg hn, decide_eq_false hn]
    obtain ⟨first, more, hdigits, hfirst⟩ := exists_toDigits_eq_digit_cons n.natAbs
    have hsign : '-' ∉ (Nat.toDigits 10 n.natAbs ++ rest).head? := by
      rw [hdigits]
      rintro ⟨⟩
      exact absurd hfirst (by decide)
    exact hunsigned (refuses_char hsign).optional?

/-- The integers that are read as integers. -/
def HasWord (n : Int) : Prop := Int64.minValue.toInt ≤ n ∧ n < UInt64.size

theorem toJson?_ofInt {n : Int} (h : HasWord n) : (Numeral.ofInt n).toJson? = some (.integer n) := by
  have hvalue : (if decide (n < 0) = true then -(n.natAbs : Int) else (n.natAbs : Int)) = n := by
    split
    · rename_i hneg
      have := of_decide_eq_true hneg
      omega
    · rename_i hneg
      have : ¬ n < 0 := fun hlt => hneg (decide_eq_true hlt)
      omega
  have hzero : (decide (n < 0) && ((n.natAbs : Int) == 0)) = false := by
    rw [Bool.and_eq_false_iff, decide_eq_false_iff_not, beq_eq_false_iff_ne]
    omega
  obtain ⟨hlow, hhigh⟩ := h
  simp only [Numeral.toJson?, Numeral.ofInt, valueIn_toDigits, hvalue, hzero, Option.isNone_none,
    Bool.not_false, Bool.and_true, hlow, hhigh, decide_true, if_true]

end PackageActions.Json
