import PackageActions.Text.Utf8

/-!
# Texts from their bytes

The bytes of a text are those of its characters one after another, and both ways of reading bytes give the
text back: the lossy one replaces nothing in it (`decodeLossy_encodeUtf8`), and the strict one reads the bytes
of texts and no others (`decodeUtf8?_eq_some_iff`). For the lossy one there is a lemma for each length that a
character can have.
-/

namespace PackageActions.Text

/-! ## Bytes of texts -/

theorem toList_loop (bytes : ByteArray) (i : Nat) (before : Bytes) :
    ByteArray.toList.loop bytes i before = before.reverse ++ bytes.data.toList.drop i := by
  fun_induction ByteArray.toList.loop bytes i before with
  | case1 i before h ih =>
      have hi : i < bytes.data.toList.length := h
      have hget : bytes.get! i = bytes.data.toList[i] := getElem!_pos bytes.data i h
      rw [ih, List.reverse_cons, List.append_assoc, List.drop_eq_getElem_cons hi, hget]
      rfl
  | case2 i before h => rw [List.drop_eq_nil_of_le (Nat.le_of_not_lt h), List.append_nil]

theorem encodeUtf8_eq_toList_data (text : String) : encodeUtf8 text = text.toByteArray.data.toList := by
  rw [encodeUtf8, String.toUTF8_eq_toByteArray, ByteArray.toList, toList_loop, List.reverse_nil,
    List.nil_append, List.drop_zero]

theorem encodeUtf8_injective : Function.Injective encodeUtf8 := by
  intro text text' h
  rw [encodeUtf8_eq_toList_data, encodeUtf8_eq_toList_data, Array.toList_inj] at h
  exact String.toByteArray_inj.1 (ByteArray.ext h)

theorem encodeUtf8_eq_flatMap (text : String) : encodeUtf8 text = text.toList.flatMap String.utf8EncodeChar := by
  rw [encodeUtf8_eq_toList_data, ← String.utf8Encode_toList, List.utf8Encode, List.toList_data_toByteArray]

theorem decodeUtf8?_eq_some_iff {bytes : Bytes} {text : String} :
    decodeUtf8? bytes = some text ↔ bytes = encodeUtf8 text := by
  rw [decodeUtf8?, String.fromUTF8?, encodeUtf8_eq_toList_data]
  constructor
  · intro h
    split at h
    · rw [← Option.some.inj h]
      rfl
    · cases h
  · rintro rfl
    have hvalid : (⟨text.toByteArray.data.toList.toArray⟩ : ByteArray).IsValidUTF8 := text.isValidUTF8
    rw [dif_pos hvalid]
    rfl

/-! ## Sequences as they are announced -/

section Sequences

variable {a b c d low high : UInt8}

theorem announced?_eq_none (ha : a < 0x80) : announced? a = none := by
  unfold announced?
  simp only [UInt8.lt_iff_toNat_lt, UInt8.le_iff_toNat_le, ← UInt8.toNat_inj] at ha ⊢
  grind

theorem not_lt_of_announced? {form : Announced} (hform : announced? a = some form) : ¬ a < 0x80 := by
  intro ha
  rw [announced?_eq_none ha] at hform
  cases hform

theorem outside_eq_false (hlow : low ≤ b) (hhigh : b ≤ high) : (b < low || high < b) = false := by
  rw [Bool.or_eq_false_iff, decide_eq_false_iff_not, decide_eq_false_iff_not]
  exact ⟨UInt8.not_lt.2 hlow, UInt8.not_lt.2 hhigh⟩

theorem lossyChars_one (ha : a < 0x80) (rest : Bytes) :
    lossyChars (a :: rest) = Char.ofNat a.toNat :: lossyChars rest := by
  rw [lossyChars, if_pos ha]

theorem lossyChars_two (hform : announced? a = some ⟨low, high, 0⟩) (hlow : low ≤ b)
    (hhigh : b ≤ high) (rest : Bytes) :
    lossyChars (a :: b :: rest) = codePoint (a.toNat % 32) [b] :: lossyChars rest := by
  rw [lossyChars, if_neg (not_lt_of_announced? hform), hform]
  simp only [outside_eq_false hlow hhigh, Bool.false_eq_true, if_false]

theorem lossyChars_three (hform : announced? a = some ⟨low, high, 1⟩) (hlow : low ≤ b)
    (hhigh : b ≤ high) (hc : isContinuation c = true) (rest : Bytes) :
    lossyChars (a :: b :: c :: rest) = codePoint (a.toNat % 16) [b, c] :: lossyChars rest := by
  rw [lossyChars, if_neg (not_lt_of_announced? hform), hform]
  simp only [outside_eq_false hlow hhigh, Bool.false_eq_true, if_false, hc, Bool.not_true]

theorem lossyChars_four (hform : announced? a = some ⟨low, high, 2⟩) (hlow : low ≤ b)
    (hhigh : b ≤ high) (hc : isContinuation c = true) (hd : isContinuation d = true) (rest : Bytes) :
    lossyChars (a :: b :: c :: d :: rest) = codePoint (a.toNat % 8) [b, c, d] :: lossyChars rest := by
  rw [lossyChars, if_neg (not_lt_of_announced? hform), hform]
  simp only [outside_eq_false hlow hhigh, Bool.false_eq_true, if_false, hc, hd, Bool.not_true]

end Sequences

/-! ## Characters by their length -/

/-- The byte that continues a sequence with the last six bits of a number. -/
def continuation (n : Nat) : UInt8 := UInt8.ofNat (n % 64 + 128)

theorem toNat_ofNat {n : Nat} (h : n < 256) : (UInt8.ofNat n).toNat = n :=
  UInt8.toNat_ofNat_of_lt' h

theorem toNat_continuation (n : Nat) : (continuation n).toNat = n % 64 + 128 :=
  toNat_ofNat (by omega)

theorem continuation_bounds (n : Nat) : 0x80 ≤ continuation n ∧ continuation n ≤ 0xbf := by
  rw [UInt8.le_iff_toNat_le, UInt8.le_iff_toNat_le, toNat_continuation]
  show 128 ≤ n % 64 + 128 ∧ n % 64 + 128 ≤ 191
  omega

theorem isContinuation_continuation (n : Nat) : isContinuation (continuation n) = true := by
  rw [isContinuation, Bool.and_eq_true, decide_eq_true_iff, decide_eq_true_iff]
  exact continuation_bounds n

theorem announced?_two {v : Nat} (h : 0x7f < v) (h' : v ≤ 0x7ff) :
    announced? (UInt8.ofNat (v / 64 + 192)) = some ⟨0x80, 0xbf, 0⟩ := by
  have hlead : (UInt8.ofNat (v / 64 + 192)).toNat = v / 64 + 192 := toNat_ofNat (by omega)
  unfold announced?
  simp only [UInt8.le_iff_toNat_le, ← UInt8.toNat_inj, hlead]
  grind

/-- Three bytes begin with a larger second byte where fewer would do, and with a smaller one before the
surrogates. -/
theorem announced?_three {v : Nat} (h : 0x7ff < v) (h' : v ≤ 0xffff)
    (hvalid : v < 0xd800 ∨ 0xdfff < v) :
    ∃ low high, announced? (UInt8.ofNat (v / 4096 + 224)) = some ⟨low, high, 1⟩ ∧
      low ≤ continuation (v / 64) ∧ continuation (v / 64) ≤ high := by
  have hlead : (UInt8.ofNat (v / 4096 + 224)).toNat = v / 4096 + 224 := toNat_ofNat (by omega)
  refine ⟨if v / 4096 = 0 then 0xa0 else 0x80, if v / 4096 = 13 then 0x9f else 0xbf, ?_, ?_⟩
  · unfold announced?
    simp only [UInt8.le_iff_toNat_le, ← UInt8.toNat_inj, hlead]
    grind
  · rw [UInt8.le_iff_toNat_le, UInt8.le_iff_toNat_le, toNat_continuation]
    constructor
    · split
      · show 160 ≤ _
        omega
      · exact Nat.le_add_left 128 _
    · split
      · show _ ≤ 159
        omega
      · show _ ≤ 191
        omega

theorem announced?_four {v : Nat} (h : 0xffff < v) (h' : v < 0x110000) :
    ∃ low high, announced? (UInt8.ofNat (v / 262144 + 240)) = some ⟨low, high, 2⟩ ∧
      low ≤ continuation (v / 4096) ∧ continuation (v / 4096) ≤ high := by
  have hlead : (UInt8.ofNat (v / 262144 + 240)).toNat = v / 262144 + 240 := toNat_ofNat (by omega)
  refine ⟨if v / 262144 = 0 then 0x90 else 0x80, if v / 262144 = 4 then 0x8f else 0xbf, ?_, ?_⟩
  · unfold announced?
    simp only [UInt8.le_iff_toNat_le, ← UInt8.toNat_inj, hlead]
    grind
  · rw [UInt8.le_iff_toNat_le, UInt8.le_iff_toNat_le, toNat_continuation]
    constructor
    · split
      · show 144 ≤ _
        omega
      · exact Nat.le_add_left 128 _
    · split
      · show _ ≤ 143
        omega
      · show _ ≤ 191
        omega

theorem lossyChars_ofNat_one {v : Nat} (h : v ≤ 0x7f) (rest : Bytes) :
    lossyChars (UInt8.ofNat v :: rest) = Char.ofNat v :: lossyChars rest := by
  have hlead : (UInt8.ofNat v).toNat = v := toNat_ofNat (by omega)
  have hascii : UInt8.ofNat v < 0x80 := by
    rw [UInt8.lt_iff_toNat_lt, hlead]
    exact Nat.lt_succ_of_le h
  rw [lossyChars_one hascii, hlead]

theorem lossyChars_ofNat_two {v : Nat} (h : 0x7f < v) (h' : v ≤ 0x7ff) (rest : Bytes) :
    lossyChars (UInt8.ofNat (v / 64 + 192) :: continuation v :: rest) = Char.ofNat v :: lossyChars rest := by
  have hlead : (UInt8.ofNat (v / 64 + 192)).toNat = v / 64 + 192 := toNat_ofNat (by omega)
  obtain ⟨hlow, hhigh⟩ := continuation_bounds v
  rw [lossyChars_two (announced?_two h h') hlow hhigh, codePoint]
  simp only [List.foldl_cons, List.foldl_nil, hlead, toNat_continuation]
  congr 2
  omega

theorem lossyChars_ofNat_three {v : Nat} (h : 0x7ff < v) (h' : v ≤ 0xffff)
    (hvalid : v < 0xd800 ∨ 0xdfff < v) (rest : Bytes) :
    lossyChars (UInt8.ofNat (v / 4096 + 224) :: continuation (v / 64) :: continuation v :: rest) =
      Char.ofNat v :: lossyChars rest := by
  have hlead : (UInt8.ofNat (v / 4096 + 224)).toNat = v / 4096 + 224 := toNat_ofNat (by omega)
  obtain ⟨low, high, hform, hlow, hhigh⟩ := announced?_three h h' hvalid
  rw [lossyChars_three hform hlow hhigh (isContinuation_continuation v), codePoint]
  simp only [List.foldl_cons, List.foldl_nil, hlead, toNat_continuation]
  congr 2
  omega

theorem lossyChars_ofNat_four {v : Nat} (h : 0xffff < v) (h' : v < 0x110000) (rest : Bytes) :
    lossyChars (UInt8.ofNat (v / 262144 + 240) :: continuation (v / 4096) :: continuation (v / 64) ::
      continuation v :: rest) = Char.ofNat v :: lossyChars rest := by
  have hlead : (UInt8.ofNat (v / 262144 + 240)).toNat = v / 262144 + 240 := toNat_ofNat (by omega)
  obtain ⟨low, high, hform, hlow, hhigh⟩ := announced?_four h h'
  rw [lossyChars_four hform hlow hhigh (isContinuation_continuation _) (isContinuation_continuation v),
    codePoint]
  simp only [List.foldl_cons, List.foldl_nil, hlead, toNat_continuation]
  congr 2
  omega

/-- A character is read off its bytes, and what follows them is left as it is. -/
theorem lossyChars_utf8EncodeChar_append (c : Char) (rest : Bytes) :
    lossyChars (String.utf8EncodeChar c ++ rest) = c :: lossyChars rest := by
  have hchar : Char.ofNat c.val.toNat = c := Char.ofNat_toNat c
  have hvalid : c.val.toNat < 0xd800 ∨ 0xdfff < c.val.toNat ∧ c.val.toNat < 0x110000 := c.valid
  unfold String.utf8EncodeChar
  generalize c.val.toNat = v at hchar hvalid ⊢
  subst hchar
  dsimp only
  split
  · rename_i h
    exact lossyChars_ofNat_one h rest
  · split
    · rename_i h
      rw [Nat.mod_eq_of_lt (by omega : v / 64 < 32)]
      exact lossyChars_ofNat_two (by omega) h rest
    · split
      · rename_i h
        rw [Nat.mod_eq_of_lt (by omega : v / 4096 < 16)]
        exact lossyChars_ofNat_three (by omega) h (by omega) rest
      · rw [Nat.mod_eq_of_lt (by omega : v / 262144 < 8)]
        exact lossyChars_ofNat_four (by omega) (by omega) rest

/-- Nothing of a text is replaced. -/
theorem decodeLossy_encodeUtf8 (text : String) : decodeLossy (encodeUtf8 text) = text := by
  have hchars : ∀ chars : List Char, lossyChars (chars.flatMap String.utf8EncodeChar) = chars := by
    intro chars
    induction chars with
    | nil => rfl
    | cons c rest ih => rw [List.flatMap_cons, lossyChars_utf8EncodeChar_append, ih]
  rw [decodeLossy, encodeUtf8_eq_flatMap, hchars, String.ofList_toList]

end PackageActions.Text
