import HeaderScan.Text.Utf8
import Mathlib.Data.List.Basic

/-!
# Strict reading accepts exactly what is written

A text is written as the bytes of its characters, one after the other, and each of them is
read as one piece. So strict reading gives a text back when it is given the bytes of that
text, and refuses all other bytes.
-/

namespace HeaderScan.Text

/-- What is left to collect of a byte array. -/
theorem toList_loop (bytes : ByteArray) (i : Nat) (collected : List UInt8) :
    ByteArray.toList.loop bytes i collected = collected.reverse ++ bytes.data.toList.drop i := by
  fun_induction ByteArray.toList.loop bytes i collected with
  | case1 i collected hi ih =>
    have hlength : i < bytes.data.toList.length := by simpa using hi
    have hget : bytes.get! i = bytes.data.toList[i] := getElem!_pos bytes.data i hi
    rw [ih, List.drop_eq_getElem_cons hlength, hget]
    simp
  | case2 i collected hi =>
    have hlength : bytes.data.toList.length ≤ i := by simpa using hi
    rw [List.drop_eq_nil_of_le hlength, List.append_nil]

/-- A text is written character by character. -/
theorem encodeUtf8_eq (text : String) :
    encodeUtf8 text = text.toList.flatMap String.utf8EncodeChar := by
  obtain ⟨chars, rfl⟩ := text.exists_eq_ofList
  rw [encodeUtf8, String.toUTF8_eq_toByteArray, String.toByteArray_ofList, ByteArray.toList,
    toList_loop, List.utf8Encode, List.toList_data_toByteArray, String.toList_ofList]
  simp

/-- The number of a character is a code point that is no surrogate. -/
theorem toNat_cases (c : Char) : c.toNat < 0xD800 ∨ 0xDFFF < c.toNat ∧ c.toNat < 0x110000 :=
  c.valid

section Pieces

variable {a b c d : UInt8} (rest : List UInt8)

/-- A byte continues a character when it lies in the third quarter of all bytes but one. -/
theorem isContinuation_iff : isContinuation a = true ↔ 0x80 ≤ a.toNat ∧ a.toNat < 0xC0 := by
  simp [isContinuation, UInt8.le_iff_toNat_le, UInt8.lt_iff_toNat_lt]

/-- A character of one byte. -/
theorem utf8Pieces_one (ha : a.toNat < 0x80) :
    utf8Pieces (a :: rest) = .char (Char.ofNat a.toNat) :: utf8Pieces rest := by
  rw [utf8Pieces.eq_def]
  simp [UInt8.lt_iff_toNat_lt, ha]

/-- A character of two bytes. -/
theorem utf8Pieces_two (ha : 0xC2 ≤ a.toNat) (ha' : a.toNat < 0xE0)
    (hb : isContinuation b = true) : utf8Pieces (a :: b :: rest) =
      .char (Char.ofNat (a.toNat % 32 * 64 + payload b)) :: utf8Pieces rest := by
  have hone : ¬ a.toNat < 0x80 := by omega
  have hlow : ¬ a.toNat < 0xC2 := by omega
  have hhigh : ¬ 0xF4 < a.toNat := by omega
  rw [utf8Pieces.eq_def]
  simp [UInt8.lt_iff_toNat_lt, hone, hlow, hhigh, ha', hb]

/-- A character of three bytes. -/
theorem utf8Pieces_three (ha : 0xE0 ≤ a.toNat) (ha' : a.toNat < 0xF0)
    (hb : isSecondOfThree a b = true) (hc : isContinuation c = true) :
    utf8Pieces (a :: b :: c :: rest) =
      .char (Char.ofNat ((a.toNat % 16 * 64 + payload b) * 64 + payload c)) ::
        utf8Pieces rest := by
  have hone : ¬ a.toNat < 0x80 := by omega
  have hlow : ¬ a.toNat < 0xC2 := by omega
  have hhigh : ¬ 0xF4 < a.toNat := by omega
  have htwo : ¬ a.toNat < 0xE0 := by omega
  rw [utf8Pieces.eq_def]
  simp [UInt8.lt_iff_toNat_lt, hone, hlow, hhigh, htwo, ha', hb, hc]

/-- A character of four bytes. -/
theorem utf8Pieces_four (ha : 0xF0 ≤ a.toNat) (ha' : a.toNat ≤ 0xF4)
    (hb : isSecondOfFour a b = true) (hc : isContinuation c = true)
    (hd : isContinuation d = true) : utf8Pieces (a :: b :: c :: d :: rest) =
      .char (Char.ofNat (((a.toNat % 8 * 64 + payload b) * 64 + payload c) * 64 + payload d)) ::
        utf8Pieces rest := by
  have hone : ¬ a.toNat < 0x80 := by omega
  have hlow : ¬ a.toNat < 0xC2 := by omega
  have hhigh : ¬ 0xF4 < a.toNat := by omega
  have htwo : ¬ a.toNat < 0xE0 := by omega
  have hthree : ¬ a.toNat < 0xF0 := by omega
  rw [utf8Pieces.eq_def]
  simp [UInt8.lt_iff_toNat_lt, hone, hlow, hhigh, htwo, hthree, hb, hc, hd]

end Pieces

/-- The second of three bytes continues the character, and neither begins what two bytes can
say nor a surrogate. -/
theorem isSecondOfThree_iff {a b : UInt8} : isSecondOfThree a b = true ↔
    isContinuation b = true ∧ (a.toNat = 0xE0 → 0xA0 ≤ b.toNat) ∧
      (a.toNat = 0xED → b.toNat < 0xA0) := by
  simp only [isSecondOfThree, Bool.and_eq_true, Bool.or_eq_true, bne_iff_ne, decide_eq_true_eq,
    ne_eq, ← UInt8.toNat_inj, UInt8.le_iff_toNat_le, UInt8.lt_iff_toNat_lt, UInt8.reduceToNat,
    and_assoc, imp_iff_not_or]

/-- The second of four bytes continues the character, and neither begins what three bytes can
say nor what is no code point. -/
theorem isSecondOfFour_iff {a b : UInt8} : isSecondOfFour a b = true ↔
    isContinuation b = true ∧ (a.toNat = 0xF0 → 0x90 ≤ b.toNat) ∧
      (a.toNat = 0xF4 → b.toNat < 0x90) := by
  simp only [isSecondOfFour, Bool.and_eq_true, Bool.or_eq_true, bne_iff_ne, decide_eq_true_eq,
    ne_eq, ← UInt8.toNat_inj, UInt8.le_iff_toNat_le, UInt8.lt_iff_toNat_lt, UInt8.reduceToNat,
    and_assoc, imp_iff_not_or]

/-- What is written for a character is read as this character. -/
theorem utf8Pieces_encodeChar (c : Char) (rest : List UInt8) :
    utf8Pieces (String.utf8EncodeChar c ++ rest) = .char c :: utf8Pieces rest := by
  have hvalid := toNat_cases c
  have htoNat {n : Nat} (hn : n < 256) : (UInt8.ofNat n).toNat = n := UInt8.toNat_ofNat_of_lt' hn
  have hchar {n : Nat} (hn : n = c.toNat) : Char.ofNat n = c := by rw [hn, Char.ofNat_toNat]
  have hcontinues (n : Nat) : isContinuation (UInt8.ofNat (n % 0x40 + 0x80)) = true := by
    rw [isContinuation_iff, htoNat (by omega)]
    omega
  have hpayload (n : Nat) : payload (UInt8.ofNat (n % 0x40 + 0x80)) = n % 64 := by
    rw [payload, htoNat (by omega)]
    omega
  fun_cases String.utf8EncodeChar c with
  | case1 v hone =>
    replace hone : c.toNat ≤ 0x7F := hone
    change utf8Pieces (UInt8.ofNat c.toNat :: rest) = _
    have ha : (UInt8.ofNat c.toNat).toNat = c.toNat := htoNat (by omega)
    rw [utf8Pieces_one rest (by omega), ha, hchar rfl]
  | case2 v hone htwo =>
    replace hone : ¬ c.toNat ≤ 0x7F := hone
    replace htwo : c.toNat ≤ 0x7FF := htwo
    change utf8Pieces (UInt8.ofNat (c.toNat / 64 % 0x20 + 0xC0) ::
      UInt8.ofNat (c.toNat % 0x40 + 0x80) :: rest) = _
    have ha : (UInt8.ofNat (c.toNat / 64 % 0x20 + 0xC0)).toNat = c.toNat / 64 % 0x20 + 0xC0 :=
      htoNat (by omega)
    rw [utf8Pieces_two rest (by omega) (by omega) (hcontinues _), hpayload, ha, hchar (by omega)]
  | case3 v hone htwo hthree =>
    replace htwo : ¬ c.toNat ≤ 0x7FF := htwo
    replace hthree : c.toNat ≤ 0xFFFF := hthree
    change utf8Pieces (UInt8.ofNat (c.toNat / 4096 % 0x10 + 0xE0) ::
      UInt8.ofNat (c.toNat / 64 % 0x40 + 0x80) :: UInt8.ofNat (c.toNat % 0x40 + 0x80) ::
      rest) = _
    have ha : (UInt8.ofNat (c.toNat / 4096 % 0x10 + 0xE0)).toNat = c.toNat / 4096 % 0x10 + 0xE0 :=
      htoNat (by omega)
    have hb : (UInt8.ofNat (c.toNat / 64 % 0x40 + 0x80)).toNat = c.toNat / 64 % 0x40 + 0x80 :=
      htoNat (by omega)
    have hsecond : isSecondOfThree (UInt8.ofNat (c.toNat / 4096 % 0x10 + 0xE0))
        (UInt8.ofNat (c.toNat / 64 % 0x40 + 0x80)) = true := by
      refine isSecondOfThree_iff.mpr ⟨hcontinues _, ?_, ?_⟩ <;> omega
    rw [utf8Pieces_three rest (by omega) (by omega) hsecond (hcontinues _), hpayload, hpayload,
      ha, hchar (by omega)]
  | case4 v hone htwo hthree =>
    replace hthree : ¬ c.toNat ≤ 0xFFFF := hthree
    change utf8Pieces (UInt8.ofNat (c.toNat / 262144 % 0x08 + 0xF0) ::
      UInt8.ofNat (c.toNat / 4096 % 0x40 + 0x80) :: UInt8.ofNat (c.toNat / 64 % 0x40 + 0x80) ::
      UInt8.ofNat (c.toNat % 0x40 + 0x80) :: rest) = _
    have ha : (UInt8.ofNat (c.toNat / 262144 % 0x08 + 0xF0)).toNat =
        c.toNat / 262144 % 0x08 + 0xF0 := htoNat (by omega)
    have hb : (UInt8.ofNat (c.toNat / 4096 % 0x40 + 0x80)).toNat = c.toNat / 4096 % 0x40 + 0x80 :=
      htoNat (by omega)
    have hsecond : isSecondOfFour (UInt8.ofNat (c.toNat / 262144 % 0x08 + 0xF0))
        (UInt8.ofNat (c.toNat / 4096 % 0x40 + 0x80)) = true := by
      refine isSecondOfFour_iff.mpr ⟨hcontinues _, ?_, ?_⟩ <;> omega
    rw [utf8Pieces_four rest (by omega) (by omega) hsecond (hcontinues _) (hcontinues _),
      hpayload, hpayload, hpayload, ha, hchar (by omega)]

section Written

variable {a b c d : UInt8}

/-- The number of a character with a valid number. -/
theorem toNat_val_ofNat {n : Nat} (hn : n < 0xD800 ∨ 0xDFFF < n ∧ n < 0x110000) :
    (Char.ofNat n).val.toNat = n := by
  rw [Char.ofNat, dif_pos hn]
  exact UInt32.toNat_ofNatLT

/-- A byte with this number. -/
theorem ofNat_eq {n : Nat} (hn : n = a.toNat) : UInt8.ofNat n = a := by
  rw [hn, UInt8.ofNat_toNat]

/-- One byte is written for the character that it is read as. -/
theorem encodeChar_one (ha : a.toNat < 0x80) :
    String.utf8EncodeChar (Char.ofNat a.toNat) = [a] := by
  have hn := toNat_val_ofNat (n := a.toNat) (by omega)
  rw [String.utf8EncodeChar]
  simp only [hn]
  rw [if_pos (by omega), ofNat_eq rfl]

/-- Two bytes are written for the character that they are read as. -/
theorem encodeChar_two (ha : 0xC2 ≤ a.toNat) (ha' : a.toNat < 0xE0)
    (hb : isContinuation b = true) :
    String.utf8EncodeChar (Char.ofNat (a.toNat % 32 * 64 + payload b)) = [a, b] := by
  rw [isContinuation_iff] at hb
  rw [payload]
  have hn := toNat_val_ofNat (n := a.toNat % 32 * 64 + b.toNat % 64) (by omega)
  rw [String.utf8EncodeChar]
  simp only [hn]
  rw [if_neg (by omega), if_pos (by omega), ofNat_eq (a := a) (by omega),
    ofNat_eq (a := b) (by omega)]

/-- Three bytes are written for the character that they are read as. -/
theorem encodeChar_three (ha : 0xE0 ≤ a.toNat) (ha' : a.toNat < 0xF0)
    (hb : isSecondOfThree a b = true) (hc : isContinuation c = true) :
    String.utf8EncodeChar (Char.ofNat ((a.toNat % 16 * 64 + payload b) * 64 + payload c)) =
      [a, b, c] := by
  rw [isSecondOfThree_iff, isContinuation_iff] at hb
  rw [isContinuation_iff] at hc
  rw [payload, payload]
  have hn := toNat_val_ofNat (n := (a.toNat % 16 * 64 + b.toNat % 64) * 64 + c.toNat % 64)
    (by omega)
  rw [String.utf8EncodeChar]
  simp only [hn]
  rw [if_neg (by omega), if_neg (by omega), if_pos (by omega), ofNat_eq (a := a) (by omega),
    ofNat_eq (a := b) (by omega), ofNat_eq (a := c) (by omega)]

/-- Four bytes are written for the character that they are read as. -/
theorem encodeChar_four (ha : 0xF0 ≤ a.toNat) (ha' : a.toNat ≤ 0xF4)
    (hb : isSecondOfFour a b = true) (hc : isContinuation c = true)
    (hd : isContinuation d = true) : String.utf8EncodeChar (Char.ofNat
      (((a.toNat % 8 * 64 + payload b) * 64 + payload c) * 64 + payload d)) = [a, b, c, d] := by
  rw [isSecondOfFour_iff, isContinuation_iff] at hb
  rw [isContinuation_iff] at hc hd
  rw [payload, payload, payload]
  have hn := toNat_val_ofNat
    (n := ((a.toNat % 8 * 64 + b.toNat % 64) * 64 + c.toNat % 64) * 64 + d.toNat % 64) (by omega)
  rw [String.utf8EncodeChar]
  simp only [hn]
  rw [if_neg (by omega), if_neg (by omega), if_neg (by omega), ofNat_eq (a := a) (by omega),
    ofNat_eq (a := b) (by omega), ofNat_eq (a := c) (by omega), ofNat_eq (a := d) (by omega)]

end Written

/-- Pieces that are characters and begin with one. -/
theorem exists_of_char_cons {c : Char} {pieces : List Utf8Piece} {chars : List Char}
    (h : .char c :: pieces = chars.map .char) :
    ∃ later, chars = c :: later ∧ pieces = later.map .char := by
  obtain ⟨first, later, rfl, hfirst, hlater⟩ := List.map_eq_cons_iff.mp h.symm
  cases hfirst
  exact ⟨later, rfl, hlater.symm⟩

/-- Bytes that are read as characters are what is written for them. -/
theorem eq_of_utf8Pieces {bytes : List UInt8} {chars : List Char}
    (h : utf8Pieces bytes = chars.map .char) : bytes = chars.flatMap String.utf8EncodeChar := by
  fun_induction utf8Pieces bytes generalizing chars with
  | case1 =>
    cases chars with
    | nil => rfl
    | cons => cases h
  | case2 a after ha ih =>
    obtain ⟨later, rfl, hlater⟩ := exists_of_char_cons h
    rw [List.flatMap_cons, encodeChar_one ha, ← ih hlater]
    rfl
  | case5 a hone hlead b after htwo hb ih =>
    obtain ⟨later, rfl, hlater⟩ := exists_of_char_cons h
    simp only [Bool.or_eq_true, decide_eq_true_eq, not_or, UInt8.lt_iff_toNat_lt,
      Nat.not_lt] at hlead
    rw [List.flatMap_cons, encodeChar_two hlead.1 htwo hb, ← ih hlater]
    rfl
  | case8 a hone hlead b htwo hthree hb c after hc ih =>
    obtain ⟨later, rfl, hlater⟩ := exists_of_char_cons h
    rw [List.flatMap_cons, encodeChar_three (Nat.le_of_not_lt htwo) hthree hb hc, ← ih hlater]
    rfl
  | case13 a hone hlead b htwo hthree hb c hc d after hd ih =>
    obtain ⟨later, rfl, hlater⟩ := exists_of_char_cons h
    simp only [Bool.or_eq_true, decide_eq_true_eq, not_or, UInt8.lt_iff_toNat_lt,
      Nat.not_lt] at hlead
    rw [List.flatMap_cons, encodeChar_four (Nat.le_of_not_lt hthree) hlead.2 hb hc hd,
      ← ih hlater]
    rfl
  -- In all other cases a piece is no character.
  | case3 | case4 | case6 | case7 | case9 | case10 | case11 | case12 | case14 | case15 | case16 =>
    cases chars <;> cases h

/-- What is written for some characters is read as these characters. -/
theorem utf8Pieces_flatMap (chars : List Char) :
    utf8Pieces (chars.flatMap String.utf8EncodeChar) = chars.map .char := by
  induction chars with
  | nil => rw [List.flatMap_nil, utf8Pieces.eq_def, List.map_nil]
  | cons c later ih => rw [List.flatMap_cons, utf8Pieces_encodeChar, ih, List.map_cons]

/-- What a change of a value gives, if there is a value. -/
theorem map_eq_ok_iff {ε α β : Type} {change : α → β} {result : Except ε α} {changed : β} :
    result.map change = .ok changed ↔ ∃ value, result = .ok value ∧ change value = changed := by
  cases result <;> simp [Except.map]

/-- Pieces are characters exactly when they can be collected. -/
theorem charsOfPieces_eq_ok_iff {index : Nat} {pieces : List Utf8Piece} {chars : List Char} :
    charsOfPieces index pieces = .ok chars ↔ pieces = chars.map .char := by
  induction pieces generalizing index chars with
  | nil => cases chars <;> simp [charsOfPieces]
  | cons piece later ih =>
    cases piece with
    | broken | cutOff => cases chars <;> simp [charsOfPieces]
    | char c =>
      rw [charsOfPieces, map_eq_ok_iff]
      constructor
      · rintro ⟨others, hothers, rfl⟩
        rw [ih.mp hothers, List.map_cons]
      · intro h
        obtain ⟨others, rfl, hothers⟩ := exists_of_char_cons h
        exact ⟨others, ih.mpr hothers, rfl⟩

/-- Strict reading gives a text exactly when it is given what is written for that text. -/
theorem decodeUtf8_eq_ok_iff {bytes : List UInt8} {text : String} :
    decodeUtf8 bytes = .ok text ↔ bytes = encodeUtf8 text := by
  rw [encodeUtf8_eq, decodeUtf8, map_eq_ok_iff]
  constructor
  · rintro ⟨chars, hchars, rfl⟩
    rw [String.toList_ofList]
    exact eq_of_utf8Pieces (charsOfPieces_eq_ok_iff.mp hchars)
  · rintro rfl
    exact ⟨text.toList, charsOfPieces_eq_ok_iff.mpr (utf8Pieces_flatMap _), String.ofList_toList⟩

/-- A text that is written is read again. -/
@[simp] theorem decodeUtf8_encodeUtf8 (text : String) :
    decodeUtf8 (encodeUtf8 text) = .ok text :=
  decodeUtf8_eq_ok_iff.mpr rfl

/-- Lenient reading gives a text back when it is given the bytes of that text. -/
@[simp] theorem decodeUtf8Lossy_encodeUtf8 (text : String) :
    decodeUtf8Lossy (encodeUtf8 text) = text := by
  have hchars (chars : List Char) : (chars.map Utf8Piece.char).map Utf8Piece.toChar = chars := by
    rw [List.map_map]
    exact List.map_id chars
  rw [decodeUtf8Lossy, encodeUtf8_eq, utf8Pieces_flatMap, hchars, String.ofList_toList]

/-- Some bytes have some pieces. -/
theorem utf8Pieces_ne_nil {bytes : List UInt8} (h : bytes ≠ []) : utf8Pieces bytes ≠ [] := by
  fun_cases utf8Pieces bytes with
  | case1 => exact absurd rfl h
  | _ => exact List.cons_ne_nil _ _

/-- Lenient reading loses no bytes altogether. -/
theorem decodeUtf8Lossy_ne_empty {bytes : List UInt8} (h : bytes ≠ []) :
    decodeUtf8Lossy bytes ≠ "" := by
  intro hempty
  rw [decodeUtf8Lossy, String.ofList_eq_empty_iff, List.map_eq_nil_iff] at hempty
  exact utf8Pieces_ne_nil h hempty

end HeaderScan.Text
