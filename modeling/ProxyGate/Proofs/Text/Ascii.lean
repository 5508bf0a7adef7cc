import ProxyGate.Text.Bytes

/-!
# Bytes and the ASCII text they spell

`Bytes.ofText` writes a text as UTF-8 and `Bytes.chars` reads each byte as a character.  The two
undo each other on ASCII, and `ofText` never writes two texts alike.
-/

namespace ProxyGate.Bytes

@[simp]
theorem toNat_ofUInt8 (byte : UInt8) : (Char.ofUInt8 byte).toNat = byte.toNat := by
  show byte.toUInt32.toNat = byte.toNat
  exact UInt8.toNat_toUInt32 byte

theorem ofUInt8_injective {a b : UInt8} (h : Char.ofUInt8 a = Char.ofUInt8 b) : a = b := by
  apply UInt8.toNat_inj.mp
  rw [← toNat_ofUInt8 a, ← toNat_ofUInt8 b, h]

theorem chars_injective {a b : Bytes} (h : chars a = chars b) : a = b :=
  (List.map_inj_right fun _ _ => ofUInt8_injective).mp h

theorem ofText_append (s t : String) : ofText (s ++ t) = ofText s ++ ofText t := by
  rw [ofText, String.toList_append, List.flatMap_append]
  rfl

/-- Different texts are written differently. -/
theorem ofText_injective {s t : String} (h : ofText s = ofText t) : s = t := by
  have hencode : s.toList.utf8Encode = t.toList.utf8Encode := by
    simp only [ofText] at h
    simp only [List.utf8Encode, h]
  rw [← String.toByteArray_ofList, ← String.toByteArray_ofList, String.toByteArray_inj,
    String.ofList_toList, String.ofList_toList] at hencode
  exact hencode

/-- An ASCII character is written as the byte with its number. -/
theorem utf8EncodeChar_of_lt {c : Char} (h : c.toNat < 128) :
    String.utf8EncodeChar c = [c.toNat.toUInt8] := by
  have hval : c.val.toNat ≤ 127 := Nat.le_of_lt_succ h
  simp only [String.utf8EncodeChar, hval, if_true]
  rfl

/-- The text of ASCII bytes is written as those bytes. -/
theorem ofText_ofList_chars {bytes : Bytes} (h : isAscii bytes) :
    ofText (String.ofList (chars bytes)) = bytes := by
  rw [ofText, String.toList_ofList, chars]
  induction bytes with
  | nil => rfl
  | cons byte rest ih =>
    rw [isAscii, List.all_cons, Bool.and_eq_true, decide_eq_true_eq, UInt8.lt_iff_toNat_lt] at h
    have hlt : (Char.ofUInt8 byte).toNat < 128 := by rw [toNat_ofUInt8]; exact h.1
    rw [List.map_cons, List.flatMap_cons, ih h.2, utf8EncodeChar_of_lt hlt, toNat_ofUInt8]
    simp

/-- An ASCII text is read back from its bytes. -/
theorem chars_ofText {text : String} (h : ∀ c ∈ text.toList, c.toNat < 128) :
    chars (ofText text) = text.toList := by
  rw [ofText, chars]
  generalize text.toList = characters at h ⊢
  induction characters with
  | nil => rfl
  | cons c rest ih =>
    rw [List.forall_mem_cons] at h
    rw [List.flatMap_cons, utf8EncodeChar_of_lt h.1, List.map_append, ih h.2]
    have hread : Char.ofUInt8 c.toNat.toUInt8 = c := by
      apply Char.toNat_inj.mp
      rw [toNat_ofUInt8, Nat.toUInt8, UInt8.toNat_ofNat']
      omega
    rw [List.map_singleton, hread, List.singleton_append]

/-- A text that is written in ASCII is read back from its bytes. -/
theorem chars_ofText_of_isAscii {text : String} (h : isAscii (ofText text)) :
    chars (ofText text) = text.toList := by
  rw [← String.toList_ofList (l := chars (ofText text)), ofText_injective (ofText_ofList_chars h)]

end ProxyGate.Bytes
