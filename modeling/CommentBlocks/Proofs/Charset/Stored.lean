import CommentBlocks.Charset.Decode

namespace CommentBlocks.Charset

def ByteOrder.bytes : ByteOrder → Nat → Bytes
  | little, u => [(u % 256).toUInt8, (u / 256).toUInt8]
  | big, u => [(u / 256).toUInt8, (u % 256).toUInt8]

def units (c : Char) : List Nat :=
  if c.toNat < 0x10000 then [c.toNat]
  else [0xD800 + (c.toNat - 0x10000) / 0x400, 0xDC00 + (c.toNat - 0x10000) % 0x400]

def encodeUtf16 (order : ByteOrder) (t : List Char) : Bytes :=
  t.flatMap fun c => (units c).flatMap order.bytes

theorem exists_bytes (order : ByteOrder) {u : Nat} (hu : u < 65536) :
    ∃ a b, order.bytes u = [a, b] ∧ order.unit a b = u := by
  have hl : (u % 256).toUInt8.toNat = u % 256 := by
    rw [Nat.toUInt8_eq, UInt8.toNat_ofNat', Nat.mod_eq_of_lt (by omega)]
  have hh : (u / 256).toUInt8.toNat = u / 256 := by
    rw [Nat.toUInt8_eq, UInt8.toNat_ofNat', Nat.mod_eq_of_lt (by omega)]
  cases order <;> refine ⟨_, _, rfl, ?_⟩ <;> simp only [ByteOrder.unit, hl, hh] <;> omega

theorem toNat_lt_or (c : Char) : c.toNat < 0xD800 ∨ 0xDFFF < c.toNat ∧ c.toNat < 0x110000 := by
  have h := c.valid
  exact h

theorem decodeUtf16_single {order : ByteOrder} {c : Char} (hc : c.toNat < 0x10000) (rest : Bytes) :
    decodeUtf16 order (order.bytes c.toNat ++ rest) = (decodeUtf16 order rest).map (c :: ·) := by
  obtain ⟨a, b, hb, hu⟩ := exists_bytes order hc
  have hs : c.toNat < 0xD800 ∨ 0xDFFF < c.toNat := by
    have := toNat_lt_or c
    omega
  rw [hb, List.cons_append, List.cons_append, List.nil_append, decodeUtf16.eq_def]
  simp only [hu, if_pos hs, Char.ofNat_toNat]

theorem decodeUtf16_pair {order : ByteOrder} {high low : Nat} (hh : 0xD800 ≤ high)
    (hh' : high ≤ 0xDBFF) (hl : 0xDC00 ≤ low) (hl' : low ≤ 0xDFFF) (rest : Bytes) :
    decodeUtf16 order (order.bytes high ++ (order.bytes low ++ rest)) =
      (decodeUtf16 order rest).map (ofSurrogates high low :: ·) := by
  obtain ⟨a, b, hb, hu⟩ := exists_bytes order (u := high) (by omega)
  obtain ⟨c, d, hd, hv⟩ := exists_bytes order (u := low) (by omega)
  have hs : ¬ (high < 0xD800 ∨ 0xDFFF < high) := by omega
  rw [hb, hd]
  simp only [List.cons_append, List.nil_append]
  rw [decodeUtf16]
  simp only [hu, hv, if_neg hs, if_pos hh', if_pos (And.intro hl hl')]

theorem decodeUtf16_encodeUtf16 (order : ByteOrder) (t : List Char) :
    decodeUtf16 order (encodeUtf16 order t) = some t := by
  induction t with
  | nil => rfl
  | cons c t ih =>
    rw [encodeUtf16, List.flatMap_cons]
    by_cases hc : c.toNat < 0x10000
    · rw [units, if_pos hc, List.flatMap_singleton, decodeUtf16_single hc]
      exact congrArg (Option.map (c :: ·)) ih
    · have hr := toNat_lt_or c
      have hs : ofSurrogates (0xD800 + (c.toNat - 0x10000) / 0x400)
          (0xDC00 + (c.toNat - 0x10000) % 0x400) = c := by
        have hv : (0xD800 + (c.toNat - 0x10000) / 0x400 - 0xD800) * 0x400 +
            (0xDC00 + (c.toNat - 0x10000) % 0x400 - 0xDC00) + 0x10000 = c.toNat := by omega
        rw [ofSurrogates, hv, Char.ofNat_toNat]
      rw [units, if_neg hc, List.flatMap_cons, List.flatMap_singleton, List.append_assoc,
        decodeUtf16_pair (by omega) (by omega) (by omega) (by omega), hs]
      exact congrArg (Option.map (c :: ·)) ih

def mark : Bytes := [0xEF, 0xBB, 0xBF]

/-- The forms in which the text `t` is stored, each with the encoding that is declared for it. -/
inductive Stored (t : List Char) : Option Charset → Bytes → Prop
  | plain : Stored t none (Bytes.ofChars t)
  | marked {declared} : Stored t declared (mark ++ Bytes.ofChars t)
  | little {declared} : Stored t (some declared) ([0xFF, 0xFE] ++ encodeUtf16 .little t)
  | big {declared} : Stored t (some declared) ([0xFE, 0xFF] ++ encodeUtf16 .big t)

theorem toUtf8_of_detect {declared actual : Charset} {b body : Bytes} {t : List Char}
    (hd : detect declared b = (actual, body)) (ht : actual.decode body = some t) :
    toUtf8 (some declared) b = .ok (Bytes.ofChars t) := by
  simp only [toUtf8, hd, ht]

/-- What is read of a stored text is its UTF-8 form. Only the mark of a file without a declaration
stays in front. -/
theorem Stored.toUtf8_eq {t : List Char} {declared : Option Charset} {b : Bytes}
    (h : Stored t declared b) :
    toUtf8 declared b = .ok (Bytes.ofChars t) ∨ toUtf8 declared b = .ok (mark ++ Bytes.ofChars t) := by
  cases h with
  | plain => exact .inl rfl
  | @marked declared =>
    cases declared with
    | none => exact .inr rfl
    | some declared => exact .inl (toUtf8_of_detect rfl (Bytes.chars?_ofChars t))
  | little => exact .inl (toUtf8_of_detect rfl (decodeUtf16_encodeUtf16 .little t))
  | big => exact .inl (toUtf8_of_detect rfl (decodeUtf16_encodeUtf16 .big t))

end CommentBlocks.Charset
