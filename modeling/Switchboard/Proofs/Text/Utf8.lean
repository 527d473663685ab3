import Switchboard.Text.Utf8

/-!
# Texts survive their bytes

The bytes of a text are those of its characters, one after the other. The strict reader takes one
character off the front of such bytes at a time: the first byte tells how many bytes belong to the
character, and the ranges it allows for the second one leave out what no character is written as.

A byte below 0x80 is a character of its own and belongs to no other one. So when a text that
begins with such a byte is put behind other bytes, nothing changes about these: they are read as
what they are read as alone, or they are no text, and then neither is the whole.

## Main results

* `front_charBytes` — the bytes of a character are read as that character, whatever follows them.
* `decode_encode` — reading the bytes of a text gives the text.
* `encode_inj` — texts with the same bytes are the same.
* `notMem_encode` — a byte below 0x80 is found only where its character is.
* `decode_append` — behind a text, a text is read as itself.
* `decode_append_of_error` — bytes that are no text stay no text.
-/

namespace Switchboard.Text.Utf8

/-- The bytes of one character. -/
abbrev charBytes (c : Char) : Bytes := String.utf8EncodeChar c

/-- Listing the bytes of an array from a place on. -/
theorem toList_loop_eq (bytes : ByteArray) (i : Nat) (behind : Bytes) :
    ByteArray.toList.loop bytes i behind = behind.reverse ++ bytes.data.toList.drop i := by
  fun_induction ByteArray.toList.loop bytes i behind with
  | case1 i behind hlt ih =>
      have hlength : i < bytes.data.toList.length := hlt
      have hnext : bytes.data.toList.drop i = bytes.get! i :: bytes.data.toList.drop (i + 1) := by
        rw [List.drop_eq_getElem_cons hlength]
        simp [ByteArray.get!, hlt]
      rw [ih, hnext, List.reverse_cons, List.append_assoc]
      rfl
  | case2 i behind hge =>
      have hlength : bytes.data.toList.length ≤ i := Nat.le_of_not_lt hge
      rw [List.drop_eq_nil_of_le hlength, List.append_nil]

theorem encode_eq (text : String) : encode text = text.toList.flatMap charBytes := by
  have hbytes : text.toUTF8 = (text.toList.flatMap charBytes).toByteArray := by
    conv => lhs; rw [← String.ofList_toList (s := text)]
    rfl
  rw [encode, hbytes, ByteArray.toList, toList_loop_eq, List.toList_data_toByteArray]
  rfl

/-! ## The tail of a character -/

section Tail

variable {owed value size n : Nat} {lo hi : UInt8} {rest : Bytes}

theorem toNat_ofNat_of_lt (h : n < 256) : (UInt8.ofNat n).toNat = n := by
  rw [UInt8.toNat_ofNat']
  exact Nat.mod_eq_of_lt h

theorem tail_done : tail 0 value size lo hi rest = .char (Char.ofNat value) size := by
  cases rest <;> rfl

/-- A continuation byte within the allowed range contributes its six bits. -/
theorem tail_next (hlo : lo.toNat ≤ n % 64 + 128) (hhi : n % 64 + 128 ≤ hi.toNat) :
    tail (owed + 1) value size lo hi (UInt8.ofNat (n % 64 + 128) :: rest) =
      tail owed (value * 64 + n % 64) (size + 1) 0x80 0xBF rest := by
  have hbyte : (UInt8.ofNat (n % 64 + 128)).toNat = n % 64 + 128 := toNat_ofNat_of_lt (by omega)
  have hrange : lo ≤ UInt8.ofNat (n % 64 + 128) ∧ UInt8.ofNat (n % 64 + 128) ≤ hi := by
    rw [UInt8.le_iff_toNat_le, UInt8.le_iff_toNat_le, hbyte]
    exact ⟨hlo, hhi⟩
  have hbits : (n % 64 + 128) % 64 = n % 64 := by omega
  rw [tail, if_pos hrange, hbyte, hbits]

/-- Of a byte that is no first one, all six bits are free. -/
theorem tail_free :
    tail (owed + 1) value size 0x80 0xBF (UInt8.ofNat (n % 64 + 128) :: rest) =
      tail owed (value * 64 + n % 64) (size + 1) 0x80 0xBF rest :=
  tail_next (show 128 ≤ n % 64 + 128 by omega) (show n % 64 + 128 ≤ 191 by omega)

end Tail

/-! ## The front of a text -/

section Front

variable {v : Nat} (rest : Bytes)

/-- A byte that is no character by itself says how to go on. -/
theorem front_of_lead {b : UInt8} {owed bits : Nat} {lo hi : UInt8} (hhigh : 0x80 ≤ b.toNat)
    (hlead : lead? b = some (owed, bits, lo, hi)) : front b rest = tail owed bits 1 lo hi rest := by
  have hnot : ¬ b < 0x80 := by
    rw [UInt8.lt_iff_toNat_lt]
    exact Nat.not_lt.mpr hhigh
  rw [front, if_neg hnot, hlead]

/-- The first byte of a character, by its number. -/
theorem lead?_ofNat {n : Nat} (h : n < 256) :
    lead? (UInt8.ofNat n) =
      if n < 0xC2 then none
      else if n < 0xE0 then some (1, n % 32, 0x80, 0xBF)
      else if n = 0xE0 then some (2, n % 16, 0xA0, 0xBF)
      else if n = 0xED then some (2, n % 16, 0x80, 0x9F)
      else if n < 0xF0 then some (2, n % 16, 0x80, 0xBF)
      else if n = 0xF0 then some (3, n % 8, 0x90, 0xBF)
      else if n < 0xF4 then some (3, n % 8, 0x80, 0xBF)
      else if n = 0xF4 then some (3, n % 8, 0x80, 0x8F)
      else none := by
  simp only [lead?, UInt8.lt_iff_toNat_lt, ← UInt8.toNat_inj, toNat_ofNat_of_lt h]
  rfl

theorem front_one (h : v ≤ 0x7f) : front (UInt8.ofNat v) rest = .char (Char.ofNat v) 1 := by
  have hv : (UInt8.ofNat v).toNat = v := toNat_ofNat_of_lt (by omega)
  have hlow : UInt8.ofNat v < 0x80 := by
    rw [UInt8.lt_iff_toNat_lt, hv]
    exact Nat.lt_succ_of_le h
  rw [front, if_pos hlow, hv]

theorem front_two (hlow : 0x7f < v) (hhigh : v ≤ 0x7ff) :
    front (UInt8.ofNat (v / 64 % 32 + 0xC0)) (UInt8.ofNat (v % 64 + 0x80) :: rest) =
      .char (Char.ofNat v) 2 := by
  have hfirst : v / 64 % 32 + 0xC0 < 256 := by omega
  have hlead := lead?_ofNat hfirst
  rw [if_neg (by omega), if_pos (by omega)] at hlead
  have hvalue : (v / 64 % 32 + 0xC0) % 32 * 64 + v % 64 = v := by omega
  rw [front_of_lead _ (by rw [toNat_ofNat_of_lt hfirst]; omega) hlead, tail_free, hvalue, tail_done]

theorem front_three (hlow : 0x7ff < v) (hhigh : v ≤ 0xffff) (hvalid : v < 0xD800 ∨ 0xDFFF < v) :
    front (UInt8.ofNat (v / 4096 % 16 + 0xE0))
        (UInt8.ofNat (v / 64 % 64 + 0x80) :: UInt8.ofNat (v % 64 + 0x80) :: rest) =
      .char (Char.ofNat v) 3 := by
  have hfirst : v / 4096 % 16 + 0xE0 < 256 := by omega
  have hstart : 0x80 ≤ (UInt8.ofNat (v / 4096 % 16 + 0xE0)).toNat := by
    rw [toNat_ofNat_of_lt hfirst]
    omega
  have hvalue : ((v / 4096 % 16 + 0xE0) % 16 * 64 + v / 64 % 64) * 64 + v % 64 = v := by omega
  have hlead := lead?_ofNat hfirst
  rw [if_neg (by omega), if_neg (by omega)] at hlead
  -- The two ends of the range have a narrower second byte: no long forms, no surrogates.
  split at hlead
  · rw [front_of_lead _ hstart hlead,
      tail_next (show 160 ≤ v / 64 % 64 + 128 by omega) (show v / 64 % 64 + 128 ≤ 191 by omega),
      tail_free, hvalue, tail_done]
  split at hlead
  · rw [front_of_lead _ hstart hlead,
      tail_next (show 128 ≤ v / 64 % 64 + 128 by omega) (show v / 64 % 64 + 128 ≤ 159 by omega),
      tail_free, hvalue, tail_done]
  · rw [if_pos (by omega)] at hlead
    rw [front_of_lead _ hstart hlead, tail_free, tail_free, hvalue, tail_done]

theorem front_four (hlow : 0xffff < v) (hhigh : v < 0x110000) :
    front (UInt8.ofNat (v / 262144 % 8 + 0xF0))
        (UInt8.ofNat (v / 4096 % 64 + 0x80) :: UInt8.ofNat (v / 64 % 64 + 0x80) ::
          UInt8.ofNat (v % 64 + 0x80) :: rest) =
      .char (Char.ofNat v) 4 := by
  have hfirst : v / 262144 % 8 + 0xF0 < 256 := by omega
  have hstart : 0x80 ≤ (UInt8.ofNat (v / 262144 % 8 + 0xF0)).toNat := by
    rw [toNat_ofNat_of_lt hfirst]
    omega
  have hvalue : (((v / 262144 % 8 + 0xF0) % 8 * 64 + v / 4096 % 64) * 64 + v / 64 % 64) * 64 +
      v % 64 = v := by omega
  have hlead := lead?_ofNat hfirst
  rw [if_neg (by omega), if_neg (by omega), if_neg (by omega), if_neg (by omega),
    if_neg (by omega)] at hlead
  split at hlead
  · rw [front_of_lead _ hstart hlead,
      tail_next (show 144 ≤ v / 4096 % 64 + 128 by omega) (show v / 4096 % 64 + 128 ≤ 191 by omega),
      tail_free, tail_free, hvalue, tail_done]
  split at hlead
  · rw [front_of_lead _ hstart hlead, tail_free, tail_free, tail_free, hvalue, tail_done]
  · rw [if_pos (by omega)] at hlead
    rw [front_of_lead _ hstart hlead,
      tail_next (show 128 ≤ v / 4096 % 64 + 128 by omega) (show v / 4096 % 64 + 128 ≤ 143 by omega),
      tail_free, tail_free, hvalue, tail_done]

/-- The bytes of a character stand for that character, whatever follows them. -/
theorem front_charBytes (c : Char) :
    ∃ first later, charBytes c = first :: later ∧
      front first (later ++ rest) = .char c (later.length + 1) := by
  have hchar : Char.ofNat c.val.toNat = c := Char.ofNat_toNat c
  have hvalid : c.val.toNat < 0xD800 ∨ 0xDFFF < c.val.toNat ∧ c.val.toNat < 0x110000 := c.valid
  by_cases hone : c.val.toNat ≤ 0x7f
  · refine ⟨_, [], by rw [charBytes, String.utf8EncodeChar, if_pos hone], ?_⟩
    rw [front_one _ hone, hchar]
    rfl
  by_cases htwo : c.val.toNat ≤ 0x7ff
  · refine ⟨_, [_], by rw [charBytes, String.utf8EncodeChar, if_neg hone, if_pos htwo], ?_⟩
    refine (front_two rest (by omega) htwo).trans ?_
    rw [hchar]
    rfl
  by_cases hthree : c.val.toNat ≤ 0xffff
  · refine ⟨_, [_, _], by
      rw [charBytes, String.utf8EncodeChar, if_neg hone, if_neg htwo, if_pos hthree], ?_⟩
    refine (front_three rest (by omega) hthree (by omega)).trans ?_
    rw [hchar]
    rfl
  · refine ⟨_, [_, _, _], by
      rw [charBytes, String.utf8EncodeChar, if_neg hone, if_neg htwo, if_neg hthree], ?_⟩
    refine (front_four rest (by omega) (by omega)).trans ?_
    rw [hchar]
    rfl

end Front

/-! ## Whole texts -/

/-- The bytes after the first one of a character are passed over. -/
theorem strictFrom_skip (out : List Char) (index : Nat) (bytes rest : Bytes) :
    strictFrom out index bytes.length (bytes ++ rest) =
      strictFrom out (index + bytes.length) 0 rest := by
  induction bytes generalizing index with
  | nil => rfl
  | cons b bytes ih =>
      show strictFrom out (index + 1) bytes.length (bytes ++ rest) = _
      rw [ih, List.length_cons]
      congr 1
      omega

/-- One character after the other is read. -/
theorem strictFrom_charBytes (chars out : List Char) (index : Nat) :
    strictFrom out index 0 (chars.flatMap charBytes) = .ok (out.reverse ++ chars) := by
  induction chars generalizing out index with
  | nil => simp [strictFrom]
  | cons c chars ih =>
      obtain ⟨first, later, hbytes, hfront⟩ := front_charBytes (chars.flatMap charBytes) c
      rw [List.flatMap_cons, hbytes, List.cons_append, strictFrom, hfront]
      show strictFrom (c :: out) (index + 1) later.length (later ++ chars.flatMap charBytes) = _
      rw [strictFrom_skip, ih, List.reverse_cons, List.append_assoc]
      rfl

theorem decode_encode (text : String) : decode (encode text) = .ok text := by
  rw [decode, encode_eq, strictFrom_charBytes]
  show Except.ok (String.ofList text.toList) = _
  rw [String.ofList_toList]

/-- Texts with the same bytes are the same. -/
theorem encode_inj {a b : String} : encode a = encode b ↔ a = b := by
  refine ⟨fun h => ?_, congrArg encode⟩
  have hdecode : decode (encode a) = decode (encode b) := congrArg decode h
  rw [decode_encode, decode_encode] at hdecode
  exact Except.ok.inj hdecode

/-! ## Bytes without the highest bit -/

/-- A byte without its highest bit stands for one character only: in longer characters every byte
has this bit. -/
theorem toNat_of_mem_charBytes {c : Char} {b : UInt8} (hb : b.toNat < 128)
    (h : b ∈ charBytes c) : c.toNat = b.toNat := by
  have hlow : ∀ n, n < 256 → b = UInt8.ofNat n → n < 128 := by
    rintro n hn rfl
    rwa [toNat_ofNat_of_lt hn] at hb
  rw [charBytes, String.utf8EncodeChar] at h
  split at h
  · rw [List.mem_singleton] at h
    rw [h, toNat_ofNat_of_lt (by omega)]
    rfl
  split at h
  · simp only [List.mem_cons, List.not_mem_nil, or_false] at h
    rcases h with h | h <;> exact absurd (hlow _ (by omega) h) (by omega)
  split at h
  · simp only [List.mem_cons, List.not_mem_nil, or_false] at h
    rcases h with h | h | h <;> exact absurd (hlow _ (by omega) h) (by omega)
  · simp only [List.mem_cons, List.not_mem_nil, or_false] at h
    rcases h with h | h | h | h <;> exact absurd (hlow _ (by omega) h) (by omega)

/-- So it is found in a text only where its character is. -/
theorem notMem_encode {text : String} {c : Char} {b : UInt8} (hb : b.toNat < 128)
    (hc : c.toNat = b.toNat) (h : c ∉ text.toList) : b ∉ encode text := by
  rw [encode_eq, List.mem_flatMap]
  rintro ⟨d, hd, hmem⟩
  have heq : d = c := by
    rw [← Char.ofNat_toNat d, ← Char.ofNat_toNat c, toNat_of_mem_charBytes hb hmem, hc]
  exact h (heq ▸ hd)

/-- The byte zero stands for the character NUL only. -/
theorem zero_notMem_encode {text : String} (h : '\x00' ∉ text.toList) :
    (0 : UInt8) ∉ encode text :=
  notMem_encode (by decide) (by decide) h

section Behind

variable {b : UInt8} {bytes rest more : Bytes} {out chars : List Char} {index skip : Nat}

/-! ## Characters in front of other bytes -/

section Front

variable {owed value size n : Nat} {lo hi : UInt8} {c : Char} {cut : Bool}

/-- A character that was complete is the same with more behind it. -/
theorem tail_append_of_char (h : tail owed value size lo hi rest = .char c n) (more : Bytes) :
    tail owed value size lo hi (rest ++ more) = .char c n ∧ n ≤ size + rest.length := by
  induction rest generalizing owed value size lo hi with
  | nil =>
      cases owed with
      | zero =>
          rw [tail_done] at h ⊢
          cases h
          exact ⟨rfl, Nat.le_refl _⟩
      | succ owed => cases h
  | cons b rest ih =>
      cases owed with
      | zero =>
          rw [tail_done] at h ⊢
          cases h
          exact ⟨rfl, Nat.le_add_right _ _⟩
      | succ owed =>
          rw [List.cons_append, tail]
          rw [tail] at h
          split at h
          · next hrange =>
              obtain ⟨htail, hsize⟩ := ih h
              rw [if_pos hrange]
              exact ⟨htail, by rw [List.length_cons]; omega⟩
          · cases h

/-- A character that was not complete is not completed by a byte below 0x80. -/
theorem tail_append_of_bad (hlo : 0x80 ≤ lo) (hb : b < 0x80)
    (h : tail owed value size lo hi rest = .bad n cut) (more : Bytes) :
    ∃ n cut, tail owed value size lo hi (rest ++ b :: more) = .bad n cut := by
  induction rest generalizing owed value size lo hi with
  | nil =>
      cases owed with
      | zero => cases h
      | succ owed =>
          have hrange : ¬ (lo ≤ b ∧ b ≤ hi) := by
            rintro ⟨hle, -⟩
            exact UInt8.lt_irrefl b (UInt8.lt_of_lt_of_le hb (UInt8.le_trans hlo hle))
          rw [List.nil_append, tail, if_neg hrange]
          exact ⟨size, false, rfl⟩
  | cons b' rest ih =>
      cases owed with
      | zero => cases h
      | succ owed =>
          rw [List.cons_append, tail]
          rw [tail] at h
          split at h
          · next hrange =>
              rw [if_pos hrange]
              exact ih (by decide) h
          · next hrange =>
              rw [if_neg hrange]
              exact ⟨size, false, rfl⟩

theorem le_of_lead? (h : lead? b = some (owed, value, lo, hi)) : 0x80 ≤ lo := by
  unfold lead? at h
  repeat' split at h
  all_goals cases h
  all_goals decide

theorem front_append_of_char (h : front b rest = .char c n) (more : Bytes) :
    front b (rest ++ more) = .char c n ∧ n - 1 ≤ rest.length := by
  unfold front at h ⊢
  split at h
  · next hascii =>
      rw [if_pos hascii]
      cases h
      exact ⟨rfl, Nat.zero_le _⟩
  · next hascii =>
      rw [if_neg hascii]
      cases hlead : lead? b with
      | none =>
          rw [hlead] at h
          cases h
      | some lead =>
          rw [hlead] at h
          obtain ⟨htail, hsize⟩ := tail_append_of_char h more
          exact ⟨htail, by omega⟩

theorem front_append_of_bad {first : UInt8} (hb : b < 0x80) (h : front first rest = .bad n cut)
    (more : Bytes) : ∃ n cut, front first (rest ++ b :: more) = .bad n cut := by
  unfold front at h ⊢
  split at h
  · cases h
  · next hascii =>
      rw [if_neg hascii]
      cases hlead : lead? first with
      | none => exact ⟨1, false, rfl⟩
      | some lead =>
          rw [hlead] at h
          exact tail_append_of_bad (le_of_lead? hlead) hb h more

end Front

/-! ## Texts in front of other bytes -/

/-- Behind a text, reading goes on as if it began. -/
theorem strictFrom_append (hskip : skip ≤ bytes.length)
    (h : strictFrom out index skip bytes = .ok chars) (more : Bytes) :
    strictFrom out index skip (bytes ++ more) =
      strictFrom chars.reverse (index + bytes.length) 0 more := by
  induction bytes generalizing out index skip with
  | nil =>
      obtain rfl := Nat.le_zero.mp hskip
      cases h
      rw [List.reverse_reverse]
      rfl
  | cons b bytes ih =>
      rw [List.length_cons] at hskip
      have hindex : index + (bytes.length + 1) = index + 1 + bytes.length := by omega
      rw [List.cons_append, List.length_cons, hindex]
      cases skip with
      | succ skip => exact ih (by omega) h
      | zero =>
          rw [strictFrom] at h ⊢
          cases hfront : front b bytes with
          | bad size cut =>
              rw [hfront] at h
              cases h
          | char c size =>
              obtain ⟨hmore, hsize⟩ := front_append_of_char hfront more
              rw [hfront] at h
              rw [hmore]
              exact ih hsize h

/-- Behind bytes that are no text, a byte below 0x80 does not help. -/
theorem strictFrom_append_of_error (hb : b < 0x80) (hskip : skip ≤ bytes.length) {fault : Fault}
    (h : strictFrom out index skip bytes = .error fault) (more : Bytes) :
    ∃ fault, strictFrom out index skip (bytes ++ b :: more) = .error fault := by
  induction bytes generalizing out index skip with
  | nil => cases h
  | cons first bytes ih =>
      rw [List.length_cons] at hskip
      rw [List.cons_append]
      cases skip with
      | succ skip => exact ih (by omega) h
      | zero =>
          rw [strictFrom] at h ⊢
          cases hfront : front first bytes with
          | bad size cut =>
              obtain ⟨size, cut, hbad⟩ := front_append_of_bad hb hfront more
              rw [hbad]
              exact ⟨_, rfl⟩
          | char c size =>
              obtain ⟨hmore, hsize⟩ := front_append_of_char hfront (b :: more)
              rw [hfront] at h
              rw [hmore]
              exact ih hsize h

/-- Behind a text, a text is read as itself. -/
theorem decode_append {text : String} (h : decode bytes = .ok text) (more : String) :
    decode (bytes ++ encode more) = .ok (text ++ more) := by
  rw [decode] at h
  cases hchars : strictFrom [] 0 0 bytes with
  | error fault =>
      rw [hchars] at h
      cases h
  | ok chars =>
      rw [hchars] at h
      cases h
      rw [decode, strictFrom_append (Nat.zero_le _) hchars, encode_eq, strictFrom_charBytes,
        List.reverse_reverse]
      show Except.ok (String.ofList (chars ++ more.toList)) = _
      rw [String.ofList_append, String.ofList_toList]

/-- Bytes that are no text stay no text. -/
theorem decode_append_of_error (hb : b < 0x80) {fault : Fault} (h : decode bytes = .error fault)
    (more : Bytes) : ∃ fault, decode (bytes ++ b :: more) = .error fault := by
  rw [decode] at h
  cases hchars : strictFrom [] 0 0 bytes with
  | ok chars =>
      rw [hchars] at h
      cases h
  | error fault =>
      obtain ⟨fault, hmore⟩ := strictFrom_append_of_error hb (Nat.zero_le _) hchars more
      exact ⟨fault, by rw [decode, hmore]; rfl⟩

end Behind

end Switchboard.Text.Utf8
