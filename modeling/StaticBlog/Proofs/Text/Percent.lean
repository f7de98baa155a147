import StaticBlog.Text.Digits
import StaticBlog.Text.Percent

/-!
# What percent-encoded text decodes to

- `Percent.bytes` : the bytes of a text
- `Percent.decode?_eq_some_iff` : decoding tells the text that has the decoded bytes
- `Percent.decodeBytes_encode_append` : decoding undoes encoding
- `Percent.decode?_eq_self_iff` : a text decodes to itself exactly if it holds no complete escape
-/

namespace StaticBlog
namespace Percent

/-! ## Bytes -/

/-- The bytes of a text. -/
def bytes (s : List Char) : List UInt8 := s.flatMap String.utf8EncodeChar

theorem bytes_nil : bytes [] = [] := rfl

theorem bytes_cons (c : Char) (s : List Char) :
    bytes (c :: s) = String.utf8EncodeChar c ++ bytes s := List.flatMap_cons

theorem bytes_append (s t : List Char) : bytes (s ++ t) = bytes s ++ bytes t :=
  List.flatMap_append

/-- Reading the bytes of an array from an index on puts them behind those that have been read. -/
theorem toList_loop_eq (b : ByteArray) (i : Nat) (r : List UInt8) :
    ByteArray.toList.loop b i r = r.reverse ++ b.data.toList.drop i := by
  induction i, r using ByteArray.toList.loop.induct b with
  | case1 i r hi ih =>
    have hlt : i < b.data.toList.length := by simpa using hi
    have hget : b.get! i = b.data.toList[i] := by
      simp only [ByteArray.get!, Array.getElem_toList]
      exact getElem!_pos b.data i (by simpa using hi)
    rw [ByteArray.toList.loop, if_pos hi, ih, List.drop_eq_getElem_cons hlt, hget]
    simp
  | case2 i r hi =>
    have hlen : b.data.toList.length ≤ i := by simpa using hi
    rw [ByteArray.toList.loop, if_neg hi, List.drop_eq_nil_of_le hlen, List.append_nil]

theorem toByteArray_eq (s : String) : s.toByteArray = (bytes s.toList).toByteArray := by
  have hs : String.ofList s.toList = s := String.ofList_toList
  calc s.toByteArray = (String.ofList s.toList).toByteArray := by rw [hs]
    _ = (bytes s.toList).toByteArray := rfl

theorem toList_toUTF8 (s : String) : s.toUTF8.toList = bytes s.toList := by
  have hdata : s.toUTF8 = (bytes s.toList).toByteArray := toByteArray_eq s
  rw [hdata, ByteArray.toList, toList_loop_eq]
  simp

/-- A text has its bytes alone. -/
theorem bytes_injective {s t : List Char} (h : bytes s = bytes t) : s = t := by
  have harray : (String.ofList s).toByteArray = (String.ofList t).toByteArray := by
    change (bytes s).toByteArray = (bytes t).toByteArray
    rw [h]
  exact String.ofList_injective (String.toByteArray_inj.1 harray)

/-- Decoding tells the text that has the decoded bytes. -/
theorem decode?_eq_some_iff {s t : String} :
    decode? s = some t ↔ bytes t.toList = decodeBytes (bytes s.toList) := by
  have harray : ∀ l : List UInt8, (⟨l.toArray⟩ : ByteArray) = l.toByteArray := by
    intro l
    apply ByteArray.ext
    simp
  unfold decode? String.fromUTF8?
  rw [toList_toUTF8, harray]
  constructor
  · intro h
    split at h
    · have ht : t.toByteArray = (decodeBytes (bytes s.toList)).toByteArray := by
        cases h
        rfl
      rw [toByteArray_eq] at ht
      exact List.toByteArray_inj.1 ht
    · cases h
  · intro h
    -- Bytes that a text has are well-formed.
    have hvalid : (decodeBytes (bytes s.toList)).toByteArray.IsValidUTF8 :=
      ⟨t.toList, by rw [← h]; rfl⟩
    rw [dif_pos hvalid]
    congr 1
    apply String.toByteArray_inj.1
    rw [toByteArray_eq t, h]
    rfl

/-! ## Bytes of single characters -/

/-- A character beyond ASCII has no byte of an ASCII character. -/
theorem utf8EncodeChar_cases (c : Char) :
    (c.toNat < 128 ∧ String.utf8EncodeChar c = [UInt8.ofNat c.toNat]) ∨
      (128 ≤ c.toNat ∧ String.utf8EncodeChar c ≠ [] ∧
        ∀ b ∈ String.utf8EncodeChar c, 128 ≤ b.toNat) := by
  have hmod : ∀ n, n < 256 → (UInt8.ofNat n).toNat = n := fun n hn => by
    simp [Nat.mod_eq_of_lt hn]
  have hval : c.toNat = c.val.toNat := rfl
  unfold String.utf8EncodeChar
  by_cases h₁ : c.val.toNat ≤ 127
  · left
    rw [hval, if_pos h₁]
    exact ⟨by omega, rfl⟩
  · right
    rw [hval, if_neg h₁]
    refine ⟨by omega, ?_, ?_⟩
    · split
      · simp
      · split <;> simp
    · -- Each byte carries a mark of its place in the character.
      have hbyte : ∀ m k, 128 ≤ k → m + k < 256 → 128 ≤ (UInt8.ofNat (m + k)).toNat := by
        intro m k hk hlt
        rw [hmod _ hlt]
        omega
      split
      · simp only [List.mem_cons, List.not_mem_nil, or_false]
        rintro b (rfl | rfl) <;> exact hbyte _ _ (by omega) (by omega)
      · split
        · simp only [List.mem_cons, List.not_mem_nil, or_false]
          rintro b (rfl | rfl | rfl) <;> exact hbyte _ _ (by omega) (by omega)
        · simp only [List.mem_cons, List.not_mem_nil, or_false]
          rintro b (rfl | rfl | rfl | rfl) <;> exact hbyte _ _ (by omega) (by omega)

theorem utf8EncodeChar_of_lt {c : Char} (hc : c.toNat < 128) :
    String.utf8EncodeChar c = [UInt8.ofNat c.toNat] := by
  rcases utf8EncodeChar_cases c with ⟨-, hsingle⟩ | ⟨hge, -⟩
  · exact hsingle
  · omega

/-- An ASCII byte of a text is one of its characters. -/
theorem exists_char_of_byte {s : List Char} {before after : List UInt8} {b : UInt8}
    (hb : b.toNat < 128) : bytes s = before ++ b :: after →
      ∃ t u, s = t ++ Char.ofNat b.toNat :: u ∧ bytes t = before ∧ bytes u = after := by
  intro h
  induction s generalizing before with
  | nil => simp [bytes] at h
  | cons c s ih =>
    rw [bytes_cons] at h
    rcases List.append_eq_append_iff.1 h with ⟨middle, hbefore, hrest⟩ | ⟨middle, hchar, hafter⟩
    · rcases ih hrest with ⟨t, u, rfl, rfl, rfl⟩
      exact ⟨c :: t, u, rfl, by rw [hbefore, bytes_cons], rfl⟩
    · cases middle with
      | nil =>
        have hrest : bytes s = [] ++ b :: after := by simpa using hafter.symm
        rcases ih hrest with ⟨t, u, rfl, ht, rfl⟩
        refine ⟨c :: t, u, rfl, ?_, rfl⟩
        rw [bytes_cons, ht, hchar]
        simp
      | cons b' middle =>
        have hbb : b' = b := by simpa using (List.cons.inj hafter).1.symm
        subst hbb
        -- The byte is one of the first character, which thus is the byte alone.
        rcases utf8EncodeChar_cases c with ⟨hlt, hsingle⟩ | ⟨-, -, hall⟩
        · rw [hsingle] at hchar
          have hlen := congrArg List.length hchar
          have hnil : before = [] ∧ middle = [] := by
            simp only [List.length_append, List.length_cons, List.length_nil] at hlen
            exact ⟨List.eq_nil_of_length_eq_zero (by omega),
              List.eq_nil_of_length_eq_zero (by omega)⟩
          rcases hnil with ⟨rfl, rfl⟩
          have hbc : UInt8.ofNat c.toNat = b' := by simpa using hchar
          have hc : Char.ofNat b'.toNat = c := by
            have hn : b'.toNat = c.toNat := by
              rw [← hbc]
              simp [Nat.mod_eq_of_lt (show c.toNat < 256 by omega)]
            rw [hn, Char.ofNat_toNat]
          refine ⟨[], s, by rw [hc]; rfl, rfl, ?_⟩
          exact (List.cons.inj hafter).2.symm
        · have hge : 128 ≤ b'.toNat := hall b' (by simp [hchar])
          omega

theorem exists_char_of_first_byte {s : List Char} {after : List UInt8} {b : UInt8}
    (hb : b.toNat < 128) : bytes s = b :: after →
      ∃ u, s = Char.ofNat b.toNat :: u ∧ bytes u = after := by
  intro h
  have hsplit : bytes s = [] ++ b :: after := h
  rcases exists_char_of_byte hb hsplit with ⟨t, u, hs, ht, hu⟩
  have hnil : t = [] := bytes_injective (ht.trans bytes_nil.symm)
  exact ⟨u, by rw [hs, hnil]; rfl, hu⟩

/-! ## Decoding -/

/-- A byte is kept unless it is a percent sign with two bytes behind it. -/
theorem decodeBytes_cons {b : UInt8} {rest : List UInt8}
    (hb : ∀ h l after, b = 0x25 → rest = h :: l :: after → False) :
    decodeBytes (b :: rest) = b :: decodeBytes rest := by
  rw [decodeBytes]
  exact hb

theorem decodeBytes_cons_of_ne {b : UInt8} (hb : b ≠ 0x25) (rest : List UInt8) :
    decodeBytes (b :: rest) = b :: decodeBytes rest :=
  decodeBytes_cons fun _ _ _ heq => absurd heq hb

/-- An escape is read as its byte. -/
theorem decodeBytes_escape {h l a b : UInt8} (ha : hexValue? h = some a) (hb : hexValue? l = some b)
    (rest : List UInt8) :
    decodeBytes (0x25 :: h :: l :: rest) = (a * 16 + b) :: decodeBytes rest := by
  rw [decodeBytes, ha, hb]

/-- A percent sign stands for itself if one of the two bytes behind it is no digit. -/
theorem decodeBytes_percent {h l : UInt8}
    (hnot : ∀ a b, hexValue? h = some a → hexValue? l = some b → False) (rest : List UInt8) :
    decodeBytes (0x25 :: h :: l :: rest) = 0x25 :: decodeBytes (h :: l :: rest) := by
  rw [decodeBytes]
  split
  · next a b ha hb => exact absurd hb (hnot a b ha)
  · rfl

theorem decodeBytes_append_of_ne {bs : List UInt8} (hbs : ∀ b ∈ bs, b ≠ 0x25)
    (rest : List UInt8) : decodeBytes (bs ++ rest) = bs ++ decodeBytes rest := by
  induction bs with
  | nil => rfl
  | cons b bs ih =>
    have hrest := ih fun b' hb' => hbs b' (List.mem_cons_of_mem b hb')
    rw [List.cons_append, decodeBytes_cons_of_ne (hbs b List.mem_cons_self), hrest,
      List.cons_append]

theorem ne_percent_of_mem_utf8EncodeChar {c : Char} (hc : c ≠ '%') :
    ∀ b ∈ String.utf8EncodeChar c, b ≠ 0x25 := by
  intro b hb heq
  subst heq
  rcases utf8EncodeChar_cases c with ⟨hlt, hsingle⟩ | ⟨-, -, hall⟩
  · have hn : UInt8.ofNat c.toNat = 0x25 := by
      rw [hsingle] at hb
      exact (List.mem_singleton.1 hb).symm
    have htoNat : c.toNat = 0x25 := by
      have hbyte := congrArg UInt8.toNat hn
      simpa [Nat.mod_eq_of_lt (show c.toNat < 256 by omega)] using hbyte
    apply hc
    rw [← Char.ofNat_toNat c, htoNat]
  · have hge := hall _ hb
    simp at hge

/-- Text without a percent sign decodes to itself. -/
theorem decodeBytes_append_of_not_mem {s : List Char} (hs : '%' ∉ s) (rest : List UInt8) :
    decodeBytes (bytes s ++ rest) = bytes s ++ decodeBytes rest := by
  apply decodeBytes_append_of_ne
  intro b hb
  rcases List.mem_flatMap.1 hb with ⟨c, hc, hbc⟩
  exact ne_percent_of_mem_utf8EncodeChar (fun heq => hs (heq ▸ hc)) b hbc

/-! ## Encoded text -/

theorem hexValue?_hexDigit : ∀ n < 16, (hexDigit n).toNat < 128 ∧
    hexValue? (UInt8.ofNat (hexDigit n).toNat) = some (UInt8.ofNat n) := by
  decide

/-- The escape of a byte is read back as the byte. -/
theorem decodeBytes_encodeByte_append (b : UInt8) (rest : List UInt8) :
    decodeBytes (bytes (encodeByte b) ++ rest) = b :: decodeBytes rest := by
  have hb : b.toNat < 256 := UInt8.toNat_lt_size b
  rcases hexValue?_hexDigit (b.toNat / 16) (by omega) with ⟨hhigh, hhighValue⟩
  rcases hexValue?_hexDigit (b.toNat % 16) (by omega) with ⟨hlow, hlowValue⟩
  have hsum : UInt8.ofNat (b.toNat / 16) * 16 + UInt8.ofNat (b.toNat % 16) = b := by
    apply UInt8.toNat_inj.1
    simp [UInt8.toNat_add, UInt8.toNat_mul]
    omega
  have hbytes : bytes (encodeByte b) = [0x25, UInt8.ofNat (hexDigit (b.toNat / 16)).toNat,
      UInt8.ofNat (hexDigit (b.toNat % 16)).toNat] := by
    rw [encodeByte, bytes_cons, bytes_cons, bytes_cons, utf8EncodeChar_of_lt hhigh,
      utf8EncodeChar_of_lt hlow]
    rfl
  rw [hbytes]
  simp only [List.cons_append, List.nil_append]
  rw [decodeBytes_escape hhighValue hlowValue, hsum]

theorem decodeBytes_encodeBytes_append (bs rest : List UInt8) :
    decodeBytes (bytes (bs.flatMap encodeByte) ++ rest) = bs ++ decodeBytes rest := by
  induction bs with
  | nil => rfl
  | cons b bs ih =>
    rw [List.flatMap_cons, bytes_append, List.append_assoc, decodeBytes_encodeByte_append, ih,
      List.cons_append]

theorem not_isUnreserved_percent : isUnreserved '%' = false := by decide

/-- Decoding undoes encoding. -/
theorem decodeBytes_encode_append (s : List Char) (rest : List UInt8) :
    decodeBytes (bytes (encode s) ++ rest) = bytes s ++ decodeBytes rest := by
  induction s with
  | nil => rfl
  | cons c s ih =>
    have hchar : decodeBytes (bytes (encodeChar c) ++ (bytes (encode s) ++ rest)) =
        String.utf8EncodeChar c ++ decodeBytes (bytes (encode s) ++ rest) := by
      unfold encodeChar
      split
      · next hc =>
        have hpercent : '%' ∉ [c] := by
          intro hmem
          have heq : '%' = c := by simpa using hmem
          rw [← heq, not_isUnreserved_percent] at hc
          cases hc
        rw [decodeBytes_append_of_not_mem hpercent, bytes_cons, bytes_nil, List.append_nil]
      · exact decodeBytes_encodeBytes_append _ _
    calc decodeBytes (bytes (encode (c :: s)) ++ rest)
        = decodeBytes (bytes (encodeChar c) ++ (bytes (encode s) ++ rest)) := by
          rw [encode, List.flatMap_cons, bytes_append, List.append_assoc]
          rfl
      _ = String.utf8EncodeChar c ++ (bytes s ++ decodeBytes rest) := by rw [hchar, ih]
      _ = bytes (c :: s) ++ decodeBytes rest := by rw [bytes_cons, List.append_assoc]

/-! ## Escapes -/

/-- Whether a text holds a percent sign with two hexadecimal digits behind it. -/
def HasEscape (s : List Char) : Prop :=
  ∃ before h l after, s = before ++ '%' :: h :: l :: after ∧
    Text.isHexDigit h = true ∧ Text.isHexDigit l = true

/-- Whether bytes hold that of a percent sign with those of two hexadecimal digits behind it. -/
def HasEscapeByte (bs : List UInt8) : Prop :=
  ∃ before h l after, bs = before ++ 0x25 :: h :: l :: after ∧
    (hexValue? h).isSome = true ∧ (hexValue? l).isSome = true

theorem hasEscapeByte_cons_iff {b : UInt8} {bs : List UInt8} :
    HasEscapeByte (b :: bs) ↔
      (b = 0x25 ∧ ∃ h l after, bs = h :: l :: after ∧
        (hexValue? h).isSome = true ∧ (hexValue? l).isSome = true) ∨ HasEscapeByte bs := by
  constructor
  · rintro ⟨before, h, l, after, heq, hh, hl⟩
    cases before with
    | nil =>
      cases heq
      exact Or.inl ⟨rfl, h, l, after, rfl, hh, hl⟩
    | cons b' before =>
      cases heq
      exact Or.inr ⟨before, h, l, after, rfl, hh, hl⟩
  · rintro (⟨rfl, h, l, after, rfl, hh, hl⟩ | ⟨before, h, l, after, rfl, hh, hl⟩)
    · exact ⟨[], h, l, after, rfl, hh, hl⟩
    · exact ⟨b :: before, h, l, after, rfl, hh, hl⟩

theorem length_decodeBytes_le (bs : List UInt8) : (decodeBytes bs).length ≤ bs.length := by
  induction bs using decodeBytes.induct with
  | case1 h l rest a b hb ha ih =>
    rw [decodeBytes_escape ha hb]
    simp only [List.length_cons]
    omega
  | case2 h l rest hnot ih =>
    rw [decodeBytes_percent hnot]
    exact Nat.add_le_add_right ih 1
  | case3 b rest hb ih =>
    rw [decodeBytes]
    · exact Nat.add_le_add_right ih 1
    · exact hb
  | case4 => exact Nat.le_refl _

/-- Bytes get fewer unless they stay as they are. -/
theorem decodeBytes_eq_of_length {bs : List UInt8} :
    (decodeBytes bs).length = bs.length → decodeBytes bs = bs := by
  induction bs using decodeBytes.induct with
  | case1 h l rest a b hb ha ih =>
    have hshorter := length_decodeBytes_le rest
    intro hlen
    rw [decodeBytes_escape ha hb] at hlen
    simp only [List.length_cons] at hlen
    omega
  | case2 h l rest hnot ih =>
    intro hlen
    rw [decodeBytes_percent hnot] at hlen ⊢
    exact congrArg (0x25 :: ·) (ih (Nat.succ.inj hlen))
  | case3 b rest hb ih =>
    intro hlen
    rw [decodeBytes_cons hb] at hlen ⊢
    exact congrArg (b :: ·) (ih (Nat.succ.inj hlen))
  | case4 => exact fun _ => rfl

/-- Bytes stay as they are exactly if they hold no complete escape. -/
theorem decodeBytes_eq_self_iff (bs : List UInt8) : decodeBytes bs = bs ↔ ¬ HasEscapeByte bs := by
  induction bs using decodeBytes.induct with
  | case1 h l rest a b hb ha ih =>
    have hescape : HasEscapeByte (0x25 :: h :: l :: rest) :=
      ⟨[], h, l, rest, rfl, Option.isSome_of_eq_some ha, Option.isSome_of_eq_some hb⟩
    -- Two bytes fewer are left of a complete escape.
    have hshorter := length_decodeBytes_le rest
    rw [decodeBytes_escape ha hb]
    constructor
    · intro heq
      have hlen := congrArg List.length heq
      simp only [List.length_cons] at hlen
      omega
    · intro hnone
      exact absurd hescape hnone
  | case2 h l rest hnot ih =>
    have hhead : ¬ ∃ h' l' after, h :: l :: rest = h' :: l' :: after ∧
        (hexValue? h').isSome = true ∧ (hexValue? l').isSome = true := by
      rintro ⟨h', l', after, heq, hh, hl⟩
      cases heq
      rcases Option.isSome_iff_exists.1 hh with ⟨a, ha⟩
      rcases Option.isSome_iff_exists.1 hl with ⟨b, hb⟩
      exact hnot a b ha hb
    have hiff : HasEscapeByte (0x25 :: h :: l :: rest) ↔ HasEscapeByte (h :: l :: rest) := by
      rw [hasEscapeByte_cons_iff]
      exact or_iff_right fun hescape => hhead hescape.2
    rw [decodeBytes_percent hnot, List.cons_inj_right, ih, hiff]
  | case3 b rest hb ih =>
    have hhead : ¬ (b = 0x25 ∧ ∃ h l after, rest = h :: l :: after ∧
        (hexValue? h).isSome = true ∧ (hexValue? l).isSome = true) := by
      rintro ⟨rfl, h, l, after, rfl, -⟩
      exact hb h l after rfl rfl
    rw [decodeBytes_cons hb, List.cons_inj_right, ih, hasEscapeByte_cons_iff, or_iff_right hhead]
  | case4 => simp [decodeBytes, HasEscapeByte]

/-- A byte that is no digit is not part of an escape that begins before it. -/
theorem decodeBytes_append_cons {b : UInt8} (hb : hexValue? b = none) (bs rest : List UInt8) :
    decodeBytes (bs ++ b :: rest) = decodeBytes bs ++ decodeBytes (b :: rest) := by
  induction bs using decodeBytes.induct with
  | case1 h l bs v w hw hv ih =>
    simp only [List.cons_append, decodeBytes, hv, hw, ih]
  | case2 h l bs hnot ih =>
    have happend : 0x25 :: h :: l :: bs ++ b :: rest = 0x25 :: h :: l :: (bs ++ b :: rest) := rfl
    rw [happend, decodeBytes_percent hnot, decodeBytes_percent hnot, List.cons_append]
    exact congrArg (0x25 :: ·) ih
  | case3 c bs hc ih =>
    by_cases hpercent : c = 0x25
    · -- At most one byte stands between the percent sign and the one that is no digit.
      subst hpercent
      cases bs with
      | nil =>
        cases rest with
        | nil => simp [decodeBytes]
        | cons l rest => simp [decodeBytes, hb]
      | cons h bs =>
        cases bs with
        | nil =>
          have hnot : ∀ v w, hexValue? h = some v → hexValue? b = some w → False := by
            intro v w _ hw
            rw [hb] at hw
            cases hw
          have happend : 0x25 :: [h] ++ b :: rest = 0x25 :: h :: b :: rest := rfl
          have hone : decodeBytes [0x25, h] = 0x25 :: decodeBytes [h] := by simp [decodeBytes]
          rw [happend, decodeBytes_percent hnot, hone, List.cons_append]
          exact congrArg (0x25 :: ·) ih
        | cons l bs => exact absurd rfl (hc h l bs rfl)
    · rw [List.cons_append, decodeBytes_cons_of_ne hpercent, decodeBytes_cons_of_ne hpercent, ih,
        List.cons_append]
  | case4 => simp [decodeBytes]

/-- The bytes of hexadecimal digits are those of ASCII characters. -/
theorem isSome_hexValue?_ofNat : ∀ n < 256, (hexValue? (UInt8.ofNat n)).isSome =
    (decide (n < 128) && Text.isHexDigit (Char.ofNat n)) := by
  decide +kernel

theorem isSome_hexValue?_iff {b : UInt8} :
    (hexValue? b).isSome = true ↔ b.toNat < 128 ∧ Text.isHexDigit (Char.ofNat b.toNat) = true := by
  have hb := isSome_hexValue?_ofNat b.toNat (UInt8.toNat_lt_size b)
  rw [UInt8.ofNat_toNat] at hb
  rw [hb, Bool.and_eq_true, decide_eq_true_iff]

theorem toNat_lt_of_isHexDigit {c : Char} (hc : Text.isHexDigit c = true) : c.toNat < 128 := by
  have hle : ∀ a b : Char, (decide (a ≤ c) && decide (c ≤ b)) = true → c.toNat ≤ b.toNat := by
    intro a b h
    have hcb : c ≤ b := by simpa using (Bool.and_eq_true_iff.1 h).2
    exact hcb
  unfold Text.isHexDigit Text.hexValue? at hc
  split at hc
  · next h =>
    have hdigit : c.toNat ≤ '9'.toNat := by
      have h' : c.val ≥ '0'.val ∧ c.val ≤ '9'.val := by simpa [Char.isDigit] using h
      exact h'.2
    exact Nat.lt_of_le_of_lt hdigit (by decide)
  · split at hc
    · next h => exact Nat.lt_of_le_of_lt (hle _ _ h) (by decide)
    · split at hc
      · next h => exact Nat.lt_of_le_of_lt (hle _ _ h) (by decide)
      · cases hc

theorem hasEscapeByte_bytes_iff {s : List Char} : HasEscapeByte (bytes s) ↔ HasEscape s := by
  constructor
  · rintro ⟨before, h, l, after, heq, hh, hl⟩
    rcases isSome_hexValue?_iff.1 hh with ⟨hhlt, hhex⟩
    rcases isSome_hexValue?_iff.1 hl with ⟨hllt, hlex⟩
    -- Each of the three bytes is a character.
    rcases exists_char_of_byte (by decide) heq with ⟨t, u, rfl, -, hu⟩
    rcases exists_char_of_first_byte hhlt hu with ⟨u', rfl, hu'⟩
    rcases exists_char_of_first_byte hllt hu' with ⟨u'', rfl, -⟩
    exact ⟨t, _, _, u'', rfl, hhex, hlex⟩
  · rintro ⟨before, h, l, after, rfl, hh, hl⟩
    have hdigit : ∀ c, Text.isHexDigit c = true →
        (hexValue? (UInt8.ofNat c.toNat)).isSome = true := by
      intro c hc
      have hlt := toNat_lt_of_isHexDigit hc
      rw [isSome_hexValue?_ofNat c.toNat (by omega), Char.ofNat_toNat, hc]
      simpa using hlt
    refine ⟨bytes before, UInt8.ofNat h.toNat, UInt8.ofNat l.toNat, bytes after, ?_,
      hdigit h hh, hdigit l hl⟩
    have hpercent : String.utf8EncodeChar '%' = [0x25] := rfl
    rw [bytes_append, bytes_cons, bytes_cons, bytes_cons, hpercent,
      utf8EncodeChar_of_lt (toNat_lt_of_isHexDigit hh),
      utf8EncodeChar_of_lt (toNat_lt_of_isHexDigit hl)]
    rfl

/-- A text decodes to itself exactly if it holds no complete escape. -/
theorem decode?_eq_self_iff {s : String} : decode? s = some s ↔ ¬ HasEscape s.toList := by
  rw [decode?_eq_some_iff, eq_comm, decodeBytes_eq_self_iff, hasEscapeByte_bytes_iff]

/-- What a text with a complete escape decodes to is shorter. -/
theorem length_bytes_lt_of_hasEscape {s t : String} (h : decode? s = some t)
    (hescape : HasEscape s.toList) : (bytes t.toList).length < (bytes s.toList).length := by
  have hle := length_decodeBytes_le (bytes s.toList)
  rw [decode?_eq_some_iff.1 h]
  refine Nat.lt_of_le_of_ne hle fun hlen => ?_
  have hself := decodeBytes_eq_of_length hlen
  exact (decodeBytes_eq_self_iff _).1 hself (hasEscapeByte_bytes_iff.2 hescape)

theorem length_bytes_le_of_sublist {s t : List Char} (h : s.Sublist t) :
    (bytes s).length ≤ (bytes t).length := by
  induction h with
  | slnil => exact Nat.le_refl _
  | cons c _ ih =>
    rw [bytes_cons, List.length_append]
    omega
  | cons_cons c _ ih =>
    rw [bytes_cons, bytes_cons, List.length_append, List.length_append]
    omega

/-- What stands between two slashes decodes on its own. -/
theorem exists_decode?_of_between {u : List Char} {t : String}
    (h : decode? (String.ofList ('/' :: u ++ ['/'])) = some t) :
    ∃ v, decode? (String.ofList u) = some v ∧ t.toList = '/' :: v.toList ++ ['/'] := by
  have hbytes : bytes t.toList = 0x2F :: (decodeBytes (bytes u) ++ 0x2F :: []) := by
    have hslash : ∀ more, bytes ('/' :: more) = 0x2F :: bytes more := fun more => rfl
    have hend : decodeBytes (0x2F :: []) = 0x2F :: [] := by decide
    rw [decode?_eq_some_iff.1 h, String.toList_ofList, List.cons_append, hslash, bytes_append,
      decodeBytes_cons_of_ne (by decide), hslash, bytes_nil,
      decodeBytes_append_cons (by decide), hend]
  rcases exists_char_of_first_byte (by decide) hbytes with ⟨rest, ht, hrest⟩
  rcases exists_char_of_byte (by decide) hrest with ⟨v, back, hrest', hv, hback⟩
  have hnil : back = [] := bytes_injective (hback.trans bytes_nil.symm)
  refine ⟨String.ofList v, ?_, ?_⟩
  · apply decode?_eq_some_iff.2
    rw [String.toList_ofList, String.toList_ofList, hv]
  · rw [ht, hrest', hnil, String.toList_ofList]
    rfl

/-- Slashes around a text are part of no escape. -/
theorem hasEscape_of_between {u : List Char} (h : HasEscape ('/' :: u ++ ['/'])) : HasEscape u := by
  refine Classical.byContradiction fun hnone => ?_
  have hu : decodeBytes (bytes u) = bytes u :=
    (decodeBytes_eq_self_iff _).2 (mt hasEscapeByte_bytes_iff.1 hnone)
  have hself : decodeBytes (bytes ('/' :: u ++ ['/'])) = bytes ('/' :: u ++ ['/']) := by
    have hbytes : bytes ('/' :: u ++ ['/']) = 0x2F :: (bytes u ++ 0x2F :: []) := by
      rw [List.cons_append, bytes_cons, bytes_append]
      rfl
    have hend : decodeBytes (0x2F :: []) = 0x2F :: [] := by decide
    rw [hbytes, decodeBytes_cons_of_ne (by decide), decodeBytes_append_cons (by decide), hu, hend]
  exact (decodeBytes_eq_self_iff _).1 hself (hasEscapeByte_bytes_iff.2 h)

/-- A backslash is not part of an escape. -/
theorem mem_of_decode?_of_mem {s t : String} (h : decode? s = some t)
    (hback : '\\' ∈ s.toList) : '\\' ∈ t.toList := by
  rcases List.append_of_mem hback with ⟨front, rest, hs⟩
  have hbytes : bytes t.toList =
      decodeBytes (bytes front) ++ 0x5C :: decodeBytes (bytes rest) := by
    have hslash : bytes ('\\' :: rest) = 0x5C :: bytes rest := rfl
    rw [decode?_eq_some_iff.1 h, hs, bytes_append, hslash, decodeBytes_append_cons (by decide),
      decodeBytes_cons_of_ne (by decide)]
  rcases exists_char_of_byte (by decide) hbytes with ⟨front', rest', ht, -, -⟩
  rw [ht]
  exact List.mem_append_right _ List.mem_cons_self

end Percent
end StaticBlog
