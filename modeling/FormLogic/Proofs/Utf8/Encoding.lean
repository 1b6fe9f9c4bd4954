import FormLogic.Text.Digit

/-!
# The bytes of a text

In UTF-8 a character below `128` is the byte of its number, and any other one is a first byte and
some continuation bytes, all of them from `128` on (`utf8EncodeChar_cases`).  A test that no
character from `128` on passes cannot tell a character from the first or the last of its bytes
(`AsciiOnly`).  No text but the empty one begins with a continuation byte, and one text begins with
another where its bytes begin with those of the other: where the bytes of one text occur among those
of another, they begin and end between characters (`isPrefixOf_encode`).
-/

namespace FormLogic.Utf8

/-! ## 1. Texts as bytes -/

/-- The bytes of a text. -/
def encode (cs : List Char) : List UInt8 := cs.flatMap String.utf8EncodeChar

/-- **Bytes that are a text.** -/
def IsText (bytes : List UInt8) : Prop := bytes.toByteArray.IsValidUTF8

/-- The text of bytes that are one. -/
def decode? (bytes : List UInt8) : Option (List Char) :=
  bytes.toByteArray.utf8Decode?.map Array.toList

/-- A byte that is not the first one of a character. -/
def isContinuation (b : UInt8) : Bool := 0x80 ≤ b && b < 0xC0

/-- A byte, read as the character with its number. -/
def asChar (b : UInt8) : Char := Char.ofNat b.toNat

@[simp] theorem encode_nil : encode [] = [] := rfl

theorem encode_cons (c : Char) (cs : List Char) :
    encode (c :: cs) = String.utf8EncodeChar c ++ encode cs := List.flatMap_cons

theorem encode_append (a b : List Char) : encode (a ++ b) = encode a ++ encode b :=
  List.flatMap_append

theorem decode?_encode (cs : List Char) : decode? (encode cs) = some cs :=
  congrArg (Option.map Array.toList) (List.utf8Decode?_utf8Encode (l := cs))

theorem encode_injective {a b : List Char} (h : encode a = encode b) : a = b := by
  have hdecode := decode?_encode a
  rw [h, decode?_encode] at hdecode
  exact (Option.some.inj hdecode).symm

theorem isText_encode (cs : List Char) : IsText (encode cs) := .intro cs rfl

theorem IsText.exists_encode {bytes : List UInt8} (h : IsText bytes) : ∃ cs, encode cs = bytes := by
  obtain ⟨cs, hcs⟩ := h
  exact ⟨cs, (List.toByteArray_inj.mp hcs).symm⟩

/-! ## 2. The bytes of a character -/

theorem isContinuation_iff {b : UInt8} :
    isContinuation b = true ↔ 128 ≤ b.toNat ∧ b.toNat < 192 := by
  simp [isContinuation, UInt8.le_iff_toNat_le, UInt8.lt_iff_toNat_lt]

/-- A continuation byte carries six bits. -/
theorem isContinuation_of_mem_map (ns : List Nat) :
    ∀ d ∈ ns.map fun n => UInt8.ofNat (n % 64 + 128), isContinuation d = true := by
  intro d hd
  obtain ⟨n, -, rfl⟩ := List.mem_map.mp hd
  rw [isContinuation_iff, UInt8.toNat_ofNat']
  omega

theorem toNat_asChar (b : UInt8) : (asChar b).toNat = b.toNat := by
  have hb := b.toNat_lt
  have hvalid : b.toNat.isValidChar := .inl (by omega)
  rw [asChar, Char.ofNat, dif_pos hvalid]
  rfl

/-- **A character is one byte or a first byte and continuation bytes.** -/
theorem utf8EncodeChar_cases (c : Char) :
    (∃ b, String.utf8EncodeChar c = [b] ∧ asChar b = c ∧ c.toNat < 128) ∨
    (∃ b bs, String.utf8EncodeChar c = b :: bs ∧ 128 ≤ c.toNat ∧ 192 ≤ b.toNat ∧ bs ≠ [] ∧
      ∀ d ∈ bs, isContinuation d = true) := by
  simp only [String.utf8EncodeChar, Char.toNat_val]
  split
  · refine .inl ⟨_, rfl, ?_, by omega⟩
    have hbyte : (UInt8.ofNat c.toNat).toNat = c.toNat := by
      rw [UInt8.toNat_ofNat']
      omega
    rw [asChar, hbyte, Char.ofNat_toNat]
  · right
    split
    · exact ⟨_, _, rfl, by omega, by rw [UInt8.toNat_ofNat']; omega, List.cons_ne_nil _ _,
        isContinuation_of_mem_map [c.toNat]⟩
    · split
      · exact ⟨_, _, rfl, by omega, by rw [UInt8.toNat_ofNat']; omega, List.cons_ne_nil _ _,
          isContinuation_of_mem_map [c.toNat / 64, c.toNat]⟩
      · exact ⟨_, _, rfl, by omega, by rw [UInt8.toNat_ofNat']; omega, List.cons_ne_nil _ _,
          isContinuation_of_mem_map [c.toNat / 4096, c.toNat / 64, c.toNat]⟩

/-! ## 3. Tests for ASCII characters -/

/-- A test that no character from `128` on passes. -/
def AsciiOnly (p : Char → Bool) : Prop := ∀ c, p c = true → c.toNat < 128

/-- Two characters that no such test tells apart. -/
def Alike (c d : Char) : Prop := c = d ∨ 128 ≤ c.toNat ∧ 128 ≤ d.toNat

theorem AsciiOnly.eq_false {p : Char → Bool} (h : AsciiOnly p) {c : Char} (hc : 128 ≤ c.toNat) :
    p c = false := by
  cases hp : p c with
  | false => rfl
  | true => exact absurd (h c hp) (Nat.not_lt.mpr hc)

theorem asciiOnly_beq {c : Char} (hc : c.toNat < 128) : AsciiOnly (· == c) := by
  intro d hd
  rwa [beq_iff_eq.mp hd]

theorem AsciiOnly.or {p q : Char → Bool} (hp : AsciiOnly p) (hq : AsciiOnly q) :
    AsciiOnly fun c => p c || q c := by
  intro c hc
  rcases Bool.or_eq_true_iff.mp hc with h | h
  · exact hp c h
  · exact hq c h

theorem Alike.eq {c d : Char} (h : Alike c d) {p : Char → Bool} (hp : AsciiOnly p) : p c = p d := by
  rcases h with rfl | ⟨hc, hd⟩
  · rfl
  · rw [hp.eq_false hc, hp.eq_false hd]

/-- **The first byte of a character** is alike to it, and the only one that is no continuation
byte. -/
theorem exists_first_byte (c : Char) :
    ∃ b bs, String.utf8EncodeChar c = b :: bs ∧ Alike (asChar b) c ∧ isContinuation b = false ∧
      ∀ d ∈ bs, isContinuation d = true := by
  rcases utf8EncodeChar_cases c with ⟨b, hbytes, hb, hc⟩ | ⟨b, bs, hbytes, hc, hb, -, hbs⟩
  · have hfirst : ¬ isContinuation b = true := by
      rw [isContinuation_iff, ← toNat_asChar, hb]
      omega
    exact ⟨b, [], hbytes, .inl hb, Bool.eq_false_iff.mpr hfirst, List.forall_mem_nil _⟩
  · have hfirst : ¬ isContinuation b = true := by
      rw [isContinuation_iff]
      omega
    exact ⟨b, bs, hbytes, .inr ⟨by rw [toNat_asChar]; omega, hc⟩, Bool.eq_false_iff.mpr hfirst, hbs⟩

/-- The last byte of a character is alike to it. -/
theorem exists_last_byte (c : Char) :
    ∃ bs b, String.utf8EncodeChar c = bs ++ [b] ∧ Alike (asChar b) c := by
  rcases utf8EncodeChar_cases c with ⟨b, hbytes, hb, -⟩ | ⟨b, bs, hbytes, hc, -, hne, hbs⟩
  · exact ⟨[], b, hbytes, .inl hb⟩
  · have hlast := isContinuation_iff.mp (hbs _ (List.getLast_mem hne))
    refine ⟨b :: bs.dropLast, bs.getLast hne, ?_, .inr ⟨by rw [toNat_asChar]; exact hlast.1, hc⟩⟩
    rw [hbytes, List.cons_append, List.dropLast_concat_getLast]

theorem exists_encode_concat (cs : List Char) (c : Char) :
    ∃ bs b, encode (cs ++ [c]) = encode cs ++ bs ++ [b] ∧ Alike (asChar b) c := by
  obtain ⟨bs, b, hbytes, hb⟩ := exists_last_byte c
  exact ⟨bs, b, by simp [encode_append, encode_cons, hbytes], hb⟩

section

variable {p : Char → Bool} (hp : AsciiOnly p) (cs : List Char)
include hp

theorem any_head?_encode : ((encode cs).head?.any fun b => p (asChar b)) = cs.head?.any p := by
  cases cs with
  | nil => rfl
  | cons c cs =>
    obtain ⟨b, bs, hbytes, hb, -, -⟩ := exists_first_byte c
    rw [encode_cons, hbytes]
    exact hb.eq hp

theorem any_getLast?_encode :
    ((encode cs).getLast?.any fun b => p (asChar b)) = cs.getLast?.any p := by
  rcases List.eq_nil_or_concat cs with rfl | ⟨cs, c, rfl⟩
  · rfl
  · obtain ⟨bs, b, hbytes, hb⟩ := exists_last_byte c
    rw [List.concat_eq_append, encode_append, encode_cons, hbytes, encode_nil, List.append_nil,
      ← List.append_assoc, List.getLast?_concat, List.getLast?_concat]
    exact hb.eq hp

end

/-- Two characters stand at the ends of a text of two bytes or more, if the first one is ASCII. -/
theorem exists_between_iff {c d : Char} (hc : c.toNat < 128) {cs : List Char} :
    2 ≤ (encode cs).length ∧ cs.head? = some c ∧ cs.getLast? = some d ↔
      ∃ inner, cs = c :: (inner ++ [d]) := by
  constructor
  · rintro ⟨hlength, hhead, hlast⟩
    obtain ⟨rest, rfl⟩ := List.head?_eq_some_iff.mp hhead
    rcases List.eq_nil_or_concat rest with rfl | ⟨inner, e, rfl⟩
    · rcases utf8EncodeChar_cases c with ⟨b, hbytes, -⟩ | ⟨_, _, -, hle, -⟩
      · rw [encode_cons, hbytes] at hlength
        exact absurd hlength (by simp)
      · exact absurd hc (Nat.not_lt.mpr hle)
    · rw [List.concat_eq_append, ← List.cons_append, List.getLast?_concat] at hlast
      obtain rfl := Option.some.inj hlast
      exact ⟨inner, by rw [List.concat_eq_append]⟩
  · rintro ⟨inner, rfl⟩
    obtain ⟨b, bs, hc, -⟩ := exists_first_byte c
    obtain ⟨b', bs', hd, -⟩ := exists_first_byte d
    refine ⟨?_, rfl, by rw [← List.cons_append, List.getLast?_concat]⟩
    simp only [encode_cons, encode_append, hc, hd, List.length_append, List.length_cons]
    omega

/-! ## 4. Texts within texts -/

/-- Bytes begin with those of one character only. -/
theorem eq_of_utf8EncodeChar_append {c d : Char} {x y : List UInt8}
    (h : String.utf8EncodeChar c ++ x = String.utf8EncodeChar d ++ y) : c = d := by
  have hdecode (c : Char) (x : List UInt8) :
      (String.utf8EncodeChar c ++ x).toByteArray.utf8DecodeChar? 0 = some c := by
    rw [List.toByteArray_append]
    exact ByteArray.utf8DecodeChar?_utf8EncodeChar_append
  exact Option.some.inj ((hdecode c x).symm.trans (h ▸ hdecode d y))

/-- **A text begins with another where its bytes do.** -/
theorem isPrefixOf_encode (os cs : List Char) :
    (encode os).isPrefixOf (encode cs) = os.isPrefixOf cs := by
  rw [Bool.eq_iff_iff, List.isPrefixOf_iff_prefix, List.isPrefixOf_iff_prefix]
  constructor
  · rintro ⟨bytes, hbytes⟩
    induction os generalizing cs with
    | nil => exact List.nil_prefix
    | cons o os ih =>
      cases cs with
      | nil =>
        obtain ⟨b, bs, ho, -⟩ := exists_first_byte o
        rw [encode_cons, ho] at hbytes
        cases hbytes
      | cons c cs =>
        rw [encode_cons, encode_cons, List.append_assoc] at hbytes
        obtain rfl := eq_of_utf8EncodeChar_append hbytes
        exact List.cons_prefix_cons.mpr ⟨rfl, ih cs (List.append_cancel_left hbytes)⟩
  · rintro ⟨rest, rfl⟩
    rw [encode_append]
    exact List.prefix_append _ _

/-- **No text begins inside of a character**, but the empty one. -/
theorem isPrefixOf_of_continuation {os : List Char} (hos : os ≠ []) {b : UInt8}
    (hb : isContinuation b = true) (bs : List UInt8) :
    (encode os).isPrefixOf (b :: bs) = false := by
  obtain ⟨o, os, rfl⟩ := List.exists_cons_of_ne_nil hos
  obtain ⟨first, more, hbytes, -, hfirst, -⟩ := exists_first_byte o
  rw [encode_cons, hbytes, List.cons_append, List.isPrefixOf, Bool.and_eq_false_iff]
  refine .inl (beq_eq_false_iff_ne.mpr ?_)
  rintro rfl
  rw [hb] at hfirst
  cases hfirst

end FormLogic.Utf8
