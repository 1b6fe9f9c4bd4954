import FormLogic.Proofs.Utf8.Encoding

/-!
# Reading bytes by position

Bytes are read and cut at positions that are checked.  A position beyond the end, ends of a part in
the wrong order and an end inside of a character are refused (`Refusal`), as are bytes that are no
text where a text is asked for.  In the bytes of a text the positions between characters are those
where the bytes of some of its characters end.  The byte read there is the first one of the next
character (`read_encode`), and what stands between two of them is a text (`slice_encode`).  Every
other position is `Inside` of a character, and what goes past these one by one goes past whole
characters (`Inside.skip`).
-/

namespace FormLogic.Utf8

/-! ## 1. Checked positions -/

/-- **Why bytes are not read.** -/
inductive Refusal where
  /-- There is no byte at a position. -/
  | index (i length : Nat)
  /-- The ends of a part are in the wrong order, or beyond the end. -/
  | range (start stop length : Nat)
  /-- An end of a part is inside of a character. -/
  | boundary (start stop : Nat)
  /-- The bytes are no text. -/
  | notText
deriving DecidableEq, Repr

/-- What is read from bytes, if nothing is refused. -/
abbrev Access := Except Refusal

@[simp] theorem ok_bind {α β : Type} (a : α) (f : α → Access β) : (Except.ok a >>= f) = f a := rfl

@[simp] theorem pure_eq_ok {α : Type} (a : α) : (pure a : Access α) = .ok a := rfl

/-- The byte at a position, as a character. -/
def read (bytes : List UInt8) (i : Nat) : Access Char :=
  match bytes[i]? with
  | some b => .ok (asChar b)
  | none => .error (.index i bytes.length)

/-- The bytes from a position on, which need not be a text. -/
def bytesFrom (bytes : List UInt8) (i : Nat) : Access (List UInt8) :=
  if i ≤ bytes.length then .ok (bytes.drop i) else .error (.range i bytes.length bytes.length)

/-- Whether a position is between characters: at an end, or before a byte that begins one. -/
def isBoundary (bytes : List UInt8) (i : Nat) : Bool :=
  i == 0 || i == bytes.length || bytes[i]?.any (!isContinuation ·)

/-- **The part of a text between two positions.** -/
def slice (bytes : List UInt8) (start stop : Nat) : Access (List UInt8) :=
  if start ≤ stop ∧ stop ≤ bytes.length then
    if isBoundary bytes start && isBoundary bytes stop then .ok ((bytes.take stop).drop start)
    else .error (.boundary start stop)
  else .error (.range start stop bytes.length)

/-- What it takes to cut a text at two positions. -/
theorem slice_eq_ok_iff {bytes piece : List UInt8} {start stop : Nat} :
    slice bytes start stop = .ok piece ↔
      start ≤ stop ∧ stop ≤ bytes.length ∧ isBoundary bytes start = true ∧
        isBoundary bytes stop = true ∧ (bytes.take stop).drop start = piece := by
  rw [slice]
  by_cases hrange : start ≤ stop ∧ stop ≤ bytes.length
  · rw [if_pos hrange]
    by_cases hends : (isBoundary bytes start && isBoundary bytes stop) = true
    · rw [if_pos hends]
      simp [hrange, Bool.and_eq_true_iff.mp hends]
    · rw [if_neg hends]
      exact iff_of_false (by simp) fun h => hends (Bool.and_eq_true_iff.mpr ⟨h.2.2.1, h.2.2.2.1⟩)
  · rw [if_neg hrange]
    exact iff_of_false (by simp) fun h => hrange ⟨h.1, h.2.1⟩

/-- What a function on texts makes of bytes. -/
def onText (f : List Char → List Char) (bytes : List UInt8) : Access (List UInt8) :=
  match decode? bytes with
  | some cs => .ok (encode (f cs))
  | none => .error .notText

theorem onText_encode (f : List Char → List Char) (cs : List Char) :
    onText f (encode cs) = .ok (encode (f cs)) := by
  rw [onText, decode?_encode]

/-! ## 2. Between characters -/

section

variable (before : List Char) (c : Char) (rest : List Char)

theorem length_encode_lt : (encode before).length < (encode (before ++ c :: rest)).length := by
  obtain ⟨b, bs, hbytes, -⟩ := exists_first_byte c
  simp [encode_append, encode_cons, hbytes]

/-- The first byte of a character is read in front of it. -/
theorem read_encode :
    ∃ d, read (encode (before ++ c :: rest)) (encode before).length = .ok d ∧ Alike d c := by
  obtain ⟨b, bs, hbytes, hb, -⟩ := exists_first_byte c
  exact ⟨asChar b, by simp [read, encode_append, encode_cons, hbytes], hb⟩

/-- The last byte of a character is read right behind it. -/
theorem read_last :
    ∃ d, read (encode (before ++ [c] ++ rest)) ((encode (before ++ [c])).length - 1) = .ok d ∧
      Alike d c := by
  obtain ⟨bs, b, hencode, hb⟩ := exists_encode_concat before c
  refine ⟨asChar b, ?_, hb⟩
  rw [encode_append _ rest, hencode]
  simp [read]

end

theorem bytesFrom_encode (a z : List Char) :
    bytesFrom (encode (a ++ z)) (encode a).length = .ok (encode z) := by
  simp [bytesFrom, encode_append]

theorem isBoundary_encode (a z : List Char) :
    isBoundary (encode (a ++ z)) (encode a).length = true := by
  cases z with
  | nil => simp [isBoundary]
  | cons c z =>
    obtain ⟨b, bs, hbytes, -, hb, -⟩ := exists_first_byte c
    simp [isBoundary, encode_append, encode_cons, hbytes, hb]

/-- **Between characters a text is cut into texts.** -/
theorem slice_encode (a m z : List Char) :
    slice (encode (a ++ m ++ z)) (encode a).length (encode (a ++ m)).length = .ok (encode m) := by
  have hstart : isBoundary (encode (a ++ m ++ z)) (encode a).length = true := by
    rw [List.append_assoc]
    exact isBoundary_encode a (m ++ z)
  refine slice_eq_ok_iff.mpr ⟨?_, ?_, hstart, isBoundary_encode (a ++ m) z, ?_⟩
  · rw [encode_append, List.length_append]
    exact Nat.le_add_right _ _
  · rw [encode_append (a ++ m), List.length_append]
    exact Nat.le_add_right _ _
  · rw [encode_append (a ++ m), List.take_left, encode_append a, List.drop_left]

theorem slice_of_eq {bytes : List UInt8} {start stop : Nat} (a m z : List Char)
    (hbytes : bytes = encode (a ++ m ++ z)) (hstart : start = (encode a).length)
    (hstop : stop = (encode (a ++ m)).length) : slice bytes start stop = .ok (encode m) := by
  rw [hbytes, hstart, hstop, slice_encode]

/-- Behind an ASCII character is the next position. -/
theorem length_encode_concat (a : List Char) {c : Char} (hc : c.toNat < 128) :
    (encode (a ++ [c])).length = (encode a).length + 1 := by
  rcases utf8EncodeChar_cases c with ⟨b, hbytes, -⟩ | ⟨_, _, -, hle, -⟩
  · simp [encode_append, encode_cons, hbytes]
  · exact absurd hc (Nat.not_lt.mpr hle)

theorem length_encode_between (c : Char) {d : Char} (hd : d.toNat < 128) (inner : List Char) :
    (encode (c :: (inner ++ [d]))).length - 1 = (encode (c :: inner)).length := by
  rw [← List.cons_append, length_encode_concat _ hd, Nat.add_sub_cancel]

/-- One byte is cut off at either end. -/
theorem slice_between {c d : Char} (hc : c.toNat < 128) (hd : d.toNat < 128) (inner : List Char) :
    slice (encode (c :: (inner ++ [d]))) 1 ((encode (c :: (inner ++ [d]))).length - 1)
      = .ok (encode inner) :=
  slice_of_eq [c] inner [d] rfl (length_encode_concat [] hc).symm (length_encode_between c hd inner)

/-! ## 3. Inside of characters -/

/-- A position at which a character goes on. -/
def Inside (bytes : List UInt8) (i : Nat) : Prop :=
  ∃ b, bytes[i]? = some b ∧ isContinuation b = true

namespace Inside

variable {bytes : List UInt8} {i : Nat}

theorem lt (h : Inside bytes i) : i < bytes.length := by
  obtain ⟨b, hb, -⟩ := h
  exact (List.getElem?_eq_some_iff.mp hb).1

theorem not_isBoundary (h : Inside bytes i) (hi : i ≠ 0) : isBoundary bytes i = false := by
  obtain ⟨b, hb, hcontinuation⟩ := h
  have hlt := (List.getElem?_eq_some_iff.mp hb).1
  simp [isBoundary, hi, Nat.ne_of_lt hlt, hb, hcontinuation]

theorem exists_read (h : Inside bytes i) : ∃ d, read bytes i = .ok d ∧ 128 ≤ d.toNat := by
  obtain ⟨b, hb, hcontinuation⟩ := h
  refine ⟨asChar b, by rw [read, hb], ?_⟩
  rw [toNat_asChar]
  exact (isContinuation_iff.mp hcontinuation).1

/-- No text begins there, but the empty one. -/
theorem isPrefixOf (h : Inside bytes i) {os : List Char} (hos : os ≠ []) :
    bytesFrom bytes i = .ok (bytes.drop i) ∧ (encode os).isPrefixOf (bytes.drop i) = false := by
  obtain ⟨hlt, hb⟩ := List.getElem?_eq_some_iff.mp h.choose_spec.1
  refine ⟨if_pos (Nat.le_of_lt hlt), ?_⟩
  rw [List.drop_eq_getElem_cons hlt, hb]
  exact isPrefixOf_of_continuation hos h.choose_spec.2 _

theorem of_lt (before : List Char) (c : Char) (rest : List Char)
    (hstart : (encode before).length < i) (hstop : i < (encode (before ++ [c])).length) :
    Inside (encode (before ++ c :: rest)) i := by
  obtain ⟨b, bs, hbytes, -, -, hbs⟩ := exists_first_byte c
  obtain ⟨k, rfl⟩ := Nat.exists_eq_add_of_lt hstart
  have hk : k < bs.length := by
    simp only [encode_append, encode_cons, encode_nil, hbytes, List.length_append, List.length_cons,
      List.append_nil] at hstop
    omega
  refine ⟨bs[k], ?_, hbs _ (List.getElem_mem hk)⟩
  rw [encode_append, encode_cons, hbytes, List.getElem?_append_right (by omega)]
  simp [Nat.add_assoc, List.getElem?_append_left hk]

/-- **What goes past the positions inside of characters one by one goes past the rest of a
character.** -/
theorem skip {α : Type} (before : List Char) (c : Char) (rest : List Char) {f : Nat → α}
    (h : ∀ i, Inside (encode (before ++ c :: rest)) i → f i = f (i + 1)) :
    f ((encode before).length + 1) = f (encode (before ++ [c])).length := by
  have hlt := length_encode_lt before c []
  suffices ∀ k, (encode before).length + 1 + k ≤ (encode (before ++ [c])).length →
      f ((encode before).length + 1) = f ((encode before).length + 1 + k) by
    obtain ⟨k, hk⟩ := Nat.exists_eq_add_of_le (Nat.succ_le_of_lt hlt)
    rw [this k (Nat.le_of_eq hk.symm), hk]
  intro k
  induction k with
  | zero => exact fun _ => rfl
  | succ k ih =>
    intro hk
    exact (ih (by omega)).trans (h _ (of_lt before c rest (by omega) (by omega)))

end Inside

/-- **The boundaries are the positions between characters.** -/
theorem exists_of_isBoundary {cs : List Char} {i : Nat} (h : isBoundary (encode cs) i = true) :
    ∃ before rest, cs = before ++ rest ∧ i = (encode before).length := by
  induction cs generalizing i with
  | nil => exact ⟨[], [], rfl, by simpa [isBoundary] using h⟩
  | cons c cs ih =>
    by_cases hzero : i = 0
    · exact ⟨[], c :: cs, rfl, hzero⟩
    have hge : (encode [c]).length ≤ i := by
      refine Nat.le_of_not_lt fun hlt => ?_
      have hinside := Inside.of_lt [] c cs (Nat.pos_of_ne_zero hzero) hlt
      rw [List.nil_append] at hinside
      rw [hinside.not_isBoundary hzero] at h
      cases h
    obtain ⟨j, rfl⟩ := Nat.exists_eq_add_of_le hge
    have hrest : isBoundary (encode cs) j = true := by
      have hencode : encode (c :: cs) = encode [c] ++ encode cs := encode_append [c] cs
      rw [hencode, isBoundary, List.getElem?_append_right hge, Nat.add_sub_cancel_left,
        List.length_append] at h
      simp only [isBoundary, Bool.or_eq_true, beq_iff_eq] at h ⊢
      rcases h with (h | h) | h
      · exact absurd h hzero
      · exact .inl (.inr (Nat.add_left_cancel h))
      · exact .inr h
    obtain ⟨before, rest, rfl, rfl⟩ := ih hrest
    exact ⟨c :: before, rest, rfl, by simp [encode_cons]⟩

end FormLogic.Utf8
