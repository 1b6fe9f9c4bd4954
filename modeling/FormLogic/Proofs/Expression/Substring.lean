import FormLogic.Expression.Helper
import FormLogic.Proofs.Number.Whole

/-!
# Parts of a text by two bounds

A bound is a number of any kind, or what reads as one.  It stands for the position at or below it
that the text has, `nan` for the beginning (`Helper.bound`); the helper takes it there in floating
point, which is exact where the length of the text is (`Helper.clamp_floor`).  The part of a text
between two bounds is the same in either order, and two parts that meet at a bound make up the text
(`Helper.apply_substring`).
-/

namespace FormLogic

/-! ## 1. Between two positions -/

namespace Text

variable (cs : List Char) (i j : ℕ)

theorem between_comm : between cs i j = between cs j i := by
  rw [between, between, Nat.max_comm, Nat.min_comm]

/-- What is before a position and what is behind it make up the text. -/
theorem between_append_between : between cs 0 i ++ between cs i cs.length = cs := by
  have hfront : between cs 0 i = cs.take i := by simp [between]
  have hback : between cs i cs.length = cs.drop i := by
    rcases Nat.le_total i cs.length with h | h
    · simp [between, h]
    · rw [between, Nat.max_eq_left h, Nat.min_eq_right h, List.take_of_length_le h,
        List.drop_length, List.drop_of_length_le h]
  rw [hfront, hback, List.take_append_drop]

/-- Between two positions of the text stands a part of it that begins at the one and ends at the
other. -/
theorem exists_eq_between (hi : i ≤ cs.length) (hj : j ≤ cs.length) :
    ∃ before after, cs = before ++ between cs i j ++ after ∧ before.length = min i j ∧
      (before ++ between cs i j).length = max i j := by
  have hle : min i j ≤ max i j := Nat.min_le_left i j |>.trans (Nat.le_max_left i j)
  have htake : cs.take (min i j) ++ between cs i j = cs.take (max i j) := by
    have h := List.take_append_drop (min i j) (cs.take (max i j))
    rwa [List.take_take, Nat.min_eq_left hle] at h
  refine ⟨cs.take (min i j), cs.drop (max i j), ?_, ?_, ?_⟩
  · rw [htake, List.take_append_drop]
  · rw [List.length_take]
    omega
  · rw [htake, List.length_take]
    omega

/-- Between a position and the next stands one character. -/
theorem between_succ {cs : List Char} {i : ℕ} (hi : i < cs.length) :
    between cs i (i + 1) = [cs[i]] := by
  have hle : i ≤ i + 1 := Nat.le_add_right i 1
  rw [between, Nat.max_eq_right hle, Nat.min_eq_left hle, List.drop_take, Nat.add_sub_cancel_left,
    List.drop_eq_getElem_cons hi, List.take_succ_cons, List.take_zero]

end Text

/-! ## 2. Bounds -/

namespace Helper

open Binary64

/-- **The position that a number denotes as a bound** of a text of `length` characters: the greatest
integer that is not greater, taken into `0..length`.  The infinite numbers denote the ends, and
`nan` the beginning. -/
def bound (length : ℕ) : Binary64 → ℕ
  | .nan => 0
  | .infinite negative => if negative then 0 else length
  | .finite negative m => length ⊓ (signedUnits negative m / unitsPerOne).toNat

/-- **Bounds are taken into the text exactly**, when its length is a number. -/
theorem clamp_floor {length : ℕ} (hlength : Exact length) (x : Binary64) :
    clamp length x.floor = bound length x := by
  cases x with
  | nan => rfl
  | infinite negative =>
    obtain ⟨m, -, heq⟩ := hlength.ofUnits_eq false
    have hbelow : (Binary64.ofNat length).lt (.infinite false) = true := by
      rw [Binary64.ofNat, heq]
      exact finite_lt_infinite false m
    have hfloor : (infinite negative).floor = .infinite negative := rfl
    rw [hfloor, clamp, bound, infinite_lt_zero]
    cases negative <;> simp [isNaN, hbelow]
  | finite negative m =>
    obtain ⟨n, hfloor, hint⟩ := exists_floor negative m
    have hnegative := hint.lt_iff isInt_zero
    have hbelow := (isInt_ofNat hlength).lt_iff hint
    have htruncate := hint.truncate rfl
    rw [hfloor, clamp, bound, htruncate]
    simp only [isNaN, Bool.false_or, hnegative, hbelow]
    split
    · omega
    · split <;> omega

/-- The bound zero is the beginning, whatever the length is. -/
theorem clamp_zero (length : ℕ) : clamp length zero.floor = 0 := by
  have hpositive : (Binary64.ofNat length).lt .zero = false := ofUnits_lt_zero _ _
  rw [floor_zero, clamp, hpositive]
  rfl

theorem bound_le (length : ℕ) (x : Binary64) : bound length x ≤ length := by
  cases x with
  | nan => exact Nat.zero_le _
  | infinite negative => cases negative <;> simp [bound]
  | finite negative m => exact Nat.min_le_left _ _

/-- An integer is the position that it denotes, up to the length. -/
theorem bound_of_isInt {x : Binary64} {i : ℤ} (hx : x.IsInt i) (hfinite : x.isFinite = true)
    (length : ℕ) : bound length x = length ⊓ i.toNat := by
  cases x with
  | nan => cases hfinite
  | infinite _ => cases hfinite
  | finite negative m =>
    rw [bound, Option.some.inj hx, Int.mul_ediv_cancel _ (by exact_mod_cast unitsPerOne_pos.ne')]

/-! ## 3. The helper -/

/-- **The part of a text between two bounds.**  The text is that of any value, empty for one that is
not there, and so are the bounds any values that are.  The part before a bound and the part from it
on make up the text.  The order of two bounds does not matter.  Each bound is taken to a position
of the text, and the part begins at the one and ends at the other. -/
theorem apply_substring (s : Resolved) (user : User) :
    let t := if s.isNullish then "" else s.display
    let cs := t.toList
    let position (v : Value) := bound cs.length (Resolved.toNumber (some v))
    (∀ k : Value, ∃ front back,
      substring.apply [s, some (.number .zero), some k] user = some (.string front) ∧
      substring.apply [s, some k] user = some (.string back) ∧ front ++ back = t) ∧
    (∀ i j : Value, substring.apply [s, some i, some j] user
      = substring.apply [s, some j, some i] user) ∧
    (Exact cs.length → ∀ i j : Value,
      clamp cs.length (Resolved.toNumber (some i)).floor = position i ∧ position i ≤ cs.length ∧
      ∃ before part after, cs = before ++ part ++ after ∧
        before.length = position i ⊓ position j ∧
        (before ++ part).length = position i ⊔ position j ∧
        substring.apply [s, some i, some j] user = some (.string (String.ofList part))) := by
  intro t cs position
  refine ⟨fun k => ?_, fun i j => ?_, fun hexact i j => ?_⟩
  · let n := clamp cs.length (Resolved.toNumber (some k)).floor
    refine ⟨String.ofList (Text.between cs 0 n), String.ofList (Text.between cs n cs.length),
      ?_, rfl, ?_⟩
    · rw [← clamp_zero cs.length]
      rfl
    · rw [← String.ofList_append, Text.between_append_between, String.ofList_toList]
  · exact congrArg (fun part => some (Value.string (String.ofList part)))
      (Text.between_comm cs _ _)
  · obtain ⟨before, after, htext, hbefore, hpart⟩ := Text.exists_eq_between cs _ _
      (bound_le cs.length (Resolved.toNumber (some i)))
      (bound_le cs.length (Resolved.toNumber (some j)))
    refine ⟨clamp_floor hexact _, bound_le _ _, before, _, after, htext, hbefore, hpart, ?_⟩
    rw [← clamp_floor hexact, ← clamp_floor hexact]
    rfl

/-- Between two and a half and a text that reads as the negative infinity stand the first two
characters, one of which takes two bytes. -/
theorem apply_substring_of_unusual_bounds :
    let i : Value := .number (.ofUnits false (5 * unitsPerOne) 2)
    let j : Value := .string "-Infinity"
    Exact "añ𝄞b".toList.length ∧
      substring.apply [some (.string "añ𝄞b"), some i, some j] {} = some (.string "añ") := by
  intro i j
  have hexact : Exact "añ𝄞b".toList.length := exact_of_le (by decide)
  have hi : bound "añ𝄞b".toList.length (Resolved.toNumber (some i)) = 2 := by decide +kernel
  have hj : bound "añ𝄞b".toList.length (Resolved.toNumber (some j)) = 0 := by decide +kernel
  obtain ⟨-, -, hbetween⟩ := apply_substring (some (.string "añ𝄞b")) {}
  obtain ⟨-, -, before, part, after, htext, hbefore, hpart, happly⟩ := hbetween hexact i j
  have hbefore : before.length = 0 := hbefore.trans (congrArg₂ (· ⊓ ·) hi hj)
  have hpart : (before ++ part).length = 2 := hpart.trans (congrArg₂ (· ⊔ ·) hi hj)
  obtain rfl := List.eq_nil_of_length_eq_zero hbefore
  have htext : part ++ after = ['a', 'ñ'] ++ ['𝄞', 'b'] := htext.symm
  obtain rfl : part = ['a', 'ñ'] := List.append_inj_left htext hpart
  exact ⟨hexact, happly⟩

end Helper

end FormLogic
