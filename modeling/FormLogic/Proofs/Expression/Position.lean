import FormLogic.Proofs.Context.Shadowing
import FormLogic.Proofs.Expression.Substring

/-!
# Reaching into lists and texts by position

The items of a list and the characters of a text are reached in three ways: by the helper for one
position, which counts from the end where the index is negative, by a segment of a path, and as a
part of a text between two bounds.  Indices below `2^53` in size are exact
(`Helper.position?_of_isInt`), so the three ways reach the same thing at every position, and each
says in its own way that there is nothing (`Context.index_access`).
-/

namespace FormLogic

/-! ## 1. The helper for one position -/

namespace Helper

/-- **What there is to reach in a value**: the items of a list, or the characters of a text. -/
inductive Elements : Value → List Value → Prop
  | list (items : List Value) : Elements (.list items) items
  | string (s : String) : Elements (.string s) (s.toList.map fun c => .string c.toString)

/-- The helper takes the element at the position that its index denotes. -/
theorem item_eq {v : Value} {es : List Value} (h : Elements v es) (x : Binary64) :
    item (some v) x = ((position? es.length x).bind (es[·]?)).getD .null := by
  cases h with
  | list items => rfl
  | string s =>
    rw [item, List.length_map]
    cases position? s.toList.length x with
    | none => rfl
    | some k =>
      simp only [Option.bind_some, List.getElem?_map]
      cases s.toList[k]? <;> rfl

/-- **Positions of small lengths and indices are exact.** -/
theorem position?_of_isInt {n : ℕ} (hn : n < 2 ^ 53) {x : Binary64} {i : ℤ} (hx : x.IsInt i)
    (hi : i.natAbs < 2 ^ 53) :
    position? n x.floor =
      if 0 ≤ i then if i < n then some i.toNat else none
      else if 0 ≤ n + i then some (n + i).toNat else none := by
  have hlength : Binary64.Exact n := Binary64.exact_of_le hn.le
  have hn' := Binary64.isInt_ofNat hlength
  obtain ⟨hfinite, hfloor⟩ := hx.floor (Binary64.isFinite_of_isInt hx hi)
  have hnegative := hfloor.lt_iff Binary64.isInt_zero
  rw [position?, Binary64.isNaN_of_isFinite hfinite]
  simp only [Bool.false_eq_true, if_false, hnegative]
  by_cases h : i < 0
  · -- the sum of the length and the index is no larger than either
    have hsum := hn'.add hfloor (Binary64.isFinite_ofNat hlength) hfinite
      (Binary64.exact_of_le (by omega))
    have htruncate := hsum.truncate (Binary64.isFinite_of_isInt hsum (by omega))
    simp only [h, if_true, Bool.and_eq_true, Binary64.isInt_zero.le_iff hsum, hsum.lt_iff hn',
      htruncate]
    rw [if_neg (not_le.mpr h)]
    exact if_congr (by omega) rfl rfl
  · have htruncate := hfloor.truncate hfinite
    simp only [h, if_false, Bool.and_eq_true, Binary64.isInt_zero.le_iff hfloor, hfloor.lt_iff hn',
      htruncate]
    rw [if_pos (not_lt.mp h)]
    exact if_congr (by omega) rfl rfl

/-- **What the helper takes at an integer.**  From `0` on it counts from the beginning, below zero
from the end; there is nothing beyond either. -/
theorem apply_at {v : Value} {es : List Value} (hes : Elements v es) (hlength : es.length < 2 ^ 53)
    {x : Binary64} {i : ℤ} (hx : x.IsInt i) (hi : i.natAbs < 2 ^ 53) (user : User) :
    (∀ k (hk : k < es.length), i = k ∨ i = k - es.length →
      Helper.at.apply [some v, some (.number x)] user = some es[k]) ∧
    (es.length ≤ i ∨ i < -es.length →
      Helper.at.apply [some v, some (.number x)] user = some .null) := by
  have htaken : Helper.at.apply [some v, some (.number x)] user
      = some (((position? es.length x.floor).bind (es[·]?)).getD .null) :=
    congrArg some (item_eq hes _)
  rw [htaken, position?_of_isInt hlength hx hi]
  constructor
  · rintro k hk (rfl | rfl)
    · rw [if_pos (by omega), if_pos (by omega)]
      simp [hk]
    · rw [if_neg (by omega), if_pos (by omega)]
      simp [hk]
  · rintro (hout | hout)
    · rw [if_pos (by omega), if_neg (by omega)]
      rfl
    · rw [if_neg (by omega), if_neg (by omega)]
      rfl

/-- Between a position and the next stands the character there. -/
theorem apply_substring_succ {s : String} {k : ℕ} (hk : k < s.toList.length)
    (hlength : s.toList.length < 2 ^ 53) {x y : Binary64} (hx : x.IsInt k) (hy : y.IsInt (k + 1))
    (user : User) :
    substring.apply [some (.string s), some (.number x), some (.number y)] user
      = some (.string s.toList[k].toString) := by
  have hexact : Binary64.Exact s.toList.length := Binary64.exact_of_le hlength.le
  have hbegin : clamp s.toList.length x.floor = k :=
    calc clamp s.toList.length x.floor
        = s.toList.length ⊓ (k : ℤ).toNat := (clamp_floor hexact x).trans
            (bound_of_isInt hx (Binary64.isFinite_of_isInt hx (by omega)) _)
      _ = k := by omega
  have hend : clamp s.toList.length y.floor = k + 1 :=
    calc clamp s.toList.length y.floor
        = s.toList.length ⊓ ((k : ℤ) + 1).toNat := (clamp_floor hexact y).trans
            (bound_of_isInt hy (Binary64.isFinite_of_isInt hy (by omega)) _)
      _ = k + 1 := by omega
  have hpart : substring.apply [some (.string s), some (.number x), some (.number y)] user
      = some (.string (String.ofList (Text.between s.toList (clamp s.toList.length x.floor)
          (clamp s.toList.length y.floor)))) := rfl
  rw [hpart, hbegin, hend, Text.between_succ hk, ← String.singleton_eq_ofList]
  rfl

end Helper

/-! ## 2. The segment for one position -/

namespace Value

/-- A position is read back from its digits. -/
theorem index?_toDigits {k : ℕ} (hk : k < 2 ^ 53) :
    index? (String.ofList (Nat.toDigits 10 k)) = some k := by
  have hvalue : Text.decimalValue? (Nat.toDigits 10 k) = some k := by
    have hdecimal : Text.decimalValue (Nat.toDigits 10 k) = k := Numeral.Digits.decimalValue_ofNat k
    have hall : (Nat.toDigits 10 k).all Text.isAsciiDigit = true :=
      List.all_eq_true.mpr (Numeral.Digits.ofNat k).2
    simp [Text.decimalValue?, hdecimal, hall, Nat.toDigits_ne_nil]
  have hsign : (Nat.toDigits 10 k).head? ≠ some '+' :=
    (Numeral.Digits.ofNat k).head?_ne (by decide)
  rw [index?, String.toList_ofList]
  split
  · next digits hplus => exact absurd (by rw [hplus]; rfl) hsign
  · rw [hvalue]
    exact if_pos (decide_eq_true (hk.trans (by decide)))

theorem walk?_toDigits (items : List Value) {k : ℕ} (hk : k < 2 ^ 53) :
    (list items).walk? [String.ofList (Nat.toDigits 10 k)] = items[k]? := by
  have hname : String.ofList (Nat.toDigits 10 k) ≠ "length" := by
    intro hlength
    have hindex : index? "length" = none := rfl
    have hdigits := index?_toDigits hk
    rw [hlength, hindex] at hdigits
    cases hdigits
  rw [walk?_singleton _ _ fun _ _ => hname, get?, index?_toDigits hk, Option.bind_some]

end Value

namespace Context

variable (c : Context)

/-- A path that begins with the name of a part leads on from its value only. -/
theorem resolve?_dotted_of_part {name : String} (hname : name ∈ partNames) {p : List Char}
    (hhead : (segments p).head? = some name) {qs : List (List Char)} (hqs : ∀ q ∈ qs, '.' ∉ q) :
    c.resolve? (dotted p qs) = (c.resolve? p).bind (·.walk? (qs.map String.ofList)) := by
  obtain ⟨rest, hsegments⟩ := List.head?_eq_some_iff.mp hhead
  obtain ⟨part, hpart⟩ := c.named_of_mem_partNames hname
  rw [resolve?, resolve?, segments_dotted p hqs, hsegments, List.cons_append, walk?_cons,
    walk?_cons, hpart]
  simp [Value.walk?_append]

/-- A path that goes on with an index leads to the item there. -/
theorem resolve?_dotted_toDigits {name : String} (hname : name ∈ partNames) {p : List Char}
    (hhead : (segments p).head? = some name) {items : List Value}
    (hv : c.resolve? p = some (.list items)) {k : ℕ} (hk : k < 2 ^ 53) :
    c.resolve? (dotted p [Nat.toDigits 10 k]) = items[k]? := by
  have hpoint : ∀ q ∈ [Nat.toDigits 10 k], '.' ∉ q := by
    intro q hq hdot
    obtain rfl := List.mem_singleton.mp hq
    exact absurd ((Numeral.Digits.ofNat k).2 '.' hdot) (by decide)
  rw [c.resolve?_dotted_of_part hname hhead hpoint, hv]
  exact Value.walk?_toDigits items hk

/-- **Positions mean the same everywhere.**  In a list or a text that stands in the form or among
the process variables, an index from `0` on denotes the element at that position, one below zero
the element as far from the end, and any other nothing.  A path that goes on with an index leads to
the item that the helper takes, and nowhere where there is none; and the part of a text from an
index to the next is the character that the helper takes. -/
theorem index_access {name : String} (hname : name = "form" ∨ name = "process") {p : List Char}
    (hhead : (segments p).head? = some name) {v : Value} (hv : c.resolve? p = some v)
    {es : List Value} (hes : Helper.Elements v es) (hlength : es.length < 2 ^ 53) {x : Binary64}
    {i : ℤ} (hx : x.IsInt i) (hi : i.natAbs < 2 ^ 53) (user : User) :
    let taken := Helper.at.apply [some v, some (.number x)] user
    (∀ k (hk : k < es.length), i = k ∨ i = k - es.length → taken = some es[k]) ∧
    (es.length ≤ i ∨ i < -es.length → taken = some .null) ∧
    (∀ items, v = .list items → ∀ k : ℕ, i = k →
      c.resolve? (dotted p [Nat.toDigits 10 k]) = if k < es.length then taken else none) ∧
    (∀ s, v = .string s → 0 ≤ i → i < es.length → ∀ y : Binary64, y.IsInt (i + 1) →
      Helper.substring.apply [some v, some (.number x), some (.number y)] user = taken) := by
  intro taken
  obtain ⟨hreached, hout⟩ := Helper.apply_at hes hlength hx hi user
  refine ⟨hreached, hout, fun items hitems k hk => ?_, fun s hs hnonneg hlt y hy => ?_⟩
  · subst hitems
    cases hes
    have hpart : name ∈ partNames := by
      rcases hname with rfl | rfl <;> decide
    rw [c.resolve?_dotted_toDigits hpart hhead hv (by omega)]
    split
    · next hlt => exact (List.getElem?_eq_getElem hlt).trans (hreached k hlt (.inl hk)).symm
    · next hge => exact List.getElem?_eq_none (not_lt.mp hge)
  · subst hs
    cases hes
    obtain ⟨k, rfl⟩ := Int.eq_ofNat_of_zero_le hnonneg
    have hlt : k < (s.toList.map fun c => Value.string c.toString).length := by exact_mod_cast hlt
    have htaken : taken = _ := hreached k hlt (.inl rfl)
    rw [htaken, List.getElem_map]
    rw [List.length_map] at hlt hlength
    exact Helper.apply_substring_succ hlt hlength hx hy user

/-- The last item of a form field is reached from the end too, and there is none behind it; the
second character of a process variable, of four bytes, is the part of the text from `1` to `2`. -/
theorem index_access_of_list_and_text :
    let list : Value := .list [.null, .bool true]
    let text : Value := .string "ñ𝄞"
    let c : Context := { form := [("a", list)], process := [("t", text)] }
    Helper.at.apply [some list, some (.number (.ofInt (-1)))] {} = some (.bool true) ∧
      c.resolve? (dotted "form.a".toList [['2']]) = none ∧
      Helper.substring.apply [some text, some (.number (.ofInt 1)), some (.number (.ofInt 2))] {}
        = some (.string "𝄞") := by
  intro list text c
  have hlist := Helper.Elements.list [.null, .bool true]
  have htext := Helper.Elements.string "ñ𝄞"
  have hinteger (i : ℤ) (hi : i.natAbs ≤ 2 ^ 53) : (Binary64.ofInt i).IsInt i :=
    Binary64.isInt_ofInt (Binary64.exact_of_le hi)
  refine ⟨?_, ?_, ?_⟩
  · obtain ⟨htaken, -, -, -⟩ := c.index_access (.inl rfl) (p := "form.a".toList) rfl rfl hlist
      (by decide) (hinteger (-1) (by decide)) (by decide) {}
    exact htaken 1 (by decide) (.inr rfl)
  · obtain ⟨-, -, hpath, -⟩ := c.index_access (.inl rfl) (p := "form.a".toList) rfl rfl hlist
      (by decide) (hinteger 2 (by decide)) (by decide) {}
    exact hpath _ rfl 2 rfl
  · obtain ⟨htaken, -, -, hpart⟩ := c.index_access (.inr rfl) (p := "process.t".toList) rfl rfl
      htext (by decide) (hinteger 1 (by decide)) (by decide) {}
    exact (hpart _ rfl (by decide) (by decide) _ (hinteger 2 (by decide))).trans
      (htaken 1 (by decide) (.inl rfl))

end Context

end FormLogic
