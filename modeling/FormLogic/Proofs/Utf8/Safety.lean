import FormLogic.Proofs.Expression.Enclosed
import FormLogic.Proofs.Utf8.Scan
import FormLogic.Proofs.Utf8.Terms

/-!
# No character is cut

Whatever scans the bytes of a text reads no byte beyond their end and cuts between characters only,
from one position to the same or a later one: nothing is refused.  What it finds are the pieces that
are found in the text itself, each of them a text and a part of the whole
(`Utf8.yields_parts_of_isText`).
-/

namespace FormLogic

/-! ## 1. Marks at the ends of a text -/

namespace Arithmetic

/-- The first operand and the operands behind operators are parts of the text. -/
theorem infix_of_cut (cuts : List Char → Char → Bool) (depth : Int) (before cs : List Char) :
    (cut cuts depth before cs).1 <:+: cs ∧
      ∀ t ∈ (cut cuts depth before cs).2, t.2 <:+: cs := by
  have htext := cut_append cuts depth before cs
  generalize cut cuts depth before cs = terms at htext ⊢
  refine ⟨⟨[], _, htext⟩, fun t ht => ?_⟩
  obtain ⟨front, back, hterms⟩ := List.append_of_mem ht
  refine ⟨terms.1 ++ front.flatMap (fun p => p.1 :: p.2) ++ [t.1],
    back.flatMap fun p => p.1 :: p.2, ?_⟩
  rw [← htext, hterms]
  simp

end Arithmetic

namespace Shape

theorem negated?_eq_ite (cs : List Char) :
    negated? cs =
      if cs.head?.any (· == '!') && !(['!', '='].isPrefixOf cs) then
        some ((Scan.group? (Text.trim cs.tail)).getD (Text.trim cs.tail))
      else none := by
  unfold negated?
  split
  · simp
  · next rest hne =>
    have hbegins : ['!', '='].isPrefixOf ('!' :: rest) = false := by
      rw [Bool.eq_false_iff, Ne, List.isPrefixOf_iff_prefix]
      rintro ⟨more, hmore⟩
      exact hne more (List.cons.inj hmore).2.symm
    simp [hbegins]
  · next hne =>
    have hhead : cs.head?.any (· == '!') = false := by
      rw [Bool.eq_false_iff, Ne, Option.any_eq_true]
      rintro ⟨c, hc, hbang⟩
      obtain ⟨rest, rfl⟩ := List.head?_eq_some_iff.mp hc
      exact hne rest (congrArg (· :: rest) (beq_iff_eq.mp hbang))
    simp [hhead]

end Shape

namespace Atom

theorem infix_of_quoted? {cs content : List Char} (h : quoted? cs = some content) :
    content <:+: cs := by
  obtain ⟨quote, -, rfl⟩ := quoted?_eq_some_iff.mp h
  exact ⟨[quote], [quote], by simp⟩

end Atom

namespace Utf8

open Scan

/-! ## 2. Quotes and exclamation marks -/

/-- Whether bytes begin and end with a character. -/
def isEnclosed (quote : Char) (bytes : List UInt8) : Bool :=
  bytes.head?.any (asChar · == quote) && bytes.getLast?.any (asChar · == quote)

/-- Whether bytes are a text in quotes. -/
def isQuoted (bytes : List UInt8) : Bool :=
  2 ≤ bytes.length && (isEnclosed '"' bytes || isEnclosed '\'' bytes)

/-- **The content of a text in quotes.** -/
def quoted? (bytes : List UInt8) : Access (Option (List UInt8)) := do
  if isQuoted bytes then return some (← slice bytes 1 (bytes.length - 1)) else return none

/-- **What a leading exclamation mark negates.** -/
def negated? (bytes : List UInt8) : Access (Option (List UInt8)) := do
  if bytes.head?.any (asChar · == '!') && !(encode ['!', '=']).isPrefixOf bytes then
    let operand ← trimmed bytes 1 bytes.length
    return some ((← group? operand).getD operand)
  else
    return none

theorem isEnclosed_encode_iff {quote : Char} (hquote : quote.toNat < 128) {cs : List Char} :
    isEnclosed quote (encode cs) = true ↔ cs.head? = some quote ∧ cs.getLast? = some quote := by
  rw [isEnclosed, any_head?_encode (asciiOnly_beq hquote),
    any_getLast?_encode (asciiOnly_beq hquote)]
  simp [Option.any_eq_true]

theorem isQuoted_encode_iff {cs : List Char} :
    isQuoted (encode cs) = true ↔ ∃ content, Atom.quoted? cs = some content := by
  constructor
  · intro h
    obtain ⟨hlength, hends⟩ := Bool.and_eq_true_iff.mp h
    have key {quote : Char} (hquote : isQuote quote = true)
        (h : isEnclosed quote (encode cs) = true) : ∃ content, Atom.quoted? cs = some content := by
      have hascii := asciiOnly_isQuote quote hquote
      obtain ⟨content, hcontent⟩ := (exists_between_iff hascii).mp
        ⟨of_decide_eq_true hlength, (isEnclosed_encode_iff hascii).mp h⟩
      exact ⟨content, Atom.quoted?_eq_some_iff.mpr ⟨quote, hquote, hcontent⟩⟩
    rcases Bool.or_eq_true_iff.mp hends with h | h
    · exact key rfl h
    · exact key rfl h
  · rintro ⟨content, h⟩
    obtain ⟨quote, hquote, hcontent⟩ := Atom.quoted?_eq_some_iff.mp h
    have hascii := asciiOnly_isQuote quote hquote
    obtain ⟨hlength, hends⟩ := (exists_between_iff hascii).mpr ⟨content, hcontent⟩
    have henclosed := (isEnclosed_encode_iff hascii).mpr hends
    rcases eq_of_isQuote hquote with rfl | rfl <;> simp [isQuoted, hlength, henclosed]

theorem quoted?_encode (cs : List Char) :
    quoted? (encode cs) = .ok ((Atom.quoted? cs).map encode) := by
  cases hquoted : Atom.quoted? cs with
  | none =>
    have hno : ¬ isQuoted (encode cs) = true := by
      rw [isQuoted_encode_iff, hquoted]
      rintro ⟨_, h⟩
      cases h
    rw [quoted?, if_neg hno]
    rfl
  | some content =>
    rw [quoted?, if_pos (isQuoted_encode_iff.mpr ⟨content, hquoted⟩)]
    obtain ⟨quote, hquote, rfl⟩ := Atom.quoted?_eq_some_iff.mp hquoted
    have hascii : quote.toNat < 128 := asciiOnly_isQuote quote hquote
    rw [slice_between hascii hascii]
    rfl

theorem negated?_encode (cs : List Char) :
    negated? (encode cs) = .ok ((Shape.negated? cs).map encode) := by
  rw [negated?, any_head?_encode (asciiOnly_beq (by decide)), isPrefixOf_encode,
    Shape.negated?_eq_ite]
  cases h : cs.head?.any (· == '!') && !(['!', '='].isPrefixOf cs) with
  | false => rfl
  | true =>
    obtain ⟨c, hc, hbang⟩ := (Option.any_eq_true ..).mp (Bool.and_eq_true_iff.mp h).1
    obtain ⟨rest, rfl⟩ := List.head?_eq_some_iff.mp hc
    obtain rfl := beq_iff_eq.mp hbang
    have htrimmed : trimmed (encode ('!' :: rest)) 1 (encode ('!' :: rest)).length = _ :=
      trimmed_of_eq ['!'] rest [] (by simp) (length_encode_concat [] (by decide)).symm rfl
    rw [if_pos rfl, if_pos rfl, htrimmed, ok_bind, group?_encode, ok_bind]
    cases hgroup : Scan.group? (Text.trim rest) <;> simp [hgroup]

/-! ## 3. Parts of a text -/

/-- **A text that stands within bytes.** -/
def IsPart (bytes piece : List UInt8) : Prop := IsText piece ∧ piece <:+: bytes

/-- Nothing is refused, and every piece of the result is a part of the text. -/
def Yields {α : Type} (pieces : α → List (List UInt8)) (bytes : List UInt8) (run : Access α)
    (result : α) : Prop :=
  run = .ok result ∧ ∀ piece ∈ pieces result, IsPart bytes piece

theorem isPart_encode {p cs : List Char} (h : p <:+: cs) : IsPart (encode cs) (encode p) := by
  obtain ⟨before, after, rfl⟩ := h
  exact ⟨isText_encode p, encode before, encode after, by rw [encode_append, encode_append]⟩

theorem isPart_of_mem_map {ps : List (List Char)} {cs : List Char} (h : ∀ p ∈ ps, p <:+: cs) :
    ∀ piece ∈ ps.map encode, IsPart (encode cs) piece := by
  intro piece hpiece
  obtain ⟨p, hp, rfl⟩ := List.mem_map.mp hpiece
  exact isPart_encode (h p hp)

theorem isPart_of_mem_toList {p? : Option (List Char)} {cs : List Char}
    (h : ∀ p ∈ p?, p <:+: cs) : ∀ piece ∈ (p?.map encode).toList, IsPart (encode cs) piece := by
  intro piece hpiece
  obtain ⟨p, hp, rfl⟩ := Option.map_eq_some_iff.mp (Option.mem_toList.mp hpiece)
  exact isPart_encode (h p hp)

/-- The parts of a ternary. -/
def Ternary.parts (t : Ternary) : List (List UInt8) := [t.condition, t.whenTrue, t.whenFalse]

theorem map_snd_encodeTerms (terms : List Char × List (Char × List Char)) :
    (encodeTerms terms).map Prod.snd = (terms.1 :: terms.2.map Prod.snd).map encode := by
  simp [encodeTerms, Function.comp_def]

/-- The terms are parts of the text. -/
theorem isPart_of_mem_encodeTerms (cuts : List Char → Char → Bool) (cs : List Char) :
    ∀ piece ∈ (encodeTerms (Arithmetic.cut cuts 0 [] cs)).map Prod.snd,
      IsPart (encode cs) piece := by
  obtain ⟨hfirst, hterms⟩ := Arithmetic.infix_of_cut cuts 0 [] cs
  rw [map_snd_encodeTerms]
  refine isPart_of_mem_map (List.forall_mem_cons.mpr ⟨hfirst, fun p hp => ?_⟩)
  obtain ⟨t, ht, rfl⟩ := List.mem_map.mp hp
  exact hterms t ht

/-- The parts of a ternary are parts of the text. -/
theorem isPart_of_mem_parts (cs : List Char) :
    ∀ piece ∈ ((Scan.ternary? cs).map Ternary.encode).toList.flatMap Ternary.parts,
      IsPart (encode cs) piece := by
  cases hternary : Scan.ternary? cs with
  | none => exact List.forall_mem_nil _
  | some t =>
    obtain ⟨hcondition, htrue, hfalse⟩ := infix_of_ternary? hternary
    have hparts : ∀ p ∈ [t.condition, t.whenTrue, t.whenFalse], p <:+: cs := by
      simp [hcondition, htrue, hfalse]
    exact isPart_of_mem_map hparts

/-- **Scanning bytes cuts no character and reads nothing beyond the end.** -/
theorem yields_parts_of_isText {bytes op : List UInt8} (hbytes : IsText bytes) (hop : IsText op)
    (hne : op ≠ []) :
    ∃ cs os, encode cs = bytes ∧ encode os = op ∧
      Yields id bytes (split op hne bytes) ((Scan.split os cs).map encode) ∧
      Yields id bytes (arguments bytes) ((Scan.arguments cs).map encode) ∧
      Yields id bytes (items bytes) ((Scan.items cs).map encode) ∧
      Yields (·.toList.flatMap Ternary.parts) bytes (ternary? bytes)
        ((Scan.ternary? cs).map .encode) ∧
      Yields Option.toList bytes (group? bytes) ((Scan.group? cs).map encode) ∧
      Yields (·.map Prod.snd) bytes (terms splitsSum bytes)
        (encodeTerms (Arithmetic.cut Arithmetic.cutsSum 0 [] cs)) ∧
      Yields (·.map Prod.snd) bytes (terms splitsProduct bytes)
        (encodeTerms (Arithmetic.cut Arithmetic.cutsProduct 0 [] cs)) ∧
      Yields Option.toList bytes (quoted? bytes) ((Atom.quoted? cs).map encode) ∧
      Yields Option.toList bytes (negated? bytes) ((Shape.negated? cs).map encode) ∧
      ∀ i, isBoundary bytes i = true → ∃ before rest, cs = before ++ rest ∧
        isBinarySign bytes i = .ok (Arithmetic.isBinarySign before.reverse) := by
  obtain ⟨cs, rfl⟩ := hbytes.exists_encode
  obtain ⟨os, rfl⟩ := hop.exists_encode
  have hos : os ≠ [] := by
    rintro rfl
    exact hne rfl
  refine ⟨cs, os, rfl, rfl, ⟨split_encode hos hne cs, ?_⟩, ⟨arguments_encode cs, ?_⟩,
    ⟨items_encode cs, ?_⟩, ⟨ternary?_encode cs, ?_⟩, ⟨group?_encode cs, ?_⟩,
    ⟨terms_encode decides_splitsSum cs, ?_⟩, ⟨terms_encode decides_splitsProduct cs, ?_⟩,
    ⟨quoted?_encode cs, ?_⟩, ⟨negated?_encode cs, ?_⟩, ?_⟩
  · exact isPart_of_mem_map fun p hp => infix_of_mem_split hp
  · exact isPart_of_mem_map fun p hp => infix_of_mem_arguments hp
  · exact isPart_of_mem_map fun p hp => infix_of_mem_items hp
  · exact isPart_of_mem_parts cs
  · exact isPart_of_mem_toList fun p hp => infix_of_group? hp
  · exact isPart_of_mem_encodeTerms Arithmetic.cutsSum cs
  · exact isPart_of_mem_encodeTerms Arithmetic.cutsProduct cs
  · exact isPart_of_mem_toList fun p hp => Atom.infix_of_quoted? hp
  · exact isPart_of_mem_toList fun p hp => Shape.infix_of_negated? hp
  · intro i hi
    obtain ⟨before, rest, rfl, rfl⟩ := exists_of_isBoundary hi
    exact ⟨before, rest, rfl, isBinarySign_encode before rest⟩

/-- Neither an operator of three bytes nor a character of four is cut. -/
theorem yields_parts_of_isText_of_wide_operator :
    let bytes := encode ['ñ', '≠', '(', '𝄞', '≠', ')']
    let op := encode ['≠']
    IsText bytes ∧ IsText op ∧ ∃ hne : op ≠ [],
      split op hne bytes = .ok [encode ['ñ'], encode ['(', '𝄞', '≠', ')']] ∧
        IsPart bytes (encode ['(', '𝄞', '≠', ')']) := by
  intro bytes op
  have hne : op ≠ [] := List.cons_ne_nil _ _
  obtain ⟨cs, os, hcs, hos, ⟨hsplit, hparts⟩, -⟩ :=
    yields_parts_of_isText (isText_encode _ : IsText bytes) (isText_encode _ : IsText op) hne
  obtain rfl := encode_injective hcs
  obtain rfl := encode_injective hos
  have hpieces : Scan.split ['≠'] ['ñ', '≠', '(', '𝄞', '≠', ')']
      = [['ñ'], ['(', '𝄞', '≠', ')']] := by decide
  rw [hpieces] at hsplit hparts
  exact ⟨isText_encode _, isText_encode _, hne, hsplit, hparts _ (by simp)⟩

end Utf8

end FormLogic
