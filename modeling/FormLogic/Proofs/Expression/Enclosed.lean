import FormLogic.Proofs.Expression.Literal
import FormLogic.Proofs.Scan.Grammar

/-!
# Quotes and brackets around a whole text

A text is read as a string or as a list by its first and its last character alone.  Balanced text
with these ends is one literal, closed by its last character and by no earlier one, or it begins
with a literal that closes early and only ends in the same character again (`IsStringSpan`,
`IsListSpan`).  The rule does not tell the two apart: `"a" + "b"` is the string from its first quote
to its last.  A balanced text of neither kind is a number, a keyword or a variable.
-/

namespace FormLogic

open Scan Text

/-! ## 1. Literals and spans -/

/-- **One string literal**: its quote is closed by the last character, and by no earlier one. -/
structure IsStringLiteral (quote : Char) (content t : List Char) : Prop where
  text : t = quote :: (content ++ [quote])
  isQuote : isQuote quote = true
  inside : IsContent quote content
  closed : escapedAfter false content = false

/-- **A string literal and more**, up to the same quote again; `content` is what stands between the
two ends. -/
structure IsStringSpan (quote : Char) (content t : List Char) : Prop where
  text : t = quote :: (content ++ [quote])
  isQuote : isQuote quote = true
  closesEarly : ∃ first more, content = first ++ quote :: more ∧ IsContent quote first ∧
    escapedAfter false first = false ∧ Balance.check (more ++ [quote]) = .ok ()

/-- **One list**: its bracket is closed by the last character. -/
structure IsListLiteral (body t : List Char) : Prop where
  text : t = '[' :: (body ++ [']'])
  balanced : Balance.check body = .ok ()

/-- **A list and more**, up to a closing bracket again. -/
structure IsListSpan (body t : List Char) : Prop where
  text : t = '[' :: (body ++ [']'])
  closesEarly : ∃ first more, body = first ++ ']' :: more ∧ Balance.check first = .ok () ∧
    Balance.check (more ++ [']']) = .ok ()

/-- What a span has between its ends is not the inside of a literal. -/
theorem IsStringSpan.not_literal {quote : Char} {content t : List Char}
    (h : IsStringSpan quote content t) (quote' : Char) (content' : List Char) :
    ¬ IsStringLiteral quote' content' t := by
  intro hliteral
  obtain ⟨first, more, hcontent, -, hclosed, -⟩ := h.closesEarly
  obtain ⟨rfl, htail⟩ := List.cons.inj (h.text.symm.trans hliteral.text)
  obtain rfl : content = content' := List.append_cancel_right htail
  rw [hliteral.inside first more hcontent] at hclosed
  exact Bool.noConfusion hclosed

theorem IsListSpan.not_literal {body t : List Char} (h : IsListSpan body t) (body' : List Char) :
    ¬ IsListLiteral body' t := by
  intro hliteral
  obtain ⟨first, more, hbody, hfirst, -⟩ := h.closesEarly
  have htail := (List.cons.inj (h.text.symm.trans hliteral.text)).2
  obtain rfl : body = body' := List.append_cancel_right htail
  -- the run over the inside stops at the bracket that closes early
  have hrun := Balance.check_eq_ok_iff.mp hliteral.balanced
  rw [hbody, Balance.State.run?_append, Balance.check_eq_ok_iff.mp hfirst, Option.bind_some,
    Balance.State.run?] at hrun
  simp [Balance.State.start, Balance.State.step?, isQuote] at hrun

/-- What closes in text that ends in `last` is this end, or stands before it. -/
theorem end_or_before {last close : Char} {content first rest : List Char}
    (h : content ++ [last] = first ++ close :: rest) :
    (rest = [] ∧ content = first) ∨
      ∃ more, rest = more ++ [last] ∧ content = first ++ close :: more := by
  rcases List.eq_nil_or_concat rest with rfl | ⟨more, c, rfl⟩
  · exact .inl ⟨rfl, (List.append_inj' h rfl).1⟩
  · rw [List.concat_eq_append, ← List.cons_append, ← List.append_assoc] at h
    obtain ⟨hcontent, hlast⟩ := List.append_inj' h rfl
    obtain rfl : last = c := (List.cons.inj hlast).1
    exact .inr ⟨more, List.concat_eq_append, hcontent⟩

section Balanced

variable {t : List Char} (h : Balance.check t = .ok ())

include h

/-- **Balanced text that begins and ends in one quote is a literal or a span.** -/
theorem isStringLiteral_or_span {quote : Char} {content : List Char} (hquote : isQuote quote = true)
    (ht : t = quote :: (content ++ [quote])) :
    IsStringLiteral quote content t ∨ IsStringSpan quote content t := by
  have hbalanced := balanced_iff.mpr h
  have hbracket : isBracket quote = false := by
    rcases eq_of_isQuote hquote with rfl | rfl <;> decide
  generalize htail : content ++ [quote] = tail at ht
  subst ht
  cases hbalanced with
  | ordinary _ hordinary _ => simp [hquote] at hordinary
  | group hpair _ _ => cases hpair <;> simp [isBracket] at hbracket
  | @literal _ first cs _ hinside hclosed hcs =>
    rcases end_or_before htail with ⟨rfl, rfl⟩ | ⟨more, rfl, rfl⟩
    · exact .inl ⟨rfl, hquote, hinside, hclosed⟩
    · exact .inr ⟨by simp, hquote, first, more, rfl, hinside, hclosed, balanced_iff.mp hcs⟩

/-- **Balanced text in square brackets is a list or a span.** -/
theorem isListLiteral_or_span {body : List Char} (ht : t = '[' :: (body ++ [']'])) :
    IsListLiteral body t ∨ IsListSpan body t := by
  have hbalanced := balanced_iff.mpr h
  generalize htail : body ++ [']'] = tail at ht
  subst ht
  cases hbalanced with
  | ordinary hbracket _ _ => exact absurd hbracket (by decide)
  | literal hquote _ _ _ => exact absurd hquote (by decide)
  | @group _ _ close first cs hpair hinside hcs =>
    obtain rfl : close = ']' := by cases hpair; rfl
    rcases end_or_before htail with ⟨rfl, rfl⟩ | ⟨more, rfl, rfl⟩
    · exact .inl ⟨rfl, balanced_iff.mp hinside⟩
    · exact .inr ⟨by simp, first, more, rfl, balanced_iff.mp hinside, balanced_iff.mp hcs⟩

end Balanced

/-! ## 2. The rules -/

namespace Atom

theorem quoted?_eq_some_iff {cs content : List Char} :
    quoted? cs = some content ↔
      ∃ quote, isQuote quote = true ∧ cs = quote :: (content ++ [quote]) := by
  constructor
  · intro h
    unfold quoted? at h
    split at h
    · exact ⟨'"', rfl, by rw [dropLast?_eq_some_iff.mp h]⟩
    · exact ⟨'\'', rfl, by rw [dropLast?_eq_some_iff.mp h]⟩
    · simp at h
  · rintro ⟨quote, hquote, rfl⟩
    rcases eq_of_isQuote hquote with rfl | rfl <;> exact dropLast?_eq_some_iff.mpr rfl

theorem bracketed?_eq_some_iff {cs body : List Char} :
    bracketed? cs = some body ↔ cs = '[' :: (body ++ [']']) := by
  constructor
  · intro h
    unfold bracketed? at h
    split at h
    · rw [dropLast?_eq_some_iff.mp h]
    · simp at h
  · rintro rfl
    exact dropLast?_eq_some_iff.mpr rfl

theorem ofText_of_quoted {t content : List Char} {quote : Char} (hquote : isQuote quote = true)
    (ht : t = quote :: (content ++ [quote])) : ofText t = string content := by
  rw [ofText, quoted?_eq_some_iff.mpr ⟨quote, hquote, ht⟩]

/-- No text in brackets is a number or a keyword. -/
theorem ofText_of_bracketed {t body : List Char} (ht : t = '[' :: (body ++ [']'])) :
    ofText t = list body := by
  have hquoted : quoted? ('[' :: (body ++ [']'])) = none := rfl
  rw [ht, ofText_of_mem (by decide : isWordPart '[' = false) List.mem_cons_self hquoted,
    bracketed?_eq_some_iff.mpr rfl]

/-- The keywords, and what they stand for. -/
def keywords : List (List Char × Value) :=
  [(['t', 'r', 'u', 'e'], .bool true), (['f', 'a', 'l', 's', 'e'], .bool false),
    (['n', 'u', 'l', 'l'], .null)]

/-- **The reading of a text as a number, a keyword or a variable**, where `named` is the value of
the variable of this name. -/
def ReadAsWord (named : Resolved) (t : List Char) (outcome : Evaluation) : Prop :=
  (∃ n, Number.format n = t ∧ outcome = .ok (some (.number n))) ∨
    (∃ v, (t, v) ∈ keywords ∧ outcome = .ok (some v)) ∨ outcome = .ok named

/-- What is neither quoted nor bracketed is read so. -/
theorem readAsWord_evaluate {t : List Char} (hquoted : quoted? t = none)
    (hbracketed : bracketed? t = none) (read : List Char → Evaluation) (named : Resolved) :
    ReadAsWord named t ((ofText t).evaluate read named) := by
  rw [ofText, hquoted, hbracketed]
  simp only
  split
  · next n hn =>
    obtain ⟨-, hformat⟩ := Option.filter_eq_some_iff.mp hn
    exact .inl ⟨n, by simpa using hformat, rfl⟩
  split
  · next htrue => exact .inr (.inl ⟨.bool true, by simp [keywords, htrue], rfl⟩)
  split
  · next hfalse => exact .inr (.inl ⟨.bool false, by simp [keywords, hfalse], rfl⟩)
  split
  · next hnull => exact .inr (.inl ⟨.null, by simp [keywords, hnull], rfl⟩)
  · exact .inr (.inr rfl)

/-- A text that is no word can only name a variable. -/
theorem ReadAsWord.eq_named {named : Resolved} {t : List Char} {outcome : Evaluation} {c : Char}
    (h : ReadAsWord named t outcome) (hc : isWordPart c = false) (hmem : c ∈ t) :
    outcome = .ok named := by
  rcases h with ⟨n, rfl, -⟩ | ⟨v, hv, -⟩ | houtcome
  · rw [Number.isWordPart_of_mem_format hmem] at hc
    exact Bool.noConfusion hc
  · have hwords : ∀ k ∈ keywords, IsWord k.1 := by
      simp only [keywords, List.forall_mem_cons]
      exact ⟨by decide, by decide, by decide, List.forall_mem_nil _⟩
    exact absurd hmem ((hwords _ hv).not_mem hc)
  · exact houtcome

end Atom

/-! ## 3. Evaluation -/

namespace Evaluator

variable (ev : Evaluator) {depth : Nat} {cs : List Char}

/-- **The quote rule** looks at the two ends of a text. -/
theorem atom_of_quoted (hdepth : depth ≤ ev.options.maxDepth) {quote : Char} {content : List Char}
    (hquote : isQuote quote = true) (ht : trim cs = quote :: (content ++ [quote])) :
    ev.atom depth cs = .ok (some (.string (String.ofList content))) := by
  rw [atom_eq, if_neg (by omega), Atom.ofText_of_quoted hquote ht, Atom.evaluate]

/-- **The bracket rule** looks at the two ends of a text. -/
theorem atom_of_bracketed (hdepth : depth ≤ ev.options.maxDepth) {body : List Char}
    (ht : trim cs = '[' :: (body ++ [']'])) :
    ev.atom depth cs = (do
      let items ← Evaluation.collect ((Scan.items body).map (ev.atom (depth + 1)))
      return some (.list (items.map Resolved.orNull))) := by
  rw [atom_eq, if_neg (by omega), Atom.ofText_of_bracketed ht, Atom.evaluate]

/-- **What quotes and brackets make of balanced text.**  One string literal is its content, and so
is every text that begins with one and ends in the same quote; one list is the list of its items,
and every text that begins with one and ends in a bracket is read as a list too.  Any other balanced
text is a number, a keyword or a variable. -/
theorem atom_of_balanced (hdepth : depth ≤ ev.options.maxDepth) (h : Balance.check cs = .ok ()) :
    (∀ quote content,
      IsStringLiteral quote content (trim cs) ∨ IsStringSpan quote content (trim cs) →
      ev.atom depth cs = .ok (some (.string (String.ofList content)))) ∧
    (∀ body, IsListLiteral body (trim cs) ∨ IsListSpan body (trim cs) →
      ev.atom depth cs = do
        let items ← Evaluation.collect ((Scan.items body).map (ev.atom (depth + 1)))
        return some (.list (items.map Resolved.orNull))) ∧
    ((∀ quote content, ¬ IsStringLiteral quote content (trim cs) ∧
        ¬ IsStringSpan quote content (trim cs)) →
      (∀ body, ¬ IsListLiteral body (trim cs) ∧ ¬ IsListSpan body (trim cs)) →
      Atom.ReadAsWord (ev.context.resolve? (trim cs)) (trim cs) (ev.atom depth cs)) := by
  have hbalanced := Shape.balanced_trim h
  refine ⟨?_, ?_, ?_⟩
  · rintro quote content (hliteral | hspan)
    · exact atom_of_quoted ev hdepth hliteral.isQuote hliteral.text
    · exact atom_of_quoted ev hdepth hspan.isQuote hspan.text
  · rintro body (hliteral | hspan)
    · exact atom_of_bracketed ev hdepth hliteral.text
    · exact atom_of_bracketed ev hdepth hspan.text
  · intro hstring hlist
    have hquoted : Atom.quoted? (trim cs) = none := by
      rw [Option.eq_none_iff_forall_ne_some]
      intro content hfound
      obtain ⟨quote, hquote, ht⟩ := Atom.quoted?_eq_some_iff.mp hfound
      obtain ⟨hliteral, hspan⟩ := hstring quote content
      exact (isStringLiteral_or_span hbalanced hquote ht).elim hliteral hspan
    have hbracketed : Atom.bracketed? (trim cs) = none := by
      rw [Option.eq_none_iff_forall_ne_some]
      intro body hfound
      obtain ⟨hliteral, hspan⟩ := hlist body
      exact (isListLiteral_or_span hbalanced (Atom.bracketed?_eq_some_iff.mp hfound)).elim
        hliteral hspan
    rw [atom_eq, if_neg (by omega)]
    exact Atom.readAsWord_evaluate hquoted hbracketed _ _

/-- An escaped quote closes no literal, and two literals with an operator between them are one
string. -/
theorem atom_of_balanced_of_quotes :
    let escaped := [' ', '\'', '\\', '\'', '\'']
    let several := "\"a\" + \"b\"".toList
    (0 ≤ (default : Evaluator).options.maxDepth ∧ Balance.check escaped = .ok () ∧
      IsStringLiteral '\'' ['\\', '\''] (trim escaped) ∧
      (default : Evaluator).atom 0 escaped = .ok (some (.string "\\'"))) ∧
    (Balance.check several = .ok () ∧ IsStringSpan '"' "a\" + \"b".toList (trim several) ∧
      (default : Evaluator).atom 0 several = .ok (some (.string "a\" + \"b"))) := by
  intro escaped several
  have hliteral : IsStringLiteral '\'' ['\\', '\''] (trim escaped) :=
    ⟨by decide, rfl, ((IsContent.nil _).snoc (by decide)).snoc (by decide), rfl⟩
  have hspan : IsStringSpan '"' "a\" + \"b".toList (trim several) :=
    ⟨by decide, rfl, ['a'], " + \"b".toList, rfl, (IsContent.nil _).snoc (by decide), rfl, rfl⟩
  have hescaped : Balance.check escaped = .ok () := rfl
  have hseveral : Balance.check several = .ok () := rfl
  exact ⟨⟨Nat.zero_le _, hescaped, hliteral,
      (atom_of_balanced default (Nat.zero_le _) hescaped).1 _ _ (.inl hliteral)⟩,
    hseveral, hspan, (atom_of_balanced default (Nat.zero_le _) hseveral).1 _ _ (.inr hspan)⟩

/-- Two strings with a plus between them are one string, and two lists are one list. -/
theorem not_readAsWord_of_several_literals :
    let readAsWord (cs : List Char) : Prop := ∀ (ev : Evaluator) (depth : Nat),
      depth ≤ ev.options.maxDepth → Balance.check cs = .ok () →
      (∀ quote content, ¬ IsStringLiteral quote content (trim cs)) →
      (∀ body, ¬ IsListLiteral body (trim cs)) →
      Atom.ReadAsWord (ev.context.resolve? (trim cs)) (trim cs) (ev.atom depth cs)
    ¬ readAsWord "\"a\" + \"b\"".toList ∧ ¬ readAsWord "[1] [2]".toList := by
  intro readAsWord
  constructor
  · intro h
    have hspan : IsStringSpan '"' "a\" + \"b".toList (trim "\"a\" + \"b\"".toList) :=
      ⟨by decide, rfl, ['a'], " + \"b".toList, rfl, (IsContent.nil _).snoc (by decide), rfl, rfl⟩
    have hword := h default 0 (Nat.zero_le _) rfl hspan.not_literal fun body hlist =>
      absurd (List.cons.inj (hspan.text.symm.trans hlist.text)).1 (by decide)
    have hvalue : (default : Evaluator).atom 0 "\"a\" + \"b\"".toList = .ok none :=
      hword.eq_named (by decide : isWordPart '"' = false) (by decide)
    rw [atom_of_quoted default (Nat.zero_le _) hspan.isQuote hspan.text] at hvalue
    exact absurd (Except.ok.inj hvalue) (Option.some_ne_none _)
  · intro h
    have hspan : IsListSpan "1] [2".toList (trim "[1] [2]".toList) :=
      ⟨by decide, ['1'], " [2".toList, rfl, rfl, rfl⟩
    have hstring : ∀ quote content, ¬ IsStringLiteral quote content (trim "[1] [2]".toList) := by
      intro quote content hliteral
      obtain ⟨rfl, -⟩ := List.cons.inj (hspan.text.symm.trans hliteral.text)
      exact absurd hliteral.isQuote (by decide)
    have hword := h default 0 (Nat.zero_le _) rfl hstring hspan.not_literal
    have hvalue : (default : Evaluator).atom 0 "[1] [2]".toList = .ok none :=
      hword.eq_named (by decide : isWordPart '[' = false) (by decide)
    rw [atom_of_bracketed default (Nat.zero_le _) hspan.text] at hvalue
    generalize Evaluation.collect _ = items at hvalue
    cases items with
    | error e => cases hvalue
    | ok items => exact absurd (Except.ok.inj hvalue) (Option.some_ne_none _)

end Evaluator

end FormLogic
