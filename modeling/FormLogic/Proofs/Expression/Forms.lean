import FormLogic.Proofs.Expression.Connective
import FormLogic.Proofs.Expression.Contiguous
import FormLogic.Proofs.Scan.Cut
import FormLogic.Proofs.Text.Trim

/-!
# Texts that have a form

The forms of the grammar are tried from the loosest to the tightest.  A text whose parts avoid
the operators of the looser forms at their top level is missed by these and cut by its own form
at the right place; one lemma for each form.
-/

namespace FormLogic.Shape

open Scan

/-- None of the characters occurs in the text. -/
def Apart (chars cs : List Char) : Prop := ∀ c ∈ chars, c ∉ cs

instance (chars cs : List Char) : Decidable (Apart chars cs) := List.decidableBAll _ chars

/-- None of the characters stands at the top level of the text. -/
def Avoids (chars cs : List Char) : Prop := Apart chars (topText cs)

instance (chars cs : List Char) : Decidable (Avoids chars cs) :=
  inferInstanceAs (Decidable (Apart chars (topText cs)))

namespace Avoids

theorem mono {chars chars' cs : List Char} (h : Avoids chars cs) (hsub : chars' ⊆ chars) :
    Avoids chars' cs := fun c hc => h c (hsub hc)

theorem append {chars a b : List Char} (hclosed : Closed a) (ha : Avoids chars a)
    (hb : Avoids chars b) : Avoids chars (a ++ b) := by
  intro c hc hmem
  rw [topText_append hclosed, List.mem_append] at hmem
  exact hmem.elim (ha c hc) (hb c hc)

theorem append_of_unquoted {chars a b : List Char} (hbalanced : Balance.check a = .ok ())
    (ha : Avoids chars a) (hunquoted : Unquoted b) (hb : Avoids chars b) :
    Avoids chars (a ++ b) := by
  intro c hc hmem
  rw [topText_append_of_unquoted hbalanced hunquoted, List.mem_append] at hmem
  exact hmem.elim (ha c hc) (hb c hc)

/-- Nor does the text begin with one of them. -/
theorem head?_not_mem {chars cs : List Char} (h : Avoids chars cs) (hchars : Plain chars) :
    ∀ c ∈ cs.head?, c ∉ chars :=
  fun c hc hmem => h c hmem (mem_topText_of_head? (hchars c hmem) hc)

theorem of_plain {chars cs : List Char} (hplain : Plain cs) (h : Apart chars cs) :
    Avoids chars cs := by
  rw [Avoids, topText_of_plain hplain]
  exact h

theorem enclosed {o close : Char} (hpair : IsPair o close) {chars cs : List Char}
    (hcs : Balance.check cs = .ok ()) (h : close ∉ chars) :
    Avoids chars (o :: (cs ++ [close])) := by
  intro c hc hmem
  rw [topText_enclosed hpair hcs, List.mem_singleton] at hmem
  exact h (hmem ▸ hc)

end Avoids

/-! ## 1. Blank characters around a part -/

theorem plain_of_blank {cs : List Char} (h : Text.Blank cs) : Plain cs := by
  have hspecial : Text.Visible special := by decide
  exact fun c hc => isPlain_of_not_mem fun hmem => hspecial.not_mem h hmem hc

theorem closed_of_blank {cs : List Char} (h : Text.Blank cs) : Closed cs :=
  Closed.of_plain (plain_of_blank h)

theorem avoids_of_blank {chars cs : List Char} (hchars : Text.Visible chars)
    (h : Text.Blank cs) : Avoids chars cs :=
  Avoids.of_plain (plain_of_blank h) fun _ hc => hchars.not_mem h hc

section Pad

variable {cs before after : List Char}

theorem closed_pad (hb : Text.Blank before) (h : Closed cs) (ha : Text.Blank after) :
    Closed (before ++ (cs ++ after)) :=
  (closed_of_blank hb).append (h.append (closed_of_blank ha))

theorem balanced_pad (hb : Text.Blank before) (h : Balance.check cs = .ok ())
    (ha : Text.Blank after) : Balance.check (before ++ (cs ++ after)) = .ok () :=
  (closed_of_blank hb).balanced_append <|
    balanced_append h (closed_of_blank ha).balanced (unquoted_of_plain (plain_of_blank ha))

theorem avoids_pad {chars : List Char} (hchars : Text.Visible chars)
    (hb : Text.Blank before) (hbalanced : Balance.check cs = .ok ()) (h : Avoids chars cs)
    (ha : Text.Blank after) : Avoids chars (before ++ (cs ++ after)) :=
  (avoids_of_blank hchars hb).append (closed_of_blank hb) <|
    h.append_of_unquoted hbalanced (unquoted_of_plain (plain_of_blank ha))
      (avoids_of_blank hchars ha)

theorem transparent_pad (hb : Text.Blank before) (hclosed : Closed cs) (h : Transparent cs)
    (ha : Text.Blank after) : Transparent (before ++ (cs ++ after)) := by
  have hblank : ∀ {b : List Char}, Text.Blank b → Transparent b := fun hb =>
    Transparent.of_not_mem (avoids_of_blank (by decide : Text.Visible ['?']) hb '?' (by decide))
      (avoids_of_blank (by decide : Text.Visible [':']) hb ':' (by decide))
  exact (hblank hb).append (closed_of_blank hb) (h.append hclosed (hblank ha))

end Pad

theorem balanced_trim {cs : List Char} (h : Balance.check cs = .ok ()) :
    Balance.check (Text.trim cs) = .ok () := by
  obtain ⟨before, after, hb, ha, hcs⟩ := Text.exists_trim cs
  rw [hcs] at h
  exact balanced_of_plain_around (plain_of_blank hb) (plain_of_blank ha) h

theorem balanced_trim_iff {cs : List Char} :
    Balance.check (Text.trim cs) = .ok () ↔ Balance.check cs = .ok () := by
  refine ⟨fun h => ?_, balanced_trim⟩
  obtain ⟨before, after, hb, ha, hcs⟩ := Text.exists_trim cs
  rw [hcs]
  exact balanced_pad hb h ha

theorem topText_trim_subset (cs : List Char) : topText (Text.trim cs) ⊆ topText cs := by
  obtain ⟨before, after, hb, -, hcs⟩ := Text.exists_trim cs
  conv => rhs; rw [hcs]
  exact topText_subset_of_plain_before (plain_of_blank hb)

theorem Avoids.trim {chars cs : List Char} (h : Avoids chars cs) : Avoids chars (Text.trim cs) :=
  fun c hc hmem => h c hc (topText_trim_subset cs hmem)

/-! ## 2. The tail forms -/

theorem enclosed?_eq_some_iff {close : Char} {cs inside : List Char} :
    enclosed? close cs = some inside ↔ cs = inside ++ [close] ∧ inside ≠ [] ∧ '\n' ∉ inside := by
  simp only [enclosed?, Option.bind_eq_bind, Option.bind_eq_some_iff,
    Text.dropLast?_eq_some_iff]
  constructor
  · rintro ⟨found, hcs, h⟩
    split at h
    · simp at h
    · next hno =>
      obtain rfl : found = inside := by simpa using h
      exact ⟨hcs, by simpa using hno⟩
  · rintro ⟨hcs, hne, hno⟩
    exact ⟨inside, hcs, by simp [hne, hno]⟩

/-- A text from whose end a tail form is read ends in the bracket of the form. -/
theorem getLast?_of_enclosed? {close : Char} {cs inside : List Char}
    (h : enclosed? close cs = some inside) : cs.getLast? = some close := by
  obtain ⟨rfl, -⟩ := enclosed?_eq_some_iff.mp h
  exact List.getLast?_concat

theorem getLast?_of_suffix {c : Char} {a b : List Char} (h : a <:+ b)
    (ha : a.getLast? = some c) : b.getLast? = some c := by
  obtain ⟨start, rfl⟩ := h
  simp [List.getLast?_append, ha]

theorem getLast?_of_membershipTail? {cs inside : List Char}
    (h : membershipTail? cs = some inside) : cs.getLast? = some ']' := by
  unfold membershipTail? at h
  split at h
  · next c rest =>
    split at h
    · simp at h
    · split at h
      · next d rest' hp =>
        split at h
        · simp at h
        · split at h
          · next rest'' ht =>
            have hlast := getLast?_of_enclosed? h
            have hsuffix : rest'' <:+ c :: rest := by
              have h1 : rest'' <:+ Text.trimStart rest' := ht ▸ List.suffix_cons '[' rest''
              have h2 : rest' <:+ Text.trimStart rest :=
                (List.suffix_cons d rest').trans (Text.suffix_of_dropPrefix? hp)
              exact h1.trans <| (Text.suffix_trimStart rest').trans <| h2.trans <|
                (Text.suffix_trimStart rest).trans (List.suffix_cons c rest)
            exact getLast?_of_suffix hsuffix hlast
          · simp at h
      · simp at h
  · simp at h

theorem getLast?_of_containmentTail? {cs inside : List Char}
    (h : containmentTail? cs = some inside) : cs.getLast? = some ')' := by
  obtain ⟨rest, hrest, hin⟩ := Option.bind_eq_some_iff.mp h
  exact getLast?_of_suffix (Text.suffix_of_dropPrefix? hrest) (getLast?_of_enclosed? hin)

theorem getLast?_of_beforeTail? {tail? : List Char → Option (List Char)} {close : Char}
    (htail : ∀ {cs inside}, tail? cs = some inside → cs.getLast? = some close)
    {cs before inside : List Char} (h : beforeTail? tail? cs = some (before, inside)) :
    cs.getLast? = some close := by
  induction cs generalizing before with
  | nil => simp [beforeTail?] at h
  | cons c rest ih =>
    simp only [beforeTail?] at h
    split at h
    · simp at h
    · split at h
      · next hin => exact getLast?_of_suffix (List.suffix_cons c rest) (htail hin)
      · obtain ⟨⟨b, i⟩, hb, h⟩ := Option.map_eq_some_iff.mp h
        simp only [Prod.mk.injEq] at h
        obtain ⟨-, rfl⟩ := h
        exact getLast?_of_suffix (List.suffix_cons c rest) (ih hb)

theorem beforeTail?_eq_none {tail? : List Char → Option (List Char)} {close : Char}
    (htail : ∀ {cs inside}, tail? cs = some inside → cs.getLast? = some close)
    {cs : List Char} (h : cs.getLast? ≠ some close) : beforeTail? tail? cs = none := by
  cases hb : beforeTail? tail? cs with
  | none => rfl
  | some found => exact absurd (getLast?_of_beforeTail? htail hb) h

section BeforeTail

variable {tail? : List Char → Option (List Char)} {cs : List Char}

theorem exists_of_beforeTail? {before inside : List Char}
    (h : beforeTail? tail? cs = some (before, inside)) :
    ∃ rest, cs = before ++ rest ∧ before ≠ [] ∧ '\n' ∉ before ∧ tail? rest = some inside := by
  induction cs generalizing before with
  | nil => simp [beforeTail?] at h
  | cons c rest ih =>
    simp only [beforeTail?] at h
    split at h
    · simp at h
    · next hc =>
      split at h
      · next hin =>
        simp only [Option.some.injEq, Prod.mk.injEq] at h
        obtain ⟨rfl, rfl⟩ := h
        exact ⟨rest, rfl, List.cons_ne_nil c [], by simpa using Ne.symm hc, hin⟩
      · obtain ⟨⟨b, i⟩, hb, h⟩ := Option.map_eq_some_iff.mp h
        simp only [Prod.mk.injEq] at h
        obtain ⟨rfl, rfl⟩ := h
        obtain ⟨rest, rfl, -, hno, hrest⟩ := ih hb
        exact ⟨rest, rfl, List.cons_ne_nil c b, by simp [hno, Ne.symm hc], hrest⟩

/-- The search finds the first place of all, or one before it. -/
theorem exists_beforeTail?_of_append {before rest inside : List Char} (hne : before ≠ [])
    (hno : '\n' ∉ before) (h : tail? rest = some inside) :
    ∃ found, beforeTail? tail? (before ++ rest) = some found ∧ found.1 <+: before := by
  induction before with
  | nil => exact absurd rfl hne
  | cons c before ih =>
    obtain ⟨hc, hno⟩ := not_or.mp (mt List.mem_cons.mpr hno)
    simp only [List.cons_append, beforeTail?, if_neg (Ne.symm hc)]
    cases hhere : tail? (before ++ rest) with
    | some inside => exact ⟨_, rfl, by simp⟩
    | none =>
      cases before with
      | nil => simp [h] at hhere
      | cons d before =>
        obtain ⟨found, hfound, hprefix⟩ := ih (List.cons_ne_nil d before) hno
        exact ⟨_, by rw [hfound]; rfl, List.cons_prefix_cons.mpr ⟨rfl, hprefix⟩⟩

/-- **The search finds the first place** at which the tail is read. -/
theorem beforeTail?_append {before rest inside : List Char} (hne : before ≠ [])
    (hno : '\n' ∉ before) (h : tail? rest = some inside)
    (hfirst : ∀ a b, before = a ++ b → a ≠ [] → b ≠ [] → tail? (b ++ rest) = none) :
    beforeTail? tail? (before ++ rest) = some (before, inside) := by
  obtain ⟨⟨value, found⟩, hfound, b, rfl⟩ := exists_beforeTail?_of_append hne hno h
  obtain ⟨rest', htext, hvalue, -, hrest'⟩ := exists_of_beforeTail? hfound
  rw [List.append_assoc, List.append_cancel_left_eq] at htext
  subst htext
  cases b with
  | nil =>
    rw [List.nil_append, h] at hrest'
    simp only at hfound
    rw [hfound, List.append_nil, Option.some.inj hrest']
  | cons c b =>
    rw [hfirst value (c :: b) rfl hvalue (List.cons_ne_nil c b)] at hrest'
    simp at hrest'

end BeforeTail

/-! ## 3. Forms with operators -/

theorem branches?_of_not_mem {o : Char} {os cs : List Char} (h : o ∉ topText cs) :
    branches? (o :: os) cs = none := by
  simp [branches?, split_of_not_mem h]

/-- **A ternary.**  The text after its colon is not looked at. -/
theorem ofText_ternary {c a : List Char} (hc : Closed c) (hcq : '?' ∉ topText c)
    (ha : Closed a) (hta : Transparent a) (b : List Char) :
    ofText (c ++ ('?' :: (a ++ (':' :: b))))
      = .ternary ⟨Text.trim c, Text.trim a, Text.trim b⟩ := by
  simp only [ofText, ternary?_append hc hcq ha hta]

theorem ofText_fallback {a b : List Char} (ha : Closed a) (hta : Avoids [':', '?'] a)
    (htb : Avoids [':', '?'] b) : ofText (a ++ (['?', '?'] ++ b)) = .fallback a b := by
  have hcolon : Avoids [':'] (a ++ (['?', '?'] ++ b)) :=
    (hta.mono (by decide)).append ha (Avoids.append (Closed.of_plain (by decide))
      (Avoids.of_plain (by decide) (by decide)) (htb.mono (by decide)))
  have hsides : sides? ['?', '?'] (a ++ (['?', '?'] ++ b)) = some (a, b) :=
    sides?_append (by decide) ha.balanced (hta '?' (by decide)) (htb '?' (by decide))
  simp only [ofText, ternary?_of_not_mem (hcolon ':' (by decide)), hsides]

/-- The first characters of the operators that bind looser than a connective. -/
def beforeConnective : Connective → List Char
  | .conjunction => [':', '?', '|']
  | .disjunction => [':', '?']

theorem ofText_connective (k : Connective) {cs : List Char} (h : Avoids (beforeConnective k) cs)
    (hcut : 1 < (split k.symbol cs).length) : ofText cs = k.shape (split k.symbol cs) := by
  cases k with
  | conjunction =>
    rw [Connective.symbol] at hcut ⊢
    simp only [ofText, ternary?_of_not_mem (h ':' (by decide)),
      sides?_of_not_mem (h '?' (by decide)), branches?_of_not_mem (h '|' (by decide))]
    simp only [branches?, if_pos hcut, Connective.shape]
  | disjunction =>
    rw [Connective.symbol] at hcut ⊢
    simp only [ofText, ternary?_of_not_mem (h ':' (by decide)),
      sides?_of_not_mem (h '?' (by decide)), branches?, if_pos hcut, Connective.shape]

/-- The operators that bind looser than a negation. -/
def loose : List Char := [':', '?', '|', '&']

/-- The characters that these operators begin with. -/
def branching : List Char := ['?', '|', '&']

/-- What none of the looser forms cuts is a negation, a group, a comparison, a tail form or an
operand. -/
theorem ofText_of_avoids {cs : List Char} (h : Avoids branching cs) :
    ofText cs =
      match negated? cs with
      | some inner => negation inner
      | none =>
      match group? cs with
      | some inner => group inner
      | none =>
      match comparison? cs with
      | some (op, left, right) => comparison op left right
      | none =>
      match beforeTail? membershipTail? cs with
      | some (value, items) => membership (Text.trim value) items
      | none =>
      match beforeTail? containmentTail? cs with
      | some (collection, needle) => containment (Text.trim collection) (Text.trim needle)
      | none => operand := by
  rewrite [ofText, ternary?_of_no_question (h '?' (by decide)),
    sides?_of_not_mem (h '?' (by decide)), branches?_of_not_mem (h '|' (by decide)),
    branches?_of_not_mem (h '&' (by decide))]
  rfl

theorem ofText_negation {cs : List Char} (h : Avoids branching ('!' :: cs))
    (hne : cs.head? ≠ some '=') :
    ofText ('!' :: cs) = .negation ((group? (Text.trim cs)).getD (Text.trim cs)) := by
  have hnegated : negated? ('!' :: cs) = some ((group? (Text.trim cs)).getD (Text.trim cs)) := by
    cases cs with
    | nil => rfl
    | cons c cs =>
      have hc : c ≠ '=' := by simpa using hne
      simp [negated?, hc]
  simp only [ofText_of_avoids h, hnegated]

theorem negated?_of_head_ne {cs : List Char} (h : cs.head? ≠ some '!') : negated? cs = none := by
  unfold negated?
  split
  · simp at h
  · simp at h
  · rfl

theorem ofText_group {cs : List Char} (h : Balance.check cs = .ok ()) :
    ofText ('(' :: (cs ++ [')'])) = .group cs := by
  simp only [ofText_of_avoids (Avoids.enclosed .round h (by decide : ')' ∉ branching)),
    negated?_of_head_ne (by simp : ('(' :: (cs ++ [')'])).head? ≠ some '!'), group?_parens h]

/-! ## 4. Comparisons and operands -/

/-- The characters of the comparison operators. -/
def comparing : List Char := ['=', '!', '<', '>']

/-- No operator occurs in one that is searched for later. -/
theorem exists_before (op : Comparison) :
    ∃ before after, Comparison.all = before ++ op :: after ∧
      ∀ o ∈ before, ¬ o.symbol <:+: op.symbol := by
  cases op with
  | strictEq => exact ⟨[], _, rfl, by decide⟩
  | strictNotEq => exact ⟨[.strictEq], _, rfl, by decide⟩
  | eq => exact ⟨[.strictEq, .strictNotEq], _, rfl, by decide⟩
  | notEq => exact ⟨[.strictEq, .strictNotEq, .eq], _, rfl, by decide⟩
  | ge => exact ⟨[.strictEq, .strictNotEq, .eq, .notEq], _, rfl, by decide⟩
  | le => exact ⟨[.strictEq, .strictNotEq, .eq, .notEq, .ge], _, rfl, by decide⟩
  | gt => exact ⟨[.strictEq, .strictNotEq, .eq, .notEq, .ge, .le], _, rfl, by decide⟩
  | lt => exact ⟨[.strictEq, .strictNotEq, .eq, .notEq, .ge, .le, .gt], _, rfl, by decide⟩

/-- An operator is one of the comparing characters and more of them. -/
theorem exists_symbol (op : Comparison) :
    ∃ o os, op.symbol = o :: os ∧ o :: os ⊆ comparing := by
  cases op <;> exact ⟨_, _, rfl, by decide⟩

theorem plain_symbol (op : Comparison) : Plain op.symbol := by
  cases op <;> decide

theorem symbol_ne_nil (op : Comparison) : op.symbol ≠ [] := by
  cases op <;> decide

/-- **The operator of a comparison is found**, although others share its characters. -/
theorem comparison?_append (op : Comparison) {a b : List Char} (ha : Balance.check a = .ok ())
    (hta : Avoids comparing a) (htb : Avoids comparing b) :
    comparison? (a ++ (op.symbol ++ b)) = some (op, Text.trim a, Text.trim b) := by
  obtain ⟨before, after, hall, hbefore⟩ := exists_before op
  have hb := htb.head?_not_mem (by decide)
  have hmissed : ∀ o ∈ before, sides? o.symbol (a ++ (op.symbol ++ b)) = none := by
    intro other hother
    have hno := hbefore other hother
    obtain ⟨o, os, hsymbol, hos⟩ := exists_symbol other
    rw [hsymbol] at hno ⊢
    have ho : o ∈ comparing := hos List.mem_cons_self
    simp only [sides?, split_of_not_infix ha (hta o ho) (symbol_ne_nil op) (plain_symbol op) hno
      (fun c hc hmem => hb c hc (hos hmem)) (htb o ho)]
  -- the operators before it are missed, so the search comes to it
  have hfound : sides? op.symbol (a ++ (op.symbol ++ b)) = some (a, b) := by
    obtain ⟨o, os, hsymbol, hos⟩ := exists_symbol op
    have ho : o ∈ comparing := hos List.mem_cons_self
    rw [hsymbol]
    exact sides?_append (hsymbol ▸ plain_symbol op) ha (hta o ho) (htb o ho)
  unfold comparison?
  rw [hall, List.findSome?_append, List.findSome?_eq_none_iff.mpr (by simpa using hmissed)]
  simp [hfound]

theorem comparison?_eq_none {cs : List Char} (h : Avoids comparing cs) : comparison? cs = none := by
  unfold comparison?
  rw [List.findSome?_eq_none_iff]
  intro op _
  obtain ⟨o, os, hsymbol, hos⟩ := exists_symbol op
  rw [hsymbol, sides?_of_not_mem (h o (hos List.mem_cons_self))]
  rfl

/-- **A text that can be a side of a comparison**: balanced, not blank, and without the characters
of the looser operators and of comparisons at its top level. -/
structure IsSide (t : List Char) : Prop where
  balanced : Balance.check t = .ok ()
  avoids : Avoids (branching ++ comparing) t
  not_blank : ¬ Text.Blank t

namespace IsSide

variable {t : List Char}

theorem trim_ne_nil (h : IsSide t) : Text.trim t ≠ [] := mt Text.trim_eq_nil_iff.mp h.not_blank

theorem trim (h : IsSide t) : IsSide (Text.trim t) where
  balanced := balanced_trim h.balanced
  avoids := h.avoids.trim
  not_blank hblank := h.trim_ne_nil (by simpa using Text.trim_of_blank hblank)

theorem tight_trim (h : IsSide t) : Text.Tight (Text.trim t) := Text.tight_trim h.trim_ne_nil

/-- No side begins with a character of an operator. -/
theorem head?_not_mem (h : IsSide t) : ∀ c ∈ t.head?, c ∉ comparing := fun c hc hmem =>
  h.avoids.head?_not_mem (by decide) c hc (List.mem_append_right _ hmem)

end IsSide

/-- **Between balanced texts that avoid the operators the comparison is read**, whatever the texts
begin and end with. -/
theorem ofText_comparison (op : Comparison) {a b : List Char} (hne : a ≠ [])
    (ha : Balance.check a = .ok ()) (hta : Avoids (branching ++ comparing) a)
    (htb : Avoids (branching ++ comparing) b) :
    ofText (a ++ (op.symbol ++ b)) = .comparison op (Text.trim a) (Text.trim b) := by
  have hplain := plain_symbol op
  have hunquoted := unquoted_of_plain_append hplain (symbol_ne_nil op) b
  have hbranching : Avoids branching (a ++ (op.symbol ++ b)) := by
    refine (hta.mono (List.subset_append_left ..)).append_of_unquoted ha hunquoted
      (Avoids.append (Closed.of_plain hplain) (Avoids.of_plain hplain ?_)
        (htb.mono (List.subset_append_left ..)))
    cases op <;> decide
  have hbang : (a ++ (op.symbol ++ b)).head? ≠ some '!' := by
    obtain ⟨c, rest, rfl⟩ := List.exists_cons_of_ne_nil hne
    intro hhead
    exact hta.head?_not_mem (by decide) '!' hhead (by decide)
  have hgroup : group? (a ++ (op.symbol ++ b)) = none :=
    group?_append hne ha (List.append_ne_nil_of_left_ne_nil (symbol_ne_nil op) b)
  have hcomparison := comparison?_append op ha (hta.mono (List.subset_append_right ..))
    (htb.mono (List.subset_append_right ..))
  simp only [ofText_of_avoids hbranching, negated?_of_head_ne hbang, hgroup, hcomparison]

/-- Without an operator, and with no round bracket at its end, a text is a membership or an
operand. -/
theorem ofText_of_no_operator {cs : List Char} (h : Avoids (branching ++ comparing) cs)
    (hbang : cs.head? ≠ some '!') (hparen : cs.head? ≠ some '(')
    (hround : cs.getLast? ≠ some ')') :
    ofText cs =
      match beforeTail? membershipTail? cs with
      | some (value, items) => membership (Text.trim value) items
      | none => operand := by
  rewrite [ofText_of_avoids (h.mono (List.subset_append_left ..)), negated?_of_head_ne hbang,
    group?_of_head_ne hparen, comparison?_eq_none (h.mono (List.subset_append_right ..)),
    beforeTail?_eq_none getLast?_of_containmentTail? hround]
  rfl

/-- **What is left is an operand**: no operator, no group, and no bracket at the end. -/
theorem ofText_operand {cs : List Char} (h : Avoids (branching ++ comparing) cs)
    (hbang : cs.head? ≠ some '!') (hparen : cs.head? ≠ some '(')
    (hsquare : cs.getLast? ≠ some ']') (hround : cs.getLast? ≠ some ')') :
    ofText cs = .operand := by
  rw [ofText_of_no_operator h hbang hparen hround,
    beforeTail?_eq_none getLast?_of_membershipTail? hsquare]

end FormLogic.Shape
