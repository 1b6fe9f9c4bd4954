import FormLogic.Proofs.Scan.Frame
import FormLogic.Proofs.Text.Trim

/-!
# The grammar of balanced text

Balanced text is a sequence of ordinary characters, string literals and bracketed groups
(`Balanced`).  A beginning of such a text leaves some brackets open, and perhaps a string literal
(`LeavesOpen`); everything that can be left open can be closed again, so a text is beyond repair
(`Dead`) only behind a closing bracket that does not fit.

The balance check is a run with a stack over the text.  What the stack holds is what the grammar
says is left open (`leavesOpen_iff`), so the check accepts what the grammar derives, blames the
first character behind which nothing can be repaired, and otherwise names what is left open
(`reason_iff`).
-/

namespace FormLogic.Scan

/-! ## 1. The grammar -/

def isBracket (c : Char) : Bool := c == '(' || c == '[' || c == ')' || c == ']'

/-- **The inside of a string literal**: in it, its quote stands right behind backslashes only. -/
def IsContent (quote : Char) (content : List Char) : Prop :=
  ∀ a b, content = a ++ quote :: b → escapedAfter false a = true

/-- **The grammar of balanced text.**  `escaped` says that a backslash stands right before the
text: a quote right behind one is an ordinary character. -/
inductive Balanced : Bool → List Char → Prop where
  | empty (escaped : Bool) : Balanced escaped []
  | ordinary {escaped : Bool} {c : Char} {cs : List Char} :
      isBracket c = false → (isQuote c && !escaped) = false → Balanced (c == '\\') cs →
      Balanced escaped (c :: cs)
  | literal {quote : Char} {content cs : List Char} :
      isQuote quote = true → IsContent quote content → escapedAfter false content = false →
      Balanced false cs → Balanced false (quote :: (content ++ quote :: cs))
  | group {escaped : Bool} {o c : Char} {inside cs : List Char} :
      IsPair o c → Balanced false inside → Balanced false cs →
      Balanced escaped (o :: (inside ++ c :: cs))

/-- **What the beginning of a text leaves open**: brackets with balanced text behind each, and
perhaps a string literal that it ends in. -/
inductive LeavesOpen : Balance.State → List Char → Prop where
  | nothing {cs : List Char} : Balanced false cs → LeavesOpen ⟨[], none⟩ cs
  | bracket {stack before inside : List Char} {o c : Char} :
      LeavesOpen ⟨stack, none⟩ before → IsPair o c → Balanced false inside →
      LeavesOpen ⟨o :: stack, none⟩ (before ++ o :: inside)
  | literal {stack before content : List Char} {quote : Char} :
      LeavesOpen ⟨stack, none⟩ before → escapedAfter false before = false →
      isQuote quote = true → IsContent quote content →
      LeavesOpen ⟨stack, some quote⟩ (before ++ quote :: content)

/-- **A text that no balanced text begins with.** -/
def Dead (cs : List Char) : Prop := ∀ more, ¬ Balanced false (cs ++ more)

/-- The shortest beginning of a text that no balanced text begins with. -/
structure IsShortestDead (cs p : List Char) : Prop where
  start : p <+: cs
  dead : Dead p
  shortest : ∀ q, q <+: cs → Dead q → p.length ≤ q.length

/-! ## 2. Text behind text -/

theorem isQuote_ne_backslash {c : Char} (h : isQuote c = true) : (c == '\\') = false := by
  rcases eq_of_isQuote h with rfl | rfl <;> decide

theorem IsPair.ne_backslash {o c : Char} (h : IsPair o c) :
    (o == '\\') = false ∧ (c == '\\') = false := by
  cases h <;> decide

theorem IsContent.nil (quote : Char) : IsContent quote [] := by
  intro a b h
  simp at h

theorem IsContent.snoc {quote c : Char} {content : List Char} (h : IsContent quote content)
    (hc : c = quote → escapedAfter false content = true) : IsContent quote (content ++ [c]) := by
  intro a b heq
  rcases List.eq_nil_or_concat b with rfl | ⟨b', d, rfl⟩
  · obtain ⟨rfl, hlast⟩ := List.append_inj' heq rfl
    exact hc (List.cons.inj hlast).1
  · rw [List.concat_eq_append, ← List.cons_append, ← List.append_assoc] at heq
    exact h a b' (List.append_inj' heq rfl).1

namespace Balanced

theorem append {escaped : Bool} {a b : List Char} (ha : Balanced escaped a)
    (hb : Balanced (escapedAfter escaped a) b) : Balanced escaped (a ++ b) := by
  induction ha with
  | empty => exact hb
  | ordinary hbracket hquote _ ih => exact .ordinary hbracket hquote (ih hb)
  | literal hquote hcontent hend _ ih =>
    rw [List.cons_append, List.append_assoc, List.cons_append]
    refine .literal hquote hcontent hend (ih ?_)
    simpa [escapedAfter, isQuote_ne_backslash hquote] using hb
  | group hpair hinside _ _ ih =>
    rw [List.cons_append, List.append_assoc, List.cons_append]
    refine .group hpair hinside (ih ?_)
    simpa [escapedAfter, hpair.ne_backslash] using hb

end Balanced

namespace LeavesOpen

variable {stack before more : List Char}

/-- Balanced text behind a text changes nothing about what is left open. -/
theorem append (h : LeavesOpen ⟨stack, none⟩ before)
    (hmore : Balanced (escapedAfter false before) more) :
    LeavesOpen ⟨stack, none⟩ (before ++ more) := by
  cases h with
  | nothing hcs => exact .nothing (hcs.append hmore)
  | bracket hbefore hpair hinside =>
    rw [List.append_assoc, List.cons_append]
    refine .bracket hbefore hpair (hinside.append ?_)
    simpa [escapedAfter, hpair.ne_backslash.1] using hmore

/-- The innermost bracket is closed. -/
theorem close {o c : Char} (h : LeavesOpen ⟨o :: stack, none⟩ before) (hpair : IsPair o c) :
    LeavesOpen ⟨stack, none⟩ (before ++ [c]) := by
  cases h with
  | bracket hbefore _ hinside =>
    rw [List.append_assoc, List.cons_append]
    exact hbefore.append (.group hpair hinside (.empty _))

/-- The string literal is closed. -/
theorem closeLiteral {quote : Char} (h : LeavesOpen ⟨stack, some quote⟩ before)
    (hend : escapedAfter false before = false) : LeavesOpen ⟨stack, none⟩ (before ++ [quote]) := by
  cases h with
  | literal hbefore hunescaped hquote hcontent =>
    have hcontentEnd := hend
    simp only [escapedAfter_append, escapedAfter, isQuote_ne_backslash hquote] at hcontentEnd
    rw [List.append_assoc, List.cons_append]
    refine hbefore.append ?_
    rw [hunescaped]
    exact .literal hquote hcontent hcontentEnd (.empty _)

/-- The string literal goes on. -/
theorem goOn {quote c : Char} (h : LeavesOpen ⟨stack, some quote⟩ before)
    (hc : c = quote → escapedAfter false before = true) :
    LeavesOpen ⟨stack, some quote⟩ (before ++ [c]) := by
  cases h with
  | literal hbefore hunescaped hquote hcontent =>
    rw [List.append_assoc, List.cons_append]
    refine .literal hbefore hunescaped hquote (hcontent.snoc ?_)
    simpa [escapedAfter, isQuote_ne_backslash hquote] using hc

theorem exists_pair {o : Char} (h : LeavesOpen ⟨o :: stack, none⟩ before) : ∃ c, IsPair o c := by
  cases h with
  | bracket _ hpair _ => exact ⟨_, hpair⟩

theorem isQuote {quote : Char} (h : LeavesOpen ⟨stack, some quote⟩ before) :
    isQuote quote = true := by
  cases h with
  | literal _ _ hquote _ => exact hquote

theorem exists_balanced_of_brackets (h : LeavesOpen ⟨stack, none⟩ before) :
    ∃ more, Balanced false (before ++ more) := by
  induction stack generalizing before with
  | nil =>
    cases h with
    | nothing hbefore => exact ⟨[], by simpa using hbefore⟩
  | cons o stack ih =>
    obtain ⟨c, hpair⟩ := h.exists_pair
    obtain ⟨more, hmore⟩ := ih (h.close hpair)
    exact ⟨c :: more, by simpa using hmore⟩

/-- **Whatever is left open can be closed.** -/
theorem exists_balanced {s : Balance.State} {cs : List Char} (h : LeavesOpen s cs) :
    ∃ more, Balanced false (cs ++ more) := by
  obtain ⟨stack, openQuote⟩ := s
  cases openQuote with
  | none => exact h.exists_balanced_of_brackets
  | some quote =>
    -- the text may end in a backslash, behind which the quote would not close the literal
    have hblank : LeavesOpen ⟨stack, some quote⟩ (cs ++ [' ']) := by
      refine h.goOn ?_
      rintro rfl
      exact absurd h.isQuote (by decide)
    have hclosed := hblank.closeLiteral (by simp [escapedAfter])
    obtain ⟨more, hmore⟩ := hclosed.exists_balanced_of_brackets
    exact ⟨' ' :: quote :: more, by simpa using hmore⟩

end LeavesOpen

/-! ## 3. The run over what the grammar derives -/

namespace Balance.State

variable {stack : List Char} {escaped : Bool}

theorem step?_ordinary {c : Char} (hbracket : isBracket c = false)
    (hquote : (isQuote c && !escaped) = false) :
    step? ⟨stack, none⟩ escaped c = some ⟨stack, none⟩ := by
  simp only [isBracket, Bool.or_eq_false_iff] at hbracket
  obtain ⟨⟨⟨h1, h2⟩, h3⟩, h4⟩ := hbracket
  simp [step?, hquote, h1, h2, h3, h4]

theorem step?_quote {quote : Char} (h : isQuote quote = true) (openQuote : Option Char) :
    step? ⟨stack, openQuote⟩ false quote = some ⟨stack, toggle openQuote quote⟩ := by
  simp [step?, h]

theorem step?_content {quote c : Char} (h : c = quote → escaped = true) :
    step? ⟨stack, some quote⟩ escaped c = some ⟨stack, some quote⟩ := by
  by_cases hquote : (isQuote c && !escaped) = true
  · have hne : quote ≠ c := by
      rintro rfl
      simp [h rfl] at hquote
    simp [step?, hquote, toggle, hne]
  · simp [step?, hquote]

theorem step?_open {o c : Char} (h : IsPair o c) :
    step? ⟨stack, none⟩ escaped o = some ⟨o :: stack, none⟩ := by
  cases h <;> rfl

theorem step?_close {o c : Char} (h : IsPair o c) :
    step? ⟨o :: stack, none⟩ escaped c = some ⟨stack, none⟩ := by
  cases h <;> rfl

theorem run?_content {quote : Char} {content : List Char}
    (h : ∀ a b, content = a ++ quote :: b → escapedAfter escaped a = true) :
    run? ⟨stack, some quote⟩ escaped content = some ⟨stack, some quote⟩ := by
  induction content generalizing escaped with
  | nil => rfl
  | cons c content ih =>
    have hc : c = quote → escaped = true := by
      rintro rfl
      exact h [] content rfl
    rw [run?, step?_content hc, Option.bind_some]
    refine ih fun a b heq => ?_
    exact h (c :: a) b (by rw [heq]; rfl)

end Balance.State

/-- Balanced text leaves the stack as it finds it. -/
theorem Balanced.run?_eq {escaped : Bool} {cs : List Char} (h : Balanced escaped cs)
    (stack : List Char) :
    Balance.State.run? ⟨stack, none⟩ escaped cs = some ⟨stack, none⟩ := by
  induction h generalizing stack with
  | empty => rfl
  | ordinary hbracket hquote _ ih =>
    rw [Balance.State.run?, Balance.State.step?_ordinary hbracket hquote, Option.bind_some, ih]
  | @literal quote content cs hquote hcontent hend _ ih =>
    have hclose : Balance.State.step? ⟨stack, some quote⟩ false quote = some ⟨stack, none⟩ := by
      rw [Balance.State.step?_quote hquote, toggle, if_pos rfl]
    have hunescaped := isQuote_ne_backslash hquote
    rw [Balance.State.run?, Balance.State.step?_quote hquote, Option.bind_some, hunescaped,
      Balance.State.run?_append, toggle, Balance.State.run?_content hcontent, Option.bind_some,
      hend, Balance.State.run?, hclose, Option.bind_some, hunescaped, ih]
  | group hpair _ _ ihinside ih =>
    rw [Balance.State.run?, Balance.State.step?_open hpair, Option.bind_some,
      hpair.ne_backslash.1, Balance.State.run?_append, ihinside, Option.bind_some,
      Balance.State.run?, Balance.State.step?_close hpair, Option.bind_some,
      hpair.ne_backslash.2, ih]

theorem LeavesOpen.run?_eq {s : Balance.State} {cs : List Char} (h : LeavesOpen s cs) :
    Balance.State.start.run? false cs = some s := by
  induction h with
  | nothing hcs => exact hcs.run?_eq []
  | bracket _ hpair hinside ih =>
    rw [Balance.State.run?_append, ih, Option.bind_some, Balance.State.run?,
      Balance.State.step?_open hpair, Option.bind_some, hpair.ne_backslash.1, hinside.run?_eq]
  | literal _ hunescaped hquote hcontent ih =>
    rw [Balance.State.run?_append, ih, Option.bind_some, hunescaped, Balance.State.run?,
      Balance.State.step?_quote hquote, Option.bind_some, isQuote_ne_backslash hquote,
      toggle, Balance.State.run?_content hcontent]

/-! ## 4. The grammar of what is run over -/

theorem isPair_opening {c : Char} (h : (c == ')' || c == ']') = true) :
    IsPair (Balance.opening c) c := by
  rcases (by simpa using h : c = ')' ∨ c = ']') with rfl | rfl
  · exact .round
  · exact .square

theorem exists_isPair {o : Char} (h : (o == '(' || o == '[') = true) : ∃ c, IsPair o c := by
  rcases (by simpa using h : o = '(' ∨ o = '[') with rfl | rfl
  · exact ⟨')', .round⟩
  · exact ⟨']', .square⟩

/-- **A step of the check follows the grammar.** -/
theorem LeavesOpen.step {s next : Balance.State} {cs : List Char} {c : Char} (h : LeavesOpen s cs)
    (hstep : s.step? (escapedAfter false cs) c = some next) : LeavesOpen next (cs ++ [c]) := by
  obtain ⟨stack, openQuote⟩ := s
  rcases Balance.State.step?_cases hstep with ⟨hq, rfl⟩ | ⟨hq, hs, rfl⟩ | ⟨hq, hs, ho, rfl⟩ |
    ⟨hq, hs, ho, hc, hstack, hquote⟩ | ⟨hq, hs, ho, hc, rfl⟩
  · obtain ⟨hquote, hunescaped⟩ : Scan.isQuote c = true ∧ escapedAfter false cs = false := by
      simpa using hq
    cases openQuote with
    | none => exact .literal h hunescaped hquote (IsContent.nil c)
    | some quote =>
      by_cases hsame : quote = c
      · subst hsame
        simpa [toggle] using h.closeLiteral hunescaped
      · simpa [toggle, hsame] using h.goOn fun heq => absurd heq.symm hsame
  · obtain ⟨quote, rfl⟩ := Option.isSome_iff_exists.mp hs
    refine h.goOn ?_
    rintro rfl
    simpa [h.isQuote] using hq
  · obtain rfl : openQuote = none := hs
    obtain ⟨c', hpair⟩ := exists_isPair ho
    exact .bracket h hpair (.empty false)
  · obtain ⟨rest, nextQuote⟩ := next
    obtain rfl : openQuote = none := hs
    obtain rfl : nextQuote = none := hquote
    obtain rfl : stack = Balance.opening c :: rest := hstack
    exact h.close (isPair_opening hc)
  · obtain rfl : openQuote = none := hs
    have hbracket : isBracket c = false := by
      simp only [Bool.or_eq_false_iff] at ho hc
      simp [isBracket, ho, hc]
    exact h.append (.ordinary hbracket hq (.empty _))

theorem LeavesOpen.run {s last : Balance.State} {before cs : List Char} (h : LeavesOpen s before)
    (hrun : s.run? (escapedAfter false before) cs = some last) :
    LeavesOpen last (before ++ cs) := by
  induction cs generalizing s before with
  | nil =>
    obtain rfl := Option.some.inj hrun
    simpa using h
  | cons c cs ih =>
    obtain ⟨next, hstep, hrest⟩ := Option.bind_eq_some_iff.mp hrun
    have hnext := ih (h.step hstep) (by simpa [escapedAfter] using hrest)
    simpa using hnext

/-- **What the check holds on its stack is what the grammar says is left open.** -/
theorem leavesOpen_iff {s : Balance.State} {cs : List Char} :
    LeavesOpen s cs ↔ Balance.State.start.run? false cs = some s :=
  ⟨LeavesOpen.run?_eq, fun h => LeavesOpen.run (.nothing (.empty false)) h⟩

/-! ## 5. Dead texts -/

theorem balanced_iff {cs : List Char} : Balanced false cs ↔ Balance.check cs = .ok () := by
  rw [Balance.check_eq_ok_iff]
  refine ⟨fun h => h.run?_eq [], fun h => ?_⟩
  cases leavesOpen_iff.mpr h with
  | nothing hcs => exact hcs

/-- **A text is dead where the run over it stops.** -/
theorem dead_iff {cs : List Char} : Dead cs ↔ Balance.State.start.run? false cs = none := by
  constructor
  · intro hdead
    cases hrun : Balance.State.start.run? false cs with
    | none => rfl
    | some s =>
      obtain ⟨more, hmore⟩ := (leavesOpen_iff.mpr hrun).exists_balanced
      exact absurd hmore (hdead more)
  · intro hrun more hbalanced
    have hwhole := hbalanced.run?_eq []
    have hstop : Balance.State.start.run? false (cs ++ more) = none := by
      rw [Balance.State.run?_append, hrun, Option.bind_none]
    exact absurd (hstop.symm.trans hwhole) nofun

/-- Nothing behind a dead text brings it back. -/
theorem Dead.of_prefix {p cs : List Char} (hp : Dead p) (h : p <+: cs) : Dead cs := by
  obtain ⟨rest, rfl⟩ := h
  intro more hbalanced
  exact hp (rest ++ more) (by rwa [← List.append_assoc])

/-- The shortest dead beginning is a beginning that can be repaired, and one character more. -/
theorem isShortestDead_concat_iff {cs a : List Char} {c : Char} :
    IsShortestDead cs (a ++ [c]) ↔ (∃ b, cs = a ++ c :: b) ∧ ¬ Dead a ∧ Dead (a ++ [c]) := by
  constructor
  · rintro ⟨⟨b, hb⟩, hdead, hshortest⟩
    have hcs : cs = a ++ c :: b := by simp [← hb]
    refine ⟨⟨b, hcs⟩, fun ha => ?_, hdead⟩
    have hle := hshortest a ⟨c :: b, hcs.symm⟩ ha
    rw [List.length_append, List.length_singleton] at hle
    omega
  · rintro ⟨⟨b, rfl⟩, ha, hdead⟩
    refine ⟨⟨b, by simp⟩, hdead, fun q hq hqdead => ?_⟩
    rw [List.length_append, List.length_singleton]
    refine Nat.lt_of_not_le fun hle => ha ?_
    exact hqdead.of_prefix (List.prefix_of_prefix_length_le hq (List.prefix_append a _) hle)

/-! ## 6. What the check blames -/

namespace Balance

variable {s last : State} {escaped : Bool} {offset : Nat} {cs : List Char}

theorem checkFrom_eq_pending (h : s.run? escaped cs = some last) :
    checkFrom s escaped offset cs = last.pending := by
  induction cs generalizing s escaped offset with
  | nil =>
    obtain rfl := Option.some.inj h
    rfl
  | cons c cs ih =>
    obtain ⟨next, hstep, hrest⟩ := Option.bind_eq_some_iff.mp h
    rw [checkFrom, hstep]
    exact ih hrest

theorem exists_unexpected (h : s.run? escaped cs = none) (offset : Nat) :
    ∃ c i, checkFrom s escaped offset cs = .error (.unexpected c i) := by
  induction cs generalizing s escaped offset with
  | nil => exact absurd h nofun
  | cons c cs ih =>
    rw [checkFrom]
    cases hstep : s.step? escaped c with
    | none => exact ⟨c, offset, rfl⟩
    | some next =>
      rw [State.run?, hstep, Option.bind_some] at h
      exact ih h _

theorem State.pending_ne_unexpected (s : State) (c : Char) (i : Nat) :
    s.pending ≠ .error (.unexpected c i) := by
  obtain ⟨stack, openQuote⟩ := s
  cases openQuote <;> cases stack <;> simp [State.pending]

theorem State.pending_eq_unterminated_iff {quote : Char} :
    s.pending = .error (.unterminated quote) ↔ ∃ stack, s = ⟨stack, some quote⟩ := by
  obtain ⟨stack, openQuote⟩ := s
  cases openQuote <;> cases stack <;> simp [State.pending]

theorem State.pending_eq_unclosed_iff {o : Char} :
    s.pending = .error (.unclosed o) ↔ ∃ stack, s = ⟨o :: stack, none⟩ := by
  obtain ⟨stack, openQuote⟩ := s
  cases openQuote <;> cases stack <;> simp [State.pending]

/-- **The character that is blamed is the first one that the run stops at.** -/
theorem checkFrom_eq_unexpected_iff {c : Char} {i : Nat} :
    checkFrom s escaped offset cs = .error (.unexpected c i) ↔
      ∃ a b, cs = a ++ c :: b ∧ i = offset + (String.ofList a).utf8ByteSize ∧
        s.run? escaped a ≠ none ∧ s.run? escaped (a ++ [c]) = none := by
  induction cs generalizing s escaped offset with
  | nil => simp [checkFrom, State.pending_ne_unexpected]
  | cons d cs ih =>
    rw [checkFrom]
    cases hstep : s.step? escaped d with
    | none =>
      simp only [Except.error.injEq, Fault.unexpected.injEq]
      constructor
      · rintro ⟨rfl, rfl⟩
        exact ⟨[], cs, rfl, by simp, by simp [State.run?], by simp [State.run?, hstep]⟩
      · rintro ⟨a, b, hcs, rfl, hgoes, -⟩
        cases a with
        | nil =>
          obtain ⟨rfl, -⟩ := List.cons.inj hcs
          exact ⟨rfl, by simp⟩
        | cons e a =>
          obtain ⟨rfl, -⟩ := List.cons.inj hcs
          exact absurd (by rw [State.run?, hstep]; rfl) hgoes
    | some next =>
      simp only
      rw [ih]
      constructor
      · rintro ⟨a, b, rfl, rfl, hgoes, hstops⟩
        refine ⟨d :: a, b, rfl, ?_, ?_, ?_⟩
        · rw [Text.utf8ByteSize_cons]
          omega
        · rwa [State.run?, hstep, Option.bind_some]
        · rwa [List.cons_append, State.run?, hstep, Option.bind_some]
      · rintro ⟨a, b, hcs, rfl, hgoes, hstops⟩
        cases a with
        | nil =>
          obtain ⟨rfl, -⟩ := List.cons.inj hcs
          simp [State.run?, hstep] at hstops
        | cons e a =>
          obtain ⟨rfl, rfl⟩ := List.cons.inj hcs
          rw [List.cons_append, State.run?, hstep, Option.bind_some] at hstops
          rw [State.run?, hstep, Option.bind_some] at hgoes
          refine ⟨a, b, rfl, ?_, hgoes, hstops⟩
          rw [Text.utf8ByteSize_cons]
          omega

end Balance

/-- **What a fault says about a text**, in the words of the grammar. -/
def Blames (cs : List Char) : Fault → Prop
  | .unexpected c i => ∃ a, IsShortestDead cs (a ++ [c]) ∧ i = (String.ofList a).utf8ByteSize
  | .unterminated quote => ∃ stack, LeavesOpen ⟨stack, some quote⟩ cs
  | .unclosed o => ∃ stack, LeavesOpen ⟨o :: stack, none⟩ cs

/-- Without a character to blame, the check names what is left open. -/
theorem check_eq_pending_iff {cs : List Char} {fault : Fault}
    (h : ∀ c i, fault ≠ .unexpected c i) :
    Balance.check cs = .error fault ↔ ∃ s, s.pending = .error fault ∧ LeavesOpen s cs := by
  simp only [leavesOpen_iff]
  cases hrun : Balance.State.start.run? false cs with
  | none =>
    obtain ⟨c, i, hcheck⟩ := Balance.exists_unexpected hrun 0
    simp [Balance.check, hcheck, (h c i).symm]
  | some last => simp [Balance.check, Balance.checkFrom_eq_pending hrun]

theorem check_eq_error_iff {cs : List Char} {fault : Fault} :
    Balance.check cs = .error fault ↔ Blames cs fault := by
  cases fault with
  | unexpected c i =>
    rw [Balance.check, Balance.checkFrom_eq_unexpected_iff, Blames]
    simp only [isShortestDead_concat_iff, dead_iff, Nat.zero_add, ne_eq]
    constructor
    · rintro ⟨a, b, hcs, hi, hgoes, hstops⟩
      exact ⟨a, ⟨⟨b, hcs⟩, hgoes, hstops⟩, hi⟩
    · rintro ⟨a, ⟨⟨b, hcs⟩, hgoes, hstops⟩, hi⟩
      exact ⟨a, b, hcs, hi, hgoes, hstops⟩
  | unterminated quote =>
    rw [check_eq_pending_iff (by simp), Blames]
    simp only [Balance.State.pending_eq_unterminated_iff]
    constructor
    · rintro ⟨s, ⟨stack, rfl⟩, hs⟩
      exact ⟨stack, hs⟩
    · rintro ⟨stack, hs⟩
      exact ⟨_, ⟨stack, rfl⟩, hs⟩
  | unclosed o =>
    rw [check_eq_pending_iff (by simp), Blames]
    simp only [Balance.State.pending_eq_unclosed_iff]
    constructor
    · rintro ⟨s, ⟨stack, rfl⟩, hs⟩
      exact ⟨stack, hs⟩
    · rintro ⟨stack, hs⟩
      exact ⟨_, ⟨stack, rfl⟩, hs⟩

/-- The reason that is given against a text. -/
def reason (cs : List Char) : Except String Unit := (Balance.check cs).mapError Fault.message

/-- The reason against a text with a closing bracket that does not fit. -/
def unexpectedAt (c : Char) (offset : Nat) : String :=
  "unexpected '" ++ c.toString ++ "' at offset " ++ toString offset

/-- The text of a fault tells the fault. -/
theorem Fault.eq_of_message_eq {f g : Fault} (h : f.message = g.message) : f = g := by
  have hchars := congrArg String.toList h
  unfold Fault.message at hchars
  cases f <;> cases g <;> simp at hchars
  case unexpected.unexpected =>
    obtain ⟨rfl, hdigits⟩ := hchars
    have hoffset := congrArg (Nat.ofDigitChars 10 · 0) hdigits
    simp only [Nat.ofDigitChars_ten_toDigits] at hoffset
    rw [hoffset]
  case unterminated.unterminated => rw [hchars]
  case unclosed.unclosed => rw [hchars]

theorem reason_of_ok {cs : List Char} (h : Balance.check cs = .ok ()) : reason cs = .ok () := by
  rw [reason, h]
  rfl

theorem reason_of_error {cs : List Char} {fault : Fault} (h : Balance.check cs = .error fault) :
    reason cs = .error fault.message := by
  rw [reason, h]
  rfl

theorem reason_eq_error_iff (cs : List Char) (fault : Fault) :
    reason cs = .error fault.message ↔ Blames cs fault := by
  rw [← check_eq_error_iff]
  cases hcheck : Balance.check cs with
  | ok => simp [reason_of_ok hcheck]
  | error f =>
    rw [reason_of_error hcheck, Except.error.injEq, Except.error.injEq]
    exact ⟨Fault.eq_of_message_eq, congrArg Fault.message⟩

/-- **The check accepts its grammar and blames the right place.**  The reason against a text is the
closing bracket behind which no balanced text begins as this one does, the first there is; else,
the string literal that the text ends in; else, the innermost bracket that is left open. -/
theorem reason_iff (cs : List Char) :
    (reason cs = .ok () ↔ Balanced false cs) ∧
    ((∃ c i, reason cs = .error (unexpectedAt c i)) ↔ ∃ p, p <+: cs ∧ Dead p) ∧
    (∀ c i, reason cs = .error (unexpectedAt c i) ↔
      ∃ a, IsShortestDead cs (a ++ [c]) ∧ i = (String.ofList a).utf8ByteSize) ∧
    (∀ quote, reason cs = .error ("unterminated " ++ quote.toString ++ " string literal") ↔
      ∃ stack, LeavesOpen ⟨stack, some quote⟩ cs) ∧
    (∀ o, reason cs = .error ("unclosed '" ++ o.toString ++ "'") ↔
      ∃ stack, LeavesOpen ⟨o :: stack, none⟩ cs) := by
  have hunexpected : ∀ c i, reason cs = .error (unexpectedAt c i) ↔
      ∃ a, IsShortestDead cs (a ++ [c]) ∧ i = (String.ofList a).utf8ByteSize :=
    fun c i => reason_eq_error_iff cs (.unexpected c i)
  refine ⟨?_, ⟨?_, ?_⟩, hunexpected, fun quote => reason_eq_error_iff cs (.unterminated quote),
    fun o => reason_eq_error_iff cs (.unclosed o)⟩
  · rw [balanced_iff]
    cases hcheck : Balance.check cs with
    | ok => simp [reason_of_ok hcheck]
    | error fault => simp [reason_of_error hcheck]
  · rintro ⟨c, i, hreason⟩
    obtain ⟨a, ha, -⟩ := (hunexpected c i).mp hreason
    exact ⟨a ++ [c], ha.start, ha.dead⟩
  · rintro ⟨p, hp, hdead⟩
    obtain ⟨c, i, hcheck⟩ := Balance.exists_unexpected (dead_iff.mp (hdead.of_prefix hp)) 0
    exact ⟨c, i, reason_of_error hcheck⟩

/-- Offsets are counted in bytes. -/
example : reason "é(]".toList = .error "unexpected ']' at offset 3" := rfl

end FormLogic.Scan
