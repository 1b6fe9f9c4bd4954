import FormLogic.Scan.Balance

/-!
# What balanced text does to the scanner

The balance check and the scanner walk a text side by side: the scanner's depth is the size of
the stack of open brackets.  Balanced text leaves a stack as it finds it and never reaches below
it, so inside a bracket it is at the top level nowhere.  `Closed` text can moreover be followed
by anything: the scanner goes on as though the text began there, and the characters that stand
at the top level (`topText`) of a joined text are those of its parts.  Balanced text that is not
closed ends in a backslash, and may be followed by anything but a quote (`balanced_append`).
-/

namespace FormLogic.Scan

/-! ## 1. Text after text -/

/-- Whether a backslash stands right before what follows a text. -/
def escapedAfter (escaped : Bool) : List Char → Bool
  | [] => escaped
  | c :: cs => escapedAfter (c == '\\') cs

@[simp] theorem escapedAfter_append (escaped : Bool) (a b : List Char) :
    escapedAfter escaped (a ++ b) = escapedAfter (escapedAfter escaped a) b := by
  induction a generalizing escaped with
  | nil => rfl
  | cons c a ih => exact ih (c == '\\')

theorem marksFrom_append (s : State) (escaped : Bool) (a b : List Char) :
    marksFrom s escaped (a ++ b)
      = marksFrom s escaped a ++ marksFrom (s.run escaped a) (escapedAfter escaped a) b := by
  induction a generalizing s escaped with
  | nil => rfl
  | cons c a ih =>
    simp only [List.cons_append, marksFrom, ih]
    rfl

theorem State.run_append (s : State) (escaped : Bool) (a b : List Char) :
    s.run escaped (a ++ b) = (s.run escaped a).run (escapedAfter escaped a) b := by
  induction a generalizing s escaped with
  | nil => rfl
  | cons c a ih => exact ih (s.step escaped c) (c == '\\')

/-- A character that means nothing to the scanner: no quote, no bracket and no backslash. -/
def isPlain (c : Char) : Bool :=
  !(isQuote c || c == '(' || c == '[' || c == ')' || c == ']' || c == '\\')

/-- Text that means nothing to the scanner. -/
def Plain (cs : List Char) : Prop := ∀ c ∈ cs, isPlain c = true

instance (cs : List Char) : Decidable (Plain cs) := List.decidableBAll _ cs

/-- The characters that mean something to the scanner. -/
def special : List Char := ['"', '\'', '(', '[', ')', ']', '\\']

theorem isPlain_of_not_mem {c : Char} (h : c ∉ special) : isPlain c = true := by
  cases hp : isPlain c with
  | true => rfl
  | false =>
    simp only [isPlain, isQuote, Bool.not_eq_false', Bool.or_eq_true, beq_iff_eq] at hp
    rcases hp with (((((rfl | rfl) | rfl) | rfl) | rfl) | rfl) | rfl <;> exact absurd (by decide) h

/-- All that a plain character is not. -/
theorem isPlain_eq {c : Char} (h : isPlain c = true) :
    isQuote c = false ∧ (c == '(') = false ∧ (c == '[') = false ∧ (c == ')') = false ∧
      (c == ']') = false ∧ (c == '\\') = false := by
  simp only [isPlain, Bool.not_eq_true', Bool.or_eq_false_iff] at h
  obtain ⟨⟨⟨⟨⟨hq, h1⟩, h2⟩, h3⟩, h4⟩, h5⟩ := h
  exact ⟨hq, h1, h2, h3, h4, h5⟩

theorem isPlain_ne_backslash {c : Char} (h : isPlain c = true) : (c == '\\') = false :=
  (isPlain_eq h).2.2.2.2.2

theorem State.step_of_plain {c : Char} (h : isPlain c = true) (depth : Int) (escaped : Bool) :
    State.step ⟨depth, none⟩ escaped c = ⟨depth, none⟩ := by
  obtain ⟨hq, h1, h2, h3, h4, -⟩ := isPlain_eq h
  simp [State.step, hq, h1, h2, h3, h4]

theorem State.run_of_plain {cs : List Char} (h : Plain cs) (depth : Int) (escaped : Bool) :
    State.run ⟨depth, none⟩ escaped cs = ⟨depth, none⟩ := by
  induction cs generalizing escaped with
  | nil => rfl
  | cons c cs ih =>
    rw [State.run, State.step_of_plain (h c List.mem_cons_self)]
    exact ih (fun d hd => h d (List.mem_cons_of_mem _ hd)) _

theorem escapedAfter_of_plain {cs : List Char} (h : Plain cs) : escapedAfter false cs = false := by
  induction cs with
  | nil => rfl
  | cons c cs ih =>
    rw [escapedAfter, isPlain_ne_backslash (h c List.mem_cons_self)]
    exact ih fun d hd => h d (List.mem_cons_of_mem _ hd)

theorem eq_of_isQuote {c : Char} (h : isQuote c = true) : c = '"' ∨ c = '\'' := by
  simpa [isQuote] using h

/-! ## 2. The balance check as a run -/

namespace Balance

/-- The state after a whole text; `none` when a closing bracket does not fit. -/
def State.run? (s : State) (escaped : Bool) : List Char → Option State
  | [] => some s
  | c :: cs => (s.step? escaped c).bind fun next => next.run? (c == '\\') cs

theorem State.run?_append (s : State) (escaped : Bool) (a b : List Char) :
    s.run? escaped (a ++ b)
      = (s.run? escaped a).bind fun next => next.run? (escapedAfter escaped a) b := by
  induction a generalizing s escaped with
  | nil => rfl
  | cons c a ih =>
    simp only [List.cons_append, State.run?]
    cases s.step? escaped c with
    | none => rfl
    | some next => exact ih next (c == '\\')

theorem checkFrom_eq_ok_iff (s : State) (escaped : Bool) (offset : Nat) (cs : List Char) :
    checkFrom s escaped offset cs = .ok () ↔ s.run? escaped cs = some .start := by
  induction cs generalizing s escaped offset with
  | nil =>
    obtain ⟨stack, quote⟩ := s
    cases quote <;> cases stack <;> simp [checkFrom, State.run?, State.pending, State.start]
  | cons c cs ih =>
    simp only [checkFrom, State.run?]
    cases s.step? escaped c with
    | none => simp
    | some next => simpa using ih next (c == '\\') (offset + c.utf8Size)

/-- A text is balanced when the run over it ends as it began. -/
theorem check_eq_ok_iff {cs : List Char} :
    check cs = .ok () ↔ State.start.run? false cs = some .start :=
  checkFrom_eq_ok_iff ..

theorem State.step?_of_plain {c : Char} (h : isPlain c = true) (s : State) (escaped : Bool) :
    s.step? escaped c = some s := by
  obtain ⟨hq, h1, h2, h3, h4, -⟩ := isPlain_eq h
  simp [State.step?, hq, h1, h2, h3, h4]

/-- Plain text changes nothing, whatever is open. -/
theorem State.run?_of_plain {cs : List Char} (h : Plain cs) (s : State) (escaped : Bool) :
    s.run? escaped cs = some s := by
  induction cs generalizing escaped with
  | nil => rfl
  | cons c cs ih =>
    rw [State.run?, State.step?_of_plain (h c List.mem_cons_self), Option.bind_some]
    exact ih (fun d hd => h d (List.mem_cons_of_mem _ hd)) _

/-- **All that one step of the check can do.** -/
theorem State.step?_cases {s next : State} {escaped : Bool} {c : Char}
    (h : s.step? escaped c = some next) :
    ((isQuote c && !escaped) = true ∧ next = ⟨s.stack, toggle s.quote c⟩) ∨
    ((isQuote c && !escaped) = false ∧ s.quote.isSome = true ∧ next = s) ∨
    ((isQuote c && !escaped) = false ∧ s.quote = none ∧ (c == '(' || c == '[') = true ∧
      next = ⟨c :: s.stack, none⟩) ∨
    ((isQuote c && !escaped) = false ∧ s.quote = none ∧ (c == '(' || c == '[') = false ∧
      (c == ')' || c == ']') = true ∧ s.stack = opening c :: next.stack ∧ next.quote = none) ∨
    ((isQuote c && !escaped) = false ∧ s.quote = none ∧ (c == '(' || c == '[') = false ∧
      (c == ')' || c == ']') = false ∧ next = s) := by
  obtain ⟨stack, quote⟩ := s
  unfold State.step? at h
  cases hq : isQuote c && !escaped with
  | true =>
    rw [if_pos hq] at h
    exact .inl ⟨rfl, (Option.some.inj h).symm⟩
  | false =>
    rw [if_neg (by simp [hq])] at h
    cases quote with
    | some q => exact .inr (.inl ⟨rfl, rfl, (Option.some.inj h).symm⟩)
    | none =>
      rw [if_neg (by simp)] at h
      cases ho : c == '(' || c == '[' with
      | true =>
        rw [if_pos ho] at h
        exact .inr (.inr (.inl ⟨rfl, rfl, rfl, (Option.some.inj h).symm⟩))
      | false =>
        rw [if_neg (by simp [ho])] at h
        cases hc : c == ')' || c == ']' with
        | false =>
          rw [if_neg (by simp [hc])] at h
          exact .inr (.inr (.inr (.inr ⟨rfl, rfl, rfl, rfl, (Option.some.inj h).symm⟩)))
        | true =>
          rw [if_pos hc] at h
          simp only at h
          split at h
          · next top rest =>
            split at h
            · next ht =>
              obtain rfl := Option.some.inj h
              exact .inr (.inr (.inr (.inl ⟨rfl, rfl, rfl, rfl, by rw [ht], rfl⟩)))
            · simp at h
          · simp at h

/-- Brackets that were open before a step stay open. -/
theorem State.step?_frame {s next : State} {escaped : Bool} {c : Char}
    (h : s.step? escaped c = some next) (base : List Char) :
    State.step? ⟨s.stack ++ base, s.quote⟩ escaped c
      = some ⟨next.stack ++ base, next.quote⟩ := by
  rcases State.step?_cases h with ⟨hq, rfl⟩ | ⟨hq, hs, rfl⟩ | ⟨hq, hs, ho, rfl⟩ |
    ⟨hq, hs, ho, hc, hstack, hquote⟩ | ⟨hq, hs, ho, hc, rfl⟩
  · simp [State.step?, hq]
  · simp [State.step?, hq, hs]
  · simp [State.step?, hq, hs, ho]
  · simp [State.step?, hq, hs, ho, hc, hstack, hquote]
  · simp [State.step?, hq, hs, ho, hc]

theorem State.run?_frame {s last : State} {escaped : Bool} {cs : List Char}
    (h : s.run? escaped cs = some last) (base : List Char) :
    State.run? ⟨s.stack ++ base, s.quote⟩ escaped cs
      = some ⟨last.stack ++ base, last.quote⟩ := by
  induction cs generalizing s escaped with
  | nil =>
    obtain rfl := Option.some.inj h
    rfl
  | cons c cs ih =>
    obtain ⟨next, hstep, hrest⟩ := Option.bind_eq_some_iff.mp h
    simp only [State.run?, State.step?_frame hstep base, Option.bind_some]
    exact ih hrest

/-! ## 3. The scanner beside the check -/

/-- The state of the scanner where the check is in this state. -/
def State.scan (s : State) : Scan.State := ⟨s.stack.length, s.quote⟩

/-- **The scanner moves with the check**: its depth is the number of open brackets. -/
theorem State.scan_step {s next : State} {escaped : Bool} {c : Char}
    (h : s.step? escaped c = some next) : s.scan.step escaped c = next.scan := by
  rcases State.step?_cases h with ⟨hq, rfl⟩ | ⟨hq, hs, rfl⟩ | ⟨hq, hs, ho, rfl⟩ |
    ⟨hq, hs, ho, hc, hstack, hquote⟩ | ⟨hq, hs, ho, hc, rfl⟩
  · -- a quote is no bracket, so the depth stays as the stack does
    have hquote : isQuote c = true := by simp_all
    have hopen : (c == '(' || c == '[') = false := by
      rcases eq_of_isQuote hquote with rfl | rfl <;> rfl
    have hclose : (c == ')' || c == ']') = false := by
      rcases eq_of_isQuote hquote with rfl | rfl <;> rfl
    simp only [Scan.State.step, State.scan, hq, if_true, hopen, hclose]
    split
    · rfl
    · next hn => simp_all
  · simp [Scan.State.step, State.scan, hq, hs]
  · simp [Scan.State.step, State.scan, hq, hs, ho]
  · simp [Scan.State.step, State.scan, hq, hs, ho, hc, hstack, hquote]
  · simp [Scan.State.step, State.scan, hq, hs, ho, hc]

theorem State.scan_run {s last : State} {escaped : Bool} {cs : List Char}
    (h : s.run? escaped cs = some last) : s.scan.run escaped cs = last.scan := by
  induction cs generalizing s escaped with
  | nil =>
    obtain rfl := Option.some.inj h
    rfl
  | cons c cs ih =>
    obtain ⟨next, hstep, hrest⟩ := Option.bind_eq_some_iff.mp h
    simp only [Scan.State.run, State.scan_step hstep]
    exact ih hrest

/-- Above open brackets a run is at the top level nowhere. -/
theorem State.not_atTop_of_run? {s last : State} {escaped : Bool} {cs : List Char}
    (h : s.run? escaped cs = some last) {base : List Char} (hbase : base ≠ []) :
    ∀ m ∈ marksFrom (State.scan ⟨s.stack ++ base, s.quote⟩) escaped cs, m.2 = false := by
  induction cs generalizing s escaped with
  | nil => simp [marksFrom]
  | cons c cs ih =>
    obtain ⟨next, hstep, hrest⟩ := Option.bind_eq_some_iff.mp h
    simp only [marksFrom, State.scan_step (State.step?_frame hstep base)]
    intro m hm
    rcases List.mem_cons.mp hm with rfl | hm
    · have := List.length_pos_iff.mpr hbase
      simp only [Scan.State.atTop, State.scan, List.length_append, Bool.and_eq_false_iff,
        beq_eq_false_iff_ne]
      exact .inl (by omega)
    · exact ih hrest m hm

end Balance

/-! ## 4. Closed text -/

/-- A bracket and the one that closes it. -/
inductive IsPair : Char → Char → Prop where
  | round : IsPair '(' ')'
  | square : IsPair '[' ']'

/-- **Text that leaves the scanner as it finds it**: balanced, and not ending in a backslash. -/
structure Closed (cs : List Char) : Prop where
  balanced : Balance.check cs = .ok ()
  unescaped : escapedAfter false cs = false

/-- Balanced text returns to the depth at which it begins. -/
theorem run_of_balanced {cs : List Char} (h : Balance.check cs = .ok ()) (base : List Char) :
    State.run ⟨base.length, none⟩ false cs = ⟨base.length, none⟩ :=
  Balance.State.scan_run (Balance.State.run?_frame (Balance.check_eq_ok_iff.mp h) base)

theorem run_start_of_balanced {cs : List Char} (h : Balance.check cs = .ok ()) :
    State.start.run false cs = .start := run_of_balanced h []

namespace Closed

theorem balanced_append {a b : List Char} (ha : Closed a) (hb : Balance.check b = .ok ()) :
    Balance.check (a ++ b) = .ok () := by
  rw [Balance.check_eq_ok_iff] at hb ⊢
  rw [Balance.State.run?_append, Balance.check_eq_ok_iff.mp ha.balanced, ha.unescaped]
  exact hb

theorem append {a b : List Char} (ha : Closed a) (hb : Closed b) : Closed (a ++ b) := by
  refine ⟨ha.balanced_append hb.balanced, ?_⟩
  rw [escapedAfter_append, ha.unescaped, hb.unescaped]

theorem of_plain {cs : List Char} (h : Plain cs) : Closed cs :=
  ⟨Balance.check_eq_ok_iff.mpr (Balance.State.run?_of_plain h _ _), escapedAfter_of_plain h⟩

/-- **Balanced text in brackets is closed**, whatever it ends in. -/
theorem enclosed {o c : Char} (hpair : IsPair o c) {cs : List Char}
    (h : Balance.check cs = .ok ()) : Closed (o :: (cs ++ [c])) := by
  have hinside := Balance.State.run?_frame (Balance.check_eq_ok_iff.mp h) [o]
  simp only [Balance.State.start, List.nil_append] at hinside
  refine ⟨?_, by cases hpair <;> simp [escapedAfter]⟩
  rw [Balance.check_eq_ok_iff, Balance.State.run?]
  have hopen : Balance.State.start.step? false o = some ⟨[o], none⟩ := by
    cases hpair <;> rfl
  have hclose : ∀ escaped, Balance.State.step? ⟨[o], none⟩ escaped c = some .start := by
    cases hpair <;> decide
  have hunescaped : (o == '\\') = false := by
    cases hpair <;> rfl
  rw [hopen, Option.bind_some, hunescaped, Balance.State.run?_append, hinside, Option.bind_some,
    Balance.State.run?, hclose]
  rfl

theorem run {cs : List Char} (h : Closed cs) : State.start.run false cs = .start :=
  run_start_of_balanced h.balanced

end Closed

/-! ## 5. What stands at the top level -/

theorem marks_append {a : List Char} (ha : Closed a) (b : List Char) :
    marks (a ++ b) = marks a ++ marks b := by
  rw [marks, marksFrom_append, ha.run, ha.unescaped]
  rfl

theorem marks_cons_of_plain {c : Char} (hc : isPlain c = true) (cs : List Char) :
    marks (c :: cs) = (c, true) :: marks cs := by
  have hstep : State.start.step false c = .start := State.step_of_plain hc 0 false
  simp only [marks, marksFrom, hstep, isPlain_ne_backslash hc]
  rfl

theorem marks_of_plain {cs : List Char} (h : Plain cs) :
    marks cs = cs.map fun c => (c, true) := by
  induction cs with
  | nil => rfl
  | cons c cs ih =>
    rw [marks_cons_of_plain (h c List.mem_cons_self),
      ih fun d hd => h d (List.mem_cons_of_mem _ hd)]
    rfl

/-- Inside brackets nothing is at the top level; the closing one is. -/
theorem marks_enclosed {o c : Char} (hpair : IsPair o c) {cs : List Char}
    (h : Balance.check cs = .ok ()) :
    ∃ inside, marks (o :: (cs ++ [c])) = inside ++ [(c, true)] ∧
      marks (o :: cs) = inside ∧ ∀ m ∈ inside, m.2 = false := by
  have hrun : State.run ⟨1, none⟩ false cs = ⟨1, none⟩ := run_of_balanced h [o]
  have hmarks : ∀ ds, marks (o :: ds) = (o, false) :: marksFrom ⟨1, none⟩ false ds := by
    cases hpair <;> exact fun ds => rfl
  refine ⟨(o, false) :: marksFrom ⟨1, none⟩ false cs, ?_, hmarks cs, ?_⟩
  · rw [hmarks, marksFrom_append, hrun]
    cases hpair <;> simp [marksFrom, State.step, isQuote, State.atTop]
  · intro m hm
    rcases List.mem_cons.mp hm with rfl | hm
    · rfl
    · exact Balance.State.not_atTop_of_run? (Balance.check_eq_ok_iff.mp h)
        (List.cons_ne_nil o []) m hm

/-- The characters of a text after which it is at the top level. -/
def topText (cs : List Char) : List Char := ((marks cs).filter (·.2)).map (·.1)

theorem mem_topText {c : Char} {cs : List Char} : c ∈ topText cs ↔ (c, true) ∈ marks cs := by
  simp [topText]

theorem topText_append {a : List Char} (ha : Closed a) (b : List Char) :
    topText (a ++ b) = topText a ++ topText b := by
  simp [topText, marks_append ha]

theorem topText_of_plain {cs : List Char} (h : Plain cs) : topText cs = cs := by
  simp [topText, marks_of_plain h, List.filter_map, Function.comp_def]

/-- The first character of a text is at the top level unless it means something. -/
theorem mem_topText_of_head? {c : Char} {cs : List Char} (hc : isPlain c = true)
    (h : cs.head? = some c) : c ∈ topText cs := by
  cases cs with
  | nil => simp at h
  | cons d cs =>
    obtain rfl : d = c := by simpa using h
    rw [mem_topText, marks_cons_of_plain hc]
    exact List.mem_cons_self

theorem topText_enclosed {o c : Char} (hpair : IsPair o c) {cs : List Char}
    (h : Balance.check cs = .ok ()) : topText (o :: (cs ++ [c])) = [c] := by
  obtain ⟨inside, hmarks, -, hinside⟩ := marks_enclosed hpair h
  have hnone : inside.filter (·.2) = [] := by simpa using hinside
  simp [topText, hmarks, hnone]

/-! ## 6. String literals -/

/-- What may stand between two quotes without a meaning of its own. -/
def IsQuotable (quote : Char) (content : List Char) : Prop :=
  ∀ c ∈ content, c ≠ quote ∧ c ≠ '\\'

section Quoted

variable {quote : Char} {content : List Char}

theorem Balance.State.run?_quoted (hq : isQuote quote = true) (h : IsQuotable quote content) :
    Balance.State.run? ⟨[], some quote⟩ false (content ++ [quote]) = some .start := by
  induction content with
  | nil => simp [Balance.State.run?, Balance.State.step?, hq, toggle, Balance.State.start]
  | cons c content ih =>
    obtain ⟨hc, hb⟩ := h c List.mem_cons_self
    have hstep : Balance.State.step? ⟨[], some quote⟩ false c = some ⟨[], some quote⟩ := by
      by_cases hquote : isQuote c = true
      · simp [Balance.State.step?, hquote, toggle, Ne.symm hc]
      · simp [Balance.State.step?, hquote]
    simp only [List.cons_append, Balance.State.run?, hstep, Option.bind_some,
      beq_eq_false_iff_ne.mpr hb]
    exact ih fun d hd => h d (List.mem_cons_of_mem _ hd)

theorem marksFrom_quoted (hq : isQuote quote = true) (h : IsQuotable quote content) :
    marksFrom ⟨0, some quote⟩ false (content ++ [quote])
      = content.map (fun c => (c, false)) ++ [(quote, true)] := by
  induction content with
  | nil =>
    have hbracket : (quote == '(' || quote == '[') = false ∧
        (quote == ')' || quote == ']') = false := by
      rcases eq_of_isQuote hq with rfl | rfl <;> decide
    simp [marksFrom, State.step, hq, toggle, State.atTop, hbracket.1, hbracket.2]
  | cons c content ih =>
    obtain ⟨hc, hb⟩ := h c List.mem_cons_self
    have hstep : State.step ⟨0, some quote⟩ false c = ⟨0, some quote⟩ := by
      by_cases hquote : isQuote c = true
      · simp [State.step, hquote, toggle, Ne.symm hc]
      · simp [State.step, hquote]
    simp only [List.cons_append, marksFrom, hstep, beq_eq_false_iff_ne.mpr hb, List.map_cons,
      ih fun d hd => h d (List.mem_cons_of_mem _ hd)]
    rfl

theorem Closed.quoted (hq : isQuote quote = true) (h : IsQuotable quote content) :
    Closed (quote :: (content ++ [quote])) := by
  refine ⟨?_, ?_⟩
  · rw [Balance.check_eq_ok_iff, Balance.State.run?]
    have hstep : Balance.State.start.step? false quote = some ⟨[], some quote⟩ := by
      simp [Balance.State.step?, Balance.State.start, hq, toggle]
    have hb : (quote == '\\') = false := by
      rcases eq_of_isQuote hq with rfl | rfl <;> decide
    rw [hstep, hb]
    exact Balance.State.run?_quoted hq h
  · rcases eq_of_isQuote hq with rfl | rfl <;>
      simp [escapedAfter]

/-- Of a string literal only the closing quote stands at the top level. -/
theorem topText_quoted (hq : isQuote quote = true) (h : IsQuotable quote content) :
    topText (quote :: (content ++ [quote])) = [quote] := by
  have hstep : State.start.step false quote = ⟨0, some quote⟩ := by
    simp [State.step, State.start, hq, toggle]
  have hb : (quote == '\\') = false := by
    rcases eq_of_isQuote hq with rfl | rfl <;> decide
  simp [topText, marks, marksFrom, hstep, hb, marksFrom_quoted hq h, State.atTop,
    List.filter_map, Function.comp_def]

end Quoted

/-! ## 7. Text after balanced text

Balanced text may end in a backslash, and a backslash means something to a quote right after it
only. -/

/-- The text does not begin with a quote. -/
def Unquoted (cs : List Char) : Prop := ∀ c ∈ cs.head?, isQuote c = false

theorem unquoted_of_plain {cs : List Char} (h : Plain cs) : Unquoted cs := by
  intro c hc
  exact (isPlain_eq (h c (List.mem_of_mem_head? hc))).1

theorem unquoted_of_plain_before {a : List Char} (ha : Plain a) {c : Char} (hc : isPlain c = true)
    (cs : List Char) : Unquoted (a ++ c :: cs) := by
  have hplain : Plain (a ++ [c]) := List.forall_mem_append.mpr ⟨ha, by simpa using hc⟩
  have hunquoted := unquoted_of_plain hplain
  intro d hd
  exact hunquoted d (by cases a <;> simpa using hd)

theorem unquoted_of_plain_append {a : List Char} (ha : Plain a) (hne : a ≠ []) (cs : List Char) :
    Unquoted (a ++ cs) := by
  obtain ⟨c, rest, rfl⟩ := List.exists_cons_of_ne_nil hne
  exact unquoted_of_plain_before (List.forall_mem_nil _) (ha c List.mem_cons_self) (rest ++ cs)

section Unquoted

variable {a b cs : List Char}

theorem marksFrom_of_unquoted (h : Unquoted cs) (s : State) (escaped : Bool) :
    marksFrom s escaped cs = marksFrom s false cs := by
  cases cs with
  | nil => rfl
  | cons c cs =>
    have hstep : s.step escaped c = s.step false c := by
      simp [State.step, h c rfl]
    simp only [marksFrom, hstep]

theorem Balance.State.run?_of_unquoted (h : Unquoted cs) (s : Balance.State) (escaped : Bool) :
    s.run? escaped cs = s.run? false cs := by
  cases cs with
  | nil => rfl
  | cons c cs =>
    have hstep : s.step? escaped c = s.step? false c := by
      simp [Balance.State.step?, h c rfl]
    simp only [Balance.State.run?, hstep]

theorem balanced_append (ha : Balance.check a = .ok ()) (hb : Balance.check b = .ok ())
    (h : Unquoted b) : Balance.check (a ++ b) = .ok () := by
  rw [Balance.check_eq_ok_iff] at ha hb ⊢
  rw [Balance.State.run?_append, ha, Option.bind_some, Balance.State.run?_of_unquoted h, hb]

theorem marks_append_of_unquoted (ha : Balance.check a = .ok ()) (h : Unquoted b) :
    marks (a ++ b) = marks a ++ marks b := by
  rw [marks, marksFrom_append, run_start_of_balanced ha, marksFrom_of_unquoted h]
  rfl

theorem topText_append_of_unquoted (ha : Balance.check a = .ok ()) (h : Unquoted b) :
    topText (a ++ b) = topText a ++ topText b := by
  simp [topText, marks_append_of_unquoted ha h]

/-- Taking plain text off the ends of balanced text leaves balanced text. -/
theorem balanced_of_plain_around (ha : Plain a) (hb : Plain b)
    (h : Balance.check (a ++ (cs ++ b)) = .ok ()) : Balance.check cs = .ok () := by
  rw [Balance.check_eq_ok_iff] at h ⊢
  rw [Balance.State.run?_append, Balance.State.run?_of_plain ha, Option.bind_some,
    (Closed.of_plain ha).unescaped, Balance.State.run?_append] at h
  obtain ⟨last, hlast, hrest⟩ := Option.bind_eq_some_iff.mp h
  rwa [Balance.State.run?_of_plain hb, ← hlast] at hrest

/-- What stands at the top level of a text stands there in a longer one. -/
theorem topText_subset_of_plain_before (ha : Plain a) : topText cs ⊆ topText (a ++ (cs ++ b)) := by
  intro c hc
  rw [topText_append (Closed.of_plain ha), List.mem_append]
  rw [mem_topText] at hc
  refine .inr (mem_topText.mpr ?_)
  rw [marks, marksFrom_append]
  exact List.mem_append_left _ hc

end Unquoted

end FormLogic.Scan
