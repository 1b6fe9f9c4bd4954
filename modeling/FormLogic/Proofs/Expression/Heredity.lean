import FormLogic.Expression.Call
import FormLogic.Proofs.Expression.Contiguous
import FormLogic.Proofs.Expression.Literal
import FormLogic.Proofs.Scan.Pieces

/-!
# What is cut out of balanced text is balanced

The balance check runs once, over the whole expression; every later cut is made by a scanner that
knows depths and quotes only, and begins anew in each piece.  Where the scanner is at the top
level of balanced text, the check has nothing open either, so the text can be cut there into
balanced texts (`balanced_around`).  Pieces between operators, the parts of a ternary and the
inside of a group are all cut so (`Part.balanced`), and by induction whatever is cut out of them
in turn.
-/

namespace FormLogic.Scan

/-! ## 1. The top level of balanced text -/

/-- The scanner is at the top level just where the check has nothing open. -/
theorem Balance.State.eq_start_of_scan {s : Balance.State} (h : s.scan = .start) : s = .start := by
  obtain ⟨stack, openQuote⟩ := s
  obtain ⟨hstack, hquote⟩ : stack.length = 0 ∧ openQuote = none := by
    simpa [Balance.State.scan, Scan.State.start] using h
  rw [List.length_eq_zero_iff.mp hstack, hquote]
  rfl

section TopLevel

variable {a b : List Char}

/-- Along balanced text the scanner shows how many brackets are open. -/
theorem exists_open_of_balanced (h : Balance.check (a ++ b) = .ok ()) :
    ∃ s : Balance.State, Balance.State.start.run? false a = some s ∧
      s.run? (escapedAfter false a) b = some .start ∧ State.start.run false a = s.scan := by
  rw [Balance.check_eq_ok_iff, Balance.State.run?_append] at h
  obtain ⟨s, ha, hb⟩ := Option.bind_eq_some_iff.mp h
  exact ⟨s, ha, hb, Balance.State.scan_run ha⟩

/-- **The depth of balanced text is never negative.** -/
theorem depth_nonneg_of_balanced (h : Balance.check (a ++ b) = .ok ()) :
    0 ≤ (State.start.run false a).depth := by
  obtain ⟨s, -, -, hscan⟩ := exists_open_of_balanced h
  rw [hscan]
  exact Int.natCast_nonneg s.stack.length

theorem balanced_of_run_eq_start (h : Balance.check (a ++ b) = .ok ())
    (htop : State.start.run false a = .start) :
    Balance.check a = .ok () ∧
      Balance.State.start.run? (escapedAfter false a) b = some .start := by
  obtain ⟨s, ha, hb, hscan⟩ := exists_open_of_balanced h
  obtain rfl := Balance.State.eq_start_of_scan (hscan.symm.trans htop)
  exact ⟨Balance.check_eq_ok_iff.mpr ha, hb⟩

/-- **Balanced text is cut at its top level into balanced texts.** -/
theorem balanced_around {o : Char} {os : List Char} (hop : Plain (o :: os))
    (h : Balance.check (a ++ ((o :: os) ++ b)) = .ok ())
    (htop : State.start.run false a = .start) :
    Balance.check a = .ok () ∧ Balance.check b = .ok () := by
  obtain ⟨ha, hrest⟩ := balanced_of_run_eq_start h htop
  refine ⟨ha, Balance.check_eq_ok_iff.mpr ?_⟩
  have hunescaped : escapedAfter (escapedAfter false a) (o :: os) = false :=
    escapedAfter_of_plain hop
  rwa [Balance.State.run?_append, Balance.State.run?_of_plain hop, Option.bind_some,
    hunescaped] at hrest

end TopLevel

/-! ## 2. Pieces between operators -/

section Split

variable {o : Char} {os : List Char}

/-- The pieces of balanced text are balanced. -/
theorem Cuts.balanced (hop : Plain (o :: os)) {cs : List Char} {pieces : List (List Char)}
    (hcuts : Cuts (o :: os) cs pieces) (h : Balance.check cs = .ok ()) {p : List Char}
    (hp : p ∈ pieces) : Balance.check p = .ok () := by
  induction hcuts with
  | whole => rwa [List.mem_singleton.mp hp]
  | cut htop _ _ ih =>
    obtain ⟨ha, hb⟩ := balanced_around hop h htop
    rcases List.mem_cons.mp hp with rfl | hp
    · exact ha
    · exact ih hb hp

theorem balanced_of_mem_split (hop : Plain (o :: os)) {cs p : List Char}
    (h : Balance.check cs = .ok ()) (hp : p ∈ split (o :: os) cs) : Balance.check p = .ok () :=
  (cuts_split hop cs).balanced hop h hp

end Split

theorem balanced_of_mem_map_trim {cs p : List Char} (h : Balance.check cs = .ok ())
    (hp : p ∈ (split [','] cs).map Text.trim) : Balance.check p = .ok () := by
  obtain ⟨q, hq, rfl⟩ := List.mem_map.mp hp
  exact Shape.balanced_trim (balanced_of_mem_split (by decide) h hq)

theorem balanced_of_mem_arguments {cs a : List Char} (h : Balance.check cs = .ok ())
    (ha : a ∈ arguments cs) : Balance.check a = .ok () := by
  have key : ∀ p ∈ (split [','] (Text.trim cs)).map Text.trim, Balance.check p = .ok () :=
    fun p hp => balanced_of_mem_map_trim (Shape.balanced_trim h) hp
  simp only [arguments] at ha
  split at ha
  · simp at ha
  · split at ha
    · exact key a ((List.dropLast_sublist _).mem ha)
    · exact key a ha

theorem balanced_of_mem_items {cs i : List Char} (h : Balance.check cs = .ok ())
    (hi : i ∈ items cs) : Balance.check i = .ok () :=
  balanced_of_mem_map_trim h (List.mem_filter.mp hi).1

/-! ## 3. The parts of a ternary -/

/-- Behind a plain character at the top level a text is marked like a text of its own. -/
theorem marksFrom_eq_append {c : Char} (hc : isPlain c = true) {s : State} {escaped : Bool}
    {cs : List Char} {passed rest : List (Char × Bool)}
    (h : marksFrom s escaped cs = passed ++ (c, true) :: rest) :
    cs = passed.map Prod.fst ++ c :: rest.map Prod.fst ∧
      s.run escaped (passed.map Prod.fst) = .start ∧ rest = marks (rest.map Prod.fst) := by
  induction passed generalizing s escaped cs with
  | nil =>
    cases cs with
    | nil => cases h
    | cons d cs =>
      obtain ⟨hd, rfl⟩ := List.cons.inj h
      obtain ⟨rfl, htop⟩ := Prod.mk.inj hd
      obtain rfl := State.atTop_of_step hc htop
      rw [State.eq_start_of_atTop htop, isPlain_ne_backslash hc]
      simp [State.run, marks]
  | cons m passed ih =>
    cases cs with
    | nil => cases h
    | cons d cs =>
      obtain ⟨rfl, hrest⟩ := List.cons.inj h
      obtain ⟨rfl, htop, hmarks⟩ := ih hrest
      exact ⟨rfl, htop, hmarks⟩

theorem balanced_of_ternary? {cs : List Char} {t : Ternary} (h : Balance.check cs = .ok ())
    (ht : ternary? cs = some t) :
    Balance.check t.condition = .ok () ∧ Balance.check t.whenTrue = .ok () ∧
      Balance.check t.whenFalse = .ok () := by
  obtain ⟨before, middle, after, hternary, rfl⟩ := ternary?_eq_some_iff.mp ht
  obtain ⟨htext, hquestion, hmarks⟩ :=
    marksFrom_eq_append (by decide : isPlain '?' = true) hternary.text
  obtain ⟨hbehind, hcolon, -⟩ :=
    marksFrom_eq_append (by decide : isPlain ':' = true) hmarks.symm
  rw [htext] at h
  obtain ⟨hcondition, hrest⟩ := balanced_around (by decide : Plain ['?']) h hquestion
  rw [hbehind] at hrest
  obtain ⟨htrue, hfalse⟩ := balanced_around (by decide : Plain [':']) hrest hcolon
  exact ⟨Shape.balanced_trim hcondition, Shape.balanced_trim htrue, Shape.balanced_trim hfalse⟩

/-! ## 4. The inside of a group -/

/-- A step that does not close the outermost bracket does not look at it. -/
theorem Balance.State.step?_inside {outer : Char} {s next : Balance.State} {escaped : Bool}
    {c : Char} (h : Balance.State.step? ⟨s.stack ++ [outer], s.quote⟩ escaped c = some next)
    (hdeep : next.scan.atTop = false) :
    ∃ inside : Balance.State, s.step? escaped c = some inside ∧
      next = ⟨inside.stack ++ [outer], inside.quote⟩ := by
  rcases Balance.State.step?_cases h with ⟨hq, rfl⟩ | ⟨hq, hs, rfl⟩ | ⟨hq, hs, ho, rfl⟩ |
    ⟨hq, hs, ho, hc, hstack, hquote⟩ | ⟨hq, hs, ho, hc, rfl⟩
  · exact ⟨⟨s.stack, toggle s.quote c⟩, by simp [Balance.State.step?, hq], rfl⟩
  · exact ⟨s, by simp [Balance.State.step?, hq, show s.quote.isSome = true from hs], rfl⟩
  · exact ⟨⟨c :: s.stack, none⟩, by simp [Balance.State.step?, hq, show s.quote = none from hs, ho],
      rfl⟩
  · obtain ⟨stack, openQuote⟩ := s
    obtain ⟨rest, nextQuote⟩ := next
    obtain rfl : openQuote = none := hs
    obtain rfl : nextQuote = none := hquote
    cases stack with
    | nil =>
      -- the outermost bracket itself is closed
      obtain ⟨-, rfl⟩ := List.cons.inj hstack
      simp [Balance.State.scan, State.atTop] at hdeep
    | cons top stack =>
      obtain ⟨rfl, rfl⟩ := List.cons.inj hstack
      exact ⟨⟨stack, none⟩, by simp [Balance.State.step?, hq, ho, hc], rfl⟩
  · exact ⟨s, by simp [Balance.State.step?, hq, show s.quote = none from hs, ho, hc], rfl⟩

/-- **A run that stays inside its outermost bracket** is a run from what is open inside it. -/
theorem Balance.State.run?_inside {outer : Char} {s last : Balance.State} {escaped : Bool}
    {cs : List Char} (h : Balance.State.run? ⟨s.stack ++ [outer], s.quote⟩ escaped cs = some last)
    (hdeep : ∀ m ∈ marksFrom (Balance.State.scan ⟨s.stack ++ [outer], s.quote⟩) escaped cs,
      m.2 = false) :
    ∃ inside : Balance.State, s.run? escaped cs = some inside ∧
      last = ⟨inside.stack ++ [outer], inside.quote⟩ := by
  induction cs generalizing s escaped with
  | nil => exact ⟨s, rfl, (Option.some.inj h).symm⟩
  | cons c cs ih =>
    obtain ⟨next, hstep, hrest⟩ := Option.bind_eq_some_iff.mp h
    rw [marksFrom, Balance.State.scan_step hstep] at hdeep
    obtain ⟨inside, hinside, rfl⟩ :=
      Balance.State.step?_inside hstep (hdeep _ List.mem_cons_self)
    obtain ⟨last', hlast, heq⟩ := ih hrest fun m hm => hdeep m (List.mem_cons_of_mem _ hm)
    exact ⟨last', by rw [Balance.State.run?, hinside, Option.bind_some, hlast], heq⟩

/-- Nothing of a group but its last character is at the top level. -/
theorem not_atTop_of_group? {cs inner : List Char} (h : group? cs = some inner) :
    ∀ m ∈ marks ('(' :: inner), m.2 = false := by
  obtain rfl := eq_parens_of_group? h
  simp only [group?] at h
  split at h
  · next hc =>
    rw [← List.cons_append, List.dropLast_concat] at hc
    exact hc.2
  · simp at h

/-- **The inside of a group of balanced text is balanced.** -/
theorem balanced_of_group? {cs inner : List Char} (h : Balance.check cs = .ok ())
    (hg : group? cs = some inner) : Balance.check inner = .ok () := by
  have hdeep := not_atTop_of_group? hg
  obtain rfl := eq_parens_of_group? hg
  obtain ⟨last, hlast, hclose, -⟩ := exists_open_of_balanced (a := '(' :: inner) (b := [')']) h
  have hexists : ∃ inside : Balance.State, Balance.State.run? .start false inner = some inside ∧
      last = ⟨inside.stack ++ ['('], inside.quote⟩ :=
    Balance.State.run?_inside (s := .start) hlast fun m hm => hdeep m (List.mem_cons_of_mem _ hm)
  obtain ⟨inside, hinside, rfl⟩ := hexists
  obtain ⟨next, hstep, hnext⟩ := Option.bind_eq_some_iff.mp hclose
  obtain rfl : next = .start := Option.some.inj hnext
  have hstart : inside = .start := by
    obtain ⟨stack, openQuote⟩ := inside
    rcases Balance.State.step?_cases hstep with ⟨hq, -⟩ | ⟨-, -, hsame⟩ | ⟨-, -, ho, -⟩ |
      ⟨-, rfl, -, -, hstack, -⟩ | ⟨-, -, -, hc, -⟩
    · exact absurd (Bool.and_eq_true_iff.mp hq).1 (by decide)
    · exact absurd (congrArg Balance.State.stack hsame).symm (by simp [Balance.State.start])
    · exact absurd ho (by decide)
    · have hstack : stack ++ ['('] = ['('] := hstack
      obtain rfl : stack = [] := List.append_left_eq_self.mp hstack
      rfl
    · exact absurd hc (by decide)
  rw [Balance.check_eq_ok_iff, hinside, hstart]

/-! ## 5. Everything that is cut out -/

/-- **What a call is read from**: its name, with blank characters around it, and one group. -/
theorem Call.exists_of_ofText? {cs : List Char} {call : Call} (h : Call.ofText? cs = some call) :
    ∃ before after inside, Text.Blank before ∧ Text.Blank after ∧
      cs = before ++ (call.name ++ (after ++ ('(' :: (inside ++ [')'])))) ∧
      Text.isIdentifier call.name = true ∧ group? ('(' :: (inside ++ [')'])) = some inside ∧
      call.arguments = arguments inside := by
  simp only [Call.ofText?, Option.bind_eq_bind, Option.pure_def] at h
  split at h
  · simp at h
  · next hname =>
    obtain ⟨inside, hgroup, hcall⟩ := Option.bind_eq_some_iff.mp h
    obtain rfl := Option.some.inj hcall
    obtain ⟨before, after, hb, ha, htext⟩ := Text.exists_trim (cs.takeWhile (· != '('))
    have hparens := eq_parens_of_group? hgroup
    refine ⟨before, after, inside, hb, ha, ?_, by simpa using hname, hparens ▸ hgroup, rfl⟩
    conv => lhs; rw [← List.takeWhile_append_dropWhile (p := (· != '(')) (l := cs), htext, hparens]
    simp

/-- Behind a name and blank characters balanced text is still balanced. -/
theorem balanced_of_name_before {before name after cs : List Char} (hb : Text.Blank before)
    (hname : Text.isIdentifier name = true) (ha : Text.Blank after)
    (h : Balance.check (before ++ (name ++ (after ++ cs))) = .ok ()) :
    Balance.check cs = .ok () := by
  have hword := Path.isWordPart_of_isIdentifier hname
  have hplain : Plain (before ++ (name ++ after)) :=
    List.forall_mem_append.mpr ⟨Shape.plain_of_blank hb, List.forall_mem_append.mpr
      ⟨fun c hc => isPlain_of_isWordPart (hword c hc), Shape.plain_of_blank ha⟩⟩
  exact balanced_of_plain_around (b := []) hplain (by decide : Plain []) (by simpa using h)

theorem balanced_of_call {cs a : List Char} {call : Call} (h : Balance.check cs = .ok ())
    (hcall : Call.ofText? cs = some call) (ha : a ∈ call.arguments) :
    Balance.check a = .ok () := by
  obtain ⟨before, after, inside, hb, hafter, rfl, hname, hgroup, harguments⟩ :=
    Call.exists_of_ofText? hcall
  rw [harguments] at ha
  have hparens := balanced_of_name_before hb hname hafter h
  exact balanced_of_mem_arguments (balanced_of_group? hparens hgroup) ha

/-- The operators that texts are cut at. -/
def operators : List (List Char) :=
  [['?', '?'], ['|', '|'], ['&', '&'], [',']] ++ Comparison.all.map Comparison.symbol

theorem exists_plain_of_mem_operators {op : List Char} (h : op ∈ operators) :
    ∃ o os, op = o :: os ∧ Plain (o :: os) := by
  have key : ∀ op ∈ operators, op ≠ [] ∧ Plain op := by decide
  obtain ⟨hne, hplain⟩ := key op h
  obtain ⟨o, os, rfl⟩ := List.exists_cons_of_ne_nil hne
  exact ⟨o, os, rfl, hplain⟩

/-- **What is cut out of a text**, in one cut or in several. -/
inductive Part : List Char → List Char → Prop where
  | piece {cs op p : List Char} : op ∈ operators → p ∈ split op cs → Part cs p
  | argument {cs a : List Char} : a ∈ arguments cs → Part cs a
  | item {cs i : List Char} : i ∈ items cs → Part cs i
  | branch {cs p : List Char} {t : Ternary} :
      ternary? cs = some t → p ∈ [t.condition, t.whenTrue, t.whenFalse] → Part cs p
  | inside {cs inner : List Char} : group? cs = some inner → Part cs inner
  | callArgument {cs a : List Char} {call : Call} :
      Call.ofText? cs = some call → a ∈ call.arguments → Part cs a
  | trimmed (cs : List Char) : Part cs (Text.trim cs)
  | trans {cs p q : List Char} : Part cs p → Part p q → Part cs q

theorem Part.balanced {cs p : List Char} (hp : Part cs p) (h : Balance.check cs = .ok ()) :
    Balance.check p = .ok () := by
  induction hp with
  | piece hop hp =>
    obtain ⟨o, os, rfl, hplain⟩ := exists_plain_of_mem_operators hop
    exact balanced_of_mem_split hplain h hp
  | argument ha => exact balanced_of_mem_arguments h ha
  | item hi => exact balanced_of_mem_items h hi
  | branch ht hp =>
    obtain ⟨hcondition, htrue, hfalse⟩ := balanced_of_ternary? h ht
    simp only [List.mem_cons, List.not_mem_nil, or_false] at hp
    rcases hp with rfl | rfl | rfl
    · exact hcondition
    · exact htrue
    · exact hfalse
  | inside hg => exact balanced_of_group? h hg
  | callArgument hcall ha => exact balanced_of_call h hcall ha
  | trimmed cs => exact Shape.balanced_trim h
  | trans _ _ ihp ihq => exact ihq (ihp h)

/-- **Balance is hereditary.**  Whatever is cut out of balanced text is balanced, and on the way
through the text the scanner's depth is never negative and comes back to the top level. -/
theorem balance_hereditary {cs : List Char} (h : Balance.check cs = .ok ()) :
    (∀ p, Part cs p → Balance.check p = .ok ()) ∧
    (∀ a b, cs = a ++ b → 0 ≤ (State.start.run false a).depth) ∧
    (State.start.run false cs).atTop = true := by
  refine ⟨fun p hp => hp.balanced h, ?_, ?_⟩
  · rintro a b rfl
    exact depth_nonneg_of_balanced h
  · rw [run_start_of_balanced h]
    rfl

/-- The second argument of the call in front of a question mark, a text literal in which brackets,
a comma and a quote stand. -/
theorem balanced_argument_of_condition :
    let text := "f(a[0], \"x) \\\" ,\" ) ? (b) : [c, d]".toList
    let argument := "\"x) \\\" ,\"".toList
    Balance.check text = .ok () ∧ Part text argument ∧ Balance.check argument = .ok () := by
  intro text argument
  have hbalanced : Balance.check text = .ok () := rfl
  have hpart : Part text argument := by
    have hternary : ternary? text
        = some ⟨"f(a[0], \"x) \\\" ,\" )".toList, "(b)".toList, "[c, d]".toList⟩ := by decide
    have hcall : Call.ofText? "f(a[0], \"x) \\\" ,\" )".toList
        = some ⟨"f".toList, ["a[0]".toList, argument]⟩ := by decide
    exact .trans (.branch hternary List.mem_cons_self)
      (.callArgument hcall (List.mem_cons_of_mem _ List.mem_cons_self))
  exact ⟨hbalanced, hpart, (balance_hereditary hbalanced).1 argument hpart⟩

end FormLogic.Scan
