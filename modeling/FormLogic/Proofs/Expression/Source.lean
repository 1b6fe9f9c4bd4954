import FormLogic.Proofs.Expression.Membership
import FormLogic.Proofs.Number.ReadBack
import FormLogic.Proofs.Value.Document

/-!
# Values written as literals

The literal of a value is read back as the value, in every context: a scalar always, a list
unless its text is taken for a membership (`tryEvaluate_source`).  That form is tried before list
literals and knows no quotes, so `["a in [b"]` asks whether `["a` is among `b"`.  It takes a string
with `in [` in it: nothing else in a literal looks like a membership.
-/

namespace FormLogic

open Scan Text

/-! ## 1. Literals of values -/

namespace Value

mutual

/-- **A value that has a literal**: without maps, without a number that is none, and without
double quotes and backslashes in its strings. -/
def IsLiteral : Value → Prop
  | .number n => n.isNaN = false
  | .string s => IsQuotable '"' s.toList
  | .list items => listIsLiteral items
  | .map _ => False
  | _ => True

def listIsLiteral : List Value → Prop
  | [] => True
  | v :: vs => v.IsLiteral ∧ listIsLiteral vs

end

mutual

/-- **The literal of a value.**  There is none for a map. -/
def source : Value → List Char
  | .null => ['n', 'u', 'l', 'l']
  | .bool true => ['t', 'r', 'u', 'e']
  | .bool false => ['f', 'a', 'l', 's', 'e']
  | .number n => Number.format n
  | .string s => '"' :: (s.toList ++ ['"'])
  | .list items => '[' :: (listSource items ++ [']'])
  | .map _ => []

def listSource : List Value → List Char
  | [] => []
  | [v] => v.source
  | v :: w :: vs => v.source ++ ([','] ++ ([' '] ++ listSource (w :: vs)))

end

mutual

/-- All strings in a value, at any depth of its lists. -/
def strings : Value → List String
  | .string s => [s]
  | .list items => listStrings items
  | _ => []

def listStrings : List Value → List String
  | [] => []
  | v :: vs => v.strings ++ listStrings vs

end

/-- The value as it is read back from its literal. -/
def readBack (v : Value) : Value := v.mapNumbers fun n => .number n.readBack

theorem readBack_list (vs : List Value) : (Value.list vs).readBack = .list (vs.map readBack) := by
  rw [readBack, mapNumbers, listMapNumbers_eq_map]
  rfl

theorem listIsLiteral_iff {vs : List Value} : listIsLiteral vs ↔ ∀ v ∈ vs, v.IsLiteral := by
  induction vs with
  | nil => simp [listIsLiteral]
  | cons v vs ih => simp [listIsLiteral, ih]

mutual

/-- **Induction over values that have a literal.** -/
theorem IsLiteral.induction {P : Value → Prop}
    (scalar : ∀ v : Value, v.IsLiteral → (∀ items, v ≠ .list items) → P v)
    (list : ∀ items : List Value, (∀ v ∈ items, v.IsLiteral ∧ P v) → P (.list items)) :
    ∀ v : Value, v.IsLiteral → P v
  | .list items, h =>
    list items fun v hv => ⟨listIsLiteral_iff.mp h v hv, induction_list scalar list items h v hv⟩
  | .null, h | .bool _, h | .number _, h | .string _, h => scalar _ h fun _ => nofun
  | .map _, h => h.elim

theorem IsLiteral.induction_list {P : Value → Prop}
    (scalar : ∀ v : Value, v.IsLiteral → (∀ items, v ≠ .list items) → P v)
    (list : ∀ items : List Value, (∀ v ∈ items, v.IsLiteral ∧ P v) → P (.list items)) :
    ∀ vs : List Value, listIsLiteral vs → ∀ v ∈ vs, P v
  | [], _, _, hv => nomatch hv
  | w :: vs, h, v, hv => (List.mem_cons.mp hv).elim
      (fun heq => heq ▸ induction scalar list w h.1) (induction_list scalar list vs h.2 v)

end

/-- A value other than a list is written as an atom. -/
theorem exists_literal {v : Value} (h : v.IsLiteral) (hlist : ∀ items, v ≠ .list items) :
    ∃ l : Literal, l.text = v.source ∧ ∀ c, l.value c = some v.readBack := by
  cases v with
  | null => exact ⟨.null, rfl, fun _ => rfl⟩
  | bool b => exact ⟨.bool b, by cases b <;> rfl, fun _ => rfl⟩
  | number n =>
    exact ⟨.number n.readBack (Number.lenient?_format_readBack h), Number.format_readBack n,
      fun _ => rfl⟩
  | string s =>
    have hvalue : String.ofList s.toList = s := String.ofList_toList
    exact ⟨.string '"' s.toList rfl h, rfl,
      fun _ => congrArg (fun s => some (Value.string s)) hvalue⟩
  | list items => exact absurd rfl (hlist items)
  | map es => exact h.elim

/-! ## 2. The texts of literals -/

/-- The literals of items stand between commas. -/
theorem joined_listSource {vs : List Value} (h : vs ≠ []) :
    Joined [','] (vs.map source) (listSource vs) := by
  induction vs with
  | nil => exact absurd rfl h
  | cons v vs ih =>
    cases vs with
    | nil => exact .one v.source
    | cons w vs =>
      exact .cons v.source .none ⟨[' '], by decide⟩ (ih (List.cons_ne_nil w vs))

section Items

variable {vs : List Value} (h : ∀ v ∈ vs, IsArgument v.source)

include h

theorem isArgument_of_mem_map : ∀ t ∈ vs.map source, IsArgument t := by
  intro t ht
  obtain ⟨v, hv, rfl⟩ := List.mem_map.mp ht
  exact h v hv

theorem balanced_listSource : Balance.check (listSource vs) = .ok () := by
  cases vs with
  | nil => rfl
  | cons v vs =>
    exact (joined_listSource (List.cons_ne_nil v vs)).balanced (by decide)
      fun t ht => (isArgument_of_mem_map h t ht).balanced

theorem items_listSource : Scan.items (listSource vs) = vs.map source := by
  cases vs with
  | nil => rfl
  | cons v vs =>
    simpa using (joined_listSource (List.cons_ne_nil v vs)).items_eq (isArgument_of_mem_map h)
      .none .none

theorem closed_source_list : Closed (Value.list vs).source :=
  Closed.enclosed .square (balanced_listSource h)

theorem topText_source_list : topText (Value.list vs).source = [']'] :=
  topText_enclosed .square (balanced_listSource h)

end Items

theorem tight_source_list (vs : List Value) : Tight (Value.list vs).source :=
  Tight.of_ends (by decide) (by decide) (listSource vs)

theorem getLast?_source_list (vs : List Value) : (Value.list vs).source.getLast? = some ']' := by
  rw [source, ← List.cons_append, List.getLast?_concat]

theorem isArgument_source {v : Value} (h : v.IsLiteral) : IsArgument v.source := by
  refine IsLiteral.induction (P := fun v => IsArgument v.source) ?_ ?_ v h
  · intro v h hlist
    obtain ⟨l, htext, -⟩ := exists_literal h hlist
    rw [← htext]
    exact (l.printed.mono (by decide)).isArgument
  · intro items hitems
    have hitems : ∀ v ∈ items, IsArgument v.source := fun v hv => (hitems v hv).2
    refine ⟨(closed_source_list hitems).balanced, tight_source_list items, ?_⟩
    rw [topText_source_list hitems]
    decide

/-! ## 3. Where a membership hides in a literal -/

end Value

/-- What a membership begins with has no other characters in it, so it stands on one side of
them. -/
theorem HidesMembershipStart.of_append {c : Char} (hc : isBlank c = false)
    (hno : c ∉ ['i', 'n', '[']) {a d : List Char} (h : HidesMembershipStart (a ++ (c :: d))) :
    HidesMembershipStart a ∨ HidesMembershipStart d := by
  obtain ⟨start, b, b', rest, hb, hb', htext⟩ := h
  have hmem : c ∉ Shape.membershipStart b b' := Shape.not_mem_membershipStart hc hno
  rcases List.append_eq_append_iff.mp htext with ⟨middle, rfl, hd⟩ | ⟨middle, rfl, hmiddle⟩
  · cases middle with
    | nil =>
      obtain ⟨e, more, hstart, -⟩ := @Shape.exists_membershipStart b b' hb
      rw [List.nil_append, hstart, List.cons_append, List.cons.injEq] at hd
      exact absurd (by simp [hstart, hd.1]) hmem
    | cons e middle =>
      rw [List.cons_append, List.cons.injEq] at hd
      exact .inr ⟨middle, b, b', rest, hb, hb', hd.2⟩
  · rcases List.append_eq_append_iff.mp hmiddle with ⟨tail, rfl, -⟩ | ⟨tail, hstart, htail⟩
    · exact .inl ⟨start, b, b', tail, hb, hb', rfl⟩
    · cases tail with
      | nil => exact .inl ⟨start, b, b', [], hb, hb', by simp [hstart]⟩
      | cons e tail =>
        rw [List.cons_append, List.cons.injEq] at htail
        exact absurd (by simp [hstart, htail.1]) hmem

theorem not_hidesMembershipStart_nil : ¬ HidesMembershipStart [] := by
  rintro ⟨start, b, b', rest, -, -, h⟩
  simp [Shape.membershipStart] at h

/-- It begins with a blank character. -/
theorem HidesMembershipStart.of_cons {c : Char} (hc : isBlank c = false) {cs : List Char}
    (h : HidesMembershipStart (c :: cs)) : HidesMembershipStart cs := by
  obtain ⟨start, b, b', rest, hb, hb', htext⟩ := h
  cases start with
  | nil =>
    obtain ⟨e, more, hstart, he⟩ := @Shape.exists_membershipStart b b' hb
    rw [List.nil_append, hstart, List.cons_append, List.cons.injEq] at htext
    rw [← htext.1, hc] at he
    exact Bool.noConfusion he
  | cons e start =>
    rw [List.cons_append, List.cons.injEq] at htext
    exact ⟨start, b, b', rest, hb, hb', htext.2⟩

/-- Between its blank characters there is `in`. -/
theorem HidesMembershipStart.of_blank {c : Char} {cs : List Char} (htight : Tight cs)
    (hi : cs.head? ≠ some 'i') (h : HidesMembershipStart (c :: cs)) : HidesMembershipStart cs := by
  obtain ⟨start, b, b', rest, hb, hb', htext⟩ := h
  cases start with
  | nil =>
    obtain ⟨d, text, rfl, hd⟩ := htight.first
    obtain ⟨b, hblank⟩ := b
    obtain ⟨e, b, rfl⟩ := List.exists_cons_of_ne_nil hb
    -- after the first blank character comes another one or `in`, but the text begins with neither
    cases b with
    | nil => simp_all [Shape.membershipStart]
    | cons f b =>
      have hf : isBlank f = true := hblank f (by simp)
      simp_all [Shape.membershipStart]
  | cons e start =>
    rw [List.cons_append, List.cons.injEq] at htext
    exact ⟨start, b, b', rest, hb, hb', htext.2⟩

namespace Value

theorem listStrings_eq_flatMap (vs : List Value) : listStrings vs = vs.flatMap strings := by
  induction vs with
  | nil => rfl
  | cons v vs ih => rw [listStrings, ih, List.flatMap_cons]

/-- What a literal begins with. -/
theorem head?_source_ne (v : Value) {c : Char} (hdigit : isAsciiDigit c = false)
    (hother : c ∉ ['.', '-', 'I', 'N', 'n', 't', 'f', '"', '[']) : v.source.head? ≠ some c := by
  have hnumber : c ∉ ['.', '-', 'I', 'N'] := fun h => hother (by simp_all)
  simp only [List.mem_cons, List.not_mem_nil, or_false, not_or] at hother
  cases v with
  | number n => exact Number.head?_format_ne n hdigit hnumber
  | bool b => cases b <;> simp [source, Ne.symm, hother, eq_comm]
  | null => simp [source, hother, eq_comm]
  | string s => simp [source, hother, eq_comm]
  | list items => simp [source, hother, eq_comm]
  | map es => simp [source]

/-- What stands between items is no part of a membership. -/
theorem exists_hides_of_listSource {vs : List Value} (htight : ∀ v ∈ vs, Tight v.source)
    (h : HidesMembershipStart (listSource vs)) : ∃ v ∈ vs, HidesMembershipStart v.source := by
  induction vs with
  | nil => exact absurd h not_hidesMembershipStart_nil
  | cons v vs ih =>
    cases vs with
    | nil => exact ⟨v, List.mem_cons_self, h⟩
    | cons w vs =>
      have hjoined := joined_listSource (List.cons_ne_nil w vs)
      have htights : ∀ t ∈ (w :: vs).map source, Tight t := by
        intro t ht
        obtain ⟨u, hu, rfl⟩ := List.mem_map.mp ht
        exact htight u (List.mem_cons_of_mem _ hu)
      have hhead : (listSource (w :: vs)).head? ≠ some 'i' := by
        obtain ⟨t, ht, hhead⟩ := hjoined.head?_mem htights
        obtain ⟨u, -, rfl⟩ := List.mem_map.mp ht
        rw [hhead]
        exact head?_source_ne u (by decide) (by decide)
      rcases HidesMembershipStart.of_append (by decide : isBlank ',' = false) (by decide) h
        with h | h
      · exact ⟨v, List.mem_cons_self, h⟩
      · obtain ⟨u, hu, h⟩ := ih (fun u hu => htight u (List.mem_cons_of_mem _ hu))
          (h.of_blank (hjoined.tight htights) hhead)
        exact ⟨u, List.mem_cons_of_mem _ hu, h⟩

/-- **Only strings hide a membership.** -/
theorem exists_hides_of_source {v : Value} (hv : v.IsLiteral)
    (h : HidesMembershipStart v.source) : ∃ s ∈ v.strings, HidesMembershipStart s.toList := by
  have hend : ∀ {c : Char}, isBlank c = false → c ∉ ['i', 'n', '['] → ∀ {cs : List Char},
      HidesMembershipStart (cs ++ [c]) → HidesMembershipStart cs := fun hc hno _ h =>
    (h.of_append hc hno).resolve_right not_hidesMembershipStart_nil
  refine IsLiteral.induction (P := fun v => HidesMembershipStart v.source →
    ∃ s ∈ v.strings, HidesMembershipStart s.toList) ?_ ?_ v hv h
  · intro v hv hlist h
    cases v with
    | string s =>
      have hs := hend (by decide) (by decide) (h.of_cons (by decide))
      exact ⟨s, by simp [strings], hs⟩
    | number n =>
      have hword := Number.isWord_format (Number.lenient?_format_readBack hv)
      rw [Number.format_readBack] at hword
      exact absurd h (Literal.not_hidesMembershipStart_of_isWord hword)
    | null => exact absurd h (Literal.not_hidesMembershipStart_of_isWord (by decide))
    | bool b => exact absurd h (Literal.not_hidesMembershipStart_of_isWord (by cases b <;> decide))
    | list items => exact absurd rfl (hlist items)
    | map es => exact hv.elim
  · intro items hitems h
    have hinside := hend (by decide) (by decide) (h.of_cons (by decide))
    obtain ⟨v, hv, h⟩ := exists_hides_of_listSource
      (fun v hv => (isArgument_source (hitems v hv).1).tight) hinside
    obtain ⟨s, hs, h⟩ := (hitems v hv).2 h
    refine ⟨s, ?_, h⟩
    rw [strings, listStrings_eq_flatMap]
    exact List.mem_flatMap.mpr ⟨v, hv, hs⟩

end Value

/-! ## 4. Evaluation -/

namespace Evaluator

variable (ev : Evaluator)

/-- **As an atom the literal of a value is the value.** -/
theorem atom_source {v : Value} (hv : v.IsLiteral) : ∀ {depth : Nat},
    depth + v.source.length ≤ ev.options.maxDepth + 1 →
      ev.atom depth v.source = .ok (some v.readBack) := by
  refine Value.IsLiteral.induction (P := fun v => ∀ {depth : Nat},
    depth + v.source.length ≤ ev.options.maxDepth + 1 →
      ev.atom depth v.source = .ok (some v.readBack)) ?_ ?_ v hv
  · intro v hv hlist depth hdepth
    have hlength := List.length_pos_iff.mpr (Value.isArgument_source hv).tight.ne_nil
    obtain ⟨l, htext, hvalue⟩ := Value.exists_literal hv hlist
    rw [← htext, atom_literal ev (by omega), hvalue]
  · intro items hitems depth hdepth
    have hargument : ∀ v ∈ items, IsArgument v.source :=
      fun v hv => Value.isArgument_source (hitems v hv).1
    have hlast := Value.getLast?_source_list items
    have hquoted : Atom.quoted? (Value.list items).source = none :=
      Atom.quoted?_of_getLast?_ne (by rw [hlast]; decide) (by rw [hlast]; decide)
    have hbracketed : Atom.bracketed? (Value.list items).source = some (Value.listSource items) :=
      dropLast?_eq_some_iff.mpr rfl
    have hlength : (Value.list items).source.length = (Value.listSource items).length + 2 := by
      simp [Value.source]
    have hshorter : ∀ v ∈ items, v.source.length ≤ (Value.listSource items).length := by
      intro v hv
      have hjoined := Value.joined_listSource (List.ne_nil_of_mem hv)
      have hle := (hjoined.length_le (by decide)).2 v.source (List.mem_map_of_mem hv)
      have hpos : 0 < (items.map Value.source).length := by
        rw [List.length_map]
        exact List.length_pos_of_mem hv
      omega
    have hvalues : (items.map Value.source).map (ev.atom (depth + 1))
        = (items.map fun v => some v.readBack).map .ok := by
      rw [List.map_map, List.map_map]
      refine List.map_congr_left fun v hv => (hitems v hv).2 ?_
      have := hshorter v hv
      omega
    rw [atom_eq, if_neg (by omega), (Value.tight_source_list items).trim_eq,
      Atom.ofText_of_mem (by decide : isWordPart ']' = false) (List.mem_of_getLast? hlast) hquoted,
      hbracketed, Value.readBack_list]
    simp only [Atom.evaluate, Value.items_listSource hargument, hvalues, Evaluation.collect_ok]
    simp [bind, Except.bind, pure, Except.pure, Resolved.orNull]

/-- A membership has a truth value, if any. -/
theorem among_eq_ok {depth : Nat} {value items : List Char} {r : Resolved}
    (h : ev.among depth value items = .ok r) : ∃ b, r = some (.bool b) := by
  unfold among at h
  cases hvalue : ev.eval depth value with
  | error e => simp [hvalue, bind, Except.bind] at h
  | ok v =>
    cases hitems : Evaluation.collect ((Scan.items items).map (ev.atom depth)) with
    | error e => simp [hvalue, hitems, bind, Except.bind] at h
    | ok vs =>
      simp only [hvalue, hitems, bind, Except.bind, pure, Except.pure, Except.ok.injEq] at h
      exact ⟨_, h.symm⟩

/-- The text of a list is a list or a membership. -/
theorem eval_source_list {items : List Value} (hitems : (Value.list items).IsLiteral)
    (hdepth : (Value.list items).source.length ≤ ev.options.maxDepth) :
    ev.eval 0 (Value.list items).source =
      match Shape.beforeTail? Shape.membershipTail? (Value.list items).source with
      | some (value, found) => ev.among 1 (trim value) found
      | none => .ok (some (Value.list items).readBack) := by
  have hargument : ∀ v ∈ items, IsArgument v.source :=
    fun v hv => Value.isArgument_source (Value.listIsLiteral_iff.mp hitems v hv)
  have hlast := Value.getLast?_source_list items
  have hround : (Value.list items).source.getLast? ≠ some ')' := by
    rw [hlast]
    decide
  have havoids : Shape.Avoids (Shape.branching ++ Shape.comparing) (Value.list items).source :=
    Shape.Avoids.enclosed .square (Value.balanced_listSource hargument) (by decide)
  rw [eval_of_tight ev (Nat.zero_le _) (Value.tight_source_list items),
    Shape.ofText_of_no_operator havoids (by simp [Value.source]) (by simp [Value.source]) hround]
  cases Shape.beforeTail? Shape.membershipTail? (Value.list items).source with
  | some found => rfl
  | none =>
    simp only [Shape.evaluate]
    rw [operand_eq, Call.ofText?_of_getLast?_ne hround]
    exact atom_source ev hitems (by omega)

/-- A literal is no template. -/
theorem tryEvaluate_source_eq {v : Value} (hv : v.IsLiteral) :
    ev.tryEvaluate (String.ofList v.source) = ev.eval 0 v.source := by
  have hargument := Value.isArgument_source hv
  have h := tryEvaluate_of_tight ev hargument.tight
    (v.head?_source_ne (by decide) (by decide)) hargument.balanced .none .none
  simpa using h

section Read

variable {v : Value} (hv : v.IsLiteral) (hdepth : v.source.length + 1 ≤ ev.options.maxDepth)

include hv hdepth

theorem eval_source (hno : ¬ ∃ value items, Shape.MembershipAt v.source value items) :
    ev.eval 0 v.source = .ok (some v.readBack) := by
  by_cases hlist : ∃ items, v = .list items
  · obtain ⟨items, rfl⟩ := hlist
    rw [eval_source_list ev hv (by omega)]
    cases hread : Shape.beforeTail? Shape.membershipTail? (Value.list items).source with
    | none => rfl
    | some found => exact absurd ⟨_, _, Shape.membershipAt_of_beforeTail? hread⟩ hno
  · obtain ⟨l, htext, hvalue⟩ := Value.exists_literal hv (not_exists.mp hlist)
    rw [← htext, eval_literal ev (Nat.zero_le _) l (by omega), hvalue]

theorem eval_source_of_membership
    (h : ∃ value items, Shape.MembershipAt v.source value items) :
    ∃ value items, Shape.MembershipAt v.source value items ∧
      ev.eval 0 v.source = ev.among 1 (trim value) items ∧
      ev.eval 0 v.source ≠ .ok (some v.readBack) := by
  obtain ⟨value, items, hat⟩ := h
  by_cases hlist : ∃ items, v = .list items
  · obtain ⟨elements, rfl⟩ := hlist
    obtain ⟨⟨value, items⟩, hread, -⟩ := hat.exists_beforeTail?
    have heval := eval_source_list ev hv (by omega)
    rw [hread] at heval
    refine ⟨value, items, Shape.membershipAt_of_beforeTail? hread, heval, fun hok => ?_⟩
    obtain ⟨b, hb⟩ := among_eq_ok ev (heval.symm.trans hok)
    rw [Value.readBack_list] at hb
    simp at hb
  · obtain ⟨l, htext, -⟩ := Value.exists_literal hv (not_exists.mp hlist)
    exact absurd (htext ▸ hat.getLast?_eq)
      (Literal.getLast?_ne (by decide : Foreign [']']) List.mem_cons_self)

end Read

/-- **The literal of a value is read back**, in every context and under every limit above its
length in bytes, unless a membership is read in it; then that membership is what it evaluates to.
It takes a string of the value to hide one. -/
theorem tryEvaluate_source (context : Context) {v : Value} (hv : v.IsLiteral) {maxDepth : Nat}
    (hdepth : (String.ofList v.source).utf8ByteSize + 1 ≤ maxDepth) :
    let ev : Evaluator := ⟨context, ⟨maxDepth⟩⟩
    ((∀ s ∈ v.strings, ¬ HidesMembershipStart s.toList) →
      ev.tryEvaluate (String.ofList v.source) = .ok (some v.readBack)) ∧
    (ev.tryEvaluate (String.ofList v.source) = .ok (some v.readBack) ↔
      ¬ ∃ value items, Shape.MembershipAt v.source value items) ∧
    ((∃ value items, Shape.MembershipAt v.source value items) →
      ∃ value items, Shape.MembershipAt v.source value items ∧
        ev.tryEvaluate (String.ofList v.source) = ev.among 1 (trim value) items) := by
  intro ev
  have hlength := length_le_utf8ByteSize v.source
  have hdepth : v.source.length + 1 ≤ ev.options.maxDepth := by
    simp only [ev]
    omega
  rw [tryEvaluate_source_eq ev hv]
  refine ⟨fun hstrings => eval_source ev hv hdepth ?_, ⟨fun hok hat => ?_,
    eval_source ev hv hdepth⟩, fun hat => ?_⟩
  · rintro ⟨value, items, hat⟩
    obtain ⟨s, hs, hides⟩ := Value.exists_hides_of_source hv hat.hidesMembershipStart
    exact hstrings s hs hides
  · obtain ⟨_, _, -, -, hne⟩ := eval_source_of_membership ev hv hdepth hat
    exact hne hok
  · obtain ⟨value, items, hat, heval, -⟩ := eval_source_of_membership ev hv hdepth hat
    exact ⟨value, items, hat, heval⟩

/-- Structure in strings, a negative zero and an infinite number, nested lists and an empty one. -/
theorem tryEvaluate_source_of_unusual_list :
    let content : String := "a, ']' ?? ("
    let v : Value := .list [.string content, .list [.number (.finite true .zero), .null],
      .number (.infinite true), .list []]
    v.IsLiteral ∧ (∀ s ∈ v.strings, ¬ HidesMembershipStart s.toList) ∧
    (String.ofList v.source).utf8ByteSize + 1 ≤ 64 ∧
    (⟨{}, ⟨64⟩⟩ : Evaluator).tryEvaluate (String.ofList v.source)
      = .ok (some (.list [.string content, .list [.number .zero, .null],
          .number (.infinite true), .list []])) := by
  intro content v
  have hv : v.IsLiteral := by
    simp [v, content, Value.IsLiteral, Value.listIsLiteral, IsQuotable, Binary64.isNaN]
  have hstrings : ∀ s ∈ v.strings, ¬ HidesMembershipStart s.toList :=
    List.forall_mem_singleton.mpr (not_hidesMembershipStart_of_not_mem (by decide))
  have hbytes : (String.ofList v.source).utf8ByteSize + 1 ≤ 64 := by decide
  exact ⟨hv, hstrings, hbytes, (tryEvaluate_source {} hv hbytes).1 hstrings⟩

/-- `["a in [b"]` asks whether `["a` is among `b"`. -/
theorem not_tryEvaluate_source_of_hidden_membership :
    ¬ ∀ (context : Context) (v : Value) (maxDepth : Nat), v.IsLiteral →
        (String.ofList v.source).utf8ByteSize + 1 ≤ maxDepth →
        (⟨context, ⟨maxDepth⟩⟩ : Evaluator).tryEvaluate (String.ofList v.source)
          = .ok (some v.readBack) := by
  intro h
  let content : String := "a in [b"
  let v : Value := .list [.string content]
  have hv : v.IsLiteral := by
    simp [v, content, Value.IsLiteral, Value.listIsLiteral, IsQuotable]
  have hmeant := h {} v 64 hv (by decide)
  have hshape : Shape.ofText (trim v.source)
      = .membership "[\"a".toList "b\"".toList := by decide
  have hread : (⟨{}, ⟨64⟩⟩ : Evaluator).eval 0 v.source = .ok (some (.bool true)) :=
    eval_membership_of_undefined _ (by decide) hshape (by decide) ⟨by decide, rfl⟩
      ⟨by decide, by decide, by decide, rfl⟩
  rw [tryEvaluate_source_eq _ hv, hread, Value.readBack_list] at hmeant
  simp at hmeant

end Evaluator

end FormLogic
