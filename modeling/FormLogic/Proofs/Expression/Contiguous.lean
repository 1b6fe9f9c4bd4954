import FormLogic.Expression.Decoration
import FormLogic.Expression.Evaluator
import FormLogic.Proofs.Scan.Ternary

/-!
# Parts are pieces of their text

Whatever the evaluator takes out of a text stands in it as it is, without a gap: the trimmed
text, the text without its decorations, the pieces between operators, arguments and items, the
parts of every form, and the name of a call.  So what is looked up while a text is evaluated
stands in that text.
-/

namespace FormLogic

/-! ## 1. Ends taken off -/

namespace Text

theorem suffix_trimStart (cs : List Char) : trimStart cs <:+ cs := List.dropWhile_suffix _

theorem prefix_trimEnd (cs : List Char) : trimEnd cs <+: cs := by
  rw [← List.reverse_suffix]
  simpa [trimEnd] using List.dropWhile_suffix isBlank (l := cs.reverse)

theorem infix_trim (cs : List Char) : trim cs <:+: cs :=
  (prefix_trimEnd _).isInfix.trans (suffix_trimStart cs).isInfix

theorem eq_append_of_dropPrefix? {start cs rest : List Char}
    (h : dropPrefix? start cs = some rest) : cs = start ++ rest := by
  induction start generalizing cs with
  | nil => simpa [dropPrefix?] using h
  | cons s start ih =>
    cases cs with
    | nil => simp [dropPrefix?] at h
    | cons c cs =>
      simp only [dropPrefix?] at h
      split at h
      · next hsc => rw [ih h, hsc, List.cons_append]
      · simp at h

theorem dropPrefix?_append (start cs : List Char) : dropPrefix? start (start ++ cs) = some cs := by
  induction start with
  | nil => rfl
  | cons s start ih => simpa [dropPrefix?] using ih

theorem dropPrefix?_eq_some_iff {start cs rest : List Char} :
    dropPrefix? start cs = some rest ↔ cs = start ++ rest :=
  ⟨eq_append_of_dropPrefix?, fun h => h ▸ dropPrefix?_append start rest⟩

theorem dropPrefix?_eq_none {start cs : List Char} (h : ¬ start <+: cs) :
    dropPrefix? start cs = none := by
  cases hdrop : dropPrefix? start cs with
  | none => rfl
  | some rest => exact absurd ⟨rest, (eq_append_of_dropPrefix? hdrop).symm⟩ h

theorem dropLast?_eq_some_iff {c : Char} {cs rest : List Char} :
    dropLast? c cs = some rest ↔ cs = rest ++ [c] := by
  constructor
  · intro h
    simp only [dropLast?] at h
    split at h
    · next hlast =>
      obtain ⟨start, rfl⟩ := List.getLast?_eq_some_iff.mp hlast
      obtain rfl : start = rest := by simpa using h
      rfl
    · simp at h
  · rintro rfl
    simp [dropLast?]

theorem suffix_of_dropPrefix? {start cs rest : List Char} (h : dropPrefix? start cs = some rest) :
    rest <:+ cs := ⟨start, (eq_append_of_dropPrefix? h).symm⟩

theorem prefix_of_dropLast? {c : Char} {cs rest : List Char} (h : dropLast? c cs = some rest) :
    rest <+: cs := ⟨[c], (dropLast?_eq_some_iff.mp h).symm⟩

theorem infix_stripTemplate (cs : List Char) : stripTemplate cs <:+: cs := by
  simp only [stripTemplate]
  split
  · next inside h =>
    obtain ⟨rest, h1, h2⟩ := Option.bind_eq_some_iff.mp h
    exact (infix_trim inside).trans <| (prefix_of_dropLast? h2).isInfix.trans <|
      (suffix_of_dropPrefix? h1).isInfix.trans (infix_trim cs)
  · exact infix_trim cs

/-- A keyword at the beginning is taken off, and blank characters after it. -/
theorem infix_afterKeyword (keyword cs : List Char) :
    (match dropPrefix? keyword cs with
      | some rest => trim rest
      | none => cs) <:+: cs := by
  split
  · next rest h => exact (infix_trim rest).trans (suffix_of_dropPrefix? h).isInfix
  · exact List.infix_refl cs

theorem infix_stripStatement (cs : List Char) : stripStatement cs <:+: cs := by
  have hreturn := (infix_afterKeyword ['r', 'e', 't', 'u', 'r', 'n', ' '] (trim cs)).trans
    (infix_trim cs)
  simp only [stripStatement]
  split
  · next rest h =>
    exact (infix_trim rest).trans ((prefix_of_dropLast? h).isInfix.trans hreturn)
  · exact hreturn

end Text

/-! ## 2. What the scanner cuts out -/

namespace Scan

/-- The pieces lie in the text, and when nothing of it is passed over the first piece begins
it. -/
theorem infix_splitFrom (op : List Char) (s : State) (escaped : Bool) (skip : Nat)
    (cs : List Char) :
    (∀ p ∈ splitFrom op s escaped skip cs, p <:+: cs) ∧
      (skip = 0 → ∀ p ∈ (splitFrom op s escaped skip cs).head?, p <+: cs) := by
  induction cs generalizing s escaped skip with
  | nil => simp [splitFrom]
  | cons c cs ih =>
    cases skip with
    | succ skip =>
      obtain ⟨hall, -⟩ := ih s (c == '\\') skip
      simp only [splitFrom]
      exact ⟨fun p hp => List.infix_cons (hall p hp), by simp⟩
    | zero =>
      simp only [splitFrom]
      split
      · obtain ⟨hall, -⟩ := ih (s.step escaped c) (c == '\\') (op.length - 1)
        constructor
        · intro p hp
          rcases List.mem_cons.mp hp with rfl | hp
          · exact List.nil_infix
          · exact List.infix_cons (hall p hp)
        · intro _ p hp
          obtain rfl : [] = p := by simpa using hp
          exact List.nil_prefix
      · obtain ⟨hall, hhead⟩ := ih (s.step escaped c) (c == '\\') 0
        split
        · next piece pieces heq =>
          rw [heq] at hall hhead
          have hpiece : c :: piece <+: c :: cs :=
            (List.prefix_cons_inj c).mpr (hhead rfl piece (by simp))
          constructor
          · intro p hp
            rcases List.mem_cons.mp hp with rfl | hp
            · exact hpiece.isInfix
            · exact List.infix_cons (hall p (List.mem_cons_of_mem _ hp))
          · intro _ p hp
            obtain rfl : c :: piece = p := by simpa using hp
            exact hpiece
        · next heq => exact absurd heq (length_splitFrom ..).1

theorem infix_of_mem_split {op cs p : List Char} (h : p ∈ split op cs) : p <:+: cs :=
  (infix_splitFrom op .start false 0 cs).1 p h

theorem infix_of_sides? {op cs l r : List Char} (h : sides? op cs = some (l, r)) :
    l <:+: cs ∧ r <:+: cs := by
  simp only [sides?] at h
  split at h
  · next heq =>
    simp only [Option.some.injEq, Prod.mk.injEq] at h
    obtain ⟨rfl, rfl⟩ := h
    constructor <;> exact @infix_of_mem_split op _ _ (by simp [heq])
  · simp at h

/-- The trimmed pieces of a trimmed list lie in it. -/
theorem infix_of_mem_map_trim {op cs p : List Char} (h : p ∈ (split op cs).map Text.trim) :
    p <:+: cs := by
  obtain ⟨q, hq, rfl⟩ := List.mem_map.mp h
  exact (Text.infix_trim q).trans (infix_of_mem_split hq)

theorem infix_of_mem_arguments {cs a : List Char} (h : a ∈ arguments cs) : a <:+: cs := by
  have key : ∀ p ∈ (split [','] (Text.trim cs)).map Text.trim, p <:+: cs :=
    fun p hp => (infix_of_mem_map_trim hp).trans (Text.infix_trim cs)
  simp only [arguments] at h
  split at h
  · simp at h
  · split at h
    · exact key a ((List.dropLast_sublist _).mem h)
    · exact key a h

theorem infix_of_mem_items {cs a : List Char} (h : a ∈ items cs) : a <:+: cs :=
  infix_of_mem_map_trim (List.mem_filter.mp h).1

/-- The parts of a ternary are the ends and the middle of the text around two marks. -/
theorem infix_of_ternary? {cs : List Char} {t : Ternary} (h : ternary? cs = some t) :
    t.condition <:+: cs ∧ t.whenTrue <:+: cs ∧ t.whenFalse <:+: cs := by
  obtain ⟨before, middle, after, hternary, rfl⟩ := ternary?_eq_some_iff.mp h
  have htext := congrArg (List.map Prod.fst) hternary.text
  simp only [map_fst_marks, List.map_append, List.map_cons] at htext
  rw [htext]
  refine ⟨(Text.infix_trim _).trans ?_, (Text.infix_trim _).trans ?_,
    (Text.infix_trim _).trans ?_⟩
  · exact ⟨[], _, rfl⟩
  · exact ⟨before.map Prod.fst ++ ['?'], ':' :: after.map Prod.fst, by simp⟩
  · exact ⟨before.map Prod.fst ++ '?' :: (middle.map Prod.fst ++ [':']), [], by simp⟩

theorem eq_parens_of_group? {cs inner : List Char} (h : group? cs = some inner) :
    cs = '(' :: (inner ++ [')']) := by
  unfold group? at h
  split at h
  · next rest =>
    split at h
    · next hc =>
      obtain rfl : rest.dropLast = inner := by simpa using h
      obtain ⟨inner, rfl⟩ := List.getLast?_eq_some_iff.mp hc.1
      simp
    · simp at h
  · simp at h

theorem infix_of_group? {cs inner : List Char} (h : group? cs = some inner) : inner <:+: cs :=
  ⟨['('], [')'], by simp [eq_parens_of_group? h]⟩

end Scan

/-! ## 3. The parts of a form -/

namespace Shape

theorem infix_of_enclosed? {close : Char} {cs inside : List Char}
    (h : enclosed? close cs = some inside) : inside <:+: cs := by
  simp only [enclosed?, Option.bind_eq_bind, Option.bind_eq_some_iff] at h
  obtain ⟨x, hx, h⟩ := h
  split at h
  · simp at h
  · obtain rfl : x = inside := by simpa using h
    exact (Text.prefix_of_dropLast? hx).isInfix

theorem infix_of_membershipTail? {cs inside : List Char}
    (h : membershipTail? cs = some inside) : inside <:+: cs := by
  unfold membershipTail? at h
  split at h
  · next c rest =>
    split at h
    · simp at h
    · split at h
      · next d rest' hp =>
        split at h
        · simp at h
        · split at h
          · next rest'' ht =>
            have hin : inside <:+: Text.trimStart rest' := by
              rw [ht]
              exact List.infix_cons (infix_of_enclosed? h)
            refine List.infix_cons ?_
            exact hin.trans <| (Text.suffix_trimStart rest').isInfix.trans <|
              (List.suffix_cons d rest').isInfix.trans <|
              (Text.suffix_of_dropPrefix? hp).isInfix.trans (Text.suffix_trimStart rest).isInfix
          · simp at h
      · simp at h
  · simp at h

theorem infix_of_containmentTail? {cs inside : List Char}
    (h : containmentTail? cs = some inside) : inside <:+: cs := by
  obtain ⟨rest, h1, h2⟩ := Option.bind_eq_some_iff.mp h
  exact (infix_of_enclosed? h2).trans (Text.suffix_of_dropPrefix? h1).isInfix

theorem infix_of_beforeTail? {tail? : List Char → Option (List Char)}
    (htail : ∀ {cs inside}, tail? cs = some inside → inside <:+: cs)
    {cs before inside : List Char} (h : beforeTail? tail? cs = some (before, inside)) :
    before <+: cs ∧ inside <:+: cs := by
  induction cs generalizing before with
  | nil => simp [beforeTail?] at h
  | cons c rest ih =>
    simp only [beforeTail?] at h
    split at h
    · simp at h
    · split at h
      · next hin =>
        simp only [Option.some.injEq, Prod.mk.injEq] at h
        obtain ⟨rfl, rfl⟩ := h
        exact ⟨(List.prefix_cons_inj c).mpr List.nil_prefix, List.infix_cons (htail hin)⟩
      · simp only [Option.map_eq_some_iff] at h
        obtain ⟨⟨b, i⟩, hb, h⟩ := h
        simp only [Prod.mk.injEq] at h
        obtain ⟨rfl, rfl⟩ := h
        obtain ⟨hbefore, hinside⟩ := ih hb
        exact ⟨(List.prefix_cons_inj c).mpr hbefore, List.infix_cons hinside⟩

theorem infix_of_negated? {cs inner : List Char} (h : negated? cs = some inner) :
    inner <:+: cs := by
  unfold negated? at h
  split at h
  · simp at h
  · next rest _ =>
    obtain rfl : (Scan.group? (Text.trim rest)).getD (Text.trim rest) = inner := by simpa using h
    refine List.infix_cons (List.IsInfix.trans ?_ (Text.infix_trim rest))
    cases hg : Scan.group? (Text.trim rest) with
    | none => exact List.infix_rfl
    | some g => exact Scan.infix_of_group? hg
  · simp at h

theorem infix_of_comparison? {cs l r : List Char} {op : Comparison}
    (h : comparison? cs = some (op, l, r)) : l <:+: cs ∧ r <:+: cs := by
  obtain ⟨o, -, h⟩ := List.exists_of_findSome?_eq_some h
  simp only [Option.map_eq_some_iff] at h
  obtain ⟨⟨a, b⟩, hs, h⟩ := h
  simp only [Prod.mk.injEq] at h
  obtain ⟨-, rfl, rfl⟩ := h
  obtain ⟨ha, hb⟩ := Scan.infix_of_sides? hs
  exact ⟨(Text.infix_trim a).trans ha, (Text.infix_trim b).trans hb⟩

theorem infix_of_branches? {op cs p : List Char} {bs : List (List Char)}
    (h : branches? op cs = some bs) (hp : p ∈ bs) : p <:+: cs := by
  simp only [branches?] at h
  split at h
  · obtain rfl : Scan.split op cs = bs := by simpa using h
    exact Scan.infix_of_mem_split hp
  · simp at h

/-- **Every part of a form is a piece of its text.** -/
theorem infix_of_mem_parts {cs p : List Char} (h : p ∈ (ofText cs).parts) : p <:+: cs := by
  unfold ofText at h
  split at h
  · next ht =>
    obtain ⟨h1, h2, h3⟩ := Scan.infix_of_ternary? ht
    simp only [parts, List.mem_cons, List.not_mem_nil, or_false] at h
    rcases h with rfl | rfl | rfl <;> assumption
  split at h
  · next ht =>
    obtain ⟨h1, h2⟩ := Scan.infix_of_sides? ht
    simp only [parts, List.mem_cons, List.not_mem_nil, or_false] at h
    rcases h with rfl | rfl <;> assumption
  split at h
  · next ht => exact infix_of_branches? ht h
  split at h
  · next ht => exact infix_of_branches? ht h
  split at h
  · next ht =>
    obtain rfl := List.mem_singleton.mp h
    exact infix_of_negated? ht
  split at h
  · next ht =>
    obtain rfl := List.mem_singleton.mp h
    exact Scan.infix_of_group? ht
  split at h
  · next ht =>
    obtain ⟨h1, h2⟩ := infix_of_comparison? ht
    simp only [parts, List.mem_cons, List.not_mem_nil, or_false] at h
    rcases h with rfl | rfl <;> assumption
  split at h
  · next v is ht =>
    obtain ⟨h1, h2⟩ := infix_of_beforeTail? infix_of_membershipTail? ht
    simp only [parts, List.mem_cons, List.not_mem_nil, or_false] at h
    rcases h with rfl | rfl
    · exact (Text.infix_trim v).trans h1.isInfix
    · exact h2
  split at h
  · next c n ht =>
    obtain ⟨h1, h2⟩ := infix_of_beforeTail? infix_of_containmentTail? ht
    simp only [parts, List.mem_cons, List.not_mem_nil, or_false] at h
    rcases h with rfl | rfl
    · exact (Text.infix_trim c).trans h1.isInfix
    · exact (Text.infix_trim n).trans h2
  · simp [parts] at h

end Shape

/-! ## 4. Calls and literals -/

namespace Call

theorem infix_name {cs : List Char} {call : Call} (h : ofText? cs = some call) :
    call.name <:+: cs := by
  simp only [ofText?, Option.bind_eq_bind, Option.pure_def] at h
  split at h
  · simp at h
  · obtain ⟨inside, -, h⟩ := Option.bind_eq_some_iff.mp h
    obtain rfl := by simpa using h
    exact (Text.infix_trim _).trans (List.takeWhile_prefix _).isInfix

theorem infix_of_mem_arguments {cs a : List Char} {call : Call} (h : ofText? cs = some call)
    (ha : a ∈ call.arguments) : a <:+: cs := by
  simp only [ofText?, Option.bind_eq_bind, Option.pure_def] at h
  split at h
  · simp at h
  · obtain ⟨inside, hg, h⟩ := Option.bind_eq_some_iff.mp h
    obtain rfl := by simpa using h
    exact (Scan.infix_of_mem_arguments ha).trans <|
      (Scan.infix_of_group? hg).trans (List.dropWhile_suffix _).isInfix

end Call

theorem Atom.infix_of_list {cs body : List Char} (h : ofText cs = list body) : body <:+: cs := by
  unfold ofText at h
  iterate 5
    split at h
    · simp at h
  split at h
  · next hb =>
    obtain rfl := by simpa using h
    unfold bracketed? at hb
    split at hb
    · exact List.infix_cons (Text.prefix_of_dropLast? hb).isInfix
    · simp at hb
  · simp at h

end FormLogic
