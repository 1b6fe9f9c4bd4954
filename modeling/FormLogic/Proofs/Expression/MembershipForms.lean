import FormLogic.Proofs.Expression.Call
import FormLogic.Proofs.Expression.Composition
import FormLogic.Proofs.Expression.Enclosed
import FormLogic.Proofs.Expression.Membership
import FormLogic.Proofs.Value.Equality

/-!
# Three ways to ask whether a value is among others

`needle in [item, ...]`, `includes([item, ...], needle)` and `collection.contains(needle)` are read
by three different rules, and they hold the needle against the items from either side.  Where no
bracket and no line break stands in the literals each of the texts is read as the form that it
looks like, and all three have the same value.  They differ in the levels of nesting that they use:
the helper has its list evaluated as an argument, one level further down.
-/

namespace FormLogic

open Scan Text

/-! ## 1. Literals in which no form is hidden -/

/-- No bracket and no line break stands in the literal; only a string can have one. -/
def Literal.IsSimple (l : Literal) : Prop := Shape.Apart ['(', ')', '[', ']', '\n'] l.text

instance (l : Literal) : Decidable l.IsSimple :=
  inferInstanceAs (Decidable (Shape.Apart ['(', ')', '[', ']', '\n'] l.text))

/-- The text `[inside]`. -/
def listText (inside : List Char) : List Char := '[' :: (inside ++ [']'])

theorem tight_listText (inside : List Char) : Tight (listText inside) :=
  Tight.of_ends (by decide) (by decide) inside

theorem getLast?_listText_ne (inside : List Char) : (listText inside).getLast? ≠ some ')' := by
  rw [listText, ← List.cons_append, List.getLast?_concat]
  decide

/-- What stands in no part and in no operator does not stand in the joined text. -/
theorem Joined.not_mem {op text : List Char} {ts : List (List Char)} {c : Char}
    (h : Joined op ts text) (hop : c ∉ op) (hc : isBlank c = false) (hts : ∀ t ∈ ts, c ∉ t) :
    c ∉ text := by
  have hblanks : ∀ b : Blanks, c ∉ b.1 := fun b hmem => by simp [b.2 c hmem] at hc
  induction h with
  | one t => exact hts t List.mem_cons_self
  | cons t b b' _ ih =>
    have hrest := ih fun u hu => hts u (List.mem_cons_of_mem _ hu)
    simp [hts t List.mem_cons_self, hblanks, hop, hrest]

theorem Joined.ne_nil {op text : List Char} {ts : List (List Char)} (h : Joined op ts text) :
    ts ≠ [] := by
  cases h <;> exact List.cons_ne_nil _ _

theorem Arguments.not_mem {inside : List Char} {ts : List (List Char)} {c : Char}
    (h : Arguments ts inside) (hcomma : c ≠ ',') (hc : isBlank c = false) (hts : ∀ t ∈ ts, c ∉ t) :
    c ∉ inside := by
  have hblanks : ∀ b : Blanks, c ∉ b.1 := fun b hmem => by simp [b.2 c hmem] at hc
  cases h with
  | blank b => exact hblanks b
  | list b b' hjoined =>
    have htext := hjoined.not_mem (by simpa using hcomma) hc hts
    simp [hblanks, htext]

/-! ## 2. The forms of the texts -/

namespace Shape

/-- The text `collection.contains(needle)`. -/
def containmentText (collection needle : List Char) : List Char :=
  collection ++ (containmentStart ++ (needle ++ [')']))

/-- **A containment is read where it stands**: in front of its parenthesis there is no other. -/
theorem beforeTail?_containmentText {collection needle : List Char} (hword : IsWord collection)
    (hne : needle ≠ []) (hline : '\n' ∉ needle) :
    beforeTail? containmentTail? (containmentText collection needle)
      = some (collection, needle) := by
  refine beforeTail?_append hword.nonempty (hword.not_mem (by decide))
    (containmentTail?_eq_some_iff.mpr ⟨rfl, hne, hline⟩) ?_
  intro a b hcollection _ hb
  rw [Option.eq_none_iff_forall_ne_some]
  intro found hfound
  obtain ⟨htext, -⟩ := containmentTail?_eq_some_iff.mp hfound
  have hparen : ∀ c ∈ b, (c != '(') = true := by
    intro c hc
    rw [bne_iff_ne]
    rintro rfl
    exact hword.not_mem (by decide) (hcollection ▸ List.mem_append_right a hc)
  -- up to the first parenthesis the two texts are `.contains`, once with `b` before it
  have hname := congrArg (List.takeWhile (· != '(')) htext
  rw [List.takeWhile_append_of_pos hparen] at hname
  exact hb (by simpa [containmentStart] using hname)

theorem ofText_containmentText {collection needle : List Char} (hword : IsWord collection)
    (hneedle : Tight needle) (hbalanced : Balance.check needle = .ok ()) (hline : '\n' ∉ needle) :
    ofText (containmentText collection needle) = .containment collection needle := by
  have hcontains : IsWord ['.', 'c', 'o', 'n', 't', 'a', 'i', 'n', 's'] := by decide
  have hname : IsWord (collection ++ ['.', 'c', 'o', 'n', 't', 'a', 'i', 'n', 's']) :=
    ⟨List.append_ne_nil_of_left_ne_nil hword.nonempty _,
      List.forall_mem_append.mpr ⟨hword.parts, hcontains.parts⟩⟩
  have htext : containmentText collection needle
      = (collection ++ ['.', 'c', 'o', 'n', 't', 'a', 'i', 'n', 's'])
          ++ ('(' :: (needle ++ [')'])) := by
    simp [containmentText, containmentStart]
  have hread := beforeTail?_containmentText hword hneedle.ne_nil hline
  rw [htext] at hread ⊢
  simp only [ofText_parenthesized_of_word hname hbalanced, hread, hword.tight.trim_eq,
    hneedle.trim_eq]

/-- A list with no bracket in it has no form of its own. -/
theorem ofText_listText {inside : List Char} (hbalanced : Balance.check inside = .ok ())
    (hsquare : '[' ∉ inside) : ofText (listText inside) = .operand := by
  have hread : beforeTail? membershipTail? (listText inside) = none := by
    rw [Option.eq_none_iff_forall_ne_some]
    rintro ⟨value, items⟩ hfound
    have hat := membershipAt_of_beforeTail? hfound
    obtain ⟨b, b', -, -, htext⟩ := hat.text
    obtain ⟨c, value, rfl⟩ := List.exists_cons_of_ne_nil hat.value_ne_nil
    -- the bracket of the membership is another one than that of the list
    have hmem : '[' ∈ inside ++ [']'] := by
      rw [(List.cons.inj htext).2]
      simp [membershipStart]
    exact hsquare (by simpa using hmem)
  have havoids : Avoids (branching ++ comparing) (listText inside) :=
    Avoids.enclosed .square hbalanced (by decide)
  rw [ofText_of_no_operator havoids (by simp [listText]) (by simp [listText])
    (getLast?_listText_ne inside), hread]

end Shape

/-! ## 3. The levels that a text uses -/

namespace Evaluator

variable (ev : Evaluator)

/-- **The outcome of a text that is read down to a depth**: its value, or the error of the limit
when the depth is beyond it. -/
def downTo (depth : Nat) (value : Resolved) : Evaluation :=
  if depth ≤ ev.options.maxDepth then .ok value
  else .error (.depthExceeded ev.options.maxDepth)

variable {ev} {depth : Nat}

theorem downTo_of_le (h : depth ≤ ev.options.maxDepth) (value : Resolved) :
    ev.downTo depth value = .ok value := if_pos h

theorem downTo_of_lt (h : ev.options.maxDepth < depth) (value : Resolved) :
    ev.downTo depth value = .error (.depthExceeded ev.options.maxDepth) := if_neg (by omega)

/-- What is read one after the other is read down to the deepest of the levels. -/
theorem downTo_bind (below : Nat) {deep : Nat} {value result : Resolved}
    {next : Resolved → Evaluation} (hdeep : deep = max depth below)
    (hnext : next value = ev.downTo below result) :
    (do let v ← ev.downTo depth value; next v) = ev.downTo deep result := by
  rcases Nat.lt_or_ge ev.options.maxDepth depth with h | h
  · rw [downTo_of_lt h, downTo_of_lt (by omega)]
    rfl
  · have hread : (do let v ← ev.downTo depth value; next v) = next value := by
      rw [downTo_of_le h]
      rfl
    rw [hread, hnext, hdeep]
    simp only [downTo, Nat.max_le, h, true_and]

theorem downTo_zero (value : Resolved) : ev.downTo 0 value = .ok value :=
  downTo_of_le (Nat.zero_le _) value

variable (ev) (depth)

theorem collect_downTo {values : List Resolved} (hne : values ≠ [])
    (f : List Resolved → Resolved) :
    (do let vs ← Evaluation.collect (values.map (ev.downTo depth)); return f vs)
      = ev.downTo depth (f values) := by
  rcases Nat.lt_or_ge ev.options.maxDepth depth with h | h
  · obtain ⟨value, values, rfl⟩ := List.exists_cons_of_ne_nil hne
    rw [List.map_cons, downTo_of_lt h, downTo_of_lt h]
    rfl
  · have hvalues : values.map (ev.downTo depth) = values.map .ok :=
      List.map_congr_left fun value _ => downTo_of_le h value
    rw [hvalues, Evaluation.collect_ok, downTo_of_le h]
    rfl

theorem atom_literal_downTo (l : Literal) :
    ev.atom depth l.text = ev.downTo depth (l.value ev.context) := by
  rcases Nat.lt_or_ge ev.options.maxDepth depth with h | h
  · rw [atom_eq, if_pos h, downTo_of_lt h]
  · rw [atom_literal ev h, downTo_of_le h]

/-- A text that is an operand and no call is read as a literal one level further down. -/
theorem eval_of_operand {cs : List Char} (htight : Tight cs) (hshape : Shape.ofText cs = .operand)
    (hcall : Call.ofText? cs = none) {below : Nat} {value : Resolved}
    (hatom : ev.atom (depth + 1) cs = ev.downTo below value) (hbelow : depth < below) :
    ev.eval depth cs = ev.downTo below value := by
  refine eval_form ev depth htight ?_ ?_
  · intro h
    exact downTo_of_lt (by omega) value
  · rw [hshape, Shape.evaluate, operand_eq, hcall]
    exact hatom

theorem eval_literal_downTo (l : Literal) :
    ev.eval depth l.text = ev.downTo (depth + 1) (l.value ev.context) :=
  eval_of_operand ev depth l.tight l.shape_eq_operand l.call_eq_none
    (atom_literal_downTo ev (depth + 1) l) (Nat.lt_succ_self depth)

section List

variable {items : List Literal} {text : List Char}
  (hitems : Joined [','] (items.map Literal.text) text) (b b' : Blanks)

/-- The values of the items of a list, an undefined one read as `null`. -/
def itemValues (items : List Literal) : List Value :=
  items.map fun i => (i.value ev.context).orNull

include hitems

/-- What is made of the items, all of them read at one depth. -/
theorem collect_items (f : List Resolved → Resolved) :
    (do let vs ← Evaluation.collect ((Scan.items (b ++ (text ++ b'))).map (ev.atom depth))
        return f vs)
      = ev.downTo depth (f (items.map (Literal.value ev.context))) := by
  have hne : items.map (Literal.value ev.context) ≠ [] := by
    simpa using hitems.ne_nil
  have hatoms : (items.map Literal.text).map (ev.atom depth)
      = (items.map (Literal.value ev.context)).map (ev.downTo depth) := by
    rw [List.map_map, List.map_map]
    exact List.map_congr_left fun i _ => atom_literal_downTo ev depth i
  rw [hitems.items_eq Literal.isArgument_of_mem, hatoms, collect_downTo ev depth hne]

/-- **A list is read as the values of its items**, one level below its own. -/
theorem atom_listText :
    ev.atom depth (listText (b ++ (text ++ b')))
      = ev.downTo (depth + 1) (some (.list (ev.itemValues items))) := by
  rcases Nat.lt_or_ge ev.options.maxDepth depth with h | h
  · rw [atom_eq, if_pos h, downTo_of_lt (by omega)]
  · rw [atom_of_bracketed ev h (tight_listText _).trim_eq,
      collect_items ev (depth + 1) hitems b b' fun vs => some (.list (vs.map Resolved.orNull)),
      List.map_map]
    rfl

theorem balanced_items : Balance.check (b ++ (text ++ b')) = .ok () :=
  Shape.balanced_pad b.2
    (hitems.balanced (by decide) fun t ht => (Literal.isArgument_of_mem t ht).balanced) b'.2

theorem isArgument_listText : IsArgument (listText (b ++ (text ++ b'))) := by
  have hbalanced := balanced_items hitems b b'
  refine ⟨(Closed.enclosed .square hbalanced).balanced, tight_listText _, ?_⟩
  exact Shape.Avoids.enclosed .square hbalanced (by decide : ']' ∉ [',']) ',' List.mem_cons_self

theorem eval_listText (hsquare : '[' ∉ b ++ (text ++ b')) :
    ev.eval depth (listText (b ++ (text ++ b')))
      = ev.downTo (depth + 2) (some (.list (ev.itemValues items))) :=
  eval_of_operand ev depth (tight_listText _)
    (Shape.ofText_listText (balanced_items hitems b b') hsquare)
    (Call.ofText?_of_getLast?_ne (getLast?_listText_ne _))
    (atom_listText ev (depth + 1) hitems b b') (by omega)

end List

/-! ## 4. The forms -/

/-- **Whether one of the items loosely equals the needle**, an undefined item read as `null`. -/
def isAmong (needle : Literal) (items : List Literal) : Bool :=
  (ev.itemValues items).any fun item => (needle.value ev.context).looselyEquals (some item)

section Forms

variable (needle : Literal) {items : List Literal} {text : List Char} (b b' : Blanks)
  (hneedle : needle.IsSimple)

include hneedle

/-- The needle is held against the items. -/
theorem eval_membership_downTo (hitems : Joined [','] (items.map Literal.text) text)
    {gap gap' : Blanks} (hgap : gap.1 ≠ []) (hgap' : gap'.1 ≠ [])
    (hline : '\n' ∉ b ++ (text ++ b')) :
    ev.eval depth (membershipText needle.text gap gap' (b ++ (text ++ b')))
      = ev.downTo (depth + 2) (some (.bool (ev.isAmong needle items))) := by
  rcases Nat.lt_or_ge ev.options.maxDepth depth with h | h
  · rw [eval_of_maxDepth_lt ev h, downTo_of_lt (by omega)]
  · have hrecognized : Recognized needle.text gap gap' (b ++ (text ++ b')) := by
      refine ⟨hneedle '\n' (by decide), hline, fun hhidden => ?_⟩
      exact absurd hhidden (not_hidesMembershipStart_of_not_mem (hneedle '[' (by decide)))
    have hne : b.1 ++ (text ++ b'.1) ≠ [] := by
      have htight := hitems.tight fun t ht => (Literal.isArgument_of_mem t ht).tight
      simp [htight.ne_nil]
    have hform := @eval_membershipText ev depth needle gap gap' .none .none _
      (balanced_items hitems b b') h
    rw [needle.beforeTail?_of_recognized hgap hgap' hne hrecognized] at hform
    simp only [List.nil_append, List.append_nil, needle.tight.trim_eq] at hform
    rw [hform, among, eval_literal_downTo]
    refine downTo_bind (depth + 1) (by omega) ?_
    rw [collect_items ev (depth + 1) hitems b b', isAmong, itemValues, List.any_map, List.any_map]
    rfl

/-- The items are held against the needle. -/
theorem eval_containment_downTo {p : Path}
    (hp : p.value ev.context = some (.list (ev.itemValues items))) :
    ev.eval depth (Shape.containmentText p.text needle.text)
      = ev.downTo (depth + 2) (some (.bool (ev.isAmong needle items))) := by
  have hend : Tight [')'] := ⟨⟨')', [], rfl, by decide⟩, ⟨[], ')', rfl, by decide⟩⟩
  have htight : Tight (Shape.containmentText p.text needle.text) := by
    simpa [Shape.containmentText] using
      p.isWord_text.tight.append hend (Shape.containmentStart ++ needle.text)
  have hcollection : ev.atom (depth + 1) p.text
      = ev.downTo (depth + 1) (some (.list (ev.itemValues items))) :=
    hp ▸ atom_literal_downTo ev (depth + 1) (.path p)
  refine eval_form ev depth htight (fun h => downTo_of_lt (by omega) _) ?_
  rw [Shape.ofText_containmentText p.isWord_text needle.tight needle.closed.balanced
    (hneedle '\n' (by decide)), Shape.evaluate, hcollection, eval_literal_downTo]
  refine downTo_bind _ (by omega) (downTo_bind 0 rfl ?_)
  simp only [downTo_zero, isAmong, Resolved.looselyEquals_comm (needle.value ev.context)]
  rfl

/-- The list is the first argument of the call and the needle the second. -/
theorem eval_includes_downTo (hitems : Joined [','] (items.map Literal.text) text)
    (hsimple : ∀ i ∈ items, i.IsSimple) {arguments : List Char}
    (harguments : Arguments [listText (b ++ (text ++ b')), needle.text] arguments) :
    ev.eval depth (Helper.includes.callText arguments)
      = ev.downTo (depth + 3) (some (.bool (ev.isAmong needle items))) := by
  have hitem : ∀ c ∈ ['(', ')', '[', ']', '\n'], ∀ t ∈ items.map Literal.text, c ∉ t := by
    intro c hc t ht
    obtain ⟨i, hi, rfl⟩ := List.mem_map.mp ht
    exact hsimple i hi c hc
  have hinner := Arguments.list b b' hitems
  have hround := hinner.not_mem (by decide) (by decide) (hitem '(' (by decide))
  have hsquare := hinner.not_mem (by decide) (by decide) (hitem '[' (by decide))
  have hparen : '(' ∉ arguments := by
    refine harguments.not_mem (by decide) (by decide) (List.forall_mem_cons.mpr ⟨?_,
      List.forall_mem_singleton.mpr (hneedle '(' (by decide))⟩)
    simpa [listText] using hround
  have hno : ¬ HidesContainment arguments :=
    not_hidesContainment fun h => hparen (h.subset (by decide))
  have hts : ∀ t ∈ [listText (b ++ (text ++ b')), needle.text], IsArgument t :=
    List.forall_mem_cons.mpr ⟨isArgument_listText hitems b b',
      List.forall_mem_singleton.mpr (needle.printed.mono (by decide)).isArgument⟩
  have hinside := harguments.balanced fun t ht => (hts t ht).balanced
  have hlist := eval_listText ev (depth + 1) hitems b b' hsquare
  refine eval_form ev depth (Printed.call .includes hinside).tight
    (fun h => downTo_of_lt (by omega) _) ?_
  rw [Helper.includes.ofText_callText_of_not_hides hinside hno, Shape.evaluate, Helper.callText,
    operand_call ev .includes harguments hts, List.map_cons, List.map_singleton, hlist,
    eval_literal_downTo]
  simp only [Evaluation.collect, bind_assoc, pure_bind]
  refine downTo_bind _ (by omega) (downTo_bind 0 rfl ?_)
  simp only [downTo_zero, isAmong, Resolved.looselyEquals_comm (needle.value ev.context)]
  rfl

end Forms

/-! ## 5. Agreement -/

/-- **The three membership forms agree.**  Of literals without brackets and line breaks, and of a
variable that holds the values of the items, all three say whether one of the items loosely equals
the needle, be the needle undefined or `null`: the same truth at every depth, as far as the limit
leaves the levels that the form uses. -/
theorem membership_forms_agree (needle : Literal) (items : List Literal) (p : Path)
    {text arguments : List Char} (b b' gap gap' : Blanks) (hneedle : needle.IsSimple)
    (hsimple : ∀ i ∈ items, i.IsSimple) (hitems : Joined [','] (items.map Literal.text) text)
    (hline : '\n' ∉ b ++ (text ++ b')) (hgap : gap.1 ≠ []) (hgap' : gap'.1 ≠ [])
    (harguments : Arguments [listText (b ++ (text ++ b')), needle.text] arguments)
    (hp : p.value ev.context = some (.list (ev.itemValues items))) :
    ev.eval depth (membershipText needle.text gap gap' (b ++ (text ++ b')))
      = ev.downTo (depth + 2) (some (.bool (ev.isAmong needle items))) ∧
    ev.eval depth (Helper.includes.callText arguments)
      = ev.downTo (depth + 3) (some (.bool (ev.isAmong needle items))) ∧
    ev.eval depth (Shape.containmentText p.text needle.text)
      = ev.downTo (depth + 2) (some (.bool (ev.isAmong needle items))) := by
  refine ⟨?_, ?_, ?_⟩
  · exact eval_membership_downTo ev depth needle b b' hneedle hitems hgap hgap' hline
  · exact eval_includes_downTo ev depth needle b b' hneedle hitems hsimple harguments
  · exact eval_containment_downTo ev depth needle hneedle hp

/-- An undefined name is among a string, with operators and half a form in it, and `null`. -/
theorem membership_forms_agree_of_undefined :
    let needle : Literal := .path ⟨['x'], [], by decide, by decide⟩
    let collection : Path := ⟨['a'], [], by decide, by decide⟩
    let item : Literal := .string '"' ", in .contains&&".toList rfl (by simp [IsQuotable])
    let space : Blanks := ⟨[' '], by decide⟩
    let inside := item.text ++ (',' :: ' ' :: Literal.null.text)
    let arguments := listText inside ++ (',' :: ' ' :: needle.text)
    let ev : Evaluator :=
      ⟨{ form := [("a", .list [.string (String.ofList ", in .contains&&".toList), .null])] }, ⟨3⟩⟩
    (needle.IsSimple ∧ (∀ i ∈ [item, .null], i.IsSimple) ∧ '\n' ∉ inside ∧
      collection.value ev.context = some (.list (ev.itemValues [item, .null]))) ∧
    ev.eval 0 (membershipText needle.text space space inside) = .ok (some (.bool true)) ∧
    ev.eval 0 (Helper.includes.callText arguments) = .ok (some (.bool true)) ∧
    ev.eval 0 (Shape.containmentText collection.text needle.text) = .ok (some (.bool true)) := by
  intro needle collection item space inside arguments ev
  have hneedle : needle.IsSimple := by decide
  have hsimple : ∀ i ∈ [item, .null], i.IsSimple :=
    List.forall_mem_cons.mpr ⟨by decide, List.forall_mem_singleton.mpr (by decide)⟩
  have hitems : Joined [','] ([item, .null].map Literal.text) inside :=
    .cons item.text .none space (.one Literal.null.text)
  have hline : '\n' ∉ inside := by decide
  have harguments : Arguments [listText ([] ++ (inside ++ [])), needle.text] arguments := by
    have hjoined : Joined [','] [listText inside, needle.text] arguments :=
      .cons (listText inside) .none space (.one needle.text)
    simpa using Arguments.list .none .none hjoined
  have hcollection : collection.value ev.context
      = some (.list (ev.itemValues [item, .null])) := rfl
  have hamong : ev.isAmong needle [item, .null] = true := rfl
  have hforms := membership_forms_agree ev 0 needle [item, .null] collection .none .none space space
    hneedle hsimple hitems (by simpa using hline) (by decide) (by decide) harguments hcollection
  rw [hamong, downTo_of_le (by decide), downTo_of_le (by decide)] at hforms
  simp only [List.nil_append, List.append_nil] at hforms
  exact ⟨⟨hneedle, hsimple, hline, hcollection⟩, hforms⟩

end Evaluator

end FormLogic
