import FormLogic.Proofs.Expression.Call
import FormLogic.Proofs.Expression.Composition
import FormLogic.Proofs.Expression.Heredity

/-!
# Groups and calls

A group and a call are told by the place where their first parenthesis closes, and that depends on
the brackets and quotes of everything between.  On balanced text the scanner is right about it: a
text is a group exactly when it is balanced text in parentheses, and a call exactly when it is an
identifier before such a group.  The arguments of a printed call come back as they were printed;
the list of them drops an empty last piece and no other, so it is only asked of the arguments that
they are not blank.
-/

namespace FormLogic

open Scan Text

/-! ## 1. Groups -/

/-- **A balanced text is a group when it is balanced text in parentheses**, and then that is its
inside. -/
theorem group?_eq_some_iff {cs inside : List Char} (h : Balance.check cs = .ok ()) :
    group? cs = some inside ↔ cs = parenthesized inside ∧ Balance.check inside = .ok () := by
  constructor
  · intro hgroup
    exact ⟨eq_parens_of_group? hgroup, balanced_of_group? h hgroup⟩
  · rintro ⟨rfl, hinside⟩
    exact group?_parens hinside

/-- The first parenthesis closes early. -/
example : group? "(a) == (b)".toList = none := by decide

/-! ## 2. Calls -/

namespace Call

/-- **A printed call is read as it was printed**, its name and its arguments. -/
theorem ofText?_printed {name inside : List Char} {ts : List (List Char)}
    (hname : isIdentifier name = true) (gap : Blanks) (harguments : Arguments ts inside)
    (hts : ∀ t ∈ ts, IsArgument t) :
    Call.ofText? (name ++ (gap ++ parenthesized inside)) = some ⟨name, ts⟩ := by
  have hinside := harguments.balanced fun t ht => (hts t ht).balanced
  have hcall := Call.ofText?_append hname .none gap hinside
  rwa [harguments.arguments_eq hts] at hcall

/-- **What is read as a call is an identifier before a group**: nothing but blank characters stands
around its name, and the arguments are those of the inside of the group. -/
theorem ofText?_eq_some_iff {cs : List Char} {call : Call} (h : Balance.check cs = .ok ()) :
    Call.ofText? cs = some call ↔
      ∃ (b b' : Blanks) (inside : List Char),
        cs = b ++ (call.name ++ (b' ++ parenthesized inside)) ∧
        isIdentifier call.name = true ∧ Balance.check inside = .ok () ∧
        call.arguments = Scan.arguments inside := by
  constructor
  · intro hcall
    obtain ⟨before, after, inside, hb, ha, rfl, hname, hgroup, harguments⟩ :=
      Call.exists_of_ofText? hcall
    have hparens := balanced_of_name_before hb hname ha h
    exact ⟨⟨before, hb⟩, ⟨after, ha⟩, inside, rfl, hname, balanced_of_group? hparens hgroup,
      harguments⟩
  · rintro ⟨b, b', inside, rfl, hname, hinside, harguments⟩
    obtain ⟨name, arguments⟩ := call
    obtain rfl : arguments = Scan.arguments inside := harguments
    exact Call.ofText?_append hname b b' hinside

end Call

/-! ## 3. Both -/

/-- **Groups and calls are recognized exactly, and nothing of them is lost.**  A balanced text is a
group just when it is balanced text in parentheses; a call is read as it was printed, with any blank
characters before its parenthesis and around its arguments; and whatever balanced text is read as a
call is its name before balanced text in parentheses, whose arguments are those of the call. -/
theorem recognized_by_parentheses :
    (∀ cs inside, Balance.check cs = .ok () →
      (group? cs = some inside ↔ cs = parenthesized inside ∧ Balance.check inside = .ok ())) ∧
    (∀ (name : List Char) (gap : Blanks) (ts : List (List Char)) (inside : List Char),
      isIdentifier name = true → Arguments ts inside → (∀ t ∈ ts, IsArgument t) →
      Call.ofText? (name ++ (gap ++ parenthesized inside)) = some ⟨name, ts⟩) ∧
    (∀ (cs : List Char) (call : Call), Balance.check cs = .ok () → Call.ofText? cs = some call →
      ∃ (b b' : Blanks) (inside : List Char),
        cs = b ++ (call.name ++ (b' ++ parenthesized inside)) ∧
        Balance.check inside = .ok () ∧ call.arguments = Scan.arguments inside) := by
  refine ⟨?_, ?_, ?_⟩
  · intro cs inside h
    exact group?_eq_some_iff h
  · intro name gap ts inside hname harguments hts
    exact Call.ofText?_printed hname gap harguments hts
  · intro cs call h hcall
    obtain ⟨b, b', inside, htext, -, hinside, harguments⟩ := (Call.ofText?_eq_some_iff h).mp hcall
    exact ⟨b, b', inside, htext, hinside, harguments⟩

/-- A parenthesis in a literal closes no group, and the arguments of a call keep their commas,
brackets and quotes. -/
theorem recognized_by_parentheses_of_unusual_texts :
    let literal := ['\'', ')', '\'']
    let first := ['f', '(', 'a', ',', ' ', '\'', ')', '\'', ')']
    let second := ['[', '1', ',', ' ', '"', ']', '"', ']', '\\']
    let inside := first ++ ([' ', ',', '\t'] ++ second)
    let call := ['_', 'g', '1', ' '] ++ parenthesized inside
    (Balance.check (parenthesized literal) = .ok () ∧
      group? (parenthesized literal) = some literal) ∧
    (isIdentifier ['_', 'g', '1'] = true ∧ Arguments [first, second] inside ∧
      (∀ t ∈ [first, second], IsArgument t) ∧
      Call.ofText? call = some ⟨['_', 'g', '1'], [first, second]⟩) ∧
    (Balance.check call = .ok () ∧
      ∃ (b b' : Blanks) (x : List Char), call = b ++ (['_', 'g', '1'] ++ (b' ++ parenthesized x)) ∧
        Balance.check x = .ok () ∧ [first, second] = Scan.arguments x) := by
  intro literal first second inside call
  obtain ⟨hgroup, hprinted, hread⟩ := recognized_by_parentheses
  have hliteral : Balance.check (parenthesized literal) = .ok () := rfl
  have harguments : Arguments [first, second] inside := by
    have h := Arguments.list .none .none
      (Joined.cons first ⟨[' '], by decide⟩ ⟨['\t'], by decide⟩ (Joined.one second))
    simpa [inside] using h
  have hfirst : IsArgument first :=
    ⟨rfl, Tight.of_ends (by decide) (by decide) ['(', 'a', ',', ' ', '\'', ')', '\''], by decide⟩
  have hsecond : IsArgument second :=
    ⟨rfl, Tight.of_ends (by decide) (by decide) ['1', ',', ' ', '"', ']', '"', ']'], by decide⟩
  have hts : ∀ t ∈ [first, second], IsArgument t :=
    List.forall_mem_cons.mpr ⟨hfirst, List.forall_mem_singleton.mpr hsecond⟩
  have hcall : Call.ofText? call = some ⟨['_', 'g', '1'], [first, second]⟩ :=
    hprinted ['_', 'g', '1'] ⟨[' '], by decide⟩ _ inside rfl harguments hts
  have hbalanced : Balance.check call = .ok () := rfl
  exact ⟨⟨hliteral, (hgroup _ literal hliteral).mpr ⟨rfl, rfl⟩⟩, ⟨rfl, harguments, hts, hcall⟩,
    hbalanced, hread call _ hbalanced hcall⟩

end FormLogic
