import FormLogic.Proofs.Expression.Contiguous
import FormLogic.Proofs.Scan.Cut
import FormLogic.Proofs.Utf8.Access

/-!
# Scanning bytes

An expression is scanned byte by byte: position after position the scanner reads what stands there,
and what is cut are parts between positions.  In front of a character the scanner moves past it
(`feed_encode`).  Inside of a character it stands still (`feed_inside`), and nothing that a text is
cut at begins there.  So what is found in the bytes of a text is what is found in the text, and
nothing is refused on the way (`split_encode`, `arguments_encode`, `items_encode`,
`ternary?_encode`, `group?_encode`).
-/

namespace FormLogic

/-! ## 1. One character at a time -/

namespace Scan

theorem State.step_of_not_isQuote {c : Char} (h : isQuote c = false) (s : State) (escaped : Bool) :
    s.step escaped c = s.step false c := by
  simp [State.step, h]

/-- Where the text is not cut the character belongs to the first piece. -/
theorem splitFrom_pass {os : List Char} {s : State} {escaped : Bool} {c : Char}
    {cs : List Char} (h : ((s.step escaped c).atTop && os.isPrefixOf (c :: cs)) = false) :
    splitFrom os s escaped 0 (c :: cs)
      = (splitFrom os (s.step escaped c) (c == '\\') 0 cs).modifyHead (c :: ·) := by
  simp only [splitFrom, h]
  cases hrest : splitFrom os (s.step escaped c) (c == '\\') 0 cs with
  | nil => exact absurd hrest (length_splitFrom ..).1
  | cons piece pieces => rfl

/-- Where it is cut a piece begins behind the operator. -/
theorem splitFrom_cut {s : State} {escaped : Bool} {c : Char}
    (h : (s.step escaped c).atTop = true) (os rest : List Char) :
    splitFrom (c :: os) s escaped 0 (c :: os ++ rest)
      = [] :: splitFrom (c :: os) (s.step escaped c) (escapedAfter escaped (c :: os)) 0 rest := by
  have hbegins : (c :: os).isPrefixOf (c :: (os ++ rest)) = true :=
    List.isPrefixOf_iff_prefix.mpr (List.prefix_append (c :: os) rest)
  simp only [List.cons_append, splitFrom, h, hbegins, Bool.and_self, if_true]
  exact congrArg _ (splitFrom_skip _ _ _ os rest)

/-- Text in parentheses is a group where they enclose all of it. -/
theorem group?_of_parens (inner : List Char) :
    group? ('(' :: (inner ++ [')']))
      = if (marks ('(' :: inner)).all (!·.2) then some inner else none := by
  have hdrop : ('(' :: (inner ++ [')'])).dropLast = '(' :: inner := by
    rw [← List.cons_append, List.dropLast_concat]
  simp only [group?, hdrop, List.getLast?_concat, List.dropLast_concat, true_and, List.all_eq_true,
    Bool.not_eq_true']

end Scan

namespace Utf8

open Scan

/-! ## 2. The scanner -/

/-- **Moves the scanner past the byte at a position.**  The byte before it is read for a quote
only. -/
def feed (s : State) (bytes : List UInt8) (i : Nat) : Access State := do
  let c ← read bytes i
  let escaped ← if isQuote c && i != 0 then (· == '\\') <$> read bytes (i - 1) else pure false
  return s.step escaped c

theorem asciiOnly_isQuote : AsciiOnly isQuote :=
  (asciiOnly_beq (by decide)).or (asciiOnly_beq (by decide))

/-- A character from `128` on means nothing to the scanner. -/
theorem step_of_le {c : Char} (hc : 128 ≤ c.toNat) (s : State) (escaped : Bool) :
    s.step escaped c = s := by
  have hne {d : Char} (hd : d.toNat < 128) : (c == d) = false := (asciiOnly_beq hd).eq_false hc
  have hquote : isQuote c = false := asciiOnly_isQuote.eq_false hc
  obtain ⟨depth, quote⟩ := s
  cases quote <;> simp [State.step, hquote, hne]

theorem step_alike {c d : Char} (h : Alike c d) (s : State) (escaped : Bool) :
    s.step escaped c = s.step escaped d := by
  rcases h with rfl | ⟨hc, hd⟩
  · rfl
  · rw [step_of_le hc, step_of_le hd]

/-- The byte before a position says whether a backslash stands there. -/
theorem read_before {before : List Char} (h : before ≠ []) (after : List Char) :
    ∃ d, read (encode (before ++ after)) ((encode before).length - 1) = .ok d ∧
      (d == '\\') = escapedAfter false before := by
  obtain ⟨front, c, rfl⟩ := (List.eq_nil_or_concat before).resolve_left h
  rw [List.concat_eq_append, escapedAfter_append]
  obtain ⟨d, hread, hd⟩ := read_last front c after
  exact ⟨d, hread, hd.eq (asciiOnly_beq (by decide))⟩

/-- **In front of a character the scanner moves past it.** -/
theorem feed_encode (s : State) (before : List Char) (c : Char) (rest : List Char) :
    feed s (encode (before ++ c :: rest)) (encode before).length
      = .ok (s.step (escapedAfter false before) c) := by
  obtain ⟨d, hread, hd⟩ := read_encode before c rest
  rw [feed, hread, ok_bind, hd.eq asciiOnly_isQuote]
  cases hquote : isQuote c with
  | false => simp [step_alike hd, State.step_of_not_isQuote hquote]
  | true =>
    by_cases hbefore : before = []
    · subst hbefore
      simp [step_alike hd, escapedAfter]
    · have hlength : (encode before).length ≠ 0 := by
        obtain ⟨e, front, rfl⟩ := List.exists_cons_of_ne_nil hbefore
        exact Nat.ne_of_gt (length_encode_lt [] e front)
      obtain ⟨e, hread, he⟩ := read_before hbefore (c :: rest)
      simp [hlength, hread, he, step_alike hd]

/-- Inside of a character it stands still. -/
theorem feed_inside (s : State) {bytes : List UInt8} {i : Nat} (h : Inside bytes i) :
    feed s bytes i = .ok s := by
  obtain ⟨d, hread, hd⟩ := h.exists_read
  rw [feed, hread, ok_bind, asciiOnly_isQuote.eq_false hd]
  simp [step_of_le hd]

/-! ## 3. Operators -/

/-- Cuts the bytes from a position on at an operator; the piece began at `start`. -/
def splitFrom (op : List UInt8) (hop : op ≠ []) (bytes : List UInt8) (s : State) (start i : Nat) :
    Access (List (List UInt8)) := do
  if i < bytes.length then
    let next ← feed s bytes i
    if next.atTop && op.isPrefixOf (← bytesFrom bytes i) then
      let piece ← slice bytes start i
      return piece :: (← splitFrom op hop bytes next (i + op.length) (i + op.length))
    else
      splitFrom op hop bytes next start (i + 1)
  else
    return [← slice bytes start bytes.length]
termination_by bytes.length - i
decreasing_by
  · have := List.length_pos_iff.mpr hop
    omega
  · omega

/-- **The pieces between the top-level occurrences of an operator.** -/
def split (op : List UInt8) (hop : op ≠ []) (bytes : List UInt8) : Access (List (List UInt8)) :=
  splitFrom op hop bytes .start 0 0

theorem modifyHead_nil_append {α : Type} (ps : List (List α)) : ps.modifyHead ([] ++ ·) = ps := by
  cases ps <;> rfl

section

variable {os : List Char} (hos : os ≠ []) (hop : encode os ≠ [])
include hos

theorem splitFrom_inside {bytes : List UInt8} {i : Nat} (h : Inside bytes i) (s : State)
    (start : Nat) :
    splitFrom (encode os) hop bytes s start i
      = splitFrom (encode os) hop bytes s start (i + 1) := by
  obtain ⟨hfrom, hbegins⟩ := h.isPrefixOf hos
  rw [splitFrom, if_pos h.lt, feed_inside s h, ok_bind, hfrom, ok_bind, hbegins, Bool.and_false]
  rfl

/-- **From a position on the bytes are cut as the text is.**  The text `done` is cut off already,
and `piece` is what has been passed since. -/
theorem splitFrom_encode (s : State) (done piece rest : List Char) {bytes : List UInt8}
    {start i : Nat} (hbytes : bytes = encode (done ++ piece ++ rest))
    (hstart : start = (encode done).length) (hi : i = (encode (done ++ piece)).length) :
    splitFrom (encode os) hop bytes s start i
      = .ok (((Scan.splitFrom os s (escapedAfter false (done ++ piece)) 0 rest).modifyHead
          (piece ++ ·)).map encode) := by
  -- on the length, as an operator is passed over as a whole
  induction hn : rest.length using Nat.strongRecOn generalizing s done piece rest start i with
  | _ n ih =>
  subst hbytes hstart hi
  cases rest with
  | nil =>
    have hslice := slice_encode done piece []
    rw [splitFrom, if_neg (by simp)]
    simp only [List.append_nil] at hslice ⊢
    rw [hslice]
    simp [Scan.splitFrom]
  | cons c cs =>
    have hlt := length_encode_lt (done ++ piece) c cs
    rw [splitFrom, if_pos hlt, feed_encode, ok_bind, bytesFrom_encode, ok_bind, isPrefixOf_encode]
    let next := s.step (escapedAfter false (done ++ piece)) c
    cases hcut : next.atTop && os.isPrefixOf (c :: cs) with
    | true =>
      obtain ⟨htop, hbegins⟩ := Bool.and_eq_true_iff.mp hcut
      obtain ⟨rest, hrest⟩ := List.isPrefixOf_iff_prefix.mp hbegins
      obtain ⟨o, os, rfl⟩ := List.exists_cons_of_ne_nil hos
      rw [List.cons_append] at hrest
      obtain ⟨rfl, rfl⟩ := List.cons.inj hrest
      have hend : (encode (done ++ piece)).length + (encode (o :: os)).length
          = (encode (done ++ piece ++ o :: os)).length := by
        rw [encode_append (done ++ piece), List.length_append]
      have hshort : rest.length < n := by
        rw [← hn]
        simp only [List.length_cons, List.length_append]
        omega
      have ih := ih _ hshort next (done ++ piece ++ o :: os) [] rest (by simp) rfl
        (i := (encode (done ++ piece ++ o :: os)).length) (by rw [List.append_nil]) rfl
      rw [if_pos rfl, hend, slice_encode, ok_bind, ih, modifyHead_nil_append, List.append_nil,
        escapedAfter_append _ (done ++ piece), ← List.cons_append, Scan.splitFrom_cut htop]
      simp [next]
    | false =>
      have hskip := Inside.skip (done ++ piece) c cs
        fun i h => splitFrom_inside hos hop h next (encode done).length
      have hshort : cs.length < n := by
        rw [← hn]
        exact Nat.lt_succ_self _
      have ih := ih _ hshort next done (piece ++ [c]) cs (by simp) rfl
        (i := (encode (done ++ piece ++ [c])).length) (by rw [List.append_assoc]) rfl
      rw [if_neg Bool.false_ne_true, hskip, ih, Scan.splitFrom_pass hcut]
      simp [next, escapedAfter, Function.comp_def]

end

theorem split_encode {os : List Char} (hos : os ≠ []) (hop : encode os ≠ []) (cs : List Char) :
    split (encode os) hop (encode cs) = .ok ((Scan.split os cs).map encode) := by
  have hpieces : splitFrom (encode os) hop (encode cs) .start 0 0 = _ :=
    splitFrom_encode hos hop .start [] [] cs rfl rfl rfl
  rw [split, hpieces, modifyHead_nil_append]
  rfl

/-! ## 4. Lists -/

theorem encode_comma_ne_nil : encode [','] ≠ [] := List.cons_ne_nil _ _

/-- The trimmed pieces between commas. -/
def commaPieces (bytes : List UInt8) : Access (List (List UInt8)) := do
  (← split (encode [',']) encode_comma_ne_nil bytes).mapM (onText Text.trim)

/-- The trimmed arguments of a call. -/
def arguments (bytes : List UInt8) : Access (List (List UInt8)) := do
  let bytes ← onText Text.trim bytes
  if bytes.isEmpty then
    return []
  else
    let pieces ← commaPieces bytes
    return if pieces.getLast?.any (·.isEmpty) then pieces.dropLast else pieces

/-- The trimmed items of an array literal's body. -/
def items (bytes : List UInt8) : Access (List (List UInt8)) := do
  return (← commaPieces bytes).filter (!·.isEmpty)

theorem isEmpty_encode (cs : List Char) : (encode cs).isEmpty = cs.isEmpty := by
  cases cs with
  | nil => rfl
  | cons c cs =>
    obtain ⟨b, bs, hbytes, -⟩ := exists_first_byte c
    rw [encode_cons, hbytes]
    rfl

theorem mapM_onText (f : List Char → List Char) (ps : List (List Char)) :
    (ps.map encode).mapM (onText f) = .ok ((ps.map f).map encode) := by
  induction ps with
  | nil => rfl
  | cons p ps ih => simp [onText_encode, ih]

theorem commaPieces_encode (cs : List Char) :
    commaPieces (encode cs) = .ok (((Scan.split [','] cs).map Text.trim).map encode) := by
  rw [commaPieces, split_encode (List.cons_ne_nil _ _), ok_bind, mapM_onText]

theorem getLast?_map_encode {ps : List (List Char)} :
    (ps.map encode).getLast?.any (·.isEmpty) = true ↔ ps.getLast? = some [] := by
  rw [List.getLast?_map]
  cases ps.getLast? with
  | none => simp
  | some p => simp [isEmpty_encode]

theorem arguments_encode (cs : List Char) :
    arguments (encode cs) = .ok ((Scan.arguments cs).map encode) := by
  rw [arguments, onText_encode, ok_bind, isEmpty_encode, commaPieces_encode, ok_bind,
    Scan.arguments]
  by_cases hempty : (Text.trim cs).isEmpty = true
  · rw [if_pos hempty, if_pos hempty]
    rfl
  · rw [if_neg hempty, if_neg hempty]
    by_cases hlast : ((Scan.split [','] (Text.trim cs)).map Text.trim).getLast? = some []
    · rw [if_pos (getLast?_map_encode.mpr hlast), if_pos hlast, List.map_dropLast]
      rfl
    · rw [if_neg (mt getLast?_map_encode.mp hlast), if_neg hlast]
      rfl

theorem items_encode (cs : List Char) : items (encode cs) = .ok ((Scan.items cs).map encode) := by
  rw [items, commaPieces_encode, ok_bind, List.filter_map]
  simp [Scan.items, Function.comp_def, isEmpty_encode]

/-! ## 5. Ternaries -/

/-- The three parts of a ternary. -/
structure Ternary where
  condition : List UInt8
  whenTrue : List UInt8
  whenFalse : List UInt8
deriving DecidableEq, Repr

/-- The bytes of the parts. -/
def Ternary.encode (t : Scan.Ternary) : Ternary :=
  ⟨Utf8.encode t.condition, Utf8.encode t.whenTrue, Utf8.encode t.whenFalse⟩

/-- The trimmed part of a text between two positions. -/
def trimmed (bytes : List UInt8) (start stop : Nat) : Access (List UInt8) := do
  onText Text.trim (← slice bytes start stop)

/-- Looks for the question mark and the colon of a ternary from a position on.  `question` is where
the question mark was found, and `nested` counts the ones that were found after it. -/
def ternaryFrom (bytes : List UInt8) (s : State) (question : Option Nat) (nested i : Nat) :
    Access (Option Ternary) := do
  if i < bytes.length then
    let next ← feed s bytes i
    let c ← read bytes i
    if next.atTop then
      match question with
      | none => ternaryFrom bytes next (if c == '?' then some i else none) nested (i + 1)
      | some q =>
        if c == '?' then
          ternaryFrom bytes next question (nested + 1) (i + 1)
        else if c == ':' then
          match nested with
          | 0 =>
            let condition ← trimmed bytes 0 q
            let whenTrue ← trimmed bytes (q + 1) i
            let whenFalse ← trimmed bytes (i + 1) bytes.length
            return some ⟨condition, whenTrue, whenFalse⟩
          | nested + 1 => ternaryFrom bytes next question nested (i + 1)
        else
          ternaryFrom bytes next question nested (i + 1)
    else
      ternaryFrom bytes next question nested (i + 1)
  else
    return none
termination_by bytes.length - i

/-- **The parts of the outermost ternary.** -/
def ternary? (bytes : List UInt8) : Access (Option Ternary) := ternaryFrom bytes .start none 0 0

theorem ternaryFrom_inside {bytes : List UInt8} {i : Nat} (h : Inside bytes i) (s : State)
    (question : Option Nat) (nested : Nat) :
    ternaryFrom bytes s question nested i = ternaryFrom bytes s question nested (i + 1) := by
  obtain ⟨d, hread, hd⟩ := h.exists_read
  have hne {c : Char} (hc : c.toNat < 128) : (d == c) = false := (asciiOnly_beq hc).eq_false hd
  rw [ternaryFrom, if_pos h.lt, feed_inside s h, ok_bind, hread, ok_bind, hne (by decide),
    hne (by decide)]
  cases s.atTop <;> cases question <;> rfl

theorem trimmed_of_eq {bytes : List UInt8} {start stop : Nat} (a m z : List Char)
    (hbytes : bytes = encode (a ++ m ++ z)) (hstart : start = (encode a).length)
    (hstop : stop = (encode (a ++ m)).length) :
    trimmed bytes start stop = .ok (encode (Text.trim m)) := by
  rw [trimmed, slice_of_eq a m z hbytes hstart hstop, ok_bind, onText_encode]

/-- **Around the two marks of a ternary are texts.** -/
theorem trimmed_ternary (condition passed rest : List Char) :
    let bytes := encode (condition ++ ['?'] ++ passed ++ ':' :: rest)
    let q := (encode condition).length
    let i := (encode (condition ++ ['?'] ++ passed)).length
    trimmed bytes 0 q = .ok (encode (Text.trim condition)) ∧
      trimmed bytes (q + 1) i = .ok (encode (Text.trim passed)) ∧
      trimmed bytes (i + 1) bytes.length = .ok (encode (Text.trim rest)) := by
  refine ⟨?_, ?_, ?_⟩
  · exact trimmed_of_eq [] condition (['?'] ++ passed ++ ':' :: rest) (by simp) rfl rfl
  · exact trimmed_of_eq (condition ++ ['?']) passed (':' :: rest) rfl
      (length_encode_concat condition (by decide)).symm rfl
  · exact trimmed_of_eq (condition ++ ['?'] ++ passed ++ [':']) rest [] (by simp)
      (length_encode_concat _ (by decide)).symm (by simp)

/-- Behind the question mark the colon is found that closes the ternary. -/
theorem ternaryFrom_some (s : State) (nested : Nat) (condition passed : List Char)
    {behind : List Char} (hbehind : behind = condition ++ ['?'] ++ passed) (rest : List Char) :
    ternaryFrom (encode (behind ++ rest)) s (some (encode condition).length) nested
        (encode behind).length
      = .ok ((breakAtColon nested (marksFrom s (escapedAfter false behind) rest)).map fun parts =>
          .encode ⟨Text.trim condition, Text.trim (passed ++ parts.1), Text.trim parts.2⟩) := by
  induction rest generalizing s nested passed behind with
  | nil =>
    rw [ternaryFrom, if_neg (by simp)]
    rfl
  | cons c cs ih =>
    obtain ⟨d, hread, hd⟩ := read_encode behind c cs
    have hquestion : (d == '?') = (c == '?') := hd.eq (asciiOnly_beq (by decide))
    have hcolon : (d == ':') = (c == ':') := hd.eq (asciiOnly_beq (by decide))
    have honward (next : State) (nested : Nat) :
        ternaryFrom (encode (behind ++ c :: cs)) next (some (encode condition).length) nested
            ((encode behind).length + 1)
          = .ok (((breakAtColon nested (marksFrom next (c == '\\') cs)).map fun parts =>
              (c :: parts.1, parts.2)).map fun parts => .encode ⟨Text.trim condition,
                Text.trim (passed ++ parts.1), Text.trim parts.2⟩) := by
      have ih := ih next nested (passed ++ [c])
        (congrArg (· ++ [c]) hbehind |>.trans (List.append_assoc ..))
      rw [← List.append_cons, escapedAfter_append] at ih
      rw [Inside.skip behind c cs fun i h => ternaryFrom_inside h next _ nested, ih, Option.map_map]
      simp [escapedAfter, Function.comp_def]
    rw [ternaryFrom, if_pos (length_encode_lt behind c cs), feed_encode, ok_bind, hread, ok_bind,
      hquestion, hcolon]
    simp only [marksFrom, breakAtColon]
    generalize s.step (escapedAfter false behind) c = next
    cases next.atTop with
    | false => exact honward next nested
    | true =>
      cases c == '?' with
      | true => exact honward next (nested + 1)
      | false =>
        cases hc : c == ':' with
        | false => exact honward next nested
        | true =>
          cases nested with
          | succ nested => exact honward next nested
          | zero =>
            obtain rfl := beq_iff_eq.mp hc
            subst hbehind
            obtain ⟨hcondition, htrue, hfalse⟩ := trimmed_ternary condition passed cs
            simp only [if_true, Bool.false_eq_true, if_false, hcondition, htrue, hfalse, ok_bind]
            simp [Ternary.encode]

/-- In front of it the question mark is found, and then the colon. -/
theorem ternaryFrom_none (s : State) (behind rest : List Char) :
    ternaryFrom (encode (behind ++ rest)) s none 0 (encode behind).length
      = .ok ((breakAtTop '?' (marksFrom s (escapedAfter false behind) rest)).bind fun found =>
          (breakAtColon 0 found.2).map fun parts =>
            .encode ⟨Text.trim (behind ++ found.1), Text.trim parts.1, Text.trim parts.2⟩) := by
  induction rest generalizing s behind with
  | nil =>
    rw [ternaryFrom, if_neg (by simp)]
    rfl
  | cons c cs ih =>
    obtain ⟨d, hread, hd⟩ := read_encode behind c cs
    have hquestion : (d == '?') = (c == '?') := hd.eq (asciiOnly_beq (by decide))
    have honward (next : State) :
        ternaryFrom (encode (behind ++ c :: cs)) next none 0 ((encode behind).length + 1)
          = .ok (((breakAtTop '?' (marksFrom next (c == '\\') cs)).map fun found =>
              (c :: found.1, found.2)).bind fun found =>
                (breakAtColon 0 found.2).map fun parts => .encode ⟨Text.trim (behind ++ found.1),
                  Text.trim parts.1, Text.trim parts.2⟩) := by
      have ih := ih next (behind ++ [c])
      rw [← List.append_cons, escapedAfter_append] at ih
      rw [Inside.skip behind c cs fun i h => ternaryFrom_inside h next none 0, ih, Option.bind_map]
      simp only [List.append_assoc, List.singleton_append]
      rfl
    rw [ternaryFrom, if_pos (length_encode_lt behind c cs), feed_encode, ok_bind, hread, ok_bind,
      hquestion]
    simp only [marksFrom, breakAtTop]
    generalize s.step (escapedAfter false behind) c = next
    cases next.atTop with
    | false => exact honward next
    | true =>
      cases hc : c == '?' with
      | false => exact honward next
      | true =>
        obtain rfl := beq_iff_eq.mp hc
        have hfound := ternaryFrom_some next 0 behind [] (List.append_nil _).symm cs
        rw [← List.append_cons, escapedAfter_append, length_encode_concat behind (by decide)]
          at hfound
        simpa [escapedAfter] using hfound

theorem ternary?_encode (cs : List Char) :
    ternary? (encode cs) = .ok ((Scan.ternary? cs).map .encode) := by
  have hparts : ternaryFrom (encode cs) .start none 0 0 = _ := ternaryFrom_none .start [] cs
  rw [ternary?, hparts, Scan.ternary?, marks]
  simp only [List.nil_append, escapedAfter]
  cases breakAtTop '?' (marksFrom .start false cs) with
  | none => rfl
  | some found =>
    cases hcolon : breakAtColon 0 found.2 <;> simp [hcolon]

/-! ## 6. Groups -/

/-- Whether the text is at the top level nowhere between two positions. -/
def enclosedFrom (bytes : List UInt8) (stop : Nat) (s : State) (i : Nat) : Access Bool := do
  if i < stop then
    let next ← feed s bytes i
    if next.atTop then return false else enclosedFrom bytes stop next (i + 1)
  else
    return true
termination_by stop - i

/-- **The inside of a text that is one group in parentheses.** -/
def group? (bytes : List UInt8) : Access (Option (List UInt8)) := do
  if bytes.length < 2 then
    return none
  else
    let first ← read bytes 0
    let last ← read bytes (bytes.length - 1)
    if first == '(' && last == ')' then
      if ← enclosedFrom bytes (bytes.length - 1) .start 0 then
        return some (← slice bytes 1 (bytes.length - 1))
      else
        return none
    else
      return none

theorem enclosedFrom_inside {bytes : List UInt8} {i : Nat} (h : Inside bytes i) (stop : Nat)
    {s : State} (hs : s.atTop = false) :
    enclosedFrom bytes stop s i = enclosedFrom bytes stop s (i + 1) := by
  by_cases hi : i < stop
  · rw [enclosedFrom, if_pos hi, feed_inside s h, ok_bind, hs]
    rfl
  · rw [enclosedFrom, if_neg hi, enclosedFrom, if_neg (by omega)]

/-- The marks between two positions are those of the text between them. -/
theorem enclosedFrom_encode (s : State) (behind inner rest : List Char) :
    enclosedFrom (encode (behind ++ (inner ++ rest))) (encode (behind ++ inner)).length s
        (encode behind).length
      = .ok ((marksFrom s (escapedAfter false behind) inner).all (!·.2)) := by
  induction inner generalizing s behind with
  | nil =>
    rw [enclosedFrom, if_neg (by simp)]
    rfl
  | cons c inner ih =>
    rw [enclosedFrom, if_pos (length_encode_lt behind c inner), List.cons_append, feed_encode,
      ok_bind, marksFrom, List.all_cons]
    generalize s.step (escapedAfter false behind) c = next
    cases htop : next.atTop with
    | true => rfl
    | false =>
      have ih := ih next (behind ++ [c])
      rw [← List.append_cons, ← List.append_cons, escapedAfter_append] at ih
      rw [if_neg Bool.false_ne_true,
        Inside.skip behind c (inner ++ rest) fun i h => enclosedFrom_inside h _ htop, ih]
      simp [escapedAfter]

theorem group?_encode_of_parens (inner : List Char) :
    group? (encode ('(' :: (inner ++ [')'])))
      = .ok ((Scan.group? ('(' :: (inner ++ [')']))).map encode) := by
  obtain ⟨hlength, -, -⟩ := (exists_between_iff (by decide)).mpr
    (⟨inner, rfl⟩ : ∃ between, '(' :: (inner ++ [')']) = '(' :: (between ++ [')']))
  obtain ⟨first, hreadFirst, hfirst⟩ := read_encode [] '(' (inner ++ [')'])
  obtain ⟨last, hreadLast, hlast⟩ := read_encode ('(' :: inner) ')' []
  have hfirst : (first == '(') = true := hfirst.eq (asciiOnly_beq (by decide))
  have hlast : (last == ')') = true := hlast.eq (asciiOnly_beq (by decide))
  have henclosed := enclosedFrom_encode .start [] ('(' :: inner) [')']
  simp only [List.nil_append, List.cons_append, encode_nil, List.length_nil]
    at hreadFirst hreadLast henclosed
  rw [group?, if_neg (Nat.not_lt.mpr hlength), hreadFirst, ok_bind,
    slice_between (by decide) (by decide), length_encode_between _ (by decide), hreadLast, ok_bind,
    hfirst, hlast, henclosed, group?_of_parens, marks, escapedAfter]
  cases (marksFrom .start false ('(' :: inner)).all (!·.2) <;> rfl

/-- Nothing is read of a text without parentheses at its ends but these. -/
theorem group?_encode_of_not_parens {cs : List Char}
    (h : ¬ ∃ inner, cs = '(' :: (inner ++ [')'])) : group? (encode cs) = .ok none := by
  rw [group?]
  by_cases hlength : (encode cs).length < 2
  · rw [if_pos hlength]
    rfl
  · have hne : cs ≠ [] := by
      rintro rfl
      exact hlength (by decide)
    obtain ⟨c, rest, hfirst⟩ := List.exists_cons_of_ne_nil hne
    obtain ⟨front, e, hlast⟩ := (List.eq_nil_or_concat cs).resolve_left hne
    rw [List.concat_eq_append] at hlast
    have hends : (c == '(' && e == ')') = false := by
      rw [Bool.eq_false_iff, Ne, Bool.and_eq_true, beq_iff_eq, beq_iff_eq]
      rintro ⟨rfl, rfl⟩
      refine h ((exists_between_iff (by decide)).mp ⟨Nat.not_lt.mp hlength, ?_, ?_⟩)
      · rw [hfirst, List.head?_cons]
      · rw [hlast, List.getLast?_concat]
    obtain ⟨d, hread, hd⟩ : ∃ d, read (encode cs) 0 = .ok d ∧ Alike d c :=
      hfirst ▸ read_encode [] c rest
    obtain ⟨d', hread', hd'⟩ : ∃ d', read (encode cs) ((encode cs).length - 1) = .ok d' ∧
        Alike d' e := by
      have hread := read_last front e []
      rwa [List.append_nil, ← hlast] at hread
    have hd : (d == '(') = (c == '(') := hd.eq (asciiOnly_beq (by decide))
    have hd' : (d' == ')') = (e == ')') := hd'.eq (asciiOnly_beq (by decide))
    rw [if_neg hlength, hread, ok_bind, hread', ok_bind, hd, hd', hends]
    rfl

theorem group?_encode (cs : List Char) :
    group? (encode cs) = .ok ((Scan.group? cs).map encode) := by
  by_cases hparens : ∃ inner, cs = '(' :: (inner ++ [')'])
  · obtain ⟨inner, rfl⟩ := hparens
    exact group?_encode_of_parens inner
  · have hnone : Scan.group? cs = none := by
      cases hgroup : Scan.group? cs with
      | none => rfl
      | some inner => exact absurd ⟨inner, eq_parens_of_group? hgroup⟩ hparens
    rw [hnone, group?_encode_of_not_parens hparens]
    rfl

end Utf8

end FormLogic
