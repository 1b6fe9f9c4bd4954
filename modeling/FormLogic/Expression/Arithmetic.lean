import FormLogic.Expression.Decoration
import FormLogic.Expression.Evaluator

/-!
# Arithmetic

Calculated fields may be plain arithmetic over variables.  The variables are replaced by the
text of their numbers first; `Arithmetic.evaluate` then reduces the text: `+` and `-` bind
loosest, then `*`, `/` and `%`, then parentheses, a leading minus and number literals.
Operators of one level apply from left to right.  A remainder by zero is zero; everything else
follows floating-point rules.
-/

namespace FormLogic

namespace Arithmetic

/-! ## 1. What counts as arithmetic -/

def isOperator (c : Char) : Bool := c == '+' || c == '-' || c == '*' || c == '/' || c == '%'

/-- A character that may stand in arithmetic. -/
def isAllowed (c : Char) : Bool :=
  Text.isIdentifierPart c || c == '.' || c == '(' || c == ')' || isOperator c || Text.isBlank c

/-- Whether a text is arithmetic: allowed characters only, and at least one operator. -/
def isArithmetic (cs : List Char) : Bool := cs.all isAllowed && cs.any isOperator

/-- Whether the parentheses pair up; `depth` of them are open. -/
def parenthesesPair (depth : Nat) : List Char → Bool
  | [] => depth == 0
  | c :: cs =>
    if c = '(' then parenthesesPair (depth + 1) cs
    else if c = ')' then
      match depth with
      | 0 => false
      | depth + 1 => parenthesesPair depth cs
    else parenthesesPair depth cs

/-- Whether a text can be evaluated as arithmetic at all: not blank, allowed characters only, no
operator at the end, none but a minus at the beginning, and parentheses that pair up. -/
def isValid (cs : List Char) : Bool :=
  let cs := Text.trim cs
  !cs.isEmpty && cs.all isAllowed
    && !(cs.getLast?.any isOperator)
    && !(cs.head?.any fun c => isOperator c && c != '-')
    && parenthesesPair 0 cs

/-! ## 2. Cutting at operators -/

/-- The last character of an operand. -/
def endsOperand (c : Char) : Bool := Text.isIdentifierPart c || c == '.' || c == ')'

/-- Whether a plus or minus is a binary operator rather than a sign, given the text before it,
nearest character first.  It has to follow an operand, blank characters in between not
counting, and it must not be the sign of an exponent: an `e` right before it whose run of
letters, digits and points begins with a digit. -/
def isBinarySign (before : List Char) : Bool :=
  match before.dropWhile Text.isBlank with
  | [] => false
  | prev :: more =>
    endsOperand prev &&
      !((prev == 'e' || prev == 'E') && !(before.head?.any Text.isBlank)
        && (more.takeWhile fun c => Text.isAsciiAlphanumeric c || c == '.').getLast?.any
          Text.isAsciiDigit)

/-- Where additions and subtractions are cut. -/
def cutsSum (before : List Char) (c : Char) : Bool := (c == '+' || c == '-') && isBinarySign before

/-- Where products, quotients and remainders are cut. -/
def cutsProduct (_before : List Char) (c : Char) : Bool := c == '*' || c == '/' || c == '%'

/-- **Cuts a text at operators outside parentheses**: the first operand, and the operators with
the operands after them.  `before` is the text behind, nearest character first. -/
def cut (cuts : List Char → Char → Bool) (depth : Int) (before : List Char) :
    List Char → List Char × List (Char × List Char)
  | [] => ([], [])
  | c :: cs =>
    let rest (depth : Int) := cut cuts depth (c :: before) cs
    if c = '(' then (c :: (rest (depth + 1)).1, (rest (depth + 1)).2)
    else if c = ')' then (c :: (rest (depth - 1)).1, (rest (depth - 1)).2)
    else if depth = 0 ∧ cuts before c then ([], (c, (rest depth).1) :: (rest depth).2)
    else (c :: (rest depth).1, (rest depth).2)

/-- No character is lost by cutting. -/
theorem cut_append (cuts : List Char → Char → Bool) (depth : Int) (before cs : List Char) :
    (cut cuts depth before cs).1
      ++ (cut cuts depth before cs).2.flatMap (fun p => p.1 :: p.2) = cs := by
  induction cs generalizing depth before with
  | nil => rfl
  | cons c cs ih =>
    simp only [cut]
    split
    · rw [List.cons_append, ih]
    · split
      · rw [List.cons_append, ih]
      · split
        · rw [List.nil_append, List.flatMap_cons, List.cons_append, ih]
        · rw [List.cons_append, ih]

/-- The operands of a text that was cut are shorter than it. -/
theorem length_lt_of_cut {cuts : List Char → Char → Bool} {cs first : List Char}
    {p : Char × List Char} {ps : List (Char × List Char)}
    (h : cut cuts 0 [] cs = (first, p :: ps)) :
    first.length < cs.length ∧ ∀ q ∈ p :: ps, q.2.length < cs.length := by
  have hall := cut_append cuts 0 [] cs
  rw [h] at hall
  rw [← hall]
  refine ⟨?_, fun q hq => ?_⟩
  · simp only [List.flatMap_cons, List.length_append, List.length_cons]
    omega
  · obtain ⟨front, back, hsplit⟩ := List.append_of_mem hq
    simp only [hsplit, List.flatMap_append, List.flatMap_cons, List.length_append,
      List.length_cons]
    omega

/-! ## 3. Evaluation -/

/-- The result of one operator. -/
def apply (op : Char) (a b : Binary64) : Binary64 :=
  if op = '+' then a.add b
  else if op = '-' then a.sub b
  else if op = '*' then a.mul b
  else if op = '/' then a.div b
  else if b.isZero then .zero
  else a.rem b

/-- Applies operators from left to right; the first error among the operands is the result. -/
def chain (first : Except EvalError Binary64) (rest : List (Char × Except EvalError Binary64)) :
    Except EvalError Binary64 :=
  rest.foldl (fun total (op, operand) => do return apply op (← total) (← operand)) first

/-- The number of a literal, zero for a text that is none. -/
def literal (cs : List Char) : Binary64 :=
  ((Number.lenient? cs).filter (!·.isNaN)).getD .zero

/-- **Evaluates arithmetic** at a depth of nesting; operands lie one level deeper. -/
def evaluate (maxDepth depth : Nat) (cs : List Char) : Except EvalError Binary64 :=
  if maxDepth < depth then
    .error (.depthExceeded maxDepth)
  else
    match hs : cut cutsSum 0 [] (Text.trim cs) with
    | (first, term :: terms) =>
      chain (evaluate maxDepth (depth + 1) first)
        ((term :: terms).attach.map fun ⟨(op, operand), _⟩ =>
          (op, evaluate maxDepth (depth + 1) operand))
    | (_, []) =>
    match hp : cut cutsProduct 0 [] (Text.trim cs) with
    | (first, factor :: factors) =>
      chain (evaluate maxDepth (depth + 1) first)
        ((factor :: factors).attach.map fun ⟨(op, operand), _⟩ =>
          (op, evaluate maxDepth (depth + 1) operand))
    | (_, []) =>
    match hg : Scan.group? (Text.trim cs) with
    | some inner => evaluate maxDepth (depth + 1) inner
    | none =>
    match hn : Text.trim cs with
    | '-' :: operand => return (← evaluate maxDepth (depth + 1) operand).neg
    | text => return literal text
termination_by cs.length
decreasing_by
  all_goals have htrim := Text.length_trim_le cs
  · have := (length_lt_of_cut hs).1; omega
  · have := (length_lt_of_cut hs).2 _ (by assumption); simp only at this; omega
  · have := (length_lt_of_cut hp).1; omega
  · have := (length_lt_of_cut hp).2 _ (by assumption); simp only at this; omega
  · have := Scan.length_of_group? hg; omega
  · rw [hn] at htrim; simp only [List.length_cons] at htrim; omega

/-! ## 4. Variables -/

/-- Words that are never variables. -/
def reserved : List (List Char) := [
  ['t', 'r', 'u', 'e'],
  ['f', 'a', 'l', 's', 'e'],
  ['n', 'u', 'l', 'l'],
  ['u', 'n', 'd', 'e', 'f', 'i', 'n', 'e', 'd']]

/-- A character of a variable or of a number literal. -/
def isTokenPart (c : Char) : Bool := Text.isIdentifierPart c || c == '.'

/-- The number that a variable stands for: a number as it is, text by its lenient reading, zero
for everything else. -/
def variableNumber (r : Resolved) : Binary64 :=
  match r with
  | some (.number n) => n
  | some (.string s) => (Number.lenient? s.toList).getD .zero
  | _ => .zero

/-- The text of a number inside arithmetic; a negative one is put in parentheses. -/
def operandText (n : Binary64) : List Char :=
  if n.lt .zero then '(' :: Number.format n ++ [')'] else Number.format n

/-- The text that takes the place of a token: a variable's number, the token itself when it is
a number literal, a reserved word or the name of a call. -/
def tokenText (resolve : List Char → Resolved) (token tail : List Char) : List Char :=
  if !(token.head?.any Text.isIdentifierStart) || reserved.contains token
      || (Text.trimStart tail).head? == some '(' then
    token
  else
    operandText (variableNumber (resolve token))

/-- **Replaces the variables of a text by their numbers.** -/
def substitute (resolve : List Char → Resolved) (cs : List Char) : List Char :=
  match cs with
  | [] => []
  | c :: rest =>
    if isTokenPart c then
      let tail := rest.dropWhile isTokenPart
      tokenText resolve (c :: rest.takeWhile isTokenPart) tail ++ substitute resolve tail
    else
      c :: substitute resolve rest
termination_by cs.length
decreasing_by
  · have := Text.length_dropWhile_le isTokenPart rest
    simp only [List.length_cons]
    omega
  · simp

end Arithmetic

/-- **Arithmetic over the variables of a context**; zero for a text that is not valid
arithmetic or nests too deeply. -/
def Evaluator.arithmetic (ev : Evaluator) (expression : String) : Binary64 :=
  let cs := Text.stripTemplate expression.toList
  if Arithmetic.isValid cs then
    let substituted := Arithmetic.substitute ev.context.resolve? cs
    match Arithmetic.evaluate ev.options.maxDepth 0 substituted with
    | .ok n => n
    | .error _ => .zero
  else
    .zero

end FormLogic
