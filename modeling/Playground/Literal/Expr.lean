import Playground.Literal.Token

namespace Playground.Literal

/-- An expression, told apart as far as literals need it; `within` compares by a search, which a
loop looks like. Of all others there is only the shape. -/
inductive Expr
  | name (word : String)
  | constant (word : String)
  | ellipsis
  | number (imaginary : Bool)
  | text
  | tuple (items : List Expr)
  | set (items : List Expr)
  | dict (entries : List (Option Expr × Expr))
  | signed (e : Expr)
  | sum (left right : Expr)
  | within (left : Expr)
  | emptySet
  | other (shape : String)
  deriving Repr

/-- How messages call an expression. -/
def Expr.shape : Expr → String
  | .name _ => "name"
  | .constant word => word
  | .ellipsis => "ellipsis"
  | .number _ => "literal"
  | .text => "literal"
  | .tuple _ => "tuple"
  | .set _ => "set display"
  | .dict _ => "dict literal"
  | .signed _ => "expression"
  | .sum _ _ => "expression"
  | .within _ => "comparison"
  | .emptySet => "function call"
  | .other shape => shape

/-- A reading stops where nothing fits, so that another one may be tried, or at a fault. -/
inductive Stop
  | mismatch
  | fault (f : Fault)
  deriving Repr

/-- A reading that keeps the last line it looked at. -/
abbrev Parse := ExceptT Stop (StateM Nat)

namespace Expr

def mismatch {α : Type} : Parse α := throw .mismatch

def refuse {α : Type} (f : Fault) : Parse α := throw (.fault f)

def attempt {α : Type} (p : Parse α) : Parse (Option α) := fun line =>
  match p line with
  | (.ok a, line) => (.ok (some a), line)
  | (.error .mismatch, line) => (.ok none, line)
  | (.error (.fault f), line) => (.error (.fault f), line)

def peek (s : Tokens) : Parse Token := do
  match s.all with
  | t :: _ => do
    modify (max t.line)
    return t
  | [] => refuse (s.cut.getD .malformed)

def past (s : Tokens) : Tokens := { s with all := s.all.drop 1 }

def isMark (mark : String) (t : Token) : Bool := t.kind == .mark && t.chars == mark.toList

def isWord (word : String) (t : Token) : Bool := t.kind == .name && t.chars == word.toList

def atMark (mark : String) (s : Tokens) : Parse Bool := return isMark mark (← peek s)

def atWord (word : String) (s : Tokens) : Parse Bool := return isWord word (← peek s)

def expectMark (mark : String) (s : Tokens) : Parse Tokens := do
  if ← atMark mark s then return past s else mismatch

def expectWord (word : String) (s : Tokens) : Parse Tokens := do
  if ← atWord word s then return past s else mismatch

def constants : List String := ["True", "False", "None"]

def keywords : List String :=
  constants ++ ["and", "as", "assert", "async", "await", "break", "class", "continue", "def", "del",
    "elif", "else", "except", "finally", "for", "from", "global", "if", "import", "in", "is",
    "lambda", "nonlocal", "not", "or", "pass", "raise", "return", "try", "while", "with", "yield"]

/-- Words that are keywords only at the start of a statement. -/
def softKeywords : List String := ["match", "case", "_"]

/-- Whether a word could still become one of those. -/
def startsSoft (t : Token) : Bool := softKeywords.any fun word => t.chars.isPrefixOf word.toList

/-- Words that once printed or ran what follows them. -/
def oldWords : List String := ["print", "exec"]

def wordOf (t : Token) : String := String.ofList t.chars

def isName (t : Token) : Bool := t.kind == .name && !keywords.contains (wordOf t)

def hexRun (width : Nat) (s : List Char) : List Char := (s.take width).takeWhile Token.isHex

def hexValue (digits : List Char) : Nat :=
  digits.foldl (fun n d => n * 16 + (Number.digitOf? 16 d).getD 0) 0

/-- How many bytes a character takes where escapes are read: those beyond ASCII are escaped
themselves. -/
def escapedWidth (c : Char) : Nat := if c.toNat < 0x80 then 1 else 10

/-- The fault of an escape with a fixed number of digits, or how many characters it takes. -/
def escapeWidth (position width : Nat) (shape : String) (digits : List Char) : Parse Nat :=
  let run := hexRun width digits
  if run.length < width then refuse (.shortEscape position (position + 1 + run.length) shape)
  else if 0x10FFFF < hexValue run then refuse (.largeEscape position (position + 1 + width))
  else return width

/-- Looks through the escapes of a text; `position` counts the bytes before. -/
def checkEscapes : Nat → Nat → List Char → Parse Unit
  | 0, _, _ => return
  | fuel + 1, position, s =>
    match s with
    | '\\' :: 'x' :: r => do
      checkEscapes fuel (position + 2 + (← escapeWidth position 2 "\\xXX" r)) (r.drop 2)
    | '\\' :: 'u' :: r => do
      checkEscapes fuel (position + 2 + (← escapeWidth position 4 "\\uXXXX" r)) (r.drop 4)
    | '\\' :: 'U' :: r => do
      checkEscapes fuel (position + 2 + (← escapeWidth position 8 "\\UXXXXXXXX" r)) (r.drop 8)
    | '\\' :: c :: r => checkEscapes fuel (position + 1 + escapedWidth c) r
    | c :: r => checkEscapes fuel (position + escapedWidth c) r
    | [] => return

/-- Looks through the escapes of bytes. -/
def checkByteEscapes : Nat → Nat → List Char → Parse Unit
  | 0, _, _ => return
  | fuel + 1, position, s =>
    match s with
    | '\\' :: 'x' :: r =>
      if (hexRun 2 r).length < 2 then refuse (.shortByteEscape position)
      else checkByteEscapes fuel (position + 4) (r.drop 2)
    | '\\' :: _ :: r => checkByteEscapes fuel (position + 2) r
    | _ :: r => checkByteEscapes fuel (position + 1) r
    | [] => return

/-- What stands between the quotes of a text. -/
def textBody (quoted : List Char) : List Char :=
  match quoted with
  | mark :: r =>
    let width := if [mark, mark].isPrefixOf r ∧ 5 ≤ r.length then 3 else 1
    (quoted.drop width).take (quoted.length - 2 * width)
  | [] => []

/-- Whether a text is bytes, and whether expressions are set into it. -/
def textKind (t : Token) : Parse (Bool × Bool) := do
  let letters := (t.chars.takeWhile fun c => c != '\'' && c != '"').map Char.toLower
  let body := textBody (t.chars.drop letters.length)
  let isBytes := letters.contains 'b'
  if isBytes && body.any fun c => 0x80 ≤ c.toNat then refuse .bytesNotAscii
  if !letters.contains 'r' && !letters.contains 'f' then
    if isBytes then checkByteEscapes body.length 0 body else checkEscapes body.length 0 body
  return (isBytes, letters.contains 'f')

/-- Texts that stand side by side are one, of one kind. -/
def textKinds (before : List (Bool × Bool)) : List Token → Parse (List (Bool × Bool))
  | [] => return before
  | t :: ts => do
    let kind ← textKind t
    if before.any fun k => k.1 != kind.1 then refuse .mixedTexts
    textKinds (before ++ [kind]) ts

def longestNumber : Nat := Number.maxDigits

def numberOf (chars : List Char) : Parse Expr :=
  let digits := chars.filter (· ≠ '_')
  if digits.all Token.isDigit ∧ longestNumber < digits.length then
    refuse (.longNumber digits.length)
  else
    let isBased := digits.head? = some '0' ∧
      (digits.drop 1).head?.any fun c => "xXoObB".toList.contains c
    return .number (!isBased && digits.getLast?.any fun c => c == 'j' || c == 'J')

/-- The number of brackets open at the last token between two places. -/
def lastDepth (start stop : Tokens) : Nat :=
  match start.all[start.all.length - stop.all.length - 1]? with
  | some t => t.depth
  | none => 0

/-- The marks that join two operands, from the loosest to the tightest. -/
def joints : List (List String) :=
  [["|"], ["^"], ["&"], ["<<", ">>"], ["+", "-"], ["*", "/", "//", "%", "@"]]

def comparisons : List String := ["==", "!=", "<=", "<", ">=", ">"]

/-- Past a comparing mark or word. -/
def pastComparison (s : Tokens) : Parse (Option Tokens) := do
  let t ← peek s
  if t.kind == .mark then return if comparisons.contains (wordOf t) then some (past s) else none
  if isWord "in" t then return some (past s)
  if isWord "is" t then
    return some (if ← atWord "not" (past s) then past (past s) else past s)
  if isWord "not" t then
    if ← atWord "in" (past s) then return some (past (past s))
  return none

/-- A way to read an expression, from the tokens at its start to those after it. -/
abbrev Reader := Tokens → Parse (Expr × Tokens)

/-- Items with commas between them and perhaps one at the end. -/
def listed {α : Type} (item : Tokens → Parse (α × Tokens)) :
    Nat → Tokens → Parse (List α × Bool × Tokens)
  | 0, _ => mismatch
  | fuel + 1, s => do
    let (a, r) ← item s
    if !(← atMark "," r) then return ([a], false, r)
    match ← attempt (listed item fuel (past r)) with
    | some (as, _, t) => return (a :: as, true, t)
    | none => return ([a], true, past r)

/-- One item, or a tuple where there is a comma. -/
def joined (items : List Expr × Bool × Tokens) : Expr × Tokens :=
  match items with
  | ([e], false, r) => (e, r)
  | (es, _, r) => (.tuple es, r)

mutual

/-- The first part of an expression that nothing can be assigned to. -/
def badTarget? : Expr → Option Expr
  | .tuple items => badTargetIn? items
  | .name _ => none
  | .within left => badTarget? left
  | .other "comparison" => none
  | .other "attribute" => none
  | .other "starred" => none
  | e => some e

def badTargetIn? : List Expr → Option Expr
  | [] => none
  | e :: es => (badTarget? e).or (badTargetIn? es)

end

mutual

/-- An expression that no comma parts. With `checks` it is looked at what a mismatch may be due
to. -/
def expression (checks : Bool) : Nat → Reader
  | 0, _ => mismatch
  | fuel + 1, s => expressionIn checks checks fuel s

/-- An expression with checks on what follows it, and others on its parts. -/
def expressionIn (checks inner : Bool) : Nat → Reader
  | 0, _ => mismatch
  | fuel + 1, s => do
    match ← attempt (disjunction inner fuel s) with
    | none => lambda inner fuel s
    | some (a, r) =>
      if checks then checkFollower fuel s a r
      if !(← atWord "if" r) then return (a, r)
      match ← attempt (alternative inner fuel (past r)) with
      | some t => return (.other "conditional expression", t)
      | none => return (a, r)

/-- A condition with what stands for it otherwise. -/
def alternative (checks : Bool) : Nat → Tokens → Parse Tokens
  | 0, _ => mismatch
  | fuel + 1, s => do
    let (_, r) ← disjunction checks fuel s
    let (_, t) ← expression checks fuel (← expectWord "else" r)
    return t

/-- What may be wrong after an expression: a comma is missing, or the other branch of a condition,
or brackets around what once needed none. -/
def checkFollower : Nat → Tokens → Expr → Tokens → Parse Unit
  | 0, _, _, _ => mismatch
  | fuel + 1, s, a, r => do
    let first ← peek s
    let isOld := match a with
      | .name word => oldWords.contains word
      | _ => false
    let isSpecial ← if isName first then
        if startsSoft first then pure true
        else pure ((← peek (past s)).kind == .text)
      else pure false
    if !isSpecial then
      match ← attempt (expression false fuel r) with
      | some (_, t) => if !isOld && lastDepth r t != 0 then refuse .missingComma
      | none => pure ()
    if ← atWord "if" r then
      match ← attempt (disjunction true fuel (past r)) with
      | some (_, t) => if !(← atWord "else" t) && !(← atMark ":" t) then refuse .missingElse
      | none => pure ()
    if isName first && !(← atMark "(" (past s)) then
      let next := past s
      let found ← attempt <| if isSpecial then starExpressions true fuel next
        else followers fuel next
      match found with
      | some _ => if oldWords.contains (wordOf first) then refuse (.missingBrackets (wordOf first))
      | none => pure ()

/-- Expressions of which the first was read before, without checks. -/
def followers : Nat → Reader
  | 0, _ => mismatch
  | fuel + 1, s => do
    let (a, r) ← if ← atMark "*" s then binary false joints fuel (past s)
      else expressionIn true false fuel s
    if ← atMark "," r then
      let _ ← attempt (starExpressions true fuel (past r))
    return (a, r)

def starExpressions (checks : Bool) : Nat → Reader
  | 0, _ => mismatch
  | fuel + 1, s => do
    return joined (← listed (starExpression checks fuel) (s.all.length + 1) s)

def starExpression (checks : Bool) : Nat → Reader
  | 0, _ => mismatch
  | fuel + 1, s => do
    if ← atMark "*" s then
      let (_, r) ← binary checks joints fuel (past s)
      return (.other "starred", r)
    else expression checks fuel s

def lambda (checks : Bool) : Nat → Reader
  | 0, _ => mismatch
  | fuel + 1, s => do
    let r ← expectWord "lambda" s
    let r ← if ← atMark ":" r then pure r
      else do pure (← listed (parameter checks fuel) (s.all.length + 1) r).2.2
    let (_, t) ← expression checks fuel (← expectMark ":" r)
    return (.other "lambda", t)

def parameter (checks : Bool) : Nat → Tokens → Parse (Unit × Tokens)
  | 0, _ => mismatch
  | fuel + 1, s => do
    let t ← peek s
    if isMark "/" t then return ((), past s)
    let r := if isMark "*" t || isMark "**" t then past s else s
    if isName (← peek r) then
      if ← atMark "=" (past r) then
        let (_, u) ← expression checks fuel (past (past r))
        return ((), u)
      else return ((), past r)
    else if isMark "*" t then return ((), r)
    else mismatch

def disjunction (checks : Bool) : Nat → Reader
  | 0, _ => mismatch
  | fuel + 1, s => do
    let (a, r) ← conjunction checks fuel s
    if !(← atWord "or" r) then return (a, r)
    match ← attempt (disjunction checks fuel (past r)) with
    | some (_, t) => return (.other "expression", t)
    | none => return (a, r)

def conjunction (checks : Bool) : Nat → Reader
  | 0, _ => mismatch
  | fuel + 1, s => do
    let (a, r) ← inversion checks fuel s
    if !(← atWord "and" r) then return (a, r)
    match ← attempt (conjunction checks fuel (past r)) with
    | some (_, t) => return (.other "expression", t)
    | none => return (a, r)

def inversion (checks : Bool) : Nat → Reader
  | 0, _ => mismatch
  | fuel + 1, s => do
    if ← atWord "not" s then
      let (_, r) ← inversion checks fuel (past s)
      return (.other "expression", r)
    let (a, r) ← binary checks joints fuel s
    compared checks fuel (if ← atWord "in" r then .within a else .other "comparison") a r

/-- Operands that are compared with the one before them, and what it all is then. -/
def compared (checks : Bool) : Nat → Expr → Expr → Reader
  | 0, _, _, _ => mismatch
  | fuel + 1, whole, a, r => do
    match ← pastComparison r with
    | none => return (a, r)
    | some t =>
      match ← attempt (binary checks joints fuel t) with
      | some (_, u) => compared checks fuel whole whole u
      | none => return (a, r)

/-- Operands that marks join, from the left. -/
def binary (checks : Bool) : List (List String) → Nat → Reader
  | _, 0, _ => mismatch
  | [], fuel + 1, s => factor checks fuel s
  | marks :: tighter, fuel + 1, s => do
    let (a, r) ← binary checks tighter fuel s
    operands checks marks tighter fuel a r

def operands (checks : Bool) (marks : List String) (tighter : List (List String)) :
    Nat → Expr → Reader
  | 0, _, _ => mismatch
  | fuel + 1, a, r => do
    let t ← peek r
    if t.kind != .mark || !marks.contains (wordOf t) then return (a, r)
    match ← attempt (binary checks tighter fuel (past r)) with
    | some (b, u) =>
      let e := if marks.contains "+" then .sum a b else .other "expression"
      operands checks marks tighter fuel e u
    | none => return (a, r)

def factor (checks : Bool) : Nat → Reader
  | 0, _ => mismatch
  | fuel + 1, s => do
    let t ← peek s
    if isMark "+" t || isMark "-" t then
      let (e, r) ← factor checks fuel (past s)
      return (.signed e, r)
    if isMark "~" t then
      let (_, r) ← factor checks fuel (past s)
      return (.other "expression", r)
    let (a, r) ← awaited checks fuel s
    if !(← atMark "**" r) then return (a, r)
    match ← attempt (factor checks fuel (past r)) with
    | some (_, u) => return (.other "expression", u)
    | none => return (a, r)

def awaited (checks : Bool) : Nat → Reader
  | 0, _ => mismatch
  | fuel + 1, s => do
    if ← atWord "await" s then
      let (_, r) ← primary checks fuel (past s)
      return (.other "await expression", r)
    primary checks fuel s

def primary (checks : Bool) : Nat → Reader
  | 0, _ => mismatch
  | fuel + 1, s => do
    let (a, r) ← atom checks fuel s
    parts checks fuel a r

/-- Attributes and calls of what stands before them. -/
def parts (checks : Bool) : Nat → Expr → Reader
  | 0, _, _ => mismatch
  | fuel + 1, a, r => do
    let t ← peek r
    if isMark "." t then
      if isName (← peek (past r)) then parts checks fuel (.other "attribute") (past (past r))
      else return (a, r)
    else if isMark "\x7b" t && checks then
      checkLoop true fuel (past r) (← attempt (item true fuel (past r)))
      return (a, r)
    else if isMark "(" t then
      match ← attempt (call checks fuel (past r)) with
      | some (isEmpty, u) =>
        let e := match a with
          | .name "set" => if isEmpty then .emptySet else .other "function call"
          | _ => .other "function call"
        parts checks fuel e u
      | none => return (a, r)
    else return (a, r)

/-- What stands between the brackets of a call, and the closing one. -/
def call (checks : Bool) : Nat → Tokens → Parse (Bool × Tokens)
  | 0, _ => mismatch
  | fuel + 1, s => do
    if ← atMark ")" s then return (true, past s)
    match ← attempt (argument checks fuel false s) with
    | none => mismatch
    | some (isKeyword, r) =>
      if !isKeyword && ((← atWord "for" r) || (← atWord "async" r)) then
        let t ← clauses checks fuel r
        return (false, ← expectMark ")" t)
      let t ← arguments checks fuel isKeyword r
      return (false, ← expectMark ")" t)

/-- The arguments after the first one. -/
def arguments (checks : Bool) : Nat → Bool → Tokens → Parse Tokens
  | 0, _, _ => mismatch
  | fuel + 1, keywordSeen, r => do
    if !(← atMark "," r) then return r
    match ← attempt (argument checks fuel keywordSeen (past r)) with
    | some (isKeyword, t) => arguments checks fuel (keywordSeen || isKeyword) t
    | none => return past r

/-- An argument, and whether it goes by a name. -/
def argument (checks : Bool) : Nat → Bool → Tokens → Parse (Bool × Tokens)
  | 0, _, _ => mismatch
  | fuel + 1, keywordSeen, s => do
    let t ← peek s
    if isMark "*" t then
      match ← attempt (expression checks fuel (past s)) with
      | some (_, r) => return (false, r)
      | none => if checks then refuse .loneStar else mismatch
    if isMark "**" t then
      let (_, r) ← expression checks fuel (past s)
      return (true, r)
    if isName t then
      if ← atMark "=" (past s) then
        let (_, r) ← expression checks fuel (past (past s))
        return (true, r)
    if checks && t.kind == .name && constants.contains (wordOf t) then
      if ← atMark "=" (past s) then refuse (.constantAssignment (wordOf t))
    if keywordSeen then mismatch
    let (_, r) ← plainNamed checks fuel s
    if ← atMark "=" r then
      if checks then refuse .argumentAssignment else mismatch
    return (false, r)

/-- An expression, or one with a name for it; no check for names that may have been meant. -/
def plainNamed (checks : Bool) : Nat → Reader
  | 0, _ => mismatch
  | fuel + 1, s => do
    if isName (← peek s) then
      if ← atMark ":=" (past s) then
        let (_, r) ← expression checks fuel (past (past s))
        return (.other "named expression", r)
    let (a, r) ← expression checks fuel s
    if ← atMark ":=" r then mismatch else return (a, r)

def atom (checks : Bool) : Nat → Reader
  | 0, _ => mismatch
  | fuel + 1, s => do
    let t ← peek s
    match t.kind with
    | .name =>
      if constants.contains (wordOf t) then return (.constant (wordOf t), past s)
      if isName t then return (.name (wordOf t), past s) else mismatch
    | .number => return (← numberOf t.chars, past s)
    | .text =>
      let r := { s with all := s.all.dropWhile (·.kind == .text) }
      let _ ← peek r
      let kinds ← textKinds [] (s.all.takeWhile (·.kind == .text))
      return (if kinds.any (·.2) then .other "f-string expression" else .text, r)
    | .mark =>
      if isMark "(" t then brackets checks fuel (past s)
      else if isMark "\x7b" t then braces checks fuel (past s)
      else if isMark "..." t then return (.ellipsis, past s)
      else mismatch
    | _ => mismatch

/-- What may be wrong with an expression in brackets that an equals sign follows. -/
def checkNamed : Nat → Tokens → Option (Expr × Tokens) → Parse Unit
  | 0, _, _ => mismatch
  | fuel + 1, s, found => do
    match found with
    | none => return
    | some (a, r) =>
      if ← atMark ":=" r then
        if (← attempt (expression true fuel (past r))).isSome then refuse (.namedAssignment a.shape)
      if isName (← peek s) then
        if ← atMark "=" (past s) then checkAssigned .singleEquals fuel (past (past s))
      if ← atMark "=" r then
        let opens ← atMark "(" s
        let head ← attempt (atom false fuel s)
        let isList := match head with
          | some (.tuple _, _) => opens
          | some (.other "generator expression", _) => opens
          | some (.constant _, _) => true
          | _ => false
        if !isList then
          match ← attempt (binary true joints fuel s) with
          | some (b, t) =>
            if ← atMark "=" t then checkAssigned (.assignment b.shape) fuel (past t)
          | none => pure ()

/-- A lone equals sign with an operand after it is a fault. -/
def checkAssigned (f : Fault) : Nat → Tokens → Parse Unit
  | 0, _ => mismatch
  | fuel + 1, s => do
    match ← attempt (binary true joints fuel s) with
    | some (_, t) => if !(← atMark "=" t) && !(← atMark ":=" t) then refuse f
    | none => pure ()

/-- An item in brackets: an expression, perhaps with a name for it. The expression that starts here
was read before, if there is one. -/
def namedFrom (checks : Bool) : Nat → Option (Expr × Tokens) → Reader
  | 0, _, _ => mismatch
  | fuel + 1, found, s => do
    if isName (← peek s) then
      if ← atMark ":=" (past s) then
        let (_, r) ← expression checks fuel (past (past s))
        return (.other "named expression", r)
    if checks then checkNamed fuel s found
    match found with
    | none => mismatch
    | some (a, r) => if ← atMark ":=" r then mismatch else return (a, r)

def item (checks : Bool) : Nat → Reader
  | 0, _ => mismatch
  | fuel + 1, s => do
    if ← atMark "*" s then
      let (_, r) ← binary checks joints fuel (past s)
      return (.other "starred", r)
    namedFrom checks fuel (← attempt (expression checks fuel s)) s

/-- What follows an opening bracket: a tuple, one expression or a generator. -/
def brackets (checks : Bool) : Nat → Reader
  | 0, _ => mismatch
  | fuel + 1, s => do
    if ← atMark ")" s then return (.tuple [], past s)
    if ← atWord "yield" s then
      let r ← yielded checks fuel (past s)
      return (.other "yield expression", ← expectMark ")" r)
    let isStarred ← atMark "*" s
    match ← attempt (item checks fuel s) with
    | none =>
      if checks then checkStars fuel s
      mismatch
    | some (a, r) =>
      if ← atMark "," r then
        let (more, t) ← match ← attempt (listed (item checks fuel) (s.all.length + 1) (past r)) with
          | some (more, _, t) => pure (more, t)
          | none => pure ([], past r)
        if ← atMark ")" t then return (.tuple (a :: more), past t)
      if !isStarred then
        if ← atMark ")" r then return (a, past r)
      if checks then checkStars fuel s
      if !isStarred && ((← atWord "for" r) || (← atWord "async" r)) then
        let t ← clauses checks fuel r
        return (.other "generator expression", ← expectMark ")" t)
      if checks then checkLoop false fuel s (some (a, r))
      mismatch

/-- Stars have no place in brackets without a comma. -/
def checkStars : Nat → Tokens → Parse Unit
  | 0, _ => mismatch
  | fuel + 1, s => do
    if ← atMark "*" s then
      match ← attempt (expression true fuel (past s)) with
      | some (_, r) => if ← atMark ")" r then refuse .starInBrackets
      | none => refuse .loneStar
    if ← atMark "**" s then
      match ← attempt (expression true fuel (past s)) with
      | some (_, r) => if ← atMark ")" r then refuse .doubleStarInBrackets
      | none => pure ()

/-- What may be wrong where a loop in brackets does not fit: a star, or targets without brackets of
their own. The item that starts here was read before, if there is one. -/
def checkLoop (inBraces : Bool) : Nat → Tokens → Option (Expr × Tokens) → Parse Unit
  | 0, _, _ => mismatch
  | fuel + 1, s, found => do
    if ← atMark "*" s then
      match ← attempt (expression true fuel (past s)) with
      | none => refuse .loneStar
      | some (_, r) => if (← attempt (clauses true fuel r)).isSome then refuse .starredLoop
    match found with
    | none => return
    | some (_, r) =>
      if inBraces then
        if ← atMark "," r then
          let end? ← attempt (listed (item true fuel) (s.all.length + 1) (past r))
          let after := match end? with
            | some (_, _, t) => t
            | none => past r
          if (← attempt (clauses true fuel after)).isSome then refuse .bareTargets

def yielded (checks : Bool) : Nat → Tokens → Parse Tokens
  | 0, _ => mismatch
  | fuel + 1, s => do
    if ← atWord "from" s then
      let (_, r) ← expression checks fuel (past s)
      return r
    match ← attempt (starExpressions checks fuel s) with
    | some (_, r) => return r
    | none => return s

/-- The loops and conditions of a comprehension. -/
def clauses (checks : Bool) : Nat → Tokens → Parse Tokens
  | 0, _ => mismatch
  | fuel + 1, s => do
    let s ← if ← atWord "async" s then pure (past s) else pure s
    let r ← expectWord "for" s
    let targets ← attempt (listed (target checks fuel) (s.all.length + 1) r)
    let inside := match targets with
      | some (_, _, t) => t
      | none => r
    let fits ← if targets.isSome then atWord "in" inside else pure false
    if !fits then
      if checks then checkTargets fuel r
      mismatch
    let (_, r) ← disjunction checks fuel (past inside)
    let r ← conditions checks fuel r
    if (← atWord "for" r) || (← atWord "async" r) then clauses checks fuel r else return r

/-- The first of the targets of a loop that cannot be one. -/
def checkTargets : Nat → Tokens → Parse Unit
  | 0, _ => mismatch
  | fuel + 1, s => do
    match ← attempt (starExpressions true fuel s) with
    | some (e, _) =>
      match badTarget? e with
      | some bad => refuse (.target bad.shape)
      | none => return
    | none => return

def conditions (checks : Bool) : Nat → Tokens → Parse Tokens
  | 0, _ => mismatch
  | fuel + 1, s => do
    if !(← atWord "if" s) then return s
    let (_, r) ← disjunction checks fuel (past s)
    conditions checks fuel r

def target (checks : Bool) : Nat → Reader
  | 0, _ => mismatch
  | fuel + 1, s => do
    let s ← if ← atMark "*" s then pure (past s) else pure s
    let (e, r) ← primary checks fuel s
    match e with
    | .name _ | .tuple _ | .other "attribute" => return (e, r)
    | _ => mismatch

/-- A key with its value; the key was read before, if there is one. Two stars put in the entries of
another map. -/
def entryFrom (checks : Bool) :
    Nat → Option (Expr × Tokens) → Tokens → Parse ((Option Expr × Expr) × Tokens)
  | 0, _, _ => mismatch
  | fuel + 1, found, s => do
    if ← atMark "**" s then
      let (e, r) ← binary checks joints fuel (past s)
      return ((none, e), r)
    match found with
    | none => mismatch
    | some (k, r) =>
      let (v, t) ← expression checks fuel (← expectMark ":" r)
      return ((some k, v), t)

def entry (checks : Bool) : Nat → Tokens → Parse ((Option Expr × Expr) × Tokens)
  | 0, _ => mismatch
  | fuel + 1, s => do
    entryFrom checks fuel (← attempt (expression checks fuel s)) s

/-- What may be wrong with an entry. -/
def checkEntry (needsColon : Bool) : Nat → Option (Expr × Tokens) → Parse Unit
  | 0, _ => mismatch
  | fuel + 1, found => do
    match found with
    | none => return
    | some (_, r) =>
      if !(← atMark ":" r) then
        if needsColon then refuse .missingColon
      else
        if ← atMark "*" (past r) then
          if (← attempt (binary true joints fuel (past (past r)))).isSome then refuse .starredValue
        if (← atMark "\x7d" (past r)) || (← atMark "," (past r)) then refuse .missingValue

/-- What follows an opening brace: a map, a set or a comprehension. -/
def braces (checks : Bool) : Nat → Reader
  | 0, _ => mismatch
  | fuel + 1, s => do
    if ← atMark "\x7d" s then return (.dict [], past s)
    let found ← attempt (expression checks fuel s)
    match ← attempt (entryFrom checks fuel found s) with
    | some (e, r) =>
      let (more, comma, t) ← if ← atMark "," r then
          match ← attempt (listed (entry checks fuel) (s.all.length + 1) (past r)) with
          | some (more, comma, t) => pure (more, comma, t)
          | none => pure ([], true, past r)
        else pure ([], false, r)
      if ← atMark "\x7d" t then return (.dict (e :: more), past t)
      if checks && comma then checkEntry true fuel (← attempt (expression true fuel t))
      if checks then checkEntry false fuel found
      if e.1.isSome && ((← atWord "for" r) || (← atWord "async" r)) then
        let u ← clauses checks fuel r
        return (.other "dict comprehension", ← expectMark "\x7d" u)
      mismatch
    | none =>
      if checks then checkEntry false fuel found
      let isStarred ← atMark "*" s
      let first ← attempt <| if isStarred then item checks fuel s else namedFrom checks fuel found s
      if checks && isStarred && first.isNone then checkLoop true fuel s none
      let (a, r) ← match first with
        | some p => pure p
        | none => mismatch
      let (more, t) ← if ← atMark "," r then
          match ← attempt (listed (item checks fuel) (s.all.length + 1) (past r)) with
          | some (more, _, t) => pure (more, t)
          | none => pure ([], past r)
        else pure ([], r)
      if ← atMark "\x7d" t then return (.set (a :: more), past t)
      if !isStarred && ((← atWord "for" r) || (← atWord "async" r)) then
        let u ← clauses checks fuel r
        return (.other "set comprehension", ← expectMark "\x7d" u)
      if checks then checkLoop true fuel s (some (a, r))
      mismatch

end

def pastLineEnds (s : Tokens) : Tokens := { s with all := s.all.dropWhile (·.kind == .lineEnd) }

/-- How deep expressions may lie in each other, for so many tokens. -/
def depthOf (s : Tokens) : Nat := 24 * (s.all.length + 2)

def document (checks : Bool) (s : Tokens) : Parse (Expr × Tokens) := do
  return joined (← listed (expression checks (depthOf s)) (s.all.length + 1) s)

/-- The whole of a text as an expression, or the token that does not fit after one. -/
def complete (s : Tokens) : Parse (Expr × Token) := do
  let (e, r) ← document false s
  return (e, ← peek (pastLineEnds r))

/-- A bracket that was left open on a line before the last one looked at is the likelier cause. -/
def likelier (s : Tokens) (line : Nat) (found : Fault) : Fault :=
  match s.cut, s.openLine with
  | some unclosed, some start => if start < line then unclosed else found
  | _, _ => found

/-- The cause why a text is no expression. Where nothing fits, a second reading looks for a likely
one. A bad token comes before all of them, wherever it stands. -/
def cause (s : Tokens) (line : Nat) (usual : Fault) : Fault :=
  if s.isBad then s.cut.getD usual
  else match (document true s).run.run line with
    | (.error (.fault f), line) => likelier s line f
    | (_, line) => likelier s line usual

def ofText (text : List Char) : Except Fault Expr :=
  let s := tokens text
  match (complete s).run.run 0 with
  | (.error (.fault f), line) => .error (if s.isBad then s.cut.getD f else likelier s line f)
  | (.error .mismatch, line) => .error (cause s line .malformed)
  | (.ok (e, t), line) =>
    if t.kind == .finish then .ok e
    else if t.kind == .indent then .error (cause { s with isBad := false } line .indented)
    else .error (cause s line .malformed)

end Expr

end Playground.Literal
