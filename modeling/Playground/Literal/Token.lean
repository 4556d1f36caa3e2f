import Playground.Literal.Fault
import Playground.Text.Utf8
import Playground.Text.Word

namespace Playground.Literal

inductive TokenKind
  | name
  | number
  | text
  | mark
  | lineEnd
  | indent
  | finish
  deriving DecidableEq, Repr

/-- A part of an expression, with the number of brackets that are open at it and its line. -/
structure Token where
  kind : TokenKind
  chars : List Char
  depth : Nat
  line : Nat
  deriving DecidableEq, Repr

/-- The tokens of a text. Where they are cut off, the fault shows to those who read so far; `isBad`
tells that what follows is no token, and `openLine` is the line of a bracket without its other half. -/
structure Tokens where
  all : List Token
  cut : Option Fault := none
  isBad : Bool := false
  openLine : Option Nat := none
  deriving DecidableEq, Repr

/-- More tokens in front. -/
def Tokens.after (ts : List Token) (rest : Tokens) : Tokens := { rest with all := ts ++ rest.all }

abbrev Scanned := Except Fault

namespace Token

def isDigit (c : Char) : Bool := '0' ≤ c && c ≤ '9'

def isOctal (c : Char) : Bool := '0' ≤ c && c ≤ '7'

def isBinary (c : Char) : Bool := c == '0' || c == '1'

def isHex (c : Char) : Bool := isDigit c || ('a' ≤ c && c ≤ 'f') || ('A' ≤ c && c ≤ 'F')

/-- Whether a name can go on with a character. All beyond ASCII are tried. -/
def mayContinue (c : Char) : Bool := c.isAlphanum || c == '_' || 0x80 ≤ c.toNat

def headIs (p : Char → Bool) (s : List Char) : Bool := s.head?.any p

/-- Words that may follow a number at once. -/
def followers : List String := ["and", "else", "for", "or", "not"]

/-- Starts of words that may follow a number at once. -/
def followerStarts : List String := ["if", "in", "is"]

def endNumber (form : NumberForm) (s : List Char) : Scanned (List Char) :=
  if followers.contains (String.ofList (s.takeWhile mayContinue)) then .ok s
  else if followerStarts.contains (String.ofList (s.take 2)) then .ok s
  else if headIs (fun c => mayContinue c && c.toNat < 0x80) s then .error (.badNumber form)
  else .ok s

/-- Digits, with single low lines between them. -/
def decimalTail : Nat → List Char → Scanned (List Char)
  | 0, s => .ok s
  | fuel + 1, s =>
    match s.dropWhile isDigit with
    | '_' :: r => if headIs isDigit r then decimalTail fuel r else .error (.badNumber .decimal)
    | r => .ok r

/-- The digits after the mark of a base; a low line may stand before each run of them. -/
def basedTail (form : NumberForm) (isOwn : Char → Bool) : Nat → List Char → Scanned (List Char)
  | 0, s => .ok s
  | fuel + 1, s =>
    let s := if s.head? = some '_' then s.drop 1 else s
    match s with
    | d :: r =>
      if isOwn d then
        match r.dropWhile isOwn with
        | '_' :: t => basedTail form isOwn fuel ('_' :: t)
        | d :: t => if isDigit d then .error (.badDigit d form) else endNumber form (d :: t)
        | [] => .ok []
      else .error (if isDigit d then .badDigit d form else .badNumber form)
    | [] => .error (.badNumber form)

def imaginaryPart (s : List Char) : Scanned (List Char) :=
  match s with
  | c :: r => if c = 'j' ∨ c = 'J' then endNumber .imaginary r else endNumber .decimal (c :: r)
  | [] => .ok []

/-- An exponent, unless the letter starts a word that may follow. -/
def exponentPart (s : List Char) : Scanned (List Char) :=
  match s with
  | e :: r =>
    if e = 'e' ∨ e = 'E' then
      match r with
      | d :: t =>
        if isDigit d then do imaginaryPart (← decimalTail r.length (d :: t))
        else if d = '+' ∨ d = '-' then
          if headIs isDigit t then do imaginaryPart (← decimalTail r.length t)
          else .error (.badNumber .decimal)
        else endNumber .decimal (e :: r)
      | [] => endNumber .decimal (e :: r)
    else imaginaryPart (e :: r)
  | [] => .ok []

def fractionPart (s : List Char) : Scanned (List Char) := do
  exponentPart (← if headIs isDigit s then decimalTail s.length s else .ok s)

def afterWhole (s : List Char) : Scanned (List Char) :=
  match s with
  | '.' :: r => fractionPart r
  | s => exponentPart s

/-- Past zeros and the single low lines between them. -/
def pastZeros : List Char → Scanned (List Char)
  | '_' :: d :: r =>
    if d = '0' then pastZeros r
    else if isDigit d then .ok (d :: r)
    else .error (.badNumber .decimal)
  | ['_'] => .error (.badNumber .decimal)
  | '0' :: r => pastZeros r
  | s => .ok s

def startsExponent (s : List Char) : Bool :=
  headIs (fun c => c == '.' || c == 'e' || c == 'E' || c == 'j' || c == 'J') s

/-- A number with a zero in front, which is all of its whole part or none of its digits count. -/
def afterZero (s : List Char) : Scanned (List Char) := do
  let r ← pastZeros s
  if headIs isDigit r then
    let t ← decimalTail r.length r
    if startsExponent t then afterWhole t else throw .leadingZeros
  else afterWhole r

/-- What follows the number that starts here. -/
def pastNumber (s : List Char) : Scanned (List Char) :=
  match s with
  | '0' :: m :: r =>
    if m = 'x' ∨ m = 'X' then basedTail .hexadecimal isHex s.length r
    else if m = 'o' ∨ m = 'O' then basedTail .octal isOctal s.length r
    else if m = 'b' ∨ m = 'B' then basedTail .binary isBinary s.length r
    else afterZero (m :: r)
  | '0' :: r => afterZero r
  | s => do afterWhole (← decimalTail s.length s)

/-- How many lines were started, the first one included, when `rest` of a text is left. -/
def lineOf (whole rest : List Char) : Nat :=
  let read := whole.take (whole.length - rest.length)
  1 + (if rest.isEmpty then read.dropLast else read).count '\n'

/-- What follows the closing quote of a text, or nothing when there is none. -/
def pastQuote (mark : Char) (triple : Bool) : List Char → Option (List Char)
  | [] => none
  | '\\' :: _ :: r => pastQuote mark triple r
  | c :: r =>
    if c = mark then
      if !triple then some r
      else if [mark, mark].isPrefixOf r then some (r.drop 2)
      else pastQuote mark triple r
    else if c = '\n' ∧ !triple then none
    else pastQuote mark triple r

/-- Where a text without its closing quote breaks off. -/
def pastBroken (triple : Bool) : List Char → List Char
  | [] => []
  | '\\' :: _ :: r => pastBroken triple r
  | c :: r => if c = '\n' ∧ !triple then c :: r else pastBroken triple r

/-- What follows the text in quotes that starts here. -/
def pastText (whole : List Char) (s : List Char) : Scanned (List Char) :=
  match s with
  | mark :: r =>
    let triple := [mark, mark].isPrefixOf r
    let body := if triple then r.drop 2 else r
    match pastQuote mark triple body with
    | some rest => .ok rest
    | none => .error (.unterminated triple (lineOf whole (pastBroken triple body)))
  | [] => .ok []

def textMarks : List String := ["", "r", "u", "b", "f", "br", "rb", "fr", "rf"]

/-- How many letters stand before the quote of a text that starts here. -/
def textStart? (s : List Char) : Option Nat :=
  let letters := s.takeWhile fun c => c != '\'' && c != '"'
  if letters.length < s.length && textMarks.contains (String.ofList (letters.map Char.toLower)) then
    some letters.length
  else none

def pairMarks : List String :=
  ["!=", "%=", "&=", "**", "*=", "+=", "-=", "->", "//", "/=", ":=", "<<", "<=", "<>", "==", ">=",
    ">>", "@=", "^=", "|="]

def tripleMarks : List String := ["**=", "...", "//=", "<<=", ">>="]

def markWidth (s : List Char) : Nat :=
  if tripleMarks.contains (String.ofList (s.take 3)) then 3
  else if pairMarks.contains (String.ofList (s.take 2)) then 2
  else 1

/-- The first character of a name that no name can hold there. -/
def badNameChar? (name : List Char) : Option Char :=
  match name with
  | c :: r =>
    if !Text.isWordChar c || (Text.digitValue? c).isSome then some c
    else r.find? fun c => !Text.isWordChar c
  | [] => none

/-- The brackets that are open, the innermost first, each with its line. -/
abbrev Brackets := List (Char × Nat)

def maxDepth : Nat := 200

def closes (opening closing : Char) : Bool :=
  (opening == '(' && closing == ')') || (opening == '[' && closing == ']') ||
    (opening == '\x7b' && closing == '\x7d')

/-- The brackets after one more mark. -/
def bracketed (opened : Brackets) (line : Nat) (c : Char) : Scanned Brackets :=
  if c = '(' ∨ c = '[' ∨ c = '\x7b' then
    if maxDepth ≤ opened.length then .error .deepBrackets else .ok ((c, line) :: opened)
  else if c = ')' ∨ c = ']' ∨ c = '\x7d' then
    match opened with
    | [] => .error (.unmatched c)
    | (o, l) :: outer =>
      if closes o c then .ok outer
      else .error (.mismatched c o (if l = line then none else some l))
  else .ok opened

def isSpace (c : Char) : Bool := c == ' ' || c == '\t' || c == '\x0c'

/-- How far a line is indented. -/
def column : Nat → List Char → Nat
  | n, ' ' :: r => column (n + 1) r
  | n, '\t' :: r => column ((n / 8 + 1) * 8) r
  | _, '\x0c' :: r => column 0 r
  | n, _ => n

/-- The next line with something on it. -/
def pastBlankLines : Nat → List Char → List Char
  | 0, s => s
  | fuel + 1, s =>
    match s.dropWhile isSpace with
    | '\n' :: r => pastBlankLines fuel r
    | '#' :: r =>
      match r.dropWhile (· ≠ '\n') with
      | _ :: t => pastBlankLines fuel t
      | [] => []
    | [] => []
    | _ => s

/-- The token of an indented line. A backslash comes before it. -/
def indentOf (line : Nat) (s : List Char) : List Token :=
  if column 0 s = 0 ∨ s.isEmpty ∨ (s.dropWhile isSpace).head? = some '\\' then []
  else [⟨.indent, [], 0, line⟩]

def ending (opened : Brackets) : Tokens :=
  match opened with
  | [] => { all := [⟨.finish, [], 0, 0⟩] }
  | (c, line) :: _ => { all := [], cut := some (.neverClosed c), openLine := some line }

def broken (f : Fault) : Tokens := { all := [], cut := some f, isBad := true }

/-- The tokens from a place on; the brackets around it are given, the innermost first. -/
def scan (whole : List Char) : Nat → Brackets → List Char → Tokens
  | 0, opened, _ => ending opened
  | fuel + 1, opened, s =>
    let s := s.dropWhile isSpace
    let next (kind : TokenKind) (rest : Scanned (List Char)) : Tokens :=
      match rest with
      | .ok rest =>
        (scan whole fuel opened rest).after
          [⟨kind, s.take (s.length - rest.length), opened.length, lineOf whole rest⟩]
      | .error f => broken f
    match s with
    | [] => ending opened
    | '#' :: _ => scan whole fuel opened (s.dropWhile (· ≠ '\n'))
    | '\\' :: '\n' :: [] => { all := [], cut := some ((ending opened).cut.getD .earlyEnd) }
    | '\\' :: '\n' :: r => scan whole fuel opened r
    | '\\' :: _ => { all := [], cut := some .strayBackslash }
    | '\n' :: r =>
      if !opened.isEmpty then scan whole fuel opened r
      else
        let r := pastBlankLines (r.length + 1) r
        (scan whole fuel opened r).after
          (⟨.lineEnd, [], 0, lineOf whole s⟩ :: indentOf (lineOf whole r) r)
    | c :: r =>
      match textStart? s with
      | some letters => next .text (pastText whole (s.drop letters))
      | none =>
        if isDigit c || (c == '.' && headIs isDigit r) then
          next .number (if c == '.' then fractionPart r else pastNumber s)
        else if mayContinue c then
          next .name <| match badNameChar? (s.takeWhile mayContinue) with
            | some bad => .error (.unknownChar bad)
            | none => .ok (s.dropWhile mayContinue)
        else if !Text.isPrintable c then broken (.unknownChar c)
        else match bracketed opened (lineOf whole s) c with
          | .error f => broken f
          | .ok opened =>
            let width := markWidth s
            (scan whole fuel opened (s.drop width)).after
              [⟨.mark, s.take width, opened.length, lineOf whole s⟩]

end Token

/-- Splits a text into tokens. Line ends of other kinds count as line feeds. -/
def tokens (s : List Char) : Tokens :=
  if s.contains '\x00' then Token.broken .zeroInText
  else
    let s := Text.normalizeLineEnds s
    Token.scan s (s.length + 1) [] s

end Playground.Literal
