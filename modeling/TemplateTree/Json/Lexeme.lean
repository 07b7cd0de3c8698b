import TemplateTree.Json

namespace TemplateTree.Json

/-- A unit of JSON text. A string whose escapes hold half of a surrogate pair has no value. -/
inductive Lexeme where
  | leftBrace
  | rightBrace
  | leftBracket
  | rightBracket
  | colon
  | comma
  | null
  | bool (value : Bool)
  | num (numeral : Numeral)
  | str (value? : Option String)

namespace Lexeme

def isBlank (c : Char) : Bool := c = ' ' || c = '\t' || c = '\n' || c = '\r'

def isDigit (c : Char) : Bool := '0' ≤ c && c ≤ '9'

def digits (cs : List Char) : List Digit := cs.map Digit.ofChar

/-- The value of a hexadecimal digit. -/
def hexDigit? (c : Char) : Option Nat :=
  if isDigit c then some (c.toNat - '0'.toNat)
  else if 'a' ≤ c && c ≤ 'f' then some (c.toNat - 'a'.toNat + 10)
  else if 'A' ≤ c && c ≤ 'F' then some (c.toNat - 'A'.toNat + 10)
  else none

/-- The number that hexadecimal digits stand for. -/
def hex? (cs : List Char) : Option Nat :=
  cs.foldlM (fun n c => (hexDigit? c).map (16 * n + ·)) 0

/-- The character of a short escape. -/
def escaped? (c : Char) : Option Char :=
  if c = '"' || c = '\\' || c = '/' then some c
  else if c = 'b' then some '\x08'
  else if c = 'f' then some '\x0c'
  else if c = 'n' then some '\n'
  else if c = 'r' then some '\r'
  else if c = 't' then some '\t'
  else none

/-- The code points of a string up to its closing quote, and the text after it. An escape of four
    digits gives a UTF-16 unit. -/
def stringBody : List Char → Option (List Nat × List Char)
  | [] => none
  | '"' :: rest => some ([], rest)
  | '\\' :: 'u' :: a :: b :: c :: d :: rest => do
    let unit ← hex? [a, b, c, d]
    let (units, rest) ← stringBody rest
    return (unit :: units, rest)
  | '\\' :: c :: rest => do
    let c ← escaped? c
    let (units, rest) ← stringBody rest
    return (c.toNat :: units, rest)
  | c :: rest =>
    if c = '\\' || c.toNat < 0x20 then none
    else do
      let (units, rest) ← stringBody rest
      return (c.toNat :: units, rest)

/-- Joins surrogate pairs. Half of a pair stands for no character. -/
def joinSurrogates : List Nat → Option (List Char)
  | [] => some []
  | high :: low :: rest =>
    if 0xD800 ≤ high && high < 0xDC00 then
      if 0xDC00 ≤ low && low < 0xE000 then
        (joinSurrogates rest).map (Char.ofNat ((high - 0xD800) * 0x400 + (low - 0xDC00) + 0x10000) :: ·)
      else none
    else if 0xDC00 ≤ high && high < 0xE000 then none
    else (joinSurrogates (low :: rest)).map (Char.ofNat high :: ·)
  | [unit] => if 0xD800 ≤ unit && unit < 0xE000 then none else some [Char.ofNat unit]

/-- The sign, if there is one, and the text after it. -/
def splitSign (cs : List Char) : Bool × List Char :=
  match cs with
  | '-' :: rest => (true, rest)
  | _ => (false, cs)

/-- The digits before the point: a zero stands alone. -/
def whole? (cs : List Char) : Option (List Digit × List Char) :=
  match cs with
  | '0' :: rest => if rest.head?.any isDigit then none else some ([Digit.zero], rest)
  | _ =>
    let front := cs.takeWhile isDigit
    if front.isEmpty then none else some (digits front, cs.dropWhile isDigit)

/-- The digits after the point, none without one. -/
def fraction? (cs : List Char) : Option (List Digit × List Char) :=
  match cs with
  | '.' :: rest =>
    let front := rest.takeWhile isDigit
    if front.isEmpty then none else some (digits front, rest.dropWhile isDigit)
  | _ => some ([], cs)

/-- The exponent, if one is written. -/
def exponent? (cs : List Char) : Option (Option Int × List Char) :=
  match cs with
  | [] => some (none, [])
  | e :: rest =>
    if e = 'e' || e = 'E' then
      let (negative, rest) :=
        match rest with
        | '+' :: rest => (false, rest)
        | '-' :: rest => (true, rest)
        | _ => (false, rest)
      let front := rest.takeWhile isDigit
      if front.isEmpty then none
      else
        let magnitude : Int := (digits front).foldl (fun n digit => 10 * n + digit.val) 0
        some (some (if negative then -magnitude else magnitude), rest.dropWhile isDigit)
    else some (none, e :: rest)

/-- The numeral at the start of a text, and the text after it. -/
def numeral? (cs : List Char) : Option (Numeral × List Char) := do
  let (negative, rest) := splitSign cs
  let (whole, rest) ← whole? rest
  let (fraction, rest) ← fraction? rest
  let (exponent?, rest) ← exponent? rest
  return (⟨negative, whole, fraction, exponent?⟩, rest)

/-- The lexeme at the start of a text that begins with no blank, and the text after it. -/
def next? : List Char → Option (Lexeme × List Char)
  | '{' :: rest => some (.leftBrace, rest)
  | '}' :: rest => some (.rightBrace, rest)
  | '[' :: rest => some (.leftBracket, rest)
  | ']' :: rest => some (.rightBracket, rest)
  | ':' :: rest => some (.colon, rest)
  | ',' :: rest => some (.comma, rest)
  | 'n' :: 'u' :: 'l' :: 'l' :: rest => some (.null, rest)
  | 't' :: 'r' :: 'u' :: 'e' :: rest => some (.bool true, rest)
  | 'f' :: 'a' :: 'l' :: 's' :: 'e' :: rest => some (.bool false, rest)
  | '"' :: rest => do
    let (units, rest) ← stringBody rest
    return (.str ((joinSurrogates units).map String.ofList), rest)
  | cs => do
    let (numeral, rest) ← numeral? cs
    return (.num numeral, rest)

/-- Splits a text into at most `count` lexemes. -/
def scanUpTo : Nat → List Char → Option (List Lexeme)
  | count, cs =>
    match count, cs.dropWhile isBlank with
    | _, [] => some []
    | 0, _ => none
    | count + 1, cs => do
      let (lexeme, rest) ← next? cs
      return lexeme :: (← scanUpTo count rest)

/-- The lexemes of a text. A text has no more of them than characters. -/
def scan (text : String) : Option (List Lexeme) := scanUpTo text.length text.toList

end Lexeme

end TemplateTree.Json
