import VisualNovel.Document.Basic
import VisualNovel.Number.Decimal

/-!
# Document files: reading

The reader accepts the usual notation for documents and, beside it, the words `NaN`, `Infinity` and
`-Infinity` for numbers. A number with a fraction or an exponent is a binary64 number, any other an
integer, which may not have more than `digitLimit` digits. A text that is refused is refused at one
character (`Misread`), counted from the start, with its line and column.

Inside the reader a refusal carries the number of characters left at the offending place, so that no
position has to be handed through.
-/

namespace VisualNovel.Document

/-- Why a text is no document. -/
inductive Problem where
  | valueExpected
  | nameExpected
  | colonExpected
  | commaExpected
  | unterminatedText
  | controlCharacter
  | unknownEscape
  | brokenUnicodeEscape
  | extraData
  | byteOrderMark
  /-- An integer has too many digits. -/
  | tooManyDigits (count : Nat)
deriving DecidableEq, Repr

/-- A problem, and the number of characters from the offending one to the end. -/
structure Refusal where
  problem : Problem
  remaining : Nat
deriving DecidableEq, Repr

/-- What a reading step gives: a result and the characters after it. -/
abbrev Reading (α : Type) := Except Refusal (α × List Char)

def isBlank (c : Char) : Bool :=
  c = ' ' || c = '\t' || c = '\n' || c = '\r'

def skipBlanks (s : List Char) : List Char :=
  s.dropWhile isBlank

/-! ## Texts -/

/-- The value of a hexadecimal digit. -/
def hexDigit? (c : Char) : Option Nat :=
  if '0' ≤ c && c ≤ '9' then some (c.toNat - '0'.toNat)
  else if 'a' ≤ c && c ≤ 'f' then some (c.toNat - 'a'.toNat + 10)
  else if 'A' ≤ c && c ≤ 'F' then some (c.toNat - 'A'.toNat + 10)
  else none

/-- The value of four hexadecimal digits. -/
def hexUnit? (a b c d : Char) : Option Nat := do
  let a ← hexDigit? a
  let b ← hexDigit? b
  let c ← hexDigit? c
  let d ← hexDigit? d
  return ((a * 16 + b) * 16 + c) * 16 + d

/-- The character that a backslash and a letter stand for. -/
def escaped? (c : Char) : Option Char :=
  if c = '"' || c = '\\' || c = '/' then some c
  else if c = 'b' then some '\x08'
  else if c = 'f' then some '\x0c'
  else if c = 'n' then some '\n'
  else if c = 'r' then some '\r'
  else if c = 't' then some '\t'
  else none

/-- Puts a result in front of those of the rest. -/
def Reading.cons {α : Type} (a : α) : Reading (List α) → Reading (List α)
  | .ok (more, rest) => .ok (a :: more, rest)
  | .error refusal => .error refusal

/-- Reads the code points and escaped code units of a text up to its closing quote; `opening` is the
number of characters from the opening quote on. -/
def readUnits (opening : Nat) : List Char → Reading (List Nat)
  | [] => .error ⟨.unterminatedText, opening⟩
  | '"' :: rest => .ok ([], rest)
  | '\\' :: 'u' :: a :: b :: c :: d :: next :: rest =>
    match hexUnit? a b c d with
    | some unit => .cons unit (readUnits opening (next :: rest))
    | none => .error ⟨.brokenUnicodeEscape, rest.length + 6⟩
  | '\\' :: 'u' :: rest => .error ⟨.brokenUnicodeEscape, rest.length + 1⟩
  | '\\' :: c :: rest =>
    match escaped? c with
    | some e => .cons e.toNat (readUnits opening rest)
    | none => .error ⟨.unknownEscape, rest.length + 2⟩
  | ['\\'] => .error ⟨.unterminatedText, opening⟩
  | c :: rest =>
    if c < ' ' then .error ⟨.controlCharacter, rest.length + 1⟩
    else .cons c.toNat (readUnits opening rest)

/-- Joins a high and a low surrogate that follow each other into one character. -/
def joinUnits : List Nat → List CodePoint
  | high :: low :: rest =>
    if 0xd800 ≤ high ∧ high < 0xdc00 ∧ 0xdc00 ≤ low ∧ low < 0xe000 then
      .char (Char.ofNat (0x10000 + (high - 0xd800) * 0x400 + (low - 0xdc00))) :: joinUnits rest
    else .ofNat high :: joinUnits (low :: rest)
  | [unit] => [.ofNat unit]
  | [] => []

/-- Reads a text after its opening quote. -/
def readText (s : List Char) : Reading Text :=
  match readUnits (s.length + 1) s with
  | .ok (units, rest) => .ok (⟨joinUnits units⟩, rest)
  | .error refusal => .error refusal

/-! ## Numbers -/

def isDigit (c : Char) : Bool :=
  '0' ≤ c && c ≤ '9'

/-- The value of decimal digits. -/
def digitsValue (digits : List Char) : Nat :=
  digits.foldl (fun n c => n * 10 + (c.toNat - '0'.toNat)) 0

/-- The digits before the point: a single zero, or digits of which the first is not zero. -/
def readWhole? : List Char → Option (List Char × List Char)
  | '0' :: rest => some (['0'], rest)
  | c :: rest =>
    if isDigit c then some (c :: rest.takeWhile isDigit, rest.dropWhile isDigit) else none
  | [] => none

/-- The digits of a fraction, if a point and a digit follow. -/
def readFraction? : List Char → Option (List Char × List Char)
  | '.' :: c :: rest =>
    if isDigit c then some (c :: rest.takeWhile isDigit, rest.dropWhile isDigit) else none
  | _ => none

/-- The digits of an exponent behind its sign. -/
def readPower? (negative : Bool) (s : List Char) : Option (Int × List Char) :=
  let digits := s.takeWhile isDigit
  if digits.isEmpty then none
  else
    let power : Int := digitsValue digits
    some (if negative then -power else power, s.dropWhile isDigit)

/-- An exponent, if one follows. -/
def readExponent? : List Char → Option (Int × List Char)
  | c :: rest =>
    if c = 'e' || c = 'E' then
      match rest with
      | '-' :: digits => readPower? true digits
      | '+' :: digits => readPower? false digits
      | digits => readPower? false digits
    else none
  | [] => none

/-- The integer with the given digits. -/
def integer (negative : Bool) (digits : List Char) : Except Problem Document :=
  if digitLimit < digits.length then .error (.tooManyDigits digits.length)
  else
    let n : Int := digitsValue digits
    .ok (.int (if negative then -n else n))

/-- A number after its sign. -/
def readUnsigned? (negative : Bool) (s : List Char) :
    Option (Except Problem Document × List Char) := do
  let (whole, rest) ← readWhole? s
  match readFraction? rest with
  | some (fraction, rest) =>
    let digits := digitsValue (whole ++ fraction)
    let (power, rest) := (readExponent? rest).getD (0, rest)
    return (.ok (.float (Decimal.toFloat negative ⟨digits, power - fraction.length⟩)), rest)
  | none =>
    match readExponent? rest with
    | some (power, rest) =>
      return (.ok (.float (Decimal.toFloat negative ⟨digitsValue whole, power⟩)), rest)
    | none => return (integer negative whole, rest)

def readNumber? : List Char → Option (Except Problem Document × List Char)
  | '-' :: rest => readUnsigned? true rest
  | s => readUnsigned? false s

/-! ## Documents -/

/-- A word or a number. -/
def readScalar (s : List Char) : Reading Document :=
  match s with
  | 'n' :: 'u' :: 'l' :: 'l' :: rest => .ok (.null, rest)
  | 't' :: 'r' :: 'u' :: 'e' :: rest => .ok (.bool true, rest)
  | 'f' :: 'a' :: 'l' :: 's' :: 'e' :: rest => .ok (.bool false, rest)
  | 'N' :: 'a' :: 'N' :: rest => .ok (.float (0.0 / 0.0), rest)
  | 'I' :: 'n' :: 'f' :: 'i' :: 'n' :: 'i' :: 't' :: 'y' :: rest => .ok (.float (1.0 / 0.0), rest)
  | '-' :: 'I' :: 'n' :: 'f' :: 'i' :: 'n' :: 'i' :: 't' :: 'y' :: rest =>
    .ok (.float (-1.0 / 0.0), rest)
  | _ =>
    match readNumber? s with
    | some (.ok number, rest) => .ok (number, rest)
    | some (.error problem, _) => .error ⟨problem, s.length⟩
    | none => .error ⟨.valueExpected, s.length⟩

mutual

/-- Reads the document at the start of `s`. -/
def readValue : Nat → List Char → Reading Document
  | 0, s => .error ⟨.valueExpected, s.length⟩
  | fuel + 1, s =>
    match s with
    | '"' :: rest =>
      match readText rest with
      | .ok (content, rest) => .ok (.text content, rest)
      | .error refusal => .error refusal
    | '[' :: rest =>
      match skipBlanks rest with
      | ']' :: rest => .ok (.list [], rest)
      | inner =>
        match readItems fuel inner with
        | .ok (items, rest) => .ok (.list items, rest)
        | .error refusal => .error refusal
    | '\x7b' :: rest =>
      match skipBlanks rest with
      | '\x7d' :: rest => .ok (.table [], rest)
      | inner =>
        match readFields fuel inner with
        | .ok (fields, rest) => .ok (.table (Fields.ofList fields), rest)
        | .error refusal => .error refusal
    | _ => readScalar s

/-- Reads the items of a list from the first one to the closing bracket. -/
def readItems : Nat → List Char → Reading (List Document)
  | 0, s => .error ⟨.valueExpected, s.length⟩
  | fuel + 1, s =>
    match readValue fuel s with
    | .error refusal => .error refusal
    | .ok (item, rest) =>
      match skipBlanks rest with
      | ']' :: rest => .ok ([item], rest)
      | ',' :: rest => .cons item (readItems fuel (skipBlanks rest))
      | rest => .error ⟨.commaExpected, rest.length⟩

/-- Reads the fields of a table from the first one to the closing brace. -/
def readFields : Nat → List Char → Reading (List (Key × Document))
  | 0, s => .error ⟨.nameExpected, s.length⟩
  | fuel + 1, s =>
    match s with
    | '"' :: rest =>
      match readText rest with
      | .error refusal => .error refusal
      | .ok (name, rest) =>
        match skipBlanks rest with
        | ':' :: rest =>
          match readValue fuel (skipBlanks rest) with
          | .error refusal => .error refusal
          | .ok (value, rest) =>
            match skipBlanks rest with
            | '\x7d' :: rest => .ok ([(.text name, value)], rest)
            | ',' :: rest => .cons (.text name, value) (readFields fuel (skipBlanks rest))
            | rest => .error ⟨.commaExpected, rest.length⟩
        | rest => .error ⟨.colonExpected, rest.length⟩
    | _ => .error ⟨.nameExpected, s.length⟩

end

/-- Reads a whole text as one document. Every opening bracket takes two steps and every other step
a character, so the steps cannot run out. -/
def readWholeText (text : List Char) : Except Refusal Document :=
  match text with
  | '\ufeff' :: _ => .error ⟨.byteOrderMark, text.length⟩
  | _ =>
    match readValue (2 * text.length + 2) (skipBlanks text) with
    | .error refusal => .error refusal
    | .ok (document, rest) =>
      match skipBlanks rest with
      | [] => .ok document
      | rest => .error ⟨.extraData, rest.length⟩

/-! ## Positions -/

/-- A problem and its place in the text: the offset of the character, and its line and column counted
from one. -/
structure Misread where
  problem : Problem
  offset : Nat
  line : Nat
  column : Nat
deriving DecidableEq, Repr

/-- The place after the given characters. -/
def Misread.after (problem : Problem) (before : List Char) : Misread where
  problem := problem
  offset := before.length
  line := before.count '\n' + 1
  column := (before.reverse.takeWhile (· ≠ '\n')).length + 1

/-- Reads a text as a document. -/
def read (text : List Char) : Except Misread Document :=
  match readWholeText text with
  | .ok document => .ok document
  | .error ⟨problem, remaining⟩ =>
    .error (.after problem (text.take (text.length - remaining)))

/-- The wording of a problem. -/
def Problem.message : Problem → String
  | .valueExpected => "Expecting value"
  | .nameExpected => "Expecting property name enclosed in double quotes"
  | .colonExpected => "Expecting ':' delimiter"
  | .commaExpected => "Expecting ',' delimiter"
  | .unterminatedText => "Unterminated string starting at"
  | .controlCharacter => "Invalid control character at"
  | .unknownEscape => "Invalid \\escape"
  | .brokenUnicodeEscape => "Invalid \\uXXXX escape"
  | .extraData => "Extra data"
  | .byteOrderMark => "Unexpected UTF-8 BOM (decode using utf-8-sig)"
  | .tooManyDigits count =>
    "Exceeds the limit (" ++ intText digitLimit ++ " digits) for integer string conversion: value has "
      ++ intText count ++ " digits; use sys.set_int_max_str_digits() to increase the limit"

/-- The wording of a refused text, with its place unless an integer is to blame. -/
def Misread.message (m : Misread) : String :=
  match m.problem with
  | .tooManyDigits _ => m.problem.message
  | _ =>
    m.problem.message ++ ": line " ++ intText m.line ++ " column " ++ intText m.column ++
      " (char " ++ intText m.offset ++ ")"

end VisualNovel.Document
