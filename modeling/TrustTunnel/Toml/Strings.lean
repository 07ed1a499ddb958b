import Mathlib.Data.List.Basic

/-!
# Strings of TOML documents

A string of a TOML document as it is written: its style, and the pieces between the
delimiters, each with its text and its value. Newlines have the value of a line feed, however
they are written.
-/

namespace TrustTunnel.Toml

def tab : Char := Char.ofNat 0x09

def lineFeed : Char := Char.ofNat 0x0A

def carriageReturn : Char := Char.ofNat 0x0D

def quotationMark : Char := Char.ofNat 0x22

def apostrophe : Char := Char.ofNat 0x27

def backslash : Char := Char.ofNat 0x5C

/-- `wschar`. -/
def isBlank (char : Char) : Bool := char == ' ' || char == tab

/-- Characters that stand for themselves nowhere in a string. -/
def isControl (char : Char) : Bool := (char.toNat < 0x20 && char != tab) || char.toNat == 0x7F

def hexDigitValue (char : Char) : Option Nat :=
  if char.isDigit then some (char.toNat - 48)
  else if 'a' ≤ char ∧ char ≤ 'f' then some (char.toNat - 87)
  else if 'A' ≤ char ∧ char ≤ 'F' then some (char.toNat - 55)
  else none

def hexValue (digits : List Char) : Nat :=
  digits.foldl (fun value digit => 16 * value + (hexDigitValue digit).getD 0) 0

/-- The digits of an escaped Unicode scalar. -/
structure ScalarDigits (count : Nat) where
  digits : List Char
  length : digits.length = count
  hex : ∀ digit ∈ digits, (hexDigitValue digit).isSome = true
  scalar : (hexValue digits).isValidChar

def ScalarDigits.char {count : Nat} (self : ScalarDigits count) : Char :=
  Char.ofNat (hexValue self.digits)

inductive Escape where
  | backspace
  | tab
  | lineFeed
  | formFeed
  | carriageReturn
  | quotationMark
  | backslash
  | scalar (digits : ScalarDigits 4)
  | longScalar (digits : ScalarDigits 8)

/-- What follows the backslash. -/
def Escape.letters : Escape → List Char
  | backspace => ['b']
  | tab => ['t']
  | lineFeed => ['n']
  | formFeed => ['f']
  | carriageReturn => ['r']
  | quotationMark => [Toml.quotationMark]
  | backslash => [Toml.backslash]
  | scalar digits => 'u' :: digits.digits
  | longScalar digits => 'U' :: digits.digits

def Escape.char : Escape → Char
  | backspace => Char.ofNat 0x08
  | tab => Toml.tab
  | lineFeed => Toml.lineFeed
  | formFeed => Char.ofNat 0x0C
  | carriageReturn => Toml.carriageReturn
  | quotationMark => Toml.quotationMark
  | backslash => Toml.backslash
  | scalar digits => digits.char
  | longScalar digits => digits.char

/-- A part of a string. -/
inductive Piece where
  | plain (char : Char)
  | escaped (escape : Escape)
  /-- A line feed, or a carriage return and a line feed. -/
  | newline (carriage : Bool)
  /-- A backslash at the end of a line, with the blanks and newlines up to the next piece. -/
  | continuation (blanks : List Char)

def newlineText (carriage : Bool) : List Char :=
  if carriage then [carriageReturn, lineFeed] else [lineFeed]

namespace Piece

def text : Piece → List Char
  | plain char => [char]
  | escaped escape => backslash :: escape.letters
  | newline carriage => newlineText carriage
  | continuation blanks => backslash :: blanks

def value : Piece → List Char
  | plain char => [char]
  | escaped escape => [escape.char]
  | newline _ => [lineFeed]
  | continuation _ => []

/-- The piece stands for itself, up to the carriage return of a newline. -/
def isRaw : Piece → Bool
  | plain _ => true
  | newline _ => true
  | escaped _ => false
  | continuation _ => false

/-- A continuation would have taken the piece along. -/
def isSpace : Piece → Bool
  | plain char => isBlank char
  | newline _ => true
  | escaped _ => false
  | continuation _ => false

def isNewline : Piece → Bool
  | newline _ => true
  | _ => false

def isContinuation : Piece → Bool
  | continuation _ => true
  | _ => false

def isQuote (quote : Char) : Piece → Bool
  | plain char => char == quote
  | _ => false

end Piece

inductive Style where
  | basic
  | multiLineBasic
  | literal
  | multiLineLiteral
  deriving DecidableEq

namespace Style

def isBasic : Style → Bool
  | basic => true
  | multiLineBasic => true
  | literal => false
  | multiLineLiteral => false

def isMultiLine : Style → Bool
  | basic => false
  | multiLineBasic => true
  | literal => false
  | multiLineLiteral => true

def quote (style : Style) : Char := if style.isBasic then quotationMark else apostrophe

def delimiter (style : Style) : List Char :=
  List.replicate (if style.isMultiLine then 3 else 1) style.quote

def allows (style : Style) : Piece → Bool
  | .plain char =>
    !isControl char && (style.isMultiLine || char != style.quote) &&
      (!style.isBasic || char != backslash)
  | .escaped _ => style.isBasic
  | .newline _ => style.isMultiLine
  | .continuation blanks =>
    style.isBasic && style.isMultiLine && lineFeed ∈ blanks &&
      blanks.all fun char => isBlank char || char == carriageReturn || char == lineFeed

end Style

/-- Continuations reach up to the next piece that is no space, and three quotes in a row stand
nowhere. -/
def wellSeparated (quote : Char) : List Piece → Bool
  | [] => true
  | piece :: rest =>
    !(piece.isContinuation && rest.head?.any Piece.isSpace) &&
      !(2 ≤ rest.length && (piece :: rest.take 2).all (Piece.isQuote quote)) &&
      wellSeparated quote rest

/-- A string as it is written. -/
structure TomlString where
  style : Style
  /-- The newline behind the opening delimiter, which does not count. -/
  leading : Option Bool
  pieces : List Piece
  allowed : ∀ piece ∈ pieces, style.allows piece = true
  separated : wellSeparated style.quote pieces = true
  single : style.isMultiLine = false → leading = none
  counted : leading = none → pieces.head?.any Piece.isNewline = false

namespace TomlString

def text (self : TomlString) : List Char :=
  self.style.delimiter ++ (self.leading.elim [] newlineText ++
    (self.pieces.flatMap Piece.text ++ self.style.delimiter))

def value (self : TomlString) : List Char := self.pieces.flatMap Piece.value

end TomlString

/-- The string of a key, with everything between the equals sign and the end of the line. -/
structure WrittenString where
  before : List Char
  string : TomlString
  after : List Char
  comment : Option (List Char)
  blankBefore : ∀ char ∈ before, isBlank char = true
  blankAfter : ∀ char ∈ after, isBlank char = true

namespace WrittenString

def text (self : WrittenString) : List Char :=
  self.before ++ (self.string.text ++ (self.after ++ self.comment.elim [] ('#' :: ·)))

def value (self : WrittenString) : List Char := self.string.value

end WrittenString

end TrustTunnel.Toml
