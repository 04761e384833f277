import CycleLedger.Json.Quoted

/-! # Tokens

The bytes of a document are cut into tokens by a state that takes one byte at a time. Blanks between
tokens leave no trace. A word, numeral or text that is broken off carries its fault, since its kind
is known from its first byte. Nothing is cut behind a fault.
-/

namespace CycleLedger.Json

inductive Word where
  | null
  | true
  | false
deriving DecidableEq

/-- The bytes of a word behind its first one. -/
def Word.remaining : Word → List UInt8
  | null => [0x75, 0x6C, 0x6C]
  | true => [0x72, 0x75, 0x65]
  | false => [0x61, 0x6C, 0x73, 0x65]

inductive Token where
  | openBrace
  | closeBrace
  | openBracket
  | closeBracket
  | colon
  | comma
  | word (w : Word) (fault? : Option Fault)
  | number (n : Except Fault Numeral)
  | text (q : Quoted)
  /-- a byte that begins no token -/
  | stray

/-- What the bytes since the last token have begun. -/
inductive Lexer where
  | between
  | word (w : Word) (remaining : List UInt8)
  | number (s : Numeral.Scan)
  | quoted (s : Quoted.Scan)
  | stopped

namespace Lexer

/-- The state behind a byte that stands between tokens, and the token that it is. -/
def start (b : UInt8) : Lexer × Option Token :=
  match b with
  | Ascii.openBrace => (between, some .openBrace)
  | Ascii.closeBrace => (between, some .closeBrace)
  | Ascii.openBracket => (between, some .openBracket)
  | Ascii.closeBracket => (between, some .closeBracket)
  | Ascii.colon => (between, some .colon)
  | Ascii.comma => (between, some .comma)
  | Ascii.quote => (quoted (.plain []), none)
  | Ascii.lowerN => (word .null Word.null.remaining, none)
  | Ascii.lowerT => (word .true Word.true.remaining, none)
  | Ascii.lowerF => (word .false Word.false.remaining, none)
  | b =>
    if Ascii.isBlank b then (between, none)
    else match Numeral.Scan.start? b with
      | some s => (number s, none)
      | none => (stopped, some .stray)

/-- The state behind one more byte, and the tokens that the byte completes. -/
def step (l : Lexer) (b : UInt8) : Lexer × List Token :=
  match l with
  | between => ((start b).1, (start b).2.toList)
  | word w [c] =>
    if b == c then (between, [.word w none]) else (stopped, [.word w (some .malformed)])
  | word w (c :: remaining) =>
    if b == c then (word w remaining, []) else (stopped, [.word w (some .malformed)])
  | word w [] => (stopped, [.word w (some .malformed)])
  | number s => match s.step? b with
    | some s => (number s, [])
    | none => match s.finish? with
      | some n =>
        if s.spoils b then (stopped, [.number (.error .malformed)])
        else ((start b).1, .number (.ok n) :: (start b).2.toList)
      | none => (stopped, [.number (.error .malformed)])
  | quoted s => match s.step b with
    | .inl s => (quoted s, [])
    | .inr q => (if q.fault?.isNone then between else stopped, [.text q])
  | stopped => (stopped, [])

/-- The token that the end of the bytes completes or breaks off. -/
def finish : Lexer → List Token
  | between | stopped => []
  | word w _ => [.word w (some .truncated)]
  | number s => match s.finish? with
    | some n => [.number (.ok n)]
    | none => [.number (.error .truncated)]
  | quoted s => [.text (s.close (some .truncated))]

/-- The state behind all bytes, and the tokens completed before, the latest first. -/
def run (bytes : List UInt8) : Lexer × List Token :=
  bytes.foldl (fun (l, done) b => ((l.step b).1, (l.step b).2.reverse ++ done)) (between, [])

end Lexer

def tokens (bytes : List UInt8) : List Token :=
  let (l, done) := Lexer.run bytes
  done.reverse ++ l.finish

end CycleLedger.Json
