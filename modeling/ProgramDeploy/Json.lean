import ProgramDeploy.Hex
import ProgramDeploy.Number.Literal
import ProgramDeploy.Value.Basic

/-!
JSON documents, read to values. Besides the grammar's own literals, NaN and the two infinities are
read. A fault names what was expected and where: by index, and by line and column. The containers
that are open at once and the work within which a document is read share a limit: a document is not
read further than the opening bracket that is one too many.
-/

namespace ProgramDeploy.Json

inductive Problem where
  | byteOrderMark
  | expectedValue
  | expectedName
  | expectedColon
  | expectedComma
  | extraData
  | unterminatedText
  | controlCharacter
  | badEscape
  | badCodeEscape
  deriving DecidableEq

inductive Container where
  | array
  | object
  deriving DecidableEq

inductive Fault where
  | malformed (problem : Problem) (position line column : Nat)
  | numeral (fault : Numeral.Fault)
  | tooDeep (container : Container)
  deriving DecidableEq

inductive Stop where
  | malformed (problem : Problem) (position : Nat)
  | numeral (fault : Numeral.Fault)
  | tooDeep (container : Container)

structure Cursor where
  position : Nat
  rest : List Char

def isBlank (c : Char) : Bool :=
  c == ' ' || c == '\t' || c == '\n' || c == '\r'

def Cursor.advance (c : Cursor) (n : Nat) : Cursor :=
  ⟨c.position + n, c.rest.drop n⟩

def Cursor.skip (c : Cursor) : Cursor :=
  c.advance (c.rest.takeWhile isBlank).length

def Cursor.stop {α : Type} (c : Cursor) (problem : Problem) : Except Stop α :=
  .error (.malformed problem c.position)

def codeUnit? (a b c d : Char) : Option Nat := do
  let ds ← [a, b, c, d].mapM Hex.value?
  return ds.foldl (fun n d => 16 * n + d) 0

def escape? : Char → Option Char
  | '"' => some '"'
  | '\\' => some '\\'
  | '/' => some '/'
  | 'b' => some '\x08'
  | 'f' => some '\x0c'
  | 'n' => some '\n'
  | 'r' => some '\r'
  | 't' => some '\t'
  | _ => none

def isHigh (n : Nat) : Bool :=
  0xd800 ≤ n && n < 0xdc00

def isLow (n : Nat) : Bool :=
  0xdc00 ≤ n && n < 0xe000

def pairPoint (high low : Nat) : Text.Point :=
  .ofCode (0x10000 + (high - 0xd800) * 0x400 + (low - 0xdc00))

def prepend (p : Text.Point) : List Text.Point × Cursor → List Text.Point × Cursor
  | (ps, cursor) => (p :: ps, cursor)

/-- Reads a text up to its closing quote. The opening quote stands at `start`. A code escape needs
four digits and a character behind them; a half whose partner does not follow stands alone. -/
def readText (start position : Nat) : List Char → Except Stop (List Text.Point × Cursor)
  | [] => .error (.malformed .unterminatedText start)
  | '"' :: rest => .ok ([], ⟨position + 1, rest⟩)
  | ['\\'] => .error (.malformed .unterminatedText start)
  | '\\' :: 'u' :: a :: b :: c :: d :: e :: rest =>
    match codeUnit? a b c d with
    | none => .error (.malformed .badCodeEscape (position + 1))
    | some n =>
      if isHigh n then
        match e, rest with
        | '\\', 'u' :: a' :: b' :: c' :: d' :: e' :: rest' =>
          match codeUnit? a' b' c' d' with
          | none => .error (.malformed .badCodeEscape (position + 7))
          | some m =>
            if isLow m then
              (readText start (position + 12) (e' :: rest')).map (prepend (pairPoint n m))
            else
              (readText start (position + 6)
                ('\\' :: 'u' :: a' :: b' :: c' :: d' :: e' :: rest')).map (prepend (.ofCode n))
        | e, rest => (readText start (position + 6) (e :: rest)).map (prepend (.ofCode n))
      else (readText start (position + 6) (e :: rest)).map (prepend (.ofCode n))
  | '\\' :: 'u' :: _ => .error (.malformed .badCodeEscape (position + 1))
  | '\\' :: c :: rest =>
    match escape? c with
    | none => .error (.malformed .badEscape position)
    | some d => (readText start (position + 2) rest).map (prepend (.char d))
  | c :: rest =>
    if c < ' ' then .error (.malformed .controlCharacter position)
    else (readText start (position + 1) rest).map (prepend (.char c))
  termination_by cs => cs.length
  decreasing_by all_goals (simp only [List.length_cons]; omega)

def wordLiterals : List (List Char × Value) :=
  [("null".toList, .null), ("true".toList, .bool true), ("false".toList, .bool false),
   ("NaN".toList, .float .nan), ("Infinity".toList, .float (.infinity false)),
   ("-Infinity".toList, .float (.infinity true))]

def readScalar (c : Cursor) : Except Stop (Value × Cursor) :=
  match wordLiterals.find? fun w => w.1.isPrefixOf c.rest with
  | some (w, v) => .ok (v, c.advance w.length)
  | none =>
    match Literal.read? c.rest with
    | none => c.stop .expectedValue
    | some (l, rest) =>
      let behind := c.advance (c.rest.length - rest.length)
      if l.isWhole then
        match l.toInt with
        | .ok n => .ok (.int n, behind)
        | .error f => .error (.numeral f)
      else .ok (.float l.toBinary64, behind)

mutual

/-- Reads a value, in which so many containers may be open at once. Each step takes fuel; twice the
length of the document is enough, since every second step takes a character. -/
def readValue : Nat → Nat → Cursor → Except Stop (Value × Cursor)
  | 0, _, c => c.stop .expectedValue
  | fuel + 1, depth, c =>
    match c.rest, depth with
    | '"' :: rest, _ =>
      (readText c.position (c.position + 1) rest).map fun (s, c) => (.ofPoints s, c)
    | '[' :: _, 0 => .error (.tooDeep .array)
    | '[' :: _, depth + 1 =>
      let c := (c.advance 1).skip
      match c.rest with
      | ']' :: _ => .ok (.list [], c.advance 1)
      | _ => (readItems fuel depth c).map fun (vs, c) => (.list vs, c)
    | '\x7b' :: _, 0 => .error (.tooDeep .object)
    | '\x7b' :: _, depth + 1 =>
      let c := (c.advance 1).skip
      match c.rest with
      | '\x7d' :: _ => .ok (.dict [], c.advance 1)
      | _ => (readMembers fuel depth c).map fun (t, c) => (.dict (Table.ofList t), c)
    | _, _ => readScalar c

def readItems : Nat → Nat → Cursor → Except Stop (List Value × Cursor)
  | 0, _, c => c.stop .expectedValue
  | fuel + 1, depth, c => do
    let (v, c) ← readValue fuel depth c
    let c := c.skip
    match c.rest with
    | ']' :: _ => return ([v], c.advance 1)
    | ',' :: _ =>
      let (vs, c) ← readItems fuel depth (c.advance 1).skip
      return (v :: vs, c)
    | _ => c.stop .expectedComma

def readMembers : Nat → Nat → Cursor → Except Stop (Table × Cursor)
  | 0, _, c => c.stop .expectedName
  | fuel + 1, depth, c => do
    match c.rest with
    | '"' :: rest =>
      let (name, c) ← readText c.position (c.position + 1) rest
      let c := c.skip
      match c.rest with
      | ':' :: _ =>
        let (v, c) ← readValue fuel depth (c.advance 1).skip
        let c := c.skip
        let entry : Key × Value := (.ofPoints name, v)
        match c.rest with
        | '\x7d' :: _ => return ([entry], c.advance 1)
        | ',' :: _ =>
          let (t, c) ← readMembers fuel depth (c.advance 1).skip
          return (entry :: t, c)
        | _ => c.stop .expectedComma
      | _ => c.stop .expectedColon
    | _ => c.stop .expectedName

end

def levelLimit : Nat := 987

def readDocument (outer : Nat) (text : List Char) : Except Stop Value := do
  let start : Cursor := ⟨0, text⟩
  if text.head? = some '\ufeff' then start.stop .byteOrderMark
  let (v, c) ← readValue (2 * text.length + 2) (levelLimit - outer) start.skip
  let c := c.skip
  if c.rest.isEmpty then return v else c.stop .extraData

def lineAt (text : List Char) (position : Nat) : Nat :=
  (text.take position).count '\n' + 1

def columnAt (text : List Char) (position : Nat) : Nat :=
  ((text.take position).reverse.takeWhile (· != '\n')).length + 1

def read (outer : Nat) (text : List Char) : Except Fault Value :=
  match readDocument outer text with
  | .ok v => .ok v
  | .error (.numeral f) => .error (.numeral f)
  | .error (.tooDeep container) => .error (.tooDeep container)
  | .error (.malformed problem p) =>
    .error (.malformed problem p (lineAt text p) (columnAt text p))

def Container.name : Container → String
  | array => "array"
  | object => "object"

def Problem.message : Problem → String
  | byteOrderMark => "Unexpected UTF-8 BOM (decode using utf-8-sig)"
  | expectedValue => "Expecting value"
  | expectedName => "Expecting property name enclosed in double quotes"
  | expectedColon => "Expecting ':' delimiter"
  | expectedComma => "Expecting ',' delimiter"
  | extraData => "Extra data"
  | unterminatedText => "Unterminated string starting at"
  | controlCharacter => "Invalid control character at"
  | badEscape => "Invalid \\escape"
  | badCodeEscape => "Invalid \\uXXXX escape"

end ProgramDeploy.Json
