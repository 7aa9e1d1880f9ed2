import ProgramDeploy.Number.Numeral
import ProgramDeploy.Number.Shortest
import ProgramDeploy.Text.Quoted
import ProgramDeploy.Value.Basic

namespace ProgramDeploy

namespace Value

def floatLayout : Layout := ⟨-4, 16, 2⟩

def boolLiteral (b : Bool) : String :=
  if b then "True" else "False"

end Value

def Key.literal : Key → Except Numeral.Fault String
  | null => .ok "None"
  | bool b => .ok (Value.boolLiteral b)
  | int n => Numeral.write n
  | float x => .ok (x.write Value.floatLayout)
  | text s => .ok (Text.quoted s)
  | torn t => .ok t.quoted
  | bytes bs => .ok (Text.quotedBytes bs)

namespace Value

mutual

def literal : Value → Except Numeral.Fault String
  | null => .ok "None"
  | bool b => .ok (boolLiteral b)
  | int n => Numeral.write n
  | float x => .ok (x.write floatLayout)
  | text s => .ok (Text.quoted s)
  | torn t => .ok t.quoted
  | bytes bs => .ok (Text.quotedBytes bs)
  | buffer bs => .ok (Text.quotedBuffer bs)
  | list items => do return "[" ++ ", ".intercalate (← itemLiterals items) ++ "]"
  | dict entries => do return "\x7b" ++ ", ".intercalate (← entryLiterals entries) ++ "\x7d"

def itemLiterals : List Value → Except Numeral.Fault (List String)
  | [] => .ok []
  | v :: vs => do
    let s ← literal v
    return s :: (← itemLiterals vs)

def entryLiterals : List (Key × Value) → Except Numeral.Fault (List String)
  | [] => .ok []
  | (k, v) :: t => do
    let s ← k.literal
    let s' ← literal v
    return (s ++ ": " ++ s') :: (← entryLiterals t)

end

def display : Value → Except Numeral.Fault String
  | text s => .ok s
  | torn t => .ok t.shown
  | v => v.literal

end Value

end ProgramDeploy
