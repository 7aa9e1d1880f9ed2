import ProgramDeploy.Bytes
import ProgramDeploy.Number.Binary64
import ProgramDeploy.Text.Torn

/-!
The values that a configuration, a node's answer or a caller can hold. A dictionary keeps its
entries in the order in which their keys first came, and finds a key by sameness of number: `true`,
`1` and `1.0` are one key.
-/

namespace ProgramDeploy

inductive Key where
  | null
  | bool (b : Bool)
  | int (n : Int)
  | float (x : Binary64)
  | text (s : String)
  | torn (t : Text.Torn)
  | bytes (bs : Bytes)
  deriving DecidableEq

inductive Value where
  | null
  | bool (b : Bool)
  | int (n : Int)
  | float (x : Binary64)
  | text (s : String)
  | torn (t : Text.Torn)
  | bytes (bs : Bytes)
  | buffer (bs : Bytes)
  | list (items : List Value)
  | dict (entries : List (Key × Value))

abbrev Table := List (Key × Value)

instance : Inhabited Value := ⟨.null⟩

instance : Coe String Key := ⟨.text⟩

namespace Key

def toValue : Key → Value
  | null => .null
  | bool b => .bool b
  | int n => .int n
  | float x => .float x
  | text s => .text s
  | torn t => .torn t
  | bytes bs => .bytes bs

def number? : Key → Option (Int ⊕ Binary64)
  | bool b => some (.inl (if b then 1 else 0))
  | int n => some (.inl n)
  | float x => some (.inr x)
  | _ => none

def same (j k : Key) : Bool :=
  match j.number?, k.number? with
  | some (.inl m), some (.inl n) => m = n
  | some (.inl m), some (.inr y) => y.compareInt m = some .eq
  | some (.inr x), some (.inl n) => x.compareInt n = some .eq
  | some (.inr x), some (.inr y) => x.equal y || (x = .nan && y = .nan)
  | none, none => j = k
  | _, _ => false

def ofPoints (ps : List Text.Point) : Key :=
  if h : ps.any Text.Point.isHalf = true then .torn ⟨ps, h⟩
  else .text (.ofList (ps.map Text.Point.toChar))

end Key

namespace Table

def get? (t : Table) (k : Key) : Option Value :=
  (t.find? fun entry => entry.1.same k).map (·.2)

def set : Table → Key → Value → Table
  | [], k, v => [(k, v)]
  | (j, w) :: t, k, v => if j.same k then (j, v) :: t else (j, w) :: set t k v

/-- Puts in an entry whose key comes from elsewhere. A NaN from elsewhere is the key of no entry. -/
def insert (t : Table) (k : Key) (v : Value) : Table :=
  if k = .float .nan then t ++ [(k, v)] else t.set k v

def find? (t : Table) (k : Key) : Option Value :=
  if k = .float .nan then none else t.get? k

def erase : Table → Key → Table
  | [], _ => []
  | (j, w) :: t, k => if j.same k then t else (j, w) :: erase t k

def merge (t u : Table) : Table :=
  u.foldl (fun t entry => t.set entry.1 entry.2) t

def ofList (entries : Table) : Table :=
  merge [] entries

end Table

namespace Value

def toKey? : Value → Option Key
  | null => some .null
  | bool b => some (.bool b)
  | int n => some (.int n)
  | float x => some (.float x)
  | text s => some (.text s)
  | torn t => some (.torn t)
  | bytes bs => some (.bytes bs)
  | buffer _ | list _ | dict _ => none

def ofPoints (ps : List Text.Point) : Value :=
  (Key.ofPoints ps).toValue

def typeName : Value → String
  | null => "NoneType"
  | bool _ => "bool"
  | int _ => "int"
  | float _ => "float"
  | text _ | torn _ => "str"
  | bytes _ => "bytes"
  | buffer _ => "bytearray"
  | list _ => "list"
  | dict _ => "dict"

def isTruthy : Value → Bool
  | null => false
  | bool b => b
  | int n => n ≠ 0
  | float x => !x.isZero
  | text s => !s.isEmpty
  | torn _ => true
  | bytes bs | buffer bs => !bs.isEmpty
  | list xs => !xs.isEmpty
  | dict t => !t.isEmpty

def fitsWord (n : Int) : Bool :=
  -0x8000000000000000 ≤ n && n < 0x8000000000000000

def toInt? : Value → Option Int
  | bool b => some (if b then 1 else 0)
  | int n => some n
  | _ => none

end Value

end ProgramDeploy
