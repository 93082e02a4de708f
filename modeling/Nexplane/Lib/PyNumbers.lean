import Nexplane.Lib.Float64
import Nexplane.Lib.PyValue
import Nexplane.Lib.Text

set_option autoImplicit false

/-! Numbers as Python converts and compares them. A float is held as the text `repr(x)`. -/

namespace PyValue
open Text

/-- The parts of the text of a finite float; without an exponent the text has `e = none`. -/
structure FloatText where
  negative : Bool
  whole : List Char
  fraction : List Char
  e : Option (Bool × List Char)

def FloatText.read (text : List Char) : FloatText :=
  let (negative,cs) := splitSign text
  let (mantissa,exponent) := (splitFirst 'e' cs).getD (cs,[])
  let (whole,fraction) := (splitFirst '.' mantissa).getD (mantissa,[])
  ⟨negative,whole,fraction,if exponent = [] then none else some (splitSign exponent)⟩

namespace FloatText

variable (x : FloatText)

/-- The float without what follows its point. A float from 2^53 on is an integer, the one closest to
its digits. -/
def truncate : Int :=
  let n : Nat :=
    match x.e with
    | none => Nat.ofDigitChars 10 x.whole 0
    | some (true,_) => 0
    | some (false,e) => Float64.nearest
      (Nat.ofDigitChars 10 (x.whole ++ x.fraction) 0 *
        10 ^ (Nat.ofDigitChars 10 e 0 - x.fraction.length))
  if x.negative then -(n : Int) else n

def isInteger : Bool :=
  match x.e with
  | none => x.fraction.all (· = '0')
  | some (below,_) => !below

end FloatText

def floatName (text : List Char) : Option String :=
  let cs := (splitSign text).2
  if cs = ['i','n','f'] then some "infinity" else if cs = ['n','a','n'] then some "NaN" else none

/-- `int(v)`. -/
def toInt : Json → Except Exc Int
  | .bool b => .ok (if b then 1 else 0)
  | .int n => .ok n
  | .float text =>
    match floatName text.toList with
    | some "NaN" => .error (.valueError "cannot convert float NaN to integer")
    | some _ => .error (.other "cannot convert float infinity to integer")
    | none => .ok (FloatText.read text.toList).truncate
  | .str s =>
    match pyInt s.toList with
    | some n => .ok n
    | none => .error (.valueError ("invalid literal for int() with base 10: '" ++ s ++ "'"))
  | _ => .error .typeError

/-- A float that is an integer is that integer, any other is its text. -/
def floatNumber (text : String) : Int ⊕ String :=
  let x := FloatText.read text.toList
  if (floatName text.toList).isNone && x.isInteger then .inl x.truncate else .inr text

/-- What numbers are compared by. -/
def Json.number : Json → Option (Int ⊕ String)
  | .bool b => some (.inl (if b then 1 else 0))
  | .int n => some (.inl n)
  | .float text => some (floatNumber text)
  | _ => none

example : (Json.float "1e+22").number = (Json.int 10000000000000000000000).number := by decide

end PyValue
