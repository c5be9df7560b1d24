import SelfDriving.Foundations.Python

/-! Python's string methods as far as command words need them, and values that
came in as JSON. A text is compared with words of ASCII capitals only, so the
upper case of a character matters where it consists of such letters. -/
namespace SelfDriving.Python
open Ieee754

/-- `str.isspace` of one character. -/
def isSpace (c : Char) : Bool :=
  let n := c.toNat
  (9 ≤ n && n ≤ 13) || (28 ≤ n && n ≤ 32) || n = 0x85 || n = 0xA0 || n = 0x1680 || (0x2000 ≤ n && n ≤ 0x200A) ||
    n = 0x2028 || n = 0x2029 || n = 0x202F || n = 0x205F || n = 0x3000

def strip (text : List Char) : List Char :=
  ((text.dropWhile isSpace).reverse.dropWhile isSpace).reverse

/-- The upper case of one character, where it is made of ASCII letters; any other
character stays and makes no command word. -/
def upperChar (c : Char) : List Char :=
  if 'a' ≤ c && c ≤ 'z' then [Char.ofNat (c.toNat - 32)]
  else
    match c.toNat with
    | 0x00DF => ['S', 'S']
    | 0x0131 => ['I']
    | 0x017F => ['S']
    | 0xFB00 => ['F', 'F']
    | 0xFB01 => ['F', 'I']
    | 0xFB02 => ['F', 'L']
    | 0xFB03 => ['F', 'F', 'I']
    | 0xFB04 => ['F', 'F', 'L']
    | 0xFB05 => ['S', 'T']
    | 0xFB06 => ['S', 'T']
    | _ => [c]

def upper (text : List Char) : List Char := text.flatMap upperChar

/-- `value.strip().upper()`, to be compared with command words. -/
def word (value : String) : String := String.ofList (upper (strip value.toList))

example : word " forWard\n" = "FORWARD" := by decide

/-! ### Numbers in text -/

/-- The zeros of the scripts that have decimal digits; nine digits follow each. -/
def digitZeros : List Nat :=
  [0x30, 0x660, 0x6F0, 0x7C0, 0x966, 0x9E6, 0xA66, 0xAE6, 0xB66, 0xBE6, 0xC66, 0xCE6, 0xD66, 0xDE6, 0xE50, 0xED0,
    0xF20, 0x1040, 0x1090, 0x17E0, 0x1810, 0x1946, 0x19D0, 0x1A80, 0x1A90, 0x1B50, 0x1BB0, 0x1C40, 0x1C50, 0xA620,
    0xA8D0, 0xA900, 0xA9D0, 0xA9F0, 0xAA50, 0xABF0, 0xFF10, 0x104A0, 0x10D30, 0x11066, 0x110F0, 0x11136, 0x111D0,
    0x112F0, 0x11450, 0x114D0, 0x11650, 0x116C0, 0x11730, 0x118E0, 0x11950, 0x11C50, 0x11D50, 0x11DA0, 0x16A60,
    0x16AC0, 0x16B50, 0x1D7CE, 0x1D7D8, 0x1D7E2, 0x1D7EC, 0x1D7F6, 0x1E140, 0x1E2F0, 0x1E950, 0x1FBF0]

def digitValue (c : Char) : Option Nat :=
  digitZeros.findSome? fun first => if first ≤ c.toNat ∧ c.toNat < first + 10 then some (c.toNat - first) else none

def isDigit (c : Char) : Bool := (digitValue c).isSome

def decimalValue (digits : List Char) : Nat :=
  digits.foldl (fun value c => 10 * value + (digitValue c).getD 0) 0

/-- Underscores stand between two digits only. -/
def underscoresFit (digitBefore : Bool) : List Char → Bool
  | [] => true
  | c :: rest =>
    if c = '_' then digitBefore && (rest.head?.any isDigit) && underscoresFit false rest
    else underscoresFit (isDigit c) rest

def splitSign : List Char → Bool × List Char
  | '-' :: rest => (true, rest)
  | '+' :: rest => (false, rest)
  | chars => (false, chars)

def exponentOf : List Char → Option Int
  | [] => some 0
  | c :: rest =>
    let (negative, digits) := splitSign rest
    if (c = 'e' || c = 'E') && digits ≠ [] && digits.all isDigit then
      some (if negative then -decimalValue digits else decimalValue digits)
    else none

/-- `float(text)`; nothing where it raises a value error. -/
def floatOfText (text : String) : Option F64 :=
  let chars := strip text.toList
  if !underscoresFit false chars then none
  else
    let (negative, chars) := splitSign (chars.filter fun c => c ≠ '_')
    let name := String.ofList (chars.map Char.toUpper)
    if name = "INF" || name = "INFINITY" then some (Ieee.ofMag negative binary64.infMag)
    else if name = "NAN" then some (Ieee.ofPayload negative 0)
    else
      let whole := chars.takeWhile isDigit
      let rest := chars.dropWhile isDigit
      let fraction := if rest.head? = some '.' then rest.tail.takeWhile isDigit else []
      let rest := if rest.head? = some '.' then rest.tail.dropWhile isDigit else rest
      if whole = [] && fraction = [] then none
      else
        (exponentOf rest).map fun exponent =>
          Ieee.ofRat negative (decimalValue (whole ++ fraction) * (10 : ℚ) ^ (exponent - (fraction.length : Int)))

/-! ### Values that came in as JSON -/

inductive Json where
  | null
  | bool (value : Bool)
  | int (value : Int)
  | float (value : F64)
  | str (value : String)
  | list (items : List Json)
  | object (fields : List (String × Json))

namespace Json

def typeName : Json → String
  | null => "NoneType"
  | bool _ => "bool"
  | int _ => "int"
  | float _ => "float"
  | str _ => "str"
  | list _ => "list"
  | object _ => "dict"

def isNone : Json → Bool
  | null => true
  | _ => false

/-- `bool(value)`. -/
def truthy : Json → Bool
  | null => false
  | bool value => value
  | int value => value ≠ 0
  | float value => !(value == (0.0 : F64))
  | str value => value ≠ ""
  | list items => !items.isEmpty
  | object fields => !fields.isEmpty

/-- `fields.get(key)`: the last value given to a key counts. -/
def get (fields : List (String × Json)) (key : String) : Json :=
  match fields.reverse.find? fun entry => entry.1 = key with
  | none => null
  | some entry => entry.2

/-- `float(value)`. -/
def toFloat : Json → Except PyError F64
  | bool value => .ok (if value then 1.0 else 0.0)
  | int value =>
    if (Ieee.ofInt value : F64).isInf then .error (.overflowError "int too large to convert to float")
    else .ok (Ieee.ofInt value)
  | float value => .ok value
  | str value =>
    match floatOfText value with
    | none => .error (.valueError "could not convert string to float")
    | some x => .ok x
  | value => .error (.typeError ("float() argument must be a string or a real number, not '" ++ value.typeName ++ "'"))

end Json

end SelfDriving.Python
