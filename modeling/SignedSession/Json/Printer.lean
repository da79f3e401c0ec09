import SignedSession.Decimal.Shortest
import SignedSession.Json.Value
import SignedSession.Text.Basic

/-!
Writing a JSON value as compact text: no space between lexemes, and in strings only the quote,
the backslash and control characters below the space escaped.
-/
namespace SignedSession.Json

/-- How a double is laid out: decimal point positions in plain digits, and otherwise a digit, a
point, the other digits and a power of ten with its sign. -/
structure FloatLayout where
  leastPlain : Int
  mostPlain : Int

/-- Doubles from a hundred-thousandth up to ten to the sixteenth are written in plain digits. -/
def floatLayout : FloatLayout := ⟨-5, 15⟩

/-- Drops the zeros at the end. -/
def dropZeros (ds : List Char) : List Char := (ds.reverse.dropWhile (· = '0')).reverse

/-- Digits d₁d₂… that stand for d₁.d₂… times a power of ten. -/
def FloatLayout.chars (l : FloatLayout) (ds : List Char) (power : Int) : List Char :=
  let zeros n := List.replicate n '0'
  if l.leastPlain ≤ power ∧ power ≤ l.mostPlain then
    if power < 0 then ['0', '.'] ++ zeros (power.natAbs - 1) ++ ds
    else
      let whole := power.toNat + 1
      let tail := ds.drop whole
      ds.take whole ++ zeros (whole - ds.length) ++ ['.'] ++ if tail = [] then ['0'] else tail
  else
    let tail := ds.drop 1
    ds.take 1 ++ (if tail = [] then [] else '.' :: tail) ++
      ['e', if power < 0 then '-' else '+'] ++ Nat.toDigits 10 power.natAbs

/-- A finite double in the fewest digits that read back, always with a point or an exponent. -/
def floatChars (x : Float) : List Char :=
  let bits := x.toBits
  let sign := if bits.toNat >>> 63 = 1 then ['-'] else []
  let size := bits.toNat % (1 <<< 63)
  if size = 0 then sign ++ ['0', '.', '0']
  else
    let d := Decimal.shortest bits
    let ds := Nat.toDigits 10 d.digits
    sign ++ floatLayout.chars (dropZeros ds) (d.exponent + ds.length - 1)

def Number.chars : Number → List Char
  | .int n => intChars n.val
  | .float x => floatChars x

def escapedChar (c : Char) : List Char :=
  if c = '"' then ['\\', '"']
  else if c = '\\' then ['\\', '\\']
  else if c = '\x08' then ['\\', 'b']
  else if c = '\x0c' then ['\\', 'f']
  else if c = '\n' then ['\\', 'n']
  else if c = '\r' then ['\\', 'r']
  else if c = '\t' then ['\\', 't']
  else if c < ' ' then ['\\', 'u'] ++ Text.Hex.digits 4 c.toNat
  else [c]

def stringChars (s : String) : List Char := '"' :: s.toList.flatMap escapedChar ++ ['"']

namespace Value

mutual

def chars : Value → List Char
  | null => ['n', 'u', 'l', 'l']
  | bool true => ['t', 'r', 'u', 'e']
  | bool false => ['f', 'a', 'l', 's', 'e']
  | num n => n.chars
  | str s => stringChars s
  | arr [] => ['[', ']']
  | arr (v :: vs) => '[' :: chars v ++ itemsChars vs ++ [']']
  | obj [] => ['{', '}']
  | obj ((k, v) :: ms) => '{' :: stringChars k ++ ':' :: chars v ++ membersChars ms ++ ['}']

/-- The items after the first, each behind a comma. -/
def itemsChars : List Value → List Char
  | [] => []
  | v :: vs => ',' :: chars v ++ itemsChars vs

/-- The members after the first, each behind a comma. -/
def membersChars : List (String × Value) → List Char
  | [] => []
  | (k, v) :: ms => ',' :: stringChars k ++ ':' :: chars v ++ membersChars ms

end

def render (v : Value) : String := String.ofList v.chars

@[simp] theorem toList_render (v : Value) : v.render.toList = v.chars := by simp [render]

end Value

end SignedSession.Json
