/-!
What a plain scalar stands for: nothing, a truth value, a number, or else text. The rules are those
of the core schema of YAML 1.2; numbers may also be written in base 2, 8 and 16.
-/
namespace SerialLink.Yaml

/-- The number that digits of the given base write; there must be one at least. -/
def digits? (base : Nat) (digits : List Char) : Option Nat :=
  if digits.isEmpty then none
  else
    digits.foldl
      (fun sum c => do
        let sum ← sum
        let digit ← digit? c
        if digit < base then some (sum * base + digit) else none)
      (some 0)
where
  digit? (c : Char) : Option Nat :=
    if '0' ≤ c ∧ c ≤ '9' then some (c.toNat - '0'.toNat)
    else if 'a' ≤ c ∧ c ≤ 'f' then some (c.toNat - 'a'.toNat + 10)
    else if 'A' ≤ c ∧ c ≤ 'F' then some (c.toNat - 'A'.toNat + 10)
    else none

/-- Drops one sign. -/
def unsigned (text : List Char) : List Char :=
  match text with
  | '+' :: rest => rest
  | '-' :: rest => rest
  | _ => text

/-- Digits behind a leading zero are text, not a number. -/
def isZeroPadded (text : List Char) : Bool :=
  match unsigned text with
  | '0' :: c :: rest => (c :: rest).all Char.isDigit
  | _ => false

/-- A number without sign, in any base. -/
def magnitude? : List Char → Option Nat
  | '0' :: 'x' :: digits => digits? 16 digits
  | '0' :: 'o' :: digits => digits? 8 digits
  | '0' :: 'b' :: digits => digits? 2 digits
  | text => if isZeroPadded text then none else digits? 10 text

/-- The natural number that a plain scalar stands for. A plus sign is allowed. -/
def nat? (text : String) : Option Nat :=
  match text.toList with
  | '+' :: digits => magnitude? digits
  | digits => magnitude? digits

/-- The truth value that a plain scalar stands for. -/
def bool? (text : String) : Option Bool :=
  if ["true", "True", "TRUE"].contains text then some true
  else if ["false", "False", "FALSE"].contains text then some false
  else none

/-- The plain scalar stands for nothing. -/
def isNull (text : String) : Bool := ["", "~", "null", "Null", "NULL"].contains text

/-- An integer that takes at most 128 bits. -/
def isInteger (text : List Char) : Bool :=
  match text with
  | '-' :: digits => (magnitude? digits).any (· ≤ 1 <<< 127)
  | '+' :: digits => (magnitude? digits).any (· < 1 <<< 128)
  | digits => (magnitude? digits).any (· < 1 <<< 128)

/-- A number in decimal notation: digits with at most one point, and an optional exponent. It must
lie within the range of double precision. -/
def isDecimalFraction (text : List Char) : Bool :=
  let digits := unsigned text
  let whole := digits.takeWhile Char.isDigit
  let rest := digits.dropWhile Char.isDigit
  let (part, rest) :=
    match rest with
    | '.' :: rest => (rest.takeWhile Char.isDigit, rest.dropWhile Char.isDigit)
    | _ => ([], rest)
  let exponent : Option Int :=
    match rest with
    | [] => some 0
    | c :: rest =>
      if c ≠ 'e' ∧ c ≠ 'E' then none
      else
        (digits? 10 (unsigned rest)).map fun n =>
          if rest.head? = some '-' ∧ (rest.drop 1).all Char.isDigit then -(n : Int) else (n : Int)
  match digits? 10 (whole ++ part), exponent with
  | some n, some e => inRange n (e - (part.length : Int)) (whole.length + part.length)
  | _, _ => false
where
  /-- The double nearest to `n * 10 ^ e` is finite; `places` is no less than the digits of `n`. -/
  inRange (n : Nat) (e : Int) (places : Nat) : Bool :=
    if n = 0 then true
    else if e + (places : Int) < 300 then true
    else if e > 400 then false
    else if e ≥ 0 then n * Nat.pow 10 e.toNat < 1 <<< 1024 - 1 <<< 970
    else n < (1 <<< 1024 - 1 <<< 970) * Nat.pow 10 (-e).toNat

/-- A number that is no integer. -/
def isFloat (text : List Char) : Bool :=
  let special (words : List String) (cs : List Char) := words.contains (String.ofList cs)
  match text with
  | '+' :: rest =>
    special [".inf", ".Inf", ".INF"] rest ||
      (rest.head? ≠ some '+' && rest.head? ≠ some '-' && isDecimalFraction rest)
  | _ =>
    special [".inf", ".Inf", ".INF", "-.inf", "-.Inf", "-.INF", ".nan", ".NaN", ".NAN"] text ||
      isDecimalFraction text

/-- Written plainly, the text would be read as something else than text, or as a number by other
readers. -/
def isAmbiguous (text : String) : Bool :=
  let cs := text.toList
  isNull text || (bool? text).isSome || isInteger cs || isZeroPadded cs || isFloat cs

end SerialLink.Yaml
