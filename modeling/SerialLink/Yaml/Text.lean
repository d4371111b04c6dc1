import SerialLink.Yaml.Scalar

/-!
How text is written as a value in a block mapping: plainly where it would be read back as that text,
else in single quotes, else in double quotes with escapes. Text of several lines is written line by
line where that is possible. Lines of a value are indented by two spaces.
-/
namespace SerialLink.Yaml.Text

/-- Ends a line. -/
def isBreak (c : Char) : Bool :=
  c = '\n' || c = '\r' || c.toNat = 0x85 || c.toNat = 0x2028 || c.toNat = 0x2029

/-- Separates words. -/
def isGap (c : Char) : Bool := c = ' ' || c = '\t' || c.toNat = 0 || isBreak c

/-- Is written as it is, outside of double quotes. -/
def isPlain (c : Char) : Bool :=
  let n := c.toNat
  n = 0x0A || (0x20 ≤ n && n ≤ 0x7E) || (0xA0 ≤ n && n ≤ 0xFFFD && n ≠ 0xFEFF) ||
    0x10000 ≤ n

/-- The text starts like a document marker. -/
def startsLikeMarker (text : List Char) : Bool :=
  "---".toList.isPrefixOf text || "...".toList.isPrefixOf text

/-- The first character would be taken for a mark of YAML. -/
def startsWithMark : List Char → Bool
  | [] => false
  | c :: rest =>
    ("#,[]\x7b\x7d&*!|>\"%@\x60".toList.contains c || c.toNat = 0x27) ||
      (("-?:".toList.contains c) && rest.head?.all isGap)

/-- A colon before a gap, or a number sign behind one, behind the first character. -/
def holdsMark : (before : Char) → List Char → Bool
  | _, [] => false
  | before, c :: rest =>
    (c = ':' && rest.head?.all isGap) || (c = '#' && isGap before) || holdsMark c rest

/-- Some character of the first kind stands right before one of the second kind. -/
def adjacent (first second : Char → Bool) (text : List Char) : Bool :=
  (text.zip (text.drop 1)).any fun (a, b) => first a && second b

def isSpace (c : Char) : Bool := c = ' '

/-- Without quotes the text would be read back as it is. -/
def allowsPlain (text : List Char) : Bool :=
  match text with
  | [] => true
  | c :: rest =>
    let outer (c : Char) : Bool := isSpace c || isBreak c
    text.all isPlain && !text.any isBreak && !outer c && !(rest.getLast?.any outer) &&
      !startsLikeMarker text && !startsWithMark text && !holdsMark c rest

/-- In single quotes the text would be read back as it is. -/
def allowsSingle (text : List Char) : Bool :=
  text.all isPlain && !adjacent isSpace isBreak text && !adjacent isBreak isSpace text

/-- Written line by line the text would be read back as it is. -/
def allowsLines (text : List Char) : Bool :=
  !text.isEmpty && text.all isPlain && !adjacent isSpace isBreak text &&
    !(text.getLast?.any isSpace)

/-- In single quotes, where a quote is written twice and lines behind the first are indented. The
text holds no line feed. -/
def single (text : List Char) : String :=
  let mark := Char.ofNat 0x27
  String.ofList (mark :: go false text ++ [mark])
where
  go : (broken : Bool) → List Char → List Char
    | broken, [] => if broken then [' ', ' '] else []
    | broken, c :: rest =>
      if isBreak c then c :: go true rest
      else
        let mark := Char.ofNat 0x27
        (if broken then [' ', ' '] else []) ++
          (if c = mark then [mark, mark] else [c]) ++ go false rest

/-- The letter of an escape. -/
def escapeLetter? (c : Char) : Option Char :=
  [(0x00, '0'), (0x07, 'a'), (0x08, 'b'), (0x09, 't'), (0x0A, 'n'), (0x0B, 'v'), (0x0C, 'f'),
    (0x0D, 'r'), (0x1B, 'e'), (0x22, '"'), (0x5C, '\\'), (0x85, 'N'), (0xA0, '_'),
    (0x2028, 'L'), (0x2029, 'P')].lookup c.toNat

/-- So many upper-case hexadecimal digits. -/
def hexDigits (count n : Nat) : List Char :=
  (List.range count).reverse.map fun place => (Nat.digitChar ((n >>> (4 * place)) % 16)).toUpper

/-- The character in double quotes. -/
def escaped (c : Char) : List Char :=
  if isPlain c && !isBreak c && c ≠ '"' && c ≠ '\\' then [c]
  else
    match escapeLetter? c with
    | some letter => ['\\', letter]
    | none =>
      let n := c.toNat
      if n ≤ 0xFF then '\\' :: 'x' :: hexDigits 2 n
      else if n ≤ 0xFFFF then '\\' :: 'u' :: hexDigits 4 n
      else '\\' :: 'U' :: hexDigits 8 n

/-- In double quotes. -/
def double (text : List Char) : String :=
  String.ofList ('"' :: text.flatMap escaped ++ ['"'])

/-- Line by line, behind a mark that tells the indentation if it would not be seen, and what becomes
of the line ends behind the text. -/
def lines (text : List Char) : String :=
  let indentation := if text.head?.any fun c => isSpace c || isBreak c then "2" else ""
  let ending :=
    match text.reverse with
    | [] => "-"
    | last :: before =>
      if !isBreak last then "-" else if before.head?.all isBreak then "+" else ""
  "|" ++ indentation ++ ending ++ "\n" ++ String.ofList (go true text)
where
  go : (start : Bool) → List Char → List Char
    | _, [] => []
    | start, c :: rest =>
      if isBreak c then c :: go true rest
      else (if start then [' ', ' '] else []) ++ c :: go false rest

/-- The text as a value, with the line end behind it. -/
def value (text : String) : String :=
  let cs := text.toList
  let quotes := if allowsSingle cs then single cs ++ "\n" else double cs ++ "\n"
  if isAmbiguous text then quotes
  else if cs.contains '\n' then
    if allowsLines cs then
      let written := lines cs
      if cs.getLast?.any isBreak then written else written ++ "\n"
    else double cs ++ "\n"
  else if allowsPlain cs then text ++ "\n"
  else quotes

end SerialLink.Yaml.Text
