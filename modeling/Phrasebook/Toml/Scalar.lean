import Phrasebook.Text.CodePoint

/-! Reading the texts, numbers and times of TOML. -/

namespace Phrasebook.Toml

/-- Whether a character is a blank. -/
def isBlank (c : Char) : Bool :=
  c == ' ' || c == '\t'

/-- Whether a character may stand within a line as it is. -/
def isVisible (c : Char) : Bool :=
  c == '\t' || (' ' ≤ c && c != '\x7f')

/-- What follows the end of a line. -/
def newline? : List Char → Option (List Char)
  | '\n' :: rest => some rest
  | '\r' :: '\n' :: rest => some rest
  | _ => none

/-- The text from its first character on that is no blank. -/
def skipBlanks (s : List Char) : List Char :=
  s.dropWhile isBlank

/-- The text behind a comment, if one starts it. -/
def skipComment (s : List Char) : List Char :=
  if s.head? = some '#' then s.dropWhile isVisible else s

/-- What follows the end of a line that holds nothing more than a comment. -/
def lineEnd? (s : List Char) : Option (List Char) :=
  match skipComment (skipBlanks s) with
  | [] => some []
  | rest => newline? rest

/-- The text from its first character on that belongs neither to blanks nor to line ends. -/
def skipSpace : Nat → List Char → List Char
  | 0, s => s
  | fuel + 1, s =>
    let s := skipBlanks s
    match newline? s with
    | some rest => skipSpace fuel rest
    | none => s

/-- The text from its first significant character on, behind blanks, line ends and comments. -/
def skipLines : Nat → List Char → List Char
  | 0, s => s
  | fuel + 1, s =>
    let rest := skipComment (skipBlanks s)
    match newline? rest with
    | some rest => skipLines fuel rest
    | none => rest

/-! ### Texts -/

/-- The character that an escape stands for, read behind its backslash. -/
def escape? : List Char → Option (Char × List Char)
  | 'b' :: rest => some ('\x08', rest)
  | 't' :: rest => some ('\t', rest)
  | 'n' :: rest => some ('\n', rest)
  | 'f' :: rest => some ('\x0c', rest)
  | 'r' :: rest => some ('\r', rest)
  | '"' :: rest => some ('"', rest)
  | '\\' :: rest => some ('\\', rest)
  | 'u' :: rest => Text.codePoint? 4 rest
  | 'U' :: rest => Text.codePoint? 8 rest
  | _ => none

/-- A text on one line, read behind its opening quote, with what was read before in reverse. Only double
quotes have escapes. -/
def lineText? (quote : Char) : Nat → List Char → List Char → Option (List Char × List Char)
  | 0, _, _ => none
  | _ + 1, _, [] => none
  | fuel + 1, held, c :: rest =>
    if c = quote then some (held.reverse, rest)
    else if c = '\\' ∧ quote = '"' then do
      let (escaped, rest) ← escape? rest
      lineText? quote fuel (escaped :: held) rest
    else if isVisible c then lineText? quote fuel (c :: held) rest
    else none

/-- A text on several lines, read behind its three opening quotes. Up to two quotes may stand right before
the three closing ones. A backslash at the end of a line drops all space up to the next word. -/
def blockText? (quote : Char) : Nat → List Char → List Char → Option (List Char × List Char)
  | 0, _, _ => none
  | _ + 1, _, [] => none
  | fuel + 1, held, c :: rest =>
    let quotes := ((c :: rest).takeWhile (· == quote)).length
    if 3 ≤ quotes then
      let extra := min (quotes - 3) 2
      some (held.reverse ++ List.replicate extra quote, (c :: rest).drop (3 + extra))
    else match newline? (c :: rest) with
      | some rest => blockText? quote fuel ('\n' :: held) rest
      | none =>
        if c = '\\' ∧ quote = '"' then
          match newline? (skipBlanks rest) with
          | some next => blockText? quote fuel held (skipSpace (next.length + 1) next)
          | none => do
            let (escaped, rest) ← escape? rest
            blockText? quote fuel (escaped :: held) rest
        else if isVisible c then blockText? quote fuel (c :: held) rest
        else none

/-- A text on one line, from its opening quote on. -/
def quoted? : List Char → Option (List Char × List Char)
  | c :: rest => if c = '"' ∨ c = '\'' then lineText? c (rest.length + 1) [] rest else none
  | [] => none

/-- A text, from its opening quotes on. A line end right behind three of them is dropped. -/
def text? (s : List Char) : Option (List Char × List Char) :=
  match s with
  | c :: d :: e :: rest =>
    if (c = '"' ∨ c = '\'') ∧ d = c ∧ e = c then
      blockText? c (rest.length + 1) [] ((newline? rest).getD rest)
    else quoted? s
  | _ => quoted? s

/-! ### Numbers -/

/-- Digits of a base with single underscores between them, and what follows. -/
def digits? (base : Nat) : List Char → Option (List Char × List Char)
  | [] => none
  | [c] => if (Decimal.digitIn? base c).isSome then some ([c], []) else none
  | c :: next :: rest =>
    if (Decimal.digitIn? base c).isNone then none
    else if next = '_' then (digits? base rest).map fun (more, rest) => (c :: more, rest)
    else if (Decimal.digitIn? base next).isSome then
      (digits? base (next :: rest)).map fun (more, rest) => (c :: more, rest)
    else some ([c], next :: rest)

/-- The sign of a number, and what follows it. -/
def sign (s : List Char) : Bool × List Char :=
  match s with
  | '-' :: rest => (true, rest)
  | '+' :: rest => (false, rest)
  | _ => (false, s)

/-- The digits of a whole number, in which a zero does not lead others. -/
def leading? (s : List Char) : Option (List Char × List Char) :=
  match s with
  | '0' :: rest => if rest.head? = some '_' then none else some (['0'], rest)
  | _ => digits? 10 s

/-- The exponent of a decimal, without its letter. -/
def exponent? (s : List Char) : Option (Int × List Char) := do
  let (negative, rest) := sign s
  let (digits, rest) ← digits? 10 rest
  let n ← Decimal.natural? 10 digits
  return (if negative then -(n : Int) else n, rest)

/-- What follows a decimal with a fraction or an exponent. One too great is none, unless it is negative. -/
def decimalRest? (s : List Char) : Option (List Char) := do
  let (negative, rest) := sign s
  let (whole, rest) ← leading? rest
  let (fraction, rest) ← match rest with
    | '.' :: more => digits? 10 more
    | 'e' :: _ | 'E' :: _ => some ([], rest)
    | _ => none
  let (power, rest) ← match rest with
    | 'e' :: more | 'E' :: more => exponent? more
    | _ => some (0, rest)
  let digits ← Decimal.natural? 10 (whole ++ fraction)
  if negative ∨ (Decimal.nearest digits (power - fraction.length)).isFinite then some rest else none

/-- What follows the name of an infinity, or of what is no number. -/
def namedRest? (s : List Char) : Option (List Char) :=
  match (sign s).2 with
  | 'i' :: 'n' :: 'f' :: rest => some rest
  | 'n' :: 'a' :: 'n' :: rest => some rest
  | _ => none

/-- A whole number of sixty-four bits with a sign. One of another base has no sign of its own. -/
def whole? (s : List Char) : Option (Int × List Char) := do
  let (value, rest) ← match s with
    | '0' :: 'x' :: more => (digits? 16 more).map fun (digits, rest) => (Decimal.natural? 16 digits, rest)
    | '0' :: 'o' :: more => (digits? 8 more).map fun (digits, rest) => (Decimal.natural? 8 digits, rest)
    | '0' :: 'b' :: more => (digits? 2 more).map fun (digits, rest) => (Decimal.natural? 2 digits, rest)
    | _ => (leading? (sign s).2).map fun (digits, rest) => (Decimal.natural? 10 digits, rest)
  let n ← value
  let signed : Int := if (sign s).1 then -(n : Int) else n
  if Decimal.fitsSigned signed then some (signed, rest) else none

/-! ### Times -/

/-- The number of as many digits as asked for, within bounds, and what follows them. -/
def field? (count least greatest : Nat) (s : List Char) : Option (Nat × List Char) := do
  if s.length < count then none
  let n ← Decimal.natural? 10 (s.take count)
  if least ≤ n ∧ n ≤ greatest then some (n, s.drop count) else none

/-- What follows a character at the front of a text. -/
def after? (c : Char) : List Char → Option (List Char)
  | d :: rest => if c = d then some rest else none
  | [] => none

/-- The number of days in a month. -/
def daysOf (year month : Nat) : Nat :=
  if month = 2 then (if year % 4 = 0 ∧ (year % 100 ≠ 0 ∨ year % 400 = 0) then 29 else 28)
  else if month = 4 ∨ month = 6 ∨ month = 9 ∨ month = 11 then 30
  else 31

/-- What follows a date. -/
def dateRest? (s : List Char) : Option (List Char) := do
  let (year, rest) ← field? 4 0 9999 s
  let (month, rest) ← field? 2 1 12 (← after? '-' rest)
  let (_, rest) ← field? 2 1 (daysOf year month) (← after? '-' rest)
  return rest

/-- What follows a time of day. -/
def clockRest? (s : List Char) : Option (List Char) := do
  let (_, rest) ← field? 2 0 23 s
  let (_, rest) ← field? 2 0 59 (← after? ':' rest)
  let (_, rest) ← field? 2 0 60 (← after? ':' rest)
  match rest with
  | '.' :: more =>
    let (digits, rest) := Decimal.spanDigits more
    if digits.isEmpty then none else some rest
  | _ => some rest

/-- What follows the offset of a time, or the time itself if there is none. -/
def offsetRest? (s : List Char) : Option (List Char) :=
  match s with
  | 'Z' :: rest | 'z' :: rest => some rest
  | '+' :: rest | '-' :: rest => do
    let (_, rest) ← field? 2 0 23 rest
    let (_, rest) ← field? 2 0 59 (← after? ':' rest)
    return rest
  | _ => some s

/-- What follows a date, a time of day, or both with an offset. -/
def timeRest? (s : List Char) : Option (List Char) :=
  match dateRest? s with
  | none => clockRest? s
  | some rest =>
    match rest with
    | c :: more =>
      if c = 'T' ∨ c = 't' ∨ c = ' ' then
        match clockRest? more with
        | some rest => offsetRest? rest
        | none => some rest
      else some rest
    | [] => some []

end Phrasebook.Toml
