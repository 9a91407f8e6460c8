import TagListing.Numeric.Decimal
/-!
Dates and times in their normal text: a capital `T` between date and time, a capital `Z`, no
trailing zeros of the fraction and at most nine of its digits. A month is 1 to 12 and a day 1 to 31
in every month. An offset needs a date and a time.
-/
namespace TagListing.Toml
open TagListing.Numeric

def twoDigits : List Char → Option (Nat × List Char)
  | a :: b :: rest => if a.isDigit ∧ b.isDigit then some (readDigits 0 [a, b], rest) else none
  | _ => none

def single (c : Char) : List Char → Option (List Char)
  | d :: rest => if c = d then some rest else none
  | [] => none

def padTwo (n : Nat) : List Char := if n < 10 then '0' :: digitChars n else digitChars n

def readDate (s : List Char) : Option (List Char × List Char) := do
  let (century, s) ← twoDigits s
  let (year, s) ← twoDigits s
  let s ← single '-' s
  let (month, s) ← twoDigits s
  let s ← single '-' s
  let (day, s) ← twoDigits s
  if 1 ≤ month ∧ month ≤ 12 ∧ 1 ≤ day ∧ day ≤ 31 then
    some (padTwo century ++ padTwo year ++ '-' :: padTwo month ++ '-' :: padTwo day, s)
  else none

def fractionText (digits : List Char) : List Char :=
  match (((digits.take 9).reverse).dropWhile (· = '0')).reverse with
  | [] => []
  | ds => '.' :: ds

def readTime (s : List Char) : Option (List Char × List Char) := do
  let (hour, s) ← twoDigits s
  let s ← single ':' s
  let (minute, s) ← twoDigits s
  let s ← single ':' s
  let (second, s) ← twoDigits s
  let (fraction, s) ← match s with
    | '.' :: rest =>
      match rest.takeWhile Char.isDigit with
      | [] => none
      | ds => some (fractionText ds, rest.dropWhile Char.isDigit)
    | s => some ([], s)
  if hour ≤ 24 ∧ minute ≤ 59 ∧ second ≤ 59 then
    some (padTwo hour ++ ':' :: padTwo minute ++ ':' :: padTwo second ++ fraction, s)
  else none

def readOffset (s : List Char) : Option (List Char × List Char) :=
  match s with
  | [] => some ([], [])
  | c :: rest =>
    if c = 'Z' ∨ c = 'z' then some (['Z'], rest)
    else if c = '+' ∨ c = '-' then do
      let (hours, rest) ← twoDigits rest
      let rest ← single ':' rest
      let (minutes, rest) ← twoDigits rest
      let sign := if c = '-' ∧ hours ≠ 0 then '-' else '+'
      some (sign :: padTwo hours ++ ':' :: padTwo minutes, rest)
    else none

def normalMoment (s : List Char) : Option String := do
  let (text, rest) ←
    if s[2]? = some ':' then readTime s
    else do
      let (date, rest) ← readDate s
      match rest with
      | c :: after =>
        if c = 'T' ∨ c = 't' ∨ c = ' ' then do
          let (time, rest) ← readTime after
          let (offset, rest) ← readOffset rest
          some (date ++ 'T' :: time ++ offset, rest)
        else some (date, rest)
      | [] => some (date, [])
  if rest = [] then some (String.ofList text) else none

end TagListing.Toml
