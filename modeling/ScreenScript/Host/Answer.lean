import ScreenScript.Node.Descriptor
import ScreenScript.Text.Blank

/-!
What the texts a host answers with mean, under each type the caller may expect.
-/

namespace ScreenScript.Answer

open Node

def bool (raw : Option String) : Bool :=
  raw = some "true"

def text (raw : Option String) : String :=
  raw.getD ""

def isWord (word : String) (s : List Char) : Bool :=
  s.map Char.toLower = word.toList

def realDigits? (negative : Bool) (s : List Char) : Option Binary64 :=
  let whole := s.takeWhile Decimal.isDigit
  let rest := s.dropWhile Decimal.isDigit
  let (fraction, rest) := match rest with
    | '.' :: r => (r.takeWhile Decimal.isDigit, r.dropWhile Decimal.isDigit)
    | r => ([], r)
  let digits := whole ++ fraction
  let number (e : Int) :=
    some (Binary64.ofDecimal negative (Decimal.value digits) (e - fraction.length))
  if digits.isEmpty then none
  else match rest with
  | [] => number 0
  | c :: r => if c = 'e' ∨ c = 'E' then (Decimal.readInt? r).bind number else none

def real? (s : List Char) : Option Binary64 :=
  let (negative, r) := match s with
    | '-' :: r => (true, r)
    | '+' :: r => (false, r)
    | r => (false, r)
  if isWord "inf" r || isWord "infinity" r then some (.infinite negative)
  else if isWord "nan" r then some .nan
  else realDigits? negative r

/-- A whole number, or the whole part of another number, clamped to words. -/
def integer? (raw : String) : Option Int64 :=
  let s := Text.trim raw.toList
  Word.read? s <|> (real? s).map Binary64.toWord

def integer (raw : Option String) (default : Int64) : Int64 :=
  (raw.bind integer?).getD default

/-- JSON with blanks of any kind around it; blank and malformed texts are nothing. -/
def json? (raw : String) : Option Json.Value :=
  Json.Value.parse? (Text.trimText raw)

def node? (raw : Option String) : Option Info :=
  (raw.bind json?).bind Info.ofValue?

/-- The items of an array that describe nodes; a lone object is a list of one. -/
def nodes (raw : Option String) : List Info :=
  match raw.bind json? with
  | some (.array vs) => Info.ofValues vs
  | some v => Info.ofValues [v]
  | none => []

end ScreenScript.Answer
