import Pastiche.Text.Blank

/-! Locales, their tags, and the chain of locales in which a key is looked up. -/

namespace Pastiche

structure Locale where
  language : String
  country : Option String
deriving DecidableEq

namespace Locale

/-- The locale in its usual case: `zh_CN`. -/
def ofParts (language : String) (country : Option String) : Locale :=
  ⟨language.map Char.toLower, country.map (String.map Char.toUpper)⟩

def ofLanguage (language : String) : Locale := ofParts language none

def ofCountry (language country : String) : Locale := ofParts language (some country)

def isLanguage (cs : List Char) : Bool := 2 ≤ cs.length && cs.length ≤ 8 && cs.all Char.isAlpha

def isCountry (cs : List Char) : Bool :=
  (cs.length == 2 && cs.all Char.isAlpha) || (cs.length == 3 && cs.all Char.isDigit)

def isSeparator (c : Char) : Bool := c == '-' || c == '_'

/-- The locale of a tag such as `en`, `zh_CN` or `zh-CN`. -/
def ofTag? (tag : String) : Option Locale :=
  match (Text.trim tag.toList).splitOnP isSeparator with
  | [language] =>
    if isLanguage language then some (ofParts (String.ofList language) none) else none
  | [language, country] =>
    if isLanguage language && isCountry country then
      some (ofParts (String.ofList language) (some (String.ofList country)))
    else none
  | _ => none

/-- The locale as text; `ofTag?` reads it back. -/
def tag (l : Locale) : String :=
  match l.country with
  | some country => l.language ++ "_" ++ country
  | none => l.language

def en : Locale := ofLanguage "en"

instance : Inhabited Locale := ⟨en⟩

def withoutCountry (l : Locale) : Locale := { l with country := none }

def isDefault (l : Locale) : Bool := l.language == "en" && l.country.isNone

/-- Where a key is looked up, in turn: the locale, its language alone, English. -/
def chain (l : Locale) : List Locale :=
  let own := match l.country with
    | some _ => [l, l.withoutCountry]
    | none => [l]
  if l.withoutCountry.isDefault then own else own ++ [en]

def chainText (chain : List Locale) : String := ", ".intercalate (chain.map tag)

/-- The order of locales: by language, then by country, none first. -/
def le (a b : Locale) : Bool :=
  if a.language == b.language then
    match a.country, b.country with
    | none, _ => true
    | some _, none => false
    | some x, some y => x ≤ y
  else a.language < b.language

def sort (locales : List Locale) : List Locale := locales.mergeSort le

end Locale

end Pastiche
