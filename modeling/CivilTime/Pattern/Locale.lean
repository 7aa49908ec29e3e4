/-!
# Locale identifiers

A locale is a language, possibly with a script, a region and variants, in this order, and with
extensions after a single character: `u` for attributes and keywords, `x` for private subtags. It
is written with the language, the variants and the extensions in lower case, the script in title
case and the region in upper case, and with variants, attributes and keywords sorted.
-/

set_option autoImplicit false

namespace CivilTime.Pattern

/-- A keyword of a locale with the parts of its value. -/
structure LocaleKeyword where
  key : String
  value : List String
deriving DecidableEq, Repr

/-- A locale in canonical spelling. -/
structure Locale where
  language : String
  script : Option String
  region : Option String
  variants : List String
  attributes : List String
  keywords : List LocaleKeyword
  privateTags : List String
deriving DecidableEq, Repr

namespace Locale

/-- ASCII letters only. -/
def isAlphabetic (tag : String) : Bool := tag.toList.all Char.isAlpha

/-- ASCII digits only. -/
def isNumeric (tag : String) : Bool := tag.toList.all Char.isDigit

/-- ASCII letters and digits only. -/
def isAlphanumeric (tag : String) : Bool := tag.toList.all Char.isAlphanum

/-- The tag in lower case. -/
def lower (tag : String) : String := String.ofList (tag.toList.map Char.toLower)

/-- The tag in upper case. -/
def upper (tag : String) : String := String.ofList (tag.toList.map Char.toUpper)

/-- The tag in lower case with an upper case initial. -/
def title (tag : String) : String :=
  match tag.toList with
  | [] => tag
  | c :: rest => String.ofList (c.toUpper :: rest.map Char.toLower)

/-- Two or three letters. -/
def language? (tag : String) : Option String :=
  if (tag.length == 2 || tag.length == 3) && isAlphabetic tag then some (lower tag) else none

/-- Four letters. -/
def script? (tag : String) : Option String :=
  if tag.length == 4 && isAlphabetic tag then some (title tag) else none

/-- Two letters or three digits. -/
def region? (tag : String) : Option String :=
  if (tag.length == 2 && isAlphabetic tag) || (tag.length == 3 && isNumeric tag) then
    some (upper tag)
  else none

/-- Five to eight letters and digits, or four that start with a digit. -/
def variant? (tag : String) : Option String :=
  let fits := (5 ≤ tag.length && tag.length ≤ 8) ||
    (tag.length == 4 && tag.toList.head?.any Char.isDigit)
  if fits && isAlphanumeric tag then some (lower tag) else none

/-- Three to eight letters and digits. -/
def word? (tag : String) : Option String :=
  if 3 ≤ tag.length && tag.length ≤ 8 && isAlphanumeric tag then some (lower tag) else none

/-- A letter or digit and a letter. -/
def key? (tag : String) : Option String :=
  match tag.toList with
  | [a, b] => if a.isAlphanum && b.isAlpha then some (lower tag) else none
  | _ => none

/-- One to eight letters and digits. -/
def privateTag? (tag : String) : Option String :=
  if 1 ≤ tag.length && tag.length ≤ 8 && isAlphanumeric tag then some (lower tag) else none

/-- Inserts into a sorted list; what is there already is not inserted again. -/
def insertSorted (tag : String) : List String → List String
  | [] => [tag]
  | first :: rest =>
    if tag == first then first :: rest
    else if tag < first then tag :: first :: rest
    else first :: insertSorted tag rest

/-- Inserts a keyword into a list sorted by key; the first one of a key stays. -/
def insertKeyword (keyword : LocaleKeyword) : List LocaleKeyword → List LocaleKeyword
  | [] => [keyword]
  | first :: rest =>
    if keyword.key == first.key then first :: rest
    else if keyword.key < first.key then keyword :: first :: rest
    else first :: insertKeyword keyword rest

/-- Takes the longest run of tags of a form from the front. -/
def takeRun (form : String → Option String) : List String → List String × List String
  | [] => ([], [])
  | tag :: rest =>
    match form tag with
    | none => ([], tag :: rest)
    | some canonical =>
      let (taken, left) := takeRun form rest
      (canonical :: taken, left)

/-- Takes one tag of a form from the front, if the first one has it. -/
def takeOptional (form : String → Option String) : List String → Option String × List String
  | [] => (none, [])
  | tag :: rest =>
    match form tag with
    | none => (none, tag :: rest)
    | some canonical => (some canonical, rest)

/-- Takes keywords from the front, each a key with the parts of its value. The keyword taken last
comes first. -/
def takeKeywords (taken : List LocaleKeyword) : List String → List LocaleKeyword × List String
  | [] => (taken, [])
  | tag :: rest =>
    match key? tag, word? tag, taken with
    | some key, _, _ => takeKeywords (⟨key, []⟩ :: taken) rest
    | none, some word, last :: earlier =>
      takeKeywords ({ last with value := last.value ++ [word] } :: earlier) rest
    | none, _, _ => (taken, tag :: rest)

/-- The keyword as it is written: the value `true` goes without saying. -/
def canonicalKeyword (keyword : LocaleKeyword) : LocaleKeyword :=
  { keyword with value := keyword.value.filter (· != "true") }

/-- The locale with what follows the `u`; at least one attribute or keyword has to. -/
def withUnicode? (locale : Locale) (tags : List String) : Option (Locale × List String) :=
  let (attributes, rest) := takeRun word? tags
  let (keywords, rest) := takeKeywords [] rest
  if attributes.isEmpty && keywords.isEmpty then none
  else
    some ({ locale with
      attributes := attributes.foldl (fun sorted tag => insertSorted tag sorted) []
      keywords := keywords.foldr
        (fun keyword sorted => insertKeyword (canonicalKeyword keyword) sorted) [] }, rest)

/-- The locale with what follows the `x`: the rest of the tags, at least one. -/
def withPrivate? (locale : Locale) (tags : List String) : Option Locale :=
  match tags.mapM privateTag? with
  | none => none
  | some [] => none
  | some privateTags => some { locale with privateTags := privateTags }

/-- The locale with its extensions, each of which there is once. -/
def withExtensions? (locale : Locale) : List String → Option Locale
  | [] => some locale
  | tag :: rest =>
    if lower tag == "x" then withPrivate? locale rest
    else if lower tag == "u" then
      match withUnicode? locale rest with
      | none => none
      | some (locale, []) => some locale
      | some (locale, tag :: rest) =>
        if lower tag == "x" then withPrivate? locale rest else none
    else none

/-- The locale of an identifier. -/
def read? (identifier : String) : Option Locale :=
  match identifier.splitOn "-" with
  | [] => none
  | tag :: rest =>
    match language? tag with
    | none => none
    | some language =>
      let (script, rest) := takeOptional script? rest
      let (region, rest) := takeOptional region? rest
      let (variants, rest) := takeRun variant? rest
      if variants.eraseDups.length == variants.length then
        withExtensions?
          { language := language
            script := script
            region := region
            variants := variants.foldl (fun sorted tag => insertSorted tag sorted) []
            attributes := []
            keywords := []
            privateTags := [] }
          rest
      else none

/-- The canonical identifier of a locale. -/
def write (locale : Locale) : String :=
  let keywords := locale.keywords.flatMap fun keyword => keyword.key :: keyword.value
  let unicode := locale.attributes ++ keywords
  String.intercalate "-"
    (locale.language :: locale.script.toList ++ locale.region.toList ++ locale.variants ++
      (if unicode.isEmpty then [] else "u" :: unicode) ++
      (if locale.privateTags.isEmpty then [] else "x" :: locale.privateTags))

end Locale

end CivilTime.Pattern
