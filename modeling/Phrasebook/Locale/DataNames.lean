import Phrasebook.Locale.LanguageTag

/-! # Names of locale data

    The data of a locale is kept under a language, perhaps with a script and a
    region. A tag looks for its data under its own name first and then under the
    names that stand in for it. A script in which a language is not usually
    written shares no data with the language.
-/

namespace Phrasebook.LanguageTag

/-! ### Keywords -/

/-- The value of a key of the extension `u`, if it is a single subtag. -/
def keyword? (t : LanguageTag) (key : String) : Option String :=
  let behind := (((t.extensions.lookup "u").getD []).dropWhile (· != key)).drop 1
  match behind.takeWhile isValue with
  | [value] => some value
  | _ => none

/-! ### Region and script -/

/-- The region in front of the name of one of its subdivisions, which has one to
    four letters and digits. -/
def subdivisionRegion? (s : String) : Option String :=
  let cs := s.toList
  let size := if cs.head?.any Char.isAlpha then 2 else 3
  let region := String.ofList (cs.take size)
  let rest := cs.drop size
  if isRegion region && 1 ≤ rest.length && rest.length ≤ 4 then some (writtenRegion region)
  else none

/-- The region whose data is wanted: that of the tag, else that of the subdivision
    under the key `sd`. -/
def dataRegion (t : LanguageTag) : Option String :=
  match t.region with
  | some region => some region
  | none => (t.keyword? "sd").bind subdivisionRegion?

/-- The scripts of languages that are written in one script everywhere. For `nb`,
    whose data is that of `no`, no script is known, so `nb-Latn` has no data. -/
def usualScripts : List (List String × String) :=
  [(["cs", "cy", "da", "de", "en", "es", "fi", "fr", "ga", "hu", "it", "lt", "lv", "nl", "nn",
      "no", "pl", "pt", "ro", "sl", "sv", "tr"], "Latn"),
    (["ru", "uk"], "Cyrl"), (["ar"], "Arab"), (["el"], "Grek"), (["he"], "Hebr"),
    (["hi"], "Deva"), (["ja"], "Jpan"), (["ko"], "Kore")]

def usualScript? (language : String) (region : Option String) : Option String :=
  if language = "zh" then
    some (if region.any (· ∈ ["HK", "MO", "TW"]) then "Hant" else "Hans")
  else (usualScripts.find? fun row => language ∈ row.1).map (·.2)

/-- The script of a tag, if the language is not usually written in it. -/
def unusualScript? (t : LanguageTag) : Option String :=
  if t.script = usualScript? t.language t.dataRegion then none else t.script

/-! ### Names -/

/-- The names that stand in for others, the closest first. -/
def standIns : List (List String × List String) :=
  [(["en-AT", "en-BE", "en-CH", "en-CZ", "en-DE", "en-DK", "en-EE", "en-ES", "en-FI", "en-FR",
      "en-GE", "en-HU", "en-IT", "en-LT", "en-LV", "en-NL", "en-NO", "en-PL", "en-PT", "en-RO",
      "en-SE", "en-SI", "en-SK", "en-UA"], ["en-150", "en-001"]),
    (["en-150", "en-AG", "en-AI", "en-AU", "en-BB", "en-BM", "en-BS", "en-BW", "en-BZ", "en-CC",
      "en-CK", "en-CM", "en-CX", "en-CY", "en-DG", "en-DM", "en-ER", "en-FJ", "en-FK", "en-FM",
      "en-GB", "en-GD", "en-GG", "en-GH", "en-GI", "en-GM", "en-GS", "en-GY", "en-HK", "en-ID",
      "en-IE", "en-IL", "en-IM", "en-IN", "en-IO", "en-JE", "en-JM", "en-KE", "en-KI", "en-KN",
      "en-KY", "en-LC", "en-LR", "en-LS", "en-MG", "en-MO", "en-MS", "en-MT", "en-MU", "en-MV",
      "en-MW", "en-MY", "en-NA", "en-NF", "en-NG", "en-NR", "en-NU", "en-NZ", "en-PG", "en-PK",
      "en-PN", "en-PW", "en-RW", "en-SB", "en-SC", "en-SD", "en-SG", "en-SH", "en-SL", "en-SS",
      "en-SX", "en-SZ", "en-TC", "en-TK", "en-TO", "en-TT", "en-TV", "en-TZ", "en-UG", "en-VC",
      "en-VG", "en-VU", "en-WS", "en-ZA", "en-ZM", "en-ZW"], ["en-001"]),
    (["es-AR", "es-BO", "es-BR", "es-BZ", "es-CL", "es-CO", "es-CR", "es-CU", "es-DO", "es-EC",
      "es-GT", "es-HN", "es-JP", "es-MX", "es-NI", "es-PA", "es-PE", "es-PR", "es-PY", "es-SV",
      "es-US", "es-UY", "es-VE"], ["es-419"]),
    (["pt-AO", "pt-CH", "pt-CV", "pt-FR", "pt-GQ", "pt-GW", "pt-LU", "pt-MO", "pt-MZ", "pt-ST",
      "pt-TL"], ["pt-PT"]),
    (["nb", "nn"], ["no"]),
    (["hi-Latn"], ["en-IN", "en-001", "en"])]

/-- A name and the names that stand in for it. -/
def withStandIns (name : String) : List String :=
  name :: ((standIns.find? fun row => name ∈ row.1).map (·.2)).getD []

/-- The names under which data for a tag may be kept, the closest first: the
    language with its region, then the language, each with an unusual script.
    Variants and other extensions change no data. -/
def dataNames (t : LanguageTag) : List String :=
  let base := String.intercalate "-" (t.language :: t.unusualScript?.toList)
  match t.dataRegion with
  | some region => withStandIns (base ++ "-" ++ region) ++ withStandIns base
  | none => withStandIns base

/-- The entry for the closest name of a tag among those of a kind. -/
def lookupKind? {α : Type} (t : LanguageTag) (kind : α → Bool) (table : List (List String × α)) :
    Option α :=
  t.dataNames.findSome? fun name =>
    (table.find? fun row => name ∈ row.1 && kind row.2).map (·.2)

/-- The entry of a table for the closest name of a tag. -/
def lookup? {α : Type} (t : LanguageTag) (table : List (List String × α)) : Option α :=
  t.lookupKind? (fun _ => true) table

end Phrasebook.LanguageTag
