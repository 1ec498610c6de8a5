import Phrasebook.Locale.DataNames
import Phrasebook.Plural.Rule

/-! # Plural rules of languages

    The CLDR plural rules for counting and for ranking. A language without an
    entry has the category `other` only.
-/

namespace Phrasebook

open PluralTerm

/-- The rules for counting, by the names of the locales that share them. -/
def cardinalRules : List (List String × List PluralRule) :=
  [
    (["en", "de", "nl", "sv", "fi"], [
      ⟨.one, [[i.isIn [(1, 1)], v.isIn [(0, 0)]]]⟩]),
    (["it"], [
      ⟨.one, [[i.isIn [(1, 1)], v.isIn [(0, 0)]]]⟩,
      ⟨.many, [[i.notIn [(0, 0)], (i % 1000000).isIn [(0, 0)], v.isIn [(0, 0)]]]⟩]),
    (["pt-PT"], [
      ⟨.one, [[i.isIn [(1, 1)], v.isIn [(0, 0)]]]⟩,
      ⟨.many, [[i.notIn [(0, 0)], (i % 1000000).isIn [(0, 0)], v.isIn [(0, 0)]]]⟩]),
    (["es"], [
      ⟨.one, [[n.isIn [(1, 1)]]]⟩,
      ⟨.many, [[i.notIn [(0, 0)], (i % 1000000).isIn [(0, 0)], v.isIn [(0, 0)]]]⟩]),
    (["fr"], [
      ⟨.one, [[i.isIn [(0, 0), (1, 1)]]]⟩,
      ⟨.many, [[i.notIn [(0, 0)], (i % 1000000).isIn [(0, 0)], v.isIn [(0, 0)]]]⟩]),
    (["pt", "pt-BR"], [
      ⟨.one, [[i.isIn [(0, 1)]]]⟩,
      ⟨.many, [[i.notIn [(0, 0)], (i % 1000000).isIn [(0, 0)], v.isIn [(0, 0)]]]⟩]),
    (["el", "no", "tr", "hu"], [
      ⟨.one, [[n.isIn [(1, 1)]]]⟩]),
    (["da"], [
      ⟨.one, [[n.isIn [(1, 1)]], [t.notIn [(0, 0)], i.isIn [(0, 0), (1, 1)]]]⟩]),
    (["hi"], [
      ⟨.one, [[i.isIn [(0, 0)]], [n.isIn [(1, 1)]]]⟩]),
    (["ru", "uk"], [
      ⟨.one, [[v.isIn [(0, 0)], (i % 10).isIn [(1, 1)], (i % 100).notIn [(11, 11)]]]⟩,
      ⟨.few, [[v.isIn [(0, 0)], (i % 10).isIn [(2, 4)], (i % 100).notIn [(12, 14)]]]⟩,
      ⟨.many, [
        [v.isIn [(0, 0)], (i % 10).isIn [(0, 0)]],
        [v.isIn [(0, 0)], (i % 10).isIn [(5, 9)]],
        [v.isIn [(0, 0)], (i % 100).isIn [(11, 14)]]]⟩]),
    (["pl"], [
      ⟨.one, [[i.isIn [(1, 1)], v.isIn [(0, 0)]]]⟩,
      ⟨.few, [[v.isIn [(0, 0)], (i % 10).isIn [(2, 4)], (i % 100).notIn [(12, 14)]]]⟩,
      ⟨.many, [
        [v.isIn [(0, 0)], i.notIn [(1, 1)], (i % 10).isIn [(0, 1)]],
        [v.isIn [(0, 0)], (i % 10).isIn [(5, 9)]],
        [v.isIn [(0, 0)], (i % 100).isIn [(12, 14)]]]⟩]),
    (["cs"], [
      ⟨.one, [[i.isIn [(1, 1)], v.isIn [(0, 0)]]]⟩,
      ⟨.few, [[i.isIn [(2, 4)], v.isIn [(0, 0)]]]⟩,
      ⟨.many, [[v.notIn [(0, 0)]]]⟩]),
    (["he"], [
      ⟨.one, [[i.isIn [(1, 1)], v.isIn [(0, 0)]], [i.isIn [(0, 0)], v.notIn [(0, 0)]]]⟩,
      ⟨.two, [[i.isIn [(2, 2)], v.isIn [(0, 0)]]]⟩]),
    (["ar", "ar-EG"], [
      ⟨.zero, [[n.isIn [(0, 0)]]]⟩,
      ⟨.one, [[n.isIn [(1, 1)]]]⟩,
      ⟨.two, [[n.isIn [(2, 2)]]]⟩,
      ⟨.few, [[(n % 100).isIn [(3, 10)]]]⟩,
      ⟨.many, [[(n % 100).isIn [(11, 99)]]]⟩]),
    (["cy"], [
      ⟨.zero, [[n.isIn [(0, 0)]]]⟩,
      ⟨.one, [[n.isIn [(1, 1)]]]⟩,
      ⟨.two, [[n.isIn [(2, 2)]]]⟩,
      ⟨.few, [[n.isIn [(3, 3)]]]⟩,
      ⟨.many, [[n.isIn [(6, 6)]]]⟩]),
    (["lt"], [
      ⟨.one, [[(n % 10).isIn [(1, 1)], (n % 100).notIn [(11, 19)]]]⟩,
      ⟨.few, [[(n % 10).isIn [(2, 9)], (n % 100).notIn [(11, 19)]]]⟩,
      ⟨.many, [[f.notIn [(0, 0)]]]⟩]),
    (["lv"], [
      ⟨.zero, [
        [(n % 10).isIn [(0, 0)]],
        [(n % 100).isIn [(11, 19)]],
        [v.isIn [(2, 2)], (f % 100).isIn [(11, 19)]]]⟩,
      ⟨.one, [
        [(n % 10).isIn [(1, 1)], (n % 100).notIn [(11, 11)]],
        [v.isIn [(2, 2)], (f % 10).isIn [(1, 1)], (f % 100).notIn [(11, 11)]],
        [v.notIn [(2, 2)], (f % 10).isIn [(1, 1)]]]⟩]),
    (["sl"], [
      ⟨.one, [[v.isIn [(0, 0)], (i % 100).isIn [(1, 1)]]]⟩,
      ⟨.two, [[v.isIn [(0, 0)], (i % 100).isIn [(2, 2)]]]⟩,
      ⟨.few, [[v.isIn [(0, 0)], (i % 100).isIn [(3, 4)]], [v.notIn [(0, 0)]]]⟩]),
    (["ro"], [
      ⟨.one, [[i.isIn [(1, 1)], v.isIn [(0, 0)]]]⟩,
      ⟨.few, [
        [v.notIn [(0, 0)]],
        [n.isIn [(0, 0)]],
        [n.notIn [(1, 1)], (n % 100).isIn [(1, 19)]]]⟩]),
    (["ga"], [
      ⟨.one, [[n.isIn [(1, 1)]]]⟩,
      ⟨.two, [[n.isIn [(2, 2)]]]⟩,
      ⟨.few, [[n.isIn [(3, 6)]]]⟩,
      ⟨.many, [[n.isIn [(7, 10)]]]⟩])]

/-- The rules for ranking, by the names of the locales that share them. -/
def ordinalRules : List (List String × List PluralRule) :=
  [
    (["en"], [
      ⟨.one, [[(n % 10).isIn [(1, 1)], (n % 100).notIn [(11, 11)]]]⟩,
      ⟨.two, [[(n % 10).isIn [(2, 2)], (n % 100).notIn [(12, 12)]]]⟩,
      ⟨.few, [[(n % 10).isIn [(3, 3)], (n % 100).notIn [(13, 13)]]]⟩]),
    (["fr", "ga", "ro"], [
      ⟨.one, [[n.isIn [(1, 1)]]]⟩]),
    (["es"], [
      ⟨.one, [[(n % 10).isIn [(1, 1), (3, 3)], (n % 100).notIn [(11, 11)]]]⟩]),
    (["it"], [
      ⟨.many, [[n.isIn [(11, 11), (8, 8), (80, 80), (800, 800)]]]⟩]),
    (["sv"], [
      ⟨.one, [[(n % 10).isIn [(1, 1), (2, 2)], (n % 100).notIn [(11, 11), (12, 12)]]]⟩]),
    (["hu"], [
      ⟨.one, [[n.isIn [(1, 1), (5, 5)]]]⟩]),
    (["hi"], [
      ⟨.one, [[n.isIn [(1, 1)]]]⟩,
      ⟨.two, [[n.isIn [(2, 2), (3, 3)]]]⟩,
      ⟨.few, [[n.isIn [(4, 4)]]]⟩,
      ⟨.many, [[n.isIn [(6, 6)]]]⟩]),
    (["uk"], [
      ⟨.few, [[(n % 10).isIn [(3, 3)], (n % 100).notIn [(13, 13)]]]⟩]),
    (["cy"], [
      ⟨.zero, [[n.isIn [(0, 0), (7, 7), (8, 8), (9, 9)]]]⟩,
      ⟨.one, [[n.isIn [(1, 1)]]]⟩,
      ⟨.two, [[n.isIn [(2, 2)]]]⟩,
      ⟨.few, [[n.isIn [(3, 3), (4, 4)]]]⟩,
      ⟨.many, [[n.isIn [(5, 5), (6, 6)]]]⟩])]

def LanguageTag.pluralRules (tag : LanguageTag) : PluralKind → List PluralRule
  | .cardinal => (tag.lookup? cardinalRules).getD []
  | .ordinal => (tag.lookup? ordinalRules).getD []

end Phrasebook
