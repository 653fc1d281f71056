/-!
# English plurals

The plural of a word by fixed lists and ending rules. Words of the first list have no plural form, a few words are
irregular, and for the rest the last ending rule that fits decides; a word that fits none takes an `s`. All
comparisons tell upper from lower case. Words consist of ASCII letters, digits and underscores.
-/

namespace ModelApi.Text

/-- The words that are their own plural. -/
def uncountable : List String := [
  "accommodation", "adulthood", "advertising", "advice", "aggression", "aid", "air", "aircraft", "alcohol", "anger",
  "applause", "arithmetic", "assistance", "athletics", "bacon", "baggage", "beef", "biology", "blood", "botany",
  "bread", "butter", "carbon", "cardboard", "cash", "chalk", "chaos", "chess", "crossroads", "countryside", "dancing",
  "deer", "dignity", "dirt", "dust", "economics", "education", "electricity", "engineering", "enjoyment", "envy",
  "equipment", "ethics", "evidence", "evolution", "fame", "fiction", "flour", "flu", "food", "fuel", "fun",
  "furniture", "gallows", "garbage", "garlic", "genetics", "gold", "golf", "gossip", "grammar", "gratitude", "grief",
  "guilt", "gymnastics", "happiness", "hardware", "harm", "hate", "hatred", "health", "heat", "help", "homework",
  "honesty", "honey", "hospitality", "housework", "humour", "hunger", "hydrogen", "ice", "importance", "inflation",
  "information", "innocence", "iron", "irony", "jam", "jewelry", "judo", "karate", "knowledge", "lack", "laughter",
  "lava", "leather", "leisure", "lightning", "linguine", "linguini", "linguistics", "literature", "litter",
  "livestock", "logic", "loneliness", "luck", "luggage", "macaroni", "machinery", "magic", "management", "mankind",
  "marble", "mathematics", "mayonnaise", "measles", "methane", "milk", "money", "mud", "music", "mumps", "nature",
  "news", "nitrogen", "nonsense", "nurture", "nutrition", "obedience", "obesity", "oxygen", "pasta", "patience",
  "physics", "poetry", "pollution", "poverty", "pride", "psychology", "publicity", "punctuation", "quartz", "racism",
  "relaxation", "reliability", "research", "respect", "revenge", "rice", "rubbish", "rum", "safety", "scenery",
  "seafood", "seaside", "series", "shame", "sheep", "shopping", "sleep", "smoke", "smoking", "snow", "soap",
  "software", "soil", "spaghetti", "species", "steam", "stuff", "stupidity", "sunshine", "symmetry", "tennis",
  "thirst", "thunder", "timber", "traffic", "transportation", "trust", "underwear", "unemployment", "unity",
  "validity", "veal", "vegetation", "vegetarianism", "vengeance", "violence", "vitality", "warmth", "wealth",
  "weather", "welfare", "wheat", "wildlife", "wisdom", "yoga", "zinc", "zoology"]

/-- The words with a plural of their own. -/
def irregular : List (String × String) := [
  ("ox", "oxen"), ("man", "men"), ("woman", "women"), ("die", "dice"), ("yes", "yeses"), ("foot", "feet"),
  ("eave", "eaves"), ("goose", "geese"), ("tooth", "teeth"), ("quiz", "quizzes")]

/-- A place of an ending: one letter, a letter of a list, or a letter that is not in a list. -/
inductive Letter where
  | one (c : Char) | among (cs : List Char) | except (cs : List Char)
  deriving DecidableEq, Repr

/-- Whether a character can stand at the place. -/
def Letter.fits : Letter → Char → Bool
  | .one d, c => c == d
  | .among cs, c => cs.contains c
  | .except cs, c => !cs.contains c

/-- Whether a word given last letter first starts with the places given last first. -/
def endsWith : List Letter → List Char → Bool
  | [], _ => true
  | _ :: _, [] => false
  | p :: ps, c :: cs => p.fits c && endsWith ps cs

/-- The places of a text. -/
def spelled (s : String) : List Letter := s.toList.map .one

/-- A rule: a word that ends in one of the stems, followed by one of the endings, loses the ending and gains the
suffix. -/
structure EndingRule where
  stems : List (List Letter)
  endings : List String
  suffix : String

/-- The word without the ending, when the rule fits. The word is given last letter first. -/
def EndingRule.stem? (r : EndingRule) (word : List Char) : Option (List Char) :=
  r.endings.findSome? fun ending =>
    let e := spelled ending
    if r.stems.any fun stem => endsWith (stem ++ e).reverse word then some (word.drop ending.length) else none

/-- A rule whose stems are spelled out. -/
def EndingRule.plain (stems endings : List String) (suffix : String) : EndingRule :=
  ⟨stems.map spelled, endings, suffix⟩

/-- The ending rules; of those that fit, the last one decides. -/
def endingRules : List EndingRule := [
  .plain [""] ["s"] "s",
  ⟨[.except ['a', 'e', 'i', 'o', 'u'] :: spelled "ese"], [""], ""⟩,
  .plain ["ax", "test"] ["is"] "es",
  ⟨[spelled "alias", .except ['a', 'o', 'u'] :: spelled "us", spelled "tlas", spelled "gas", spelled "ris"],
    [""], "es"⟩,
  ⟨[[.one 'e', .among ['m', 'n'], .one 'u']], ["s", ""], "s"⟩,
  ⟨[.except ['l'] :: spelled "ias", .among ['a', 'e', 'i', 'o', 'u'] :: spelled "las",
    .among ['e', 'm', 'j', 'z', 'r'] :: spelled "as", .among ['i', 'u'] :: spelled "am"], [""], ""⟩,
  .plain ["alumn", "syllab", "octop", "vir", "radi", "nucle", "fung", "cact", "stimul", "termin", "bacill", "foc",
    "uter", "loc", "strat"] ["us", "i"] "i",
  .plain ["alumn", "alg", "vertebr"] ["a", "ae"] "ae",
  .plain ["seraph", "cherub"] ["im", ""] "im",
  .plain ["her", "at", "gr"] ["o"] "oes",
  .plain ["agend", "addend", "millenni", "dat", "extrem", "bacteri", "desiderat", "strat", "candelabr", "errat", "ov",
    "symposi", "curricul", "automat", "quor"] ["a", "um"] "a",
  .plain ["apheli", "hyperbat", "periheli", "asyndet", "noumen", "phenomen", "criteri", "organ", "prolegomen", "hedr",
    "automat"] ["a", "on"] "a",
  .plain [""] ["sis"] "ses",
  .plain ["kni", "wi", "li"] ["fe"] "ves",
  .plain ["ar", "l", "ea", "eo", "oa", "hoo"] ["f"] "ves",
  ⟨[[.except ['a', 'e', 'i', 'o', 'u', 'y']], spelled "qu"], ["y"], "ies"⟩,
  ⟨[[.except ['c', 'h'], .among ['i', 'e', 'o'], .among ['l', 'n']]], ["ey"], "ies"⟩,
  .plain ["xes", "ches", "sses", "shes", "zzes"] [""] "",
  .plain ["x", "ch", "ss", "sh", "zz"] [""] "es",
  .plain ["matr", "cod", "mur", "sil", "vert", "ind", "append"] ["ix", "ex"] "ices",
  .plain ["mice", "mouse", "lice", "louse"] [""] "ice",
  .plain ["person", "people"] [""] "ople",
  .plain ["child"] ["ren", ""] "ren",
  .plain ["eaux"] [""] ""]

/-- The plural of a word. -/
def plural (word : String) : String :=
  if uncountable.contains word then word
  else match irregular.lookup word with
    | some p => p
    | none =>
      let letters := word.toList.reverse
      match endingRules.reverse.findSome? fun r => (r.stem? letters).map fun stem => (stem, r.suffix) with
      | some (stem, suffix) => String.ofList stem.reverse ++ suffix
      | none => word ++ "s"

end ModelApi.Text
