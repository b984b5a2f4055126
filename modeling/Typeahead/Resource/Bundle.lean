import Typeahead.Resource.Disk

/-!
# Bundled word lists

The library comes with one word list, of common English words. A host installs
it as a package.
-/

namespace Typeahead.Resource.Bundle

open Typeahead.Text

def english : List String := [
  "a", "about", "above", "across", "after", "again", "against", "all", "almost", "along",
   "already", "also", "although", "always", "among", "an", "and", "another", "any", "anything",
   "are", "around", "as", "at", "back", "be", "because", "become", "been", "before", "being",
   "below", "between", "both", "but", "by", "can", "cannot", "could", "day", "did", "different",
   "do", "does", "done", "down", "during", "each", "early", "either", "enough", "even", "ever",
   "every", "example", "few", "first", "for", "from", "further", "general", "given", "good",
   "great", "had", "has", "have", "he", "her", "here", "high", "him", "his", "how", "however",
   "if", "important", "in", "into", "is", "it", "its", "just", "know", "large", "last", "later",
   "less", "like", "little", "long", "made", "make", "many", "may", "me", "might", "more", "most",
   "much", "must", "my", "never", "new", "no", "not", "nothing", "now", "number", "of", "off",
   "often", "old", "on", "once", "one", "only", "or", "other", "our", "out", "over", "own",
   "part", "people", "place", "point", "possible", "public", "question", "rather", "right",
   "same", "second", "see", "several", "she", "should", "since", "small", "so", "some",
   "something", "still", "such", "system", "take", "than", "that", "the", "their", "them", "then",
   "there", "these", "they", "thing", "think", "this", "those", "though", "three", "through",
   "time", "to", "together", "too", "two", "under", "until", "up", "upon", "us", "use", "used",
   "very", "was", "way", "we", "well", "were", "what", "when", "where", "whether", "which",
   "while", "who", "whole", "why", "will", "with", "within", "without", "word", "work", "world",
   "would", "year", "yet", "you", "your"]

/-- A word list as a file: one word on each line, the last line ended too. -/
def fileOf (words : List String) : Octets :=
  Utf8.encode (words.flatMap fun word => word.toList ++ ['\n'])

def folder : Folder :=
  [("completionList.en.txt", .file (fileOf english))]

end Typeahead.Resource.Bundle
