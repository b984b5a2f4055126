import Typeahead.Proofs.Text.Blank
import Typeahead.Proofs.Text.Subpart
import Typeahead.Proofs.WordList.Reading

/-!
# The lines of word lists

A word list is the lines of its resource, without the blanks around the whole. Main
statements: `get_of_text`, by which a list that is written is read back, and
`get_of_lines`, where the octets of any line may be damaged. As octets are cut into
lines where their characters are, damage never leaves its line. What damaged octets are
read as, `Utf8.reads_iff` says.
-/

namespace Typeahead

open Typeahead.Resource
open Typeahead.Text

variable {σ : Type}

namespace WordList

/-! ## The words of a text -/

theorem toList_intercalate_newline (list : List String) :
    ("\n".intercalate list).toList = joinWith '\n' (list.map String.toList) := by
  rw [String.toList_intercalate, joinWith_eq_intercalate]
  rfl

theorem map_toList_map_ofList (pieces : List (List Char)) :
    (pieces.map String.ofList).map String.toList = pieces := by
  have hid : String.toList ∘ String.ofList = id := funext fun _ => String.toList_ofList
  rw [List.map_map, hid, List.map_id]

theorem ofChars_of_trim_eq_nil {cs : List Char} (h : trim cs = []) : ofChars cs = [] :=
  if_pos h

theorem ofChars_of_trim_ne_nil {cs : List Char} (h : trim cs ≠ []) :
    ofChars cs = (splitOn '\n' (trim cs)).map String.ofList :=
  if_neg h

theorem ofChars_eq_nil_iff {cs : List Char} : ofChars cs = [] ↔ ∀ c ∈ cs, isBlank c = true := by
  rw [← trim_eq_nil_iff]
  constructor
  · intro h
    by_contra hne
    rw [ofChars_of_trim_ne_nil hne, List.map_eq_nil_iff] at h
    exact splitOn_ne_nil _ _ h
  · exact ofChars_of_trim_eq_nil

theorem ofChars_of_trim_eq_joinWith {cs : List Char} {pieces : List (List Char)}
    (h : trim cs = joinWith '\n' pieces) (hne : trim cs ≠ [])
    (hfeed : ∀ piece ∈ pieces, '\n' ∉ piece) : ofChars cs = pieces.map String.ofList := by
  have hpieces : pieces ≠ [] := by
    rintro rfl
    exact hne h
  rw [ofChars_of_trim_ne_nil hne, h, splitOn_joinWith hpieces hfeed]

theorem intercalate_ofChars (cs : List Char) :
    "\n".intercalate (ofChars cs) = String.ofList (trim cs) := by
  rw [← String.toList_inj, toList_intercalate_newline, String.toList_ofList]
  by_cases h : trim cs = []
  · rw [ofChars_of_trim_eq_nil h, h]
    rfl
  · rw [ofChars_of_trim_ne_nil h, map_toList_map_ofList, joinWith_splitOn]

theorem newline_not_mem_of_mem_ofChars {cs : List Char} {word : String} (h : word ∈ ofChars cs) :
    '\n' ∉ word.toList := by
  by_cases hnil : trim cs = []
  · rw [ofChars_of_trim_eq_nil hnil] at h
    cases h
  · rw [ofChars_of_trim_ne_nil hnil] at h
    obtain ⟨piece, hpiece, rfl⟩ := List.mem_map.mp h
    rw [String.toList_ofList]
    exact not_mem_of_mem_splitOn hpiece

theorem ofChars_of_joined {list : List String} {before behind : String}
    (hfeed : ∀ word ∈ list, '\n' ∉ word.toList) (hjoined : "\n".intercalate list ≠ "")
    (hhead : ∀ c ∈ ("\n".intercalate list).toList.head?, isBlank c = false)
    (hlast : ∀ c ∈ ("\n".intercalate list).toList.getLast?, isBlank c = false)
    (hbefore : ∀ c ∈ before.toList, isBlank c = true)
    (hbehind : ∀ c ∈ behind.toList, isBlank c = true) :
    ofChars (before ++ "\n".intercalate list ++ behind).toList = list := by
  have hne : ("\n".intercalate list).toList ≠ [] := by
    rwa [Ne, String.toList_eq_nil_iff]
  have htrim : trim (before ++ "\n".intercalate list ++ behind).toList =
      ("\n".intercalate list).toList := by
    rw [String.toList_append, String.toList_append,
      trim_append_append hbefore hbehind hne hhead hlast]
  rw [ofChars_of_trim_eq_joinWith (htrim.trans (toList_intercalate_newline list)) (by rwa [htrim])]
  · have hid : String.ofList ∘ String.toList = id := funext fun _ => String.ofList_toList
    rw [List.map_map, hid, List.map_id]
  · intro piece hpiece
    obtain ⟨word, hword, rfl⟩ := List.mem_map.mp hpiece
    exact hfeed word hword

theorem ofChars_decode_intercalate {lines : List Octets} (hne : lines ≠ [])
    (hfeed : ∀ line ∈ lines, 0x0A ∉ line)
    (hfirst : ∀ line ∈ lines.head?, ∃ c ∈ Utf8.decode line, isBlank c = false)
    (hlast : ∀ line ∈ lines.getLast?, ∃ c ∈ Utf8.decode line, isBlank c = false) :
    ofChars (Utf8.decode ([0x0A].intercalate lines)) =
      (trimOuter (lines.map Utf8.decode)).map String.ofList := by
  have hdecode : Utf8.decode ([0x0A].intercalate lines) =
      joinWith '\n' (lines.map Utf8.decode) := by
    rw [Utf8.decode_intercalate (by decide), joinWith_eq_intercalate]
    rfl
  have htrim : trim (joinWith '\n' (lines.map Utf8.decode)) =
      joinWith '\n' (trimOuter (lines.map Utf8.decode)) :=
    trim_joinWith '\n' (by simpa using hfirst) (by simpa using hlast)
  rw [hdecode]
  refine ofChars_of_trim_eq_joinWith htrim ?_ (not_mem_of_mem_trimOuter ?_)
  · -- The first line is not blank, so the text is not.
    cases lines with
    | nil => exact absurd rfl hne
    | cons first rest =>
        obtain ⟨c, hc, hblank⟩ := hfirst first rfl
        obtain ⟨behind, hbehind⟩ := joinWith_cons '\n' (rest.map Utf8.decode)
        rw [Ne, trim_eq_nil_iff, List.map_cons, hbehind]
        intro hall
        rw [hall c (List.mem_append_left behind hc)] at hblank
        cases hblank
  · intro piece hpiece
    obtain ⟨line, hline, rfl⟩ := List.mem_map.mp hpiece
    exact Utf8.newline_not_mem_decode (hfeed line hline)

end WordList

/-! ## Texts in memory -/

namespace Resource

def Store.Holds (store : Store) (name text : String) : Prop :=
  store.get? (.text name) = some (Utf8.encode text.toList)

theorem Store.get?_add (store : Store) (key : Key) (content : Octets) :
    (store.add key content).get? key = some content := by
  simp [add, get?]

theorem Surroundings.get?_addToStore (id : Nat) (name : String) (content : Octets)
    (s : Surroundings σ) :
    ((addToStore id (.text name) content s).state.stores.row id).get? (.text name) =
      some content := by
  show (((s.stores.set id _).row id).get? _) = _
  rw [Table.row_set_self, Store.get?_add]

end Resource

namespace Cache

/-! ## Lists that are read -/

theorem result_get_of_octets {config : Config} (hencoding : config.encoding = .text "utf-8")
    {code name : String} (hcode : WordList.isCode code = true)
    (hname : config.nameOf code = .ok name) {cache : Cache σ} (hfind : cache.find? code = none)
    {octets : Octets} {s : Surroundings σ}
    (hload : (cache.loader.load (.text name) s).result = .ok (some octets)) :
    (cache.get config code s).result =
      .ok (WordList.ofChars (Utf8.decode octets),
        cache.keep code (WordList.ofChars (Utf8.decode octets))) := by
  have hread : listRead config cache.loader code s =
      .ok (WordList.ofChars (Utf8.decode octets)) := by
    rw [listRead, hname, ← Config.wordsIn_stock hencoding, ← hload]
    rfl
  rw [get_of_missing config hcode hfind, hread]
  rfl

/-- **Damage stays in its line.** Any octets but line feeds may stand in the lines of
a resource, as long as its first line and its last are not blank. The list has a word
for each line, which is what its own octets are read as (`Utf8.reads_iff`); the first has
lost the blanks at its front and the last those at its end. -/
theorem get_of_lines {config : Config} (hencoding : config.encoding = .text "utf-8")
    {code name : String} (hcode : WordList.isCode code = true)
    (hname : config.nameOf code = .ok name) {cache : Cache σ} (hfind : cache.find? code = none)
    {lines : List Octets} (hne : lines ≠ []) (hfeed : ∀ line ∈ lines, 0x0A ∉ line)
    (hfirst : ∀ line ∈ lines.head?, ∃ c ∈ Utf8.decode line, isBlank c = false)
    (hlast : ∀ line ∈ lines.getLast?, ∃ c ∈ Utf8.decode line, isBlank c = false)
    {s : Surroundings σ} (hload : (cache.loader.load (.text name) s).result =
      .ok (some ([0x0A].intercalate lines))) :
    ∃ list, (cache.get config code s).result = .ok (list, cache.keep code list) ∧
      list.length = lines.length ∧
      list = (trimOuter (lines.map Utf8.decode)).map String.ofList := by
  have hwords := WordList.ofChars_decode_intercalate hne hfeed hfirst hlast
  refine ⟨_, result_get_of_octets hencoding hcode hname hfind hload, ?_, hwords⟩
  rw [hwords, List.length_map, length_trimOuter, List.length_map]

/-- A character that is cut off before a line feed, a lone octet and a surrogate. -/
theorem get_of_lines_damaged :
    let lines : List Octets :=
      [[0x20, 0x61, 0xE2, 0x82], [0xC3], [0xED, 0xA0, 0x80, 0x62, 0x20], [0x63, 0x0D, 0x20]]
    let s : Surroundings Unit :=
      (Surroundings.addToStore 0 (.text "completionList.en.txt") ([0x0A].intercalate lines)
        { host := () }).state
    let cache : Cache Unit := ⟨.memory 0, []⟩
    let list := ["a\uFFFD", "\uFFFD", "\uFFFD\uFFFD\uFFFDb ", "c"]
    (cache.get (Config.ofVariables "lists" {}) "en" s).result =
      .ok (list, cache.keep "en" list) := by
  intro lines s cache list
  have hname : (Config.ofVariables "lists" {}).nameOf "en" = .ok "completionList.en.txt" :=
    Config.nameOf_stock rfl "en"
  have hload : (cache.loader.load (.text "completionList.en.txt") s).result =
      .ok (some ([0x0A].intercalate lines)) := by
    rw [Loader.result_load_memory]
    exact congrArg Except.ok (Surroundings.get?_addToStore 0 _ _ _)
  have hfirst : ∀ line ∈ lines.head?, ∃ c ∈ Utf8.decode line, isBlank c = false := by
    rintro line ⟨⟩
    exact ⟨'a', by decide, by decide⟩
  have hlast : ∀ line ∈ lines.getLast?, ∃ c ∈ Utf8.decode line, isBlank c = false := by
    rintro line ⟨⟩
    exact ⟨'c', by decide, by decide⟩
  obtain ⟨read, hget, -, hread⟩ :=
    get_of_lines rfl (by decide) hname rfl (by decide) (by decide) hfirst hlast hload
  have hlist : read = list := by
    rw [hread]
    decide
  rw [hget, hlist]

/-- **A list that is written is read back.** A text that is added to a store is held
there. When the words of a list are joined by line feeds, none is in a word, and
neither end of the joined text is blank, the list is read from it, whatever blanks are
around. Conversely, all octets are read as a list. It is empty only if they are blank;
no word has a line feed in it, and joined again, the words are the trimmed text. -/
theorem get_of_text {config : Config} (hencoding : config.encoding = .text "utf-8")
    {code name : String} (hcode : WordList.isCode code = true)
    (hname : config.nameOf code = .ok name) {cache : Cache σ} (hfind : cache.find? code = none) :
    (∀ (store : Nat) (text : String) (s : Surroundings σ),
      ((Surroundings.addToStore store (.text name) (Utf8.encode text.toList) s).state.stores.row
        store).Holds name text) ∧
    (∀ (store : Nat) (list : List String) (before behind : String) (s : Surroundings σ),
      cache.loader = .memory store →
      (s.stores.row store).Holds name (before ++ "\n".intercalate list ++ behind) →
      (∀ word ∈ list, '\n' ∉ word.toList) → "\n".intercalate list ≠ "" →
      (∀ c ∈ ("\n".intercalate list).toList.head?, isBlank c = false) →
      (∀ c ∈ ("\n".intercalate list).toList.getLast?, isBlank c = false) →
      (∀ c ∈ before.toList, isBlank c = true) → (∀ c ∈ behind.toList, isBlank c = true) →
      (cache.get config code s).result = .ok (list, cache.keep code list)) ∧
    ∀ (octets : Octets) (s : Surroundings σ),
      (cache.loader.load (.text name) s).result = .ok (some octets) →
      ∃ list, (cache.get config code s).result = .ok (list, cache.keep code list) ∧
        (list = [] ↔ ∀ c ∈ Utf8.decode octets, isBlank c = true) ∧
        "\n".intercalate list = String.ofList (trim (Utf8.decode octets)) ∧
        ∀ word ∈ list, '\n' ∉ word.toList := by
  refine ⟨fun store text s => Surroundings.get?_addToStore store name _ s, ?_, ?_⟩
  · intro store list before behind s hloader hholds hfeed hjoined hhead hlast hbefore hbehind
    have hload : (cache.loader.load (.text name) s).result =
        .ok (some (Utf8.encode (before ++ "\n".intercalate list ++ behind).toList)) := by
      rw [hloader, Loader.result_load_memory]
      exact congrArg Except.ok hholds
    rw [result_get_of_octets hencoding hcode hname hfind hload, Utf8.decode_encode,
      WordList.ofChars_of_joined hfeed hjoined hhead hlast hbefore hbehind]
  · intro octets s hload
    exact ⟨_, result_get_of_octets hencoding hcode hname hfind hload, WordList.ofChars_eq_nil_iff,
      WordList.intercalate_ofChars _, fun _ => WordList.newline_not_mem_of_mem_ofChars⟩

/-- A list with an empty word and a carriage return, and blanks of several kinds around it. -/
theorem get_of_text_surrounded :
    let list := ["thé", "", "😀\r", "b"]
    let text := "\u2028 \n" ++ "\n".intercalate list ++ "\x1c\r\n"
    let s : Surroundings Unit :=
      (Surroundings.addToStore 0 (.text "completionList.en.txt") (Utf8.encode text.toList)
        { host := () }).state
    let cache : Cache Unit := ⟨.memory 0, []⟩
    (cache.get (Config.ofVariables "lists" {}) "en" s).result =
      .ok (list, cache.keep "en" list) := by
  intro list text s cache
  have hname : (Config.ofVariables "lists" {}).nameOf "en" = .ok "completionList.en.txt" :=
    Config.nameOf_stock rfl "en"
  have hfind : cache.find? "en" = none := rfl
  have hhead : ∀ c ∈ ("\n".intercalate list).toList.head?, isBlank c = false := by
    have hchar : ("\n".intercalate list).toList.head? = some 't' := by decide
    rw [hchar]
    rintro c ⟨⟩
    decide
  have hlast : ∀ c ∈ ("\n".intercalate list).toList.getLast?, isBlank c = false := by
    have hchar : ("\n".intercalate list).toList.getLast? = some 'b' := by decide
    rw [hchar]
    rintro c ⟨⟩
    decide
  obtain ⟨hadded, hread, -⟩ := get_of_text rfl (by decide) hname hfind
  exact hread 0 list "\u2028 \n" "\x1c\r\n" s rfl (hadded 0 text { host := () }) (by decide)
    (by decide) hhead hlast (List.all_eq_true.mp (by decide)) (List.all_eq_true.mp (by decide))

end Cache

end Typeahead
