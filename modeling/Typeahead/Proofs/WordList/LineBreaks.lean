import Typeahead.Proofs.WordList.Lines
import Typeahead.Workspace.Completion

/-!
# Word lists with carriage returns

A list whose lines end with a carriage return and a line feed is read with the carriage
returns: they belong to the words, except for what is trimmed behind the last one. Main
statement: `get_of_line_ends`. Only a list of one word is the same with both kinds of
line ends.
-/

namespace Typeahead

open Typeahead.Resource
open Typeahead.Text

namespace WordList

/-- The text of some lines, the last of them with its end or without. -/
def ended (lineEnd : String) (final : Bool) (words : List String) : String :=
  lineEnd.intercalate words ++ if final then lineEnd else ""

/-- The words with a carriage return behind each that another one follows. -/
def returned : List String → List String
  | [] => []
  | [word] => [word]
  | word :: next :: rest => (word ++ "\r") :: returned (next :: rest)

/-! ## Carriage returns -/

/-- A carriage return before a line feed is the end of a word before a line feed. -/
theorem intercalate_returned (words : List String) :
    "\n".intercalate (returned words) = "\r\n".intercalate words := by
  induction words using returned.induct with
  | case1 => rfl
  | case2 word => rw [returned, String.intercalate_singleton, String.intercalate_singleton]
  | case3 word next rest ih =>
    obtain ⟨first, more, hcons⟩ : ∃ first more, returned (next :: rest) = first :: more := by
      cases rest <;> exact ⟨_, _, rfl⟩
    rw [returned, hcons, String.intercalate_cons_cons, ← hcons, ih, String.intercalate_cons_cons,
      @String.append_assoc word]
    rfl

theorem getElem?_returned (words : List String) (i : Nat) :
    (returned words)[i]? =
      words[i]?.map fun word => if i + 1 < words.length then word ++ "\r" else word := by
  induction words using returned.induct generalizing i with
  | case1 => rfl
  | case2 word => cases i <;> rfl
  | case3 word next rest ih =>
    cases i with
    | zero => rw [returned]; simp
    | succ i => rw [returned, List.getElem?_cons_succ, ih i]; simp

theorem length_returned (words : List String) : (returned words).length = words.length := by
  induction words using returned.induct with
  | case1 | case2 => rfl
  | case3 word next rest ih => simp only [returned, List.length_cons, ih]

/-- Only in a list of one word no word has got one. -/
theorem returned_eq_self_iff {words : List String} (hne : words ≠ []) :
    returned words = words ↔ words.length = 1 := by
  induction words using returned.induct with
  | case1 => exact absurd rfl hne
  | case2 word => exact ⟨fun _ => rfl, fun _ => rfl⟩
  | case3 word next rest ih =>
    constructor
    · intro h
      rw [returned] at h
      have hword : word ++ "\r" = word := (List.cons.inj h).1
      rw [String.append_eq_left_iff] at hword
      exact absurd hword (by decide)
    · intro h
      simp at h

theorem mem_returned {words : List String} {candidate : String} (h : candidate ∈ returned words) :
    (∃ word ∈ words, candidate = word ++ "\r") ∨ words.getLast? = some candidate := by
  induction words using returned.induct with
  | case1 => cases h
  | case2 word =>
    obtain rfl := List.mem_singleton.mp h
    exact .inr rfl
  | case3 word next rest ih =>
    rw [returned] at h
    rcases List.mem_cons.mp h with rfl | h
    · exact .inl ⟨word, List.mem_cons_self, rfl⟩
    · rcases ih h with ⟨other, hother, rfl⟩ | hlast
      · exact .inl ⟨other, List.mem_cons_of_mem word hother, rfl⟩
      · exact .inr (by rwa [List.getLast?_cons_cons])

/-! ## Line ends -/

/-- A word that can be on a line of its own: it is not empty, and no blank is in it. -/
structure IsPlain (word : String) : Prop where
  ne_empty : word ≠ ""
  not_blank : ∀ c ∈ word.toList, isBlank c = false

variable {words : List String}

theorem IsPlain.newline_not_mem {word : String} (h : IsPlain word) : '\n' ∉ word.toList := by
  intro hmem
  have hblank := h.not_blank '\n' hmem
  rw [isBlank_newline] at hblank
  cases hblank

theorem IsPlain.toList_ne_nil {word : String} (h : IsPlain word) : word.toList ≠ [] := by
  rw [Ne, String.toList_eq_nil_iff]
  exact h.ne_empty

theorem head?_intercalate (lineEnd : String) (h : ∀ word ∈ words, IsPlain word) :
    ∀ c ∈ (lineEnd.intercalate words).toList.head?, isBlank c = false := by
  intro c hc
  cases words with
  | nil => cases hc
  | cons first rest =>
    have hfirst := h first List.mem_cons_self
    have hhead : (lineEnd.intercalate (first :: rest)).toList.head? = first.toList.head? := by
      cases rest with
      | nil => rw [String.intercalate_singleton]
      | cons next more =>
        rw [String.intercalate_cons_cons, @String.append_assoc first, String.toList_append,
          List.head?_append_of_ne_nil _ hfirst.toList_ne_nil]
    rw [hhead] at hc
    exact hfirst.not_blank c (List.mem_of_head? hc)

theorem getLast?_intercalate (lineEnd : String) (h : ∀ word ∈ words, IsPlain word) :
    ∀ c ∈ (lineEnd.intercalate words).toList.getLast?, isBlank c = false := by
  intro c hc
  obtain rfl | ⟨front, last, rfl⟩ := List.eq_nil_or_concat' words
  · cases hc
  · have hlast := h last (List.mem_append_right front List.mem_cons_self)
    have hend : (lineEnd.intercalate (front ++ [last])).toList.getLast? =
        last.toList.getLast? := by
      by_cases hfront : front = []
      · rw [hfront, List.nil_append, String.intercalate_singleton]
      · rw [String.intercalate_append_of_ne_nil hfront (List.cons_ne_nil _ _),
          String.intercalate_singleton, String.toList_append,
          List.getLast?_append_of_ne_nil _ hlast.toList_ne_nil]
    rw [hend] at hc
    exact hlast.not_blank c (List.mem_of_getLast? hc)

theorem intercalate_ne_empty (lineEnd : String) (hne : words ≠ [])
    (h : ∀ word ∈ words, IsPlain word) : lineEnd.intercalate words ≠ "" := by
  cases words with
  | nil => exact absurd rfl hne
  | cons first rest =>
    have hfirst := h first List.mem_cons_self
    cases rest with
    | nil =>
      rw [String.intercalate_singleton]
      exact hfirst.ne_empty
    | cons next more =>
      rw [String.intercalate_cons_cons, @String.append_assoc first, Ne, String.append_eq_empty_iff]
      exact fun hempty => hfirst.ne_empty hempty.1

theorem ofChars_ended {lineEnd : String} {list : List String} (hne : words ≠ [])
    (h : ∀ word ∈ words, IsPlain word) (hblank : ∀ c ∈ lineEnd.toList, isBlank c = true)
    (hjoined : "\n".intercalate list = lineEnd.intercalate words)
    (hfeed : ∀ word ∈ list, '\n' ∉ word.toList) (final : Bool) :
    ofChars (ended lineEnd final words).toList = list := by
  have hbehind : ∀ c ∈ (if final then lineEnd else "").toList, isBlank c = true := by
    cases final with
    | false => exact fun c hc => absurd hc List.not_mem_nil
    | true => exact hblank
  have hread := @ofChars_of_joined list "" (if final then lineEnd else "") hfeed
    (by rw [hjoined]; exact intercalate_ne_empty lineEnd hne h)
    (by rw [hjoined]; exact head?_intercalate lineEnd h)
    (by rw [hjoined]; exact getLast?_intercalate lineEnd h)
    (fun c hc => absurd hc List.not_mem_nil) hbehind
  rwa [String.empty_append, hjoined] at hread

theorem ofChars_line_feeds (hne : words ≠ []) (h : ∀ word ∈ words, IsPlain word) (final : Bool) :
    ofChars (ended "\n" final words).toList = words :=
  ofChars_ended hne h (List.all_eq_true.mp (by decide)) rfl
    (fun word hword => (h word hword).newline_not_mem) final

theorem ofChars_carriage_returns (hne : words ≠ []) (h : ∀ word ∈ words, IsPlain word)
    (final : Bool) : ofChars (ended "\r\n" final words).toList = returned words := by
  refine ofChars_ended hne h (List.all_eq_true.mp (by decide)) (intercalate_returned words) ?_
    final
  intro candidate hcandidate
  rcases mem_returned hcandidate with ⟨word, hword, rfl⟩ | hlast
  · rw [String.toList_append, List.mem_append]
    rintro (hmem | hmem)
    · exact (h word hword).newline_not_mem hmem
    · exact absurd hmem (by decide)
  · exact (h candidate (List.mem_of_getLast? hlast)).newline_not_mem

end WordList

namespace Cache

variable {σ : Type}

/-- **Line ends of lists.** Words without blanks, one on each line, are read as they are
if line feeds end the lines. If carriage returns stand before the line feeds, they stay
with the words, except behind the last: the list is as long, and every word of it
but the last ends with one. The two lists are the same only if there is one word. -/
theorem get_of_line_ends {config : Config} (hencoding : config.encoding = .text "utf-8")
    {code name : String} (hcode : WordList.isCode code = true)
    (hname : config.nameOf code = .ok name) {cache : Cache σ} (hfind : cache.find? code = none)
    {words : List String} (hne : words ≠ []) (hwords : ∀ word ∈ words, WordList.IsPlain word) :
    (∀ (final : Bool) (s : Surroundings σ), (cache.loader.load (.text name) s).result =
        .ok (some (Utf8.encode (WordList.ended "\n" final words).toList)) →
      (cache.get config code s).result = .ok (words, cache.keep code words)) ∧
    (∀ (final : Bool) (s : Surroundings σ), (cache.loader.load (.text name) s).result =
        .ok (some (Utf8.encode (WordList.ended "\r\n" final words).toList)) →
      (cache.get config code s).result =
        .ok (WordList.returned words, cache.keep code (WordList.returned words))) ∧
    (WordList.returned words).length = words.length ∧
    (∀ i : Nat, (WordList.returned words)[i]? =
      words[i]?.map fun word => if i + 1 < words.length then word ++ "\r" else word) ∧
    (WordList.returned words = words ↔ words.length = 1) ∧
    ∀ (start candidate : String), candidate ∈ startingWith start (WordList.returned words) →
      (∃ word ∈ words, candidate = word ++ "\r") ∨ words.getLast? = some candidate := by
  refine ⟨?_, ?_, WordList.length_returned words, WordList.getElem?_returned words,
    WordList.returned_eq_self_iff hne, ?_⟩
  · intro final s hload
    rw [result_get_of_octets hencoding hcode hname hfind hload, Utf8.decode_encode,
      WordList.ofChars_line_feeds hne hwords]
  · intro final s hload
    rw [result_get_of_octets hencoding hcode hname hfind hload, Utf8.decode_encode,
      WordList.ofChars_carriage_returns hne hwords]
  · intro start candidate hcandidate
    exact WordList.mem_returned (List.mem_of_mem_filter hcandidate)

/-- Three words with both kinds of line ends, once with an end behind the last. -/
theorem get_of_line_ends_three_words :
    let words := ["tea", "trée", "trip"]
    let s (text : String) : Surroundings Unit :=
      (Surroundings.addToStore 0 (.text "completionList.en.txt") (Utf8.encode text.toList)
        { host := () }).state
    let cache : Cache Unit := ⟨.memory 0, []⟩
    let list := ["tea\r", "trée\r", "trip"]
    (∀ word ∈ words, WordList.IsPlain word) ∧
    (cache.get (Config.ofVariables "lists" {}) "en" (s "tea\ntrée\ntrip")).result =
      .ok (words, cache.keep "en" words) ∧
    (cache.get (Config.ofVariables "lists" {}) "en" (s "tea\r\ntrée\r\ntrip\r\n")).result =
      .ok (list, cache.keep "en" list) := by
  intro words s cache list
  have hname : (Config.ofVariables "lists" {}).nameOf "en" = .ok "completionList.en.txt" :=
    Config.nameOf_stock rfl "en"
  have hwords : ∀ word ∈ words, WordList.IsPlain word := by
    have hplain : ∀ word ∈ words, word ≠ "" ∧ word.toList.all (isBlank · = false) = true := by
      decide
    intro word hword
    obtain ⟨hne, hall⟩ := hplain word hword
    exact ⟨hne, fun c hc => of_decide_eq_true (List.all_eq_true.mp hall c hc)⟩
  have hload (text : String) : (cache.loader.load (.text "completionList.en.txt") (s text)).result =
      .ok (some (Utf8.encode text.toList)) := by
    rw [Loader.result_load_memory]
    exact congrArg Except.ok (Surroundings.get?_addToStore 0 _ _ _)
  have hget := @get_of_line_ends Unit _ rfl _ _ (by decide) hname cache rfl words (by decide) hwords
  exact ⟨hwords, hget.1 false _ (hload _), hget.2.1 true _ (hload _)⟩

end Cache

namespace Workspace

/-- A carriage return comes with the word that is completed, though each line of the list
has one word. -/
theorem complete_with_carriage_return :
    let s (text : String) : Surroundings Unit :=
      (Surroundings.addToStore 0 (.text "completionList.en.txt") (Utf8.encode text.toList)
        { host := () }).state
    let w (text : String) : Workspace Unit :=
      { bundled := "lists", surroundings := s text,
        caches := (Table.filled default).set 0 ⟨.memory 0, []⟩ }
    let doc : Document := ⟨"te ", .text plaintext, Settings.of "en" []⟩
    let cache : Cache Unit := ⟨.memory 0, []⟩
    (cache.get (Config.ofVariables "lists" {}) "en" (s "tea\ntree")).result.toOption.map (·.1) =
      some ["tea", "tree"] ∧
    (cache.get (Config.ofVariables "lists" {}) "en" (s "tea\r\ntree")).result.toOption.map (·.1) =
      some ["tea\r", "tree"] ∧
    (complete ⟨0, 0⟩ doc (Position.of 0 2) (w "tea\r\ntree")).result.toOption =
      some ["tea\r"] := by
  decide +kernel

end Workspace

end Typeahead
