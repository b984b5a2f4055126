import Typeahead.Language.Detected
import Typeahead.Proofs.Text.Split
import Typeahead.Proofs.WordList.Naming

/-!
# Codes of detected languages

The code that a detector's answer is joined to, as a cache of word lists takes it. Main
statement: `code_of_three_parts`. A list is looked for if and only if the parts hold ASCII
letters and hyphens and are not all empty, and parts without hyphens can be told apart in
the code again.
-/

namespace Typeahead

open Typeahead.Text
open Typeahead.Resource

/-! ## Joined parts -/

namespace Detected

/-- The code of some parts: those that are not empty, with hyphens between them. -/
def joined (parts : List String) : String :=
  String.ofList (joinWith '-' ((parts.filter (· ≠ "")).map String.toList))

theorem code_eq_joined (shortCode country variant : String) :
    (of shortCode country variant).code = .ok (joined [shortCode, country, variant]) := by
  rw [code_of, joined, joinWith_eq_intercalate]

/-- Some part is not empty, and all of them hold ASCII letters and hyphens only. -/
structure AreProper (parts : List String) : Prop where
  given : ∃ part ∈ parts, part ≠ ""
  plain : ∀ part ∈ parts, ∀ c ∈ part.toList, WordList.IsCodeChar c

variable {parts : List String}

/-- A code is empty if and only if all of its parts are. -/
theorem joined_ne_empty_iff : joined parts ≠ "" ↔ ∃ part ∈ parts, part ≠ "" := by
  rw [joined, Ne, String.ofList_eq_empty_iff]
  constructor
  · intro hne
    by_contra hnone
    have hempty : parts.filter (· ≠ "") = [] := by
      rw [List.filter_eq_nil_iff]
      intro part hpart hgiven
      exact hnone ⟨part, hpart, of_decide_eq_true hgiven⟩
    rw [hempty] at hne
    exact hne rfl
  · rintro ⟨part, hpart, hgiven⟩ hnil
    -- The first part that is joined is not empty.
    have hmem : part ∈ parts.filter (· ≠ "") := List.mem_filter.mpr ⟨hpart, decide_eq_true hgiven⟩
    cases hparts : parts.filter (· ≠ "") with
    | nil =>
        rw [hparts] at hmem
        cases hmem
    | cons first rest =>
        have hfirst : first ≠ "" := by
          have hfiltered : first ∈ parts.filter (· ≠ "") := hparts ▸ List.mem_cons_self
          simpa using List.of_mem_filter hfiltered
        obtain ⟨behind, hbehind⟩ := joinWith_cons '-' (rest.map String.toList)
        rw [hparts, List.map_cons, hbehind] at hnil
        exact hfirst (String.toList_eq_nil_iff.mp (List.append_eq_nil_iff.mp hnil).1)

/-- **A code is well-formed** if and only if its parts are proper. -/
theorem isCode_joined_iff : WordList.isCode (joined parts) = true ↔ AreProper parts := by
  have hplain : (∀ c ∈ (joined parts).toList, WordList.IsCodeChar c) ↔
      ∀ part ∈ parts, ∀ c ∈ part.toList, WordList.IsCodeChar c := by
    rw [joined, String.toList_ofList, forall_mem_joinWith (.inr (.inr rfl)), List.forall_mem_map]
    constructor
    · intro h part hpart c hc
      refine h part (List.mem_filter.mpr ⟨hpart, decide_eq_true ?_⟩) c hc
      rintro rfl
      cases hc
    · intro h part hpart
      exact h part (List.mem_of_mem_filter hpart)
  rw [WordList.isCode_iff, joined_ne_empty_iff, hplain]
  exact ⟨fun ⟨hgiven, hchars⟩ => ⟨hgiven, hchars⟩, fun h => ⟨h.given, h.plain⟩⟩

/-- **Parts without hyphens** are what lies between those of the code. -/
theorem splitOn_joined (hgiven : ∃ part ∈ parts, part ≠ "")
    (hhyphen : ∀ part ∈ parts, '-' ∉ part.toList) :
    ((joined parts).toList.splitOn '-').map String.ofList = parts.filter (· ≠ "") := by
  obtain ⟨part, hpart, hne⟩ := hgiven
  have hmem : part ∈ parts.filter (· ≠ "") := List.mem_filter.mpr ⟨hpart, decide_eq_true hne⟩
  have hpieces : (parts.filter (· ≠ "")).map String.toList ≠ [] :=
    List.ne_nil_of_mem (List.mem_map_of_mem hmem)
  have hapart : ∀ piece ∈ (parts.filter (· ≠ "")).map String.toList, '-' ∉ piece := by
    rw [List.forall_mem_map]
    exact fun other hother => hhyphen other (List.mem_of_mem_filter hother)
  have hsplit := splitOn_joinWith hpieces hapart
  rw [joined, String.toList_ofList, ← splitOn_eq_list_splitOn, hsplit, List.map_map]
  simp [Function.comp_def]

end Detected

/-! ## Caches -/

variable {σ : Type}

/-- A cache without the list of a code asks its loader for the list, if the code is
well-formed, and for nothing else. -/
theorem Cache.calls_get_of_missing {config : Config} {cache : Cache σ} {code name : String}
    (hname : config.nameOf code = .ok name) (hmissing : cache.find? code = none)
    (s : Surroundings σ) :
    Event.calls (cache.get config code s).events =
      if WordList.isCode code then [.load (.text name)] else [] := by
  cases hcode : WordList.isCode code with
  | false =>
      rw [get_of_not_isCode config cache hcode]
      rfl
  | true =>
      rw [get_of_missing config hcode hmissing]
      show Event.calls (readList config cache.loader code s).events = _
      rw [calls_readList, hname]
      rfl

/-- **A detected language and its list.** The code of a detector's answer is well-formed if
and only if its short code, country and variant are not all empty and hold ASCII letters and
hyphens only; these are the codes for which a cache that has no list of them asks its
loader. When no part has a hyphen, the parts that are not empty lie between the hyphens of
the code. -/
theorem Detected.code_of_three_parts (σ : Type) (shortCode country variant : String) :
    ∃ code, (of shortCode country variant).code = .ok code ∧
      (WordList.isCode code = true ↔ AreProper [shortCode, country, variant]) ∧
      (∀ (config : Config) (cache : Cache σ) (s : Surroundings σ) (name : String),
        config.nameOf code = .ok name → cache.find? code = none →
          (Event.calls (cache.get config code s).events = [.load (.text name)] ↔
            AreProper [shortCode, country, variant]) ∧
          (¬ AreProper [shortCode, country, variant] →
            cache.get config code s = ⟨.ok ([], cache), s, []⟩)) ∧
      ((∃ part ∈ [shortCode, country, variant], part ≠ "") →
        (∀ part ∈ [shortCode, country, variant], '-' ∉ part.toList) →
          (code.toList.splitOn '-').map String.ofList =
            [shortCode, country, variant].filter (· ≠ "")) := by
  refine ⟨_, code_eq_joined shortCode country variant, isCode_joined_iff, ?_, splitOn_joined⟩
  intro config cache s name hname hmissing
  rw [Cache.calls_get_of_missing hname hmissing, ← isCode_joined_iff]
  constructor
  · split
    · next hcode => exact iff_of_true rfl hcode
    · next hcode => exact iff_of_false (fun hnil => nomatch hnil) hcode
  · intro hcode
    exact Cache.get_of_not_isCode config cache (Bool.eq_false_iff.mpr hcode) s

/-- A language with a variant and without a country, whose list a new cache looks for. -/
theorem Detected.code_of_three_parts_no_country :
    let cache : Cache Nat := { loader := .memory 0 }
    let s : Surroundings Nat := { host := 0 }
    let config := Config.ofVariables "lists" {}
    (of "de" "" "phonebook").code = .ok "de-phonebook" ∧
    Event.calls (cache.get config "de-phonebook" s).events =
      [.load (.text "completionList.de-phonebook.txt")] ∧
    ("de-phonebook".toList.splitOn '-').map String.ofList = ["de", "phonebook"] := by
  intro cache s config
  obtain ⟨code, hcode, hproper, hloads, hsplit⟩ := code_of_three_parts Nat "de" "" "phonebook"
  have hjoined : (of "de" "" "phonebook").code = .ok "de-phonebook" := by rfl
  obtain rfl := Except.ok.inj (hcode.symm.trans hjoined)
  have hname := Config.nameOf_stock (show config.resourceTemplate = _ from rfl) "de-phonebook"
  refine ⟨hjoined, ?_, ?_⟩
  · exact (hloads config cache s _ hname rfl).1.mpr (hproper.mp (by decide))
  · exact hsplit ⟨"de", by decide, by decide⟩ (by decide)

end Typeahead
