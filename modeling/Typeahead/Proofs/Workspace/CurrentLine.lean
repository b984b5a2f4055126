import Typeahead.Proofs.Document.Between
import Typeahead.Proofs.Workspace.PlainText

/-!
# Only the line before the cursor counts

Two requests on two texts that have nothing in common but what stands on the line
before the cursor. Main statement: `complete_current_line`. The answers are the
same, whatever stands in front of the line and behind the cursor, as long as
something stands behind it; at the end of a text there are no candidates.
-/

namespace Typeahead

open Typeahead.Text
open Typeahead.Document

variable {σ : Type} {front stretch rest : List Char}

/-! ## The word on the line -/

/-- A text that is empty or ends with a line break has no word at its end. -/
theorem not_isWordChar_of_endsLine (h : EndsLine front) :
    ∀ c ∈ front.getLast?, isWordChar c = false := by
  intro c hc
  rcases h c hc with rfl | rfl
  · exact isWordChar_carriageReturn
  · exact isWordChar_lineFeed

/-- The word before the end of a stretch of a line is that at the end of the stretch. -/
theorem wordBefore_between (text : String) (htext : text.toList = front ++ (stretch ++ rest))
    (h : EndsLine front) (hlf : '\n' ∉ stretch) :
    wordBefore text ((lineBehind front (stretch ++ rest) + stretch.length : Nat) : Int) =
      String.ofList (wordAtEnd stretch) := by
  obtain ⟨before, hbefore, -, htake⟩ := exists_take_lineBehind h hlf rest
  have hle := lineBehind_add_le h hlf rest
  rw [← htext] at htake hle
  rw [wordBefore_toList text hle, htake,
    wordAtEnd_append_of_last (not_isWordChar_of_endsLine hbefore)]

namespace Workspace

open Typeahead.Resource

/-! ## One request -/

variable {doc : Document} {w : Workspace σ}

theorem result_complete_between (engine : Engine)
    (hdoc : doc.chars = front ++ (stretch ++ rest)) (h : EndsLine front)
    (hcr : '\r' ∉ stretch) (hlf : '\n' ∉ stretch) (hrest : rest ≠ [])
    (hplain : w.SplitsPlainly doc.languageId)
    (hexplicit : w.config.asksForDetection doc.settings.language = false)
    (hsteady : (w.caches.row engine.cache).loader.Steady w.surroundings) :
    (complete engine doc (Position.of ((Text.lines front).length - 1) (width16 stretch)) w).result =
      w.answerFor engine.cache doc.settings (String.ofList (wordAtEnd stretch)) := by
  have hoffset := offsetAt_between hdoc h hcr hlf
  have hword := wordBefore_between doc.text hdoc h hlf
  have hle := lineBehind_add_le h hlf rest
  rw [← hdoc] at hle
  rcases Nat.lt_or_eq_of_le hle with hlt | hend
  · rw [← hword]
    exact result_complete_of_explicit hplain hexplicit hsteady hoffset hlt
  · -- The rest is the line feed that completes the last break in front.
    have hin : InsidePair (front ++ (stretch ++ rest)) front.length := by
      by_contra hout
      rw [lineBehind, if_neg hout, hdoc, List.length_append, List.length_append] at hend
      have hsome := List.length_pos_of_ne_nil hrest
      omega
    obtain ⟨rfl, -⟩ := stretch_eq_nil_of_insidePair hlf hin
    rw [hend] at hoffset
    rw [result_complete_at_end hplain hoffset]
    exact (answerFor_noWord w engine.cache doc.settings).symm

/-- At the end of its text a document in one fragment has no candidates. -/
theorem result_complete_behind_last (engine : Engine)
    (hdoc : doc.chars = front ++ (stretch ++ [])) (h : EndsLine front)
    (hcr : '\r' ∉ stretch) (hlf : '\n' ∉ stretch)
    (hplain : w.SplitsPlainly doc.languageId) :
    (complete engine doc (Position.of ((Text.lines front).length - 1) (width16 stretch)) w).result =
      .ok [] := by
  have hout : ¬ InsidePair (front ++ (stretch ++ [])) front.length := by
    intro hin
    obtain ⟨-, more, hmore⟩ := stretch_eq_nil_of_insidePair hlf hin
    cases hmore
  have hend : lineBehind front (stretch ++ []) + stretch.length = doc.chars.length := by
    rw [lineBehind, if_neg hout, hdoc, List.append_nil, List.length_append]
  have hoffset := offsetAt_between hdoc h hcr hlf
  rw [hend] at hoffset
  exact result_complete_at_end hplain hoffset

/-! ## Two requests -/

/-- **Only the line before the cursor counts.** Documents in one fragment are
completed behind the same stretch of a line. What stands in front of that line is
empty or ends with a line break. If something follows the stretch in both, the
answers are the same, also when they are faults; where nothing follows it, there
are no candidates. The caches start with the same lists over the same steady
loader. -/
theorem complete_current_line (engine engine' : Engine) (languageId languageId' : Value)
    (settings : Settings) (front front' stretch rest rest' : String) (w w' : Workspace σ)
    (hfront : EndsLine front.toList) (hfront' : EndsLine front'.toList)
    (hcr : '\r' ∉ stretch.toList) (hlf : '\n' ∉ stretch.toList)
    (hplain : w.SplitsPlainly languageId) (hplain' : w'.SplitsPlainly languageId')
    (hexplicit : w.config.asksForDetection settings.language = false)
    (hsteady : (w.caches.row engine.cache).loader.Steady w.surroundings)
    (hconfig : w'.config = w.config)
    (hcache : w'.caches.row engine'.cache = w.caches.row engine.cache)
    (hshelves : w.surroundings.SameShelves w'.surroundings) :
    let line : Int := (Document.lineCount { text := front }) - 1
    let line' : Int := (Document.lineCount { text := front' }) - 1
    let column : Int := width16 stretch.toList
    (rest ≠ "" → rest' ≠ "" →
      (complete engine ⟨front ++ stretch ++ rest, languageId, settings⟩
          (Position.of line column) w).result =
        (complete engine' ⟨front' ++ stretch ++ rest', languageId', settings⟩
          (Position.of line' column) w').result) ∧
      (rest = "" →
        (complete engine ⟨front ++ stretch ++ rest, languageId, settings⟩
          (Position.of line column) w).result = .ok []) := by
  have hchars (front rest : String) (languageId : Value) :
      (Document.mk (front ++ stretch ++ rest) languageId settings).chars =
        front.toList ++ (stretch.toList ++ rest.toList) := by
    rw [Document.chars, String.toList_append, String.toList_append, List.append_assoc]
  have hsteady' : (w'.caches.row engine'.cache).loader.Steady w'.surroundings := by
    rw [hcache]
    exact hsteady.of_sameShelves hshelves
  intro line line' column
  constructor
  · intro hrest hrest'
    have hne {s : String} (h : s ≠ "") : s.toList ≠ [] := by
      intro hnil
      exact h (String.toList_injective hnil)
    have hexplicit' := hexplicit
    rw [← hconfig] at hexplicit'
    have hfirst := result_complete_between engine (hchars front rest languageId) hfront
      hcr hlf (hne hrest) hplain hexplicit hsteady
    have hsecond := result_complete_between engine' (hchars front' rest' languageId')
      hfront' hcr hlf (hne hrest') hplain' hexplicit' hsteady'
    exact hfirst.trans ((answerFor_eq hconfig hcache hsteady hshelves settings _).symm.trans
      hsecond.symm)
  · rintro rfl
    exact result_complete_behind_last engine (hchars front "" languageId) hfront hcr hlf hplain

/-- The line is the second of one text and the first of the other. Where a carriage
return in front meets a line feed behind, the answer is that at the start of any
text. -/
theorem complete_current_line_second :
    let w : Workspace Unit :=
      { bundled := "lists", surroundings := { host := () },
        caches := (Table.filled default).set 0 ⟨.memory 0, [("en", ["trip", "tree"])]⟩ }
    let answer (text : String) (line character : Int) :=
      (complete ⟨0, 0⟩ ⟨text, .text plaintext, Settings.of "en" ["tri"]⟩
        (Position.of line character) w).result
    answer "a tr." 0 4 = .ok ["tri", "trip", "tree"] ∧
      answer "one\r\na tr\r" 1 4 = answer "a tr." 0 4 ∧
      answer "one\r\na tr" 1 4 = .ok [] ∧
      answer "one\r\ntr" 1 0 = answer "tr" 0 0 := by
  intro w answer
  have hline (front front' stretch rest rest' : String) (hfront : EndsLine front.toList)
      (hfront' : EndsLine front'.toList) (hcr : '\r' ∉ stretch.toList)
      (hlf : '\n' ∉ stretch.toList) :=
    complete_current_line ⟨0, 0⟩ ⟨0, 0⟩ (.text plaintext) (.text plaintext)
      (Settings.of "en" ["tri"]) front front' stretch rest rest' w w hfront hfront' hcr hlf
      (splitsPlainly_of_initial rfl rfl) (splitsPlainly_of_initial rfl rfl) (by decide)
      (Loader.steady_load _ _ fun _ hcustom => by cases hcustom) rfl rfl (.refl _)
  have hfeed : EndsLine "one\r\n".toList := fun c hc => .inr (Option.some.inj hc).symm
  have hreturn : EndsLine "one\r".toList := fun c hc => .inl (Option.some.inj hc).symm
  have hnone : EndsLine "".toList := fun c hc => by cases hc
  refine ⟨by decide +kernel, ?_, ?_, ?_⟩
  · exact (hline "one\r\n" "" "a tr" "\r" "." hfeed hnone (by decide) (by decide)).1
      (by decide) (by decide)
  · exact (hline "one\r\n" "" "a tr" "" "" hfeed hnone (by decide) (by decide)).2 rfl
  · exact (hline "one\r" "" "" "\ntr" "tr" hreturn hnone (by decide) (by decide)).1
      (by decide) (by decide)

end Workspace

end Typeahead
