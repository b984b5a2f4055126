import Typeahead.Proofs.Word
import Typeahead.Proofs.Workspace.Scanning

/-!
# Requests in parts of a document

Where the fragments of a document are parts of its text, a request looks for the word
before its offset in the document, as far as the fragment that was found reaches back.
Main statement: `complete_word_of_document`. The code of the fragment tells nothing else
about the word.
-/

namespace Typeahead

/-! ## Fragments -/

def Fragment.IsPartOf (f : Fragment) (text : String) : Prop :=
  f.code = partOf text f.start f.stop

/-- A part that covers an offset lies inside the text. -/
theorem Fragment.IsPartOf.bounds {f : Fragment} {text : String} (h : f.IsPartOf text) {o : Nat}
    (hcovers : f.contains o = true) : 0 ≤ f.start ∧ f.stop ≤ text.toList.length := by
  obtain ⟨hstart, hstop⟩ := contains_iff.mp hcovers
  have hlength := congrArg (fun code => code.toList.length) h
  simp only [partOf, String.toList_ofList, Text.segment, List.length_take, List.length_drop]
    at hlength
  have hspan : f.stop = f.start + f.code.toList.length := rfl
  rw [placeIn_of_nonneg text (show 0 ≤ f.stop by omega)] at hlength
  by_cases hneg : f.start < 0
  · omega
  · rw [placeIn_of_nonneg text (Int.not_lt.mp hneg)] at hlength
    omega

theorem Fragment.IsPartOf.wordIn {f : Fragment} {text : String} (h : f.IsPartOf text) {o : Nat}
    (hcovers : f.contains o = true) :
    wordIn f.draft.code (.int (o - f.start)) =
      .ok (.text (lastChars (o - f.start).toNat (wordBefore text o))) := by
  obtain ⟨hzero, hlength⟩ := h.bounds hcovers
  obtain ⟨hstart, hstop⟩ := contains_iff.mp hcovers
  show Typeahead.wordIn (.text f.code) _ = _
  rw [wordIn_text, h, wordBefore_part text hzero hstart (Int.le_of_lt hstop) hlength]

/-- What a part has of the word before an offset is the whole word, unless the part begins
behind the start of that word. -/
theorem lastChars_wordBefore_eq_iff {text : String} {start : Int} {o : Nat} (hstart : start ≤ o) :
    lastChars (o - start).toNat (wordBefore text o) = wordBefore text o ↔
      start ≤ o - (wordBefore text o).toList.length := by
  rw [lastChars_eq_self_iff]
  omega

namespace Workspace

variable {σ : Type}

/-! ## Requests -/

/-- A scan that does not look at the code: it takes the last characters of the word before
an offset of a document, as many as the cursor tells. -/
def scanDocument (doc : Document) (offset : Nat) : Value → Value → Except Fault Value
  | _, .int cursor => .ok (.text (lastChars cursor.toNat (wordBefore doc.text offset)))
  | _, _ => .error .notAWord

/-- What splits a document gives parts of its text, if it gives fragments at all. -/
def SplitsIntoParts (w : Workspace σ) (doc : Document) : Prop :=
  ∀ drafts, (fragmentize doc w).result = .ok drafts →
    ∃ fragments : List Fragment, drafts = fragments.map Fragment.draft ∧
      ∀ f ∈ fragments, f.IsPartOf doc.text

theorem completeScanning_scanDocument {doc : Document} {w : Workspace σ}
    (hparts : w.SplitsIntoParts doc) (engine : Engine) {position : Position} {o : Nat}
    (hoffset : doc.offsetAt position = .ok o) :
    completeScanning (scanDocument doc o) engine doc position w =
      complete engine doc position w := by
  rw [← completeScanning_wordIn]
  refine completeScanning_congr engine doc position fun offset drafts hoffset' hdrafts => ?_
  obtain rfl : o = offset := Except.ok.inj (hoffset.symm.trans hoffset')
  obtain ⟨fragments, hfragments, hpart⟩ := hparts drafts hdrafts
  exact ⟨fragments, hfragments, fun f hmem hcovers => ((hpart f hmem).wordIn hcovers).symm⟩

/-- **Words in parts of a document.** In a part of a text, the word before an offset is
the end of the word before that offset in the text, as much of it as the part has in
front of the offset; what follows the offset, in the part or behind it, does not matter.
So, where the fragments of a document are parts of its text, a request looks for the end
of the word in the document. It is the whole word unless the fragment that was found
begins behind the start of that word, and the request is the same as one that does not
look for the word in the fragment. -/
theorem complete_word_of_document (σ : Type) :
    (∀ (text : String) (a o b : Int), 0 ≤ a → a ≤ o → o ≤ b → b ≤ text.toList.length →
      wordIn (.text text) (.int o) = .ok (.text (wordBefore text o)) ∧
      wordIn (.text (partOf text a b)) (.int (o - a)) =
        .ok (.text (lastChars (min (o - a).toNat (wordBefore text o).toList.length)
          (wordBefore text o))) ∧
      ∀ (other : String) (b' : Int), o ≤ b' → b' ≤ other.toList.length →
        other.toList.take o.toNat = text.toList.take o.toNat →
        wordIn (.text (partOf other a b')) (.int (o - a)) =
          wordIn (.text (partOf text a b)) (.int (o - a))) ∧
    ∀ (engine : Engine) (doc : Document) (position : Position) (w : Workspace σ) (o : Nat),
      doc.offsetAt position = .ok o → w.SplitsIntoParts doc →
      (∀ drafts draft cursor, (fragmentize doc w).result = .ok drafts →
        Draft.locate drafts (.int o) = .ok (some (draft, cursor)) →
        ∃ (f : Fragment) (word : String), draft = f.draft ∧ cursor = .int (o - f.start) ∧
          wordIn draft.code cursor = .ok (.text word) ∧
          word.toList <:+ (wordBefore doc.text o).toList ∧
          (word = wordBefore doc.text o ↔
            f.start ≤ o - (wordBefore doc.text o).toList.length)) ∧
      completeScanning (scanDocument doc o) engine doc position w =
        complete engine doc position w := by
  refine ⟨?_, ?_⟩
  · intro text a o b ha hao hob hb
    refine ⟨wordIn_text text o, ?_, ?_⟩
    · rw [wordIn_text, wordBefore_part text ha hao hob hb, lastChars_min]
    · intro other b' hob' hb' hsame
      rw [wordIn_text, wordIn_text, wordBefore_part other ha hao hob' hb',
        wordBefore_part text ha hao hob hb,
        wordBefore_congr (Int.le_trans ha hao) (Int.le_trans hob hb) hsame]
  · intro engine doc position w o hoffset hparts
    refine ⟨?_, completeScanning_scanDocument hparts engine hoffset⟩
    intro drafts draft cursor hdrafts hlocate
    obtain ⟨fragments, rfl, hpart⟩ := hparts drafts hdrafts
    obtain ⟨f, hmem, hcovers, rfl, rfl⟩ := Fragment.exists_of_locate_draft hlocate
    exact ⟨f, _, rfl, rfl, (hpart f hmem).wordIn hcovers, lastChars_suffix _ _,
      lastChars_wordBefore_eq_iff (Fragment.contains_iff.mp hcovers).1⟩

/-- The second fragment begins inside the word, behind its hyphen. -/
theorem complete_word_of_document_inside :
    let settings := Settings.of "en" ["pre-tea", "tea"]
    let fragments : List Fragment :=
      [⟨.text plaintext, "pre-tea x", 0, settings⟩, ⟨.text plaintext, "tea", 4, settings⟩]
    let splitter : Fragmentizer Unit := .custom fun _ _ => Host.pure (fragments.map Fragment.draft)
    let w : Workspace Unit :=
      { bundled := "lists", surroundings := { host := () },
        fragmentizers := Fragmentizer.initial.register (.text plaintext) (Host.pure splitter) }
    let doc : Document := ⟨"pre-tea x", .text plaintext, settings⟩
    doc.offsetAt (Position.of 0 6) = .ok 6 ∧ w.SplitsIntoParts doc ∧
    wordIn (.text (partOf "pre-tea x" 4 7)) (.int (6 - 4)) =
      .ok (.text (lastChars (min 2 (wordBefore "pre-tea x" 6).toList.length)
        (wordBefore "pre-tea x" 6))) ∧
    lastChars (min 2 (wordBefore "pre-tea x" 6).toList.length) (wordBefore "pre-tea x" 6) = "te" ∧
    completeScanning (scanDocument doc 6) ⟨0, 0⟩ doc (Position.of 0 6) w =
      complete ⟨0, 0⟩ doc (Position.of 0 6) w := by
  intro settings fragments splitter w doc
  have hoffset : doc.offsetAt (Position.of 0 6) = .ok 6 := by decide +kernel
  have hparts : w.SplitsIntoParts doc := by
    have hspans : ∀ f ∈ fragments, f.code = partOf "pre-tea x" f.start f.stop := by
      decide +kernel
    intro drafts hdrafts
    exact ⟨fragments, (Except.ok.inj hdrafts).symm, hspans⟩
  obtain ⟨hword, hcomplete⟩ := complete_word_of_document Unit
  exact ⟨hoffset, hparts,
    (hword "pre-tea x" 4 6 7 (by decide) (by decide) (by decide) (by decide)).2.1,
    by decide +kernel, (hcomplete ⟨0, 0⟩ doc (Position.of 0 6) w 6 hoffset hparts).2⟩

end Workspace

end Typeahead
