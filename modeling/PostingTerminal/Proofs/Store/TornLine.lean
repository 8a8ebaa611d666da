import PostingTerminal.Proofs.Json.Outline
import PostingTerminal.Proofs.Store.EntryLines

/-!
# Appending behind an unfinished line

An entry is appended to a file as it stands, so behind an unfinished line it is put onto that
line.

* `Entry.isGap_of_scanAll` — a text that ends with that of an entry decodes only if nothing but
  blanks stands before the entry: brackets and quotes that are open there stay open, and behind
  an entry that is complete nothing may follow.
* `Entry.ofText_append_line_eq` — what is read after an append: the entries of the whole lines,
  and the appended one exactly if the unfinished line holds blanks only.
* `Transcript.append_kept_iff` — **an appended entry is added to those before it exactly if the
  file ends with a line feed and blanks**; otherwise it is lost, and so is the entry that the
  unfinished line may have held.
-/

namespace PostingTerminal.Store

open Json (IsGap Level Nesting isSpace)
open Text (unfinished finished finished_append_unfinished endsLine_finished
  newline_not_mem_unfinished finished_of_not_mem unfinished_of_not_mem lines_append lines_line
  lines_unfinished)

namespace Entry

/-! ## An entry behind something else -/

/-- Each member of an entry leaves reading at its depth. -/
theorem isLevel_members : ∀ m ∈ Entry.record.members, m.decode.IsLevel := by
  simp only [Entry.record, List.forall_mem_cons, Json.Member.required]
  exact ⟨Json.isLevel_string.map _, Json.isLevel_string.map _,
    (Json.isLevel_natural "u64").map _, by simp⟩

/-- Between brackets the text of an entry leaves reading where it was. -/
theorem level_compact {e : Entry} (he : e.FitsWord) : Level e.toJson.compact [] := by
  have hscan := entry_reads Json.Layout.compact 0 he e.toJson.compact.length [] []
    (Nat.le_refl _) Json.isGap_nil Json.endsNumber_nil
  rw [List.nil_append, List.append_nil] at hscan
  exact Json.Record.isLevel isLevel_members _ _ _ _ hscan

/-- The text of an entry begins with a bracket and the quote and letter of its first key. -/
theorem compact_eq_cons (e : Entry) : ∃ cs, e.toJson.compact = '{' :: '"' :: 'i' :: cs := by
  simp [Entry.toJson, Json.Value.compact, Json.printString, Json.escapeChar]

/-- In a string the quote of the first key ends the string, and its letter may not follow. -/
theorem follow_quoted_compact (e : Entry) (depth : Nat) :
    (Nesting.quoted depth).follow e.toJson.compact = none := by
  obtain ⟨cs, hcs⟩ := e.compact_eq_cons
  rw [hcs]
  rfl

/-- No escape and nothing behind a closed bracket begins with a bracket. -/
theorem follow_closed_compact (e : Entry) {p : Nesting} (hp : p.next '{' = none) :
    p.follow e.toJson.compact = none := by
  obtain ⟨cs, hcs⟩ := e.compact_eq_cons
  rw [hcs, Nesting.follow, hp]

/-- **Only blanks may stand before an entry** in a text that decodes to one. -/
theorem isGap_of_scanAll {cs : List Char} {e a : Entry} (he : e.FitsWord)
    (h : Entry.record.decoder.scanAll (cs ++ e.toJson.compact) = .ok a) : IsGap cs := by
  have hend := Json.Record.follow_scanAll isLevel_members h
  rw [Nesting.follow_append] at hend
  cases hplace : Nesting.before.follow cs with
  | none => simp [hplace] at hend
  | some p =>
    rw [hplace, Option.bind_some] at hend
    -- From anywhere else the entry cannot be followed, or a bracket stays open behind it.
    cases p with
    | before => exact Nesting.isGap_of_follow_before hplace
    | within depth =>
      rw [level_compact he] at hend
      cases hend
    | quoted depth =>
      rw [follow_quoted_compact] at hend
      cases hend
    | escaped depth =>
      rw [follow_closed_compact e (by simp [Nesting.next])] at hend
      cases hend
    | behind =>
      rw [follow_closed_compact e (by simp [Nesting.next, isSpace])] at hend
      cases hend

/-- Behind blanks an entry is read from its text. -/
theorem scanAll_of_isGap {cs : List Char} (h : IsGap cs) {e : Entry} (he : e.FitsWord) :
    Entry.record.decoder.scanAll (cs ++ e.toJson.compact) = .ok e := by
  have hscan := entry_reads Json.Layout.compact 0 he (cs ++ e.toJson.compact).length cs []
    (by simp [Json.Layout.compact]) h Json.endsNumber_nil
  rw [List.append_nil] at hscan
  unfold Json.Decoder.scanAll
  split
  · next hf => cases hf.symm.trans hscan
  · next hok =>
    cases hok.symm.trans hscan
    rfl

/-- A line with an entry is not blank. -/
theorem allBlank_append_compact (cs : List Char) (e : Entry) :
    Text.allBlank (cs ++ e.toJson.compact) = false := by
  simp [Entry.toJson, Json.Value.compact, Text.allBlank, Text.isBlank]

/-- Behind blanks an entry is read. -/
theorem ofLine?_of_isGap {cs : List Char} (h : IsGap cs) {e : Entry} (he : e.FitsWord) :
    ofLine? (cs ++ e.toJson.compact) = some e := by
  simp [ofLine?, allBlank_append_compact, scanAll_of_isGap h he]

/-- Behind anything else no entry is read. -/
theorem ofLine?_of_not_isGap {cs : List Char} (h : ¬ IsGap cs) {e : Entry} (he : e.FitsWord) :
    ofLine? (cs ++ e.toJson.compact) = none := by
  unfold ofLine?
  rw [allBlank_append_compact]
  split
  · next hf => cases hf
  · split
    · rfl
    · next hscan => exact absurd (isGap_of_scanAll he hscan) h

/-- There is no entry on a line of blanks. -/
theorem ofLine?_gap {cs : List Char} (h : IsGap cs) : ofLine? cs = none := by
  have hblank : Text.allBlank cs = true := by
    apply List.all_eq_true.2
    intro c hc
    have hspace := h c hc
    simp only [isSpace, Bool.or_eq_true, beq_iff_eq] at hspace
    rcases hspace with ((rfl | rfl) | rfl) | rfl <;> decide
  simp [ofLine?, hblank]

/-! ## The entries of a file after an append -/

/-- The entries on one line. -/
theorem filterMap_singleton (cs : List Char) : [cs].filterMap ofLine? = (ofLine? cs).toList := by
  cases h : ofLine? cs <;> simp [h]

/-- The entries of the whole lines of a text. -/
def ofFinished (text : String) : List Entry := ofText (String.ofList (finished text.toList))

/-- The entries of a text are those of its whole lines and that of the unfinished one. -/
theorem ofText_eq (text : String) :
    ofText text = ofFinished text ++ (ofLine? (unfinished text.toList)).toList := by
  have hparts := finished_append_unfinished text.toList
  have hlast : (Text.lines (unfinished text.toList)).filterMap ofLine?
      = (ofLine? (unfinished text.toList)).toList := by
    by_cases hnil : unfinished text.toList = []
    · rw [hnil]
      rfl
    · rw [lines_unfinished (newline_not_mem_unfinished _) hnil, filterMap_singleton]
  rw [ofText, ← hparts, lines_append (endsLine_finished _), List.filterMap_append, hparts, hlast,
    ofFinished, ofText, String.toList_ofList]

/-- The line that an entry is appended to ends with the entry. -/
theorem ofText_append_line_eq (text : String) (e : Entry) :
    ofText (text ++ e.line)
      = ofFinished text ++ (ofLine? (unfinished text.toList ++ e.toJson.compact)).toList := by
  have hparts : (text ++ e.line).toList
      = finished text.toList ++ ((unfinished text.toList ++ e.toJson.compact) ++ ['\n']) := by
    rw [String.toList_append, toList_line, List.append_assoc, ← List.append_assoc (finished _),
      finished_append_unfinished]
  have hline : '\n' ∉ unfinished text.toList ++ e.toJson.compact := by
    simpa using ⟨newline_not_mem_unfinished _, newline_not_mem_compact e⟩
  rw [ofText, hparts, lines_append (endsLine_finished _), List.filterMap_append,
    lines_line hline, dropReturn_append_compact, filterMap_singleton, ofFinished, ofText,
    String.toList_ofList]

/-- An entry that is appended behind blanks is read behind all others. -/
theorem ofText_append_of_isGap {text : String} (h : IsGap (unfinished text.toList)) {e : Entry}
    (he : e.FitsWord) : ofText (text ++ e.line) = ofText text ++ [e] := by
  rw [ofText_append_line_eq, ofText_eq, ofLine?_of_isGap h he, ofLine?_gap h]
  simp

/-- An entry that is appended behind anything else is lost with what stands there. -/
theorem ofText_append_of_not_isGap {text : String} (h : ¬ IsGap (unfinished text.toList))
    {e : Entry} (he : e.FitsWord) : ofText (text ++ e.line) = ofFinished text := by
  rw [ofText_append_line_eq, ofLine?_of_not_isGap h he]
  simp

/-- An entry is read without its line feed, too. -/
theorem ofText_compactText {e : Entry} (he : e.FitsWord) : ofText e.toJson.compactText = [e] := by
  have hne : e.toJson.compact ≠ [] := by
    obtain ⟨cs, hcs⟩ := e.compact_eq_cons
    simp [hcs]
  rw [ofText, Json.Value.compactText, String.toList_ofList,
    lines_unfinished (newline_not_mem_compact e) hne]
  simp [ofLine?_compact he]

end Entry

namespace Transcript

open Entry (ofText ofFinished)

/-- **An appended entry is added to those before it exactly if the file ends with a line feed
and blanks.**  The append is made either way; behind anything else the entry is lost, together
with the one that the unfinished line may have held. -/
theorem append_kept_iff (content : String) {e : Entry} (he : e.FitsWord) :
    let t := Transcript.file (.text content)
    (t.append e).1 = .ok () ∧
    ((∀ limit, (t.append e).2.recent limit = .ok (lastEntries limit (ofText content ++ [e]))) ↔
      IsGap (unfinished content.toList)) ∧
    (¬ IsGap (unfinished content.toList) →
      ∀ limit, (t.append e).2.recent limit = .ok (lastEntries limit (ofFinished content))) := by
  intro t
  have hrecent : ∀ limit, (t.append e).2.recent limit
      = .ok (lastEntries limit (ofText (content ++ e.line))) := fun _ => rfl
  refine ⟨rfl, ⟨fun h => ?_, fun h limit => ?_⟩, fun h limit => ?_⟩
  · by_cases hgap : IsGap (unfinished content.toList)
    · exact hgap
    · have hall := h ((ofText content).length + 1)
      rw [hrecent, Entry.ofText_append_of_not_isGap hgap he, Except.ok.injEq, Entry.ofText_eq] at hall
      have hlength := congrArg List.length hall
      simp only [lastEntries, List.length_drop, List.length_append, List.length_cons,
        List.length_nil] at hlength
      omega
  · rw [hrecent, Entry.ofText_append_of_isGap h he]
  · rw [hrecent, Entry.ofText_append_of_not_isGap h he]

/-- Behind a line feed and blanks the entry is kept. -/
theorem append_kept_behind_blanks :
    let e : Entry := ⟨"b", "2", 2⟩
    ∀ limit, ((Transcript.file (.text "\n \t")).append e).2.recent limit
      = .ok (lastEntries limit [e]) := by
  intro e
  have he : e.FitsWord := by simp [Entry.FitsWord, e, Json.maxWord]
  have hgap : IsGap (unfinished "\n \t".toList) :=
    List.all_eq_true.1 (show [' ', '\t'].all isSpace = true from rfl)
  exact (append_kept_iff "\n \t" he).2.1.2 hgap

/-- Behind a last line that holds an entry but no line feed, both entries are lost. -/
theorem append_loses_entries :
    let a : Entry := ⟨"a", "1", 1⟩
    let b : Entry := ⟨"b", "2", 2⟩
    let t := Transcript.file (.text a.toJson.compactText)
    t.recent 10 = .ok [a] ∧ (t.append b).1 = .ok () ∧ (t.append b).2.recent 10 = .ok [] := by
  intro a b t
  have ha : a.FitsWord := by simp [Entry.FitsWord, a, Json.maxWord]
  have hb : b.FitsWord := by simp [Entry.FitsWord, b, Json.maxWord]
  have hmem : '\n' ∉ a.toJson.compactText.toList := by
    rw [Json.Value.compactText, String.toList_ofList]
    exact Entry.newline_not_mem_compact a
  have hgap : ¬ IsGap (unfinished a.toJson.compactText.toList) := by
    rw [unfinished_of_not_mem hmem, Json.Value.compactText, String.toList_ofList]
    obtain ⟨cs, hcs⟩ := a.compact_eq_cons
    rw [hcs]
    intro h
    exact absurd (h '\x7b' List.mem_cons_self) (by decide)
  refine ⟨?_, rfl, ?_⟩
  · show Except.ok (lastEntries 10 (ofText a.toJson.compactText)) = _
    rw [Entry.ofText_compactText ha]
    rfl
  · show Except.ok (lastEntries 10 (ofText (a.toJson.compactText ++ b.line))) = _
    rw [Entry.ofText_append_of_not_isGap hgap hb, ofFinished, finished_of_not_mem hmem]
    rfl

end Transcript

end PostingTerminal.Store
