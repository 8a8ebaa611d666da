import Mathlib.Tactic.SplitIfs
import PostingTerminal.Proofs.Draft.Codec
import PostingTerminal.Proofs.Text.Lines
import PostingTerminal.Store.Transcript

/-!
# Entries as lines of a file

* `Entry.ofLine?_compact` — an entry whose time fits into 64 bits is read back from its text,
  whatever characters its input and output hold.
* `Entry.newline_not_mem_compact` — that text has no line feed, so an entry is one line of the
  file (`Entry.ofText_line`).
* `Entry.ofText_append` — the entries of a text behind whole lines are added to theirs.  An
  entry appended there is read behind them (`Entry.ofText_append_line`), and a line that is no
  entry (`Stray`) changes nothing between whole lines (`Entry.ofText_insert`).
-/

namespace PostingTerminal.Store

open Json (Value Decoder Layout Member maxWord printString escapeChar)
open Text (EndsLine lines lines_append lines_line dropReturn endsLine_concat)

namespace Entry

/-! ## The text of an entry -/

/-- The time of an entry fits into 64 bits. -/
def FitsWord (e : Entry) : Prop := e.time ≤ maxWord

/-- **An entry is read from its text** in any layout. -/
theorem entry_reads (l : Layout) (depth : Nat) {e : Entry} (h : e.FitsWord) :
    Entry.record.decoder.Reads (l.text depth e.toJson) e := by
  let entries : List (Json.Entry Entry.record) := [
    layoutEntry l depth "input" (.string e.input)
      (.required "input" .string fun v e => { e with input := v }) _ rfl
      ((layout_string_reads l (depth + 1) e.input).map _),
    layoutEntry l depth "output" (.string e.output)
      (.required "output" .string fun v e => { e with output := v }) _ rfl
      ((layout_string_reads l (depth + 1) e.output).map _),
    layoutEntry l depth "at" (Value.ofNat e.time)
      (.required "at" (.natural "u64") fun v e => { e with time := v }) _ rfl
      ((layout_natural_reads l (depth + 1) h _).map _)]
  have hread : Entry.record.decoder.Reads (l.text depth e.toJson)
      (Json.Entry.putAll entries Entry.record.blank) :=
    layout_record_reads l depth _ entries rfl ["input", "output", "at"] rfl (by decide) rfl
  exact hread

/-- No character of a string is written as a line feed. -/
theorem newline_not_mem_escapeChar (c : Char) : '\n' ∉ escapeChar c := by
  have hdigit : ∀ n, '\n' ≠ Json.hexDigit n := by
    have hall : ∀ m, m < 16 → '\n' ≠ Nat.digitChar m := by decide
    exact fun n => hall (n % 16) (Nat.mod_lt n (by decide))
  by_cases h : c = '\n'
  · subst h
    decide
  · unfold escapeChar
    split_ifs <;> simp [hdigit, Ne.symm h]

/-- The text of a string has no line feed. -/
theorem newline_not_mem_printString (s : String) : '\n' ∉ printString s := by
  simp [printString, newline_not_mem_escapeChar]

/-- The digits of a number have no line feed among them. -/
theorem newline_not_mem_ofNat (n : Nat) : '\n' ∉ (Value.ofNat n).compact := by
  rw [Json.ofNat_compact]
  intro h
  exact absurd (Nat.isDigit_of_mem_toDigits (by decide) (by decide) h) (by decide)

/-- **The text of an entry has no line feed.** -/
theorem newline_not_mem_compact (e : Entry) : '\n' ∉ e.toJson.compact := by
  have htime := newline_not_mem_ofNat e.time
  simp [Entry.toJson, Value.compact, Json.compactMembers, newline_not_mem_printString, htime]

/-- A line that ends with an entry ends with its bracket, so nothing is taken off the end. -/
theorem dropReturn_append_compact (cs : List Char) (e : Entry) :
    dropReturn (cs ++ e.toJson.compact) = cs ++ e.toJson.compact := by
  have hlast : e.toJson.compact.getLast? = some '}' := by
    simp [Entry.toJson, Value.compact, Json.compactMembers, List.getLast?_cons]
  simp [dropReturn, List.getLast?_append, hlast]

/-- **An entry is read back from its text**, whatever its input and its output are. -/
theorem ofLine?_compact {e : Entry} (h : e.FitsWord) : ofLine? e.toJson.compact = some e := by
  have hblank : Text.allBlank e.toJson.compact = false := by
    simp [Entry.toJson, Value.compact, Text.allBlank, Text.isBlank]
  have hread : Entry.record.decoder.scanAll e.toJson.compact = .ok e :=
    (entry_reads Layout.compact 0 h).scanAll
  simp [ofLine?, hblank, hread]

/-! ## The entries of a file -/

/-- The line of an entry is its text and a line feed. -/
theorem toList_line (e : Entry) : e.line.toList = e.toJson.compact ++ ['\n'] := by
  simp [line, Value.compactText]

/-- An entry leaves no line unfinished. -/
theorem endsLine_line (e : Entry) : EndsLine e.line.toList := by
  rw [toList_line]
  exact endsLine_concat _

/-- **An entry is one line, and is read from it.** -/
theorem ofText_line {e : Entry} (h : e.FitsWord) : ofText e.line = [e] := by
  have hreturn : dropReturn e.toJson.compact = e.toJson.compact := dropReturn_append_compact [] e
  rw [ofText, toList_line, lines_line (newline_not_mem_compact e), hreturn]
  simp [ofLine?_compact h]

/-- **Behind whole lines a text has entries of its own.** -/
theorem ofText_append {a : String} (h : EndsLine a.toList) (b : String) :
    ofText (a ++ b) = ofText a ++ ofText b := by
  rw [ofText, String.toList_append, lines_append h, List.filterMap_append]
  rfl

/-- **An entry behind whole lines is read behind their entries.** -/
theorem ofText_append_line {a : String} (h : EndsLine a.toList) {e : Entry} (he : e.FitsWord) :
    ofText (a ++ e.line) = ofText a ++ [e] := by
  rw [ofText_append h, ofText_line he]

/-- **A line that is no entry**, without its line feed: it is blank, or it does not decode. -/
structure Stray (raw : String) : Prop where
  oneLine : '\n' ∉ raw.toList
  noEntry : Text.allBlank (dropReturn raw.toList) = true
    ∨ ∃ fault, Entry.record.decoder.scanAll (dropReturn raw.toList) = .error fault

/-- There is no entry on a stray line. -/
theorem ofText_stray {raw : String} (h : Stray raw) : ofText (raw ++ "\n") = [] := by
  have hnone : ofLine? (dropReturn raw.toList) = none := by
    unfold ofLine?
    rcases h.noEntry with hblank | ⟨fault, hfault⟩
    · simp [hblank]
    · simp [hfault]
  have hlist : (raw ++ "\n").toList = raw.toList ++ ['\n'] := by simp
  rw [ofText, hlist, lines_line h.oneLine]
  simp [hnone]

/-- A stray line, ended by its line feed, leaves no line unfinished. -/
theorem endsLine_stray (raw : String) : EndsLine (raw ++ "\n").toList := by
  simpa using endsLine_concat raw.toList

/-- **A stray line between whole lines changes no entry.** -/
theorem ofText_insert {a raw : String} (ha : EndsLine a.toList) (hraw : Stray raw) (b : String) :
    ofText (a ++ (raw ++ "\n" ++ b)) = ofText (a ++ b) := by
  rw [ofText_append ha, ofText_append (endsLine_stray raw), ofText_stray hraw, List.nil_append,
    ofText_append ha]

end Entry

end PostingTerminal.Store
