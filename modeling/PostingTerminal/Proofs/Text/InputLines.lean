import Mathlib.Data.List.Basic
import PostingTerminal.Proofs.Text.Lines

/-!
# The lines of a text and of its bytes

* `Cut` — a text is cut into lines: each ends with a line feed or with a carriage return and a
  line feed, and the last may lack its ending.
* `cut_iff` — **there is one way to cut a text**, and it gives `lines`.
* `encoded` — the bytes of characters in UTF-8.  A byte below 128 is a character by itself
  (`utf8EncodeChar_cases`), so the bytes of a text are cut where the text is.
* `inputLines_toUTF8` — **the lines of a text's bytes are the text's lines**, all readable.
-/

namespace PostingTerminal.Text

/-! ## Cutting a text -/

/-- **A text cut into lines**, without their endings: a line feed ends a line, a carriage return
just before it goes with it, and what follows the last line feed is a line unless it is empty. -/
inductive Cut : List Char → List (List Char) → Prop
  | none : Cut [] []
  | last {body : List Char} (hbody : '\n' ∉ body) (hne : body ≠ []) : Cut body [body]
  | feed {body rest : List Char} {rows : List (List Char)} (hbody : '\n' ∉ body)
      (hreturn : body.getLast? ≠ some '\r') (hrest : Cut rest rows) :
      Cut (body ++ '\n' :: rest) (body :: rows)
  | returnFeed {body rest : List Char} {rows : List (List Char)} (hbody : '\n' ∉ body)
      (hrest : Cut rest rows) : Cut (body ++ '\r' :: '\n' :: rest) (body :: rows)

/-- A line that is ended comes first, and the others are those of the rest. -/
theorem lines_line_append {body : List Char} (h : '\n' ∉ body) (rest : List Char) :
    lines (body ++ '\n' :: rest) = dropReturn body :: lines rest := by
  have hline := lines_append (endsLine_concat body) rest
  rwa [lines_line h, List.append_assoc, List.singleton_append] at hline

/-- Where there is no carriage return none is dropped. -/
theorem dropReturn_of_ne {body : List Char} (h : body.getLast? ≠ some '\r') :
    dropReturn body = body := if_neg h

/-- A carriage return at the end is dropped. -/
theorem dropReturn_concat (body : List Char) : dropReturn (body ++ ['\r']) = body := by
  simp [dropReturn]

/-- Whatever a text is cut into are its lines. -/
theorem Cut.lines_eq {cs : List Char} {rows : List (List Char)} (h : Cut cs rows) :
    lines cs = rows := by
  induction h with
  | none => rfl
  | last hbody hne => exact lines_unfinished hbody hne
  | feed hbody hreturn _ ih => rw [lines_line_append hbody, dropReturn_of_ne hreturn, ih]
  | @returnFeed body rest rows hbody _ ih =>
    have hfeed : '\n' ∉ body ++ ['\r'] := by simpa using hbody
    have hline := lines_line_append hfeed rest
    rwa [dropReturn_concat, ih, List.append_assoc, List.singleton_append] at hline

/-- A line feed in a text comes behind a line. -/
theorem cut_line {body rest : List Char} (hbody : '\n' ∉ body) (h : Cut rest (lines rest)) :
    Cut (body ++ '\n' :: rest) (lines (body ++ '\n' :: rest)) := by
  rw [lines_line_append hbody]
  by_cases hreturn : body.getLast? = some '\r'
  · obtain ⟨before, rfl⟩ := List.getLast?_eq_some_iff.1 hreturn
    have hbefore : '\n' ∉ before := fun hmem => hbody (List.mem_append_left _ hmem)
    rw [dropReturn_concat, List.append_assoc]
    exact .returnFeed hbefore h
  · rw [dropReturn_of_ne hreturn]
    exact .feed hbody hreturn h

/-- Every text is cut into its lines. -/
theorem cut_lines (cs : List Char) : Cut cs (lines cs) := by
  -- from one line feed to the next
  induction hlength : cs.length using Nat.strongRecOn generalizing cs with
  | ind n ih =>
    subst hlength
    by_cases hmem : '\n' ∈ cs
    · obtain ⟨body, rest, rfl, hbody⟩ := List.eq_append_cons_of_mem hmem
      refine cut_line hbody (ih rest.length ?_ rest rfl)
      rw [List.length_append, List.length_cons]
      omega
    · by_cases hne : cs = []
      · subst hne
        exact .none
      · rw [lines_unfinished hmem hne]
        exact .last hmem hne

/-- **There is one way to cut a text into lines.** -/
theorem cut_iff {cs : List Char} {rows : List (List Char)} : Cut cs rows ↔ lines cs = rows := by
  constructor
  · exact Cut.lines_eq
  · rintro rfl
    exact cut_lines cs

/-! ## Characters and their bytes -/

/-- The bytes of characters in UTF-8. -/
def encoded (cs : List Char) : List UInt8 := cs.flatMap String.utf8EncodeChar

/-- No characters have no bytes. -/
@[simp] theorem encoded_nil : encoded [] = [] := rfl

/-- The bytes of the first character come first. -/
@[simp] theorem encoded_cons (c : Char) (cs : List Char) :
    encoded (c :: cs) = String.utf8EncodeChar c ++ encoded cs := rfl

/-- The bytes of two texts are those of the first and then those of the second. -/
@[simp] theorem encoded_append (cs ds : List Char) :
    encoded (cs ++ ds) = encoded cs ++ encoded ds := List.flatMap_append

/-- The bytes of a string are those of its characters. -/
theorem toUTF8_data (s : String) : s.toUTF8.data.toList = encoded s.toList := by
  rw [String.toUTF8_eq_toByteArray, ← String.utf8Encode_toList, List.utf8Encode,
    List.toList_data_toByteArray]
  rfl

/-- A byte that stands for a number from 128 up. -/
theorem le_toNat_ofNat {n : Nat} (h : 128 ≤ n) (h' : n < 256) : 128 ≤ (UInt8.ofNat n).toNat := by
  rw [UInt8.toNat_ofNat', Nat.mod_eq_of_lt h']
  exact h

/-- **A character is one byte below 128 or several from 128 up.** -/
theorem utf8EncodeChar_cases (c : Char) :
    (c.toNat < 128 ∧ String.utf8EncodeChar c = [UInt8.ofNat c.toNat]) ∨
      ∀ b ∈ String.utf8EncodeChar c, 128 ≤ b.toNat := by
  unfold String.utf8EncodeChar
  dsimp only
  split_ifs with h₁ h₂ h₃
  · exact .inl ⟨Nat.lt_succ_of_le h₁, rfl⟩
  all_goals
    right
    simp only [List.forall_mem_cons]
  · exact ⟨le_toNat_ofNat (by omega) (by omega), le_toNat_ofNat (by omega) (by omega), nofun⟩
  · exact ⟨le_toNat_ofNat (by omega) (by omega), le_toNat_ofNat (by omega) (by omega),
      le_toNat_ofNat (by omega) (by omega), nofun⟩
  · exact ⟨le_toNat_ofNat (by omega) (by omega), le_toNat_ofNat (by omega) (by omega),
      le_toNat_ofNat (by omega) (by omega), le_toNat_ofNat (by omega) (by omega), nofun⟩

/-- The character that a byte below 128 stands for is the only one it is a byte of. -/
theorem eq_of_mem_utf8EncodeChar {c d : Char} (hd : d.toNat < 128)
    (h : UInt8.ofNat d.toNat ∈ String.utf8EncodeChar c) : c = d := by
  have hbyte : (UInt8.ofNat d.toNat).toNat = d.toNat := by
    rw [UInt8.toNat_ofNat', Nat.mod_eq_of_lt (by omega)]
  rcases utf8EncodeChar_cases c with ⟨hc, hone⟩ | hlarge
  · rw [hone, List.mem_singleton] at h
    have hnat := congrArg UInt8.toNat h
    rw [hbyte, UInt8.toNat_ofNat', Nat.mod_eq_of_lt (by omega)] at hnat
    exact Char.toNat_inj.1 hnat.symm
  · have hle := hlarge _ h
    omega

/-- Only a line feed has the byte 10 in it. -/
theorem newline_of_mem {cs : List Char} (h : 10 ∈ encoded cs) : '\n' ∈ cs := by
  obtain ⟨c, hc, hbyte⟩ := List.mem_flatMap.1 h
  have hfeed : c = '\n' := eq_of_mem_utf8EncodeChar (by decide) hbyte
  rwa [← hfeed]

/-- The bytes end with 13 where the characters end with a carriage return. -/
theorem getLast?_encoded {cs : List Char} :
    (encoded cs).getLast? = some 13 ↔ cs.getLast? = some '\r' := by
  rcases List.eq_nil_or_concat cs with rfl | ⟨before, c, rfl⟩
  · simp
  rw [List.concat_eq_append, encoded_append, encoded_cons, encoded_nil, List.append_nil,
    List.getLast?_append_of_ne_nil _ String.utf8EncodeChar_ne_nil, List.getLast?_concat,
    Option.some_inj]
  constructor
  · intro h
    exact eq_of_mem_utf8EncodeChar (by decide) (List.mem_of_getLast? h)
  · rintro rfl
    rfl

/-! ## The lines of the bytes -/

/-- A line without its ending is read back from its bytes. -/
theorem fromUTF8?_encoded (cs : List Char) :
    String.fromUTF8? (ByteArray.mk (encoded cs).toArray) = some (String.ofList cs) := by
  have hbytes : ByteArray.mk (encoded cs).toArray = (String.ofList cs).toByteArray := by
    rw [String.toByteArray_ofList, List.utf8Encode]
    ext1
    rw [List.data_toByteArray]
    rfl
  rw [hbytes]
  unfold String.fromUTF8?
  rw [dif_pos (String.ofList cs).isValidUTF8]
  rfl

/-- A line is decoded from its bytes, a carriage return before its ending left out. -/
theorem decodeLine_encoded (ended : Bool) (cs : List Char) :
    decodeLine ended (encoded cs)
      = some (String.ofList (if ended then dropReturn cs else cs)) := by
  unfold decodeLine
  by_cases hreturn : ended = true ∧ cs.getLast? = some '\r'
  · obtain ⟨rfl, hlast⟩ := hreturn
    obtain ⟨body, rfl⟩ := List.getLast?_eq_some_iff.1 hlast
    have hbytes : encoded (body ++ ['\r']) = encoded body ++ [13] := encoded_append body ['\r']
    simp [hbytes, fromUTF8?_encoded, dropReturn]
  · have hkept : (if ended then dropReturn cs else cs) = cs := by
      cases ended with
      | false => rfl
      | true => exact dropReturn_of_ne fun hlast => hreturn ⟨rfl, hlast⟩
    have hbyte : ¬(ended && (encoded cs).getLast? == some 13) = true := by
      simpa [getLast?_encoded] using hreturn
    rw [hkept, if_neg hbyte, fromUTF8?_encoded]

/-- Bytes other than that of a line feed join the current line. -/
theorem inputLinesFrom_append {body : List UInt8} (h : 10 ∉ body) (current rest : List UInt8) :
    inputLinesFrom current (body ++ rest) = inputLinesFrom (body.reverse ++ current) rest := by
  induction body generalizing current with
  | nil => rfl
  | cons b body ih =>
    obtain ⟨hb, hbody⟩ : 10 ≠ b ∧ 10 ∉ body := by simpa using h
    simp [inputLinesFrom, Ne.symm hb, ih hbody]

/-- The bytes of a line that a line feed ends come first. -/
theorem inputLines_line_append {body : List Char} (h : '\n' ∉ body) (rest : List Char) :
    inputLines (encoded (body ++ '\n' :: rest))
      = some (String.ofList (dropReturn body)) :: inputLines (encoded rest) := by
  have hbyte : 10 ∉ encoded body := fun hmem => h (newline_of_mem hmem)
  have hfeed : encoded ('\n' :: rest) = 10 :: encoded rest := rfl
  rw [encoded_append, hfeed, inputLines, inputLinesFrom_append hbyte, List.append_nil,
    inputLinesFrom, if_pos rfl, List.reverse_reverse, decodeLine_encoded, if_pos rfl]
  rfl

/-- The bytes of an unfinished line are a line if there are any. -/
theorem inputLines_unfinished {body : List Char} (h : '\n' ∉ body) (hne : body ≠ []) :
    inputLines (encoded body) = [some (String.ofList body)] := by
  have hbyte : 10 ∉ encoded body := fun hmem => h (newline_of_mem hmem)
  have hjoin := inputLinesFrom_append hbyte [] []
  rw [List.append_nil, List.append_nil] at hjoin
  obtain ⟨c, cs, rfl⟩ := List.exists_cons_of_ne_nil hne
  obtain ⟨b, bs, hbs⟩ : ∃ b bs, (encoded (c :: cs)).reverse = b :: bs :=
    List.exists_cons_of_ne_nil (by simp)
  rw [inputLines, hjoin, hbs, inputLinesFrom, ← hbs, List.reverse_reverse, decodeLine_encoded]
  · rfl
  · exact List.cons_ne_nil b bs

/-- The bytes of a text that is cut into lines are cut and decoded into the same lines. -/
theorem Cut.inputLines_eq {cs : List Char} {rows : List (List Char)} (h : Cut cs rows) :
    inputLines (encoded cs) = rows.map fun row => some (String.ofList row) := by
  induction h with
  | none => rfl
  | last hbody hne => exact inputLines_unfinished hbody hne
  | feed hbody hreturn _ ih =>
    rw [inputLines_line_append hbody, dropReturn_of_ne hreturn, ih, List.map_cons]
  | @returnFeed body rest rows hbody _ ih =>
    have hfeed : '\n' ∉ body ++ ['\r'] := by simpa using hbody
    have hline := inputLines_line_append hfeed rest
    rwa [dropReturn_concat, ih, List.append_assoc, List.singleton_append] at hline

/-- **The lines of a text's bytes are the text's lines**, and all of them can be read. -/
theorem inputLines_toUTF8 (s : String) :
    inputLines s.toUTF8.data.toList = readableLines s := by
  rw [toUTF8_data, (cut_lines s.toList).inputLines_eq, readableLines, linesOf, List.map_map]
  rfl

end PostingTerminal.Text
