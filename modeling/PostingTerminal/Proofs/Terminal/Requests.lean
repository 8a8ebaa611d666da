import PostingTerminal.Proofs.Json.Layout
import PostingTerminal.Proofs.Terminal.Dispatch

/-!
# A request is executed like the line in it

An input whose first character behind blanks is an opening brace is a request: a JSON object
with the command line as a member.  Whichever way such an object is written, with gaps between
its tokens and escapes inside its strings, the line in it is read back as it was.

* `Carries` — the JSON texts of an object whose only member is a command line.
* `lineOf_of_carries` — the line in such a text is read.
* `request_transparent` — **executing a request is executing its line**: what comes of it, what is
  logged and what becomes of the session are the same.
-/

namespace PostingTerminal.Terminal

open CommandLine (Registry)
open Json

/-- The text of an object with one member, with gaps between its tokens. -/
def oneMember (inner key gap colon value outer : List Char) : List Char :=
  '{' :: (inner ++ (key ++ (gap ++ ':' :: (colon ++ (value ++ (outer ++ ['}']))))))

/-- **The JSON texts of an object whose only member is a command line.**  There may be gaps around
each token, and the key and the line may be written in any way that stands for them. -/
inductive Carries (line : String) : String → Prop
  | intro {before inner key gap colon value outer behind : List Char} (hbefore : IsGap before)
      (hinner : IsGap inner) (hgap : IsGap gap) (hcolon : IsGap colon) (houter : IsGap outer)
      (hbehind : IsGap behind) (hkey : Quotes key "command") (hvalue : Quotes value line) :
      Carries line (String.ofList
        (before ++ (oneMember inner key gap colon value outer ++ behind)))

/-! ## Reading a request -/

/-- What separates the tokens of a JSON text is blank. -/
theorem isBlank_of_isSpace {c : Char} (h : isSpace c = true) : Text.isBlank c = true := by
  simp only [isSpace, Bool.or_eq_true, beq_iff_eq] at h
  rcases h with ((rfl | rfl) | rfl) | rfl <;> decide

/-- A text whose first token is an opening brace is a request. -/
theorem isRequest_brace {before : List Char} (h : IsGap before) (cs : List Char) :
    isRequest (String.ofList (before ++ '{' :: cs)) = true := by
  have htrim : Text.trimStart (before ++ '{' :: cs) = '{' :: cs := by
    rw [Text.trimStart, List.dropWhile_append_of_pos fun c hc => isBlank_of_isSpace (h c hc)]
    exact List.dropWhile_cons_of_neg (by decide)
  rw [isRequest, String.toList_ofList, htrim]
  rfl

/-- A line as the member of a request. -/
def lineEntry {value : List Char} {line : String} (h : Quotes value line) :
    Entry requestRecord where
  key := "command"
  text := value
  put := fun _ => line
  member := .defaulted "command" .string fun v _ => v
  found := rfl
  reads := (string_reads_of_quotes h).map fun v _ => v

/-- A request is read from every text of an object with the line as its member. -/
theorem request_reads {inner key gap colon value outer : List Char} {line : String}
    (hinner : IsGap inner) (hgap : IsGap gap) (hcolon : IsGap colon) (houter : IsGap outer)
    (hkey : Quotes key "command") (hvalue : Quotes value line) :
    requestRecord.decoder.Reads (oneMember inner key gap colon value outer) line := by
  have htaken := (lineEntry hvalue).taken ⟨key, gap, colon, hkey, hgap, hcolon, rfl⟩
  have hrow : Row (Taken requestRecord) '}' true
      (inner ++ ((key ++ (gap ++ ':' :: (colon ++ value))) ++ (outer ++ ['}'])))
      [("command", fun _ => line)] := .item hinner htaken (.close houter)
  have hread : requestRecord.decoder.Reads _ line :=
    record_reads_row hrow ((List.nodup_singleton _).filter _)
      (by simp [requestRecord, Member.defaulted])
  simpa only [oneMember, List.append_assoc, List.cons_append] using hread

/-- **The line in a request is read** as it was. -/
theorem lineOf_of_carries {line raw : String} (h : Carries line raw) : lineOf raw = .ok line := by
  obtain ⟨hbefore, hinner, hgap, hcolon, houter, hbehind, hkey, hvalue⟩ := h
  have hread := (request_reads hinner hgap hcolon houter hkey hvalue).scanAll_gaps hbefore hbehind
  simp only [lineOf, oneMember, List.cons_append, isRequest_brace hbefore, if_true] at hread ⊢
  simp only [Decoder.fromText, String.toList_ofList, hread]

/-! ## Writing a request -/

/-- A request is carried by its text in a layout. -/
theorem carries_layout (l : Layout) (line : String) :
    Carries line (String.ofList (l.text 0 (.object [("command", .string line)]))) := by
  have hcarries := Carries.intro isGap_nil (l.inner_gap 0) isGap_nil l.colon_gap (l.outer_gap 0)
    isGap_nil (quotes_printString "command") (quotes_printString line)
  rw [l.text_object]
  simpa [oneMember, enclosed, enclosedFrom, memberText, l.text_string] using hcarries

/-- A request runs its line. -/
theorem runInput_of_carries {line raw : String} (h : Carries line raw)
    (hline : isRequest line = false) (registry : Registry Action) :
    runInput registry raw = runInput registry line := by
  have hraw : lineOf line = .ok line := by
    rw [lineOf, hline, if_neg Bool.false_ne_true]
  simp only [runInput, lineOf_of_carries h, hraw]

/-- **Executing a request is executing its line.**  For every registry and every line that is no
request itself, whatever characters it is made of: each JSON text of an object with the line as
its only member is executed like the line, in every session.  What comes of it, what is logged
and what is left of the session are the same.  The compact and the pretty text of the object are
two such texts. -/
theorem request_transparent (registry : Registry Action) (line : String)
    (hline : (Text.trimStart line.toList).head? ≠ some '{') :
    (∀ raw, Carries line raw → ∀ s, execute registry raw s = execute registry line s) ∧
      ∀ s, execute registry (Value.object [("command", .string line)]).compactText s
          = execute registry line s ∧
        execute registry (Value.object [("command", .string line)]).prettyText s
          = execute registry line s := by
  have hno : isRequest line = false := beq_eq_false_iff_ne.2 hline
  have hevery : ∀ raw, Carries line raw → ∀ s,
      execute registry raw s = execute registry line s := by
    intro raw h s
    rw [execute_eq, execute_eq, runInput_of_carries h hno]
  exact ⟨hevery, fun s =>
    ⟨hevery _ (carries_layout .compact line) s, hevery _ (carries_layout .pretty line) s⟩⟩

/-- A request whose line is written with the number of a quote, two short escapes and the two
surrogates of a character beyond the basic plane. -/
theorem carries_escapes : Carries "say \"\\\n😀"
    "\x7b \"command\" : \"say \\u0022\\\\\\n\\ud83D\\uDe00\"\x7d\n" := by
  have hquote : IsUnit "0022".toList (Char.toNat '"') :=
    show IsUnit _ (((0 * 16 + 0) * 16 + 2) * 16 + 2) from
      .intro (by decide) (by decide) (by decide) (by decide)
  have hhigh : IsUnit "d83D".toList 0xD83D :=
    show IsUnit _ (((13 * 16 + 8) * 16 + 3) * 16 + 13) from
      .intro (by decide) (by decide) (by decide) (by decide)
  have hlow : IsUnit "De00".toList 0xDE00 :=
    show IsUnit _ (((13 * 16 + 14) * 16 + 0) * 16 + 0) from
      .intro (by decide) (by decide) (by decide) (by decide)
  have hsay : Spelling "say ".toList "say ".toList := spelling_self (by simp)
  have hvalue : Quotes "\"say \\u0022\\\\\\n\\ud83D\\uDe00\"".toList "say \"\\\n😀" :=
    ⟨_, hsay.append (.cons (.unit hquote)
      (.cons (.short (show ('\\', '\\') ∈ shortEscapes by decide))
        (.cons (.short (show ('n', '\n') ∈ shortEscapes by decide))
          (.cons (.pair (by decide) (by decide) (by decide) hhigh hlow) .nil)))), rfl⟩
  have hkey : Quotes "\"command\"".toList "command" := quotes_printString "command"
  have hspace : IsGap [' '] := by simp [IsGap, isSpace]
  have hline : IsGap ['\n'] := by simp [IsGap, isSpace]
  exact .intro isGap_nil hspace hspace hspace isGap_nil hline hkey hvalue

/-- Such a request is executed like the line in it. -/
theorem request_transparent_escapes :
    (Text.trimStart "say \"\\\n😀".toList).head? ≠ some '{' ∧
      execute Terminal.builtins "\x7b \"command\" : \"say \\u0022\\\\\\n\\ud83D\\uDe00\"\x7d\n"
        = execute Terminal.builtins "say \"\\\n😀" :=
  ⟨by decide, funext ((request_transparent _ _ (by decide)).1 _ carries_escapes)⟩

end PostingTerminal.Terminal
